import ClientGen.Console.Usage
import ClientGen.Proofs.Console.DryRun
import ClientGen.Proofs.Console.Flags

/-!
# Results do not depend on how much is said

What a command comes to is settled before any of it is said ([found]): its code, its files, and a
result that is a document or lines. A run puts out this result and nothing else on the stream for
results ([Tells]), however much it says on the other one: warnings, errors, files that were left
alone, and details. So two runs that differ in how much they say have the same results
([verbosity_keeps_results]).
-/

namespace ClientGen.Console

open Files

/-! ## Streams -/

/-- The texts that lines put out on the stream for results, where the console draws no table. -/
def outputTexts (lines : List Line) : List String :=
  lines.filterMap fun
    | .result text => some text
    | .usage .result => some usageText
    | _ => none

/-- What is read on the stream for results: every text ends a line. -/
def outputText (lines : List Line) : String :=
  String.join ((outputTexts lines).map (· ++ "\n"))

/-- Whether two runs cannot be told apart by what they leave and put out. -/
structure SameResults (o o' : Outcome) : Prop where
  code : o.code = o'.code
  output : (outputText o.lines).toUTF8 = (outputText o'.lines).toUTF8
  tree : o.tree = o'.tree

/-- Lines that are all diagnostics put out nothing. -/
theorem AllDiagnostic.outputTexts_eq_nil {r : Reporter} {lines : List Line}
    (h : AllDiagnostic r lines) : outputTexts lines = [] := by
  refine List.filterMap_eq_nil_iff.2 fun l hl => ?_
  rcases h l hl with ⟨m, rfl⟩ | ⟨_, look, m, rfl⟩ <;> rfl

/-! ## What a command comes to -/

/-- What a command comes to, before any of it is said. -/
structure Finding where
  code : Nat
  /-- The files as they are left. -/
  tree : FileTree
  /-- The result as a document and as lines. A failure has none. -/
  result : Option (Value × List String) := none
  warnings : List String := []
  /-- The files that were left alone. -/
  skipped : List String := []
  details : List String := []
  error : Option Message := none

/-- The texts that tell what a command comes to. -/
def Finding.texts (f : Finding) (format : Format) : List String :=
  match f.result with
  | none => []
  | some (document, lines) => shown format document lines

/-- A failure. -/
def Finding.failure (tree : FileTree) (f : Failure) : Finding :=
  { code := f.exitCode, tree := tree, error := some f.report }

/-- A table as a result. -/
def tableResult (headers : List String) (rows : List (List String)) : Value × List String :=
  (.list (rows.map (Reporter.rowMap headers)), (headers :: rows).map "\t".intercalate)

/-- A table. -/
def Finding.table (tree : FileTree) (headers : List String) (rows : List (List String)) :
    Finding where
  code := successCode
  tree := tree
  result := some (tableResult headers rows)

/-- The files of a client, to be listed. -/
def Finding.plan (tree : FileTree) (g : Generation) (details : List String) : Finding where
  code := successCode
  tree := tree
  result := some (.list (g.files.map Reporter.planned), g.files.map (·.path))
  warnings := g.warnings
  details := details

/-- The files of a client that were written, and those that were left alone. -/
def Finding.summary (g : Generation) (target : Path) (details : List String) (written : WriteRun) :
    Finding where
  code := successCode
  tree := written.tree
  result := some (Reporter.summaryDocument (summaryOf g written) target, written.written)
  warnings := g.warnings
  skipped := written.skipped
  details := details

/-- What writing the files of a client comes to. -/
def Finding.written (g : Generation) (target : Path) (details : List String) (written : WriteRun) :
    Finding :=
  match written.fault with
  | some fault => { Finding.failure written.tree (.writing fault) with
      warnings := g.warnings
      details := details }
  | none => .summary g target details written

/-- What generating a client comes to. -/
def foundClient (w : World) (q : GenerateRequest) : Finding :=
  match (planned w {} q).2 with
  | .error f => { Finding.failure w.tree f with details := loadedDetails w q }
  | .ok (g, target) =>
    if q.dryRun then .plan w.tree g (loadedDetails w q)
    else .written g target (loadedDetails w q)
      (writeFiles (target.settle w.start) g.files w.tree)

/-- What a command comes to. -/
def found (w : World) : Command → Finding
  | .generate q => foundClient w q
  | .backends =>
    match w.registry.all with
    | .error fault => .failure w.tree (.backend fault)
    | .ok backends => .table w.tree ["Name", "Type", "Help"] (backends.map backendRow)
  | .options backend =>
    match w.registry.get backend with
    | .error fault => .failure w.tree (.backend fault)
    | .ok b =>
      match optionRows b.options with
      | .error fault => .failure w.tree (.text fault)
      | .ok rows => .table w.tree ["Name", "Type", "Default", "Choices", "Description"] rows

/-- How a run says what it has come to. -/
structure Tells (r : Reporter) (f : Finding) (o : Outcome) : Prop where
  code : o.code = f.code
  tree : o.tree = f.tree
  /-- The result stands in one place, and all that is around it are diagnostics. -/
  lines : ∃ before after, AllDiagnostic r before ∧ AllDiagnostic r after ∧
    o.lines = before ++ (f.texts r.format).map .result ++ after
  warnings : ∀ text ∈ f.warnings, r.say .warning ⟨text, .absent⟩ ∈ o.lines
  error : ∀ m ∈ f.error, r.say .error m ∈ o.lines
  /-- A quiet run does not tell which files were left alone. -/
  skipped : r.quiet = false → ∀ path ∈ f.skipped,
    r.say .plain ⟨"Skipped existing file: " ++ path, .absent⟩ ∈ o.lines
  /-- Only a verbose run tells details. -/
  details : r.verbose = true → ∀ text ∈ f.details, r.say .detail ⟨text, .absent⟩ ∈ o.lines

/-! ## Saying it -/

/-- What is said behind a result. -/
structure TellsBehind (r : Reporter) (skipped : List String) (error : Option Message)
    (lines : List Line) : Prop where
  diagnostics : AllDiagnostic r lines
  skipped : r.quiet = false → ∀ path ∈ skipped,
    r.say .plain ⟨"Skipped existing file: " ++ path, .absent⟩ ∈ lines
  error : ∀ m ∈ error, r.say .error m ∈ lines

section
variable {w : World} {r : Reporter} {before after : List Line}

/-- Together with the result this is all. -/
theorem TellsBefore.tells (f : Finding) (hbefore : TellsBefore r f.warnings f.details before)
    (hafter : TellsBehind r f.skipped f.error after) :
    Tells r f ⟨f.code, before ++ (f.texts r.format).map .result ++ after, f.tree⟩ where
  code := rfl
  tree := rfl
  lines := ⟨before, after, hbefore.diagnostics, hafter.diagnostics, rfl⟩
  warnings text ht := List.mem_append_left _ (List.mem_append_left _ (hbefore.warnings text ht))
  error m hm := List.mem_append_right _ (hafter.error m hm)
  skipped hquiet path hp := List.mem_append_right _ (hafter.skipped hquiet path hp)
  details hverbose text ht :=
    List.mem_append_left _ (List.mem_append_left _ (hbefore.details hverbose text ht))

/-- A failure is said after anything else. -/
theorem TellsBefore.tells_failed (hcolored : r.colored = false) {warnings details : List String}
    (hbefore : TellsBefore r warnings details before) (tree : FileTree) (fault : Failure) :
    Tells r { Finding.failure tree fault with warnings := warnings, details := details }
      (failed w r before tree fault) := by
  have hafter : TellsBehind r [] (some fault.report)
      (r.error fault.report ++ r.log fault.records) :=
    { diagnostics := (allDiagnostic_error r _).append (allDiagnostic_log r _)
      skipped := fun _ => List.forall_mem_nil _
      error := fun m hm => by
        cases hm
        exact List.mem_append_left _ List.mem_cons_self }
  have htells := hbefore.tells
    { Finding.failure tree fault with warnings := warnings, details := details } hafter
  rw [failed_of_takes ((allDiagnostic_error r _).takes hcolored w)]
  rwa [Finding.texts, Finding.failure, List.map_nil, List.append_nil, ← List.append_assoc] at htells

/-- A failure that nothing reports but the run itself ends it in the same way. -/
theorem TellsBefore.tells_ended (hcolored : r.colored = false) {warnings details : List String}
    (hbefore : TellsBefore r warnings details before) (tree : FileTree) (fault : Failure) :
    Tells r { Finding.failure tree fault with warnings := warnings, details := details }
      (ended w r before tree fault) := by
  have htakes := (allDiagnostic_error r fault.report).takes hcolored w
  rw [ended_of_takes htakes, ← failed_of_takes htakes]
  exact hbefore.tells_failed hcolored tree fault

end

/-! ## Every command -/

section
variable (w : World) (r : Reporter)

/-- A table is said as its result, if the console does not draw it. -/
theorem table_eq (hformat : r.format ≠ .rich) (title : String) (headers : List String)
    (rows : List (List String)) : r.table title headers rows =
      (shown r.format (tableResult headers rows).1 (tableResult headers rows).2).map .result := by
  have hlines : (headers :: rows).flatMap (fun cells => r.emit ("\t".intercalate cells)) =
      ((headers :: rows).map "\t".intercalate).map .result := by
    rw [List.map_map]
    exact List.map_eq_flatMap.symm
  unfold Reporter.table shown tableResult
  cases hr : r.format with
  | json => rfl
  | plain => exact hlines
  | rich => exact absurd hr hformat

/-- Listing something says it. -/
theorem tells_table (hformat : r.format ≠ .rich) (title : String) (headers : List String)
    (rows : List (List String)) : Tells r (.table w.tree headers rows)
      (finished w r (registryLines w r) w.tree (r.table title headers rows)) := by
  have hnothing : TellsBehind r [] none [] :=
    { diagnostics := List.forall_mem_nil _
      skipped := fun _ => List.forall_mem_nil _
      error := fun m hm => nomatch hm }
  rw [table_eq r hformat, finished_of_takes (takes_results w _),
    ← List.append_nil (registryLines w r ++ _)]
  exact (tellsBefore_registryLines w r).tells (.table w.tree headers rows) hnothing

section
variable {w r} (hcolored : r.colored = false) {g : Generation} {target : Path}
  {details : List String} {before : List Line}
include hcolored

/-- A dry run says its plan, and behind it how many files there are. -/
theorem TellsBefore.tells_plan (hbefore : TellsBefore r g.warnings details before)
    (tree : FileTree) :
    Tells r (.plan tree g details) (finished w r before tree (r.filePlan g.files target)) := by
  have hbehind (text : String) : TellsBehind r [] none (r.info text) :=
    { diagnostics := allDiagnostic_info r text
      skipped := fun _ => List.forall_mem_nil _
      error := fun _ hm => nomatch hm }
  rw [finished_of_takes (takes_filePlan w hcolored _ _), filePlan_eq, ← List.append_assoc]
  exact hbefore.tells (.plan tree g details) (hbehind _)

/-- A run says which files it has written, and behind them which ones it has left alone. -/
theorem TellsBefore.tells_written (hbefore : TellsBefore r g.warnings details before)
    (written : WriteRun) :
    Tells r (.written g target details written)
      (match written.fault with
        | some fault => failed w r before written.tree (.writing fault)
        | none => finished w r before written.tree
            (r.runSummary (summaryOf g written) target)) := by
  unfold Finding.written
  cases written.fault with
  | some fault => exact hbefore.tells_failed hcolored written.tree (.writing fault)
  | none =>
    have hbehind (text : String) : TellsBehind r written.skipped none
        (written.skipped.flatMap (fun path => r.info ("Skipped existing file: " ++ path)) ++
          r.success text) :=
      { diagnostics := allDiagnostic_behindSummary r _ text
        skipped := fun hquiet path hp => by
          refine List.mem_append_left _ (List.mem_flatMap.2 ⟨path, hp, ?_⟩)
          rw [Reporter.info, hquiet]
          exact List.mem_cons_self
        error := fun _ hm => nomatch hm }
    dsimp only
    rw [finished_of_takes (takes_runSummary w hcolored _ _), runSummary_eq, ← List.append_assoc]
    exact hbefore.tells (.summary g target details written) (hbehind _)

/-- A run that generates a client says what this comes to. -/
theorem tells_runGenerate (q : GenerateRequest) :
    Tells r (foundClient w q) (runGenerate w r q) := by
  have hbefore := tellsBefore_planned w r q
  have hupTo := World.upTo_of_takes (hbefore.diagnostics.takes hcolored w)
  unfold foundClient runGenerate
  rw [planned_snd w {} q r, hupTo]
  generalize planned w r q = p at hbefore ⊢
  rcases p with ⟨lines, fault | ⟨g, target⟩⟩
  · exact hbefore.tells_failed hcolored w.tree fault
  · dsimp only at hbefore ⊢
    cases q.dryRun with
    | true => exact hbefore.tells_plan hcolored w.tree
    | false => exact (hbefore.append (allDiagnostic_log r _)).tells_written hcolored _

end

/-- A run of a command says what the command comes to, if it asks for no colours and no tables. -/
theorem tells_runCommand {v : Verbosity} (hcolored : (w.reporter v).colored = false)
    (hformat : (w.reporter v).format ≠ .rich) (command : Command) :
    Tells (w.reporter v) (found w command) (runCommand w v command) := by
  have hregistry := tellsBefore_registryLines w (w.reporter v)
  cases command with
  | generate q => exact tells_runGenerate hcolored q
  | backends =>
    dsimp only [found, runCommand, runBackends]
    cases w.registry.all with
    | error fault => exact hregistry.tells_ended hcolored w.tree (.backend fault)
    | ok backends => exact tells_table w _ hformat _ _ _
  | options backend =>
    dsimp only [found, runCommand, runOptions]
    cases w.registry.get backend with
    | error fault => exact hregistry.tells_failed hcolored w.tree (.backend fault)
    | ok b =>
      dsimp only
      cases optionRows b.options with
      | error fault => exact hregistry.tells_failed hcolored w.tree (.text fault)
      | ok rows => exact tells_table w _ hformat _ _ _

end

/-! ## What is put out -/

/-- A run that says what a command comes to puts out its result and nothing else. -/
theorem Tells.outputTexts_eq {r : Reporter} {f : Finding} {o : Outcome} (h : Tells r f o) :
    outputTexts o.lines = f.texts r.format := by
  obtain ⟨before, after, hbefore, hafter, hlines⟩ := h.lines
  have hresult (texts : List String) : outputTexts (texts.map .result) = texts := by
    rw [outputTexts, List.filterMap_map]
    exact List.filterMap_some
  have happend (lines more : List Line) :
      outputTexts (lines ++ more) = outputTexts lines ++ outputTexts more := List.filterMap_append
  rw [hlines, happend, happend, hbefore.outputTexts_eq_nil, hafter.outputTexts_eq_nil, hresult,
    List.nil_append, List.append_nil]

/-- Two runs that say the same in one format have the same results. -/
theorem Tells.sameResults {r r' : Reporter} {f : Finding} {o o' : Outcome} (h : Tells r f o)
    (h' : Tells r' f o') (hformat : r.format = r'.format) : SameResults o o' where
  code := h.code.trans h'.code.symm
  output := by rw [outputText, outputText, h.outputTexts_eq, h'.outputTexts_eq, hformat]
  tree := h.tree.trans h'.tree.symm

/-- A row of a table can be read back, if the headers differ. -/
theorem plain_rowMap {headers : List String} (h : headers.Nodup) {depth : Nat}
    (row : List String) : Json.Plain (depth + 1) (Reporter.rowMap headers row) := by
  have hkeys : (((headers.zip row).map fun e => (e.1, Value.text e.2)).map (·.1)).Nodup := by
    have hprefix : (headers.zip row).map Prod.fst =
        headers.take (min headers.length row.length) := by
      rw [List.zip_eq_zip_take_min, List.map_fst_zip]
      simp
    rw [List.map_map]
    exact hprefix ▸ h.sublist (List.take_sublist _ _)
  have hrow : Assoc.ofList ((headers.zip row).map fun e => (e.1, Value.text e.2)) =
      (headers.zip row).map fun e => (e.1, Value.text e.2) := by
    refine Assoc.ofList_eq_self ((List.pairwise_map.1 hkeys).imp fun hne => ?_)
    exact beq_eq_false_iff_ne.2 hne
  have hmap : Reporter.rowMap headers row =
      Reporter.textMap ((headers.zip row).map fun e => (e.1, Value.text e.2)) :=
    congrArg Reporter.textMap hrow
  rw [hmap]
  refine .map hkeys fun e he => ?_
  obtain ⟨cell, -, rfl⟩ := List.mem_map.1 he
  exact .text cell.2

/-- So can a table. -/
theorem plain_tableResult {headers : List String} (h : headers.Nodup)
    (rows : List (List String)) : Json.Plain Json.deepest (tableResult headers rows).1 := by
  refine .list fun v hv => ?_
  obtain ⟨row, -, rfl⟩ := List.mem_map.1 hv
  exact plain_rowMap h row

/-- Whether a success has a result whose document can be read back. -/
def Finding.Readable (f : Finding) : Prop :=
  f.code = successCode →
    ∃ document lines, f.result = some (document, lines) ∧ Json.Plain Json.deepest document

/-- A failure is no success. -/
theorem readable_failure {f : Finding} (tree : FileTree) (fault : Failure)
    (h : f.code = (Finding.failure tree fault).code) : f.Readable :=
  fun hcode => absurd (h.symm.trans hcode) (exitCode_ne_successCode fault)

/-- The plan of a client can be read back. -/
theorem readable_plan (tree : FileTree) (g : Generation) (details : List String) :
    (Finding.plan tree g details).Readable := by
  refine fun _ => ⟨_, _, rfl, .list fun v hv => ?_⟩
  obtain ⟨f, -, rfl⟩ := List.mem_map.1 hv
  exact plain_planned f

/-- So can what is told about a client that was written. -/
theorem readable_written (g : Generation) (target : Path) (details : List String)
    (written : WriteRun) : (Finding.written g target details written).Readable := by
  unfold Finding.written
  cases written.fault with
  | some fault => exact readable_failure written.tree (.writing fault) rfl
  | none => exact fun _ => ⟨_, _, rfl, plain_summaryDocument _ target⟩

/-- So can what any command comes to. -/
theorem readable_found (w : World) (command : Command) : (found w command).Readable := by
  cases command with
  | generate q =>
    dsimp only [found, foundClient]
    rcases (planned w {} q).2 with fault | ⟨g, target⟩
    · exact readable_failure w.tree fault rfl
    · dsimp only
      cases q.dryRun with
      | true => exact readable_plan w.tree g _
      | false => exact readable_written g target _ _
  | backends =>
    dsimp only [found]
    cases w.registry.all with
    | error fault => exact readable_failure w.tree (.backend fault) rfl
    | ok backends => exact fun _ => ⟨_, _, rfl, plain_tableResult (by decide) _⟩
  | options backend =>
    dsimp only [found]
    cases w.registry.get backend with
    | error fault => exact readable_failure w.tree (.backend fault) rfl
    | ok b =>
      dsimp only
      cases optionRows b.options with
      | error fault => exact readable_failure w.tree (.text fault) rfl
      | ok rows => exact fun _ => ⟨_, _, rfl, plain_tableResult (by decide) _⟩

/-- In the format for documents a run that succeeds puts out one document. -/
theorem Tells.exists_document {w : World} {command : Command} {r : Reporter} {o : Outcome}
    (h : Tells r (found w command) o) (hformat : r.format = .json) (hcode : o.code = successCode) :
    ∃ document lines, (found w command).result = some (document, lines) ∧
      Json.read (outputText o.lines) = .ok document := by
  obtain ⟨document, lines, hresult, hplain⟩ := readable_found w command (h.code.symm.trans hcode)
  refine ⟨document, lines, hresult, ?_⟩
  have htext : outputText o.lines = Json.write document ++ "\n" := by
    rw [outputText, h.outputTexts_eq, hformat, Finding.texts, hresult]
    exact String.empty_append
  rw [htext]
  exact Json.read_write_append hplain rfl

/-- For every command line that forbids colours and asks for a document or for lines: without the
flags for how much is said, a run ends with the same code, puts out the same bytes and leaves the
same files. A command says its diagnostics on the other stream only, and if it succeeds and is asked
for a document, then what it puts out is one. Arguments that make no sense put out nothing. -/
theorem verbosity_keeps_results (w : World) {args : List String} (h : AsksPlainly args) :
    SameResults (run w args) (run w (withoutVerbosity args)) ∧
    (∀ v command, Invocation.of args = .run v command →
      ((w.reporter v).format = .json ∨ (w.reporter v).format = .plain) ∧
      Tells (w.reporter v) (found w command) (run w args) ∧
      ("--json" ∈ leadingOptions args → (run w args).code = successCode →
        ∃ document lines, (found w command).result = some (document, lines) ∧
          Json.read (outputText (run w args).lines) = .ok document)) ∧
    ∀ fault, Invocation.of args = .misuse fault → outputTexts (run w args).lines = [] := by
  have hmuted : run w (withoutVerbosity args) = runInvocation w (Invocation.of args).muted := by
    rw [run, of_withoutVerbosity h.withoutVerbosity_ne_nil]
  have hformat (v : Verbosity) {format : Format} (hv : v.format = some format) :
      (w.reporter v).format = format := by
    rw [World.reporter, Reporter.of, hv]
    rfl
  have hplain {v : Verbosity} {command : Command} (hrun : Invocation.of args = .run v command) :
      (w.reporter v).format = .json ∨ (w.reporter v).format = .plain :=
    (h.format_cases hrun).imp (hformat v) (hformat v)
  have htells {v : Verbosity} {command : Command} (hrun : Invocation.of args = .run v command)
      (v' : Verbosity) (hsame : v'.noColor = v.noColor ∧ v'.format = v.format) :
      Tells (w.reporter v') (found w command) (runCommand w v' command) := by
    have hcolored : (w.reporter v').colored = false := by
      rw [World.reporter, Reporter.of, hsame.1, h.noColor_eq hrun]
      rfl
    have hnotRich : (w.reporter v').format ≠ .rich := by
      rcases h.format_cases hrun with hv | hv <;>
        rw [hformat v' (hsame.2.trans hv)] <;> exact fun heq => nomatch heq
    exact tells_runCommand w hcolored hnotRich command
  refine ⟨?_, ?_, ?_⟩
  · rw [hmuted, run]
    cases hrun : Invocation.of args with
    | run v command =>
      exact (htells hrun v ⟨rfl, rfl⟩).sameResults (htells hrun v.muted ⟨rfl, rfl⟩) rfl
    | _ => exact ⟨rfl, rfl, rfl⟩
  · intro v command hrun
    have hsaid : Tells (w.reporter v) (found w command) (run w args) := by
      rw [run, hrun]
      exact htells hrun v ⟨rfl, rfl⟩
    refine ⟨hplain hrun, hsaid, fun hjson hcode => ?_⟩
    exact hsaid.exists_document (hformat v (format_of_json hjson hrun)) hcode
  · intro fault hmisuse
    rw [run, hmisuse]
    rfl

/-- A world without files. -/
def emptyWorld : World := { tree := .empty, start := [], fetch := fun _ => .failed "no network" }

/-- Listing the backends as a document, with both flags in one argument. -/
theorem verbosity_keeps_results_backends :
    SameResults (run emptyWorld ["--json", "-qv", "--no-color", "backends"])
        (run emptyWorld ["--json", "--no-color", "backends"]) ∧
      ∃ document,
        Json.read (outputText (run emptyWorld ["--json", "-qv", "--no-color", "backends"]).lines) =
          .ok document := by
  obtain ⟨hsame, htells, -⟩ := verbosity_keeps_results emptyWorld
    (show AsksPlainly ["--json", "-qv", "--no-color", "backends"] by decide)
  have hwithout : withoutVerbosity ["--json", "-qv", "--no-color", "backends"] =
      ["--json", "--no-color", "backends"] := by decide
  have hinvocation : Invocation.of ["--json", "-qv", "--no-color", "backends"] =
      .run ⟨some .json, true, true, true⟩ .backends := by decide
  have hcode : (run emptyWorld ["--json", "-qv", "--no-color", "backends"]).code = successCode := by
    rw [run, hinvocation]
    rfl
  obtain ⟨document, -, -, hread⟩ := (htells _ _ hinvocation).2.2 (by decide) hcode
  rw [hwithout] at hsame
  exact ⟨hsame, document, hread⟩

end ClientGen.Console
