import ClientGen.Proofs.Console.Refusals

/-!
# Diagnostics of a run

Everything that a reporter says beside a result goes to the stream for diagnostics
([AllDiagnostic]), and is left to the console only if colours are allowed. Up to its files a run
says only such things ([tellsBefore_planned]): its warnings, and the details if they are asked for.
Which files it comes to does not depend on what it says ([planned_snd]). A plan or a summary is one
result in the asked format with diagnostics behind it ([filePlan_eq], [runSummary_eq]).
-/

namespace ClientGen.Console

open Files

/-! ## Lines -/

/-- Whether all lines are diagnostics of a reporter. -/
def AllDiagnostic (r : Reporter) (lines : List Line) : Prop :=
  ∀ l ∈ lines, (∃ m, l = .diagnostic m) ∨ r.colored = true ∧ ∃ look m, l = .styled look m

section
variable {r : Reporter} {lines more : List Line}

theorem AllDiagnostic.append (h : AllDiagnostic r lines) (hmore : AllDiagnostic r more) :
    AllDiagnostic r (lines ++ more) :=
  List.forall_mem_append.2 ⟨h, hmore⟩

theorem allDiagnostic_flatMap {α : Type} {f : α → List Line} (h : ∀ x, AllDiagnostic r (f x))
    (items : List α) : AllDiagnostic r (items.flatMap f) := by
  intro l hl
  obtain ⟨x, -, hx⟩ := List.mem_flatMap.1 hl
  exact h x l hx

/-- Without colours the console has no say in them. -/
theorem AllDiagnostic.takes (h : AllDiagnostic r lines) (hcolored : r.colored = false) (w : World) :
    w.Takes lines := by
  refine World.takes_of_not_laidOut fun l hl => ?_
  rcases h l hl with ⟨m, rfl⟩ | ⟨hcolors, _⟩
  · rfl
  · cases hcolored.symm.trans hcolors

end

section
variable (r : Reporter)

/-- What a reporter says is a diagnostic of it. -/
theorem allDiagnostic_say (look : Look) (m : Message) : AllDiagnostic r [r.say look m] := by
  refine List.forall_mem_singleton.2 ?_
  unfold Reporter.say
  split
  · next hcolored => exact .inr ⟨hcolored, look, m, rfl⟩
  · exact .inl ⟨_, rfl⟩

theorem allDiagnostic_info (text : String) : AllDiagnostic r (r.info text) := by
  unfold Reporter.info
  split
  · exact List.forall_mem_nil _
  · exact allDiagnostic_say r _ _

theorem allDiagnostic_success (text : String) : AllDiagnostic r (r.success text) := by
  unfold Reporter.success
  split
  · exact List.forall_mem_nil _
  · exact allDiagnostic_say r _ _

theorem allDiagnostic_warning (text : String) : AllDiagnostic r (r.warning text) :=
  allDiagnostic_say r _ _

theorem allDiagnostic_error (m : Message) : AllDiagnostic r (r.error m) :=
  allDiagnostic_say r _ _

theorem allDiagnostic_debug (text : String) : AllDiagnostic r (r.debug text) := by
  unfold Reporter.debug
  split
  · exact allDiagnostic_say r _ _
  · exact List.forall_mem_nil _

theorem allDiagnostic_progress (text : String) : AllDiagnostic r (r.progress text) := by
  unfold Reporter.progress
  split
  · exact allDiagnostic_say r _ _
  · exact List.forall_mem_nil _

theorem allDiagnostic_log (records : List Log.Record) : AllDiagnostic r (r.log records) := by
  intro l hl
  obtain ⟨record, -, rfl⟩ := List.mem_map.1 hl
  exact .inl ⟨_, rfl⟩

/-- What is logged is not left to the console. -/
theorem takes_log (w : World) (records : List Log.Record) : w.Takes (r.log records) :=
  World.takes_of_not_laidOut fun l hl => by
    obtain ⟨record, -, rfl⟩ := List.mem_map.1 hl
    rfl

end

/-! ## Results -/

/-- The texts that tell a result in a format. -/
def shown (format : Format) (document : Value) (lines : List String) : List String :=
  match format with
  | .json => [Json.write document]
  | _ => lines

/-- The number of files that a dry run tells. -/
def countText (files : List GeneratedFile) (target : Path) : String :=
  "Dry run: " ++ toString files.length ++ " file(s) would be written to " ++ target.text

section
variable (w : World) (r : Reporter)

/-- Results are not left to the console. -/
theorem takes_results (texts : List String) : w.Takes (texts.map .result) :=
  World.takes_of_not_laidOut fun l hl => by
    obtain ⟨text, -, rfl⟩ := List.mem_map.1 hl
    rfl

/-- A document or paths are said as they are. -/
theorem paths_eq (document : Value) (paths : List String) :
    (match r.format with
      | .json => r.emitJson document
      | _ => r.paths paths) = (shown r.format document paths).map .result := by
  unfold shown
  cases r.format with
  | json => rfl
  | plain | rich => exact List.map_eq_flatMap.symm

/-- A plan is said as its result, with the number of files behind it. -/
theorem filePlan_eq (files : List GeneratedFile) (target : Path) : r.filePlan files target =
    (shown r.format (.list (files.map Reporter.planned)) (files.map (·.path))).map .result ++
      r.info (countText files target) :=
  congrArg (· ++ _) (paths_eq r _ _)

/-- So is a summary, with the files that were left alone. -/
theorem runSummary_eq (s : Reporter.Summary) (target : Path) : r.runSummary s target =
    (shown r.format (Reporter.summaryDocument s target) s.written).map .result ++
      (s.skipped.flatMap (fun path => r.info ("Skipped existing file: " ++ path)) ++
        r.success ("Generated " ++ toString s.written.length ++ " file(s) in " ++ target.text)) := by
  rw [← List.append_assoc]
  exact congrArg (· ++ _ ++ _) (paths_eq r _ _)

/-- Of a plan the number of files alone is left to the console. -/
theorem takes_filePlan_iff {files : List GeneratedFile} {target : Path} :
    w.Takes (r.filePlan files target) ↔ w.Takes (r.info (countText files target)) := by
  rw [filePlan_eq, World.takes_append, and_iff_right (takes_results w _)]

/-- Behind a summary stand diagnostics. -/
theorem allDiagnostic_behindSummary (skipped : List String) (text : String) :
    AllDiagnostic r (skipped.flatMap (fun path => r.info ("Skipped existing file: " ++ path)) ++
      r.success text) :=
  (allDiagnostic_flatMap (fun _ => allDiagnostic_info r _) _).append (allDiagnostic_success r text)

variable {r} (hcolored : r.colored = false)
include hcolored

/-- Without colours no plan is refused. -/
theorem takes_filePlan (files : List GeneratedFile) (target : Path) :
    w.Takes (r.filePlan files target) :=
  (takes_filePlan_iff w r).2 ((allDiagnostic_info r _).takes hcolored w)

/-- Nor is a summary. -/
theorem takes_runSummary (s : Reporter.Summary) (target : Path) :
    w.Takes (r.runSummary s target) := by
  rw [runSummary_eq, World.takes_append]
  exact ⟨takes_results w _, (allDiagnostic_behindSummary r _ _).takes hcolored w⟩

end

/-! ## Up to the files of a client -/

/-- What is said before a result. -/
structure TellsBefore (r : Reporter) (warnings details : List String) (lines : List Line) :
    Prop where
  diagnostics : AllDiagnostic r lines
  warnings : ∀ text ∈ warnings, r.say .warning ⟨text, .absent⟩ ∈ lines
  details : r.verbose = true → ∀ text ∈ details, r.say .detail ⟨text, .absent⟩ ∈ lines

/-- Diagnostics that are no warnings may come at the end. -/
theorem TellsBefore.append {r : Reporter} {warnings details : List String}
    {before after : List Line} (hbefore : TellsBefore r warnings details before)
    (hafter : AllDiagnostic r after) : TellsBefore r warnings details (before ++ after) where
  diagnostics := hbefore.diagnostics.append hafter
  warnings text ht := List.mem_append_left _ (hbefore.warnings text ht)
  details hverbose text ht := List.mem_append_left _ (hbefore.details hverbose text ht)

/-- The warnings of a run up to its files. -/
def warningsOf : Except Failure (Generation × Path) → List String
  | .error _ => []
  | .ok (g, _) => g.warnings

section
variable (w : World) (r : Reporter) (q : GenerateRequest)

/-- The files that a run comes to do not depend on what it says. -/
theorem planned_snd (r' : Reporter) : (planned w r q).2 = (planned w r' q).2 := by
  unfold planned
  cases w.registry.get q.backend with
  | error fault => rfl
  | ok b =>
    dsimp only
    cases Api.load w.setOrder w.tree w.start w.input w.fetch q.input with
    | error fault => rfl
    | ok d =>
      dsimp only
      cases collect w.setOrder b.options w.tree w.start w.environment q.pairs
          (q.config.map Path.ofText) with
      | error fault => rfl
      | ok raw =>
        dsimp only
        cases generate d b raw <;> rfl

/-- The details about the description of a client, if it was loaded. -/
def loadedDetails : List String :=
  match w.registry.get q.backend,
    Api.load w.setOrder w.tree w.start w.input w.fetch q.input with
  | .ok _, .ok d => [loadedText d]
  | _, _ => []

/-- What is said about the backends is no result. -/
theorem tellsBefore_registryLines : TellsBefore r [] [] (registryLines w r) where
  diagnostics := allDiagnostic_log r _
  warnings := List.forall_mem_nil _
  details _ := List.forall_mem_nil _

/-- Up to its files a run says its warnings and details, and puts out nothing. -/
theorem tellsBefore_planned :
    TellsBefore r (warningsOf (planned w r q).2) (loadedDetails w q) (planned w r q).1 := by
  have hregistry := tellsBefore_registryLines w r
  unfold planned loadedDetails
  cases w.registry.get q.backend with
  | error fault => exact hregistry
  | ok b =>
    dsimp only
    cases Api.load w.setOrder w.tree w.start w.input w.fetch q.input with
    | error fault => exact hregistry
    | ok d =>
      have hloaded : TellsBefore r [] [loadedText d]
          (registryLines w r ++ r.debug (loadedText d)) :=
        { diagnostics := hregistry.diagnostics.append (allDiagnostic_debug r _)
          warnings := List.forall_mem_nil _
          details := fun hverbose text ht => by
            rw [List.mem_singleton.1 ht, Reporter.debug, if_pos hverbose]
            exact List.mem_append_right _ List.mem_cons_self }
      dsimp only
      cases collect w.setOrder b.options w.tree w.start w.environment q.pairs
          (q.config.map Path.ofText) with
      | error fault => exact hloaded
      | ok raw =>
        dsimp only
        have hprogress := allDiagnostic_progress r ("Rendering with backend '" ++ b.name ++ "'...")
        have hrendered := (hloaded.append hprogress).append
          (allDiagnostic_log r (generationRecords d b raw))
        cases generate d b raw with
        | error fault => exact hrendered
        | ok g =>
          exact {
            diagnostics := hrendered.diagnostics.append
              (allDiagnostic_flatMap (allDiagnostic_warning r) _)
            warnings := fun text ht => List.mem_append_right _
              (List.mem_flatMap.2 ⟨text, ht, List.mem_cons_self⟩)
            details := fun hverbose text ht =>
              List.mem_append_left _ (hrendered.details hverbose text ht) }

end

end ClientGen.Console
