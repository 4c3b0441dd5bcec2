import ClientGen.Proofs.Backend.Discovery
import ClientGen.Proofs.Console.Streams
import ClientGen.Proofs.Files.Writing
import ClientGen.Proofs.Generation.Files
import ClientGen.Proofs.Json.RoundTrip

/-!
# Dry runs

What a run prints as its result is read by scripts: paths, one in a line, or one document
([listedPaths?], [writtenPaths?]). A dry run lists the files that come of the templates, while the
run itself reports those that were written. So the two agree exactly if every file that must not
replace anything finds nothing in its place when its turn comes ([dryRun_compares]). Of a JAX-RS
client this is the build file alone, which is left alone if there is something in its place.
-/

namespace ClientGen.Console

open Files

/-! ## What a script reads -/

/-- The texts that lines put out as results. -/
def resultTexts (lines : List Line) : List String :=
  lines.filterMap fun
    | .result text => some text
    | _ => none

/-- The document that lines put out, if that is all they do. -/
def document? (lines : List Line) : Option Value :=
  match resultTexts lines with
  | [text] => (Json.read text).toOption
  | _ => none

/-- The texts of a list of texts. -/
def texts? : Value → Option (List String)
  | .list items => items.mapM fun
    | .text s => some s
    | _ => none
  | _ => none

/-- The path of a file in a plan. -/
def plannedPath? : Value → Option String
  | .map entries => (Value.field? entries "path").bind fun
    | .text s => some s
    | _ => none
  | _ => none

/-- The paths that a dry run lists. -/
def listedPaths? (format : Format) (o : Outcome) : Option (List String) :=
  match format with
  | .json => (document? o.lines).bind fun
    | .list items => items.mapM plannedPath?
    | _ => none
  | _ => some (resultTexts o.lines)

/-- The paths that a run reports as written. -/
def writtenPaths? (format : Format) (o : Outcome) : Option (List String) :=
  match format with
  | .json => (document? o.lines).bind fun
    | .map entries => (Value.field? entries "written").bind texts?
    | _ => none
  | _ => some (resultTexts o.lines)

/-! ## Lines -/

section
variable (r : Reporter)

@[simp] theorem resultTexts_append (lines more : List Line) :
    resultTexts (lines ++ more) = resultTexts lines ++ resultTexts more :=
  List.filterMap_append

/-- Results are put out as they are. -/
@[simp] theorem resultTexts_results (texts : List String) :
    resultTexts (texts.map .result) = texts := by
  rw [resultTexts, List.filterMap_map]
  exact List.filterMap_some

/-- Diagnostics are no results. -/
theorem AllDiagnostic.resultTexts_eq_nil {r : Reporter} {lines : List Line}
    (h : AllDiagnostic r lines) : resultTexts lines = [] := by
  refine List.filterMap_eq_nil_iff.2 fun l hl => ?_
  rcases h l hl with ⟨m, rfl⟩ | ⟨_, look, m, rfl⟩ <;> rfl

/-- Up to its files a run puts out no results. -/
theorem resultTexts_planned (w : World) (q : GenerateRequest) :
    resultTexts (planned w r q).1 = [] :=
  (tellsBefore_planned w r q).diagnostics.resultTexts_eq_nil

end

/-! ## Documents -/

/-- Texts are read back from the list of them. -/
theorem texts?_textList (texts : List String) :
    texts? (Reporter.textList texts) = some texts := by
  rw [Reporter.textList, texts?, List.mapM_map]
  exact List.mapM_pure.trans (congrArg some (List.map_id texts))

theorem plain_textList {depth : Nat} (texts : List String) :
    Json.Plain (depth + 1) (Reporter.textList texts) := by
  refine .list fun v hv => ?_
  obtain ⟨text, _, rfl⟩ := List.mem_map.1 hv
  exact .text text

/-- The plan of some files can be read back. -/
theorem plain_planned {depth : Nat} (f : GeneratedFile) :
    Json.Plain (depth + 1) (Reporter.planned f) := by
  refine .map (by simp) fun e he => ?_
  simp only [List.mem_cons, List.not_mem_nil, or_false] at he
  rcases he with rfl | rfl
  · exact .text f.path
  · exact .bool f.overwrite

/-- And so can a summary. -/
theorem plain_summaryDocument {depth : Nat} (s : Reporter.Summary) (target : Path) :
    Json.Plain (depth + 2) (Reporter.summaryDocument s target) := by
  refine .map (by simp) fun e he => ?_
  simp only [List.mem_cons, List.not_mem_nil, or_false] at he
  rcases he with rfl | rfl | rfl | rfl | rfl
  · exact .text s.backend
  · exact .text target.text
  · exact plain_textList s.written
  · exact plain_textList s.skipped
  · exact plain_textList s.warnings

section
variable {format : Format} {o : Outcome}

/-- The paths of a plan are those of its files. -/
theorem listedPaths?_of_plan {files : List GeneratedFile} (h : resultTexts o.lines =
      shown format (.list (files.map Reporter.planned)) (files.map (·.path))) :
    listedPaths? format o = some (files.map (·.path)) := by
  have hpaths : (files.map Reporter.planned).mapM plannedPath? = some (files.map (·.path)) := by
    rw [List.mapM_map]
    exact List.mapM_pure
  have hread : Json.read (Json.write (.list (files.map Reporter.planned))) =
      .ok (.list (files.map Reporter.planned)) := by
    refine Json.read_write (.list fun v hv => ?_)
    obtain ⟨f, _, rfl⟩ := List.mem_map.1 hv
    exact plain_planned f
  cases format with
  | json => simp [listedPaths?, document?, h, shown, hread, Except.toOption, hpaths]
  | plain | rich => exact congrArg some h

/-- The paths of a summary are those that were written. -/
theorem writtenPaths?_of_summary (s : Reporter.Summary) (target : Path)
    (h : resultTexts o.lines = shown format (Reporter.summaryDocument s target) s.written) :
    writtenPaths? format o = some s.written := by
  have hread : Json.read (Json.write (Reporter.summaryDocument s target)) =
      .ok (Reporter.summaryDocument s target) := Json.read_write (plain_summaryDocument s target)
  have hfield : (match Reporter.summaryDocument s target with
      | .map entries => (Value.field? entries "written").bind texts?
      | _ => none) = some s.written := texts?_textList s.written
  cases format with
  | json => simpa [writtenPaths?, document?, h, shown, hread, Except.toOption] using hfield
  | plain | rich => exact congrArg some h

end

/-! ## Runs -/

section
variable {w : World} {r : Reporter} {lines last : List Line} {tree : FileTree}

/-- A failure that ends a run puts out no results. -/
theorem resultTexts_ended (f : Failure) :
    resultTexts (ended w r lines tree f).lines = resultTexts lines := by
  have hreport : AllDiagnostic r (r.error f.report ++ r.log f.records) :=
    (allDiagnostic_error r _).append (allDiagnostic_log r _)
  unfold ended
  split
  · rw [resultTexts_append]
    exact List.append_nil _
  · rw [List.append_assoc, resultTexts_append, hreport.resultTexts_eq_nil, List.append_nil]

/-- Nor do diagnostics that come last, whether or not the console refuses one of them. -/
theorem resultTexts_finished (texts : List String) (hlast : AllDiagnostic r last) :
    resultTexts (finished w r lines tree (texts.map .result ++ last)).lines =
      resultTexts lines ++ texts := by
  have hsaid : AllDiagnostic r (w.said last).1 := by
    rcases World.said_cases w last with ⟨_, hsaid⟩ | ⟨told, l, rest, words, rfl, _, _, hsaid⟩
    · rwa [hsaid]
    · rw [hsaid]
      exact fun l hl => hlast l (List.mem_append_left _ hl)
  have htold : resultTexts (lines ++ (texts.map .result ++ (w.said last).1)) =
      resultTexts lines ++ texts := by
    rw [resultTexts_append, resultTexts_append, resultTexts_results, hsaid.resultTexts_eq_nil,
      List.append_nil]
  rw [finished, World.said_append_of_takes (takes_results w texts)]
  cases (w.said last).2 with
  | none => exact htold
  | some words => exact (resultTexts_ended _).trans htold

end

section
variable {w : World} {r : Reporter} {q : GenerateRequest} {lines : List Line} {g : Generation}
  {target : Path}

/-- A run that succeeds comes to its files and writes them without a fault, and the console refuses
nothing on the way. -/
theorem exists_planned_of_success
    (h : (runGenerate w r { q with dryRun := false }).code = successCode) :
    ∃ lines g target, planned w r q = (lines, .ok (g, target)) ∧ w.Takes lines ∧
      (writeFiles (target.settle w.start) g.files w.tree).fault = none ∧
      w.Takes (r.runSummary
        (summaryOf g (writeFiles (target.settle w.start) g.files w.tree)) target) := by
  have hsame : planned w r { q with dryRun := false } = planned w r q := rfl
  unfold runGenerate at h
  rw [hsame] at h
  split at h
  · exact absurd h code_failed_ne
  · next lines g target hupTo =>
    obtain ⟨htakes, hplanned⟩ := World.upTo_eq_ok hupTo
    rw [hplanned] at htakes
    refine ⟨lines, g, target, hplanned, htakes, ?_⟩
    simp only [Bool.false_eq_true, if_false] at h
    split at h
    · exact absurd h code_failed_ne
    · next hfault => exact ⟨hfault, code_finished_iff.1 h⟩

/-- A dry run says what would be written. -/
theorem runGenerate_dry (h : planned w r q = (lines, .ok (g, target))) (htakes : w.Takes lines) :
    runGenerate w r { q with dryRun := true } =
      finished w r lines w.tree (r.filePlan g.files target) := by
  have hsame : planned w r { q with dryRun := true } = planned w r q := rfl
  rw [runGenerate, hsame, World.upTo_of_takes (h ▸ htakes), h]
  rfl

/-- The run itself says what was written. -/
theorem runGenerate_real (h : planned w r q = (lines, .ok (g, target))) (htakes : w.Takes lines)
    {run : WriteRun} (hrun : writeFiles (target.settle w.start) g.files w.tree = run)
    (hfault : run.fault = none) (hsummary : w.Takes (r.runSummary (summaryOf g run) target)) :
    runGenerate w r { q with dryRun := false } =
      ⟨successCode, lines ++ r.log (run.decisions.map (·.logRecord)) ++
        r.runSummary (summaryOf g run) target, run.tree⟩ := by
  have hsame : planned w r { q with dryRun := false } = planned w r q := rfl
  rw [runGenerate, hsame, World.upTo_of_takes (h ▸ htakes), h]
  simp only [Bool.false_eq_true, if_false, hrun, hfault]
  exact finished_of_takes hsummary

/-- How a dry run compares with the run itself, which succeeds and has some files to write. -/
structure DryRunCompares (w : World) (r : Reporter) (q : GenerateRequest) (target : Path)
    (files : List GeneratedFile) : Prop where
  /-- The dry run succeeds, unless the console refuses the number of files, which it can only where
  colours are allowed. -/
  succeeds : (r.colored = true → w.Takes (r.info (countText files target))) →
    (runGenerate w r { q with dryRun := true }).code = successCode
  refused : ¬w.Takes (r.info (countText files target)) →
    (runGenerate w r { q with dryRun := true }).code ≠ successCode
  /-- It leaves all files as they are. -/
  untouched : (runGenerate w r { q with dryRun := true }).tree = w.tree
  /-- It lists every file. -/
  listed : listedPaths? r.format (runGenerate w r { q with dryRun := true }) =
    some (files.map (·.path))
  /-- It tells their number. -/
  counted : r.quiet = false → (r.colored = true → w.Takes (r.info (countText files target))) →
    (runGenerate w r { q with dryRun := true }).lines.getLast? =
      some (r.say .plain ⟨"Dry run: " ++ toString files.length ++
        " file(s) would be written to " ++ target.text, .absent⟩)
  /-- The run itself reports some of these files. -/
  reported : ∃ written,
    writtenPaths? r.format (runGenerate w r { q with dryRun := false }) = some written ∧
      written.Sublist (files.map (·.path))
  /-- They are the same exactly if every file may replace what is there, or finds nothing there when
  its turn comes. -/
  agrees : writtenPaths? r.format (runGenerate w r { q with dryRun := false }) =
      listedPaths? r.format (runGenerate w r { q with dryRun := true }) ↔
    ∀ before f after, files = before ++ f :: after → f.overwrite = true ∨
      presentAt (writeFiles (target.settle w.start) before w.tree).tree (target.settle w.start) f =
        .ok none

/-- How the two compare for a JAX-RS client, where `classes` are the paths of all files but the build
file, and `present` is what is in the place of that one when its turn comes. -/
structure ProjectDecides (w : World) (r : Reporter) (q : GenerateRequest) (classes : List String)
    (present : Except LongPath (Option Entry)) : Prop where
  listed : listedPaths? r.format (runGenerate w r { q with dryRun := true }) =
    some (classes ++ ["pom.xml"])
  /-- The run itself reports the same files exactly if nothing is in the place of the build file. -/
  agrees : writtenPaths? r.format (runGenerate w r { q with dryRun := false }) =
      listedPaths? r.format (runGenerate w r { q with dryRun := true }) ↔ present = .ok none
  /-- If something is, it reports all others. -/
  otherwise : present ≠ .ok none →
    writtenPaths? r.format (runGenerate w r { q with dryRun := false }) = some classes

section
variable (hplanned : planned w r q = (lines, .ok (g, target))) (htakes : w.Takes lines)
include hplanned htakes

/-- A dry run lists the files that a run comes to. -/
theorem listedPaths?_dry : listedPaths? r.format (runGenerate w r { q with dryRun := true }) =
    some (g.files.map (·.path)) := by
  have hlines : resultTexts lines = [] := by
    rw [← resultTexts_planned r w q, hplanned]
  rw [runGenerate_dry hplanned htakes, filePlan_eq]
  refine listedPaths?_of_plan ?_
  rw [resultTexts_finished _ (allDiagnostic_info r _), hlines, List.nil_append]

variable (hfault : (writeFiles (target.settle w.start) g.files w.tree).fault = none)
  (hsummary : w.Takes (r.runSummary
    (summaryOf g (writeFiles (target.settle w.start) g.files w.tree)) target))
include hfault hsummary

/-- The run itself reports those that it wrote. -/
theorem writtenPaths?_real :
    writtenPaths? r.format (runGenerate w r { q with dryRun := false }) =
      some (writeFiles (target.settle w.start) g.files w.tree).written := by
  have hlines : resultTexts lines = [] := by
    rw [← resultTexts_planned r w q, hplanned]
  rw [runGenerate_real hplanned htakes rfl hfault hsummary, runSummary_eq]
  refine writtenPaths?_of_summary (summaryOf g _) target ?_
  simp [hlines, (allDiagnostic_log r _).resultTexts_eq_nil,
    (allDiagnostic_behindSummary r _ _).resultTexts_eq_nil]

/-- The two compare so when the run comes to its files and writes them without a fault. -/
theorem dryRunCompares_of_planned : DryRunCompares w r q target g.files := by
  have hdry := runGenerate_dry hplanned htakes
  have hlisted := listedPaths?_dry hplanned htakes
  have hwritten := writtenPaths?_real hplanned htakes hfault hsummary
  have hcount (h : r.colored = true → w.Takes (r.info (countText g.files target))) :
      w.Takes (r.info (countText g.files target)) := by
    cases hcolored : r.colored with
    | true => exact h hcolored
    | false => exact (allDiagnostic_info r _).takes hcolored w
  refine ⟨fun h => ?_, fun hrefused => ?_, ?_, hlisted, fun hquiet h => ?_, ?_, ?_⟩
  · rw [hdry]
    exact code_finished_iff.2 ((takes_filePlan_iff w r).2 (hcount h))
  · rw [hdry]
    exact fun hcode => hrefused ((takes_filePlan_iff w r).1 (code_finished_iff.1 hcode))
  · rw [hdry]
    exact tree_finished
  · rw [hdry, finished_of_takes ((takes_filePlan_iff w r).2 (hcount h)), filePlan_eq]
    simp [Reporter.info, hquiet, countText]
  · exact ⟨_, hwritten, written_sublist hfault⟩
  · rw [hwritten, hlisted, Option.some_inj]
    exact written_eq_iff hfault

end

/-- The name of the built-in backend is always that of this backend. -/
theorem get_registry (w : World) : w.registry.get JaxrsCxf.name = .ok JaxrsCxf.backend := by
  have hlookup : w.registry.factories.lookup JaxrsCxf.name =
      some (.backend JaxrsCxf.backend) := by
    rw [World.registry, Registry.lookup_discover]
    rfl
  rw [Registry.get, hlookup]

/-- The files that a run of it comes to are those of a client. -/
theorem exists_generate_of_planned (hbackend : q.backend = JaxrsCxf.name)
    (h : planned w r q = (lines, .ok (g, target))) :
    ∃ d raw, generate d JaxrsCxf.backend raw = .ok g := by
  unfold planned at h
  rw [hbackend, get_registry] at h
  dsimp only at h
  split at h
  · cases h
  · next d _ =>
    split at h
    · cases h
    · next raw _ =>
      split at h
      · cases h
      · next g' hg =>
        cases h
        exact ⟨d, raw, hg⟩

/-- So the build file is the last of them, and the only one that must not replace what is there. -/
theorem exists_files_of_planned (hbackend : q.backend = JaxrsCxf.name)
    (h : planned w r q = (lines, .ok (g, target))) :
    ∃ classes project, g.files = classes ++ [project] ∧ (∀ f ∈ classes, f.overwrite = true) ∧
      project.path = "pom.xml" ∧ project.overwrite = false := by
  obtain ⟨d, raw, hg⟩ := exists_generate_of_planned hbackend h
  obtain ⟨c, folders, _, _, _, _, rfl⟩ := JaxrsCxf.generate_eq_ok_iff.1 hg
  obtain ⟨classes, hclasses, hover⟩ := JaxrsCxf.exists_clientFiles_eq c
    (Render.Setting.of d c JaxrsCxf.backend) folders (modelsOf d JaxrsCxf.backend.selectFiles c)
    (groupsOf d JaxrsCxf.backend.selectFiles c).groups
  exact ⟨classes, _, hclasses, hover, rfl, rfl⟩

/-- What is in the place of the build file decides whether the two agree. -/
theorem projectDecides_of_planned (hbackend : q.backend = JaxrsCxf.name)
    (hplanned : planned w r q = (lines, .ok (g, target))) (htakes : w.Takes lines)
    (hfault : (writeFiles (target.settle w.start) g.files w.tree).fault = none)
    (hsummary : w.Takes (r.runSummary
      (summaryOf g (writeFiles (target.settle w.start) g.files w.tree)) target)) :
    ProjectDecides w r q (g.files.dropLast.map (·.path))
      ((writeFiles (target.settle w.start) g.files.dropLast w.tree).tree.find []
        ⟨"/", target.settle w.start ++ ["pom.xml"]⟩) := by
  have hlisted := listedPaths?_dry hplanned htakes
  have hwritten := writtenPaths?_real hplanned htakes hfault hsummary
  obtain ⟨classes, project, hfiles, hover, hpath, hkept⟩ :=
    exists_files_of_planned hbackend hplanned
  have hclasses : g.files.dropLast = classes := by rw [hfiles, List.dropLast_concat]
  have htarget : targetOf (target.settle w.start) project =
      target.settle w.start ++ ["pom.xml"] := by
    rw [targetOf, hpath]
    rfl
  rw [hfiles] at hfault
  have hcases := written_concat hover hkept hfault
  simp only [presentAt, htarget, hpath] at hcases
  rw [hfiles] at hwritten
  rw [hfiles, List.map_append, List.map_singleton, hpath] at hlisted
  rw [hclasses]
  refine ⟨hlisted, ?_, fun hpresent => ?_⟩
  · rw [hwritten, hlisted, Option.some_inj]
    rcases hcases with ⟨hnone, hall⟩ | ⟨⟨e, hsome⟩, hothers⟩
    · exact iff_of_true hall hnone
    · rw [hothers, hsome]
      exact iff_of_false (by simp) (by simp)
  · rw [hwritten]
    rcases hcases with ⟨hnone, _⟩ | ⟨_, hothers⟩
    · exact absurd hnone hpresent
    · rw [hothers]

end

/-- What a dry run lists is what a run writes that succeeds, but for files that are there already and
must not be replaced. With the built-in backend this can only be the build file. -/
theorem dryRun_compares (w : World) (v : Verbosity) (q : GenerateRequest)
    (h : (runGenerate w (w.reporter v) { q with dryRun := false }).code = successCode) :
    ∃ g target, (planned w (w.reporter v) q).2 = .ok (g, target) ∧
      DryRunCompares w (w.reporter v) q target g.files ∧
      (q.backend = JaxrsCxf.name →
        ProjectDecides w (w.reporter v) q (g.files.dropLast.map (·.path))
          ((writeFiles (target.settle w.start) g.files.dropLast w.tree).tree.find []
            ⟨"/", target.settle w.start ++ ["pom.xml"]⟩)) := by
  obtain ⟨lines, g, target, hplanned, htakes, hfault, hsummary⟩ := exists_planned_of_success h
  exact ⟨g, target, by rw [hplanned], dryRunCompares_of_planned hplanned htakes hfault hsummary,
    fun hbackend => projectDecides_of_planned hbackend hplanned htakes hfault hsummary⟩

/-! ## A description with a title alone -/

/-- A run comes to its files if nothing is wrong with what it is given. -/
theorem exists_planned {w : World} {q : GenerateRequest} {b : Backend} {d : Api.Description}
    {raw : RawOptions} {g : Generation} (r : Reporter) (hb : w.registry.get q.backend = .ok b)
    (hd : Api.load w.setOrder w.tree w.start w.input w.fetch q.input = .ok d)
    (hraw : collect w.setOrder b.options w.tree w.start w.environment q.pairs
      (q.config.map Path.ofText) = .ok raw) (hg : generate d b raw = .ok g) :
    ∃ lines, planned w r q = (lines, .ok (g, Path.ofText (q.output.getD b.outputFolder))) := by
  unfold planned
  simp only [hb, hd, hraw, hg]
  exact ⟨_, rfl⟩

/-- What is seen by a run over a description that has a title and nothing else. -/
def titleWorld (tree : FileTree) : World where
  tree := tree
  start := []
  input := "\x7b\"title\": \"Pets\"\x7d"
  fetch := fun _ => .failed ""

/-- The console of such a run refuses nothing. -/
theorem takes_titleWorld (tree : FileTree) (lines : List Line) : (titleWorld tree).Takes lines :=
  fun _ _ => ite_self _

/-- The request for its client, in the directory `out`. -/
def titleRequest : GenerateRequest where
  input := "-"
  output := some "out"

theorem exists_load_title :
    ∃ d, Api.load .byText .empty [] (titleWorld .empty).input (titleWorld .empty).fetch "-" = .ok d ∧
      d.operations = [] ∧ d.schemas = [] := by
  have hempty : ((Api.load .byText .empty [] (titleWorld .empty).input (titleWorld .empty).fetch
      "-").toOption.any fun d => d.operations.isEmpty && d.schemas.isEmpty) = true := by
    decide +kernel
  cases hd : Api.load .byText .empty [] (titleWorld .empty).input (titleWorld .empty).fetch "-" with
  | error _ =>
    rw [hd] at hempty
    cases hempty
  | ok d =>
    rw [hd] at hempty
    simp only [Except.toOption, Option.any_some, Bool.and_eq_true, List.isEmpty_iff] at hempty
    exact ⟨d, rfl, hempty⟩

/-- It comes to the build file alone. -/
theorem exists_planned_title {tree : FileTree} (r : Reporter)
    (hraw : collect .byText JaxrsCxf.backend.options tree [] [] [] none = .ok []) :
    ∃ lines g content,
      planned (titleWorld tree) r titleRequest = (lines, .ok (g, Path.ofText "out")) ∧
        g.files = [⟨"pom.xml", content, false⟩] := by
  obtain ⟨d, hd, hoperations, hschemas⟩ := exists_load_title
  have hmodels (c : Configuration) : modelsOf d JaxrsCxf.backend.selectFiles c = [] := by
    rw [modelsOf, hschemas, List.map_nil]
  have hgroups (c : Configuration) : (groupsOf d JaxrsCxf.backend.selectFiles c).groups = [] := by
    rw [groupsOf, preparedOperations, hoperations, List.map_nil]
    rfl
  have htexts : JaxrsCxf.HasTexts d [] := by
    refine ⟨by decide +kernel, fun c _ => ?_⟩
    rw [preparationFault?, hmodels, hgroups, hoperations]
    rfl
  obtain ⟨g, hg⟩ := (JaxrsCxf.exists_generate_iff d [] fun e he => by cases he).2 htexts
  obtain ⟨lines, hplanned⟩ :=
    exists_planned (w := titleWorld tree) (q := titleRequest) r (get_registry _) hd hraw hg
  obtain ⟨c, folders, _, _, _, _, rfl⟩ := JaxrsCxf.generate_eq_ok_iff.1 hg
  refine ⟨lines, _, (JaxrsCxf.projectFile c (Render.Setting.of d c JaxrsCxf.backend)).content,
    hplanned, ?_⟩
  simp only [JaxrsCxf.clientOf, hmodels, hgroups, JaxrsCxf.clientFiles, List.map_nil,
    List.flatMap_nil, List.nil_append, JaxrsCxf.projectFile]

/-- Then what is in the place of the build file decides. -/
theorem exists_run_title (tree : FileTree) (written : Bool) (r : Reporter)
    (hraw : collect .byText JaxrsCxf.backend.options tree [] [] [] none = .ok [])
    (hone : (writeFile ["out"] tree ⟨"pom.xml", "", false⟩).2 =
      .ok ⟨"pom.xml", ["out", "pom.xml"], written⟩) :
    ∃ lines g,
      planned (titleWorld tree) r titleRequest = (lines, .ok (g, Path.ofText "out")) ∧
      g.files.dropLast = [] ∧
      (writeFiles ((Path.ofText "out").settle []) g.files tree).fault = none ∧
      (tree.find [] ⟨"/", (Path.ofText "out").settle [] ++ ["pom.xml"]⟩ = .ok none ↔
        written = true) := by
  obtain ⟨lines, g, content, hplanned, hfiles⟩ := exists_planned_title r hraw
  have hbase : (Path.ofText "out").settle [] = ["out"] := by decide +kernel
  have hresult := result_writeFile ["out"] tree "pom.xml" content "" false
  rw [hone] at hresult
  refine ⟨lines, g, hplanned, by rw [hfiles]; rfl, ?_⟩
  rw [hfiles, hbase]
  cases hwrite : writeFile ["out"] tree ⟨"pom.xml", content, false⟩ with
  | mk tree' result =>
    rw [hwrite] at hresult
    cases hresult
    refine ⟨by rw [writeFiles, hwrite]; rfl, ?_⟩
    obtain ⟨_, htarget, hcases⟩ := writeFile_cases hwrite
    rw [presentAt, ← htarget] at hcases
    rcases hcases with ⟨hwritten, hover | hnone, _⟩ | ⟨hkept, _, ⟨e, hsome⟩, _⟩
    · cases hover
    · exact iff_of_true hnone hwritten
    · refine iff_of_false (fun hnone => ?_) (Bool.not_eq_true _ ▸ hkept)
      cases hsome.symm.trans hnone

/-- In an empty directory the run writes what the dry run lists. -/
theorem dryRun_compares_empty :
    (runGenerate (titleWorld .empty) ((titleWorld .empty).reporter {})
      { titleRequest with dryRun := false }).code = successCode ∧
    writtenPaths? .plain (runGenerate (titleWorld .empty) ((titleWorld .empty).reporter {})
        { titleRequest with dryRun := false }) =
      listedPaths? .plain (runGenerate (titleWorld .empty) ((titleWorld .empty).reporter {})
        { titleRequest with dryRun := true }) := by
  obtain ⟨lines, g, hplanned, hclasses, hfault, hpresent⟩ :=
    exists_run_title .empty true ((titleWorld .empty).reporter {}) rfl (by decide +kernel)
  have hcode : (runGenerate (titleWorld .empty) ((titleWorld .empty).reporter {})
      { titleRequest with dryRun := false }).code = successCode := by
    rw [runGenerate_real hplanned (takes_titleWorld _ _) rfl hfault (takes_titleWorld _ _)]
  obtain ⟨g', target, hsame, -, hdecides⟩ :=
    dryRun_compares (titleWorld .empty) {} titleRequest hcode
  rw [hplanned] at hsame
  cases hsame
  have hproject := hdecides rfl
  rw [hclasses] at hproject
  exact ⟨hcode, hproject.agrees.2 (hpresent.2 rfl)⟩

/-- An empty build file in the directory `out`. -/
def projectTree : FileTree := FileTree.empty.putFileAt ["out", "pom.xml"] .empty

/-- There the run writes nothing, and the dry run lists the build file all the same. -/
theorem dryRun_compares_fails :
    (runGenerate (titleWorld projectTree) ((titleWorld projectTree).reporter {})
      { titleRequest with dryRun := false }).code = successCode ∧
    listedPaths? .plain (runGenerate (titleWorld projectTree)
      ((titleWorld projectTree).reporter {}) { titleRequest with dryRun := true }) =
        some ["pom.xml"] ∧
    writtenPaths? .plain (runGenerate (titleWorld projectTree)
      ((titleWorld projectTree).reporter {}) { titleRequest with dryRun := false }) = some [] := by
  obtain ⟨lines, g, hplanned, hclasses, hfault, hpresent⟩ :=
    exists_run_title projectTree false ((titleWorld projectTree).reporter {}) rfl
      (by decide +kernel)
  have hdecides := projectDecides_of_planned rfl hplanned (takes_titleWorld _ _) hfault
    (takes_titleWorld _ _)
  rw [hclasses] at hdecides
  refine ⟨?_, hdecides.listed, ?_⟩
  · rw [runGenerate_real hplanned (takes_titleWorld _ _) rfl hfault (takes_titleWorld _ _)]
  · exact hdecides.otherwise fun hnone => absurd (hpresent.1 hnone) Bool.false_ne_true

end ClientGen.Console
