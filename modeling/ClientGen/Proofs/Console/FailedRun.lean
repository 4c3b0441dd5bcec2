import ClientGen.Proofs.Console.DryRun
import ClientGen.Proofs.Files.Effect
import ClientGen.Proofs.Generation.Paths

/-!
# Runs that fail

A run that fails before it writes leaves everything as it is. One that fails while it writes has
written the files before the one that it failed at, so that no file is changed exactly if these were
there before, with the same content ([files_eq_iff_of_stoppedAt]); a temporary file may stay beside
them if it could not be removed ([files_eq_iff_of_temporaryLeft]). One that fails after it has
written, because the console refuses its summary, has written all of its files. No other run with a
failure changes anything ([failing_run_effect]).
-/

namespace ClientGen.Console

open Files

/-! ## Up to the first file -/

/-- What asks for no client changes nothing. -/
theorem tree_runInvocation (w : World) {i : Invocation}
    (h : ∀ v q, i ≠ .run v (.generate q)) : (runInvocation w i).tree = w.tree := by
  cases i with
  | version => rfl
  | help => rfl
  | nothing => rfl
  | misuse _ => rfl
  | run v command =>
    cases command with
    | generate q => exact absurd rfl (h v q)
    | backends =>
      unfold runInvocation runCommand runBackends
      simp only
      split <;> simp
    | options backend =>
      unfold runInvocation runCommand runOptions
      simp only
      split
      · simp
      · split <;> simp

section
variable {w : World} {r : Reporter} {q : GenerateRequest}

/-- Where a run that generates a client can fail when it has files to write: at one of them, or when
the console refuses its summary. -/
def FailsLate (w : World) (r : Reporter) (g : Generation) (target : Path) : Prop :=
  let run := writeFiles (target.settle w.start) g.files w.tree
  run.fault ≠ none ∨
    run.fault = none ∧ r.colored = true ∧ ¬w.Takes (r.runSummary (summaryOf g run) target)

/-- A run that generates a client fails before it writes, or while it does, or after it. -/
theorem runGenerate_failed (h : (runGenerate w r q).code ≠ successCode) :
    (runGenerate w r q).tree = w.tree ∨
      ∃ g target, (planned w r q).2 = .ok (g, target) ∧ q.dryRun = false ∧
        FailsLate w r g target ∧
        (runGenerate w r q).tree = (writeFiles (target.settle w.start) g.files w.tree).tree := by
  unfold runGenerate at h ⊢
  split at h
  · exact .inl tree_failed
  · next lines g target hupTo =>
    obtain ⟨_, hplanned⟩ := World.upTo_eq_ok hupTo
    split at h
    · next hdry =>
      simp only [if_pos hdry]
      exact .inl tree_finished
    · next hdry =>
      refine .inr ⟨g, target, by rw [hplanned], eq_false_of_ne_true hdry, ?_, ?_⟩
      · simp only at h
        split at h
        · next fault hfault => exact .inl (by simp [hfault])
        · next hfault =>
          have hrefused := mt code_finished_iff.2 h
          refine .inr ⟨hfault, ?_, hrefused⟩
          rw [← Bool.not_eq_false]
          exact fun hcolored => hrefused (takes_runSummary w hcolored _ _)
      · simp only [if_neg hdry]
        split
        · exact tree_failed
        · exact tree_finished

/-! ## At one of the files -/

section
variable {base : Place} {files : List GeneratedFile} {t : FileTree} (hbase : ".." ∉ base)
  (ht : t.Rooted)
include hbase ht

/-- When files are not written to their end, no file is changed iff those before the end were all
there as they are to be. -/
theorem files_eq_iff_of_stoppedAt {k : Nat} {t' : FileTree} (hstop : StoppedAt base files t k t') :
    (∀ p, t'.file? p = t.file? p) ↔ AlreadyThere base (files.take k) t := by
  rw [← files_eq_iff_alreadyThere (completed_writeFiles ht hbase hstop.earlier) ht]
  simp only [hstop.files_eq]

/-- If a temporary file stays it is new, and no other file is changed iff those before it were all
there. -/
theorem files_eq_iff_of_temporaryLeft {k : Nat} {t' : FileTree} {target : Place} {m : Mark}
    (hearlier : (writeFiles base (files.take k) t).fault = none)
    (hleft : TemporaryLeft target m (writeFiles base (files.take k) t).tree t') :
    t.occupied (temporaryPlace target m) = false ∧
      (∃ bytes, t'.file? (temporaryPlace target m) = some bytes) ∧
      ((∀ p ≠ temporaryPlace target m, t'.file? p = t.file? p) ↔
        AlreadyThere base (files.take k) t) := by
  have hcompleted := completed_writeFiles ht hbase hearlier
  have hfree := not_occupied_of_completed hcompleted hleft.free
  have hnone {tree : FileTree} (h : tree.occupied (temporaryPlace target m) = false) :
      tree.file? (temporaryPlace target m) = none := by
    rw [FileTree.occupied, Option.isSome_eq_false_iff, Option.isNone_iff_eq_none] at h
    rw [FileTree.file?, h]
  obtain ⟨bytes, hbytes⟩ := hleft.left
  refine ⟨hfree, ⟨bytes, by rw [FileTree.file?, hbytes]⟩, ?_⟩
  rw [← files_eq_iff_alreadyThere hcompleted ht]
  constructor
  · intro hsame p
    by_cases hp : p = temporaryPlace target m
    · rw [hp, hnone hleft.free, hnone hfree]
    · rw [← hleft.file?_eq hp, hsame p hp]
  · intro hsame p hp
    rw [hleft.file?_eq hp, hsame p]

end

end

/-- A command that fails changes nothing, or it has files to write and stops at one of them: then no
file is changed iff all files before that one were there as they are to be. Or it has written all of
them, and the console refuses the summary. When any step in the replacement of a file fails, a
temporary file may stay, and the same holds of all others. -/
theorem failing_run_effect (w : World) (hstart : ".." ∉ w.start) (ht : w.tree.Rooted) :
    (∀ args, (run w args).code ≠ successCode →
      (run w args).tree = w.tree ∨
        ∃ v q g target, Invocation.of args = .run v (.generate q) ∧ q.dryRun = false ∧
          (planned w (w.reporter v) q).2 = .ok (g, target) ∧
          ((∃ k, StoppedAt (target.settle w.start) g.files w.tree k (run w args).tree ∧
              ((∀ p, (run w args).tree.file? p = w.tree.file? p) ↔
                AlreadyThere (target.settle w.start) (g.files.take k) w.tree)) ∨
            (w.reporter v).colored = true ∧
              Completed (target.settle w.start) g.files w.tree ∧
              (run w args).tree = (writeFiles (target.settle w.start) g.files w.tree).tree ∧
              ((∀ p, (run w args).tree.file? p = w.tree.file? p) ↔
                AlreadyThere (target.settle w.start) g.files w.tree))) ∧
    ∀ r q g target, (planned w r q).2 = .ok (g, target) → ∀ k f, g.files[k]? = some f →
      (writeFiles (target.settle w.start) (g.files.take k) w.tree).fault = none →
      ∀ s t' setback,
        replaceInSteps s (writeFiles (target.settle w.start) (g.files.take k) w.tree).tree
          (targetOf (target.settle w.start) f) f.content.toUTF8 = (t', some setback) →
        ((∀ p, t'.file? p = w.tree.file? p) ↔
          AlreadyThere (target.settle w.start) (g.files.take k) w.tree) ∨
        s.cleaned = false ∧ ∃ m,
          w.tree.occupied (temporaryPlace (targetOf (target.settle w.start) f) m) = false ∧
          (∃ bytes, t'.file? (temporaryPlace (targetOf (target.settle w.start) f) m) =
            some bytes) ∧
          ((∀ p ≠ temporaryPlace (targetOf (target.settle w.start) f) m,
              t'.file? p = w.tree.file? p) ↔
            AlreadyThere (target.settle w.start) (g.files.take k) w.tree) := by
  constructor
  · intro args hfailed
    by_cases hgenerate : ∃ v q, Invocation.of args = .run v (.generate q)
    · obtain ⟨v, q, hinvocation⟩ := hgenerate
      have hrun : run w args = runGenerate w (w.reporter v) q := by
        rw [run, hinvocation]
        rfl
      rw [hrun] at hfailed ⊢
      rcases runGenerate_failed hfailed with hsame | ⟨g, target, hplanned, hdry, hlate, htree⟩
      · exact .inl hsame
      · have hbase := Path.back_not_mem_settle hstart target
        refine .inr ⟨v, q, g, target, hinvocation, hdry, hplanned, ?_⟩
        rw [htree]
        rcases hlate with hfault | ⟨hfault, hcolored, _⟩
        · obtain ⟨k, hstop⟩ := exists_stoppedAt hfault
          exact .inl ⟨k, hstop, files_eq_iff_of_stoppedAt hbase ht hstop⟩
        · have hcompleted := completed_writeFiles ht hbase hfault
          exact .inr ⟨hcolored, hcompleted, rfl, files_eq_iff_alreadyThere hcompleted ht⟩
    · refine .inl (tree_runInvocation w fun v q heq => hgenerate ⟨v, q, heq⟩)
  · intro r q g target hplanned k f hk hearlier s t' setback hsteps
    have hbase := Path.back_not_mem_settle hstart target
    rcases setBack_replaceInSteps hsteps with hadded | ⟨hcleaned, m, hleft⟩
    · exact .inl (files_eq_iff_of_stoppedAt hbase ht (stoppedAt_of_added hk hearlier hadded))
    · exact .inr ⟨hcleaned, m, files_eq_iff_of_temporaryLeft hbase ht hearlier hleft⟩

/-! ## A file in the way of the tests -/

/-- What is seen by a run over a description with one operation, where a file is in the place of the
directory of the tests. -/
def blockedWorld : World where
  tree := FileTree.empty.putFileAt ["out", "src", "test"] .empty
  start := []
  input := "\x7b\"title\": \"Pets\", " ++
    "\"operations\": [\x7b\"method\": \"get\", \"path\": \"/pets\"\x7d]\x7d"
  fetch := fun _ => .failed ""

/-- The command line for its client. -/
def blockedArguments : List String := ["--no-color", "generate", "-i", "-", "-o", "out"]

/-- The paths of its files. -/
def blockedPaths : List String := [
  "src/gen/java/io/swagger/api/DefaultApi.java",
  "src/test/java/io/swagger/api/DefaultApiTest.java",
  "pom.xml"]

/-- The console of such a run refuses nothing. -/
theorem takes_blockedWorld (lines : List Line) : blockedWorld.Takes lines :=
  fun _ _ => ite_self _

/-- The run comes to its files. -/
theorem exists_planned_blocked (r : Reporter) :
    ∃ lines g, planned blockedWorld r titleRequest = (lines, .ok (g, Path.ofText "out")) ∧
      g.files.map (·.path) = blockedPaths := by
  have htexts : ((Api.load .byText blockedWorld.tree [] blockedWorld.input blockedWorld.fetch
      "-").toOption.all fun d => decide (JaxrsCxf.HasTexts d [])) = true := by
    decide +kernel
  have hdescription : ((Api.load .byText blockedWorld.tree [] blockedWorld.input blockedWorld.fetch
      "-").toOption.bind fun d => (resolve JaxrsCxf.backend.options []).toOption.bind fun c =>
        (foldersOf (Render.Setting.of d c JaxrsCxf.backend)).toOption.map fun folders =>
          (classesOf d folders.models folders.interfaces folders.tests).map
            (fun e => classPath e.1 e.2) ++ ["pom.xml"]) = some blockedPaths := by
    decide +kernel
  have hraw : collect .byText JaxrsCxf.backend.options blockedWorld.tree [] [] [] none = .ok [] := by
    rfl
  cases hd : Api.load .byText blockedWorld.tree [] blockedWorld.input blockedWorld.fetch "-" with
  | error _ =>
    rw [hd] at hdescription
    cases hdescription
  | ok d =>
    rw [hd] at htexts
    rw [hd, Except.toOption, Option.bind_some] at hdescription
    obtain ⟨g, hg⟩ := (JaxrsCxf.exists_generate_iff d [] fun e he => by cases he).2
      (of_decide_eq_true htexts)
    obtain ⟨lines, hplanned⟩ :=
      exists_planned (w := blockedWorld) (q := titleRequest) r (get_registry _) hd hraw hg
    obtain ⟨c, folders, hc, hf, hfiles⟩ := JaxrsCxf.exists_filesOf hg
    rw [hc, Except.toOption, Option.bind_some, hf] at hdescription
    refine ⟨lines, g, hplanned, ?_⟩
    rw [hfiles, JaxrsCxf.paths_filesOf]
    exact Option.some_inj.1 hdescription

/-- Not all of the files can be written: the one in the way is above that of the test. -/
theorem fault_blocked {files : List GeneratedFile} (hpaths : files.map (·.path) = blockedPaths) :
    (writeFiles ["out"] files blockedWorld.tree).fault ≠ none := by
  intro hnone
  have hbase : ".." ∉ ["out"] := by decide
  have hrooted : blockedWorld.tree.Rooted := by decide +kernel
  have hthere : blockedWorld.tree.entry? ["out", "src", "test"] = some (.file .empty) := by rfl
  have hbelow := leadsBelow_eq_false hrooted hbase hnone hthere
  have hany : (blockedPaths.any fun path =>
      isBelow ((Path.ofText path).settle ["out"]) ["out", "src", "test"]) = true := by
    decide +kernel
  rw [← hpaths, List.any_map] at hany
  exact absurd (hbelow.symm.trans hany) (by simp)

/-- The interface, the first of the files, was not there before and can be written. -/
theorem interface_blocked (content : String) :
    let f : GeneratedFile := ⟨"src/gen/java/io/swagger/api/DefaultApi.java", content, true⟩
    blockedWorld.tree.file? (targetOf ["out"] f) = none ∧
      (writeFile ["out"] blockedWorld.tree f).2.toOption.isSome = true := by
  refine ⟨?_, ?_⟩
  · change blockedWorld.tree.file? ((Path.ofText
      "src/gen/java/io/swagger/api/DefaultApi.java").settle ["out"]) = none
    decide +kernel
  · rw [result_writeFile _ _ _ content ""]
    decide +kernel

/-- So writing stops behind the first file, which was not there. -/
theorem exists_stop_blocked {files : List GeneratedFile}
    (hpaths : files.map (·.path) = blockedPaths)
    (hover : ∀ f ∈ files, f.path ≠ "pom.xml" → f.overwrite = true) :
    ∃ k, StoppedAt ["out"] files blockedWorld.tree k
        (writeFiles ["out"] files blockedWorld.tree).tree ∧
      ¬AlreadyThere ["out"] (files.take k) blockedWorld.tree := by
  obtain ⟨k, f, fault, hk, hearlier, hstop⟩ := exists_stop (fault_blocked hpaths)
  refine ⟨k, stoppedAt_of_added hk hearlier (directoriesAdded_writeFile hstop), ?_⟩
  cases files with
  | nil => cases hk
  | cons first rest =>
    have hpath : first.path = "src/gen/java/io/swagger/api/DefaultApi.java" :=
      (List.cons.inj hpaths).1
    have hfirst : first.overwrite = true := by
      refine hover first List.mem_cons_self ?_
      rw [hpath]
      decide
    obtain ⟨path, content, overwrite⟩ := first
    cases hpath
    cases hfirst
    obtain ⟨habsent, hwritten⟩ := interface_blocked content
    cases k with
    | zero =>
      cases hk
      have hstop : writeFile ["out"] blockedWorld.tree _ = (_, .error fault) := hstop
      rw [hstop] at hwritten
      cases hwritten
    | succ k => exact not_alreadyThere_of_absent List.mem_cons_self rfl habsent

/-- So the run fails, and it has written the first file. -/
theorem exists_failed_blocked :
    (run blockedWorld blockedArguments).code ≠ successCode ∧
      ¬∀ p, (run blockedWorld blockedArguments).tree.file? p = blockedWorld.tree.file? p := by
  have hinvocation : Invocation.of blockedArguments =
      .run { noColor := true } (.generate titleRequest) := by
    decide +kernel
  have hrun : run blockedWorld blockedArguments =
      runGenerate blockedWorld (blockedWorld.reporter { noColor := true }) titleRequest := by
    rw [run, hinvocation]
    rfl
  have hbase : (Path.ofText "out").settle blockedWorld.start = ["out"] := by decide +kernel
  have hstart : ".." ∉ blockedWorld.start := List.not_mem_nil
  have hrooted : blockedWorld.tree.Rooted := by decide +kernel
  obtain ⟨lines, g, hplanned, hpaths⟩ := exists_planned_blocked
    (blockedWorld.reporter { noColor := true })
  obtain ⟨classes, project, hfiles, hclasses, hproject, _⟩ :=
    exists_files_of_planned rfl hplanned
  have hover : ∀ f ∈ g.files, f.path ≠ "pom.xml" → f.overwrite = true := by
    intro f hf hne
    rw [hfiles, List.mem_append, List.mem_singleton] at hf
    rcases hf with hf | rfl
    · exact hclasses f hf
    · exact absurd hproject hne
  obtain ⟨k, hstop, hnot⟩ := exists_stop_blocked hpaths hover
  obtain ⟨fault, hsome⟩ := Option.ne_none_iff_exists'.1 (fault_blocked hpaths)
  have houtcome : (runGenerate blockedWorld (blockedWorld.reporter { noColor := true })
        titleRequest).code ≠ successCode ∧
      (runGenerate blockedWorld (blockedWorld.reporter { noColor := true }) titleRequest).tree =
        (writeFiles ["out"] g.files blockedWorld.tree).tree := by
    unfold runGenerate
    rw [World.upTo_of_takes (takes_blockedWorld _), hplanned]
    simp only [titleRequest, Bool.false_eq_true, if_false, hbase, hsome]
    exact ⟨code_failed_ne, tree_failed⟩
  rw [hrun]
  refine ⟨houtcome.1, ?_⟩
  rw [houtcome.2]
  exact fun hsame => hnot ((files_eq_iff_of_stoppedAt (by decide) hrooted hstop).1 hsame)

/-- It stops at a file behind the first one, which was not there before. -/
theorem failing_run_effect_blocked :
    ".." ∉ blockedWorld.start ∧ blockedWorld.tree.Rooted ∧
      (run blockedWorld blockedArguments).code ≠ successCode ∧
      ∃ (base : Place) (g : Generation) (k : Nat), StoppedAt base g.files blockedWorld.tree k
          (run blockedWorld blockedArguments).tree ∧
        ¬AlreadyThere base (g.files.take k) blockedWorld.tree := by
  have hstart : ".." ∉ blockedWorld.start := List.not_mem_nil
  have hrooted : blockedWorld.tree.Rooted := by decide +kernel
  have hinvocation : Invocation.of blockedArguments =
      .run { noColor := true } (.generate titleRequest) := by
    decide +kernel
  obtain ⟨hcode, hchanged⟩ := exists_failed_blocked
  refine ⟨hstart, hrooted, hcode, ?_⟩
  obtain ⟨hall, _⟩ := failing_run_effect blockedWorld hstart hrooted
  rcases hall blockedArguments hcode with
    hsame | ⟨v, q, g, _, hrun, _, _, ⟨k, hstop, hiff⟩ | ⟨hcolored, _⟩⟩
  · exact absurd (fun p => by rw [hsame]) hchanged
  · exact ⟨_, g, k, hstop, fun hthere => hchanged (hiff.2 hthere)⟩
  · cases hinvocation.symm.trans hrun
    cases hcolored

/-- A run that fails while it writes does not leave the output directory as it was. -/
theorem failing_run_changes_files :
    ∃ w args, ".." ∉ w.start ∧ w.tree.Rooted ∧ (run w args).code ≠ successCode ∧
      ¬∀ p, (run w args).tree.file? p = w.tree.file? p :=
  ⟨blockedWorld, blockedArguments, List.not_mem_nil, by decide +kernel, exists_failed_blocked⟩

end ClientGen.Console
