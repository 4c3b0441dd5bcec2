import ClientGen.Files.Writer

/-!
# What writing leaves behind

A file that is written is at its target afterwards, and whatever was anywhere else is still there
([entry?_putFile]). One write does this, or it leaves the tree because there is something at the
target that may not be replaced ([writeFile_cases]). From that follows what a whole run does, by
induction on the files: it writes all of them just if each may replace what is there or finds nothing
([written_eq_iff]), or all but a last one that may not ([written_concat]), it leaves what is at no target ([entry?_writeFiles]), and if no two files
have one target every file that may replace what is there is in the tree in the end
([file?_writeFiles]).
-/

namespace ClientGen.Files

/-! ## Trees -/

namespace FileTree

theorem entry?_root (t : FileTree) : t.entry? [] = some .directory := rfl

/-- An entry that is put is at its place, unless that is the root; nothing else changes. -/
theorem entry?_put (t : FileTree) (p : Place) (e : Entry) (q : Place) :
    FileTree.entry? (t.put p e) q =
      if q = [] then some .directory else if q = p then some e else t.entry? q := by
  unfold entry? put
  rw [Assoc.lookup_insert (Assoc.exact_of_lawful q)]
  by_cases hroot : q = []
  · rw [if_pos hroot, if_pos hroot]
  · simp only [if_neg hroot, beq_iff_eq]

/-- Putting an entry where nothing is leaves all that is there. -/
theorem entry?_put_of_none {t : FileTree} {p q : Place} {e' : Entry} (hp : t.entry? p = none)
    (e : Entry) (hq : t.entry? q = some e') : FileTree.entry? (t.put p e) q = some e' := by
  have hne : q ≠ p := by
    rintro rfl
    rw [hp] at hq
    cases hq
  rw [entry?_put, if_neg hne, hq]
  split
  · next hroot =>
    rw [hroot, entry?_root] at hq
    exact hq
  · rfl

end FileTree

section
variable {t t' : FileTree} {target : Place} {bytes : ByteArray}

/-- Making directories leaves all that is there. -/
theorem entry?_makeDirectories (done : Place) (segments : List String) {q : Place} {e : Entry}
    (hq : t.entry? q = some e) :
    FileTree.entry? (makeDirectories t done segments).1 q = some e := by
  induction segments generalizing t done with
  | nil => exact hq
  | cons s rest ih =>
    unfold makeDirectories
    simp only
    split
    · exact ih _ hq
    · exact hq
    · next hnone =>
      split
      · exact hq
      · exact ih _ (FileTree.entry?_put_of_none hnone _ hq)

/-- A file that is put is at its place, and what is anywhere else stays there. -/
theorem entry?_putFile (h : putFile t target bytes = (t', none)) :
    t'.entry? target = some (.file bytes) ∧
      ∀ q ≠ target, ∀ e, t.entry? q = some e → t'.entry? q = some e := by
  unfold putFile at h
  simp only at h
  split at h
  · cases h
  · split at h
    · cases h
    · next made hmade =>
      split at h
      · cases h
      · split at h
        · cases h
        · next hdirectory =>
          cases h
          have hroot : target ≠ [] := by
            rintro rfl
            exact hdirectory rfl
          refine ⟨by rw [FileTree.entry?_put, if_neg hroot, if_pos rfl], fun q hq e he => ?_⟩
          have hkept := entry?_makeDirectories [] target.dropLast he
          rw [hmade] at hkept
          rw [FileTree.entry?_put, if_neg hq]
          split
          · next hq =>
            rw [hq, FileTree.entry?_root] at he
            exact he
          · exact hkept

end

/-! ## One file -/

/-- What is at the place of a file, as a path to it from the root tells. -/
def presentAt (t : FileTree) (base : Place) (f : GeneratedFile) : Except LongPath (Option Entry) :=
  t.find [] ⟨"/", targetOf base f⟩

/-- A file is written, if it may replace what is at its target or nothing is there; or it is left
alone because it may not and something is. -/
theorem writeFile_cases {base : Place} {t t' : FileTree} {f : GeneratedFile} {d : Decision}
    (h : writeFile base t f = (t', .ok d)) :
    d.path = f.path ∧ d.target = targetOf base f ∧
      (d.written = true ∧ (f.overwrite = true ∨ presentAt t base f = .ok none) ∧
          putFile t (targetOf base f) f.content.toUTF8 = (t', none) ∨
        d.written = false ∧ f.overwrite = false ∧ (∃ e, presentAt t base f = .ok (some e)) ∧
          t' = t) := by
  have hreplace : replaceFile t (targetOf base f) f = (t', .ok d) →
      d = ⟨f.path, targetOf base f, true⟩ ∧
        putFile t (targetOf base f) f.content.toUTF8 = (t', none) := by
    unfold replaceFile
    split
    · exact fun h => by cases h
    · next hput =>
      intro h
      cases h
      exact ⟨rfl, hput⟩
  unfold writeFile at h
  simp only at h
  split at h
  · cases h
  · split at h
    · cases h
    · split at h
      · next hover =>
        obtain ⟨rfl, hput⟩ := hreplace h
        exact ⟨rfl, rfl, .inl ⟨rfl, .inl hover, hput⟩⟩
      · next hover =>
        split at h
        · cases h
        · next e hfind =>
          cases h
          exact ⟨rfl, rfl, .inr ⟨rfl, Bool.not_eq_true _ ▸ hover, ⟨e, hfind⟩, rfl⟩⟩
        · next hfind =>
          obtain ⟨rfl, hput⟩ := hreplace h
          exact ⟨rfl, rfl, .inl ⟨rfl, .inr hfind, hput⟩⟩

/-- Whether something is in the way of a file does not depend on its content. -/
theorem obstacle_putFile (t : FileTree) (target : Place) (bytes bytes' : ByteArray) :
    (putFile t target bytes).2 = (putFile t target bytes').2 := by
  unfold putFile
  simp only
  split
  · rfl
  · split
    · rfl
    · split
      · rfl
      · split <;> rfl

/-- Nor does what becomes of it. -/
theorem result_writeFile (base : Place) (t : FileTree) (path content content' : String)
    (overwrite : Bool) :
    (writeFile base t ⟨path, content, overwrite⟩).2 =
      (writeFile base t ⟨path, content', overwrite⟩).2 := by
  have hresult (target : Place) (f : GeneratedFile) : (replaceFile t target f).2 =
      match (putFile t target f.content.toUTF8).2 with
      | some obstacle => .error (.blocked target obstacle)
      | none => .ok ⟨f.path, target, true⟩ := by
    unfold replaceFile
    split
    · next hput => rw [hput]
    · next hput => rw [hput]
  have hreplace (target : Place) : (replaceFile t target ⟨path, content, overwrite⟩).2 =
      (replaceFile t target ⟨path, content', overwrite⟩).2 := by
    rw [hresult, hresult, obstacle_putFile t target content.toUTF8 content'.toUTF8]
  unfold writeFile
  simp only [targetOf]
  split
  · rfl
  by_cases hinside : isInside ((Path.ofText path).settle base) base = true
  · simp only [hinside, Bool.not_true, Bool.false_eq_true, if_false]
    split
    · exact hreplace _
    · split
      · rfl
      · rfl
      · exact hreplace _
  · simp only [hinside, Bool.not_false, if_true]

/-! ## All files -/

section
variable {base : Place} {t : FileTree}

/-- A run without a fault is one over its first file and one over the others. -/
theorem writeFiles_cons {f : GeneratedFile} {rest : List GeneratedFile}
    (h : (writeFiles base (f :: rest) t).fault = none) :
    ∃ t' d, writeFile base t f = (t', .ok d) ∧ (writeFiles base rest t').fault = none ∧
      (writeFiles base (f :: rest) t).decisions = d :: (writeFiles base rest t').decisions ∧
      (writeFiles base (f :: rest) t).tree = (writeFiles base rest t').tree := by
  rw [writeFiles] at h ⊢
  split at h
  · cases h
  · next t' d hone => exact ⟨t', d, hone, h, rfl, rfl⟩

/-- The files that are written are those of which the decisions say so. -/
theorem written_of_decisions {r r' : WriteRun} {d : Decision}
    (h : r.decisions = d :: r'.decisions) :
    r.written = if d.written then d.path :: r'.written else r'.written := by
  rw [WriteRun.written, h, List.filter_cons]
  split <;> rfl

/-- A run reports some of its files as written, in their order. -/
theorem written_sublist {files : List GeneratedFile}
    (h : (writeFiles base files t).fault = none) :
    (writeFiles base files t).written.Sublist (files.map (·.path)) := by
  induction files generalizing t with
  | nil => exact .slnil
  | cons f rest ih =>
    obtain ⟨t', d, hone, hrest, hdecisions, _⟩ := writeFiles_cons h
    rw [written_of_decisions hdecisions, (writeFile_cases hone).1, List.map_cons]
    split
    · exact (ih hrest).cons_cons _
    · exact (ih hrest).cons _

/-- These are all of them just if each may replace what is there or finds nothing there when its turn
comes. -/
theorem written_eq_iff {files : List GeneratedFile}
    (h : (writeFiles base files t).fault = none) :
    (writeFiles base files t).written = files.map (·.path) ↔
      ∀ before f after, files = before ++ f :: after →
        f.overwrite = true ∨ presentAt (writeFiles base before t).tree base f = .ok none := by
  induction files generalizing t with
  | nil => exact iff_of_true rfl fun before f after hfiles => by simp at hfiles
  | cons f rest ih =>
    obtain ⟨t', d, hone, hrest, hdecisions, _⟩ := writeFiles_cons h
    have htree (before : List GeneratedFile) :
        (writeFiles base (f :: before) t).tree = (writeFiles base before t').tree := by
      rw [writeFiles, hone]
    have hlater : (∀ before g after, f :: rest = before ++ g :: after →
        g.overwrite = true ∨ presentAt (writeFiles base before t).tree base g = .ok none) ↔
          (f.overwrite = true ∨ presentAt t base f = .ok none) ∧
          (writeFiles base rest t').written = rest.map (·.path) := by
      rw [ih hrest]
      refine ⟨fun hall => ⟨hall [] f rest rfl, fun before g after hsplit => ?_⟩,
        fun ⟨hfirst, hall⟩ before g after hsplit => ?_⟩
      · rw [← htree]
        exact hall (f :: before) g after (by rw [hsplit]; rfl)
      · cases before with
        | nil =>
          cases hsplit
          exact hfirst
        | cons f' before =>
          obtain ⟨rfl, rfl⟩ := List.cons_eq_cons.1 hsplit
          rw [htree]
          exact hall before g after rfl
    rw [hlater, written_of_decisions hdecisions, (writeFile_cases hone).1, List.map_cons]
    obtain ⟨_, _, ⟨hd, hmay, _⟩ | ⟨hd, hkept, ⟨e, hsome⟩, _⟩⟩ := writeFile_cases hone
    · rw [if_pos hd, List.cons.injEq, and_iff_right rfl, and_iff_right hmay]
    · rw [hd, if_neg Bool.false_ne_true]
      refine iff_of_false (fun hall => ?_) fun ⟨hmay, _⟩ => ?_
      · have hlength := (written_sublist hrest).length_le
        rw [hall, List.length_cons] at hlength
        exact absurd hlength (Nat.not_succ_le_self _)
      · rcases hmay with hover | hnone
        · cases hkept.symm.trans hover
        · cases hsome.symm.trans hnone

/-- If only the last file must not replace what is there, all files are written, or all but the last
one because there is something at its target when its turn comes. -/
theorem written_concat {files : List GeneratedFile} {last : GeneratedFile}
    (hfiles : ∀ f ∈ files, f.overwrite = true) (hlast : last.overwrite = false)
    (h : (writeFiles base (files ++ [last]) t).fault = none) :
    presentAt (writeFiles base files t).tree base last = .ok none ∧
        (writeFiles base (files ++ [last]) t).written = files.map (·.path) ++ [last.path] ∨
      (∃ e, presentAt (writeFiles base files t).tree base last = .ok (some e)) ∧
        (writeFiles base (files ++ [last]) t).written = files.map (·.path) := by
  induction files generalizing t with
  | nil =>
    rw [List.nil_append] at h ⊢
    obtain ⟨t', d, hone, _, hdecisions, _⟩ := writeFiles_cons h
    rw [written_of_decisions hdecisions]
    obtain ⟨hpath, _, ⟨hd, hover | hnone, _⟩ | ⟨hd, _, hsome, _⟩⟩ := writeFile_cases hone
    · rw [hlast] at hover
      cases hover
    · rw [if_pos hd, hpath]
      exact .inl ⟨hnone, rfl⟩
    · rw [hd]
      exact .inr ⟨hsome, rfl⟩
  | cons f rest ih =>
    rw [List.cons_append] at h ⊢
    obtain ⟨t', d, hone, hrest, hdecisions, _⟩ := writeFiles_cons h
    have hd : d.written = true := by
      obtain ⟨_, _, ⟨hd, _⟩ | ⟨_, hover, _⟩⟩ := writeFile_cases hone
      · exact hd
      · rw [hfiles f List.mem_cons_self] at hover
        cases hover
    have htree : (writeFiles base (f :: rest) t).tree = (writeFiles base rest t').tree := by
      rw [writeFiles, hone]
    rw [written_of_decisions hdecisions, if_pos hd, (writeFile_cases hone).1, htree, List.map_cons,
      List.cons_append, List.cons.injEq, List.cons.injEq]
    simpa using ih (fun g hg => hfiles g (List.mem_cons_of_mem f hg)) hrest

/-- What is at no target is still there after a run. -/
theorem entry?_writeFiles {files : List GeneratedFile} (h : (writeFiles base files t).fault = none)
    {q : Place} (hq : q ∉ files.map (targetOf base)) {e : Entry} (he : t.entry? q = some e) :
    FileTree.entry? (writeFiles base files t).tree q = some e := by
  induction files generalizing t with
  | nil => exact he
  | cons f rest ih =>
    rw [List.map_cons, List.mem_cons, not_or] at hq
    obtain ⟨t', d, hone, hrest, _, htree⟩ := writeFiles_cons h
    rw [htree]
    refine ih hrest hq.2 ?_
    obtain ⟨_, _, ⟨_, _, hput⟩ | ⟨_, _, _, rfl⟩⟩ := writeFile_cases hone
    · exact (entry?_putFile hput).2 q hq.1 e he
    · exact he

/-- If no two files have one target, each that may replace what is there is there in the end. -/
theorem file?_writeFiles {files : List GeneratedFile} (h : (writeFiles base files t).fault = none)
    (hnodup : (files.map (targetOf base)).Nodup) {f : GeneratedFile} (hf : f ∈ files)
    (hover : f.overwrite = true) :
    (writeFiles base files t).tree.file? (targetOf base f) = some f.content.toUTF8 := by
  have hentry : FileTree.entry? (writeFiles base files t).tree (targetOf base f) =
      some (.file f.content.toUTF8) := by
    induction files generalizing t with
    | nil => cases hf
    | cons g rest ih =>
      rw [List.map_cons, List.nodup_cons] at hnodup
      obtain ⟨t', d, hone, hrest, _, htree⟩ := writeFiles_cons h
      rw [htree]
      rcases List.mem_cons.1 hf with rfl | hf
      · refine entry?_writeFiles hrest hnodup.1 ?_
        obtain ⟨_, _, ⟨_, _, hput⟩ | ⟨_, hkept, _, _⟩⟩ := writeFile_cases hone
        · exact (entry?_putFile hput).1
        · rw [hover] at hkept
          cases hkept
      · exact ih hrest hnodup.2 hf
  rw [FileTree.file?, hentry]

end

end ClientGen.Files
