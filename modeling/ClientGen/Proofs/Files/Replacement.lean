import ClientGen.Files.Replacement
import ClientGen.Proofs.Files.Rooted

/-!
# What a step by step replacement comes to

A temporary file has a name of its own, so that filling and removing it leaves the tree as it was
([remove_filled]). Hence a replacement that succeeds is what [putFile] says
([putFile_of_replaceInSteps]), and one that does not leaves all files as they were, or these and a
temporary one if it could not be removed ([setBack_replaceInSteps]). If no step fails and one of the
names is free, the two are the same ([replaceInSteps_eq_putFile]).
-/

namespace ClientGen.Files

/-! ## Temporary files -/

section
variable {t : FileTree} {p : Place}

/-- Where nothing is, nothing need be removed. -/
theorem FileTree.remove_of_not_occupied (hroot : p ≠ []) (h : t.occupied p = false) :
    t.remove p = t := by
  have habsent : Assoc.contains t.entries p = false := by
    rw [occupied, entry?, if_neg hroot] at h
    rw [Assoc.contains_eq_isSome_lookup (Assoc.exact_of_lawful p), h]
  exact congrArg FileTree.mk (Assoc.erase_of_not_contains habsent)

theorem FileTree.remove_put (t : FileTree) (p : Place) (e : Entry) :
    FileTree.remove (t.put p e) p = t.remove p :=
  congrArg FileTree.mk (Assoc.erase_insert p e t.entries)

/-- A new file that is opened, filled and removed leaves no trace. -/
theorem remove_filled (hroot : p ≠ []) (h : t.occupied p = false) (bytes : ByteArray) :
    FileTree.remove ((t.put p (.file .empty)).put p (.file bytes)) p = t := by
  rw [FileTree.remove_put, FileTree.remove_put, FileTree.remove_of_not_occupied hroot h]

/-- When it is renamed instead, it is found under its new name alone. -/
theorem rename_filled (hroot : p ≠ []) (h : t.occupied p = false) (target : Place)
    (bytes : ByteArray) :
    FileTree.rename ((t.put p (.file .empty)).put p (.file bytes)) p target =
      t.put target (.file bytes) := by
  rw [FileTree.rename, FileTree.entry?_put, if_neg hroot, if_pos rfl]
  exact congrArg (FileTree.put · target (.file bytes)) (remove_filled hroot h bytes)

end

section
variable (target : Place) (m : Mark)

theorem temporaryPlace_ne_root : temporaryPlace target m ≠ [] :=
  List.concat_ne_nil _ _

/-- No directory on the way to a file has a temporary name for it. -/
theorem not_prefix_temporaryPlace : ¬temporaryPlace target m <+: target.dropLast := by
  intro h
  have hlength := h.length_le
  rw [temporaryPlace, List.length_append, List.length_singleton] at hlength
  omega

theorem size_temporaryName (name : String) :
    (temporaryName name m).utf8ByteSize = name.utf8ByteSize + temporaryExtra := by
  have hdot : ".".utf8ByteSize = 1 := rfl
  have hending : ".tmp".utf8ByteSize = 4 := rfl
  simp only [temporaryName, String.utf8ByteSize_append, m.size, temporaryExtra, hdot, hending]
  omega

/-- The last of some joined texts adds its own size. -/
theorem size_intercalate_concat (sep : String) (texts : List String) (s : String) :
    (sep.intercalate (texts ++ [s])).utf8ByteSize =
      (sep.intercalate (texts ++ [""])).utf8ByteSize + s.utf8ByteSize := by
  induction texts with
  | nil => simp
  | cons a rest ih =>
    cases rest with
    | nil => simp
    | cons b rest =>
      simp only [List.cons_append, String.intercalate_cons_cons,
        String.utf8ByteSize_append] at ih ⊢
      omega

theorem size_temporaryPlace :
    placeSize (temporaryPlace target m) = placeSize target + temporaryExtra := by
  have hconcat (above : Place) (s : String) : placeSize (above ++ [s]) =
      1 + (("/".intercalate (above ++ [""])).utf8ByteSize + s.utf8ByteSize) := by
    rw [placeSize, placeText, String.utf8ByteSize_append, size_intercalate_concat]
    rfl
  have htarget : placeSize target =
      placeSize (target.dropLast ++ [target.getLast?.getD ""]) := by
    cases target using List.reverseRecOn with
    | nil => rfl
    | append_singleton above s => rw [List.dropLast_concat, List.getLast?_concat, Option.getD_some]
  rw [htarget, temporaryPlace, hconcat, hconcat, size_temporaryName]
  omega

end

/-- What is left of a replacement when its temporary file is not removed. -/
structure TemporaryLeft (target : Place) (m : Mark) (t t' : FileTree) : Prop where
  /-- There was nothing under the name of the temporary file. -/
  free : t.occupied (temporaryPlace target m) = false
  /-- Now the file is there. -/
  left : ∃ bytes, t'.entry? (temporaryPlace target m) = some (.file bytes)
  /-- No more than directories on the way to its target are new beside it. -/
  others : ∀ q ≠ temporaryPlace target m, t'.entry? q = t.entry? q ∨
    t.entry? q = none ∧ t'.entry? q = some .directory ∧ q <+: target.dropLast

namespace TemporaryLeft

variable {target : Place} {m : Mark} {t t' : FileTree}

/-- All other files are as they were. -/
theorem file?_eq (h : TemporaryLeft target m t t') {q : Place} (hq : q ≠ temporaryPlace target m) :
    t'.file? q = t.file? q := by
  unfold FileTree.file?
  rcases h.others q hq with heq | ⟨hnone, hdirectory, _⟩
  · rw [heq]
  · rw [hnone, hdirectory]

/-- Directories on the way may be made before. -/
theorem of_added {made : FileTree} (hadded : DirectoriesAdded target.dropLast t made)
    (h : TemporaryLeft target m made t') : TemporaryLeft target m t t' where
  free := by
    rw [← h.free, FileTree.occupied, FileTree.occupied,
      hadded.entry?_eq_of_not_onWay (not_prefix_temporaryPlace target m)]
  left := h.left
  others q hq := by
    rcases h.others q hq with heq | ⟨hnone, hdirectory, hway⟩
    · rw [heq]
      exact hadded q
    · rcases hadded q with heq | ⟨_, hmade, _⟩
      · exact .inr ⟨heq ▸ hnone, hdirectory, hway⟩
      · cases hnone.symm.trans hmade

end TemporaryLeft

/-! ## In a directory that is there -/

section
variable {s : Handling} {t : FileTree} {target : Place} {m : Mark}

/-- A temporary file that is given up is removed, or it is left. -/
theorem giveUp_filled (hfree : t.occupied (temporaryPlace target m) = false) (bytes : ByteArray) :
    let filled := (t.put (temporaryPlace target m) (.file .empty)).put (temporaryPlace target m)
      (.file bytes)
    giveUp s.cleaned filled (temporaryPlace target m) = t ∨
      s.cleaned = false ∧
        TemporaryLeft target m t (giveUp s.cleaned filled (temporaryPlace target m)) := by
  have hroot := temporaryPlace_ne_root target m
  intro filled
  unfold giveUp
  cases s.cleaned with
  | true => exact .inl (remove_filled hroot hfree bytes)
  | false =>
    refine .inr ⟨rfl, hfree, ⟨bytes, ?_⟩, fun q hq => .inl ?_⟩
    · change FileTree.entry? filled (temporaryPlace target m) = _
      rw [FileTree.entry?_put, if_neg hroot, if_pos rfl]
    · change FileTree.entry? filled q = _
      rw [FileTree.entry?_put, FileTree.entry?_put, if_neg hq, if_neg hq]
      split
      · next hroot => rw [hroot, FileTree.entry?_root]
      · rfl

/-- When a step fails, a temporary file is given up. -/
theorem fillAndRename_stopped {stop : Stop} (hstop : s.stop = some stop) (bytes : ByteArray) :
    ∃ filled : ByteArray, fillAndRename s t (temporaryPlace target m) target bytes =
      (giveUp s.cleaned ((t.put (temporaryPlace target m) (.file .empty)).put
        (temporaryPlace target m) (.file filled)) (temporaryPlace target m),
        some (.stopped stop)) := by
  unfold fillAndRename
  rw [hstop]
  cases stop with
  | filling written => exact ⟨bytes.extract 0 written, rfl⟩
  | making _ => exact ⟨bytes, rfl⟩
  | opening => exact ⟨bytes, rfl⟩
  | moving => exact ⟨bytes, rfl⟩

/-- It takes the place of its target when none does, unless that is a directory. -/
theorem fillAndRename_complete (hfree : t.occupied (temporaryPlace target m) = false)
    (hstop : s.stop = none) (bytes : ByteArray) :
    fillAndRename s t (temporaryPlace target m) target bytes =
      if t.isDirectory target then
        (giveUp s.cleaned ((t.put (temporaryPlace target m) (.file .empty)).put
          (temporaryPlace target m) (.file bytes)) (temporaryPlace target m),
          some (.blocked (.directoryInTheWay target)))
      else (t.put target (.file bytes), none) := by
  have hroot := temporaryPlace_ne_root target m
  have hdirectory : FileTree.isDirectory ((t.put (temporaryPlace target m) (.file .empty)).put
      (temporaryPlace target m) (.file bytes)) target = t.isDirectory target := by
    have hnone : t.entry? (temporaryPlace target m) = none := by
      rwa [FileTree.occupied, Option.isSome_eq_false_iff, Option.isNone_iff_eq_none] at hfree
    rw [Bool.eq_iff_iff, FileTree.isDirectory_iff, FileTree.isDirectory_iff,
      FileTree.entry?_put, FileTree.entry?_put]
    by_cases htarget : target = temporaryPlace target m
    · rw [← htarget] at hroot hnone ⊢
      rw [if_neg hroot, if_pos rfl, hnone]
      simp
    · rw [if_neg htarget, if_neg htarget]
      split
      · next h => simp [h, FileTree.entry?_root]
      · rfl
  unfold fillAndRename
  simp only [hstop, hdirectory]
  split
  · rfl
  · exact Prod.ext (rename_filled hroot hfree target bytes) rfl

end

section
variable {s : Handling} {t t' made : FileTree} {target : Place} {bytes : ByteArray}

/-- What comes of putting a file when the directories on its way are there. -/
theorem putFile_of_made (hpath : ¬longestPath < placeSize target.dropLast)
    (hmade : makeDirectories t [] target.dropLast = (made, none)) :
    putFile t target bytes =
      if longestName < (target.getLast?.getD "").utf8ByteSize + temporaryExtra ||
          longestPath < placeSize target + temporaryExtra then
        (made, some (.longName (target.getLast?.getD "")))
      else if made.isDirectory target then (made, some (.directoryInTheWay target))
      else (made.put target (.file bytes), none) := by
  unfold putFile
  simp only [if_neg hpath, hmade]

/-- A file in a directory that is there is replaced as a whole, or nothing changes but for a temporary
file. -/
theorem replaceBeside_cases {result : Option Setback}
    (h : replaceBeside s t target bytes = (t', result)) :
    (∃ setback, result = some setback ∧
        (t' = t ∨ s.cleaned = false ∧ ∃ m, TemporaryLeft target m t t')) ∨
      result = none ∧ t' = t.put target (.file bytes) ∧ t.isDirectory target = false ∧
        (longestName < (target.getLast?.getD "").utf8ByteSize + temporaryExtra ||
          longestPath < placeSize target + temporaryExtra) = false := by
  unfold replaceBeside at h
  simp only at h
  split at h
  · cases h
    exact .inl ⟨_, rfl, .inl rfl⟩
  · next m hm =>
    have hfree : t.occupied (temporaryPlace target m) = false := by
      simpa using List.find?_some hm
    rw [size_temporaryName, size_temporaryPlace] at h
    split at h
    · cases h
      exact .inl ⟨_, rfl, .inl rfl⟩
    · next hsize =>
      split at h
      · cases h
        exact .inl ⟨_, rfl, .inl rfl⟩
      · cases hstop : s.stop with
        | some stop =>
          obtain ⟨filled, hfilled⟩ := fillAndRename_stopped (t := t) (m := m) hstop bytes
          rw [hfilled] at h
          cases h
          exact .inl ⟨_, rfl, (giveUp_filled hfree filled).imp_right fun h => ⟨h.1, m, h.2⟩⟩
        | none =>
          rw [fillAndRename_complete hfree hstop] at h
          split at h
          · cases h
            exact .inl ⟨_, rfl, (giveUp_filled hfree bytes).imp_right fun h => ⟨h.1, m, h.2⟩⟩
          · next hdirectory =>
            cases h
            exact .inr ⟨rfl, rfl, eq_false_of_ne_true hdirectory, eq_false_of_ne_true hsize⟩

/-- If no step fails, all depends on the sizes and on the target. -/
theorem replaceBeside_eq (hstop : s.stop = none) (hcleaned : s.cleaned = true)
    (hfree : ∃ m ∈ s.marks, t.occupied (temporaryPlace target m) = false) :
    replaceBeside s t target bytes =
      if longestName < (target.getLast?.getD "").utf8ByteSize + temporaryExtra ||
          longestPath < placeSize target + temporaryExtra then
        (t, some (.blocked (.longName (target.getLast?.getD ""))))
      else if t.isDirectory target then (t, some (.blocked (.directoryInTheWay target)))
      else (t.put target (.file bytes), none) := by
  unfold replaceBeside
  simp only
  split
  · next hnone =>
    obtain ⟨m, hm, hfree⟩ := hfree
    exact absurd (List.find?_eq_none.1 hnone m hm) (by simp [hfree])
  · next m hm =>
    have hfree : t.occupied (temporaryPlace target m) = false := by
      simpa using List.find?_some hm
    have hopened : ¬s.stop = some .opening := by simp [hstop]
    rw [size_temporaryName, size_temporaryPlace, if_neg hopened,
      fillAndRename_complete hfree hstop, hcleaned, giveUp, if_pos rfl,
      remove_filled (temporaryPlace_ne_root target m) hfree]

/-! ## With the directories on the way -/

/-- A replacement that succeeds puts the file. -/
theorem putFile_of_replaceInSteps (h : replaceInSteps s t target bytes = (t', none)) :
    putFile t target bytes = (t', none) := by
  unfold replaceInSteps at h
  split at h
  · cases h
  · next hpath =>
    split at h
    · split at h <;> cases h
    · split at h
      · cases h
      · next made hmade =>
        rw [putFile_of_made hpath hmade]
        obtain ⟨_, hsome, _⟩ | ⟨_, rfl, hdirectory, hsize⟩ := replaceBeside_cases h
        · cases hsome
        · rw [hsize, hdirectory, if_neg Bool.false_ne_true, if_neg Bool.false_ne_true]

/-- One that does not leaves nothing but directories, or these and a temporary file that is not
removed. -/
theorem setBack_replaceInSteps {setback : Setback}
    (h : replaceInSteps s t target bytes = (t', some setback)) :
    DirectoriesAdded target.dropLast t t' ∨
      s.cleaned = false ∧ ∃ m, TemporaryLeft target m t t' := by
  have hmake := directoriesAdded_makeDirectories t [] target.dropLast
  unfold replaceInSteps at h
  split at h
  · cases h
    exact .inl (.refl _ t)
  · split at h
    · next made _ =>
      have hmake := directoriesAdded_makeDirectories t [] (target.dropLast.take made)
      have hway := List.take_prefix made target.dropLast
      split at h
      all_goals
        next hmade =>
        rw [hmade] at hmake
        cases h
        exact .inl (hmake.mono hway)
    · split at h
      · next hmade =>
        rw [hmade] at hmake
        cases h
        exact .inl hmake
      · next hmade =>
        rw [hmade] at hmake
        obtain ⟨_, _, rfl | ⟨hcleaned, m, hleft⟩⟩ | ⟨hnone, _⟩ := replaceBeside_cases h
        · exact .inl hmake
        · exact .inr ⟨hcleaned, m, .of_added hmake hleft⟩
        · cases hnone

/-- If no step fails and one of the names is free, it comes to what putting the file does. -/
theorem replaceInSteps_eq_putFile (hstop : s.stop = none) (hcleaned : s.cleaned = true)
    (hfree : ∃ m ∈ s.marks, t.occupied (temporaryPlace target m) = false) :
    replaceInSteps s t target bytes =
      ((putFile t target bytes).1, (putFile t target bytes).2.map .blocked) := by
  unfold replaceInSteps
  rw [hstop]
  simp only
  split
  · next hpath =>
    unfold putFile
    simp only [if_pos hpath, Option.map_some]
  · next hpath =>
    split
    · next hmade =>
      unfold putFile
      simp only [if_neg hpath, hmade, Option.map_some]
    · next made hmade =>
      have hadded := directoriesAdded_makeDirectories t [] target.dropLast
      rw [hmade] at hadded
      have hfree : ∃ m ∈ s.marks, made.occupied (temporaryPlace target m) = false := by
        obtain ⟨m, hm, hfree⟩ := hfree
        refine ⟨m, hm, ?_⟩
        rwa [FileTree.occupied,
          hadded.entry?_eq_of_not_onWay (not_prefix_temporaryPlace target m)]
      rw [putFile_of_made hpath hmade, replaceBeside_eq hstop hcleaned hfree]
      split
      · rfl
      · split <;> rfl

end

end ClientGen.Files
