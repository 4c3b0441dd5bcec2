import ClientGen.Proofs.Files.Replacement
import Mathlib.Data.List.MinMax

/-!
# What a run of writes comes to

What is at a place after a run that meets no fault is told by the files and by what was there before
([entryAfter]): the last file that may replace what is there decides, then what was there, then the
directories on the way to other files, and then the first file that goes there. The invariant behind
this is that writing one file makes the tree one for which the rest of the files tells the same
([entryAfter_step]). A run that meets a fault leaves every file as the files before the faulty one
have left it ([StoppedAt]).
-/

namespace ClientGen.Files

/-- Whether a place is below another one. -/
def isBelow (p q : Place) : Bool := isInside p q && p != q

section
variable (base : Place) (files : List GeneratedFile) (t : FileTree)

/-- The last file that goes to a place and replaces what is there. -/
def lastReplacing? (p : Place) : Option GeneratedFile :=
  files.reverse.find? fun f => f.overwrite && targetOf base f == p

/-- The first file that goes to a place. -/
def firstAt? (p : Place) : Option GeneratedFile :=
  files.find? fun f => targetOf base f == p

/-- Whether some file goes to a place below. -/
def leadsBelow (p : Place) : Bool :=
  files.any fun f => isBelow (targetOf base f) p

/-- What is at a place after the files are written into a tree. -/
def entryAfter (p : Place) : Option Entry :=
  match lastReplacing? base files p with
  | some f => some (.file f.content.toUTF8)
  | none =>
    match t.entry? p with
    | some e => some e
    | none =>
      if leadsBelow base files p then some .directory
      else (firstAt? base files p).map fun f => .file f.content.toUTF8

/-- What becomes of the file with an index: it is left alone if it must not replace what is there
and something is there when its turn comes. -/
def decisionAt (k : Nat) (f : GeneratedFile) : Decision where
  path := f.path
  target := targetOf base f
  written := f.overwrite || !(writeFiles base (files.take k) t).tree.occupied (targetOf base f)

/-- What is left of a run that meets no fault. -/
structure Completed : Prop where
  /-- Every place has what the files and the tree before tell. -/
  entries : ∀ p, (writeFiles base files t).tree.entry? p = entryAfter base files t p
  /-- The report has the files in order. -/
  decided : (writeFiles base files t).decisions = files.mapIdx (decisionAt base files t)

/-- What is left when the file with an index is not written or left alone. -/
structure StoppedAt (k : Nat) (t' : FileTree) : Prop where
  /-- The files before it meet no fault. -/
  earlier : (writeFiles base (files.take k) t).fault = none
  /-- Every file is as they have left it, so that no temporary one is there either. -/
  files_eq : ∀ p, t'.file? p = (writeFiles base (files.take k) t).tree.file? p
  /-- No more than directories on its way are new. -/
  added : ∃ f, files[k]? = some f ∧
    DirectoriesAdded (targetOf base f).dropLast (writeFiles base (files.take k) t).tree t'

end

/-! ## One file more -/

section
variable {base : Place} {f : GeneratedFile} {rest : List GeneratedFile} {t t' : FileTree}
  {p q : Place}

theorem isBelow_iff : isBelow p q = true ↔ q <+: p ∧ q ≠ p := by
  rw [isBelow, Bool.and_eq_true, bne_iff_ne, isInside, List.isPrefixOf_iff_prefix, ne_comm]

theorem lastReplacing?_cons : lastReplacing? base (f :: rest) p =
    (lastReplacing? base rest p).or
      (if f.overwrite && targetOf base f == p then some f else none) := by
  rw [lastReplacing?, lastReplacing?, List.reverse_cons, List.find?_append, List.find?_singleton]

theorem firstAt?_cons : firstAt? base (f :: rest) p =
    if targetOf base f = p then some f else firstAt? base rest p := by
  rw [firstAt?, firstAt?, List.find?_cons]
  by_cases h : targetOf base f = p
  · rw [if_pos h, beq_iff_eq.2 h]
  · rw [if_neg h, beq_eq_false_iff_ne.2 h]

theorem leadsBelow_cons : leadsBelow base (f :: rest) p =
    (isBelow (targetOf base f) p || leadsBelow base rest p) :=
  List.any_cons

/-- A file that goes neither to a place nor below it does not matter there. -/
theorem entryAfter_cons_of_away (hne : targetOf base f ≠ p)
    (hbelow : isBelow (targetOf base f) p = false) (hentry : t'.entry? p = t.entry? p) :
    entryAfter base rest t' p = entryAfter base (f :: rest) t p := by
  unfold entryAfter
  rw [lastReplacing?_cons, firstAt?_cons, leadsBelow_cons, if_neg hne, hbelow, Bool.false_or,
    beq_eq_false_iff_ne.2 hne, Bool.and_false, if_neg Bool.false_ne_true, Option.or_none, hentry]

/-- Nor does a file that must not replace what is there. -/
theorem entryAfter_cons_of_kept (hover : f.overwrite = false) {e : Entry}
    (he : t.entry? p = some e) : entryAfter base rest t p = entryAfter base (f :: rest) t p := by
  unfold entryAfter
  rw [lastReplacing?_cons, hover, Bool.false_and, if_neg Bool.false_ne_true, Option.or_none, he]

end

section
variable {base : Place} {t t' : FileTree} {f : GeneratedFile} {p : Place}

/-- A file that meets no fault is put, or it is left alone. -/
theorem putFile_or_kept (ht : t.Rooted) (hbase : ".." ∉ base) {d : Decision}
    (h : writeFile base t f = (t', .ok d)) :
    (f.overwrite || !t.occupied (targetOf base f)) = true ∧
        putFile t (targetOf base f) f.content.toUTF8 = (t', none) ∨
      f.overwrite = false ∧ t.occupied (targetOf base f) = true ∧ t' = t := by
  obtain ⟨_, hstep⟩ := writeFile_step ht hbase h
  split at hstep
  · next hwritten => exact .inl ⟨hwritten, hstep⟩
  · next hkept =>
    rw [Bool.not_eq_true, Bool.or_eq_false_iff, Bool.not_eq_false'] at hkept
    exact .inr ⟨hkept.1, hkept.2, hstep⟩

/-- Where a file is, no other file goes below, unless it meets a fault. -/
theorem leadsBelow_eq_false {files : List GeneratedFile} (ht : t.Rooted) (hbase : ".." ∉ base)
    (h : (writeFiles base files t).fault = none) {bytes : ByteArray}
    (hp : t.entry? p = some (.file bytes)) : leadsBelow base files p = false := by
  induction files generalizing t bytes with
  | nil => rfl
  | cons f rest ih =>
    obtain ⟨t', d, hone, hrest, _, _⟩ := writeFiles_cons h
    have hfirst : isBelow (targetOf base f) p = false := by
      rw [Bool.eq_false_iff, ne_eq, isBelow_iff]
      rintro ⟨hway, hne⟩
      rcases putFile_or_kept ht hbase hone with ⟨_, hput⟩ | ⟨_, hoccupied, _⟩
      · exact hne ((entry?_before_putFile hput hway hp).2 (by simp))
      · have habove := ht.isDirectory_above hoccupied hway hne
        rw [FileTree.isDirectory_iff, hp] at habove
        cases habove
    have hkept : ∃ bytes', t'.entry? p = some (.file bytes') := by
      rcases putFile_or_kept ht hbase hone with ⟨_, hput⟩ | ⟨_, _, rfl⟩
      · by_cases htarget : p = targetOf base f
        · exact ⟨_, by rw [entry?_putFile_eq hput, if_pos htarget]⟩
        · exact ⟨_, (entry?_putFile hput).2 p htarget _ hp⟩
      · exact ⟨_, hp⟩
    obtain ⟨bytes', hkept⟩ := hkept
    rw [leadsBelow_cons, hfirst, Bool.false_or]
    exact ih (ht.writeFile hone) hrest hkept

section
variable {rest : List GeneratedFile}

/-- A file that is put is found in its place, where no other one goes below: a later one that may
replace it decides, and else it does. -/
theorem entryAfter_cons_of_put (htarget : targetOf base f = p)
    (hwritten : f.overwrite = true ∨ t.entry? p = none)
    (hentry : t'.entry? p = some (.file f.content.toUTF8))
    (hbelow : leadsBelow base rest p = false) :
    entryAfter base rest t' p = entryAfter base (f :: rest) t p := by
  have hself : isBelow (targetOf base f) p = false := by
    rw [isBelow, htarget, bne_self_eq_false, Bool.and_false]
  unfold entryAfter
  rw [lastReplacing?_cons, leadsBelow_cons, firstAt?_cons, if_pos htarget, hentry, hbelow, hself,
    beq_iff_eq.2 htarget, Bool.and_true]
  cases lastReplacing? base rest p with
  | some g => rfl
  | none =>
    rcases hwritten with hover | hnone
    · rw [hover]
      rfl
    · rw [hnone]
      cases f.overwrite <;> rfl

/-- There is a directory on the way to a file that is put, whether or not it was there before. -/
theorem entryAfter_cons_of_way (htarget : targetOf base f ≠ p) (hway : p <+: targetOf base f)
    (hbefore : ∀ e, t.entry? p = some e → e = .directory)
    (hentry : t'.entry? p = some .directory) :
    entryAfter base rest t' p = entryAfter base (f :: rest) t p := by
  unfold entryAfter
  rw [lastReplacing?_cons, leadsBelow_cons, hentry, isBelow_iff.2 ⟨hway, Ne.symm htarget⟩,
    beq_eq_false_iff_ne.2 htarget, Bool.and_false, if_neg Bool.false_ne_true, Option.or_none]
  cases lastReplacing? base rest p with
  | some g => rfl
  | none =>
    cases he : t.entry? p with
    | none => rfl
    | some e => rw [hbefore e he]

/-- Above a file that is left alone there are directories already. -/
theorem entryAfter_cons_of_occupied (ht : t.Rooted) (hover : f.overwrite = false)
    (hoccupied : t.occupied (targetOf base f) = true) :
    entryAfter base rest t p = entryAfter base (f :: rest) t p := by
  cases he : t.entry? p with
  | some e => exact entryAfter_cons_of_kept hover he
  | none =>
    refine entryAfter_cons_of_away ?_ ?_ rfl
    · rintro rfl
      rw [FileTree.occupied, he] at hoccupied
      cases hoccupied
    · rw [Bool.eq_false_iff, ne_eq, isBelow_iff]
      rintro ⟨hway, hne⟩
      have habove := ht.isDirectory_above hoccupied hway hne
      rw [FileTree.isDirectory_iff, he] at habove
      cases habove

/-- After one file the other files tell the same of the tree as all files told before. -/
theorem entryAfter_step (ht : t.Rooted) (hbase : ".." ∉ base) {d : Decision}
    (h : writeFile base t f = (t', .ok d)) (hrest : (writeFiles base rest t').fault = none) :
    entryAfter base rest t' p = entryAfter base (f :: rest) t p := by
  rcases putFile_or_kept ht hbase h with ⟨hwritten, hput⟩ | ⟨hover, hoccupied, rfl⟩
  · have hentry := entry?_putFile_eq hput p
    by_cases htarget : targetOf base f = p
    · rw [if_pos htarget.symm] at hentry
      refine entryAfter_cons_of_put htarget ?_ hentry
        (leadsBelow_eq_false (ht.writeFile h) hbase hrest hentry)
      rw [htarget, Bool.or_eq_true, Bool.not_eq_true', FileTree.occupied,
        Option.isSome_eq_false_iff, Option.isNone_iff_eq_none] at hwritten
      exact hwritten
    · rw [if_neg (Ne.symm htarget)] at hentry
      by_cases hway : p <+: targetOf base f
      · rw [if_pos hway] at hentry
        refine entryAfter_cons_of_way htarget hway (fun e he => ?_) hentry
        by_contra hfile
        exact htarget ((entry?_before_putFile hput hway he).2 hfile).symm
      · rw [if_neg hway] at hentry
        refine entryAfter_cons_of_away htarget ?_ hentry
        rw [Bool.eq_false_iff, ne_eq, isBelow_iff]
        exact fun hbelow => hway hbelow.1
  · exact entryAfter_cons_of_occupied ht hover hoccupied

end

end

/-! ## All files -/

section
variable {base : Place} {t : FileTree} {files : List GeneratedFile}

/-- A run goes on from what its first file leaves. -/
theorem writeFiles_of_ok {f : GeneratedFile} {t' : FileTree} {d : Decision}
    (h : writeFile base t f = (t', .ok d)) (rest : List GeneratedFile) :
    writeFiles base (f :: rest) t =
      ⟨(writeFiles base rest t').tree, d :: (writeFiles base rest t').decisions,
        (writeFiles base rest t').fault⟩ := by
  rw [writeFiles, h]

/-- A run that meets no fault is complete. -/
theorem completed_writeFiles (ht : t.Rooted) (hbase : ".." ∉ base)
    (h : (writeFiles base files t).fault = none) : Completed base files t := by
  induction files generalizing t with
  | nil =>
    refine ⟨fun p => ?_, rfl⟩
    change t.entry? p = entryAfter base [] t p
    unfold entryAfter
    cases hp : t.entry? p with
    | none => rfl
    | some e => rfl
  | cons f rest ih =>
    obtain ⟨t', d, hone, hrest, hdecisions, htree⟩ := writeFiles_cons h
    have hdone := ih (ht.writeFile hone) hrest
    refine ⟨fun p => ?_, ?_⟩
    · rw [htree, hdone.entries p]
      exact entryAfter_step ht hbase hone hrest
    · have hlater : (fun k => decisionAt base (f :: rest) t (k + 1)) =
          decisionAt base rest t' := by
        funext k g
        rw [decisionAt, decisionAt, List.take_succ_cons, writeFiles_of_ok hone]
      rw [hdecisions, hdone.decided, List.mapIdx_cons, hlater, (writeFile_step ht hbase hone).1]
      rfl

/-- A run that meets a fault does so at one of its files. -/
theorem exists_stop (h : (writeFiles base files t).fault ≠ none) :
    ∃ k f fault, files[k]? = some f ∧ (writeFiles base (files.take k) t).fault = none ∧
      writeFile base (writeFiles base (files.take k) t).tree f =
        ((writeFiles base files t).tree, .error fault) := by
  induction files generalizing t with
  | nil => exact absurd rfl h
  | cons f rest ih =>
    cases hone : writeFile base t f with
    | mk t' result =>
      cases result with
      | error fault =>
        refine ⟨0, f, fault, rfl, rfl, ?_⟩
        rw [writeFiles, hone]
        exact hone
      | ok d =>
        rw [writeFiles_of_ok hone] at h ⊢
        obtain ⟨k, g, fault, hk, hearlier, hstop⟩ := ih h
        refine ⟨k + 1, g, fault, hk, ?_⟩
        rw [List.take_succ_cons, writeFiles_of_ok hone]
        exact ⟨hearlier, hstop⟩

/-- And it ends there. -/
theorem writeFiles_of_stop {k : Nat} {f : GeneratedFile} {t' : FileTree} {fault : WriteFault}
    (hk : files[k]? = some f) (hearlier : (writeFiles base (files.take k) t).fault = none)
    (hstop : writeFile base (writeFiles base (files.take k) t).tree f = (t', .error fault)) :
    (writeFiles base files t).tree = t' ∧ (writeFiles base files t).fault = some fault := by
  induction files generalizing t k with
  | nil => cases hk
  | cons g rest ih =>
    cases k with
    | zero =>
      cases hk
      rw [List.take_zero] at hstop
      rw [writeFiles]
      simp only [writeFiles] at hstop
      rw [hstop]
      exact ⟨rfl, rfl⟩
    | succ k =>
      rw [List.take_succ_cons] at hearlier hstop
      obtain ⟨t₁, d, hone, hrest, _, htree⟩ := writeFiles_cons hearlier
      rw [htree] at hstop
      rw [writeFiles_of_ok hone]
      exact ih hk hrest hstop

/-- Directories on the way to a file are all that may be new when it is not written. -/
theorem stoppedAt_of_added {k : Nat} {f : GeneratedFile} {t' : FileTree}
    (hk : files[k]? = some f) (hearlier : (writeFiles base (files.take k) t).fault = none)
    (hadded : DirectoriesAdded (targetOf base f).dropLast (writeFiles base (files.take k) t).tree
      t') : StoppedAt base files t k t' :=
  ⟨hearlier, hadded.file?_eq, f, hk, hadded⟩

theorem exists_stoppedAt (h : (writeFiles base files t).fault ≠ none) :
    ∃ k, StoppedAt base files t k (writeFiles base files t).tree := by
  obtain ⟨k, f, fault, hk, hearlier, hstop⟩ := exists_stop h
  exact ⟨k, stoppedAt_of_added hk hearlier (directoriesAdded_writeFile hstop)⟩

end

/-! ## Runs that change no file -/

/-- Whether all files are there: the last one that replaces what is at its place with its content,
and where none does, something. -/
def AlreadyThere (base : Place) (files : List GeneratedFile) (t : FileTree) : Prop :=
  ∀ f ∈ files, match lastReplacing? base files (targetOf base f) with
    | some g => t.file? (targetOf base f) = some g.content.toUTF8
    | none => t.occupied (targetOf base f) = true

section
variable {base : Place} {t : FileTree} {files : List GeneratedFile}

/-- A file that may replace what is there is found at its place, or a later one is. -/
theorem isSome_lastReplacing? {f : GeneratedFile} (hf : f ∈ files) (hover : f.overwrite = true) :
    (lastReplacing? base files (targetOf base f)).isSome = true := by
  rw [lastReplacing?, List.find?_isSome]
  exact ⟨f, List.mem_reverse.2 hf, by rw [hover, beq_self_eq_true, Bool.and_true]⟩

theorem mem_of_lastReplacing? {f : GeneratedFile} {p : Place}
    (h : lastReplacing? base files p = some f) : f ∈ files ∧ targetOf base f = p := by
  have hfound := List.find?_some h
  rw [Bool.and_eq_true, beq_iff_eq] at hfound
  exact ⟨List.mem_reverse.1 (List.mem_of_find?_eq_some h), hfound.2⟩

/-- If there was no file at the place of a file that may replace what is there, the files were not all
there. -/
theorem not_alreadyThere_of_absent {f : GeneratedFile} (hf : f ∈ files)
    (hover : f.overwrite = true) (habsent : t.file? (targetOf base f) = none) :
    ¬AlreadyThere base files t := by
  intro hthere
  have hsome : (lastReplacing? base files (targetOf base f)).isSome = true :=
    isSome_lastReplacing? hf hover
  obtain ⟨g, hg⟩ := Option.isSome_iff_exists.1 hsome
  have hone := hthere f hf
  rw [hg] at hone
  cases habsent.symm.trans hone

/-- If files go below a place, one of them goes to a place below which no other one goes. -/
theorem exists_deepest {p : Place} (h : leadsBelow base files p = true) :
    ∃ f ∈ files, isBelow (targetOf base f) p = true ∧
      leadsBelow base files (targetOf base f) = false := by
  let below := files.filter fun f => isBelow (targetOf base f) p
  obtain ⟨f, hf, hbelow⟩ := List.any_eq_true.1 h
  have hne : below ≠ [] := List.ne_nil_of_mem (List.mem_filter.2 ⟨hf, hbelow⟩)
  obtain ⟨g, hg⟩ := Option.ne_none_iff_exists'.1
    (mt (List.argmax_eq_none (f := fun f => (targetOf base f).length)).1 hne)
  obtain ⟨hmem, hgbelow⟩ := List.mem_filter.1 (List.argmax_mem hg)
  refine ⟨g, hmem, hgbelow, ?_⟩
  rw [Bool.eq_false_iff]
  intro hdeeper
  obtain ⟨e, he, hebelow⟩ := List.any_eq_true.1 hdeeper
  obtain ⟨hway, hlonger⟩ := isBelow_iff.1 hebelow
  obtain ⟨hgway, hgne⟩ := isBelow_iff.1 hgbelow
  -- It would be longer than the longest one below the place.
  have helow : isBelow (targetOf base e) p = true := by
    refine isBelow_iff.2 ⟨hgway.trans hway, ?_⟩
    rintro rfl
    exact hgne (hgway.eq_of_length_le hway.length_le)
  have hle := List.le_of_mem_argmax (List.mem_filter.2 ⟨he, helow⟩) hg
  exact hlonger (hway.eq_of_length_le hle)

/-- At a place that was free and that a file goes to, but none below, there is a file in the end. -/
theorem isSome_file?_of_completed (h : Completed base files t) {f : GeneratedFile} (hf : f ∈ files)
    (hfree : t.entry? (targetOf base f) = none)
    (hbelow : leadsBelow base files (targetOf base f) = false) :
    ((writeFiles base files t).tree.file? (targetOf base f)).isSome = true := by
  rw [FileTree.file?, h.entries]
  unfold entryAfter
  cases lastReplacing? base files (targetOf base f) with
  | some g => rfl
  | none =>
    have hfirst : (firstAt? base files (targetOf base f)).isSome = true := by
      rw [firstAt?, List.find?_isSome]
      exact ⟨f, hf, beq_self_eq_true _⟩
    obtain ⟨g, hg⟩ := Option.isSome_iff_exists.1 hfirst
    simp only [hfree, hbelow, hg]
    rfl

/-- If no file is changed, something was at the place of each. -/
theorem occupied_of_files_eq (h : Completed base files t) (ht : t.Rooted)
    (hsame : ∀ p, (writeFiles base files t).tree.file? p = t.file? p) {f : GeneratedFile}
    (hf : f ∈ files) : t.occupied (targetOf base f) = true := by
  have hnot (g : GeneratedFile) (hg : g ∈ files) (hfree : t.entry? (targetOf base g) = none)
      (hbelow : leadsBelow base files (targetOf base g) = false) : False := by
    have hfile := isSome_file?_of_completed h hg hfree hbelow
    rw [hsame, FileTree.file?, hfree] at hfile
    cases hfile
  rw [FileTree.occupied, Option.isSome_iff_ne_none]
  intro hfree
  cases hbelow : leadsBelow base files (targetOf base f) with
  | false => exact hnot f hf hfree hbelow
  | true =>
    obtain ⟨g, hg, hgbelow, hdeepest⟩ := exists_deepest hbelow
    refine hnot g hg ?_ hdeepest
    -- Nothing is below a place where nothing is.
    obtain ⟨hway, hne⟩ := isBelow_iff.1 hgbelow
    by_contra hoccupied
    have habove := ht.isDirectory_above (Option.isSome_iff_ne_none.2 hoccupied) hway hne
    rw [FileTree.isDirectory_iff, hfree] at habove
    cases habove

/-- A run that is complete changes no file iff all were there before. -/
theorem files_eq_iff_alreadyThere (h : Completed base files t) (ht : t.Rooted) :
    (∀ p, (writeFiles base files t).tree.file? p = t.file? p) ↔ AlreadyThere base files t := by
  constructor
  · intro hsame f hf
    cases hlast : lastReplacing? base files (targetOf base f) with
    | some g =>
      dsimp only
      rw [← hsame, FileTree.file?, h.entries, entryAfter, hlast]
    | none => exact occupied_of_files_eq h ht hsame hf
  · intro hthere p
    rw [FileTree.file?, h.entries p]
    unfold entryAfter
    cases hlast : lastReplacing? base files p with
    | some g =>
      obtain ⟨hg, rfl⟩ := mem_of_lastReplacing? hlast
      have hone := hthere g hg
      rw [hlast] at hone
      exact hone.symm
    | none =>
      cases he : t.entry? p with
      | some e => simp only [FileTree.file?, he]
      | none =>
        have hnowhere : firstAt? base files p = none := by
          refine List.find?_eq_none.2 fun f hf htarget => ?_
          have hone := hthere f hf
          rw [beq_iff_eq.1 htarget, hlast] at hone
          rw [FileTree.occupied, he] at hone
          cases hone
        simp only [FileTree.file?, he, hnowhere, Option.map_none]
        split
        · next hentry =>
          split at hentry <;> cases hentry
        · rfl

/-- Where nothing is after a run nothing was before. -/
theorem not_occupied_of_completed (h : Completed base files t) {p : Place}
    (hp : (writeFiles base files t).tree.occupied p = false) : t.occupied p = false := by
  rw [FileTree.occupied, h.entries p, Option.isSome_eq_false_iff, Option.isNone_iff_eq_none] at hp
  rw [FileTree.occupied, Option.isSome_eq_false_iff, Option.isNone_iff_eq_none]
  unfold entryAfter at hp
  split at hp
  · cases hp
  · split at hp
    · cases hp
    · next hnone => exact hnone

end

/-! ## The effect of a run -/

/-- Files are written as they and the tree before tell, or up to one that is not. However the steps
in the replacement of a file go, it is put as a whole, or no file is changed but by those before
it. Then no temporary file stays either, unless it could not be removed. -/
theorem writeFiles_effect (base : Place) (files : List GeneratedFile) (t : FileTree)
    (hbase : ".." ∉ base) (ht : t.Rooted) :
    ((writeFiles base files t).fault = none → Completed base files t) ∧
    ((writeFiles base files t).fault ≠ none →
      ∃ k, StoppedAt base files t k (writeFiles base files t).tree) ∧
    ∀ k f, files[k]? = some f → (writeFiles base (files.take k) t).fault = none →
      ∀ s t' result,
        replaceInSteps s (writeFiles base (files.take k) t).tree (targetOf base f)
          f.content.toUTF8 = (t', result) →
        (result = none → putFile (writeFiles base (files.take k) t).tree (targetOf base f)
          f.content.toUTF8 = (t', none)) ∧
        (result ≠ none → StoppedAt base files t k t' ∨ s.cleaned = false ∧
          ∃ m, TemporaryLeft (targetOf base f) m (writeFiles base (files.take k) t).tree t') := by
  refine ⟨completed_writeFiles ht hbase, exists_stoppedAt, ?_⟩
  intro k f hk hearlier s t' result hsteps
  refine ⟨?_, fun hne => ?_⟩
  · rintro rfl
    exact putFile_of_replaceInSteps hsteps
  · obtain ⟨setback, rfl⟩ := Option.ne_none_iff_exists'.1 hne
    exact (setBack_replaceInSteps hsteps).imp_left (stoppedAt_of_added hk hearlier)

/-- One file twice, under two paths, and one that must not replace what is there. -/
def repeatedFiles : List GeneratedFile :=
  [⟨"A.java", "1", true⟩, ⟨"x/../A.java", "2", true⟩, ⟨"pom.xml", "3", false⟩]

/-- A disk that is full after no byte, and is still full when the temporary file is closed. -/
def fullDisk : Handling where
  marks := [⟨"abcdefgh", rfl⟩]
  stop := some (.filling 0)
  cleaned := false

/-- A temporary file that may not be renamed. -/
def lockedTarget : Handling where
  marks := [⟨"abcdefgh", rfl⟩]
  stop := some .moving

/-- They are written where there is a build file. A file below that one is not. If the second of
them may not be renamed, the first one stays, and if the disk is full a temporary file does. -/
theorem writeFiles_effect_repeated :
    let t := FileTree.empty.putFileAt ["out", "pom.xml"] .empty
    let below : List GeneratedFile := [⟨"pom.xml/A.java", "1", true⟩]
    let first := (writeFiles ["out"] (repeatedFiles.take 1) t).tree
    let second := fun s => (replaceInSteps s first ["out", "A.java"] "2".toUTF8).1
    ".." ∉ ["out"] ∧ t.Rooted ∧ Completed ["out"] repeatedFiles t ∧
      (∃ k, StoppedAt ["out"] below t k (writeFiles ["out"] below t).tree) ∧
      StoppedAt ["out"] repeatedFiles t 1 (second lockedTarget) ∧
      ∃ m, TemporaryLeft ["out", "A.java"] m first (second fullDisk) := by
  intro t below first second
  have hbase : ".." ∉ ["out"] := by decide
  have ht : (FileTree.empty.putFileAt ["out", "pom.xml"] .empty).Rooted := by decide +kernel
  have hstop (s : Handling) (hset : (replaceInSteps s first ["out", "A.java"] "2".toUTF8).2 ≠ none) :
      StoppedAt ["out"] repeatedFiles t 1 (second s) ∨
        s.cleaned = false ∧ ∃ m, TemporaryLeft ["out", "A.java"] m first (second s) :=
    ((writeFiles_effect _ repeatedFiles _ hbase ht).2.2 1 ⟨"x/../A.java", "2", true⟩ rfl
      (by decide +kernel) s _ _ rfl).2 hset
  refine ⟨hbase, ht, ?_, ?_, ?_, ?_⟩
  · exact (writeFiles_effect _ _ _ hbase ht).1 (by decide +kernel)
  · exact (writeFiles_effect _ _ _ hbase ht).2.1 (by decide +kernel)
  · rcases hstop lockedTarget (by decide +kernel) with hstopped | ⟨hcleaned, _⟩
    · exact hstopped
    · cases hcleaned
  · rcases hstop fullDisk (by decide +kernel) with hstopped | ⟨_, hleft⟩
    · have hsame := hstopped.files_eq ["out", ".A.java.abcdefgh.tmp"]
      exact absurd hsame (by decide +kernel)
    · exact hleft

/-- A file that goes to a place for the first time is not there in the end if another one goes below
it: there is a directory, and that is left alone. -/
theorem first_content_not_written :
    let files : List GeneratedFile := [⟨"a/b", "x", true⟩, ⟨"a", "y", false⟩]
    (writeFiles ["out"] files .empty).fault = none ∧
      lastReplacing? ["out"] files ["out", "a"] = none ∧
      FileTree.empty.occupied ["out", "a"] = false ∧
      firstAt? ["out"] files ["out", "a"] = some ⟨"a", "y", false⟩ ∧
      (writeFiles ["out"] files .empty).tree.isDirectory ["out", "a"] = true := by
  decide +kernel

end ClientGen.Files
