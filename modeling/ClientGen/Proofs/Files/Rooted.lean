import ClientGen.Proofs.Files.Writing
import Mathlib.Data.List.Induction

/-!
# Trees in which everything stands in a directory

On a disk a file or directory stands in a directory, and so do all directories above it
([FileTree.Rooted]). In such a tree a path from the root finds what is at its place
([FileTree.Rooted.find_eq]). Making directories adds nothing else
([directoriesAdded_makeDirectories]), a file that is put changes its own place and the way to it
([entry?_putFile_eq]), and every write leaves such a tree behind ([FileTree.Rooted.writeFile]).
-/

namespace ClientGen.Files

/-! ## Places of paths -/

namespace Path

/-- The text of a path from the root is that of its place. -/
theorem text_fromRoot (p : Place) : Path.text ⟨"/", p⟩ = placeText p := by
  have hne : placeText p ≠ "" := by
    intro h
    have hlist := congrArg String.toList h
    simp [placeText] at hlist
  unfold Path.text
  exact if_neg hne

/-- Where a path leads no segment leads back. -/
theorem back_not_mem_settle {start : Place} (h : ".." ∉ start) (p : Path) :
    ".." ∉ p.settle start := by
  have hsteps (segments : List String) (start : Place) (h : ".." ∉ start) :
      ".." ∉ segments.foldl stepTo start := by
    induction segments generalizing start with
    | nil => exact h
    | cons s rest ih =>
      refine ih _ ?_
      unfold stepTo
      split
      · exact fun hin => h (List.dropLast_subset start hin)
      · next hs =>
        rw [List.mem_append, List.mem_singleton, not_or]
        exact ⟨h, Ne.symm hs⟩
  refine hsteps _ _ ?_
  split
  · exact List.not_mem_nil
  · exact h

/-- The segments of a place are those of the path, or they were there before. -/
theorem mem_or_mem_of_mem_settle {start : Place} {p : Path} {s : String} (h : s ∈ p.settle start) :
    s ∈ start ∨ s ∈ p.parts := by
  have hsteps (segments : List String) (start : Place) (h : s ∈ segments.foldl stepTo start) :
      s ∈ start ∨ s ∈ segments := by
    induction segments generalizing start with
    | nil => exact .inl h
    | cons u rest ih =>
      rcases ih _ h with h | h
      · unfold stepTo at h
        split at h
        · exact .inl (List.dropLast_subset start h)
        · rcases List.mem_append.1 h with h | h
          · exact .inl h
          · exact .inr (List.mem_singleton.1 h ▸ List.mem_cons_self)
      · exact .inr (List.mem_cons_of_mem u h)
  rcases hsteps _ _ h with h | h
  · split at h
    · cases h
    · exact .inl h
  · exact .inr h

end Path

/-! ## Directories above a place -/

namespace FileTree

variable {t : FileTree} {p q : Place}

/-- A directory is told by the entry. -/
theorem isDirectory_iff : t.isDirectory p = true ↔ t.entry? p = some .directory := by
  unfold isDirectory
  split
  · next h => exact iff_of_true rfl h
  · next h => exact iff_of_false Bool.false_ne_true h

/-- Where something is, it is told by an entry of its own, unless that is the root. -/
theorem exists_mem_of_occupied (h : t.occupied p = true) : p = [] ∨ ∃ e, (p, e) ∈ t.entries := by
  obtain ⟨e, he⟩ := Option.isSome_iff_exists.1 h
  unfold entry? at he
  split at he
  · next hroot => exact .inl hroot
  · exact .inr ⟨e, Assoc.mem_of_lookup he⟩

/-- Whether everything in a tree stands in a directory. -/
def Rooted (t : FileTree) : Prop := ∀ e ∈ t.entries, t.isDirectory e.1.dropLast = true

instance (t : FileTree) : Decidable t.Rooted :=
  inferInstanceAs (Decidable (∀ e ∈ t.entries, t.isDirectory e.1.dropLast = true))

namespace Rooted

/-- What is there stands in a directory. -/
theorem parent (h : t.Rooted) (hp : t.occupied p = true) : t.isDirectory p.dropLast = true := by
  rcases exists_mem_of_occupied hp with rfl | ⟨e, he⟩
  · rfl
  · exact h (p, e) he

/-- So there are directories at all places above it. -/
theorem isDirectory_above (h : t.Rooted) (hp : t.occupied p = true) (hq : q <+: p) (hne : q ≠ p) :
    t.isDirectory q = true := by
  induction p using List.reverseRecOn with
  | nil => exact absurd (List.prefix_nil.1 hq) hne
  | append_singleton above s ih =>
    have habove : t.isDirectory above = true := by
      simpa only [List.dropLast_concat] using h.parent hp
    rcases List.prefix_concat_iff.1 hq with rfl | hq
    · exact absurd rfl hne
    · by_cases heq : q = above
      · rw [heq]
        exact habove
      · refine ih ?_ hq heq
        rw [occupied, isDirectory_iff.1 habove, Option.isSome_some]

/-- Below a file there is nothing. -/
theorem entry?_below (h : t.Rooted) (hfile : t.isDirectory q = false) (hq : q <+: p)
    (hne : q ≠ p) : t.entry? p = none := by
  cases hp : t.entry? p with
  | none => rfl
  | some e =>
    have hoccupied : t.occupied p = true := by rw [occupied, hp, Option.isSome_some]
    rw [h.isDirectory_above hoccupied hq hne] at hfile
    cases hfile

/-- Segments that do not lead back lead to what is at their place. -/
theorem entry?_reach (h : t.Rooted) {start : Place} {segments : List String}
    (hback : ".." ∉ segments) {found : Option Place} (hfound : t.reach start segments = .ok found) :
    found.bind t.entry? = t.entry? (start ++ segments) := by
  induction segments generalizing start with
  | nil =>
    cases hfound
    rw [List.append_nil]
    rfl
  | cons s rest ih =>
    rw [List.mem_cons, not_or] at hback
    unfold reach at hfound
    split at hfound
    · next hfile =>
      cases hfound
      refine (h.entry?_below ?_ (List.prefix_append start (s :: rest)) ?_).symm
      · exact Bool.not_eq_true' _ ▸ hfile
      · intro heq
        have hlength := congrArg List.length heq
        simp at hlength
    · split at hfound
      · cases hfound
      · have hstep : Path.stepTo start s = start ++ [s] := if_neg (Ne.symm hback.1)
        rw [hstep] at hfound
        rw [ih hback.2 hfound, List.append_assoc, List.singleton_append]

/-- A path from the root finds what is at its place, if it finds anything. -/
theorem find_eq (h : t.Rooted) (hback : ".." ∉ p) (hnull : '\x00' ∉ (placeText p).toList)
    {found : Option Entry} (hfound : t.find [] ⟨"/", p⟩ = .ok found) : found = t.entry? p := by
  unfold find at hfound
  rw [Path.text_fromRoot, if_neg (by simpa using hnull)] at hfound
  split at hfound
  · cases hfound
  · split at hfound
    · next place hplace =>
      cases hfound
      exact h.entry?_reach hback hplace
    · cases hfound

end Rooted

end FileTree

/-! ## Making directories -/

/-- What one tree has more than another one are directories on the way to a place. -/
def DirectoriesAdded (way : Place) (t t' : FileTree) : Prop :=
  ∀ q, t'.entry? q = t.entry? q ∨
    t.entry? q = none ∧ t'.entry? q = some .directory ∧ q <+: way

namespace DirectoriesAdded

variable {way : Place} {t t' : FileTree} {q : Place}

/-- Files stay as they are. -/
theorem file?_eq (h : DirectoriesAdded way t t') (q : Place) : t'.file? q = t.file? q := by
  unfold FileTree.file?
  rcases h q with heq | ⟨hnone, hdirectory, _⟩
  · rw [heq]
  · rw [hnone, hdirectory]

/-- So does all that was there. -/
theorem entry?_eq (h : DirectoriesAdded way t t') {e : Entry} (hq : t.entry? q = some e) :
    t'.entry? q = some e := by
  rcases h q with heq | ⟨hnone, _⟩
  · rw [heq, hq]
  · cases hnone.symm.trans hq

/-- The way may go on. -/
theorem mono {further : Place} (h : DirectoriesAdded way t t') (hway : way <+: further) :
    DirectoriesAdded further t t' := by
  intro q
  rcases h q with heq | ⟨hnone, hdirectory, hq⟩
  · exact .inl heq
  · exact .inr ⟨hnone, hdirectory, hq.trans hway⟩

/-- What is not on the way stays as it is. -/
theorem entry?_eq_of_not_onWay (h : DirectoriesAdded way t t') (hq : ¬q <+: way) :
    t'.entry? q = t.entry? q := by
  rcases h q with heq | ⟨_, _, hway⟩
  · exact heq
  · exact absurd hway hq

end DirectoriesAdded

section
variable {t t' : FileTree}

/-- A directory is put where nothing is. -/
theorem directoriesAdded_put {way p : Place} (hp : t.entry? p = none) (hway : p <+: way) :
    DirectoriesAdded way t (t.put p .directory) := by
  intro q
  by_cases hq : q = p
  · refine .inr ⟨hq ▸ hp, ?_, hq ▸ hway⟩
    rw [FileTree.entry?_put, if_pos hq, ite_self]
  · refine .inl ?_
    rw [FileTree.entry?_put, if_neg hq]
    split
    · next hroot => rw [hroot, FileTree.entry?_root]
    · rfl

theorem DirectoriesAdded.refl (way : Place) (t : FileTree) : DirectoriesAdded way t t :=
  fun _ => .inl rfl

theorem DirectoriesAdded.trans {way : Place} {t'' : FileTree} (h : DirectoriesAdded way t t')
    (h' : DirectoriesAdded way t' t'') : DirectoriesAdded way t t'' := by
  intro q
  rcases h q with heq | ⟨hnone, hdirectory, hway⟩
  · rcases h' q with heq' | ⟨hnone, hdirectory⟩
    · exact .inl (heq'.trans heq)
    · exact .inr ⟨heq ▸ hnone, hdirectory⟩
  · exact .inr ⟨hnone, h'.entry?_eq hdirectory, hway⟩

/-- Directories are made on the way, whether or not all of them are. -/
theorem directoriesAdded_makeDirectories (t : FileTree) (done : Place) (segments : List String) :
    DirectoriesAdded (done ++ segments) t (makeDirectories t done segments).1 := by
  induction segments generalizing t done with
  | nil => exact .refl _ t
  | cons s rest ih =>
    have hway : done ++ s :: rest = done ++ [s] ++ rest := by
      rw [List.append_assoc, List.singleton_append]
    unfold makeDirectories
    simp only
    rw [hway]
    split
    · exact ih t (done ++ [s])
    · exact .refl _ t
    · next hnone =>
      split
      · exact .refl _ t
      · exact (directoriesAdded_put hnone (List.prefix_append _ rest)).trans (ih _ _)

/-- If all of them are made, there is a directory at each place on the way. -/
theorem isDirectory_of_makeDirectories {done : Place} {segments way : List String}
    (h : makeDirectories t done segments = (t', none)) (hway : way <+: segments) (hne : way ≠ []) :
    t'.entry? (done ++ way) = some .directory := by
  induction segments generalizing t done way with
  | nil => exact absurd (List.prefix_nil.1 hway) hne
  | cons s rest ih =>
    cases way with
    | nil => exact absurd rfl hne
    | cons u tail =>
      obtain ⟨rfl, htail⟩ := List.cons_prefix_cons.1 hway
      -- The first directory is there, and what follows leaves it.
      have hrest (made : FileTree) (hmade : makeDirectories made (done ++ [u]) rest = (t', none))
          (hfirst : made.entry? (done ++ [u]) = some .directory) :
          t'.entry? (done ++ u :: tail) = some .directory := by
        by_cases hlast : tail = []
        · have hkept := directoriesAdded_makeDirectories made (done ++ [u]) rest
          rw [hmade] at hkept
          rw [hlast]
          exact hkept.entry?_eq hfirst
        · have hall := ih hmade htail hlast
          rwa [List.append_assoc, List.singleton_append] at hall
      unfold makeDirectories at h
      simp only at h
      split at h
      · next hthere => exact hrest t h hthere
      · cases h
      · split at h
        · cases h
        · refine hrest _ h ?_
          rw [FileTree.entry?_put, if_pos rfl, ite_self]

/-- Then nothing else has changed. -/
theorem entry?_makeDirectories_eq {segments : List String}
    (h : makeDirectories t [] segments = (t', none)) (q : Place) :
    t'.entry? q = if q <+: segments then some .directory else t.entry? q := by
  split
  · next hway =>
    by_cases hroot : q = []
    · rw [hroot, FileTree.entry?_root]
    · have hdirectory := isDirectory_of_makeDirectories h hway hroot
      rwa [List.nil_append] at hdirectory
  · next hway =>
    have hadded := directoriesAdded_makeDirectories t [] segments
    rw [h] at hadded
    exact hadded.entry?_eq_of_not_onWay hway

end

/-! ## Putting a file -/

section
variable {t t' : FileTree} {target : Place} {bytes : ByteArray}

/-- What is above a place that is not the root stands on the way to it. -/
theorem prefix_dropLast_iff {p q : Place} (hp : p ≠ []) : q <+: p.dropLast ↔ q <+: p ∧ q ≠ p := by
  obtain ⟨above, s, rfl⟩ : ∃ above s, p = above ++ [s] :=
    ⟨_, _, (List.dropLast_concat_getLast hp).symm⟩
  rw [List.dropLast_concat, List.prefix_concat_iff]
  constructor
  · intro h
    refine ⟨.inr h, ?_⟩
    rintro rfl
    have hlength := h.length_le
    simp only [List.length_append, List.length_singleton] at hlength
    omega
  · rintro ⟨heq | h, hne⟩
    · exact absurd heq hne
    · exact h

/-- A file is put where directories can be made on its way and no directory is in its place. If it
is not put, the directories may have been made all the same. -/
theorem putFile_cases {result : Option Obstacle} (h : putFile t target bytes = (t', result)) :
    result ≠ none ∧ (t' = t ∨ t' = (makeDirectories t [] target.dropLast).1) ∨
      result = none ∧ ∃ made, makeDirectories t [] target.dropLast = (made, none) ∧
        made.isDirectory target = false ∧ t' = made.put target (.file bytes) := by
  unfold putFile at h
  simp only at h
  split at h
  · cases h
    exact .inl ⟨by simp, .inl rfl⟩
  · split at h
    · next hmade =>
      cases h
      exact .inl ⟨by simp, .inr (by rw [hmade])⟩
    · next made hmade =>
      split at h
      · cases h
        exact .inl ⟨by simp, .inr (by rw [hmade])⟩
      · split at h
        · cases h
          exact .inl ⟨by simp, .inr (by rw [hmade])⟩
        · next hdirectory =>
          cases h
          exact .inr ⟨rfl, made, hmade, Bool.not_eq_true _ ▸ hdirectory, rfl⟩

theorem exists_made_of_putFile (h : putFile t target bytes = (t', none)) :
    ∃ made, makeDirectories t [] target.dropLast = (made, none) ∧
      made.isDirectory target = false ∧ t' = made.put target (.file bytes) := by
  rcases putFile_cases h with ⟨hne, _⟩ | ⟨_, hmade⟩
  · exact absurd rfl hne
  · exact hmade

/-- If it cannot be put, only directories on its way are new. -/
theorem directoriesAdded_putFile {obstacle : Obstacle}
    (h : putFile t target bytes = (t', some obstacle)) : DirectoriesAdded target.dropLast t t' := by
  rcases putFile_cases h with ⟨_, rfl | rfl⟩ | ⟨hnone, _⟩
  · exact .refl _ t'
  · exact directoriesAdded_makeDirectories t [] target.dropLast
  · cases hnone

/-- A file that is put is in its place, with directories above it, and nothing else has changed. -/
theorem entry?_putFile_eq (h : putFile t target bytes = (t', none)) (q : Place) :
    t'.entry? q =
      if q = target then some (.file bytes)
      else if q <+: target then some .directory
      else t.entry? q := by
  obtain ⟨made, hmade, hdirectory, rfl⟩ := exists_made_of_putFile h
  have hroot : target ≠ [] := by
    rintro rfl
    cases hdirectory
  rw [FileTree.entry?_put, entry?_makeDirectories_eq hmade q]
  by_cases hq : q = target
  · rw [if_pos hq, if_pos hq, if_neg (hq ▸ hroot)]
  · rw [if_neg hq, if_neg hq]
    by_cases hway : q <+: target
    · rw [if_pos hway, if_pos ((prefix_dropLast_iff hroot).2 ⟨hway, hq⟩), ite_self]
    · have hout : ¬q <+: target.dropLast := fun h => hway ((prefix_dropLast_iff hroot).1 h).1
      rw [if_neg hway, if_neg hout, if_neg]
      rintro rfl
      exact hway List.nil_prefix

/-- No directory was in its place, and no file on its way. -/
theorem entry?_before_putFile (h : putFile t target bytes = (t', none)) {q : Place}
    (hq : q <+: target) {e : Entry} (he : t.entry? q = some e) :
    (q = target ↔ e ≠ .directory) := by
  obtain ⟨made, hmade, hdirectory, rfl⟩ := exists_made_of_putFile h
  have hadded := directoriesAdded_makeDirectories t [] target.dropLast
  rw [hmade] at hadded
  have hkept : made.entry? q = some e := hadded.entry?_eq he
  have hroot : target ≠ [] := by
    rintro rfl
    cases hdirectory
  constructor
  · rintro rfl rfl
    rw [FileTree.isDirectory_iff.2 hkept] at hdirectory
    cases hdirectory
  · intro hfile
    by_contra hne
    rw [entry?_makeDirectories_eq hmade, if_pos ((prefix_dropLast_iff hroot).2 ⟨hq, hne⟩)] at hkept
    cases hkept
    exact hfile rfl

end

/-! ## What stays rooted -/

namespace FileTree.Rooted

variable {t t' : FileTree}

/-- An entry may be put into a directory, unless it is a file in the place of a directory. -/
theorem put (h : t.Rooted) {p : Place} {e : Entry} (hparent : t.isDirectory p.dropLast = true)
    (hp : t.isDirectory p = true → e = .directory) : FileTree.Rooted (t.put p e) := by
  have hkept {q : Place} (hq : t.isDirectory q = true) :
      FileTree.isDirectory (t.put p e) q = true := by
    rw [isDirectory_iff, entry?_put]
    split
    · rfl
    · split
      · next heq => rw [hp (heq ▸ hq)]
      · exact isDirectory_iff.1 hq
  intro e' he'
  rcases Assoc.key_mem_of_mem_insert he' with hkey | ⟨e₀, he₀, hkey⟩
  · rw [hkey]
    exact hkept hparent
  · rw [← hkey]
    exact hkept (h e₀ he₀)

/-- Directories may be made, from one that is there. -/
theorem makeDirectories (h : t.Rooted) {done : Place} (hdone : t.isDirectory done = true)
    (segments : List String) : (makeDirectories t done segments).1.Rooted := by
  induction segments generalizing t done with
  | nil => exact h
  | cons s rest ih =>
    unfold Files.makeDirectories
    simp only
    split
    · next hthere => exact ih h (isDirectory_iff.2 hthere)
    · exact h
    · split
      · exact h
      · have hparent : t.isDirectory (done ++ [s]).dropLast = true := by
          rw [List.dropLast_concat]
          exact hdone
        refine ih (h.put hparent fun _ => rfl) ?_
        rw [isDirectory_iff, entry?_put, if_pos rfl, ite_self]

/-- And a file may be put. -/
theorem putFile (h : t.Rooted) {target : Place} {bytes : ByteArray} {result : Option Obstacle}
    (hput : putFile t target bytes = (t', result)) : t'.Rooted := by
  have hroot : t.isDirectory [] = true := rfl
  have hmake := h.makeDirectories hroot target.dropLast
  rcases putFile_cases hput with ⟨_, rfl | rfl⟩ | ⟨_, made, hmade, hdirectory, rfl⟩
  · exact h
  · exact hmake
  · rw [hmade] at hmake
    refine hmake.put ?_ fun hp => ?_
    · rw [isDirectory_iff, entry?_makeDirectories_eq hmade, if_pos (List.prefix_refl _)]
    · rw [hdirectory] at hp
      cases hp

end FileTree.Rooted

/-! ## Characters of a place -/

section
variable {p base : Place} {f : GeneratedFile} {c : Char}

theorem mem_placeText_of_mem {s : String} (hs : s ∈ p) (hc : c ∈ s.toList) :
    c ∈ (placeText p).toList := by
  rw [placeText, String.toList_append, String.toList_intercalate, List.mem_append]
  exact .inr (Text.mem_intercalate_of_mem _ (List.mem_map_of_mem hs) hc)

/-- The text of a place has the characters of its segments and slashes. -/
theorem mem_segment_of_mem_placeText (h : c ∈ (placeText p).toList) (hc : c ≠ '/') :
    ∃ s ∈ p, c ∈ s.toList := by
  rw [placeText, String.toList_append, String.toList_intercalate, List.mem_append] at h
  rcases h with h | h
  · exact absurd (List.mem_singleton.1 h) hc
  · rcases Text.mem_of_mem_intercalate h with h | ⟨s, hs, h⟩
    · exact absurd (List.mem_singleton.1 h) hc
    · obtain ⟨u, hu, rfl⟩ := List.mem_map.1 hs
      exact ⟨u, hu, h⟩

/-- The segments of a path have the characters of its text. -/
theorem Path.mem_of_mem_parts {text s : String} (hs : s ∈ (Path.ofText text).parts)
    (hc : c ∈ s.toList) : c ∈ text.toList := by
  obtain ⟨piece, hpiece, rfl⟩ := List.mem_map.1 (List.mem_filter.1 hs).1
  rw [String.toList_ofList] at hc
  exact Text.mem_of_mem_pieces hpiece hc

/-- The place of a file has no null character, if neither the output directory nor the path of the
file has one. -/
theorem null_not_mem_targetOf (h : '\x00' ∉ (placeText base ++ f.path).toList) :
    '\x00' ∉ (placeText (targetOf base f)).toList := by
  rw [String.toList_append, List.mem_append, not_or] at h
  intro hnull
  obtain ⟨s, hs, hc⟩ := mem_segment_of_mem_placeText hnull (by decide)
  rcases Path.mem_or_mem_of_mem_settle hs with hs | hs
  · exact h.1 (mem_placeText_of_mem hs hc)
  · exact h.2 (Path.mem_of_mem_parts hs hc)

end

/-! ## One file in such a tree -/

section
variable {base : Place} {t t' : FileTree} {f : GeneratedFile}

/-- A file is written or left alone only if its path and the output directory have no null
character and its place is inside that directory. -/
theorem checked_of_writeFile {d : Decision} (h : writeFile base t f = (t', .ok d)) :
    '\x00' ∉ (placeText base ++ f.path).toList ∧ base <+: targetOf base f := by
  unfold writeFile at h
  simp only at h
  split at h
  · cases h
  · next hnull =>
    split at h
    · cases h
    · next hinside =>
      refine ⟨by simpa using hnull, List.isPrefixOf_iff_prefix.1 ?_⟩
      simpa [isInside] using hinside

/-- What is found at the place of a file is what is there. -/
theorem presentAt_eq (ht : t.Rooted) (hbase : ".." ∉ base)
    (hnull : '\x00' ∉ (placeText base ++ f.path).toList) {found : Option Entry}
    (h : presentAt t base f = .ok found) : found = t.entry? (targetOf base f) :=
  ht.find_eq (Path.back_not_mem_settle hbase _) (null_not_mem_targetOf hnull) h

/-- A file is put at its place, unless it must not replace what is there and something is. -/
theorem writeFile_step (ht : t.Rooted) (hbase : ".." ∉ base) {d : Decision}
    (h : writeFile base t f = (t', .ok d)) :
    d = ⟨f.path, targetOf base f, f.overwrite || !t.occupied (targetOf base f)⟩ ∧
      if f.overwrite || !t.occupied (targetOf base f) then
        putFile t (targetOf base f) f.content.toUTF8 = (t', none)
      else t' = t := by
  obtain ⟨hnull, _⟩ := checked_of_writeFile h
  obtain ⟨hpath, htarget, ⟨hwritten, hwhy, hput⟩ | ⟨hkept, hover, ⟨e, hsome⟩, hsame⟩⟩ :=
    writeFile_cases h
  · have hdecision : (f.overwrite || !t.occupied (targetOf base f)) = true := by
      rcases hwhy with hover | hnone
      · rw [hover, Bool.true_or]
      · rw [FileTree.occupied, ← presentAt_eq ht hbase hnull hnone, Option.isSome_none,
          Bool.not_false, Bool.or_true]
    rw [if_pos hdecision, hdecision, ← hwritten, ← hpath, ← htarget]
    exact ⟨rfl, htarget ▸ hput⟩
  · have hdecision : (f.overwrite || !t.occupied (targetOf base f)) = false := by
      rw [hover, FileTree.occupied, ← presentAt_eq ht hbase hnull hsome, Option.isSome_some,
        Bool.not_true, Bool.or_false]
    rw [hdecision, if_neg Bool.false_ne_true, ← hkept, ← hpath, ← htarget]
    exact ⟨rfl, hsame⟩

/-- A file that is not put leaves the tree. One that is put goes inside the output directory. -/
theorem eq_or_putFile_of_writeFile {result : Except WriteFault Decision}
    (h : writeFile base t f = (t', result)) :
    t' = t ∨ base <+: targetOf base f ∧
      ((∃ d, result = .ok d ∧
          putFile t (targetOf base f) f.content.toUTF8 = (t', none)) ∨
        ∃ fault obstacle, result = .error fault ∧
          putFile t (targetOf base f) f.content.toUTF8 = (t', some obstacle)) := by
  have hreplace (h : replaceFile t (targetOf base f) f = (t', result)) :
      (∃ d, result = .ok d ∧ putFile t (targetOf base f) f.content.toUTF8 = (t', none)) ∨
        ∃ fault obstacle, result = .error fault ∧
          putFile t (targetOf base f) f.content.toUTF8 = (t', some obstacle) := by
    unfold replaceFile at h
    split at h
    · next obstacle hput =>
      cases h
      exact .inr ⟨_, obstacle, rfl, hput⟩
    · next hput =>
      cases h
      exact .inl ⟨_, rfl, hput⟩
  unfold writeFile at h
  simp only at h
  split at h
  · cases h
    exact .inl rfl
  · split at h
    · cases h
      exact .inl rfl
    · next hinside =>
      have hinside : base <+: targetOf base f := by
        simpa [isInside, List.isPrefixOf_iff_prefix] using hinside
      split at h
      · exact .inr ⟨hinside, hreplace h⟩
      · split at h
        · cases h
          exact .inl rfl
        · cases h
          exact .inl rfl
        · exact .inr ⟨hinside, hreplace h⟩

/-- A file that cannot be written leaves nothing but directories on its way. -/
theorem directoriesAdded_writeFile {fault : WriteFault}
    (h : writeFile base t f = (t', .error fault)) :
    DirectoriesAdded (targetOf base f).dropLast t t' := by
  rcases eq_or_putFile_of_writeFile h with rfl | ⟨_, ⟨_, hok, _⟩ | ⟨_, _, _, hput⟩⟩
  · exact .refl _ t'
  · cases hok
  · exact directoriesAdded_putFile hput

/-- Everything stands in a directory afterwards, whatever becomes of a file. -/
theorem FileTree.Rooted.writeFile (ht : t.Rooted) {result : Except WriteFault Decision}
    (h : writeFile base t f = (t', result)) : t'.Rooted := by
  rcases eq_or_putFile_of_writeFile h with rfl | ⟨_, ⟨_, _, hput⟩ | ⟨_, _, _, hput⟩⟩
  · exact ht
  · exact ht.putFile hput
  · exact ht.putFile hput

/-- And after a run. -/
theorem FileTree.Rooted.writeFiles (ht : t.Rooted) (files : List GeneratedFile) :
    (writeFiles base files t).tree.Rooted := by
  induction files generalizing t with
  | nil => exact ht
  | cons f rest ih =>
    unfold Files.writeFiles
    split
    · next hone => exact ht.writeFile hone
    · next hone => exact ih (ht.writeFile hone)

end

end ClientGen.Files
