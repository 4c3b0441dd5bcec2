import ClientGen.Failure.Basic
import ClientGen.Proofs.Files.Effect

/-!
# Where a run of writes stays

Whatever a run changes is the output directory, is inside it, or is a directory above it that was
missing ([Confined]): the way to a file inside the output directory leads through that directory, so
that each place on it is above or inside ([confined_of_directoriesAdded]). A file outside ends the
run before anything is done for it ([writes_confined]).
-/

namespace ClientGen.Files

/-- What is at a place is the same in two trees, or the place is a directory, is inside it, or is a
directory above it that was missing. -/
def ConfinedAt (base : Place) (t t' : FileTree) (p : Place) : Prop :=
  t'.entry? p = t.entry? p ∨ base <+: p ∨
    p <+: base ∧ t.entry? p = none ∧ t'.entry? p = some .directory

/-- What is not the same in two trees is a directory, is inside it, or is a directory above it that
was missing. -/
def Confined (base : Place) (t t' : FileTree) : Prop := ∀ p, ConfinedAt base t t' p

section
variable {base target : Place} {t t' t'' : FileTree}

theorem ConfinedAt.trans {p : Place} (h : ConfinedAt base t t' p)
    (h' : ConfinedAt base t' t'' p) : ConfinedAt base t t'' p := by
  rcases h with heq | hinside | ⟨habove, hnone, hdirectory⟩
  · rwa [ConfinedAt, ← heq]
  · exact .inr (.inl hinside)
  · rcases h' with heq | hinside | ⟨_, hnone', _⟩
    · exact .inr (.inr ⟨habove, hnone, heq.trans hdirectory⟩)
    · exact .inr (.inl hinside)
    · cases hnone'.symm.trans hdirectory

theorem Confined.refl (base : Place) (t : FileTree) : Confined base t t :=
  fun _ => .inl rfl

theorem Confined.trans (h : Confined base t t') (h' : Confined base t' t'') :
    Confined base t t'' :=
  fun p => (h p).trans (h' p)

/-- A directory that is new on the way to a place inside is above or inside. -/
theorem confinedAt_of_way {p : Place} (hinside : base <+: target) (hnone : t.entry? p = none)
    (hdirectory : t'.entry? p = some .directory) (hway : p <+: target.dropLast) :
    ConfinedAt base t t' p := by
  have hway : p <+: target := hway.trans (List.dropLast_prefix target)
  rcases List.prefix_or_prefix_of_prefix hway hinside with habove | hbelow
  · exact .inr (.inr ⟨habove, hnone, hdirectory⟩)
  · exact .inr (.inl hbelow)

/-- Directories on the way to a place inside are above or inside. -/
theorem confined_of_directoriesAdded (h : DirectoriesAdded target.dropLast t t')
    (hinside : base <+: target) : Confined base t t' := by
  intro p
  rcases h p with heq | ⟨hnone, hdirectory, hway⟩
  · exact .inl heq
  · exact confinedAt_of_way hinside hnone hdirectory hway

/-- And so is all that is left of a replacement but its temporary file. -/
theorem confinedAt_of_temporaryLeft {m : Mark} (h : TemporaryLeft target m t t')
    (hinside : base <+: target) {p : Place} (hp : p ≠ temporaryPlace target m) :
    ConfinedAt base t t' p := by
  rcases h.others p hp with heq | ⟨hnone, hdirectory, hway⟩
  · exact .inl heq
  · exact confinedAt_of_way hinside hnone hdirectory hway

/-- That is inside with its target, unless this is the directory itself. -/
theorem prefix_temporaryPlace (hinside : base <+: target) (hne : target ≠ base) (m : Mark) :
    base <+: temporaryPlace target m := by
  obtain ⟨rest, rfl⟩ := hinside
  have hrest : rest ≠ [] := by
    rintro rfl
    exact hne (List.append_nil base)
  rw [temporaryPlace, List.dropLast_append_of_ne_nil hrest, List.append_assoc]
  exact List.prefix_append base _

/-- A file that is put inside changes its own place besides. -/
theorem confined_of_putFile {bytes : ByteArray} (h : putFile t target bytes = (t', none))
    (hinside : base <+: target) : Confined base t t' := by
  intro p
  have hentry := entry?_putFile_eq h p
  by_cases htarget : p = target
  · exact .inr (.inl (htarget ▸ hinside))
  · rw [if_neg htarget] at hentry
    by_cases hway : p <+: target
    · rw [if_pos hway] at hentry
      rcases List.prefix_or_prefix_of_prefix hway hinside with habove | hbelow
      · cases hp : t.entry? p with
        | none => exact .inr (.inr ⟨habove, hp, hentry⟩)
        | some e =>
          have hdirectory : e = .directory := by
            by_contra hfile
            exact htarget ((entry?_before_putFile h hway hp).2 hfile)
          exact .inl (by rw [hentry, hp, hdirectory])
      · exact .inr (.inl hbelow)
    · rw [if_neg hway] at hentry
      exact .inl hentry

end

section
variable {base : Place} {t t' : FileTree} {f : GeneratedFile}

/-- One file stays where it may, whatever becomes of it. -/
theorem confined_of_writeFile {result : Except WriteFault Decision}
    (h : writeFile base t f = (t', result)) : Confined base t t' := by
  rcases eq_or_putFile_of_writeFile h with rfl | ⟨hinside, ⟨_, _, hput⟩ | ⟨_, _, _, hput⟩⟩
  · exact .refl base t'
  · exact confined_of_putFile hput hinside
  · exact confined_of_directoriesAdded (directoriesAdded_putFile hput) hinside

/-- And so do all files together. -/
theorem confined_of_writeFiles (base : Place) (files : List GeneratedFile) (t : FileTree) :
    Confined base t (writeFiles base files t).tree := by
  induction files generalizing t with
  | nil => exact .refl base t
  | cons f rest ih =>
    unfold writeFiles
    split
    · next hone => exact confined_of_writeFile hone
    · next t' _ hone => exact (confined_of_writeFile hone).trans (ih t')

/-- And so do the steps in a replacement, if the place is inside. If it is the directory itself, a
temporary file that is not removed is beside that. -/
theorem confined_of_replaceInSteps {s : Handling} {target : Place} {bytes : ByteArray}
    {result : Option Setback} (h : replaceInSteps s t target bytes = (t', result))
    (hinside : base <+: target) :
    Confined base t t' ∨ s.cleaned = false ∧ target = base ∧
      ∃ m, ∀ p ≠ temporaryPlace base m, ConfinedAt base t t' p := by
  cases result with
  | none => exact .inl (confined_of_putFile (putFile_of_replaceInSteps h) hinside)
  | some _ =>
    rcases setBack_replaceInSteps h with hadded | ⟨hcleaned, m, hleft⟩
    · exact .inl (confined_of_directoriesAdded hadded hinside)
    · by_cases htarget : target = base
      · cases htarget
        exact .inr ⟨hcleaned, rfl, m, fun p hp => confinedAt_of_temporaryLeft hleft hinside hp⟩
      · refine .inl fun p => ?_
        by_cases hp : p = temporaryPlace target m
        · exact .inr (.inl (hp ▸ prefix_temporaryPlace hinside htarget m))
        · exact confinedAt_of_temporaryLeft hleft hinside hp

/-- What is said of a file outside: a null character is found first. -/
def outsideFault (base : Place) (f : GeneratedFile) : WriteFault :=
  if (placeText base ++ f.path).toList.contains '\x00' then .nullCharacter else .outside f.path

/-- A file outside is not written. -/
theorem writeFile_of_outside (h : ¬base <+: targetOf base f) :
    writeFile base t f = (t, .error (outsideFault base f)) := by
  have houtside : isInside (targetOf base f) base = false := by
    rwa [isInside, Bool.eq_false_iff, ne_eq, List.isPrefixOf_iff_prefix]
  unfold writeFile outsideFault
  simp only [houtside, Bool.not_false, if_true]
  split <;> rfl

end

/-- Whatever a run changes is the output directory, inside it, or a directory above it that was
missing, also when a step in the replacement of a file fails: only a temporary file that cannot be
removed is beside the output directory, when that itself is to be a file. A run ends at the first
file that is outside, and leaves the tree as it is then. -/
theorem writes_confined (base : Place) (files : List GeneratedFile) (t : FileTree) :
    Confined base t (writeFiles base files t).tree ∧
    ∀ k f, files[k]? = some f → (writeFiles base (files.take k) t).fault = none →
      (¬base <+: targetOf base f →
        (writeFiles base files t).tree = (writeFiles base (files.take k) t).tree ∧
          (writeFiles base files t).fault = some (outsideFault base f)) ∧
      (base <+: targetOf base f → ∀ s t' result,
        replaceInSteps s (writeFiles base (files.take k) t).tree (targetOf base f)
          f.content.toUTF8 = (t', result) →
        Confined base t t' ∨ s.cleaned = false ∧ targetOf base f = base ∧
          ∃ m, ∀ p ≠ temporaryPlace base m, ConfinedAt base t t' p) := by
  refine ⟨confined_of_writeFiles base files t, fun k f hk hearlier => ⟨?_, ?_⟩⟩
  · intro houtside
    exact writeFiles_of_stop hk hearlier (writeFile_of_outside houtside)
  · intro hinside s t' result hsteps
    have hbefore := confined_of_writeFiles base (files.take k) t
    rcases confined_of_replaceInSteps hsteps hinside with hconfined | ⟨hcleaned, htarget, m, hbut⟩
    · exact .inl (hbefore.trans hconfined)
    · exact .inr ⟨hcleaned, htarget, m, fun p hp => (hbefore p).trans (hbut p hp)⟩

/-- A directory beside the output directory is outside, even if its name starts with that one's. -/
theorem writes_confined_beside :
    let files : List GeneratedFile := [⟨"a/../A.java", "", true⟩, ⟨"../output/B.java", "", true⟩]
    Confined ["out"] .empty (writeFiles ["out"] files .empty).tree ∧
      (writeFiles ["out"] files .empty).fault = some (.outside "../output/B.java") := by
  have hrun := writes_confined ["out"]
    [⟨"a/../A.java", "", true⟩, ⟨"../output/B.java", "", true⟩] .empty
  have hbeside := (hrun.2 1 ⟨"../output/B.java", "", true⟩ rfl (by decide +kernel)).1
    (by decide +kernel)
  exact ⟨hrun.1, hbeside.2⟩

/-- A path outside that has a null character is not refused for being outside. -/
theorem outside_not_told :
    let files : List GeneratedFile := [⟨"../a\x00", "x", true⟩]
    targetOf ["out"] ⟨"../a\x00", "x", true⟩ = ["a\x00"] ∧
      (writeFiles ["out"] files .empty).fault = some .nullCharacter ∧
      (Failure.writing .nullCharacter).kind? = none := by
  decide +kernel

end ClientGen.Files
