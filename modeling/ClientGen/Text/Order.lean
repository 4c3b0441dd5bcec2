/-!
# Texts in order

Texts are compared by their code points. [sorted] puts them in order and keeps repetitions;
[NameSet] is a set of texts, which is listed in order and without repetitions.
-/

namespace ClientGen.Text

/-- The place of a text in a list in order. -/
def insertSorted (s : String) : List String → List String
  | [] => [s]
  | t :: rest => if s ≤ t then s :: t :: rest else t :: insertSorted s rest

/-- Texts in order. -/
def sorted (names : List String) : List String := names.foldr insertSorted []

/-- A text put into a list in order, unless it is there. -/
def insertOnce (s : String) : List String → List String
  | [] => [s]
  | t :: rest =>
    if s < t then s :: t :: rest else if s = t then t :: rest else t :: insertOnce s rest

end ClientGen.Text

namespace ClientGen

open Text

/-- What is put into a list in order is in it, beside what was there. -/
theorem Text.mem_insertOnce {s t : String} {names : List String} :
    t ∈ insertOnce s names ↔ t = s ∨ t ∈ names := by
  induction names with
  | nil => simp [insertOnce]
  | cons u rest ih =>
    by_cases h1 : s < u
    · simp [insertOnce, h1]
    · by_cases h2 : s = u
      · subst h2
        simp [insertOnce]
      · simp only [insertOnce, h1, h2, if_false, List.mem_cons, ih]
        constructor
        · rintro (h | h | h)
          · exact .inr (.inl h)
          · exact .inl h
          · exact .inr (.inr h)
        · rintro (h | h | h)
          · exact .inr (.inl h)
          · exact .inl h
          · exact .inr (.inr h)

/-- A list in order without repetitions stays one. -/
theorem Text.pairwise_insertOnce (s : String) {names : List String}
    (h : names.Pairwise (· < ·)) : (insertOnce s names).Pairwise (· < ·) := by
  induction names with
  | nil => simp [insertOnce]
  | cons u rest ih =>
    obtain ⟨hu, hrest⟩ := List.pairwise_cons.1 h
    by_cases h1 : s < u
    · simp only [insertOnce, h1, if_true]
      refine List.pairwise_cons.2 ⟨fun t ht => ?_, h⟩
      rcases List.mem_cons.1 ht with rfl | ht
      · exact h1
      · exact String.lt_trans h1 (hu t ht)
    · by_cases h2 : s = u
      · subst h2
        simpa [insertOnce, h1] using h
      · simp only [insertOnce, h1, h2, if_false]
        refine List.pairwise_cons.2 ⟨fun t ht => ?_, ih hrest⟩
        rcases Text.mem_insertOnce.1 ht with rfl | ht
        · exact Std.lt_of_le_of_ne (Std.not_lt.1 h1) (Ne.symm h2)
        · exact hu t ht

/-- A set of texts. -/
structure NameSet where
  toList : List String := []
  ordered : toList.Pairwise (· < ·) := by exact List.Pairwise.nil
  deriving DecidableEq

namespace NameSet

instance : Membership String NameSet := ⟨fun s n => n ∈ s.toList⟩

instance (n : String) (s : NameSet) : Decidable (n ∈ s) :=
  inferInstanceAs (Decidable (n ∈ s.toList))

instance : Repr NameSet := ⟨fun s p => reprPrec s.toList p⟩

/-- The set without members. -/
def empty : NameSet := {}

instance : Inhabited NameSet := ⟨empty⟩

/-- The set with one more member. -/
def insert (s : NameSet) (n : String) : NameSet :=
  ⟨insertOnce n s.toList, pairwise_insertOnce n s.ordered⟩

/-- The set with further members. -/
def insertAll (s : NameSet) (names : List String) : NameSet := names.foldl insert s

/-- The set of some texts. -/
def ofList (names : List String) : NameSet := empty.insertAll names

/-- The set without a member. -/
def erase (s : NameSet) (n : String) : NameSet :=
  ⟨s.toList.filter (· != n), s.ordered.filter _⟩

/-- The set without some members. -/
def eraseAll (s : NameSet) (names : List String) : NameSet := names.foldl erase s

/-- The members of both sets. -/
def union (s t : NameSet) : NameSet := s.insertAll t.toList

/-! ## Members -/

section
variable {s t : NameSet} {n : String}

@[simp] theorem not_mem_empty (n : String) : n ∉ empty := List.not_mem_nil

@[simp] theorem mem_insert {m : String} : n ∈ s.insert m ↔ n = m ∨ n ∈ s := mem_insertOnce

@[simp] theorem mem_insertAll {names : List String} :
    n ∈ s.insertAll names ↔ n ∈ names ∨ n ∈ s := by
  induction names generalizing s with
  | nil => simp [insertAll]
  | cons m names ih =>
    rw [insertAll, List.foldl_cons, ← insertAll, ih, mem_insert, List.mem_cons]
    exact or_left_comm.trans or_assoc.symm

@[simp] theorem mem_ofList {names : List String} : n ∈ ofList names ↔ n ∈ names := by
  simp [ofList]

@[simp] theorem mem_erase {m : String} : n ∈ s.erase m ↔ n ∈ s ∧ n ≠ m :=
  List.mem_filter.trans (and_congr_right' bne_iff_ne)

@[simp] theorem mem_eraseAll {names : List String} :
    n ∈ s.eraseAll names ↔ n ∈ s ∧ n ∉ names := by
  induction names generalizing s with
  | nil => simp [eraseAll]
  | cons m names ih =>
    rw [eraseAll, List.foldl_cons, ← eraseAll, ih, mem_erase, List.mem_cons, not_or, and_assoc]

@[simp] theorem mem_union : n ∈ s.union t ↔ n ∈ t ∨ n ∈ s := mem_insertAll

/-- The members of many sets are those of any of them. -/
theorem mem_foldl_union {α : Type} {f : α → NameSet} {items : List α} :
    n ∈ items.foldl (fun acc x => acc.union (f x)) s ↔ n ∈ s ∨ ∃ x ∈ items, n ∈ f x := by
  induction items generalizing s with
  | nil => simp
  | cons x items ih =>
    rw [List.foldl_cons, ih, mem_union, or_comm (a := n ∈ f x), or_assoc]
    simp

end

end NameSet

end ClientGen
