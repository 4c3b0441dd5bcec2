import ClientGen.Proofs.Grouping.Names

/-!
# The search for a free name

A free name is looked for without a bound: as long as the name that is tried is taken, the next
number is tried ([NameSearch.turn?]). So the name itself and then its numbered forms are tried, one
after the other ([NameSearch.candidate]), and the search comes to the `n`-th of them just if all
before it are taken ([NameSearch.after?_eq_some_iff]). As they are distinct and only finitely many
names are taken, it ends, and the name that it ends with is the one that a bounded search gives
([search_ends]).
-/

namespace ClientGen.Client

/-- Where a search stands: the name that is tried, and the number that is tried next. -/
structure NameSearch where
  name : String
  counter : Nat
  deriving DecidableEq, Repr

namespace NameSearch

/-- First the name itself is tried. -/
def start (id : String) : NameSearch := ⟨id, 0⟩

/-- One turn of a search. There is none if the name that is tried is free. -/
def turn? (id : String) (taken : List String) (s : NameSearch) : Option NameSearch :=
  if s.name ∈ taken then some ⟨numbered id s.counter, s.counter + 1⟩ else none

/-- Where a search stands after some turns, if it takes so many. -/
def after? (id : String) (taken : List String) : Nat → Option NameSearch
  | 0 => some (start id)
  | n + 1 => (after? id taken n).bind (turn? id taken)

/-- The names that are tried. -/
def candidate (id : String) : Nat → String
  | 0 => id
  | n + 1 => numbered id n

section
variable {id : String} {taken : List String}

/-- A turn goes from one candidate to the next. -/
theorem turn?_candidate (n : Nat) : turn? id taken ⟨candidate id n, n⟩ =
    if candidate id n ∈ taken then some ⟨candidate id (n + 1), n + 1⟩ else none := rfl

/-- A search comes to a candidate just if those before it are taken. -/
theorem after?_eq_some_iff {n : Nat} {s : NameSearch} :
    after? id taken n = some s ↔
      s = ⟨candidate id n, n⟩ ∧ ∀ m < n, candidate id m ∈ taken := by
  induction n generalizing s with
  | zero =>
    rw [after?, Option.some.injEq, eq_comm]
    exact (and_iff_left fun m hm => absurd hm (Nat.not_lt_zero m)).symm
  | succ n ih =>
    rw [after?, Option.bind_eq_some_iff]
    constructor
    · rintro ⟨before, hbefore, hturn⟩
      obtain ⟨rfl, htaken⟩ := ih.1 hbefore
      rw [turn?_candidate] at hturn
      split at hturn
      · next hn =>
        cases hturn
        refine ⟨rfl, fun m hm => ?_⟩
        rcases Nat.lt_succ_iff_lt_or_eq.1 hm with hm | rfl
        · exact htaken m hm
        · exact hn
      · cases hturn
    · rintro ⟨rfl, htaken⟩
      refine ⟨⟨candidate id n, n⟩, ih.2 ⟨rfl, fun m hm => htaken m (by omega)⟩, ?_⟩
      rw [turn?_candidate, if_pos (htaken n (Nat.lt_succ_self n))]

/-- So it ends at a free candidate before which all are taken. -/
theorem ends_of_free {n : Nat} (hfree : candidate id n ∉ taken)
    (hbefore : ∀ m < n, candidate id m ∈ taken) :
    after? id taken n = some ⟨candidate id n, n⟩ ∧ after? id taken (n + 1) = none := by
  refine ⟨after?_eq_some_iff.2 ⟨rfl, hbefore⟩, ?_⟩
  rw [Option.eq_none_iff_forall_not_mem]
  intro s hs
  exact hfree ((after?_eq_some_iff.1 hs).2 n (Nat.lt_succ_self n))

end

end NameSearch

/-- The number behind a name is written in decimal digits. -/
theorem toList_numbered (id : String) (n : Nat) :
    (numbered id n).toList = id.toList ++ '_' :: Nat.toDigits 10 n := by
  rw [numbered, String.toList_append, String.toList_append, Nat.toString_eq_repr, Nat.toList_repr,
    List.append_assoc]
  rfl

/-- Whatever names are taken, the search ends, after as many turns as there are distinct ones at
most. The name that it ends with is the own one, if this is free, and otherwise that with the least
number that makes it free, which is below the number of distinct taken names. -/
theorem search_ends (id : String) (taken : List String) :
    (∃ turns ≤ taken.toFinset.card,
      NameSearch.after? id taken turns = some ⟨uniqueId id taken, turns⟩ ∧
        NameSearch.after? id taken (turns + 1) = none) ∧
      (id ∉ taken → uniqueId id taken = id) ∧
      (id ∈ taken → ∃ k < taken.toFinset.card, uniqueId id taken = numbered id k ∧
        (numbered id k).toList = id.toList ++ '_' :: Nat.toDigits 10 k ∧
        numbered id k ∉ taken ∧ ∀ j < k, numbered id j ∈ taken) := by
  rcases uniqueId_cases id taken with ⟨hfree, heq⟩ | ⟨htaken, k, hk, heq, hfree, hleast⟩
  · refine ⟨⟨0, Nat.zero_le _, ?_⟩, fun _ => heq, fun h => absurd h hfree⟩
    rw [heq]
    exact NameSearch.ends_of_free (n := 0) hfree fun m hm => absurd hm (Nat.not_lt_zero m)
  · refine ⟨⟨k + 1, hk, ?_⟩, fun h => absurd htaken h,
      fun _ => ⟨k, hk, heq, toList_numbered id k, hfree, hleast⟩⟩
    rw [heq]
    refine NameSearch.ends_of_free (n := k + 1) hfree fun m hm => ?_
    cases m with
    | zero => exact htaken
    | succ m => exact hleast m (by omega)

/-- Of three taken names two are the same, and the first free number is the second one. -/
theorem search_ends_repeated :
    let taken := ["findPets", "findPets_0", "findPets_0"]
    uniqueId "findPets" taken = "findPets_1" ∧
      ∃ turns ≤ 2, NameSearch.after? "findPets" taken turns = some ⟨"findPets_1", turns⟩ ∧
        NameSearch.after? "findPets" taken (turns + 1) = none := by
  intro taken
  have hname : uniqueId "findPets" taken = "findPets_1" := by decide +kernel
  have hcard : taken.toFinset.card = 2 := by decide +kernel
  obtain ⟨turns, hturns, hends⟩ := (search_ends "findPets" taken).1
  rw [hname] at hends
  exact ⟨hname, turns, hcard ▸ hturns, hends⟩

end ClientGen.Client
