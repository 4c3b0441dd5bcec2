/-!
# Association lists

A list of pairs with distinct keys in the order in which the keys came first. [Assoc.insert] keeps
the place and the spelling of a key that is there already and replaces its value; [Assoc.update]
does so for every pair of a second list, so that the later source wins. What is found in the results
is told for keys that are equal to no other key ([Exact]), since the comparison of keys need not be
lawful: [lookup_insert], [lookup_update] and [lookup_insertNew], and for folds of such steps
[lookup_foldl_insert] and [lookup_foldl_insertNew].
-/

namespace ClientGen.Assoc

variable {α β : Type} [BEq α]

/-- The list with `v` at the key `k`. -/
def insert (k : α) (v : β) : List (α × β) → List (α × β)
  | [] => [(k, v)]
  | (k', v') :: rest => if k' == k then (k', v) :: rest else (k', v') :: insert k v rest

/-- The list with the pairs of `later` put in one after the other. -/
def update (entries later : List (α × β)) : List (α × β) :=
  later.foldl (fun acc (k, v) => insert k v acc) entries

/-- The pairs of a list, of which the last one with a key decides its value. -/
def ofList (pairs : List (α × β)) : List (α × β) :=
  update [] pairs

/-- Whether a key is there. -/
def contains (entries : List (α × β)) (k : α) : Bool :=
  entries.any (·.1 == k)

/-- The list with `v` at the key `k`, unless the key is there already. -/
def insertNew (k : α) (v : β) (entries : List (α × β)) : List (α × β) :=
  if contains entries k then entries else entries ++ [(k, v)]

/-- The list without a key. -/
def erase (entries : List (α × β)) (k : α) : List (α × β) :=
  entries.filter (!·.1 == k)

/-- A new key goes to the end. -/
theorem insert_of_not_contains {k : α} {entries : List (α × β)} (h : contains entries k = false)
    (v : β) : insert k v entries = entries ++ [(k, v)] := by
  induction entries with
  | nil => rfl
  | cons e rest ih =>
    rw [contains, List.any_cons, Bool.or_eq_false_iff] at h
    rw [insert, if_neg (Bool.not_eq_true _ ▸ h.1), ih h.2, List.cons_append]

/-- Pairs of which no two have one key, and none a key that is there, all go to the end. -/
theorem update_eq_append {entries pairs : List (α × β)}
    (hnew : ∀ e ∈ pairs, contains entries e.1 = false)
    (h : pairs.Pairwise fun e e' => (e.1 == e'.1) = false) :
    update entries pairs = entries ++ pairs := by
  induction pairs generalizing entries with
  | nil => exact (List.append_nil entries).symm
  | cons e rest ih =>
    obtain ⟨hone, hrest⟩ := List.pairwise_cons.1 h
    have hinsert := insert_of_not_contains (hnew e List.mem_cons_self) e.2
    have hstep : update entries (e :: rest) = update (insert e.1 e.2 entries) rest := rfl
    rw [hstep, hinsert, ih ?_ hrest, List.append_assoc]
    · rfl
    · intro e' he'
      rw [contains, List.any_append, Bool.or_eq_false_iff]
      exact ⟨hnew e' (List.mem_cons_of_mem e he'), by simp [hone e' he']⟩

/-- Pairs of which no two have one key are kept. -/
theorem ofList_eq_self {pairs : List (α × β)}
    (h : pairs.Pairwise fun e e' => (e.1 == e'.1) = false) : ofList pairs = pairs :=
  update_eq_append (fun _ _ => rfl) h

/-- The keys are those that were there and the new one. -/
theorem key_mem_of_mem_insert {k : α} {v : β} {entries : List (α × β)} {e : α × β}
    (h : e ∈ insert k v entries) : e.1 = k ∨ ∃ e' ∈ entries, e'.1 = e.1 := by
  induction entries with
  | nil => exact .inl (congrArg Prod.fst (List.mem_singleton.1 h))
  | cons e' rest ih =>
    rw [insert] at h
    split at h
    · rcases List.mem_cons.1 h with rfl | h
      · exact .inr ⟨e', List.mem_cons_self, rfl⟩
      · exact .inr ⟨e, List.mem_cons_of_mem e' h, rfl⟩
    · rcases List.mem_cons.1 h with rfl | h
      · exact .inr ⟨e', List.mem_cons_self, rfl⟩
      · rcases ih h with hk | ⟨e₀, he₀, hk⟩
        · exact .inl hk
        · exact .inr ⟨e₀, List.mem_cons_of_mem e' he₀, hk⟩

/-- What is not there need not be taken out. -/
theorem erase_of_not_contains {k : α} {entries : List (α × β)} (h : contains entries k = false) :
    erase entries k = entries := by
  rw [contains, List.any_eq_false] at h
  refine List.filter_eq_self.2 fun e he => ?_
  rw [eq_false_of_ne_true (h e he), Bool.not_false]

/-- What was put in is taken out. -/
theorem erase_insert [ReflBEq α] (k : α) (v : β) (entries : List (α × β)) :
    erase (insert k v entries) k = erase entries k := by
  induction entries with
  | nil =>
    rw [insert, erase, List.filter_cons_of_neg (by simp)]
    rfl
  | cons e rest ih =>
    obtain ⟨k', v'⟩ := e
    rw [insert]
    by_cases hk : k' == k
    · rw [if_pos hk, erase, erase, List.filter_cons_of_neg (by simp [hk]),
        List.filter_cons_of_neg (by simp [hk])]
    · rw [if_neg hk, erase, erase, List.filter_cons_of_pos (by simp [hk]),
        List.filter_cons_of_pos (by simp [hk])]
      exact congrArg ((k', v') :: ·) ih

/-! ## Looking up -/

/-- What is found at a key stands beside it. -/
theorem mem_of_lookup [LawfulBEq α] {k : α} {v : β} {entries : List (α × β)}
    (h : entries.lookup k = some v) : (k, v) ∈ entries := by
  obtain ⟨before, after, hsplit, _⟩ := List.lookup_eq_some_iff.1 h
  rw [hsplit]
  exact List.mem_append_right before List.mem_cons_self

/-- Whether a key is equal to no other key, on either side. -/
def Exact (q : α) : Prop := ∀ k : α, (q == k ↔ k = q) ∧ (k == q ↔ k = q)

/-- Keys that are compared lawfully are all exact. -/
theorem exact_of_lawful [LawfulBEq α] (q : α) : Exact q := fun _ =>
  ⟨by rw [beq_iff_eq, eq_comm], beq_iff_eq⟩

/-- What stands beside an exact key is found there, if nothing else stands beside it. -/
theorem lookup_of_mem {q : α} (hq : Exact q) {v : β} {entries : List (α × β)}
    (h : (q, v) ∈ entries) (hone : ∀ e ∈ entries, e.1 = q → e = (q, v)) :
    entries.lookup q = some v := by
  induction entries with
  | nil => cases h
  | cons e rest ih =>
    rw [List.lookup_cons]
    cases hqe : q == e.1 with
    | true => rw [hone e List.mem_cons_self ((hq e.1).1.1 hqe)]
    | false =>
      rcases List.mem_cons.1 h with rfl | h
      · rw [(hq q).1.2 rfl] at hqe
        cases hqe
      · exact ih h fun e he => hone e (List.mem_cons_of_mem _ he)

/-- Nothing is found at an exact key beside which nothing stands. -/
theorem lookup_eq_none {q : α} (hq : Exact q) {entries : List (α × β)}
    (h : ∀ e ∈ entries, e.1 ≠ q) : entries.lookup q = none := by
  refine List.lookup_eq_none_iff.2 fun e he => ?_
  rw [bne, Bool.not_eq_true', ← Bool.not_eq_true]
  exact fun hqe => h e he ((hq e.1).1.1 hqe)

/-- What is put in is found at an exact key, and nothing else changes there. -/
theorem lookup_insert {q : α} (hq : Exact q) (k : α) (v : β) (entries : List (α × β)) :
    (insert k v entries).lookup q = if q == k then some v else entries.lookup q := by
  induction entries with
  | nil =>
    simp only [insert, List.lookup_cons, List.lookup_nil]
    cases q == k <;> rfl
  | cons e rest ih =>
    obtain ⟨k', v'⟩ := e
    by_cases hk : k' == k
    · simp only [insert, hk, if_true, List.lookup_cons]
      have heq : (q == k') = (q == k) := by
        rw [Bool.eq_iff_iff]
        refine ⟨fun h => ?_, fun h => ?_⟩
        · rwa [(hq k').1.mp h] at hk
        · rw [(hq k).1.mp h] at hk
          exact (hq k').1.mpr ((hq k').2.mp hk)
      rw [heq]
      cases q == k <;> rfl
    · simp only [insert, hk, Bool.false_eq_true, if_false, List.lookup_cons, ih]
      cases hq' : q == k'
      · rfl
      · have hne : ¬q == k := fun h => by
          rw [(hq k).1.mp h] at hk
          exact hk ((hq k').2.mpr ((hq k').1.mp hq'))
        simp only [hne, Bool.false_eq_true, if_false]

/-- In an updated list the last value of the later source is found, or else the earlier one. -/
theorem lookup_update {q : α} (hq : Exact q) (entries later : List (α × β)) :
    (update entries later).lookup q = (later.reverse.lookup q).or (entries.lookup q) := by
  induction later generalizing entries with
  | nil => rfl
  | cons e rest ih =>
    obtain ⟨k, v⟩ := e
    have hstep : update entries ((k, v) :: rest) = update (insert k v entries) rest := rfl
    rw [hstep, ih, lookup_insert hq, List.reverse_cons, List.lookup_append, Option.or_assoc]
    congr 1
    rw [List.lookup_cons, List.lookup_nil]
    cases q == k <;> rfl

/-- Of the pairs of a list the last one with a key is found. -/
theorem lookup_ofList {q : α} (hq : Exact q) (pairs : List (α × β)) :
    (ofList pairs).lookup q = pairs.reverse.lookup q := by
  rw [ofList, lookup_update hq, List.lookup_nil, Option.or_none]

/-- A key is there if something is found at it. -/
theorem contains_eq_isSome_lookup {q : α} (hq : Exact q) (entries : List (α × β)) :
    contains entries q = (entries.lookup q).isSome := by
  induction entries with
  | nil => rfl
  | cons e rest ih =>
    obtain ⟨k, v⟩ := e
    have heq : (k == q) = (q == k) := by rw [Bool.eq_iff_iff, (hq k).1, (hq k).2]
    rw [contains, List.any_cons, List.lookup_cons, heq]
    rw [contains] at ih
    cases q == k with
    | true => rfl
    | false => rw [ih, Bool.false_or]

/-- What is put in as new is found where nothing was found before. -/
theorem lookup_insertNew {q : α} (hq : Exact q) {k : α} (hk : Exact k) (v : β)
    (entries : List (α × β)) :
    (insertNew k v entries).lookup q =
      (entries.lookup q).or (if q == k then some v else none) := by
  rw [insertNew, contains_eq_isSome_lookup hk]
  cases hl : entries.lookup k with
  | none =>
    simp only [Option.isSome_none, Bool.false_eq_true, if_false, List.lookup_append,
      List.lookup_cons, List.lookup_nil]
    congr 1
    cases q == k <;> rfl
  | some w =>
    simp only [Option.isSome_some, if_true]
    cases hqk : q == k with
    | false => rw [if_neg Bool.false_ne_true, Option.or_none]
    | true =>
      rw [(hq k).1.mp hqk] at hl
      rw [hl, Option.some_or]

/-- A fold whose steps change nothing at a key changes nothing there. -/
theorem lookup_foldl_of_forall {γ : Type} {q : α} {step : List (α × β) → γ → List (α × β)}
    {items : List γ} (h : ∀ acc, ∀ x ∈ items, (step acc x).lookup q = acc.lookup q)
    (entries : List (α × β)) : (items.foldl step entries).lookup q = entries.lookup q := by
  induction items generalizing entries with
  | nil => rfl
  | cons x rest ih =>
    rw [List.foldl_cons, ih fun acc y hy => h acc y (List.mem_cons_of_mem x hy)]
    exact h entries x List.mem_cons_self

/-- After putting in a value for every item, the one for a key is found there if there is an item
with it. -/
theorem lookup_foldl_insert {γ : Type} [LawfulBEq α] (value : α → β) (items : List (α × γ))
    (entries : List (α × β)) (q : α) :
    (items.foldl (fun acc x => insert x.1 (value x.1) acc) entries).lookup q =
      if (items.map (·.1)).contains q then some (value q) else entries.lookup q := by
  induction items generalizing entries with
  | nil => rfl
  | cons x rest ih =>
    rw [List.foldl_cons, ih, lookup_insert (exact_of_lawful q), List.map_cons, List.contains_cons]
    cases hx : q == x.1 with
    | false => rw [Bool.false_or, if_neg Bool.false_ne_true]
    | true => rw [Bool.true_or, if_pos rfl, if_pos rfl, eq_of_beq hx, ite_self]

/-- After putting in a value for every item as new, what was found before is found, or else the
value for the first item with the key. -/
theorem lookup_foldl_insertNew {γ : Type} [LawfulBEq α] (value : γ → β) (items : List (α × γ))
    (entries : List (α × β)) (q : α) :
    (items.foldl (fun acc x => insertNew x.1 (value x.2) acc) entries).lookup q =
      (entries.lookup q).or ((items.lookup q).map value) := by
  induction items generalizing entries with
  | nil => exact (Option.or_none).symm
  | cons x rest ih =>
    obtain ⟨k, target⟩ := x
    rw [List.foldl_cons, ih, lookup_insertNew (exact_of_lawful q) (exact_of_lawful k),
      Option.or_assoc, List.lookup_cons]
    congr 1
    cases q == k <;> rfl

end ClientGen.Assoc
