import Mathlib.Data.List.Forall2
import Mathlib.Data.List.Induction
import Mathlib.Logic.Equiv.Basic

/-!
# Lists

What the theory needs of lists beyond the library: searching, functions that leave all items, the
distinct items of a list, lists whose items stand beside each other, every other item of a list
([firsts], [seconds]), lists whose first items are in another order ([reordered]), and steps that
may be taken in any order and again ([Independent]).
-/

namespace ClientGen

/-! ## Searching -/

section
variable {α β : Type}

/-- Functions that agree on a list find the same thing in it. -/
theorem findSome?_congr {items : List α} {f g : α → Option β}
    (h : ∀ a ∈ items, f a = g a) : items.findSome? f = items.findSome? g := by
  induction items with
  | nil => rfl
  | cons a rest ih =>
    rw [List.findSome?_cons, List.findSome?_cons, h a List.mem_cons_self,
      ih fun b hb => h b (List.mem_cons_of_mem a hb)]

/-- What is left out of a list without effect makes no difference to what is found in it. -/
theorem findSome?_filter {items : List α} {f : α → Option β} {p : α → Bool}
    (h : ∀ a, f a ≠ none → p a = true) : (items.filter p).findSome? f = items.findSome? f := by
  induction items with
  | nil => rfl
  | cons a rest ih =>
    rw [List.filter_cons, List.findSome?_cons]
    split
    · rw [List.findSome?_cons, ih]
    · next hp =>
      have hf : f a = none := by
        by_contra hne
        exact hp (h a hne)
      rw [hf, ih]

/-- A function with one result finds this one, or nothing. -/
theorem findSome?_cases {f : α → Option β} {v : β} (h : ∀ x, f x = none ∨ f x = some v)
    (items : List α) : items.findSome? f = none ∨ items.findSome? f = some v := by
  cases hfound : items.findSome? f with
  | none => exact .inl rfl
  | some w =>
    obtain ⟨x, -, hx⟩ := List.exists_of_findSome?_eq_some hfound
    rw [← hx]
    exact h x

/-- It finds the same in every list with the same members. -/
theorem findSome?_congr_mem {items items' : List α} {f : α → Option β} {v : β}
    (h : ∀ x, f x = none ∨ f x = some v) (hmem : ∀ x, x ∈ items ↔ x ∈ items') :
    items.findSome? f = items'.findSome? f := by
  have hnone : items.findSome? f = none ↔ items'.findSome? f = none := by
    simp only [List.findSome?_eq_none_iff, hmem]
  rcases findSome?_cases h items with heq | heq
  · rw [heq, hnone.1 heq]
  · rcases findSome?_cases h items' with heq' | heq'
    · cases heq.symm.trans (hnone.2 heq')
    · rw [heq, heq']

/-- A function changes no item of a list just if it leaves every one. -/
theorem map_eq_self_iff {items : List α} {f : α → α} :
    items.map f = items ↔ ∀ a ∈ items, f a = a := by
  simpa using List.map_inj_left (f := f) (g := id) (l := items)

end

/-! ## Distinct elements in the order of their first appearance -/

section
variable {α : Type} [BEq α] [LawfulBEq α]

/-- One more element counts only if it is new. -/
theorem eraseDups_concat (as : List α) (a : α) :
    (as ++ [a]).eraseDups = if a ∈ as then as.eraseDups else as.eraseDups ++ [a] := by
  rw [List.eraseDups_append]
  by_cases h : a ∈ as
  · rw [if_pos h]
    simp [List.removeAll, h]
  · rw [if_neg h]
    simp [List.removeAll, h, List.eraseDups_cons]

/-- First appearances are distinct. -/
theorem nodup_eraseDups (as : List α) : as.eraseDups.Nodup := by
  induction as using List.reverseRecOn with
  | nil => exact List.nodup_nil
  | append_singleton as a ih =>
    rw [eraseDups_concat]
    split
    · exact ih
    · next h =>
      refine List.nodup_append.2 ⟨ih, List.pairwise_singleton _ a, fun b hb c hc hbc => ?_⟩
      rw [List.mem_singleton] at hc
      rw [hbc, hc] at hb
      exact h (List.mem_eraseDups.1 hb)

/-- Distinct elements all appear for the first time. -/
theorem eraseDups_of_nodup {as : List α} (h : as.Nodup) : as.eraseDups = as := by
  induction as using List.reverseRecOn with
  | nil => rfl
  | append_singleton as a ih =>
    have hnew : a ∉ as := fun ha =>
      (List.nodup_append.1 h).2.2 a ha a (List.mem_singleton_self a) rfl
    rw [eraseDups_concat, if_neg hnew, ih (List.nodup_append.1 h).1]

end

/-- Two functions that make one thing of the same items make distinct things of the same lists. -/
theorem nodup_map_iff_of_eq_iff {α β γ : Type} {items : List α} {f : α → β} {g : α → γ}
    (h : ∀ a ∈ items, ∀ b ∈ items, (f a = f b ↔ g a = g b)) :
    (items.map f).Nodup ↔ (items.map g).Nodup := by
  rw [List.Nodup, List.Nodup, List.pairwise_map, List.pairwise_map]
  exact List.Pairwise.iff_of_mem fun ha hb => not_congr (h _ ha _ hb)

/-! ## Side by side -/

section
variable {α β : Type} {R : α → β → Prop} {as : List α} {bs : List β}

/-- Whatever stands in the second list stands beside something. -/
theorem exists_mem_of_forall₂ (h : List.Forall₂ R as bs) {b : β} (hb : b ∈ bs) :
    ∃ a ∈ as, R a b := by
  induction h with
  | nil => cases hb
  | cons hab _ ih =>
    rcases List.mem_cons.1 hb with rfl | hb
    · exact ⟨_, List.mem_cons_self, hab⟩
    · obtain ⟨a, ha, hab⟩ := ih hb
      exact ⟨a, List.mem_cons_of_mem _ ha, hab⟩

/-- If a property is carried over from side to side, then some item has it on one side just if some
item has it on the other one. -/
theorem exists_mem_iff_of_forall₂ {p : α → Prop} {q : β → Prop} (h : List.Forall₂ R as bs)
    (hiff : ∀ a b, R a b → (p a ↔ q b)) : (∃ a ∈ as, p a) ↔ ∃ b ∈ bs, q b := by
  induction h with
  | nil => simp
  | cons hab _ ih => rw [List.exists_mem_cons_iff, List.exists_mem_cons_iff, hiff _ _ hab, ih]

/-- A relation may be changed using that its second side is in the list. -/
theorem forall₂_imp_of_mem {S : α → β → Prop} (h : List.Forall₂ R as bs)
    (himp : ∀ a, ∀ b ∈ bs, R a b → S a b) : List.Forall₂ S as bs := by
  induction h with
  | nil => exact .nil
  | cons hab _ ih =>
    exact .cons (himp _ _ List.mem_cons_self hab)
      (ih fun a b hb => himp a b (List.mem_cons_of_mem _ hb))

end

/-! ## Every other item -/

section
variable {α β : Type}

/-- The first one of every two. -/
def firsts : List α → List α
  | a :: _ :: rest => a :: firsts rest
  | rest => rest

/-- The second one of every two. -/
def seconds : List α → List α
  | _ :: b :: rest => b :: seconds rest
  | _ => []

/-- They are taken apart again. -/
theorem firsts_flatMap (f g : α → β) (items : List α) :
    firsts (items.flatMap fun a => [f a, g a]) = items.map f := by
  induction items with
  | nil => rfl
  | cons a rest ih => exact congrArg (f a :: ·) ih

theorem seconds_flatMap (f g : α → β) (items : List α) :
    seconds (items.flatMap fun a => [f a, g a]) = items.map g := by
  induction items with
  | nil => rfl
  | cons a rest ih => exact congrArg (g a :: ·) ih

end

/-! ## In another order -/

section
variable {α β : Type} {n : Nat} (σ : Equiv.Perm (Fin n))

/-- A list whose first `n` items are in another order: at each place is the item of the place that
it is mapped to. -/
def reordered (xs : List α) : List α :=
  xs.mapIdx fun i x => if h : i < n then xs[(σ ⟨i, h⟩).val]?.getD x else x

@[simp] theorem length_reordered (xs : List α) : (reordered σ xs).length = xs.length := by
  rw [reordered, List.length_mapIdx]

/-- The first items are mapped. -/
theorem getElem?_reordered {xs : List α} (hn : n ≤ xs.length) (i : Fin n) :
    (reordered σ xs)[i.val]? = xs[(σ i).val]? := by
  have hi : i.val < xs.length := Nat.lt_of_lt_of_le i.isLt hn
  have hσ : (σ i).val < xs.length := Nat.lt_of_lt_of_le (σ i).isLt hn
  rw [reordered, List.getElem?_mapIdx, List.getElem?_eq_getElem hi, Option.map_some,
    dif_pos i.isLt, List.getElem?_eq_getElem hσ, Option.getD_some]

/-- The other ones stay where they are. -/
theorem getElem?_reordered_of_le (xs : List α) {i : Nat} (hi : n ≤ i) :
    (reordered σ xs)[i]? = xs[i]? := by
  rw [reordered, List.getElem?_mapIdx]
  cases xs[i]? with
  | none => rfl
  | some x => rw [Option.map_some, dif_neg (Nat.not_lt.2 hi)]

/-- No item is added. -/
theorem mem_of_mem_reordered {xs : List α} {x : α} (h : x ∈ reordered σ xs) : x ∈ xs := by
  obtain ⟨i, hi⟩ := List.mem_iff_getElem?.1 h
  rw [reordered, List.getElem?_mapIdx, Option.map_eq_some_iff] at hi
  obtain ⟨y, hy, hx⟩ := hi
  split at hx
  · rename_i hlt
    cases hσ : xs[(σ ⟨i, hlt⟩).val]? with
    | none =>
      rw [hσ, Option.getD_none] at hx
      exact hx ▸ List.mem_of_getElem? hy
    | some z =>
      rw [hσ, Option.getD_some] at hx
      exact hx ▸ List.mem_of_getElem? hσ
  · exact hx ▸ List.mem_of_getElem? hy

/-- Nor is one lost, if the first ones are there. -/
theorem mem_reordered_iff {xs : List α} (hn : n ≤ xs.length) {x : α} :
    x ∈ reordered σ xs ↔ x ∈ xs := by
  refine ⟨mem_of_mem_reordered σ, fun h => ?_⟩
  obtain ⟨i, hi⟩ := List.mem_iff_getElem?.1 h
  by_cases hlt : i < n
  · refine List.mem_of_getElem? (i := σ.symm ⟨i, hlt⟩) ?_
    rw [getElem?_reordered σ hn, Equiv.apply_symm_apply, hi]
  · refine List.mem_of_getElem? (i := i) ?_
    rw [getElem?_reordered_of_le σ xs (Nat.not_lt.1 hlt), hi]

/-- What is done to each item is done in any order. -/
theorem reordered_map (f : α → β) (xs : List α) :
    reordered σ (xs.map f) = (reordered σ xs).map f := by
  refine List.ext_getElem? fun i => ?_
  simp only [reordered, List.getElem?_mapIdx, List.getElem?_map]
  cases xs[i]? with
  | none => rfl
  | some x =>
    simp only [Option.map_some]
    split
    · rw [Option.getD_map]
    · rfl

/-- Only the first items are in another order. -/
theorem reordered_append {xs : List α} (hn : xs.length = n) (ys : List α) :
    reordered σ (xs ++ ys) = reordered σ xs ++ ys := by
  refine List.ext_getElem? fun i => ?_
  by_cases hi : i < n
  · have hlength : n ≤ (xs ++ ys).length := by simp [hn]
    have hleft := getElem?_reordered σ hlength ⟨i, hi⟩
    have hright := getElem?_reordered σ (Nat.le_of_eq hn.symm) ⟨i, hi⟩
    rw [hleft, List.getElem?_append_left (by simp [hn]),
      List.getElem?_append_left (by simp [hn, hi]), hright]
  · rw [getElem?_reordered_of_le σ _ (Nat.not_lt.1 hi), List.getElem?_append_right (by omega),
      List.getElem?_append_right (by simp; omega), length_reordered]

end

/-! ## Steps in any order -/

section
variable {σ α : Type} {f : σ → α → σ} {steps : List α}

/-- Whether the order of some steps does not matter, nor how often each of them is taken. -/
structure Independent (f : σ → α → σ) (steps : List α) : Prop where
  /-- Two steps lead to the same state in either order. -/
  comm : ∀ a ∈ steps, ∀ b ∈ steps, ∀ s, f (f s a) b = f (f s b) a
  /-- A step that was just taken leads nowhere. -/
  again : ∀ a ∈ steps, ∀ s, f (f s a) a = f s a

namespace Independent

theorem mono {steps' : List α} (h : Independent f steps) (hsub : steps' ⊆ steps) :
    Independent f steps' where
  comm a ha b hb := h.comm a (hsub ha) b (hsub hb)
  again a ha := h.again a (hsub ha)

/-- A step in front makes no difference if it is taken later. -/
theorem foldl_step (h : Independent f steps) {a : α} (ha : a ∈ steps) (s : σ) :
    steps.foldl f (f s a) = steps.foldl f s := by
  induction steps generalizing s with
  | nil => cases ha
  | cons b rest ih =>
    rw [List.foldl_cons, List.foldl_cons]
    rcases List.mem_cons.1 ha with rfl | hrest
    · rw [h.again a List.mem_cons_self]
    · rw [h.comm a ha b List.mem_cons_self]
      exact ih (h.mono (List.subset_cons_self b rest)) hrest (f s b)

/-- Neither do several such steps. -/
theorem foldl_steps (h : Independent f steps) {before : List α} (hsub : before ⊆ steps) (s : σ) :
    steps.foldl f (before.foldl f s) = steps.foldl f s := by
  induction before generalizing s with
  | nil => rfl
  | cons a before ih =>
    rw [List.foldl_cons, ih fun b hb => hsub (List.mem_cons_of_mem a hb)]
    exact h.foldl_step (hsub List.mem_cons_self) s

/-- The same steps in another order, and with others repeated, lead to the same state. -/
theorem foldl_eq {steps' : List α} (h : Independent f steps) (hsub : steps ⊆ steps')
    (hsub' : steps' ⊆ steps) (s : σ) : steps'.foldl f s = steps.foldl f s := by
  have hboth : Independent f (steps ++ steps') :=
    h.mono (List.append_subset.2 ⟨List.Subset.refl steps, hsub'⟩)
  have hswap := List.perm_append_comm.foldl_eq' (fun a ha b hb => hboth.comm a ha b hb) s
  rw [List.foldl_append, List.foldl_append] at hswap
  rw [← (h.mono hsub').foldl_steps hsub s, hswap, h.foldl_steps hsub' s]

/-- If what is done at the end makes no difference to a step in front of it, then a run of all steps
that is closed so leads nowhere the second time. -/
theorem close_again (h : Independent f steps) (close : σ → σ)
    (hclosed : ∀ s, close (close s) = close s)
    (hstep : ∀ a ∈ steps, ∀ s, close (f (close s) a) = close (f s a)) (s : σ) :
    close (steps.foldl f (close (steps.foldl f s))) = close (steps.foldl f s) := by
  have hrun (rest : List α) (hrest : rest ⊆ steps) :
      ∀ s, close (rest.foldl f (close s)) = close (rest.foldl f s) := by
    induction rest with
    | nil => exact hclosed
    | cons a rest ih =>
      intro s
      have ih := ih fun b hb => hrest (List.mem_cons_of_mem a hb)
      rw [List.foldl_cons, List.foldl_cons, ← ih, hstep a (hrest List.mem_cons_self), ih]
  rw [hrun steps (List.Subset.refl steps), h.foldl_steps (List.Subset.refl steps)]

end Independent

end

end ClientGen
