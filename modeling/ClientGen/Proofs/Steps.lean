/-!
# Steps that may fail

What is computed in steps, each of which may fail, succeeds just if every step does: for two steps
([bind_eq_ok_iff]), for a step for each item of a list ([mapM_eq_ok], [forM_eq_ok_iff]), and for a
step whose fault is given another form ([mapError_eq_ok_iff]). Otherwise the fault is that of one of
the steps ([exists_error_of_forM], [exists_error_of_foldlM]), the first one that fails
([mapM_cases]).
-/

namespace ClientGen

/-- Steps that all succeed succeed together. -/
theorem mapM_eq_ok {α β ε : Type} {f : α → Except ε β} {g : α → β} (h : ∀ x, f x = .ok (g x))
    (items : List α) : items.mapM f = .ok (items.map g) := by
  have hf : f = fun x => pure (g x) := funext h
  rw [hf]
  exact List.mapM_pure

/-- Steps for the items of a list all succeed, or they end with the fault of the first one that
fails. -/
theorem mapM_cases {α β ε : Type} (f : α → Except ε β) (items : List α) :
    (∃ results, items.mapM f = .ok results ∧ items.map f = results.map .ok) ∨
      ∃ before x after fault, items = before ++ x :: after ∧
        (∀ y ∈ before, ∃ b, f y = .ok b) ∧ f x = .error fault ∧ items.mapM f = .error fault := by
  induction items with
  | nil => exact .inl ⟨[], rfl, rfl⟩
  | cons x rest ih =>
    rw [List.mapM_cons]
    cases hx : f x with
    | error fault => exact .inr ⟨[], x, rest, fault, rfl, fun y hy => (nomatch hy), hx, rfl⟩
    | ok b =>
      rcases ih with ⟨results, heq, hmap⟩ | ⟨before, y, after, fault, rfl, hbefore, hy, heq⟩
      · refine .inl ⟨b :: results, ?_, ?_⟩
        · rw [heq]
          rfl
        · rw [List.map_cons, hx, hmap, List.map_cons]
      · refine .inr ⟨x :: before, y, after, fault, rfl, ?_, hy, ?_⟩
        · exact List.forall_mem_cons.2 ⟨⟨b, hx⟩, hbefore⟩
        · rw [heq]
          rfl

/-- A sequence of two steps succeeds iff the first one does and the second one does with its
result. -/
theorem bind_eq_ok_iff {α β ε : Type} {x : Except ε α} {f : α → Except ε β} {b : β} :
    x >>= f = .ok b ↔ ∃ a, x = .ok a ∧ f a = .ok b := by
  cases x with
  | error e => exact iff_of_false (fun h => by cases h) (fun ⟨_, h, _⟩ => by cases h)
  | ok a =>
    refine ⟨fun h => ⟨a, rfl, h⟩, ?_⟩
    rintro ⟨_, ha, h⟩
    cases ha
    exact h

section
variable {α ε ε' : Type} (f : ε → ε')

/-- Another form of faults does not change what succeeds. -/
@[simp] theorem mapError_ok (a : α) : (Except.ok a : Except ε α).mapError f = .ok a :=
  rfl

/-- It is the form of every fault. -/
@[simp] theorem mapError_error (e : ε) :
    (Except.error e : Except ε α).mapError f = .error (f e) :=
  rfl

end

/-- Giving a fault another form leaves what succeeds. -/
theorem mapError_eq_ok_iff {α ε ε' : Type} {x : Except ε α} {f : ε → ε'} {a : α} :
    x.mapError f = .ok a ↔ x = .ok a := by
  cases x with
  | error e => exact iff_of_false (fun h => by cases h) (fun h => by cases h)
  | ok b => rw [mapError_ok, Except.ok.injEq, Except.ok.injEq]

/-- Checks that are made one after the other all succeed just if each does. -/
theorem forM_eq_ok_iff {α ε : Type} {f : α → Except ε Unit} {items : List α} :
    items.forM f = .ok () ↔ ∀ x ∈ items, f x = .ok () := by
  induction items with
  | nil => exact iff_of_true rfl fun x hx => nomatch hx
  | cons x rest ih =>
    rw [List.forM, bind_eq_ok_iff, List.forall_mem_cons, ← ih]
    exact ⟨fun ⟨(), hx, hrest⟩ => ⟨hx, hrest⟩, fun ⟨hx, hrest⟩ => ⟨(), hx, hrest⟩⟩

/-- If such checks do not succeed, the fault is that of one of them. -/
theorem exists_error_of_forM {α ε : Type} {f : α → Except ε Unit} {items : List α} {fault : ε}
    (h : items.forM f = .error fault) : ∃ x ∈ items, f x = .error fault := by
  induction items with
  | nil => cases h
  | cons x rest ih =>
    rw [List.forM] at h
    cases hx : f x with
    | error e =>
      rw [hx] at h
      cases h
      exact ⟨x, List.mem_cons_self, hx⟩
    | ok u =>
      rw [hx] at h
      obtain ⟨y, hy, hfault⟩ := ih h
      exact ⟨y, List.mem_cons_of_mem _ hy, hfault⟩

/-- So it is for changes that are made one after the other. -/
theorem exists_error_of_foldlM {α β ε : Type} {f : β → α → Except ε β} {items : List α} {b : β}
    {fault : ε} (h : items.foldlM f b = .error fault) :
    ∃ b', ∃ x ∈ items, f b' x = .error fault := by
  induction items generalizing b with
  | nil => cases h
  | cons x rest ih =>
    rw [List.foldlM_cons] at h
    cases hx : f b x with
    | error e =>
      rw [hx] at h
      cases h
      exact ⟨b, x, List.mem_cons_self, hx⟩
    | ok next =>
      rw [hx] at h
      obtain ⟨b', y, hy, hfault⟩ := ih h
      exact ⟨b', y, List.mem_cons_of_mem _ hy, hfault⟩

end ClientGen
