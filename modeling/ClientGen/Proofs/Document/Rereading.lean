import ClientGen.Document.Reader
import ClientGen.Document.Writer
import ClientGen.Proofs.Lists

/-!
# Reading data that was written

Data is written as a document in more than one way: the fields of a record stand in any order, and
each of them under either of its names ([IsRecord]). A reader of a record finds what was written
([IsRecord.exists_found]), and the readers of its fields give back the data whose documents they are
given ([ReadsBack]). The other way round, what a reader has made of the items of a field comes from
the values that stand there ([forall₂_itemsIn]).
-/

namespace ClientGen.Document

variable {α β : Type}

/-! ## Readers of single values -/

/-- Whether a reader gives back all data whose documents it is given. -/
def ReadsBack [ToDocument α] (r : Reader α) : Prop := ∀ a, r (toDocument a) = .sound a

/-- A value is its own document. -/
@[simp] theorem toDocument_value (v : Value) : toDocument v = v := rfl

theorem readsBack_anything : ReadsBack anything := fun _ => rfl

theorem readsBack_text : ReadsBack text := fun _ => rfl

theorem readsBack_integer : ReadsBack integer := fun _ => rfl

theorem readsBack_truth : ReadsBack truth := fun _ => rfl

theorem readsBack_number : ReadsBack number := by
  intro n
  cases n <;> rfl

/-- A value that is not absent is read by the reader itself. -/
theorem nullable_of_not_null (r : Reader α) {v : Value} (h : v.isNull = false) :
    nullable r v = some <$> r v := by
  cases v with
  | null => cases h
  | _ => rfl

/-- Data whose document is never the absent value may be absent. -/
theorem ReadsBack.nullable [ToDocument α] {r : Reader α} (h : ReadsBack r)
    (hnull : ∀ a : α, (toDocument a).isNull = false) : ReadsBack (nullable r) := by
  intro a
  cases a with
  | none => rfl
  | some a =>
    have hread : Document.nullable r (toDocument a) = some <$> r (toDocument a) :=
      nullable_of_not_null r (hnull a)
    refine hread.trans ?_
    rw [h a]
    rfl

/-- Items are read one by one. -/
theorem items_of_forall₂ {r : Reader α} {as : List α} {vs : List Value}
    (h : List.Forall₂ (fun a v => r v = .sound a) as vs) (index : Nat) :
    items r index vs = .sound as := by
  induction h generalizing index with
  | nil => rfl
  | cons hread _ ih =>
    rw [items, hread, ih (index + 1)]
    rfl

theorem ReadsBack.list [ToDocument α] {r : Reader α} (h : ReadsBack r) : ReadsBack (list r) := by
  intro as
  refine items_of_forall₂ (List.forall₂_map_right_iff.2 ?_) 0
  exact List.forall₂_same.2 fun a _ => h a

/-! ## What is written -/

/-- A value is the document of some data. -/
def Is [ToDocument α] (a : α) (v : Value) : Prop := v = toDocument a

/-- A value is a list of what some data may be written as. -/
def IsList (form : α → Value → Prop) (as : List α) (v : Value) : Prop :=
  ∃ vs, v = .list vs ∧ List.Forall₂ form as vs

/-- A field of a record, and what may be written for it. -/
structure Field where
  name : Name
  form : Value → Prop

/-- Whether a key is one of the names of a field. -/
def Name.Names (n : Name) (k : Key) : Prop := k = .text n.key ∨ k = .text n.other

/-- A value is a mapping of some fields: each stands under one of its names, in any order. -/
def IsRecord (fields : List Field) (v : Value) : Prop :=
  ∃ written entries, List.Forall₂ (fun f e => f.name.Names e.1 ∧ f.form e.2) fields written ∧
    written.Perm entries ∧ v = .map entries

theorem ReadsBack.of_is [ToDocument α] {r : Reader α} (h : ReadsBack r) {a : α} (v : Value)
    (hv : Is a v) : r v = .sound a := hv ▸ h a

/-- A list is read if its items are. -/
theorem list_of_isList {f : α → β} {r : Reader β} {form : α → Value → Prop}
    (h : ∀ a v, form a v → r v = .sound (f a)) {as : List α} (v : Value)
    (hv : IsList form as v) : list r v = .sound (as.map f) := by
  obtain ⟨vs, rfl, hvs⟩ := hv
  exact items_of_forall₂ (List.forall₂_map_left_iff.2 (hvs.imp h)) 0

/-! ## Fields -/

/-- Two fields that have no name in common. -/
def Name.Apart (m n : Name) : Prop :=
  m.key ≠ n.key ∧ m.key ≠ n.other ∧ m.other ≠ n.key ∧ m.other ≠ n.other

instance : DecidableRel Name.Apart := fun m n =>
  inferInstanceAs (Decidable (m.key ≠ n.key ∧ m.key ≠ n.other ∧ m.other ≠ n.key ∧
    m.other ≠ n.other))

/-- No key is a name of both. -/
theorem Name.Apart.not_names {m n : Name} (h : m.Apart n) {k : Key} (hm : m.Names k) :
    ¬n.Names k := by
  obtain ⟨h₁, h₂, h₃, h₄⟩ := h
  rintro (hn | hn) <;> rcases hm with hm | hm <;> rw [hm, Key.text.injEq] at hn
  · exact h₁ hn
  · exact h₃ hn
  · exact h₂ hn
  · exact h₄ hn

/-- Whether something is found for a field, and has a form. -/
def Found (entries : List (Key × Value)) (n : Name) (form : Value → Prop) : Prop :=
  ∃ name v, find? entries n = some (name, v) ∧ form v

section
variable {fields : List Field} {written : List (Key × Value)}
  (h : List.Forall₂ (fun f e => f.name.Names e.1 ∧ f.form e.2) fields written)
include h

/-- For each field there is a pair, which is the only one under its names. -/
theorem exists_pair (hapart : (fields.map (·.name)).Pairwise Name.Apart) {f : Field}
    (hf : f ∈ fields) :
    ∃ e ∈ written, f.name.Names e.1 ∧ f.form e.2 ∧ ∀ e' ∈ written, f.name.Names e'.1 → e' = e := by
  induction h with
  | nil => cases hf
  | @cons f₀ e₀ fields written hone hrest ih =>
    -- The first pair is under a name of the first field, and all later ones are under names of
    -- others.
    rw [List.map_cons, List.pairwise_cons] at hapart
    obtain ⟨hfirst, hothers⟩ := hapart
    rcases List.mem_cons.1 hf with rfl | hf
    · refine ⟨e₀, List.mem_cons_self, hone.1, hone.2, fun e' he' hname => ?_⟩
      rcases List.mem_cons.1 he' with rfl | he'
      · rfl
      · obtain ⟨g, hg, hother⟩ := exists_mem_of_forall₂ hrest he'
        exact absurd hother.1 ((hfirst _ (List.mem_map_of_mem hg)).not_names hname)
    · obtain ⟨e, he, hname, hform, hunique⟩ := ih hothers hf
      refine ⟨e, List.mem_cons_of_mem _ he, hname, hform, fun e' he' hname' => ?_⟩
      rcases List.mem_cons.1 he' with rfl | he'
      · exact absurd hname' ((hfirst _ (List.mem_map_of_mem hf)).not_names hone.1)
      · exact hunique e' he' hname'

end

/-- A pair that is the only one under the names of a field is found for it. -/
theorem find?_of_mem {entries : List (Key × Value)} {n : Name} {e : Key × Value}
    (he : e ∈ entries) (hname : n.Names e.1) (hunique : ∀ e' ∈ entries, n.Names e'.1 → e' = e) :
    ∃ name, find? entries n = some (name, e.2) := by
  obtain ⟨k, v⟩ := e
  -- The first name is tried before the other one, so nothing may stand under it if the pair stands
  -- under the other one.
  by_cases hkey : k = .text n.key
  · subst hkey
    have hlookup : Value.field? entries n.key = some v :=
      Assoc.lookup_of_mem (Key.exact_text _) he fun e' he' hk => hunique e' he' (.inl hk)
    exact ⟨n.key, by rw [find?, hlookup]⟩
  · have hother : k = .text n.other := hname.resolve_left hkey
    subst hother
    have hnone : Value.field? entries n.key = none := by
      refine Assoc.lookup_eq_none (Key.exact_text _) fun e' he' hk => hkey ?_
      rw [← hk, hunique e' he' (.inl hk)]
    have hlookup : Value.field? entries n.other = some v :=
      Assoc.lookup_of_mem (Key.exact_text _) he fun e' he' hk => hunique e' he' (.inr hk)
    exact ⟨n.other, by rw [find?, hnone, hlookup]; rfl⟩

/-- In a record every field is found, if no two have a name in common. -/
theorem IsRecord.exists_found {fields : List Field} {v : Value} (h : IsRecord fields v)
    (hapart : (fields.map (·.name)).Pairwise Name.Apart) :
    ∃ entries, v = .map entries ∧ fields.Forall fun f => Found entries f.name f.form := by
  obtain ⟨written, entries, hwritten, hperm, rfl⟩ := h
  refine ⟨entries, rfl, List.forall_iff_forall_mem.2 fun f hf => ?_⟩
  obtain ⟨e, he, hname, hform, hunique⟩ := exists_pair hwritten hapart hf
  obtain ⟨name, hfound⟩ := find?_of_mem (hperm.mem_iff.1 he) hname fun e' he' =>
    hunique e' (hperm.mem_iff.2 he')
  exact ⟨name, e.2, hfound, hform⟩

section
variable {entries : List (Key × Value)} {n : Name} {form : Value → Prop} {r : Reader α} {a : α}

/-- What is found for a field is read. -/
theorem Found.optional (h : Found entries n form) (hread : ∀ v, form v → r v = .sound a)
    (default : α) : optional entries n default r = .sound a := by
  obtain ⟨name, v, hfound, hform⟩ := h
  rw [Document.optional, hfound]
  dsimp only
  rw [hread v hform]
  rfl

theorem Found.required (h : Found entries n form) (hread : ∀ v, form v → r v = .sound a) :
    required entries n r = .sound a := by
  obtain ⟨name, v, hfound, hform⟩ := h
  rw [Document.required, hfound]
  dsimp only
  rw [hread v hform]
  rfl

end

/-- A mapping of named fields is a record, if each name is the second one of its field. -/
theorem isRecord_fields {fs : List Field} {pairs : List (String × Value)}
    (h : List.Forall₂ (fun f p => p.1 = f.name.other ∧ f.form p.2) fs pairs) :
    IsRecord fs (fields pairs) := by
  refine ⟨_, _, List.forall₂_map_right_iff.2 (h.imp fun f p hp => ?_), .refl _, rfl⟩
  exact ⟨.inr (congrArg Key.text hp.1), hp.2⟩

/-- The document of a list is a list, if those of its items are what is asked for. -/
theorem isList_toDocument [ToDocument α] {form : α → Value → Prop}
    (h : ∀ a, form a (toDocument a)) (as : List α) : IsList form as (toDocument as) :=
  ⟨_, rfl, List.forall₂_map_right_iff.2 (List.forall₂_same.2 fun a _ => h a)⟩

/-! ## What was read -/

namespace Checked

variable {f : Checked (α → β)} {x : Checked α} {b : β}

@[simp] theorem map_eq_sound_iff {g : α → β} : x.map g = sound b ↔ ∃ a, x = sound a ∧ g a = b := by
  cases x <;> simp [map]

@[simp] theorem seq_eq_sound_iff :
    f.seq x = sound b ↔ ∃ g a, f = sound g ∧ x = sound a ∧ g a = b := by
  cases f <;> cases x <;> simp [seq]

@[simp] theorem behind_eq_sound_iff {step : Step} {a : α} :
    x.behind step = sound a ↔ x = sound a := by
  cases x <;> simp [behind]

end Checked

/-- Each item that was read comes from a value. -/
theorem forall₂_of_items {r : Reader α} {index : Nat} {vs : List Value} {as : List α}
    (h : items r index vs = .sound as) : List.Forall₂ (fun v a => r v = .sound a) vs as := by
  induction vs generalizing index as with
  | nil =>
    cases h
    exact .nil
  | cons v rest ih =>
    simp only [items, Checked.map_eq, Checked.seq_eq, Checked.seq_eq_sound_iff,
      Checked.map_eq_sound_iff, Checked.behind_eq_sound_iff] at h
    obtain ⟨_, others, ⟨a, ha, rfl⟩, hothers, rfl⟩ := h
    exact .cons ha (ih hothers)

/-- The values of a list, a tuple or a set. -/
def itemValues : Value → List Value
  | .list vs => vs
  | .tuple vs => vs
  | .set members => members.map (·.toValue)
  | _ => []

/-- The value at a text key of a value. -/
def fieldOf? : Value → String → Option Value
  | .map entries, name => Value.field? entries name
  | _, _ => none

/-- The values in a field. -/
def itemsIn (v : Value) (name : String) : List Value :=
  ((fieldOf? v name).map itemValues).getD []

/-- What was read of a list comes from its values. -/
theorem forall₂_of_list {r : Reader α} {v : Value} {as : List α} (h : list r v = .sound as) :
    List.Forall₂ (fun v a => r v = .sound a) (itemValues v) as := by
  cases v with
  | list vs => exact forall₂_of_items h
  | tuple vs => exact forall₂_of_items h
  | set members => exact forall₂_of_items h
  | _ => cases h

/-- What was read for a field with a single name. -/
theorem optional_eq_sound {entries : List (Key × Value)} {name : String} {default a : α}
    {r : Reader α} (h : optional entries name default r = .sound a) :
    (Value.field? entries name = none ∧ a = default) ∨
      ∃ v, Value.field? entries name = some v ∧ r v = .sound a := by
  cases hfield : Value.field? entries name with
  | none =>
    have hfound : find? entries name = none := by rw [find?, hfield]; rfl
    rw [optional, hfound] at h
    cases h
    exact .inl ⟨rfl, rfl⟩
  | some v =>
    have hfound : find? entries name = some (name, v) := by rw [find?, hfield]
    rw [optional, hfound] at h
    exact .inr ⟨v, rfl, Checked.behind_eq_sound_iff.1 h⟩

/-- What was read for a field with a list comes from the values in it. -/
theorem forall₂_itemsIn {entries : List (Key × Value)} {name : String} {r : Reader α}
    {as : List α} (h : optional entries name [] (list r) = .sound as) :
    List.Forall₂ (fun v a => r v = .sound a) (itemsIn (.map entries) name) as := by
  rw [itemsIn, fieldOf?]
  rcases optional_eq_sound h with ⟨hnone, rfl⟩ | ⟨v, hv, hread⟩
  · rw [hnone]
    exact .nil
  · rw [hv]
    exact forall₂_of_list hread

end ClientGen.Document
