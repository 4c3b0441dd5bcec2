import ClientGen.Client.Typing

/-!
# The short names that a type needs

[Needs] says which short names have to be imported for a type, without the order in which they are
collected: the class of a schema, the target of a type that is registered with an import, and the
classes of the container. [resolveType] collects these and no others
([mem_imports_resolveType_iff]).
-/

namespace ClientGen.Client

open Api

/-- The short names that have to be imported for a type of the description with the container around
it, where `schemas` are the names of the schemas. -/
inductive Needs (table : TypeTable) (schemas : List String) (type : String)
    (container : Option Container) : String → Prop where
  /-- A schema is named by its class. -/
  | schema : type ∈ schemas → Needs table schemas type container (Java.modelName type)
  /-- Any other type is named by its target, if it is registered and has an import. -/
  | target {name : String} : type ∉ schemas → table.types.lookup type = some name →
      (table.importFor name).isSome → Needs table schemas type container name
  /-- A container needs its type and the class of its values. -/
  | container {c : Container} {name : String} : container = some c → name ∈ containerImports c →
      Needs table schemas type container name

section
variable {table : TypeTable} {schemas : List String} {type name : String}
  {container : Option Container}

/-- A registered type stands in the table beside its target. -/
theorem mem_types_of_lookup (h : table.types.lookup type = some name) :
    (type, name) ∈ table.types :=
  Assoc.mem_of_lookup h

/-- A type with an import is registered, and its target has the import. -/
theorem resolve_eq_some_iff {importRef : String} :
    table.resolve type = (name, some importRef) ↔
      table.types.lookup type = some name ∧ table.importFor name = some importRef := by
  unfold TypeTable.resolve
  split
  · next h => simp [h]
  · next target h =>
    constructor
    · intro he
      obtain ⟨rfl, href⟩ := Prod.mk.inj he
      exact ⟨h, href⟩
    · rintro ⟨ht, href⟩
      cases h.symm.trans ht
      rw [href]

/-- The import that stands beside the target of a type is there iff the type is registered and its
target has one. -/
theorem isSome_resolve_iff :
    (table.resolve type).1 = name ∧ (table.resolve type).2.isSome ↔
      table.types.lookup type = some name ∧ (table.importFor name).isSome := by
  constructor
  · rintro ⟨rfl, h⟩
    obtain ⟨importRef, href⟩ := Option.isSome_iff_exists.1 h
    have hboth : table.resolve type = ((table.resolve type).1, some importRef) := by rw [← href]
    obtain ⟨ht, hi⟩ := resolve_eq_some_iff.1 hboth
    exact ⟨ht, Option.isSome_iff_exists.2 ⟨importRef, hi⟩⟩
  · rintro ⟨ht, h⟩
    obtain ⟨importRef, hi⟩ := Option.isSome_iff_exists.1 h
    rw [resolve_eq_some_iff.2 ⟨ht, hi⟩]
    exact ⟨rfl, rfl⟩

/-- A type is a model iff it is a schema. -/
@[simp] theorem isModel_resolveType :
    (resolveType table schemas type container).isModel = true ↔ type ∈ schemas := by
  unfold resolveType resolveElement
  cases container <;> by_cases h : type ∈ schemas <;> simp [h]

/-- Without its container a schema is its class. -/
theorem baseType_resolveType_of_mem (h : type ∈ schemas) :
    (resolveType table schemas type container).baseType = Java.modelName type := by
  unfold resolveType resolveElement
  cases container <;> simp [h]

/-- Without a container a schema needs its class only. -/
theorem needs_iff_of_mem (h : type ∈ schemas) :
    Needs table schemas type none name ↔ name = Java.modelName type := by
  constructor
  · intro hn
    cases hn with
    | schema => rfl
    | target hout => exact absurd h hout
    | container hc => cases hc
  · intro hn
    rw [hn]
    exact .schema h

/-- Any other type needs its target if that has an import. -/
theorem needs_iff_of_not_mem (h : type ∉ schemas) :
    Needs table schemas type none name ↔
      table.types.lookup type = some name ∧ (table.importFor name).isSome := by
  constructor
  · intro hn
    cases hn with
    | schema hin => exact absurd hin h
    | target _ ht hi => exact ⟨ht, hi⟩
    | container hc => cases hc
  · exact fun hn => .target h hn.1 hn.2

/-- With a container there are the classes of that beside it. -/
theorem needs_iff_or_container :
    Needs table schemas type container name ↔
      Needs table schemas type none name ∨
        ∃ c, container = some c ∧ name ∈ containerImports c := by
  constructor
  · intro hn
    cases hn with
    | schema h => exact .inl (.schema h)
    | target h ht hi => exact .inl (.target h ht hi)
    | container hc hn => exact .inr ⟨_, hc, hn⟩
  · rintro (hn | ⟨c, hc, hn⟩)
    · cases hn with
      | schema h => exact .schema h
      | target h ht hi => exact .target h ht hi
      | container hc => cases hc
    · exact .container hc hn

/-- What is imported for a type without a container. -/
theorem mem_imports_resolveElement_iff :
    name ∈ (resolveElement table schemas type).imports ↔ Needs table schemas type none name := by
  unfold resolveElement
  by_cases h : type ∈ schemas
  · simp only [List.contains_iff_mem, h, if_true, NameSet.mem_ofList, List.mem_singleton]
    exact (needs_iff_of_mem h).symm
  · simp only [List.contains_iff_mem, h, if_false]
    have hiff : name ∈ (if (table.resolve type).2.isSome
          then NameSet.ofList [(table.resolve type).1] else NameSet.empty) ↔
        (table.resolve type).1 = name ∧ (table.resolve type).2.isSome := by
      split
      · next hi => simp [hi, eq_comm]
      · next hi => simp [hi]
    rw [hiff, isSome_resolve_iff, needs_iff_of_not_mem h]

/-- For a type are imported the short names that it needs. -/
theorem mem_imports_resolveType_iff :
    name ∈ (resolveType table schemas type container).imports ↔
      Needs table schemas type container name := by
  rw [needs_iff_or_container, ← mem_imports_resolveElement_iff]
  cases container with
  | none => simp [resolveType]
  | some c =>
    rw [resolveType, NameSet.mem_insertAll, or_comm]
    simp

end

end ClientGen.Client
