import ClientGen.Proofs.Imports.Types
import ClientGen.Proofs.Types.Registrations

/-!
# Imports of resolved types

What a type is resolved to is told by the log of registrations, read from its end: its name, the
names that have to be imported for it, and those that are ([resolvesBy_ofRegistrations]). The class
of a schema and the target of any other type are imported if they have to be. Around them stands the
registered wrapper of a container, but imported are the classes that go with the container in the
Java base, whatever is registered. So everything is imported just if the wrapper is one of these
classes, or has no import, or is imported for the type in the container ([imports_complete_iff]).
-/

namespace ClientGen

open Client TypeTable Registration

namespace Client

/-- The target of a canonical type by a log, if there is an import for it. -/
def importedTarget? (log : List Registration) (canonical : String) : Option String :=
  (resolvedBy log canonical).2.map fun _ => (resolvedBy log canonical).1

/-- The short name that has to be imported for a type without a container. -/
def elementImport? (log : List Registration) (schemas : List String) (type : String) :
    Option String :=
  if type ∈ schemas then some (Java.modelName type) else importedTarget? log type

/-- The short names that have to be imported for a type: that of the type itself, and the wrapper
of its container. -/
inductive Named (log : List Registration) (schemas : List String) (type : String)
    (container : Option Api.Container) : String → Prop where
  | element {name : String} : elementImport? log schemas type = some name →
      Named log schemas type container name
  | wrapper {c : Api.Container} {name : String} : container = some c →
      importedTarget? log c.name = some name → Named log schemas type container name

section
variable {log : List Registration} {schemas : List String} {type name : String}
  {container : Option Api.Container}

theorem importedTarget?_eq_some_iff {canonical : String} :
    importedTarget? log canonical = some name ↔
      (ofRegistrations log).types.lookup canonical = some name ∧
        ((ofRegistrations log).importFor name).isSome := by
  rw [importedTarget?, ← resolve_ofRegistrations, ← isSome_resolve_iff]
  cases ((ofRegistrations log).resolve canonical).2 <;> simp

/-- What has to be imported for a type without a container is what the table needs. -/
theorem elementImport?_eq_some_iff :
    elementImport? log schemas type = some name ↔
      Needs (ofRegistrations log) schemas type none name := by
  unfold elementImport?
  by_cases h : type ∈ schemas
  · rw [if_pos h, needs_iff_of_mem h, Option.some_inj, eq_comm]
  · rw [if_neg h, needs_iff_of_not_mem h, importedTarget?_eq_some_iff]

theorem mem_imports_ofRegistrations_iff :
    name ∈ (resolveType (ofRegistrations log) schemas type container).imports ↔
      elementImport? log schemas type = some name ∨
        ∃ c, container = some c ∧ name ∈ containerImports c := by
  rw [mem_imports_resolveType_iff, needs_iff_or_container, elementImport?_eq_some_iff]

end

/-- Whether a resolved type is what a log says. -/
structure ResolvesBy (log : List Registration) (schemas : List String) (type : String)
    (container : Option Api.Container) (r : ResolvedType) : Prop where
  isModel : r.isModel = true ↔ type ∈ schemas
  baseType : r.baseType = if type ∈ schemas then Java.modelName type else (resolvedBy log type).1
  /-- The type of a container is its wrapper, whatever is registered as that. -/
  alone : container = none → r.datatype = r.baseType
  inContainer : ∀ c, container = some c →
    r.datatype = wrapped (resolvedBy log c.name).1 c r.baseType
  /-- The type itself is imported, and the classes of the container. -/
  imported : ∀ name, name ∈ r.imports ↔ elementImport? log schemas type = some name ∨
    ∃ c, container = some c ∧ name ∈ containerImports c
  /-- Every name that has to be imported is, just if this holds of the wrapper. -/
  complete : (∀ name, Named log schemas type container name → name ∈ r.imports) ↔
    ∀ c wrapper, container = some c → importedTarget? log c.name = some wrapper →
      wrapper ∈ containerImports c ∨ elementImport? log schemas type = some wrapper

theorem resolvesBy_ofRegistrations (log : List Registration) (schemas : List String) (type : String)
    (container : Option Api.Container) :
    ResolvesBy log schemas type container
      (resolveType (ofRegistrations log) schemas type container) where
  isModel := isModel_resolveType
  baseType := by
    rw [← resolve_ofRegistrations]
    unfold resolveType resolveElement
    cases container <;> by_cases h : type ∈ schemas <;> simp [h]
  alone h := by
    rw [h, resolveType, resolveElement]
    split <;> rfl
  inContainer c h := by
    rw [h, ← resolve_ofRegistrations]
    rfl
  imported _ := mem_imports_ofRegistrations_iff
  complete := by
    constructor
    · intro h c wrapper hc hwrapper
      rcases mem_imports_ofRegistrations_iff.1 (h wrapper (.wrapper hc hwrapper)) with
        hin | ⟨d, hd, hin⟩
      · exact .inr hin
      · cases hc.symm.trans hd
        exact .inl hin
    · intro h name hname
      rw [mem_imports_ofRegistrations_iff]
      cases hname with
      | element he => exact .inl he
      | wrapper hc hwrapper => exact (h _ name hc hwrapper).symm.imp_right fun hin => ⟨_, hc, hin⟩

end Client

/-! ## Containers that stay -/

namespace Registration

/-- Whether a registration leaves each container one of its classes. -/
def KeepsContainers (r : Registration) : Prop :=
  ∀ (c : Api.Container) (target : String), r.target? c.name = some target →
    target ∈ containerImports c

instance (r : Registration) : Decidable r.KeepsContainers :=
  decidable_of_iff
    (∀ c ∈ [Api.Container.array, .map], ∀ target ∈ r.target? c.name, target ∈ containerImports c)
    ⟨fun h c => h c (by cases c <;> simp), fun h c _ => h c⟩

/-- Those of the Java base do. -/
theorem keepsContainers_base : ∀ r ∈ Java.baseBackend.registrations, r.KeepsContainers := by
  decide +kernel

/-- What a log gives last was given by one of its registrations. -/
theorem exists_of_latest?_eq_some {gives : Registration → Option String}
    {log : List Registration} {given : String} (h : latest? gives log = some given) :
    ∃ r ∈ log, gives r = some given := by
  obtain ⟨r, hr, hgives⟩ := List.exists_of_findSome?_eq_some h
  exact ⟨r, List.mem_reverse.1 hr, hgives⟩

/-- So with such registrations a wrapper is one of the classes. -/
theorem mem_containerImports_of_keepsContainers {log : List Registration}
    (h : ∀ r ∈ log, r.KeepsContainers) {c : Api.Container} {wrapper : String}
    (hwrapper : importedTarget? log c.name = some wrapper) : wrapper ∈ containerImports c := by
  have hlatest := (importedTarget?_eq_some_iff.1 hwrapper).1
  rw [lookup_types_ofRegistrations] at hlatest
  obtain ⟨r, hr, hgives⟩ := exists_of_latest?_eq_some hlatest
  exact h r hr c wrapper hgives

end Registration

/-- What is imported for a type by a log, and in any backend that changes lead to. If no
registration of the log takes a container its classes away, then all that has to be imported is. -/
theorem imports_complete_iff (log : List Registration) (schemas : List String) (type : String)
    (container : Option Api.Container) :
    ResolvesBy log schemas type container
        (resolveType (ofRegistrations log) schemas type container) ∧
      (∀ base overrides b, compose base overrides = .ok b →
        ResolvesBy (overrides.foldl Override.registrationsAfter base.registrations) schemas type
          container (resolveType b.typeTable schemas type container)) ∧
      ((∀ r ∈ log, KeepsContainers r) → ∀ name, Named log schemas type container name →
        name ∈ (resolveType (ofRegistrations log) schemas type container).imports) := by
  have hlog := resolvesBy_ofRegistrations log schemas type container
  refine ⟨hlog, fun base overrides b h => ?_, fun h => hlog.complete.2 ?_⟩
  · rw [← registrations_of_compose h]
    exact resolvesBy_ofRegistrations b.registrations schemas type container
  · exact fun c wrapper _ hwrapper => .inl (mem_containerImports_of_keepsContainers h hwrapper)

/-- Changes by which a map is one of its classes, with dates of another package in it. -/
def tableOverrides : List Override := [
  .addTypeMapping "map" "HashMap" none,
  .addTypeMapping "date" "LocalDate" (some "java.time.LocalDate")]

/-- Then all is imported. -/
theorem imports_complete_iff_tables :
    ∃ b, compose Java.baseBackend tableOverrides = .ok b ∧
      (∀ r ∈ b.registrations, r.KeepsContainers) ∧
      let r := resolveType b.typeTable ["visit"] "date" (some .map)
      r.datatype = "HashMap<String, LocalDate>" ∧ "HashMap" ∈ r.imports ∧
        "LocalDate" ∈ r.imports ∧
        ResolvesBy (Java.baseBackend.registrations ++
          tableOverrides.flatMap (·.additions.registrations)) ["visit"] "date" (some .map) r := by
  have hcompose : compose Java.baseBackend tableOverrides = .ok { Java.baseBackend with
      registrations := Java.baseBackend.registrations ++
        tableOverrides.flatMap (·.additions.registrations) } := rfl
  have hkeeps : ∀ r ∈ Java.baseBackend.registrations ++
      tableOverrides.flatMap (·.additions.registrations), r.KeepsContainers :=
    List.forall_mem_append.2 ⟨keepsContainers_base, by decide +kernel⟩
  obtain ⟨-, hcomposed, hall⟩ := imports_complete_iff (Java.baseBackend.registrations ++
    tableOverrides.flatMap (·.additions.registrations)) ["visit"] "date" (some .map)
  exact ⟨_, hcompose, hkeeps, by decide +kernel,
    hall hkeeps _ (.wrapper rfl (by decide +kernel)),
    hall hkeeps _ (.element (by decide +kernel)), hcomposed _ _ _ hcompose⟩

/-- A list that is registered as a set of a library. The set has an import, but in the place of it
the classes of lists are imported. -/
theorem wrapper_not_imported :
    ∃ b, compose Java.baseBackend [.addTypeMapping "array" "Set" (some "java.util.Set")] = .ok b ∧
      b.typeTable.resolve "array" = ("Set", some "java.util.Set") ∧
      let r := resolveType b.typeTable [] "string" (some .array)
      r.datatype = "Set<String>" ∧ r.imports.toList = ["ArrayList", "List"] ∧
        Named b.registrations [] "string" (some .array) "Set" ∧ "Set" ∉ r.imports := by
  refine ⟨_, rfl, by decide +kernel, by decide +kernel, by decide +kernel,
    .wrapper rfl (by decide +kernel), by decide +kernel⟩

end ClientGen
