import ClientGen.Backend.JaxrsCxf
import ClientGen.Proofs.Imports.Models
import ClientGen.Proofs.Lists
import Mathlib.Data.List.Sort

/-!
# The order of hooks for models

A hook puts annotations on the properties of a model or takes them off, takes some names out of its
imports and puts others in ([ModelHook.properties_apply], [ModelHook.mem_imports_apply_iff]), and
leaves all else. What it does depends on nothing that a hook can change, and the hooks of the Java
backends each have names of their own ([ModelHook.own]). So they may run in any order and repeatedly
([ModelHook.independent]), and a model that is finished stays as it is when it is finished again
([finishModel_order]).
-/

namespace ClientGen

open Client

/-- A set of texts is told by its members. -/
theorem NameSet.eq_of_mem_iff {s t : NameSet} (h : ∀ n, n ∈ s ↔ n ∈ t) : s = t := by
  have hlists : s.toList = t.toList := s.ordered.eq_of_mem_iff t.ordered fun n => h n
  cases s
  cases t
  cases hlists
  rfl

/-! ## What a hook does -/

namespace Client.Model

/-- Whether two models are the same but for their properties and imports. -/
def SameFrame (m m' : Model) : Prop :=
  m' = { m with properties := m'.properties, imports := m'.imports }

/-- Within one frame a model is told by its properties and the members of its imports. -/
theorem SameFrame.eq {m m₁ m₂ : Model} (h₁ : SameFrame m m₁) (h₂ : SameFrame m m₂)
    (hproperties : m₁.properties = m₂.properties)
    (himports : ∀ n, n ∈ m₁.imports ↔ n ∈ m₂.imports) : m₁ = m₂ := by
  rw [h₁, h₂, hproperties, NameSet.eq_of_mem_iff himports]

theorem SameFrame.trans {m m₁ m₂ : Model} (h₁ : SameFrame m m₁) (h₂ : SameFrame m₁ m₂) :
    SameFrame m m₂ := by
  rw [SameFrame] at *
  rw [h₂, h₁]

theorem sameFrame_removeImports (m : Model) (names : List String) :
    SameFrame m (m.removeImports names) := rfl

theorem mem_imports_removeImports_iff {m : Model} {names : List String} {n : String} :
    n ∈ (m.removeImports names).imports ↔ n ∈ m.imports ∧ n ∉ names := NameSet.mem_eraseAll

theorem removeImports_removeImports (m : Model) (names : List String) :
    (m.removeImports names).removeImports names = m.removeImports names := by
  have hframe (m' : Model) : SameFrame m' (m'.removeImports names) :=
    sameFrame_removeImports m' names
  refine ((hframe m).trans (hframe _)).eq (hframe m) rfl fun n => ?_
  simp only [mem_imports_removeImports_iff, and_assoc, and_self]

end Client.Model

namespace ModelHook

/-- The short names that a hook takes out. -/
def taken (f : ModelFeatures) : ModelHook → List String
  | jsonMapping => f.jsonMapping.otherImports
  | beanValidation => if f.beanValidation then [] else Annotation.names
  | serializable => if f.serializable then [] else ["Serializable"]
  | addImport _ => []

/-- The short names that a hook puts into the imports of a model. -/
def added (f : ModelFeatures) (m : Model) : ModelHook → List String
  | jsonMapping => m.jsonImports f.jsonMapping
  | beanValidation =>
    if f.beanValidation then m.properties.flatMap fun p => importsFor p.validated.annotations
    else []
  | serializable => if f.serializable then ["Serializable"] else []
  | addImport name => [name]

/-- What a hook does with a property. -/
def annotated (f : ModelFeatures) (hook : ModelHook) (p : Property) : Property :=
  match hook with
  | beanValidation => if f.beanValidation then p.validated else p.unvalidated
  | _ => p

section
variable {f : ModelFeatures} {m : Model} {n : String}

theorem sameFrame_apply (hook : ModelHook) : Model.SameFrame m (hook.apply f m) := by
  cases hook with
  | jsonMapping => rfl
  | beanValidation =>
    simp only [apply, Model.withValidation]
    split <;> rfl
  | serializable =>
    simp only [apply, Model.withSerializable]
    split <;> rfl
  | addImport name => rfl

theorem properties_apply (hook : ModelHook) :
    (hook.apply f m).properties = m.properties.map (hook.annotated f) := by
  cases hook with
  | beanValidation => exact Model.properties_withValidation m f.beanValidation
  | jsonMapping => exact (List.map_id m.properties).symm
  | serializable =>
    exact (Model.properties_withSerializable m _).trans (List.map_id m.properties).symm
  | addImport name => exact (List.map_id m.properties).symm

theorem mem_imports_apply_iff (hook : ModelHook) :
    n ∈ (hook.apply f m).imports ↔
      n ∈ hook.added f m ∨ n ∈ m.imports ∧ n ∉ hook.taken f := by
  cases hook with
  | jsonMapping => exact Model.mem_imports_withJsonMapping_iff
  | beanValidation =>
    cases hon : f.beanValidation <;>
      simp [apply, added, taken, hon, Model.withValidation, Model.addImports, Model.removeImports]
  | serializable =>
    cases hon : f.serializable <;>
      simp [apply, added, taken, hon, Model.withSerializable, Model.addImports,
        Model.removeImports]
  | addImport name => simp [apply, added, taken, Model.addImports]

/-- What a hook does with a property depends on nothing that hooks do with properties. -/
theorem annotated_comm (hook hook' : ModelHook) (p : Property) :
    hook.annotated f (hook'.annotated f p) = hook'.annotated f (hook.annotated f p) := by
  cases hook <;> cases hook' <;> rfl

theorem annotated_self (hook : ModelHook) (p : Property) :
    hook.annotated f (hook.annotated f p) = hook.annotated f p := by
  cases hook with
  | beanValidation =>
    simp only [annotated]
    split <;> rfl
  | jsonMapping => rfl
  | serializable => rfl
  | addImport name => rfl

/-- Which names a hook puts in does not depend on it either. -/
theorem added_apply (hook hook' : ModelHook) : hook.added f (hook'.apply f m) = hook.added f m := by
  have hkept (p : Property) : (hook'.annotated f p).isEnum = p.isEnum ∧
      (hook'.annotated f p).validated = p.validated := by
    unfold annotated
    split
    · split <;> exact ⟨rfl, rfl⟩
    · exact ⟨rfl, rfl⟩
  cases hook with
  | jsonMapping =>
    exact Model.jsonImports_of_properties (fun p => (hkept p).1) (properties_apply hook')
      f.jsonMapping
  | beanValidation => simp only [added, properties_apply, List.flatMap_map, (hkept _).2]
  | serializable => rfl
  | addImport name => rfl

end

/-! ## The hooks of the Java backends -/

/-- The short names that are the business of a hook. -/
def own : ModelHook → List String
  | jsonMapping => jacksonImports ++ jsonbImports
  | beanValidation => Annotation.names
  | serializable => ["Serializable"]
  | addImport name => [name]

section
variable {f : ModelFeatures} {m : Model} {n : String}

theorem mem_own_of_mem_taken {hook : ModelHook} (h : n ∈ hook.taken f) : n ∈ hook.own := by
  cases hook with
  | jsonMapping =>
    rw [taken] at h
    rw [own, List.mem_append]
    revert h
    cases f.jsonMapping with
    | jackson => exact .inr
    | jsonb => exact .inl
  | beanValidation =>
    rw [taken] at h
    split at h
    · cases h
    · exact h
  | serializable =>
    rw [taken] at h
    split at h
    · cases h
    · exact h
  | addImport name => cases h

theorem mem_own_of_mem_added {hook : ModelHook} (h : n ∈ hook.added f m) : n ∈ hook.own := by
  cases hook with
  | jsonMapping =>
    rcases Model.mem_jsonImports_iff.1 h with ⟨_, rfl⟩ | ⟨_, _, rfl | rfl⟩
    · cases f.jsonMapping <;> decide
    · decide
    · decide
  | beanValidation =>
    rw [added] at h
    split at h
    · obtain ⟨p, _, hp⟩ := List.mem_flatMap.1 h
      exact mem_names_of_mem_importsFor hp
    · cases h
  | serializable =>
    rw [added] at h
    split at h
    · exact h
    · cases h
  | addImport name => exact h

/-- No two of the hooks of the Java backends have a name in common. -/
theorem own_disjoint : ∀ hook ∈ Java.baseBackend.modelHooks, ∀ hook' ∈ Java.baseBackend.modelHooks,
    hook ≠ hook' → ∀ n ∈ hook.own, n ∉ hook'.own := by
  decide

/-- What one of them puts in another one does not take out. -/
theorem not_mem_taken_of_mem_added {hook hook' : ModelHook}
    (h : hook ∈ Java.baseBackend.modelHooks) (h' : hook' ∈ Java.baseBackend.modelHooks)
    (hne : hook ≠ hook') (hn : n ∈ hook.added f m) : n ∉ hook'.taken f := fun htaken =>
  own_disjoint hook h hook' h' hne n (mem_own_of_mem_added hn) (mem_own_of_mem_taken htaken)

/-- So their order does not matter, nor how often each of them runs. -/
theorem independent (f : ModelFeatures) :
    Independent (ModelHook.apply f) Java.baseBackend.modelHooks where
  comm a ha b hb m := by
    by_cases hab : a = b
    · rw [hab]
    refine ((sameFrame_apply a).trans (sameFrame_apply b)).eq
      ((sameFrame_apply b).trans (sameFrame_apply a)) ?_ fun n => ?_
    · simp only [properties_apply, List.map_map]
      exact List.map_congr_left fun p _ => annotated_comm b a p
    · -- What one of them puts in stays, so a name is there just if one of them puts it in, or if it
      -- was there and none takes it out.
      have hfirst : n ∈ a.added f m → n ∉ b.taken f := not_mem_taken_of_mem_added ha hb hab
      have hsecond : n ∈ b.added f m → n ∉ a.taken f :=
        not_mem_taken_of_mem_added hb ha (Ne.symm hab)
      simp only [mem_imports_apply_iff, added_apply]
      tauto
  again a _ m := by
    refine ((sameFrame_apply a).trans (sameFrame_apply a)).eq (sameFrame_apply a) ?_ fun n => ?_
    · simp only [properties_apply, List.map_map]
      exact List.map_congr_left fun p _ => annotated_self a p
    · simp only [mem_imports_apply_iff, added_apply]
      tauto

end

end ModelHook

/-! ## Finished models -/

section
variable {f : ModelFeatures}

/-- Names that are removed at the end need not be there before. -/
theorem ModelHook.removeImports_apply (hook : ModelHook) (m : Model) (removed : List String) :
    (hook.apply f (m.removeImports removed)).removeImports removed =
      (hook.apply f m).removeImports removed := by
  have hframe (m' : Model) : Model.SameFrame m' ((hook.apply f m').removeImports removed) :=
    (sameFrame_apply hook).trans (Model.sameFrame_removeImports _ removed)
  have hadded : hook.added f (m.removeImports removed) = hook.added f m := by
    cases hook <;> rfl
  refine ((Model.sameFrame_removeImports m removed).trans (hframe _)).eq (hframe m) ?_
    fun n => ?_
  · simp only [Model.properties_removeImports, properties_apply]
  · simp only [Model.mem_imports_removeImports_iff, mem_imports_apply_iff, hadded]
    tauto

/-- The hooks of the Java backends lead to the same model in whatever order they run and however
often each of them does, if each runs at all. A model that is finished so stays as it is when it is
finished again. -/
theorem finishModel_order (f : ModelFeatures) (removed : List String) (m : Model)
    {hooks : List ModelHook} (honly : ∀ hook ∈ hooks, hook ∈ Java.baseBackend.modelHooks)
    (hall : ∀ hook ∈ Java.baseBackend.modelHooks, hook ∈ hooks) :
    finishModel hooks f removed m = finishModel Java.baseBackend.modelHooks f removed m ∧
      finishModel hooks f removed (finishModel hooks f removed m) =
        finishModel hooks f removed m := by
  have hindependent := ModelHook.independent f
  constructor
  · rw [finishModel, finishModel, hindependent.foldl_eq hall honly]
  · exact (hindependent.mono honly).close_again (Model.removeImports · removed)
      (fun m => m.removeImports_removeImports removed)
      (fun hook _ m => hook.removeImports_apply m removed) m

end

/-- The hooks from the last to the first, with one of them twice. -/
def repeatedHooks : List ModelHook :=
  [.serializable, .beanValidation, .jsonMapping, .beanValidation]

/-- Validation and serialization are on, with the second family of JSON annotations. -/
def allFeatures : ModelFeatures :=
  { beanValidation := true, serializable := true, jsonMapping := .jsonb }

/-- In that order a model for visits has the same imports, which are left when it is finished
again. -/
theorem finishModel_order_visit :
    let m := prepareModel JaxrsCxf.backend.typeTable ["visit"] JaxrsCxf.visitSchema
    let finish hooks := finishModel hooks allFeatures JaxrsCxf.removedModelImports
    (∀ hook ∈ repeatedHooks, hook ∈ Java.baseBackend.modelHooks) ∧
      (∀ hook ∈ Java.baseBackend.modelHooks, hook ∈ repeatedHooks) ∧
      (finish repeatedHooks m).imports.toList =
        ["ArrayList", "HashMap", "JsonbProperty", "List", "LocalDate", "Map", "Serializable",
          "Size"] ∧
      finish repeatedHooks m = finish Java.baseBackend.modelHooks m ∧
      finish repeatedHooks (finish repeatedHooks m) = finish repeatedHooks m := by
  have honly : ∀ hook ∈ repeatedHooks, hook ∈ Java.baseBackend.modelHooks := by decide
  have hall : ∀ hook ∈ Java.baseBackend.modelHooks, hook ∈ repeatedHooks := by decide
  exact ⟨honly, hall, by decide +kernel, finishModel_order _ _ _ honly hall⟩

end ClientGen
