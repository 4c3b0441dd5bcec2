import ClientGen.Client.OperationHooks
import ClientGen.Client.Preparation
import ClientGen.Proofs.Grouping.Partition
import ClientGen.Proofs.Imports.Types
import ClientGen.Proofs.Names.Characters

/-!
# Types and imports of operations

An operation imports what the types of its parameters and responses need
([mem_imports_prepareOperation_iff]), and keeps that when it joins a group. What the hooks of a
JAX-RS client do with a member is [Operation.finished]: annotations are put on its parameters or
taken off, and imported ([Operation.mem_imports_finished_iff]), and its return type is settled as
the datatype of the response that decides ([Decides], [Operation.renderedReturnType_finished]).
-/

namespace ClientGen

namespace Client

/-! ## The response that decides the return type -/

/-- Which response decides the return type: the first one whose code begins with `2`, or else the
first one of code `0`, if there is any of them. -/
inductive Decides (rs : List Api.Response) : Option Api.Response → Prop where
  | success {before after : List Api.Response} {r : Api.Response} :
      rs = before ++ r :: after → (∀ x ∈ before, ¬∃ rest, x.code = "2" ++ rest) →
      (∃ rest, r.code = "2" ++ rest) → Decides rs (some r)
  | default {before after : List Api.Response} {r : Api.Response} :
      (∀ x ∈ rs, ¬∃ rest, x.code = "2" ++ rest) → rs = before ++ r :: after →
      (∀ x ∈ before, x.code ≠ "0") → r.code = "0" → Decides rs (some r)
  | none : (∀ x ∈ rs, ¬∃ rest, x.code = "2" ++ rest) → (∀ x ∈ rs, x.code ≠ "0") → Decides rs none

/-- A response that is found first stands behind others that are not looked for. -/
theorem exists_append_of_find? {rs : List Api.Response} {r : Api.Response}
    {P : Api.Response → Prop} {test : Api.Response → Bool} (htest : ∀ x, test x = true ↔ P x)
    (h : rs.find? test = some r) :
    P r ∧ ∃ before after, rs = before ++ r :: after ∧ ∀ x ∈ before, ¬P x := by
  obtain ⟨hr, before, after, hsplit, hbefore⟩ := List.find?_eq_some_iff_append.1 h
  refine ⟨(htest r).1 hr, before, after, hsplit, fun x hx hP => ?_⟩
  have hfalse := hbefore x hx
  rw [(htest x).2 hP] at hfalse
  cases hfalse

theorem isSuccess_iff (r : Api.Response) : isSuccess r = true ↔ ∃ rest, r.code = "2" ++ rest :=
  Text.startsWith_iff

/-- The response that is looked up is the one that decides. -/
theorem decides_decidingResponse? (rs : List Api.Response) : Decides rs (decidingResponse? rs) := by
  unfold decidingResponse?
  split
  · next r hr =>
    obtain ⟨hsuccess, before, after, hsplit, hbefore⟩ := exists_append_of_find? isSuccess_iff hr
    exact .success hsplit hbefore hsuccess
  · next hnone =>
    have hfail : ∀ x ∈ rs, ¬∃ rest, x.code = "2" ++ rest := fun x hx h =>
      List.find?_eq_none.1 hnone x hx ((isSuccess_iff x).2 h)
    cases hdefault : rs.find? (·.code == "0") with
    | none =>
      exact .none hfail fun x hx h => List.find?_eq_none.1 hdefault x hx (beq_iff_eq.2 h)
    | some r =>
      obtain ⟨hcode, before, after, hsplit, hbefore⟩ :=
        exists_append_of_find? (fun x : Api.Response => beq_iff_eq (a := x.code)) hdefault
      exact .default hfail hsplit hbefore hcode

/-- It is one of the responses. -/
theorem mem_of_decidingResponse? {rs : List Api.Response} {r : Api.Response}
    (h : decidingResponse? rs = some r) : r ∈ rs := by
  unfold decidingResponse? at h
  split at h
  · next hr =>
    cases h
    exact List.mem_of_find?_eq_some hr
  · exact List.mem_of_find?_eq_some h

/-! ## Prepared operations -/

section
variable {table : TypeTable} {schemas : List String} {n : String}

/-- A response needs what its type needs, if it has one. -/
theorem mem_imports_prepareResponse_iff {r : Api.Response} :
    n ∈ (prepareResponse table schemas r).2 ↔
      ∃ type, r.type = some type ∧ Needs table schemas type r.container n := by
  unfold prepareResponse responseType
  cases r.type with
  | none => simp
  | some type => simp [mem_imports_resolveType_iff]

/-- The short names that the types of parameters and responses need. -/
def OperationNeeds (table : TypeTable) (schemas : List String) (o : Api.Operation) (n : String) :
    Prop :=
  (∃ p ∈ o.parameters, Needs table schemas p.type p.container n) ∨
    ∃ r ∈ o.responses, ∃ type, r.type = some type ∧ Needs table schemas type r.container n

/-- A return type is that of a response. -/
theorem exists_of_returnTypeOf? {rs : List Api.Response}
    {returned : ResolvedType × Option Api.Container}
    (h : returnTypeOf? table schemas rs = some returned) :
    ∃ r ∈ rs, ∃ type, r.type = some type ∧
      returned.1 = resolveType table schemas type r.container := by
  unfold returnTypeOf? at h
  obtain ⟨r, hr, h⟩ := Option.bind_eq_some_iff.1 h
  obtain ⟨resolved, hresolved, h⟩ := Option.bind_eq_some_iff.1 h
  obtain ⟨type, htype, rfl⟩ := Option.map_eq_some_iff.1 hresolved
  cases h
  exact ⟨r, mem_of_decidingResponse? hr, type, htype, rfl⟩

/-- An operation imports what its types need, and no more: the return type is that of a response. -/
theorem mem_imports_prepareOperation_iff {o : Api.Operation} :
    n ∈ (prepareOperation table schemas o).imports ↔ OperationNeeds table schemas o n := by
  have hmembers : n ∈ (o.responses.map (prepareResponse table schemas)).foldl
      (fun acc r => acc.union r.2)
        ((o.parameters.map (prepareParameter table schemas)).foldl (fun acc p => acc.union p.2)
          NameSet.empty) ↔ OperationNeeds table schemas o n := by
    rw [NameSet.mem_foldl_union, NameSet.mem_foldl_union, OperationNeeds]
    simp only [NameSet.not_mem_empty, false_or, List.mem_map, exists_exists_and_eq_and,
      mem_imports_prepareResponse_iff]
    refine or_congr (exists_congr fun p => and_congr_right' ?_) Iff.rfl
    exact mem_imports_resolveType_iff
  unfold prepareOperation
  simp only
  split
  · next resolved container hreturned =>
    rw [NameSet.mem_union, hmembers]
    refine or_iff_right_of_imp fun hn => ?_
    obtain ⟨r, hr, type, htype, hresolved⟩ := exists_of_returnTypeOf? hreturned
    simp only at hresolved
    rw [hresolved, mem_imports_resolveType_iff] at hn
    exact .inr ⟨r, hr, type, htype, hn⟩
  · exact hmembers

/-- The datatype of a response. -/
def responseDatatype (table : TypeTable) (schemas : List String) (r : Api.Response) : String :=
  match r.type with
  | some type => (resolveType table schemas type r.container).datatype
  | none => "void"

/-- The return type of an operation, which is nothing if no response decides. -/
def decidedDatatype (table : TypeTable) (schemas : List String) : Option Api.Response → String
  | some r => responseDatatype table schemas r
  | none => "void"

theorem returnType_prepareOperation (o : Api.Operation) :
    (prepareOperation table schemas o).returnType =
      (returnTypeOf? table schemas o.responses).map (·.1.datatype) := rfl

theorem returnBaseType_prepareOperation (o : Api.Operation) :
    (prepareOperation table schemas o).returnBaseType =
      (returnTypeOf? table schemas o.responses).map (·.1.baseType) := rfl

theorem responses_prepareOperation (o : Api.Operation) :
    (prepareOperation table schemas o).responses =
      (o.responses.map (prepareResponse table schemas)).map (·.1) := rfl

/-- The return type of an operation is that of the response that decides. -/
theorem returnTypeOf?_datatype (rs : List Api.Response) :
    ((returnTypeOf? table schemas rs).map (·.1.datatype)).getD "void" =
      decidedDatatype table schemas (decidingResponse? rs) := by
  unfold returnTypeOf?
  cases hr : decidingResponse? rs with
  | none => rfl
  | some r =>
    cases htype : r.type with
    | none => simp [responseType, decidedDatatype, responseDatatype, htype]
    | some type => simp [responseType, decidedDatatype, responseDatatype, htype]

/-- A type with a name has one in the target language, if all registered targets have one. -/
theorem datatype_ne_empty (htargets : ∀ e ∈ table.types, e.2 ≠ "") {type : String}
    (htype : type ≠ "") (container : Option Api.Container) :
    (resolveType table schemas type container).datatype ≠ "" := by
  cases container with
  | some c => cases c <;> simp [resolveType, wrapped]
  | none =>
    by_cases h : type ∈ schemas
    · have hclass : (resolveType table schemas type none).datatype = Java.modelName type := by
        simp [resolveType, resolveElement, h]
      rw [hclass]
      exact Java.modelName_ne_empty type
    · have htarget : (resolveType table schemas type none).datatype = (table.resolve type).1 := by
        simp [resolveType, resolveElement, h]
      rw [htarget]
      unfold TypeTable.resolve
      split
      · exact htype
      · next target htarget =>
        exact htargets (type, target) (mem_types_of_lookup htarget)

end

/-! ## Finished operations -/

namespace IsMember

variable {tag path : String} {o m : Operation}

theorem imports (h : IsMember tag path o m) : m.imports = o.imports := by
  rw [h]

theorem parameters (h : IsMember tag path o m) : m.parameters = o.parameters := by
  rw [h]

theorem consumes (h : IsMember tag path o m) : m.consumes = o.consumes := by
  rw [h]

theorem responses (h : IsMember tag path o m) : m.responses = o.responses := by
  rw [h]

theorem returnType (h : IsMember tag path o m) : m.returnType = o.returnType := by
  rw [h]

theorem returnBaseType (h : IsMember tag path o m) : m.returnBaseType = o.returnBaseType := by
  rw [h]

end IsMember

namespace Operation

section
variable (o : Operation) (on : Bool)

@[simp] theorem responses_withValidation : (o.withValidation on).responses = o.responses := by
  cases on <;> rfl

@[simp] theorem returnType_withValidation : (o.withValidation on).returnType = o.returnType := by
  cases on <;> rfl

@[simp] theorem returnBaseType_withValidation :
    (o.withValidation on).returnBaseType = o.returnBaseType := by
  cases on <;> rfl

@[simp] theorem imports_inJaxrs : o.inJaxrs.imports = o.imports := by
  unfold inJaxrs
  simp only
  split <;> rfl

@[simp] theorem parameters_inJaxrs : o.inJaxrs.parameters = o.parameters.map fun p =>
    { p with inMultipart := p.inMultipart || o.takesMultipart } := by
  unfold inJaxrs
  simp only
  split <;> rfl

@[simp] theorem responses_inJaxrs : o.inJaxrs.responses = o.responses.map (·.inJaxrs) := by
  unfold inJaxrs
  simp only
  split <;> rfl

/-- In the form of JAX-RS an operation without a return type returns nothing. -/
theorem returnType_inJaxrs :
    o.inJaxrs.returnType = if o.returnBaseType.isNone then some "void" else o.returnType := by
  unfold inJaxrs
  simp only
  split <;> rfl

end

/-- A member of a group with annotations on its parameters or without any, in the form of JAX-RS and
with its return type as it is written. -/
def finished (f : OperationFeatures) (o : Operation) : Operation :=
  let o := (o.withValidation f.beanValidation).inJaxrs
  { o with renderedReturnType := some (o.returnTypeInCode f.genericResponse) }

variable {f : OperationFeatures} {o : Operation} {n : String}

/-- The hooks leave the parameters but for their annotations, and mark those of a form of several
parts. -/
theorem parameters_finished (f : OperationFeatures) (o : Operation) :
    (o.finished f).parameters = o.parameters.map fun p =>
      { (if f.beanValidation then p.validated else { p with annotations := [] }) with
        inMultipart := p.inMultipart || o.takesMultipart } := by
  change (o.withValidation f.beanValidation).inJaxrs.parameters = _
  rw [parameters_inJaxrs]
  cases f.beanValidation <;>
    simp [withValidation, takesMultipart, List.map_map, Parameter.validated, Function.comp_def]

/-- A parameter is annotated before the operation is brought into the form of JAX-RS. -/
theorem mem_annotations_finished {as : List Annotation} :
    (∃ p ∈ (o.finished f).parameters, p.annotations = as) ↔
      ∃ p ∈ (o.withValidation f.beanValidation).parameters, p.annotations = as := by
  change (∃ p ∈ (o.withValidation f.beanValidation).inJaxrs.parameters, p.annotations = as) ↔ _
  rw [parameters_inJaxrs]
  simp only [List.mem_map, exists_exists_and_eq_and]

/-- Without validation no parameter has annotations. -/
theorem annotations_eq_nil (hoff : f.beanValidation = false) {p : Parameter}
    (hp : p ∈ (o.finished f).parameters) : p.annotations = [] := by
  obtain ⟨q, hq, hsame⟩ := mem_annotations_finished.1 ⟨p, hp, rfl⟩
  rw [hoff, withValidation] at hq
  obtain ⟨q', _, rfl⟩ := List.mem_map.1 hq
  exact hsame.symm

/-- A member imports what the operation imports and its annotations. -/
theorem mem_imports_finished_iff :
    n ∈ (o.finished f).imports ↔
      (∃ p ∈ (o.finished f).parameters, n ∈ importsFor p.annotations) ∨ n ∈ o.imports := by
  have hannotated : (∃ p ∈ (o.finished f).parameters, n ∈ importsFor p.annotations) ↔
      ∃ p ∈ (o.withValidation f.beanValidation).parameters, n ∈ importsFor p.annotations := by
    constructor
    · rintro ⟨p, hp, hn⟩
      obtain ⟨q, hq, hsame⟩ := mem_annotations_finished.1 ⟨p, hp, rfl⟩
      exact ⟨q, hq, hsame ▸ hn⟩
    · rintro ⟨p, hp, hn⟩
      obtain ⟨q, hq, hsame⟩ := mem_annotations_finished.2 ⟨p, hp, rfl⟩
      exact ⟨q, hq, hsame ▸ hn⟩
  change n ∈ (o.withValidation f.beanValidation).inJaxrs.imports ↔ _
  rw [hannotated, imports_inJaxrs]
  cases f.beanValidation with
  | true => simp [withValidation, List.mem_flatMap]
  | false => simp [withValidation, importsFor]

/-- The responses of a member are in the form of JAX-RS. -/
theorem responses_finished (f : OperationFeatures) (o : Operation) :
    (o.finished f).responses = o.responses.map (·.inJaxrs) := by
  change (o.withValidation f.beanValidation).inJaxrs.responses = _
  rw [responses_inJaxrs, responses_withValidation]

/-- The return type as it is written: a generic one if that is asked for, or else the one that was
prepared. Without one, and with an empty one, nothing is returned. -/
theorem renderedReturnType_finished (f : OperationFeatures)
    (ho : o.returnBaseType = none ↔ o.returnType = none) :
    (o.finished f).renderedReturnType =
      some (if f.genericResponse then "Response"
        else if o.returnType.getD "void" = "" then "void" else o.returnType.getD "void") := by
  change some ((o.withValidation f.beanValidation).inJaxrs.returnTypeInCode f.genericResponse) = _
  rw [returnTypeInCode, returnType_inJaxrs, returnType_withValidation,
    returnBaseType_withValidation]
  cases ht : o.returnType with
  | none => simp [ho.2 ht, genericResponse]
  | some t =>
    have hbase : o.returnBaseType ≠ none := fun h => by cases ht.symm.trans (ho.1 h)
    simp [hbase, genericResponse]

end Operation

end Client

end ClientGen
