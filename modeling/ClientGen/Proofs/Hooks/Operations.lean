import ClientGen.Proofs.Hooks.Models
import ClientGen.Proofs.Imports.Groups

/-!
# The normal form of operations

The hooks of a JAX-RS client put annotations on the parameters of an operation
([Operation.withValidation]) and bring it into the form of JAX-RS ([Operation.inJaxrs_eq]). Neither
does anything the second time or gets into the way of the other one ([OperationHook.independent]).
What is settled at the end depends only on what they lead to ([Group.settled_congr]). So a finished
group stays as it is when it is finished again, and its operations are in a form that can be told
from what was prepared ([NormalOperation], [JaxrsCxf.finishGroup_normal]).
-/

namespace ClientGen

open Client

namespace Client

/-! ## The form of JAX-RS -/

/-- A container has its name in code. -/
theorem containerInCode_ne (name : String) :
    containerInCode name ≠ "array" ∧ containerInCode name ≠ "map" := by
  unfold containerInCode
  split
  · decide
  · split
    · decide
    · exact ⟨‹_›, ‹_›⟩

@[simp] theorem containerInCode_containerInCode (name : String) :
    containerInCode (containerInCode name) = containerInCode name := by
  obtain ⟨harray, hmap⟩ := containerInCode_ne name
  rw [containerInCode.eq_def (containerInCode name), if_neg harray, if_neg hmap]

/-- All that is done with a response. -/
theorem Response.inJaxrs_eq (r : Response) : r.inJaxrs = { r with
    code := if r.code = "0" then "200" else r.code
    container := r.container.map containerInCode
    datatype := if r.baseType.isNone then some "void" else r.datatype
    baseType := if r.baseType.isNone then some "Void" else r.baseType
    isVoid := r.isVoid || r.baseType.isNone } := by
  unfold Response.inJaxrs
  cases r.baseType <;> simp

theorem Response.code_inJaxrs_ne (r : Response) : r.inJaxrs.code ≠ "0" := by
  rw [r.inJaxrs_eq]
  dsimp only
  split
  · decide
  · assumption

/-- A response is brought into the form of JAX-RS once. -/
theorem Response.inJaxrs_inJaxrs (r : Response) : r.inJaxrs.inJaxrs = r.inJaxrs := by
  rw [r.inJaxrs.inJaxrs_eq, if_neg r.code_inJaxrs_ne, r.inJaxrs_eq]
  cases r.baseType <;> simp [Function.comp_def]

namespace Operation

/-- All that is done with an operation. -/
theorem inJaxrs_eq (o : Operation) : o.inJaxrs = { o with
    isMultipart := o.isMultipart || o.consumes.head? == some multipartForm
    parameters := o.parameters.map fun p => { p with
      inMultipart := p.inMultipart || o.takesMultipart }
    responses := o.responses.map (·.inJaxrs)
    returnContainer := o.returnContainer.map containerInCode
    returnType := if o.returnBaseType.isNone then some "void" else o.returnType
    returnBaseType := if o.returnBaseType.isNone then some "Void" else o.returnBaseType
    isVoid := o.isVoid || o.returnBaseType.isNone } := by
  unfold inJaxrs
  cases o.returnBaseType <;> simp

theorem inJaxrs_inJaxrs (o : Operation) : o.inJaxrs.inJaxrs = o.inJaxrs := by
  have htakes : o.inJaxrs.takesMultipart = o.takesMultipart := by
    rw [o.inJaxrs_eq]
    rfl
  rw [o.inJaxrs.inJaxrs_eq, htakes, o.inJaxrs_eq]
  cases o.returnBaseType <;>
    simp [Function.comp_def, Response.inJaxrs_inJaxrs]

theorem withValidation_withValidation (o : Operation) (on : Bool) :
    (o.withValidation on).withValidation on = o.withValidation on := by
  cases on with
  | false => simp [withValidation, Function.comp_def]
  | true =>
    have hparameters : (o.parameters.map (·.validated)).map (·.validated) =
        o.parameters.map (·.validated) := by
      rw [List.map_map]
      rfl
    have himports (s : NameSet) (names : List String) :
        (s.insertAll names).insertAll names = s.insertAll names :=
      NameSet.eq_of_mem_iff fun n => by simp
    simp only [withValidation, if_true, hparameters, himports]

theorem inJaxrs_withValidation (o : Operation) (on : Bool) :
    (o.withValidation on).inJaxrs = o.inJaxrs.withValidation on := by
  rw [inJaxrs_eq, o.inJaxrs_eq]
  cases on <;> simp [withValidation, takesMultipart, Function.comp_def, Parameter.validated,
    List.flatMap_map]

/-! ## Freshly prepared operations -/

/-- A member of a group that was prepared and to which no hook was applied. -/
def IsFresh (m : Operation) : Prop :=
  ∃ table schemas raw tag path, IsMember tag path (prepareOperation table schemas raw) m

/-- What is not marked yet. -/
structure Unmarked (o : Operation) : Prop where
  isVoid : o.isVoid = false
  isMultipart : o.isMultipart = false
  parameters : ∀ p ∈ o.parameters, p.inMultipart = false
  responses : ∀ r ∈ o.responses, r.isVoid = false ∧ (r.baseType = none ↔ r.datatype = none)
  returned : o.returnBaseType = none ↔ o.returnType = none

theorem IsFresh.unmarked {m : Operation} (h : m.IsFresh) : Unmarked m := by
  obtain ⟨table, schemas, raw, tag, path, hm⟩ := h
  rw [hm]
  constructor
  case isVoid => rfl
  case isMultipart => rfl
  case parameters =>
    intro p hp
    obtain ⟨_, hprepared, rfl⟩ := List.mem_map.1 hp
    obtain ⟨q, _, rfl⟩ := List.mem_map.1 hprepared
    rfl
  case responses =>
    intro r hr
    obtain ⟨_, hprepared, rfl⟩ := List.mem_map.1 hr
    obtain ⟨q, _, rfl⟩ := List.mem_map.1 hprepared
    unfold prepareResponse
    split <;> simp
  case returned => exact Option.map_eq_none_iff.trans Option.map_eq_none_iff.symm

end Operation

/-! ## The normal form -/

/-- Whether a response is in the normal form of another one. -/
structure NormalResponse (r r' : Response) : Prop where
  code : r'.code ≠ "0"
  baseType : r'.baseType ≠ none
  container : r'.container ≠ some "array" ∧ r'.container ≠ some "map"
  /-- It is marked just if it had no type. -/
  isVoid : r'.isVoid = true ↔ r.datatype = none

/-- Whether an operation is in the normal form of another one. -/
structure NormalOperation (o o' : Operation) : Prop where
  responses : List.Forall₂ NormalResponse o.responses o'.responses
  returnType : o'.returnType ≠ none
  returnBaseType : o'.returnBaseType ≠ none
  returnContainer : o'.returnContainer ≠ some "array" ∧ o'.returnContainer ≠ some "map"
  /-- It is marked just if it had no return type. -/
  isVoid : o'.isVoid = true ↔ o.returnType = none
  consumes : o'.consumes = o.consumes
  /-- It is a form of several parts just if that comes first, without a boundary. -/
  isMultipart : o'.isMultipart = true ↔ o.consumes.head? = some "multipart/form-data"
  /-- A parameter is marked just if a form of several parts is among what is consumed, with a
  boundary or without one. -/
  inMultipart : ∀ p ∈ o'.parameters,
    p.inMultipart = true ↔ ∃ t ∈ o.consumes, ∃ rest, t = "multipart/form-data" ++ rest

/-- No container has the name that it has in a description. -/
theorem map_containerInCode_ne (container : Option String) :
    container.map containerInCode ≠ some "array" ∧ container.map containerInCode ≠ some "map" := by
  cases container with
  | none => exact ⟨nofun, nofun⟩
  | some name => simpa using containerInCode_ne name

theorem Response.normal_inJaxrs {r : Response} (hvoid : r.isVoid = false)
    (htype : r.baseType = none ↔ r.datatype = none) : NormalResponse r r.inJaxrs where
  code := r.code_inJaxrs_ne
  baseType := by
    rw [r.inJaxrs_eq]
    cases r.baseType <;> simp
  container := by
    rw [r.inJaxrs_eq]
    exact map_containerInCode_ne r.container
  isVoid := by
    rw [r.inJaxrs_eq, ← htype]
    simp [hvoid]

namespace Operation

/-- An operation takes a form of several parts if one is among what it consumes. -/
theorem takesMultipart_iff {o : Operation} :
    o.takesMultipart = true ↔ ∃ t ∈ o.consumes, ∃ rest, t = "multipart/form-data" ++ rest := by
  simp only [takesMultipart, List.any_eq_true, Text.startsWith_iff, multipartForm]

theorem Unmarked.withValidation {o : Operation} (h : Unmarked o) (on : Bool) :
    Unmarked (o.withValidation on) where
  isVoid := by cases on <;> exact h.isVoid
  isMultipart := by cases on <;> exact h.isMultipart
  parameters p hp := by
    cases on <;>
    · obtain ⟨q, hq, rfl⟩ := List.mem_map.1 hp
      exact h.parameters q hq
  responses r hr := h.responses r (o.responses_withValidation on ▸ hr)
  returned := by simpa using h.returned

theorem Unmarked.normal_inJaxrs {o : Operation} (h : Unmarked o) : NormalOperation o o.inJaxrs := by
  rw [o.inJaxrs_eq]
  constructor
  case responses =>
    refine List.forall₂_map_right_iff.2 (List.forall₂_same.2 fun r hr => ?_)
    exact Response.normal_inJaxrs (h.responses r hr).1 (h.responses r hr).2
  case returnType =>
    cases hbase : o.returnBaseType with
    | none => exact nofun
    | some type => simpa [hbase] using mt h.returned.2
  case returnBaseType => cases o.returnBaseType <;> simp
  case returnContainer => exact map_containerInCode_ne o.returnContainer
  case isVoid => simp [h.isVoid, h.returned]
  case consumes => rfl
  case isMultipart => simp [h.isMultipart, multipartForm]
  case inMultipart =>
    intro p hp
    obtain ⟨q, hq, rfl⟩ := List.mem_map.1 hp
    simp only [h.parameters q hq, Bool.false_or, takesMultipart_iff]

/-- What is prepared and finished is in its normal form. -/
theorem IsFresh.normal_finished {o : Operation} (h : o.IsFresh) (f : OperationFeatures) :
    NormalOperation o (o.finished f) := by
  have hnormal := (h.unmarked.withValidation f.beanValidation).normal_inJaxrs
  have hconsumes : (o.withValidation f.beanValidation).consumes = o.consumes := by
    cases f.beanValidation <;> rfl
  exact {
    responses := (o.responses_withValidation f.beanValidation) ▸ hnormal.responses
    returnType := hnormal.returnType
    returnBaseType := hnormal.returnBaseType
    returnContainer := hnormal.returnContainer
    isVoid := (o.returnType_withValidation f.beanValidation) ▸ hnormal.isVoid
    consumes := hnormal.consumes.trans hconsumes
    isMultipart := hconsumes ▸ hnormal.isMultipart
    inMultipart := hconsumes ▸ hnormal.inMultipart }

end Operation

/-! ## Settled groups -/

/-- An operation with its return type as it is written. -/
def Operation.rendered (f : OperationFeatures) (o : Operation) : Operation :=
  { o with renderedReturnType := some (o.returnTypeInCode f.genericResponse) }

section
variable {f : OperationFeatures}

theorem Group.settled_eq (g : Group) :
    let operations := g.operations.map (Operation.rendered f)
    let imports := operations.foldl (fun acc o => acc.union o.imports) NameSet.empty
    g.settled f =
      ⟨g.name, g.classname, g.basePath, g.basePath, operations,
        if f.genericResponse then imports.insert genericResponse else imports⟩ := rfl

/-- What a group is settled to depends on its operations but for their return types as they are
written, and on nothing that is settled itself. -/
theorem Group.settled_congr {g g' : Group} (hname : g'.name = g.name)
    (hclassname : g'.classname = g.classname) (hbase : g'.basePath = g.basePath)
    (hoperations : g'.operations.map (·.rendered f) = g.operations.map (·.rendered f)) :
    g'.settled f = g.settled f := by
  rw [settled_eq, settled_eq, hoperations, hname, hclassname, hbase]

theorem Group.settled_settled (g : Group) : (g.settled f).settled f = g.settled f := by
  refine settled_congr rfl rfl rfl ?_
  change (g.operations.map (·.rendered f)).map (·.rendered f) = _
  rw [List.map_map]
  rfl

end

end Client

/-! ## Hooks -/

namespace OperationHook

/-- What a hook does with an operation. -/
def changed (f : OperationFeatures) (hook : OperationHook) (o : Operation) : Operation :=
  match hook with
  | parameterValidation => o.withValidation f.beanValidation
  | jaxrs => o.inJaxrs

variable {f : OperationFeatures}

theorem apply_eq (hook : OperationHook) (g : Group) :
    hook.apply f g = { g with operations := g.operations.map (hook.changed f) } := by
  cases hook <;> rfl

theorem changed_comm (hook hook' : OperationHook) (o : Operation) :
    hook.changed f (hook'.changed f o) = hook'.changed f (hook.changed f o) := by
  cases hook <;> cases hook' <;>
    simp only [changed, Operation.inJaxrs_withValidation]

theorem changed_self (hook : OperationHook) (o : Operation) :
    hook.changed f (hook.changed f o) = hook.changed f o := by
  cases hook with
  | parameterValidation => exact o.withValidation_withValidation f.beanValidation
  | jaxrs => exact o.inJaxrs_inJaxrs

/-- Hooks for operations may run in any order and repeatedly. -/
theorem independent (f : OperationFeatures) (hooks : List OperationHook) :
    Independent (OperationHook.apply f) hooks where
  comm a _ b _ g := by
    simp only [apply_eq, List.map_map, Function.comp_def, changed_comm a b]
  again a _ g := by
    simp only [apply_eq, List.map_map, Function.comp_def, changed_self]

/-- To a hook it makes no difference how a return type is written. -/
theorem rendered_changed_rendered (hook : OperationHook) (o : Operation) :
    (hook.changed f (o.rendered f)).rendered f = (hook.changed f o).rendered f := by
  cases hook with
  | parameterValidation =>
    simp only [changed]
    cases f.beanValidation <;> rfl
  | jaxrs =>
    simp only [changed, Operation.inJaxrs_eq]
    rfl

/-- So what is settled at the end need not be settled before. -/
theorem settled_apply_settled (hook : OperationHook) (g : Group) :
    (hook.apply f (g.settled f)).settled f = (hook.apply f g).settled f := by
  rw [apply_eq, apply_eq]
  refine Group.settled_congr rfl rfl rfl ?_
  change ((g.operations.map (·.rendered f)).map (hook.changed f)).map (·.rendered f) = _
  simp only [List.map_map, Function.comp_def, rendered_changed_rendered]

end OperationHook

/-! ## Finished groups -/

/-- The operations of a group are fresh until a hook is applied. -/
theorem isFresh_of_mem_groupAll {d : Api.Description} {b : Backend} {g : Group}
    (hg : g ∈ (groupAll (preparedOperations d b)).groups) {m : Operation}
    (hm : m ∈ g.operations) : m.IsFresh := by
  have hmade := group?_groupAll_of_mem hg
  rw [group?_groupAll] at hmade
  have hmembers := List.forall₂_map_left_iff.1 (Group.made_members hmade)
  obtain ⟨p, hp, hmember⟩ := exists_mem_of_forall₂ hmembers hm
  obtain ⟨raw, _, rfl⟩ := List.mem_map.1 (List.mem_of_mem_filter hp)
  exact ⟨_, _, raw, _, _, hmember⟩

namespace JaxrsCxf

/-- A group of fresh operations is finished to one with their normal forms. It stays as it is when
it is finished again, and it is the same if the hooks are applied the other way round. -/
theorem finishGroup_normal (f : OperationFeatures) {g : Group}
    (hg : ∀ o ∈ g.operations, o.IsFresh) :
    List.Forall₂ NormalOperation g.operations
        (finishGroup backend.operationHooks f g).operations ∧
      finishGroup backend.operationHooks f (finishGroup backend.operationHooks f g) =
        finishGroup backend.operationHooks f g ∧
      finishGroup [.jaxrs, .parameterValidation] f g =
        finishGroup backend.operationHooks f g := by
  refine ⟨?_, ?_, ?_⟩
  · rw [operations_finishGroup]
    exact List.forall₂_map_right_iff.2
      (List.forall₂_same.2 fun o ho => (hg o ho).normal_finished f)
  · exact (OperationHook.independent f backend.operationHooks).close_again
      (Group.settled · f) (fun g => g.settled_settled)
      (fun hook _ g => hook.settled_apply_settled g) g
  · have hswapped : [.jaxrs, .parameterValidation].foldl (OperationHook.apply f) g =
        backend.operationHooks.foldl (OperationHook.apply f) g :=
      (OperationHook.independent f backend.operationHooks).foldl_eq (by decide) (by decide) g
    exact congrArg (Group.settled · f) hswapped

/-- An upload whose form has a boundary, and one that says nothing of what it returns by default. -/
def uploadDescription : Api.Description where
  title := "Uploads"
  operations := [
    { method := .post
      path := "/scans"
      parameters := [{ name := "scan", location := .form, type := "file", required := true }]
      consumes := ["text/plain", "multipart/form-data; boundary=scan"]
      responses := [{ code := "200", type := some "string", container := some .array }] },
    { method := .put
      path := "/scans"
      parameters := [{ name := "scan", location := .form, type := "file", required := true }]
      consumes := ["multipart/form-data"]
      responses := [{ code := "0" }] }]

/-- Only the second one is a form of several parts from the beginning. -/
theorem finishGroup_normal_uploads :
    ∃ g ∈ (groupAll (preparedOperations uploadDescription backend)).groups,
      let finished := finishGroup backend.operationHooks { beanValidation := true } g
      finished.operations.map (·.isMultipart) = [false, true] ∧
      finished.operations.map (·.isVoid) = [false, true] ∧
      finished.operations.flatMap (·.responses.map (·.code)) = ["200", "200"] ∧
      finished.operations.flatMap (·.parameters.map (·.inMultipart)) = [true, true] ∧
      (∀ o ∈ g.operations, o.IsFresh) ∧
      List.Forall₂ NormalOperation g.operations finished.operations ∧
      finishGroup backend.operationHooks { beanValidation := true } finished = finished ∧
      finishGroup [.jaxrs, .parameterValidation] { beanValidation := true } g = finished := by
  have hg : ((groupAll (preparedOperations uploadDescription backend)).group? "default").getD
      default ∈ (groupAll (preparedOperations uploadDescription backend)).groups := .head _
  have hfresh := fun o => isFresh_of_mem_groupAll hg (m := o)
  exact ⟨_, hg, by decide +kernel, by decide +kernel, by decide +kernel, by decide +kernel,
    hfresh, finishGroup_normal _ hfresh⟩

end JaxrsCxf

end ClientGen
