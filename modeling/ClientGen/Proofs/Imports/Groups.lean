import ClientGen.Backend.JaxrsCxf
import ClientGen.Generation
import ClientGen.Proofs.Imports.Operations
import ClientGen.Proofs.Lists

/-!
# Types, annotations and imports of groups

A group of a JAX-RS client has a finished member for each operation that carries its tag
([JaxrsCxf.members_of_mem_groups]) and imports what its members import
([JaxrsCxf.mem_imports_finishGroup_iff]). So its imports are complete, its return types are those of
the responses that decide, and without validation there is nothing of it in the group
([JaxrsCxf.groupAgrees]).
-/

namespace ClientGen

open Client

/-! ## Groups of JAX-RS clients -/

namespace JaxrsCxf

/-- What the hooks make of a group: the same members, finished. -/
theorem operations_finishGroup (f : OperationFeatures) (g : Group) :
    (finishGroup backend.operationHooks f g).operations =
      g.operations.map (Operation.finished f) := by
  change ((g.operations.map _).map _).map _ = _
  rw [List.map_map, List.map_map]
  rfl

/-- The imports of a finished group are those of its members, and the generic return type if it is
used. -/
theorem mem_imports_finishGroup_iff {f : OperationFeatures} {g : Group} {n : String} :
    n ∈ (finishGroup backend.operationHooks f g).imports ↔
      f.genericResponse = true ∧ n = "Response" ∨
        ∃ m ∈ (finishGroup backend.operationHooks f g).operations, n ∈ m.imports := by
  have hunion (operations : List Operation) :
      n ∈ (if f.genericResponse
          then (operations.foldl (fun acc o => acc.union o.imports) NameSet.empty).insert
            genericResponse
          else operations.foldl (fun acc o => acc.union o.imports) NameSet.empty) ↔
        f.genericResponse = true ∧ n = "Response" ∨ ∃ m ∈ operations, n ∈ m.imports := by
    cases f.genericResponse <;> simp [NameSet.mem_foldl_union, genericResponse]
  exact hunion (finishGroup backend.operationHooks f g).operations

/-- A client has a group for each key of a tag, with the hooks applied. -/
theorem groupsOf_eq (d : Api.Description) (c : Configuration) :
    (groupsOf d backend.selectFiles c).groups =
      (groupAll (preparedOperations d backend)).groups.map
        (finishGroup backend.operationHooks c.operationFeatures) := rfl

section
variable {d : Api.Description} {c : Configuration}

/-- What a member of a finished group is: an operation that was prepared and joined the group. -/
def IsFinished (d : Api.Description) (c : Configuration) (tag : String) (o : Api.Operation)
    (m : Operation) : Prop :=
  ∃ joined, IsMember tag o.path (prepareOperation backend.typeTable (schemaNames d) o) joined ∧
    m = joined.finished c.operationFeatures

/-- A group has such a member for each operation that carries its tag, in their order. -/
theorem members_of_mem_groups {g : Group} (hg : g ∈ (groupsOf d backend.selectFiles c).groups) :
    List.Forall₂ (IsFinished d c g.name) (d.operations.filter fun o => g.name ∈ tagsFor o)
      g.operations := by
  rw [groupsOf_eq] at hg
  obtain ⟨joined, hjoined, rfl⟩ := List.mem_map.1 hg
  have hmade := group?_groupAll_of_mem hjoined
  rw [group?_groupAll] at hmade
  have hmembers := List.forall₂_map_left_iff.1 (Group.made_members hmade)
  have hcarrying : carrying joined.name (preparedOperations d backend) =
      (d.operations.filter fun o => joined.name ∈ tagsFor o).map
        fun o => (o, prepareOperation backend.typeTable (schemaNames d) o) := by
    rw [carrying, preparedOperations, List.filter_map]
    rfl
  rw [hcarrying, List.forall₂_map_left_iff] at hmembers
  rw [operations_finishGroup, List.forall₂_map_right_iff]
  exact hmembers.imp fun o m hm => ⟨m, hm, rfl⟩

/-- A member of a group imports its annotations and what its operation needs. -/
theorem IsFinished.mem_imports_iff {tag n : String} {o : Api.Operation} {m : Operation}
    (hm : IsFinished d c tag o m) :
    n ∈ m.imports ↔ (∃ p ∈ m.parameters, n ∈ importsFor p.annotations) ∨
      OperationNeeds backend.typeTable (schemaNames d) o n := by
  obtain ⟨joined, hjoined, rfl⟩ := hm
  rw [Operation.mem_imports_finished_iff, hjoined.imports, mem_imports_prepareOperation_iff]

/-- A group imports what its members import, and the generic response. -/
theorem mem_imports_of_mem_groups_iff {g : Group} {n : String}
    (hg : g ∈ (groupsOf d backend.selectFiles c).groups) :
    n ∈ g.imports ↔
      c.genericResponse = true ∧ n = "Response" ∨ ∃ m ∈ g.operations, n ∈ m.imports := by
  rw [groupsOf_eq] at hg
  obtain ⟨joined, _, rfl⟩ := List.mem_map.1 hg
  exact mem_imports_finishGroup_iff

/-- What holds of an operation `m` that comes of a described one, in a group with some imports. -/
structure OperationAgrees (d : Api.Description) (c : Configuration) (imports : NameSet)
    (o : Api.Operation) (m : Operation) : Prop where
  /-- What the type of a parameter needs is imported. -/
  parameterTypes : ∀ p ∈ o.parameters, ∀ n,
    Needs backend.typeTable (schemaNames d) p.type p.container n → n ∈ imports
  /-- So is what the type of a response needs, the one that decides the return type among them. -/
  responseTypes : ∀ r ∈ o.responses, ∀ type, r.type = some type → ∀ n,
    Needs backend.typeTable (schemaNames d) type r.container n → n ∈ imports
  /-- So are the annotations of parameters. -/
  annotations : ∀ p ∈ m.parameters, ∀ a ∈ p.annotations, a.name ∈ imports
  /-- Without validation there are no such annotations. -/
  noValidation : c.beanValidation = false → ∀ p ∈ m.parameters, p.annotations = []
  /-- Every response has its datatype. -/
  datatypes : List.Forall₂
    (fun r r' => r'.datatype = some (responseDatatype backend.typeTable (schemaNames d) r))
    o.responses m.responses
  /-- The return type may be generic. -/
  generic : c.genericResponse = true → m.renderedReturnType = some "Response"
  /-- If it is not, it is the datatype of the response that decides. -/
  returned : c.genericResponse = false → (∀ r ∈ o.responses, r.type ≠ some "") →
    ∃ decided, Decides o.responses decided ∧
      m.renderedReturnType =
        some (decidedDatatype backend.typeTable (schemaNames d) decided)

/-- The types that an operation refers to. -/
def referredTypes (o : Api.Operation) : List String :=
  o.parameters.map (·.type) ++ o.responses.filterMap (·.type)

/-- What holds of a group. -/
structure GroupAgrees (d : Api.Description) (c : Configuration) (g : Group) : Prop where
  /-- It has a member for each operation that carries its tag, in their order. -/
  members : List.Forall₂ (OperationAgrees d c g.imports)
    (d.operations.filter fun o => g.name ∈ tagsFor o) g.operations
  /-- Without validation the name of an annotation is imported only as the class of a schema that a
  member refers to. -/
  noValidation : c.beanValidation = false → ∀ n ∈ Annotation.names, n ∈ g.imports →
    ∃ o ∈ d.operations, g.name ∈ tagsFor o ∧
      ∃ type ∈ referredTypes o, type ∈ schemaNames d ∧ n = Java.modelName type

/-- The datatype of a response in the form of JAX-RS. -/
theorem datatype_inJaxrs (table : TypeTable) (schemas : List String) (r : Api.Response) :
    (prepareResponse table schemas r).1.inJaxrs.datatype =
      some (responseDatatype table schemas r) := by
  unfold prepareResponse responseType responseDatatype Response.inJaxrs
  cases r.type <;> rfl

/-- The datatype of the response that decides is not empty, if no type is. -/
theorem decidedDatatype_ne_empty {schemas : List String} {rs : List Api.Response}
    (h : ∀ r ∈ rs, r.type ≠ some "") :
    decidedDatatype backend.typeTable schemas (decidingResponse? rs) ≠ "" := by
  have htargets : ∀ e ∈ backend.typeTable.types, e.2 ≠ "" := by decide +kernel
  cases hr : decidingResponse? rs with
  | none => simp [decidedDatatype]
  | some r =>
    rw [decidedDatatype, responseDatatype]
    cases htype : r.type with
    | none => simp
    | some type =>
      refine datatype_ne_empty htargets (fun he => ?_) r.container
      exact h r (mem_of_decidingResponse? hr) (he ▸ htype)

/-- A member agrees with its operation in whatever imports its own are. -/
theorem IsFinished.agrees {tag : String} {o : Api.Operation} {m : Operation}
    (hm : IsFinished d c tag o m) {imports : NameSet} (himports : ∀ n ∈ m.imports, n ∈ imports) :
    OperationAgrees d c imports o m := by
  have hneeded : ∀ n, OperationNeeds backend.typeTable (schemaNames d) o n → n ∈ imports :=
    fun n hn => himports n (hm.mem_imports_iff.2 (.inr hn))
  have hannotated : ∀ p ∈ m.parameters, ∀ a ∈ p.annotations, a.name ∈ imports :=
    fun p hp a ha =>
      himports a.name (hm.mem_imports_iff.2 (.inl ⟨p, hp, List.mem_map_of_mem ha⟩))
  obtain ⟨joined, hjoined, rfl⟩ := hm
  have hreturn : joined.returnType.getD "void" =
      decidedDatatype backend.typeTable (schemaNames d) (decidingResponse? o.responses) := by
    rw [hjoined.returnType, returnType_prepareOperation]
    exact returnTypeOf?_datatype o.responses
  have hbase : joined.returnBaseType = none ↔ joined.returnType = none := by
    rw [hjoined.returnBaseType, hjoined.returnType, returnBaseType_prepareOperation,
      returnType_prepareOperation]
    exact Option.map_eq_none_iff.trans Option.map_eq_none_iff.symm
  have hrendered := Operation.renderedReturnType_finished c.operationFeatures hbase
  rw [hreturn] at hrendered
  constructor
  case parameterTypes => exact fun p hp n hn => hneeded n (.inl ⟨p, hp, hn⟩)
  case responseTypes => exact fun r hr type htype n hn => hneeded n (.inr ⟨r, hr, type, htype, hn⟩)
  case annotations => exact hannotated
  case noValidation => exact fun hoff p hp => Operation.annotations_eq_nil hoff hp
  case datatypes =>
    rw [Operation.responses_finished, hjoined.responses, responses_prepareOperation]
    refine List.forall₂_map_right_iff.2 (List.forall₂_map_right_iff.2
      (List.forall₂_map_right_iff.2 (List.forall₂_same.2 fun r _ => ?_)))
    exact datatype_inJaxrs backend.typeTable (schemaNames d) r
  case generic =>
    intro hon
    rw [hrendered]
    exact congrArg some (if_pos hon)
  case returned =>
    intro hoff htypes
    refine ⟨_, decides_decidingResponse? o.responses, ?_⟩
    rw [hrendered, if_neg (decidedDatatype_ne_empty htypes)]
    have hgeneric : c.operationFeatures.genericResponse = false := hoff
    rw [hgeneric]
    rfl

/-- The name of an annotation is needed only by a schema. -/
theorem needs_annotation {schemas : List String} {type n : String}
    {container : Option Api.Container} (hn : n ∈ Annotation.names)
    (h : Needs backend.typeTable schemas type container n) :
    type ∈ schemas ∧ n = Java.modelName type := by
  cases h with
  | schema hin => exact ⟨hin, rfl⟩
  | target _ ht _ =>
    have hall : ∀ e ∈ backend.typeTable.types, e.2 ∉ Annotation.names := by decide +kernel
    exact absurd hn (hall (type, n) (mem_types_of_lookup ht))
  | @container c _ hc hin =>
    have hall : ∀ c, ∀ n ∈ containerImports c, n ∉ Annotation.names := by
      intro c
      cases c <;> decide
    exact absurd hn (hall c n hin)

/-- Without validation a member imports only what a type needs that the operation refers to. -/
theorem IsFinished.exists_needs {tag : String} {o : Api.Operation} {m : Operation}
    (hm : IsFinished d c tag o m) (hoff : c.beanValidation = false) {n : String}
    (hn : n ∈ m.imports) :
    ∃ type ∈ referredTypes o, ∃ container,
      Needs backend.typeTable (schemaNames d) type container n := by
  rcases hm.mem_imports_iff.1 hn with ⟨p, hp, hpn⟩ | hneeds
  · obtain ⟨joined, _, rfl⟩ := hm
    rw [Operation.annotations_eq_nil hoff hp] at hpn
    cases hpn
  · rcases hneeds with ⟨p, hp, hneeds⟩ | ⟨r, hr, type, htype, hneeds⟩
    · exact ⟨p.type, List.mem_append_left _ (List.mem_map_of_mem hp), p.container, hneeds⟩
    · exact ⟨type, List.mem_append_right _ (List.mem_filterMap.2 ⟨r, hr, htype⟩), r.container,
        hneeds⟩

/-- The imports of a group are complete, and nothing is in them of what is switched off. -/
theorem groupAgrees {g : Group} (hg : g ∈ (groupsOf d backend.selectFiles c).groups) :
    GroupAgrees d c g := by
  have hmembers := members_of_mem_groups hg
  rw [groupsOf_eq] at hg
  obtain ⟨joined, hjoined, rfl⟩ := List.mem_map.1 hg
  have himports : ∀ m ∈ (finishGroup backend.operationHooks c.operationFeatures joined).operations,
      ∀ n ∈ m.imports,
        n ∈ (finishGroup backend.operationHooks c.operationFeatures joined).imports :=
    fun m hm n hn => mem_imports_finishGroup_iff.2 (.inr ⟨m, hm, hn⟩)
  refine ⟨forall₂_imp_of_mem hmembers fun o m hm hfinished => hfinished.agrees (himports m hm),
    fun hoff n hn hin => ?_⟩
  rcases mem_imports_finishGroup_iff.1 hin with ⟨_, hresponse⟩ | ⟨m, hm, hnm⟩
  · rw [hresponse] at hn
    exact absurd hn (by decide)
  · obtain ⟨o, ho, hfinished⟩ := exists_mem_of_forall₂ hmembers hm
    obtain ⟨hin, htag⟩ := List.mem_filter.1 ho
    obtain ⟨type, htype, container, hneeds⟩ := hfinished.exists_needs hoff hnm
    exact ⟨o, hin, of_decide_eq_true htag, type, htype, needs_annotation hn hneeds⟩

end

/-- An operation with a list of dates as a required parameter, and with a parameter whose type is
named like an annotation; it returns visits by their names. -/
def visitDescription : Api.Description where
  title := "Visits"
  operations := [
    { method := .get
      path := "/visits"
      parameters := [
        { name := "dates", location := .query, type := "date", container := some .array,
          required := true },
        { name := "check", location := .query, type := "not null" }]
      responses := [
        { code := "404" },
        { code := "200", type := some "visit", container := some .map },
        { code := "0", type := some "string" }] }]
  schemas := [{ name := "visit" }, { name := "not null" }]

/-- Its group imports what it needs, the class among it that is named like an annotation. -/
theorem groupAgrees_visits :
    ∃ g ∈ (groupsOf visitDescription backend.selectFiles {}).groups,
      g.imports.toList =
        ["ArrayList", "HashMap", "List", "LocalDate", "Map", "NotNull", "Visit"] ∧
      g.operations.map (·.renderedReturnType) = [some "Map<String, Visit>"] ∧
      GroupAgrees visitDescription {} g := by
  have hg : ((groupsOf visitDescription backend.selectFiles {}).group? "default").getD default ∈
      (groupsOf visitDescription backend.selectFiles {}).groups := .head _
  exact ⟨_, hg, by decide +kernel, by decide +kernel, groupAgrees hg⟩

end JaxrsCxf

end ClientGen
