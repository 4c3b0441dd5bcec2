import ClientGen.Generation
import ClientGen.Proofs.Grouping.Path
import ClientGen.Proofs.Grouping.Shared

/-!
# Every member keeps the address of its operation

The base path of a group is chosen with its first operation and may be given up with any later one.
Still, in every group that can come about, the base path and the path of a member are the described
path of the operation without the slashes at its end ([Addresses]). The invariant is that every
member stands as it is placed at the base path that its group has now ([PlacedAt]); one step keeps
it for the members that are there ([Group.add_placedAt]), so every group that is made has it
([Group.made_placedAt]). The hooks that finish a group move nothing ([finishGroup_place]).
-/

namespace ClientGen.Client

/-- Whether a member lies under a base path and has been placed at it. -/
def PlacedAt (base : String) (o : Operation) : Prop :=
  isUnder o.rawPath base = true ∧ o.placed base = o

/-- Whether a base path and the path of a member together are the address of its operation, where
the member says rightly whether it has a path of its own. -/
structure Addresses (base : String) (o : Operation) : Prop where
  under : isUnder o.rawPath base = true
  joined : base ++ o.path = Text.trimCharEnd '/' o.rawPath
  subresource : o.isSubresource = true ↔ o.path ≠ ""

namespace Operation

/-- The path that is written at the method of an operation; without its own one nothing is. -/
def writtenPath (o : Operation) : String := if o.isSubresource then o.path else ""

/-- Where an operation is. -/
def place (o : Operation) : String × String × Bool := (o.rawPath, o.path, o.isSubresource)

end Operation

/-- What is written at the interface and at the method is the address of the operation. -/
theorem Addresses.written {base : String} {o : Operation} (h : Addresses base o) :
    base ++ o.writtenPath = Text.trimCharEnd '/' o.rawPath := by
  rw [← h.joined, Operation.writtenPath]
  split
  · rfl
  · next hn =>
    have hempty : o.path = "" := by
      by_contra hne
      exact hn (h.subresource.2 hne)
    rw [hempty]

/-- Whether what is written at the interface of a finished group and at its methods is the address
of every operation. -/
def Group.WritesAddresses (g : Group) : Prop :=
  ∀ o ∈ g.operations, Addresses g.commonPath o ∧
    g.commonPath ++ o.writtenPath = Text.trimCharEnd '/' o.rawPath

/-- Operations at one place have one address. -/
theorem Addresses.congr {base : String} {o o' : Operation} (h : Addresses base o)
    (hp : o'.place = o.place) : Addresses base o' := by
  obtain ⟨hraw, hpath, hsub⟩ : o'.rawPath = o.rawPath ∧ o'.path = o.path ∧
      o'.isSubresource = o.isSubresource := by simpa [Operation.place] using hp
  exact ⟨hraw ▸ h.under, by rw [hpath, hraw, h.joined], by rw [hsub, hpath, h.subresource]⟩

/-- A member that is placed has the address of its operation. -/
theorem PlacedAt.addresses {base : String} {o : Operation} (hb : IsBase base)
    (h : PlacedAt base o) : Addresses base o := by
  obtain ⟨hu, hp⟩ := h
  have hpath : o.path = relativePath o.rawPath base := (congrArg Operation.path hp).symm
  have hsub : o.isSubresource = (relativePath o.rawPath base != "") :=
    (congrArg Operation.isSubresource hp).symm
  refine ⟨hu, ?_, ?_⟩
  · rw [hpath]
    exact base_append_relativePath hb hu
  · rw [hsub, hpath]
    exact bne_iff_ne

/-! ## Groups that are made -/

/-- Placing an operation again changes nothing. -/
theorem placedAt_placed {o : Operation} {base : String} (hu : isUnder o.rawPath base = true) :
    PlacedAt base (o.placed base) := ⟨hu, rfl⟩

namespace Group

/-- With one more operation every member is placed at the base path, the old members too. -/
theorem add_placedAt {g : Group} (hb : IsBase g.basePath)
    (hg : ∀ o ∈ g.operations, PlacedAt g.basePath o) (path : String) (o : Operation) :
    IsBase (g.add path o).basePath ∧
      ∀ m ∈ (g.add path o).operations, PlacedAt (g.add path o).basePath m := by
  unfold add
  split
  · next hu =>
    refine ⟨hb, fun m hm => ?_⟩
    rcases List.mem_append.1 hm with hm | hm
    · exact hg m hm
    · rw [List.mem_singleton.1 hm]
      exact placedAt_placed hu
  · refine ⟨.inl rfl, fun m hm => ?_⟩
    obtain ⟨m', -, rfl⟩ := List.mem_map.1 hm
    exact placedAt_placed (isUnder_empty _)

/-- The members of a group are placed at its base path. -/
theorem made_placedAt {tag : String} {items : List (String × Operation)} {g : Group}
    (h : made tag items = some g) :
    IsBase g.basePath ∧ ∀ o ∈ g.operations, PlacedAt g.basePath o := by
  refine made_induction
    (P := fun _ g => IsBase g.basePath ∧ ∀ o ∈ g.operations, PlacedAt g.basePath o)
    (fun path o => ?_) (fun _ g path o hg => add_placedAt hg.1 hg.2 path o) h
  exact add_placedAt (isBase_groupBasePath path) (fun _ hm => absurd hm List.not_mem_nil) path o

end Group

/-- The members of every group of a run have the addresses of their operations. -/
theorem addresses_run {xs : List Submission} {g : Group} (hg : g ∈ (Grouping.run xs).groups)
    {o : Operation} (ho : o ∈ g.operations) : Addresses g.basePath o := by
  have hmade := Grouping.group?_of_mem hg
  rw [Grouping.group?_run] at hmade
  obtain ⟨hb, hp⟩ := Group.made_placedAt hmade
  exact (hp o ho).addresses hb

/-! ## Groups that are finished -/

/-- No hook moves a member or the base path. -/
theorem hook_place (features : OperationFeatures) (g : Group) (hook : OperationHook) :
    (hook.apply features g).basePath = g.basePath ∧
      (hook.apply features g).operations.map (·.place) = g.operations.map (·.place) := by
  cases hook with
  | parameterValidation =>
    refine ⟨rfl, ?_⟩
    rw [OperationHook.apply, List.map_map]
    refine List.map_congr_left fun o _ => ?_
    rw [Function.comp_apply, Operation.withValidation]
    split <;> rfl
  | jaxrs =>
    refine ⟨rfl, ?_⟩
    rw [OperationHook.apply, List.map_map]
    refine List.map_congr_left fun o _ => ?_
    simp only [Function.comp_apply, Operation.inJaxrs]
    split <;> rfl

/-- A finished group has its base path as the common one, and its members where they were. -/
theorem finishGroup_place (hooks : List OperationHook) (features : OperationFeatures) (g : Group) :
    (finishGroup hooks features g).commonPath = g.basePath ∧
      (finishGroup hooks features g).operations.map (·.place) = g.operations.map (·.place) := by
  have hhooks : (hooks.foldl (OperationHook.apply features) g).basePath = g.basePath ∧
      (hooks.foldl (OperationHook.apply features) g).operations.map (·.place) =
        g.operations.map (·.place) := by
    induction hooks generalizing g with
    | nil => exact ⟨rfl, rfl⟩
    | cons hook hooks ih =>
      obtain ⟨h1, h2⟩ := hook_place features g hook
      obtain ⟨h3, h4⟩ := ih (hook.apply features g)
      exact ⟨h3.trans h1, h4.trans h2⟩
  refine ⟨hhooks.1, ?_⟩
  rw [finishGroup, Group.settled, ← hhooks.2, List.map_map]
  rfl

/-- A finished group writes the addresses of its operations. -/
theorem writesAddresses_finishGroup {hooks : List OperationHook} {features : OperationFeatures}
    {g : Group} (h : ∀ o ∈ g.operations, Addresses g.basePath o) :
    (finishGroup hooks features g).WritesAddresses := by
  intro o ho
  obtain ⟨hbase, hplaces⟩ := finishGroup_place hooks features g
  have hmem : o.place ∈ g.operations.map (·.place) := hplaces ▸ List.mem_map_of_mem ho
  obtain ⟨o', ho', hp⟩ := List.mem_map.1 hmem
  have haddr : Addresses g.basePath o := (h o' ho').congr hp.symm
  rw [hbase]
  exact ⟨haddr, haddr.written⟩

/-! ## All groups that can come about -/

/-- Whatever is submitted, every member of every group has the address of its operation: after any
calls for distinct operations, after all operations have been grouped, and when the groups of a
description are finished and written. -/
theorem addresses_kept :
    (∀ (operations : List (String × Operation)) (calls : List SharedGrouping.Call),
      (calls.map (·.handle)).Nodup →
        ∀ g ∈ (SharedGrouping.run operations calls).groups,
          (∀ o ∈ (SharedGrouping.run operations calls).operationsOf g.members,
            Addresses g.basePath o) ∧
          ∀ (hooks : List OperationHook) (features : OperationFeatures),
            (finishGroup hooks features
              ((SharedGrouping.run operations calls).view g)).WritesAddresses) ∧
      (∀ (pairs : List (Api.Operation × Operation)), ∀ g ∈ (groupAll pairs).groups,
        ∀ o ∈ g.operations, Addresses g.basePath o) ∧
      ∀ (d : Api.Description) (b : Backend) (c : Configuration), ∀ g ∈ (groupsOf d b c).groups,
        g.WritesAddresses := by
  have hall : ∀ (pairs : List (Api.Operation × Operation)), ∀ g ∈ (groupAll pairs).groups,
      ∀ o ∈ g.operations, Addresses g.basePath o := by
    intro pairs g hg o ho
    rw [groupAll_eq_run] at hg
    exact addresses_run hg ho
  refine ⟨fun operations calls hd g hg => ?_, hall, fun d b c g hg => ?_⟩
  · have hview : (SharedGrouping.run operations calls).view g ∈
        (Grouping.run (calls.filterMap (·.submission? operations))).groups := by
      rw [← (SharedGrouping.view_run hd).1]
      exact List.mem_map_of_mem hg
    have haddr : ∀ o ∈ ((SharedGrouping.run operations calls).view g).operations,
        Addresses g.basePath o := fun o ho => addresses_run hview ho
    exact ⟨haddr, fun hooks features => writesAddresses_finishGroup haddr⟩
  · obtain ⟨g', hg', rfl⟩ := List.mem_map.1 hg
    exact writesAddresses_finishGroup (hall _ g' hg')

/-- Operations of one tag, the last of which lies outside the base path of the others. -/
def petOperations : List (String × Operation) :=
  ["list", "get", "stock"].map fun id =>
    (id, { operationId := id, nickname := id, method := .get, rawPath := "?", path := "?" })

/-- The calls for them. -/
def petCalls : List SharedGrouping.Call :=
  [⟨"pet", "GET", "/pet/", "list"⟩, ⟨"pet", "GET", "/pet/{id}", "get"⟩,
    ⟨"pet", "GET", "store//", "stock"⟩]

/-- The group goes back to the root, and the earlier members with it. -/
theorem addresses_kept_pets :
    (petCalls.map (·.handle)).Nodup ∧
      ∃ g ∈ (SharedGrouping.run petOperations petCalls).groups, g.basePath = "" ∧
        ((SharedGrouping.run petOperations petCalls).operationsOf g.members).map (·.path) =
          ["/pet", "/pet/{id}", "store"] ∧
        ∀ o ∈ (SharedGrouping.run petOperations petCalls).operationsOf g.members,
          Addresses g.basePath o := by
  have hd : (petCalls.map (·.handle)).Nodup := by decide
  have hg : (⟨"pet", "PetApi", "", ["list", "get", "stock"]⟩ : SharedGroup) ∈
      (SharedGrouping.run petOperations petCalls).groups := .head _
  exact ⟨hd, _, hg, rfl, by decide +kernel, (addresses_kept.1 petOperations petCalls hd _ hg).1⟩

end ClientGen.Client
