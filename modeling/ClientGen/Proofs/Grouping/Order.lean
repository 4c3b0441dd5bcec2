import ClientGen.Proofs.Grouping.Address
import ClientGen.Proofs.Grouping.Partition

/-!
# The order of operations does not decide where they are

The base path of a group is chosen by its first operation and given up by any that lies outside it.
What comes of this does not depend on the order: it is the segment with which the paths of all
members begin, if there is one, and otherwise the root ([Group.made_base], with [CommonBase] for the
invariant). For there is at most one such segment, the first one of any member
([SharedSegment.unique]). So a group keeps its base path in whatever order the operations come, and
so does each of its members its path ([groupAll_order]).
-/

namespace ClientGen.Client

/-- Whether all of some paths begin with a segment. -/
def SharedSegment (paths : List String) (s : String) : Prop :=
  IsSegment s ∧ ∀ path ∈ paths, BeginsWith s path

/-- Whether a base path is that of the segment which some paths share, or the root if they share
none. -/
def CommonBase (paths : List String) (base : String) : Prop :=
  (∃ s, SharedSegment paths s ∧ base = "/" ++ s) ∨ ((¬ ∃ s, SharedSegment paths s) ∧ base = "")

/-! ## Shared segments -/

/-- Paths share one segment at most. -/
theorem SharedSegment.unique {paths : List String} {s t : String} (hne : paths ≠ [])
    (hs : SharedSegment paths s) (ht : SharedSegment paths t) : s = t := by
  obtain ⟨path, hpath⟩ := List.exists_mem_of_ne_nil paths hne
  exact (hs.2 path hpath).unique hs.1 ht.1 (ht.2 path hpath)

/-- What more paths share is shared by the paths among them. -/
theorem SharedSegment.mono {paths paths' : List String} {s : String}
    (h : SharedSegment paths' s) (hsub : ∀ path ∈ paths, path ∈ paths') : SharedSegment paths s :=
  ⟨h.1, fun path hpath => h.2 path (hsub path hpath)⟩

/-- The base path is that of the segment that is shared. -/
theorem CommonBase.eq_slash {paths : List String} {base s : String} (h : CommonBase paths base)
    (hne : paths ≠ []) (hs : SharedSegment paths s) : base = "/" ++ s := by
  rcases h with ⟨t, ht, rfl⟩ | ⟨hnone, -⟩
  · rw [hs.unique hne ht]
  · exact absurd ⟨s, hs⟩ hnone

/-- Without a shared segment the base path is the root. -/
theorem CommonBase.eq_empty {paths : List String} {base : String} (h : CommonBase paths base)
    (hnone : ¬ ∃ s, SharedSegment paths s) : base = "" := by
  rcases h with ⟨s, hs, -⟩ | ⟨-, he⟩
  · exact absurd ⟨s, hs⟩ hnone
  · exact he

/-- The same paths in any order have the same base path. -/
theorem CommonBase.unique {paths paths' : List String} {base base' : String}
    (h : CommonBase paths base) (h' : CommonBase paths' base') (hne : paths ≠ [])
    (hp : paths.Perm paths') : base' = base := by
  have hshare : ∀ s, SharedSegment paths s ↔ SharedSegment paths' s := fun s =>
    ⟨fun hs => hs.mono fun _ hm => hp.mem_iff.2 hm, fun hs => hs.mono fun _ hm => hp.mem_iff.1 hm⟩
  rcases h with ⟨s, hs, rfl⟩ | ⟨hnone, rfl⟩
  · have hne' : paths' ≠ [] := by
      rintro rfl
      exact hne hp.eq_nil
    exact h'.eq_slash hne' ((hshare s).1 hs)
  · exact h'.eq_empty fun ⟨s, hs⟩ => hnone ⟨s, (hshare s).2 hs⟩

/-! ## The base path of a group -/

/-- The base path once a path is in the group. -/
def baseWith (base path : String) : String := if isUnder path base then base else ""

/-- A path alone is under the segment that it begins with. -/
theorem commonBase_first (path : String) :
    CommonBase [path] (baseWith (groupBasePath path) path) := by
  have hshare : ∀ s, SharedSegment [path] s → groupBasePath path = "/" ++ s := fun s hs =>
    groupBasePath_of_beginsWith hs.1 (hs.2 path (List.mem_singleton.2 rfl))
  unfold baseWith
  split
  · next hu =>
    rcases isBase_groupBasePath path with hb | ⟨s, hs, hb⟩
    · refine .inr ⟨fun ⟨s, hs⟩ => ?_, hb⟩
      have := hshare s hs
      rw [hb] at this
      exact slash_ne_empty s this.symm
    · refine .inl ⟨s, ⟨hs, fun q hq => ?_⟩, hb⟩
      rw [hb] at hu
      rw [List.mem_singleton.1 hq]
      exact isUnder_slash.1 hu
  · next hu =>
    refine .inr ⟨fun ⟨s, hs⟩ => hu ?_, rfl⟩
    rw [hshare s hs]
    exact isUnder_slash.2 (hs.2 path (List.mem_singleton.2 rfl))

/-- One more path keeps the shared segment if it begins with it, and otherwise nothing is shared any
more. -/
theorem CommonBase.next {paths : List String} {base : String} (h : CommonBase paths base)
    (hne : paths ≠ []) (path : String) : CommonBase (paths ++ [path]) (baseWith base path) := by
  have hmono : ∀ s, SharedSegment (paths ++ [path]) s → SharedSegment paths s := fun s hs =>
    hs.mono fun _ hm => List.mem_append_left _ hm
  unfold baseWith
  rcases h with ⟨s, hs, rfl⟩ | ⟨hnone, rfl⟩
  · split
    · next hu =>
      refine .inl ⟨s, ⟨hs.1, fun q hq => ?_⟩, rfl⟩
      rcases List.mem_append.1 hq with hq | hq
      · exact hs.2 q hq
      · rw [List.mem_singleton.1 hq]
        exact isUnder_slash.1 hu
    · next hu =>
      refine .inr ⟨fun ⟨t, ht⟩ => hu ?_, rfl⟩
      rw [hs.unique hne (hmono t ht)]
      exact isUnder_slash.2 (ht.2 path (by simp))
  · rw [if_pos (isUnder_empty path)]
    exact .inr ⟨fun ⟨t, ht⟩ => hnone ⟨t, hmono t ht⟩, rfl⟩

namespace Group

/-- One more path keeps the base path or gives it up. -/
theorem add_basePath (g : Group) (path : String) (o : Operation) :
    (g.add path o).basePath = baseWith g.basePath path := by
  unfold add baseWith
  split <;> rfl

/-- The base path of a group is that of the segment which all its paths share. -/
theorem made_base {tag : String} {items : List (String × Operation)} {g : Group}
    (h : made tag items = some g) : CommonBase (items.map (·.1)) g.basePath := by
  have hbase : items ≠ [] ∧ CommonBase (items.map (·.1)) g.basePath := by
    refine made_induction
      (P := fun items g => items ≠ [] ∧ CommonBase (items.map (·.1)) g.basePath)
      (fun path o => ⟨List.cons_ne_nil _ _, ?_⟩) (fun items g path o hg => ⟨by simp, ?_⟩) h
    · rw [add_basePath]
      exact commonBase_first path
    · rw [add_basePath, List.map_append]
      exact hg.2.next (by simpa using hg.1) path
  exact hbase.2

end Group

/-! ## Members in another order -/

/-- What is related pointwise is related at every place. -/
theorem exists_getElem?_of_forall₂ {α β : Type} {R : α → β → Prop} {l : List α} {l' : List β}
    (h : List.Forall₂ R l l') {i : Nat} {a : α} (ha : l[i]? = some a) :
    ∃ b, l'[i]? = some b ∧ R a b := by
  induction h generalizing i with
  | nil => simp at ha
  | @cons x y _ _ hxy _ ih =>
    cases i with
    | zero =>
      rw [List.getElem?_cons_zero, Option.some.injEq] at ha
      exact ⟨y, List.getElem?_cons_zero, ha ▸ hxy⟩
    | succ i =>
      rw [List.getElem?_cons_succ] at ha ⊢
      exact ih ha

/-- The place of an operation among those that carry the tag is that of its member, whose path is
what is left of the described one. -/
theorem exists_member {pairs : List (Api.Operation × Operation)} {tag : String} {g : Group}
    (hg : (groupAll pairs).group? tag = some g) {i : Nat} {p : Api.Operation × Operation}
    (hp : (carrying tag pairs)[i]? = some p) :
    ∃ m, g.operations[i]? = some m ∧ IsMember tag p.1.path p.2 m ∧
      m.path = relativePath p.1.path g.basePath ∧ m.isSubresource = (m.path != "") := by
  rw [group?_groupAll] at hg
  have hmembers := List.forall₂_map_left_iff.1 (Group.made_members hg)
  obtain ⟨m, hm, hmem⟩ := exists_getElem?_of_forall₂ hmembers hp
  obtain ⟨-, hplaced⟩ := (Group.made_placedAt hg).2 m (List.mem_of_getElem? hm)
  have hraw : m.rawPath = p.1.path := congrArg Operation.rawPath hmem
  have hpath : m.path = relativePath m.rawPath g.basePath :=
    (congrArg Operation.path hplaced).symm
  have hsub : m.isSubresource = (relativePath m.rawPath g.basePath != "") :=
    (congrArg Operation.isSubresource hplaced).symm
  rw [← hpath] at hsub
  rw [hraw] at hpath
  exact ⟨m, hm, hmem, hpath, hsub⟩

/-- The paths of a group of some operations. -/
def pathsOf (tag : String) (pairs : List (Api.Operation × Operation)) : List String :=
  (carrying tag pairs).map (·.1.path)

/-- The base path of a group of some operations is that of the segment which all its paths share. -/
theorem groupAll_base {pairs : List (Api.Operation × Operation)} {tag : String} {g : Group}
    (hg : (groupAll pairs).group? tag = some g) :
    pathsOf tag pairs ≠ [] ∧ CommonBase (pathsOf tag pairs) g.basePath := by
  rw [group?_groupAll] at hg
  have hbase := Group.made_base hg
  rw [List.map_map] at hbase
  refine ⟨fun he => ?_, hbase⟩
  have hnil : carrying tag pairs = [] := List.map_eq_nil_iff.1 he
  rw [hnil, List.map_nil] at hg
  cases hg

/-- In another order of the operations there are the same groups with the same base paths. -/
theorem groupAll_base_perm {pairs pairs' : List (Api.Operation × Operation)}
    (hp : pairs.Perm pairs') (tag : String) :
    ((groupAll pairs').group? tag).map (·.basePath) =
      ((groupAll pairs).group? tag).map (·.basePath) := by
  have hcarry : (carrying tag pairs).Perm (carrying tag pairs') := hp.filter _
  have hpaths : (pathsOf tag pairs).Perm (pathsOf tag pairs') := hcarry.map _
  cases hg : (groupAll pairs).group? tag with
  | none =>
    have hnil : carrying tag pairs = [] := by
      rw [group?_groupAll, Group.made_eq_none_iff] at hg
      exact List.map_eq_nil_iff.1 hg
    have hnil' : carrying tag pairs' = [] := (hnil ▸ hcarry).nil_eq.symm
    rw [group?_groupAll, hnil']
    rfl
  | some g =>
    obtain ⟨hne, hbase⟩ := groupAll_base hg
    cases hg' : (groupAll pairs').group? tag with
    | none =>
      rw [group?_groupAll, Group.made_eq_none_iff, List.map_eq_nil_iff] at hg'
      rw [hg'] at hcarry
      rw [pathsOf, hcarry.eq_nil] at hne
      exact absurd rfl hne
    | some g' =>
      rw [Option.map_some, Option.map_some, hbase.unique (groupAll_base hg').2 hne hpaths]

/-- The order of the operations does not decide where they are. The base path of a group is that of
the segment with which all its paths begin, or the root without one; so in any other order it is the
same, and each operation that goes to the group has the same path there. -/
theorem groupAll_order (pairs : List (Api.Operation × Operation)) :
    (∀ g ∈ (groupAll pairs).groups,
      (∀ s, SharedSegment (pathsOf g.name pairs) s → g.basePath = "/" ++ s) ∧
        ((¬ ∃ s, SharedSegment (pathsOf g.name pairs) s) → g.basePath = "")) ∧
      ∀ pairs' : List (Api.Operation × Operation), pairs.Perm pairs' → ∀ tag,
        ((groupAll pairs').group? tag).map (·.basePath) =
            ((groupAll pairs).group? tag).map (·.basePath) ∧
          ∀ g g', (groupAll pairs).group? tag = some g → (groupAll pairs').group? tag = some g' →
            ∀ (i j : Nat) (p : Api.Operation × Operation),
              (carrying tag pairs)[i]? = some p → (carrying tag pairs')[j]? = some p →
              ∃ m m', g.operations[i]? = some m ∧ g'.operations[j]? = some m' ∧
                IsMember tag p.1.path p.2 m ∧ IsMember tag p.1.path p.2 m' ∧
                m'.path = m.path ∧ m'.isSubresource = m.isSubresource := by
  refine ⟨fun g hg => ?_, fun pairs' hp tag => ⟨groupAll_base_perm hp tag, ?_⟩⟩
  · obtain ⟨hne, hbase⟩ := groupAll_base (group?_groupAll_of_mem hg)
    exact ⟨fun s hs => hbase.eq_slash hne hs, hbase.eq_empty⟩
  · intro g g' hg hg' i j p hi hj
    have hbase : g'.basePath = g.basePath := by
      have := groupAll_base_perm hp tag
      rw [hg, hg'] at this
      exact Option.some.inj this
    obtain ⟨m, hm, hmem, hpath, hsub⟩ := exists_member hg hi
    obtain ⟨m', hm', hmem', hpath', hsub'⟩ := exists_member hg' hj
    have hsame : m'.path = m.path := by rw [hpath, hpath', hbase]
    exact ⟨m, m', hm, hm', hmem, hmem', hsame, by rw [hsub, hsub', hsame]⟩

/-- An operation of a path with the tag `pet`, beside what is prepared of it. -/
def petPair (id path : String) : Api.Operation × Operation :=
  ({ method := .get, path := path, tags := ["pet"] },
    { operationId := id, nickname := id, method := .get, rawPath := path, path := path })

/-- Whether the path that lies outside comes first or last, the path of the same operation is
the same. -/
theorem groupAll_order_pets :
    let pairs := [petPair "list" "/pet", petPair "get" "/pet/{id}", petPair "all" "/pets"]
    let pairs' := [petPair "all" "/pets", petPair "get" "/pet/{id}", petPair "list" "/pet"]
    pairs.Perm pairs' ∧
      ∃ g g', (groupAll pairs).group? "pet" = some g ∧ (groupAll pairs').group? "pet" = some g' ∧
        g.basePath = "" ∧ g'.basePath = "" ∧
        ∃ m m', g.operations[0]? = some m ∧ g'.operations[2]? = some m' ∧ m'.path = m.path := by
  intro pairs pairs'
  have hp : pairs.Perm pairs' := List.reverse_perm pairs |>.symm
  have hg : (groupAll pairs).group? "pet" = some ((groupAll pairs).groups.headD default) := rfl
  have hg' : (groupAll pairs').group? "pet" = some ((groupAll pairs').groups.headD default) := rfl
  obtain ⟨m, m', hm, hm', -, -, hpath, -⟩ :=
    ((groupAll_order pairs).2 pairs' hp "pet").2 _ _ hg hg' 0 2 (petPair "list" "/pet") rfl rfl
  exact ⟨hp, _, _, hg, hg', rfl, rfl, m, m', hm, hm', hpath⟩

end ClientGen.Client
