import ClientGen.Proofs.Grouping.Run
import Mathlib.Data.List.Nodup

/-!
# Every operation in the groups of its tags

Grouping neither loses nor doubles an operation, and groups do not touch each other. A group has one
member for each operation that carries its tag ([carrying]), in their order ([Group.made_members]);
a member is its operation but for what the group gives it ([IsMember]). And a group is the one that
would come of the operations that carry its tag alone ([group?_groupAll]).
-/

namespace ClientGen.Client

/-- The operations that carry a tag. -/
def carrying (tag : String) (pairs : List (Api.Operation × Operation)) :
    List (Api.Operation × Operation) :=
  pairs.filter fun p => tag ∈ tagsFor p.1

/-- Whether `m` is the member of the group of a tag that an operation is: the same but for its
names, its group and its place. -/
def IsMember (tag path : String) (o m : Operation) : Prop :=
  m = { o with
    operationId := m.operationId
    nickname := m.nickname
    baseName := tag
    rawPath := path
    path := m.path
    isSubresource := m.isSubresource }

/-! ## Members -/

/-- What joins a group is a member of it. -/
theorem isMember_joined (o : Operation) (tag path : String) (taken : List String) :
    IsMember tag path o (o.joined tag path taken) := by
  unfold IsMember Operation.joined Operation.renamed
  simp only
  split <;> rfl

/-- A member stays one when it is placed. -/
theorem IsMember.placed {tag path : String} {o m : Operation} (h : IsMember tag path o m)
    (base : String) : IsMember tag path o (m.placed base) := by
  unfold IsMember at h ⊢
  unfold Operation.placed
  rw [h]

namespace Group

/-- The old members and one more are the members afterwards. -/
theorem add_members {g : Group} {items : List (String × Operation)}
    (h : List.Forall₂ (fun i m => IsMember g.name i.1 i.2 m) items g.operations)
    (path : String) (o : Operation) :
    List.Forall₂ (fun i m => IsMember g.name i.1 i.2 m) (items ++ [(path, o)])
      (g.add path o).operations := by
  have hnew : IsMember g.name path o (o.joined g.name path g.takenIds) := isMember_joined _ _ _ _
  unfold add
  split
  · exact List.rel_append h (.cons (hnew.placed _) .nil)
  · refine List.forall₂_map_right_iff.2 (List.rel_append ?_ (.cons (hnew.placed _) .nil))
    exact h.imp fun _ _ hm => hm.placed _

/-- A group has a member for each operation that it is made of, in their order. -/
theorem made_members {tag : String} {items : List (String × Operation)} {g : Group}
    (h : made tag items = some g) :
    List.Forall₂ (fun i m => IsMember tag i.1 i.2 m) items g.operations := by
  have hname := made_name h
  have hmem : List.Forall₂ (fun i m => IsMember g.name i.1 i.2 m) items g.operations := by
    refine made_induction
      (P := fun items g => List.Forall₂ (fun i m => IsMember g.name i.1 i.2 m) items g.operations)
      (fun path o => ?_) (fun items g path o hg => ?_) h
    · rw [add_name]
      exact add_members (g := start tag path) .nil path o
    · rw [add_name]
      exact add_members hg path o
  rw [hname] at hmem
  exact hmem

end Group

/-! ## Groups -/

/-- What an operation brings to a group, once if it carries the tag. -/
theorem items_submissions (p : Api.Operation × Operation) (tag : String) :
    ((submissions p).filter (·.tag = tag)).map Submission.item =
      if tag ∈ tagsFor p.1 then [(p.1.path, p.2)] else [] := by
  have hfilter : (submissions p).filter (·.tag = tag) =
      ((tagsFor p.1).filter (· = tag)).map fun t => ⟨t, p.1.method.verb, p.1.path, p.2⟩ := by
    rw [submissions, List.filter_map]
    rfl
  have heq : (fun t => decide (t = tag)) = (· == tag) := by
    funext t
    exact Bool.eq_iff_iff.2 (by simp)
  rw [hfilter, List.map_map, heq, List.filter_beq]
  split
  · next hin =>
    rw [List.count_eq_one_of_mem (nodup_tagsFor p.1) hin]
    rfl
  · next hout =>
    rw [List.count_eq_zero_of_not_mem hout]
    rfl

/-- The group of a tag is made of the operations that carry it. -/
theorem group?_groupAll (pairs : List (Api.Operation × Operation)) (tag : String) :
    (groupAll pairs).group? tag =
      Group.made tag ((carrying tag pairs).map fun p => (p.1.path, p.2)) := by
  have hitems : ((pairs.flatMap submissions).filter (·.tag = tag)).map Submission.item =
      (carrying tag pairs).map fun p => (p.1.path, p.2) := by
    induction pairs with
    | nil => rfl
    | cons p pairs ih =>
      rw [List.flatMap_cons, List.filter_append, List.map_append, ih, items_submissions, carrying,
        carrying, List.filter_cons]
      by_cases hin : tag ∈ tagsFor p.1
      · rw [if_pos hin, if_pos (decide_eq_true hin)]
        rfl
      · rw [if_neg hin, if_neg (by simpa using hin)]
        rfl
  rw [groupAll_eq_run, Grouping.group?_run, hitems]

/-- A group of a grouping is the one that is found under its name. -/
theorem group?_groupAll_of_mem {pairs : List (Api.Operation × Operation)} {g : Group}
    (hg : g ∈ (groupAll pairs).groups) : (groupAll pairs).group? g.name = some g := by
  rw [groupAll_eq_run] at hg ⊢
  exact Grouping.group?_of_mem hg

/-- The operations that carry a tag carry it. -/
theorem carrying_carrying (tag : String) (pairs : List (Api.Operation × Operation)) :
    carrying tag (carrying tag pairs) = carrying tag pairs := by
  rw [carrying, carrying, List.filter_filter]
  simp only [Bool.and_self]

/-- The groups are those of the keys of the tags, in the order in which these come first. Each has
one member for every operation that carries its tag, in their order, and is what the operations
that carry its tag come to without the others. -/
theorem groupAll_partition (pairs : List (Api.Operation × Operation)) :
    (groupAll pairs).names = (pairs.flatMap fun p => tagsFor p.1).eraseDups ∧
      (∀ raw : Api.Operation, tagsFor raw =
        if raw.tags = [] then [defaultTag] else (raw.tags.map Java.tagKey).eraseDups) ∧
      (∀ g ∈ (groupAll pairs).groups,
        g.classname = Java.apiName g.name ∧
          List.Forall₂ (fun p m => IsMember g.name p.1.path p.2 m) (carrying g.name pairs)
            g.operations) ∧
      ∀ tag, (groupAll (carrying tag pairs)).group? tag = (groupAll pairs).group? tag := by
  refine ⟨?_, tagsFor_eq, fun g hg => ?_, fun tag => ?_⟩
  · rw [groupAll_eq_run, Grouping.names_run, List.map_flatMap]
    refine congrArg List.eraseDups (List.flatMap_congr fun p _ => ?_)
    rw [submissions, List.map_map]
    exact List.map_id _
  · have hmade := group?_groupAll_of_mem hg
    rw [group?_groupAll] at hmade
    exact ⟨Group.made_classname hmade, List.forall₂_map_left_iff.1 (Group.made_members hmade)⟩
  · rw [group?_groupAll, group?_groupAll, carrying_carrying]

/-- Operations whose tags come to the same keys, or to none. -/
def taggedPairs : List (Api.Operation × Operation) :=
  [("a", ["Pet Store", "pet"]), ("b", []), ("c", ["--", "Pet-Store", "Pet_Store"])].map
    fun (id, tags) =>
      ({ method := .get, path := "/" ++ id, tags := tags },
        { operationId := id, nickname := id, method := .get, rawPath := "?", path := "?" })

/-- The operation without a tag and the one with an empty tag share the default group. -/
theorem groupAll_partition_tags :
    ∃ g ∈ (groupAll taggedPairs).groups, g.name = "default" ∧
      g.operations.map (·.operationId) = ["b", "c"] ∧
      List.Forall₂ (fun p m => IsMember g.name p.1.path p.2 m) (carrying g.name taggedPairs)
        g.operations := by
  have hg : ((groupAll taggedPairs).group? "default").getD default ∈
      (groupAll taggedPairs).groups := .tail _ (.tail _ (.head _))
  exact ⟨_, hg, rfl, by decide +kernel, ((groupAll_partition taggedPairs).2.2.1 _ hg).2⟩

end ClientGen.Client
