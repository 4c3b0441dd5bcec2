import ClientGen.Client.Grouping
import ClientGen.Proofs.Lists
import Mathlib.Data.List.Forall2
import Mathlib.Data.List.Induction

/-!
# What becomes of the groups, submission by submission

Grouping is a run of submissions ([Grouping.run]): each puts one operation into the group of one
tag, and [groupAll] is such a run ([groupAll_eq_run]). The groups stand in the order in which their
tags came first ([names_run]), and the group of a tag is made by its own submissions alone, whatever
stands between them ([group?_run]): it is [Group.made] of the paths and operations submitted for the
tag. So what holds of every group of every run is proved of [Group.made], by induction on the
members from the last one ([Group.made_concat]).
-/

namespace ClientGen.Client

/-- One operation on its way into the group of one tag. -/
structure Submission where
  tag : String
  verb : String
  path : String
  operation : Operation

/-- What a submission brings to its group. -/
def Submission.item (x : Submission) : String × Operation := (x.path, x.operation)

/-! ## One group -/

namespace Group

/-- The group that some operations with their paths make of a tag; none without operations. -/
def made (tag : String) (items : List (String × Operation)) : Option Group :=
  items.foldl (fun g? (path, o) => some ((g?.getD (start tag path)).add path o)) none

/-- The last operation is added to what the others make. -/
theorem made_concat (tag : String) (items : List (String × Operation)) (path : String)
    (o : Operation) :
    made tag (items ++ [(path, o)]) =
      some (((made tag items).getD (start tag path)).add path o) := by
  rw [made, List.foldl_append]
  rfl

/-- Only without operations no group is made. -/
theorem made_eq_none_iff {tag : String} {items : List (String × Operation)} :
    made tag items = none ↔ items = [] := by
  induction items using List.reverseRecOn with
  | nil => exact iff_of_true rfl rfl
  | append_singleton items item _ =>
    refine iff_of_false ?_ (by simp)
    rw [made_concat]
    exact Option.some_ne_none _

/-- What holds of the group with its first operation, and goes on to hold with each further one,
holds of every group that is made. -/
theorem made_induction {tag : String} {P : List (String × Operation) → Group → Prop}
    (first : ∀ path o, P [(path, o)] ((start tag path).add path o))
    (next : ∀ items g path o, P items g → P (items ++ [(path, o)]) (g.add path o))
    {items : List (String × Operation)} {g : Group} (h : made tag items = some g) : P items g := by
  induction items using List.reverseRecOn generalizing g with
  | nil => cases h
  | append_singleton items item ih =>
    obtain ⟨path, o⟩ := item
    rw [made_concat] at h
    cases hm : made tag items with
    | none =>
      rw [hm] at h
      cases h
      rw [made_eq_none_iff.1 hm]
      exact first path o
    | some g' =>
      rw [hm] at h
      cases h
      exact next items g' path o (ih hm)

@[simp] theorem add_name (g : Group) (path : String) (o : Operation) :
    (g.add path o).name = g.name := by
  unfold add
  split <;> rfl

@[simp] theorem add_classname (g : Group) (path : String) (o : Operation) :
    (g.add path o).classname = g.classname := by
  unfold add
  split <;> rfl

/-- A group has the name of its tag. -/
theorem made_name {tag : String} {items : List (String × Operation)} {g : Group}
    (h : made tag items = some g) : g.name = tag := by
  refine made_induction (P := fun _ g => g.name = tag) (fun path o => ?_)
    (fun items g path o hg => ?_) h
  · rw [add_name]
    rfl
  · rw [add_name, hg]

/-- The class of a group is named after its tag. -/
theorem made_classname {tag : String} {items : List (String × Operation)} {g : Group}
    (h : made tag items = some g) : g.classname = Java.apiName tag := by
  refine made_induction (P := fun _ g => g.classname = Java.apiName tag) (fun path o => ?_)
    (fun items g path o hg => ?_) h
  · rw [add_classname]
    rfl
  · rw [add_classname, hg]

end Group

/-! ## All groups -/

namespace Grouping

/-- The groups after one more submission. -/
def submit (s : Grouping) (x : Submission) : Grouping := s.add x.tag x.verb x.path x.operation

/-- The groups after some submissions, none of them there at first. -/
def run (xs : List Submission) : Grouping := xs.foldl submit {}

/-- The last submission is made to the groups of the others. -/
theorem run_concat (xs : List Submission) (x : Submission) :
    run (xs ++ [x]) = (run xs).submit x := by
  rw [run, List.foldl_append]
  rfl

/-- The names of the groups, in their order. -/
def names (s : Grouping) : List String := s.groups.map (·.name)

/-- No group is found under a tag iff the tag is not among the names. -/
theorem group?_eq_none_iff {s : Grouping} {tag : String} : s.group? tag = none ↔ tag ∉ s.names := by
  simp [group?, names]

/-- A group that is found under a tag has its name. -/
theorem name_of_group? {s : Grouping} {tag : String} {g : Group} (h : s.group? tag = some g) :
    g.name = tag := by
  rw [group?] at h
  simpa using List.find?_some h

/-- Adding to the groups of one name leaves the name of every group. -/
theorem name_addNamed (name path : String) (o : Operation) (h : Group) :
    (if h.name = name then h.add path o else h).name = h.name := by
  split
  · exact Group.add_name h path o
  · rfl

/-- So the same groups are found afterwards, with what is added to them. -/
theorem find?_addNamed (groups : List Group) (name path tag : String) (o : Operation) :
    (groups.map fun h => if h.name = name then h.add path o else h).find? (·.name == tag) =
      (groups.find? (·.name == tag)).map fun h => if h.name = name then h.add path o else h := by
  rw [List.find?_map]
  congr 2
  funext h
  rw [Function.comp_apply, name_addNamed]

/-- Only the group of the tag changes, and it is there afterwards. -/
theorem group?_submit (s : Grouping) (x : Submission) (tag : String) :
    (s.submit x).group? tag =
      if x.tag = tag then some (((s.group? tag).getD (.start tag x.path)).add x.path x.operation)
      else s.group? tag := by
  unfold submit add
  split
  · next g hg =>
    rw [group?, find?_addNamed, ← group?]
    by_cases ht : x.tag = tag
    · subst ht
      rw [if_pos rfl, hg, Option.map_some, if_pos (name_of_group? hg), Option.getD_some]
    · rw [if_neg ht]
      cases hf : s.group? tag with
      | none => rfl
      | some h =>
        have hne : ¬h.name = x.tag := fun he => ht (he.symm.trans (name_of_group? hf))
        rw [Option.map_some, if_neg hne]
  · next hg =>
    have hnew : ((Group.start x.tag x.path).add x.path x.operation).name = x.tag :=
      Group.add_name _ _ _
    rw [group?, List.find?_append, List.find?_singleton, hnew, ← group?]
    by_cases ht : x.tag = tag
    · subst ht
      rw [if_pos rfl, hg, beq_self_eq_true, if_pos rfl]
      rfl
    · rw [if_neg ht, if_neg (by simpa using ht), Option.or_none]

/-- The group of a tag is what its own submissions make. -/
theorem group?_run (xs : List Submission) (tag : String) :
    (run xs).group? tag =
      Group.made tag ((xs.filter (·.tag = tag)).map Submission.item) := by
  induction xs using List.reverseRecOn with
  | nil => rfl
  | append_singleton xs x ih =>
    rw [run_concat, group?_submit, ih, List.filter_append, List.filter_singleton]
    by_cases ht : x.tag = tag
    · rw [if_pos ht, decide_eq_true ht, cond_true, List.map_append, List.map_singleton]
      exact (Group.made_concat tag _ x.path x.operation).symm
    · rw [if_neg ht, decide_eq_false ht, cond_false, List.append_nil]

/-- A name is added iff it is new. -/
theorem names_submit (s : Grouping) (x : Submission) :
    (s.submit x).names = if x.tag ∈ s.names then s.names else s.names ++ [x.tag] := by
  unfold submit add
  split
  · next g hg =>
    have hin : x.tag ∈ s.names := by
      by_contra hout
      rw [group?_eq_none_iff.2 hout] at hg
      cases hg
    rw [if_pos hin, names, names, List.map_map]
    refine List.map_congr_left fun h _ => ?_
    rw [Function.comp_apply, name_addNamed]
  · next hg =>
    rw [if_neg (group?_eq_none_iff.1 hg), names, names, List.map_append, List.map_singleton,
      Group.add_name]
    rfl

/-- Names stay distinct. -/
theorem nodup_names_submit {s : Grouping} (h : s.names.Nodup) (x : Submission) :
    (s.submit x).names.Nodup := by
  rw [names_submit]
  split
  · exact h
  · next hx =>
    refine List.nodup_append.2 ⟨h, List.pairwise_singleton _ _, fun a ha b hb hab => ?_⟩
    rw [List.mem_singleton] at hb
    exact hx (hb ▸ hab ▸ ha)

/-- The groups stand in the order in which their tags came first. -/
theorem names_run (xs : List Submission) : (run xs).names = (xs.map (·.tag)).eraseDups := by
  induction xs using List.reverseRecOn with
  | nil => rfl
  | append_singleton xs x ih =>
    rw [run_concat, names_submit, ih, List.map_append, List.map_singleton, eraseDups_concat]
    simp only [List.mem_eraseDups]

/-- A group of a run is the one that is found under its name. -/
theorem group?_of_mem {xs : List Submission} {g : Group} (hg : g ∈ (run xs).groups) :
    (run xs).group? g.name = some g := by
  have hnd : (run xs).names.Nodup := names_run xs ▸ nodup_eraseDups _
  unfold group?
  rw [List.find?_eq_some_iff_append]
  refine ⟨by simp, ?_⟩
  obtain ⟨before, after, hsplit⟩ := List.append_of_mem hg
  refine ⟨before, after, hsplit, fun h hh => ?_⟩
  rw [names, hsplit, List.map_append, List.nodup_append] at hnd
  have hne := hnd.2.2 h.name (List.mem_map_of_mem hh) g.name (by simp)
  simpa using hne

end Grouping

/-! ## Operations in all groups of their tags -/

/-- The groups of an operation are the keys of its tags in their order, or the default group. -/
theorem tagsFor_eq (raw : Api.Operation) :
    tagsFor raw =
      if raw.tags = [] then [defaultTag] else (raw.tags.map Java.tagKey).eraseDups := by
  have hkeys : ∀ tags : List String,
      tags.foldl (fun acc tag =>
        let key := Java.tagKey tag
        if acc.contains key then acc else acc ++ [key]) [] = (tags.map Java.tagKey).eraseDups := by
    intro tags
    induction tags using List.reverseRecOn with
    | nil => rfl
    | append_singleton tags tag ih =>
      rw [List.foldl_append, ih, List.map_append, List.map_singleton, eraseDups_concat]
      simp only [List.foldl_cons, List.foldl_nil, List.contains_iff_mem, List.mem_eraseDups]
  unfold tagsFor
  rw [hkeys]
  cases raw.tags with
  | nil => rfl
  | cons tag tags => simp [List.eraseDups_cons]

/-- An operation goes to a group once. -/
theorem nodup_tagsFor (raw : Api.Operation) : (tagsFor raw).Nodup := by
  rw [tagsFor_eq]
  split
  · exact List.pairwise_singleton _ _
  · exact nodup_eraseDups _

/-- The submissions of an operation, one for each of its groups. -/
def submissions (p : Api.Operation × Operation) : List Submission :=
  (tagsFor p.1).map fun tag => ⟨tag, p.1.method.verb, p.1.path, p.2⟩

/-- The groups of operations are those of a run. -/
theorem groupAll_eq_run (pairs : List (Api.Operation × Operation)) :
    groupAll pairs = Grouping.run (pairs.flatMap submissions) := by
  rw [groupAll, Grouping.run, List.foldl_flatMap]
  refine congrArg (fun f => pairs.foldl f ({} : Grouping)) (funext fun s => funext fun p => ?_)
  rw [submissions, List.foldl_map]
  rfl

end ClientGen.Client
