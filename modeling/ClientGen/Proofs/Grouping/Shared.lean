import ClientGen.Client.SharedGrouping
import ClientGen.Proofs.Grouping.Run
import Mathlib.Data.List.Nodup

/-!
# Groups of handles and groups of values

As long as no operation is submitted twice, it makes no difference that groups hold handles and that
an operation is changed where it stands: the groups with their members as they are now, and all that
is told, are those of the run in which every group has operations of its own ([view_run]). The
invariant is [Mirrors]: what has been submitted stands in one group only, and what has not is as it
was.
-/

namespace ClientGen.Client

namespace SharedGrouping

/-- The operation under a handle on its way into the group of a tag. -/
structure Call where
  tag : String
  verb : String
  path : String
  handle : String

/-- What happens at a call. -/
def call (s : SharedGrouping) (c : Call) : SharedGrouping := s.add c.tag c.verb c.path c.handle

/-- The groups after some calls, none of them there at first. -/
def run (operations : List (String × Operation)) (calls : List Call) : SharedGrouping :=
  calls.foldl call { operations := operations }

/-- The submission that a call is, if there is an operation under its handle. -/
def Call.submission? (operations : List (String × Operation)) (c : Call) : Option Submission :=
  (operations.lookup c.handle).map fun o => ⟨c.tag, c.verb, c.path, o⟩

/-! ## Operations under handles -/

/-- Placing reaches the operations under the given handles, and no others. -/
theorem lookup_placeAll (handles : List String) (base : String)
    (operations : List (String × Operation)) (q : String) :
    (placeAll handles base operations).lookup q =
      (operations.lookup q).map fun o => if handles.contains q then o.placed base else o := by
  induction operations with
  | nil => rfl
  | cons e rest ih =>
    obtain ⟨handle, o⟩ := e
    rw [placeAll, List.map_cons, List.lookup_cons, List.lookup_cons]
    by_cases hq : q = handle
    · rw [hq, beq_self_eq_true]
      rfl
    · rw [beq_eq_false_iff_ne.2 hq]
      exact ih

/-- The members of a group are the same where the operations under their handles are. -/
theorem view_congr {s s' : SharedGrouping} {g : SharedGroup}
    (h : ∀ q ∈ g.members, s'.operations.lookup q = s.operations.lookup q) :
    s'.view g = s.view g := by
  have : s'.operationsOf g.members = s.operationsOf g.members := List.filterMap_congr h
  rw [view, view, this]

@[simp] theorem view_name (s : SharedGrouping) (g : SharedGroup) : (s.view g).name = g.name := rfl

/-- The names that are taken for an operation that is not in the group are those of all members. -/
theorem takenIds_view {s : SharedGrouping} {g : SharedGroup} {handle : String}
    (hfree : handle ∉ g.members) : s.takenIds g handle = (s.view g).takenIds := by
  have hall : g.members.filter (· != handle) = g.members := by
    refine List.filter_eq_self.2 fun q hq => bne_iff_ne.2 ?_
    rintro rfl
    exact hfree hq
  rw [takenIds, hall]
  rfl

/-! ## What a call changes -/

/-- The base path of a group once a path is in it. -/
def baseAfter (g : SharedGroup) (path : String) : String :=
  if isUnder path g.basePath then g.basePath else ""

/-- The handles of the operations that are placed when one is added. -/
def placedAfter (g : SharedGroup) (path handle : String) : List String :=
  if isUnder path g.basePath then [handle] else g.members ++ [handle]

/-- The operations once one of them is in a group. -/
def operationsAfter (s : SharedGrouping) (g : SharedGroup) (path handle : String)
    (o : Operation) : List (String × Operation) :=
  placeAll (placedAfter g path handle) (baseAfter g path)
    (Assoc.insert handle (o.joined g.name path (s.takenIds g handle)) s.operations)

/-- A group with one more member. -/
def groupAfter (g : SharedGroup) (path handle : String) : SharedGroup :=
  { g with basePath := baseAfter g path, members := g.members ++ [handle] }

section
variable {s : SharedGrouping} {g : SharedGroup} {path handle : String} {o : Operation}

/-- The added operation is placed. -/
theorem lookup_operationsAfter_self :
    (operationsAfter s g path handle o).lookup handle =
      some ((o.joined g.name path (s.takenIds g handle)).placed (baseAfter g path)) := by
  have hin : (placedAfter g path handle).contains handle = true := by
    rw [placedAfter]
    split <;> simp
  rw [operationsAfter, lookup_placeAll, Assoc.lookup_insert (Assoc.exact_of_lawful _),
    beq_self_eq_true, if_pos rfl, Option.map_some, if_pos hin]

/-- Another operation is placed or stays as it is. -/
theorem lookup_operationsAfter_of_ne {q : String} (hq : q ≠ handle) :
    (operationsAfter s g path handle o).lookup q =
      (s.operations.lookup q).map fun x =>
        if (placedAfter g path handle).contains q then x.placed (baseAfter g path) else x := by
  rw [operationsAfter, lookup_placeAll, Assoc.lookup_insert (Assoc.exact_of_lawful _),
    beq_eq_false_iff_ne.2 hq, if_neg Bool.false_ne_true]

/-- Operations that are not placed stay as they are. -/
theorem lookup_operationsAfter_of_not_placed {q : String} (hq : q ≠ handle)
    (hout : q ∉ placedAfter g path handle) :
    (operationsAfter s g path handle o).lookup q = s.operations.lookup q := by
  have hin : (placedAfter g path handle).contains q = false := by simpa using hout
  rw [lookup_operationsAfter_of_ne hq, hin]
  exact Option.map_id_apply

/-- Operations outside the group stay as they are. -/
theorem lookup_operationsAfter_of_not_mem {q : String} (hq : q ≠ handle) (hout : q ∉ g.members) :
    (operationsAfter s g path handle o).lookup q = s.operations.lookup q := by
  refine lookup_operationsAfter_of_not_placed hq ?_
  rw [placedAfter]
  split <;> simp [hq, hout]

/-- The members of the group stay as they are if the path is under its base path. -/
theorem operationsOf_of_under {s' : SharedGrouping} (hfree : handle ∉ g.members)
    (hops : s'.operations = operationsAfter s g path handle o)
    (hu : isUnder path g.basePath = true) :
    s'.operationsOf g.members = s.operationsOf g.members := by
  refine List.filterMap_congr fun q hq => ?_
  have hne : q ≠ handle := fun he => hfree (he ▸ hq)
  rw [hops]
  refine lookup_operationsAfter_of_not_placed hne ?_
  rw [placedAfter, if_pos hu, List.mem_singleton]
  exact hne

/-- The members of the group are placed at the root if the path is not under its base path. -/
theorem operationsOf_of_outside {s' : SharedGrouping} (hfree : handle ∉ g.members)
    (hops : s'.operations = operationsAfter s g path handle o)
    (hu : ¬isUnder path g.basePath = true) :
    s'.operationsOf g.members = (s.operationsOf g.members).map (·.placed "") := by
  rw [operationsOf, operationsOf, List.map_filterMap]
  refine List.filterMap_congr fun q hq => ?_
  have hne : q ≠ handle := fun he => hfree (he ▸ hq)
  have hin : (g.members ++ [handle]).contains q = true := by simp [hq]
  rw [hops, lookup_operationsAfter_of_ne hne, placedAfter, if_neg hu, baseAfter, if_neg hu]
  simp only [hin, if_true]

/-- The group with its new member is the group of values with the new operation. -/
theorem view_groupAfter {s' : SharedGrouping} (hfree : handle ∉ g.members)
    (hops : s'.operations = operationsAfter s g path handle o) :
    s'.view (groupAfter g path handle) = (s.view g).add path o := by
  have hself : s'.operationsOf [handle] =
      [(o.joined g.name path (s.view g).takenIds).placed (baseAfter g path)] := by
    rw [operationsOf, List.filterMap_cons, hops, lookup_operationsAfter_self, takenIds_view hfree]
    rfl
  have happend : s'.operationsOf (g.members ++ [handle]) =
      s'.operationsOf g.members ++ s'.operationsOf [handle] := List.filterMap_append
  rw [view, groupAfter, happend, hself]
  unfold Group.add
  by_cases hu : isUnder path g.basePath = true
  · have hv : isUnder path (s.view g).basePath = true := hu
    rw [if_pos hv, operationsOf_of_under hfree hops hu, baseAfter, if_pos hu]
    rfl
  · have hv : ¬isUnder path (s.view g).basePath = true := hu
    rw [if_neg hv, operationsOf_of_outside hfree hops hu, baseAfter, if_neg hu, List.map_append]
    rfl

end

/-- The group that a call reaches, a new one if there is none under its tag. -/
def target (s : SharedGrouping) (c : Call) : SharedGroup :=
  (s.group? c.tag).getD ⟨c.tag, Java.apiName c.tag, groupBasePath c.path, []⟩

/-- The group that a call reaches is there, or it is new. -/
theorem target_cases (s : SharedGrouping) (c : Call) :
    (s.group? c.tag = some (s.target c) ∧ s.target c ∈ s.groups) ∨
      (s.group? c.tag = none ∧
        s.target c = ⟨c.tag, Java.apiName c.tag, groupBasePath c.path, []⟩) := by
  unfold target
  cases h : s.group? c.tag with
  | none => exact .inr ⟨rfl, rfl⟩
  | some g => exact .inl ⟨rfl, List.mem_of_find?_eq_some h⟩

/-- A call reaches the group of its tag. -/
theorem target_name (s : SharedGrouping) (c : Call) : (s.target c).name = c.tag := by
  rcases s.target_cases c with ⟨h, -⟩ | ⟨-, h⟩
  · simpa using List.find?_some h
  · rw [h]

/-- A call for an operation that is there changes one group and its members. -/
theorem call_eq {s : SharedGrouping} {c : Call} {o : Operation}
    (ho : s.operations.lookup c.handle = some o) :
    s.call c =
      { operations := operationsAfter s (s.target c) c.path c.handle o
        groups := putGroup (groupAfter (s.target c) c.path c.handle) s.groups
        notices := s.notices ++
          (if (s.group? c.tag).isSome then [] else [.created c.tag (s.target c).basePath]) ++
          (renameNotice? o c.tag c.verb c.path (s.takenIds (s.target c) c.handle)).toList ++
          (outsideNotice? c.path (s.target c).basePath c.tag).toList } := by
  have hn := s.target_name c
  unfold call add
  rw [ho, operationsAfter, hn]
  rfl

/-- A group that is there is put back in its place. -/
theorem putGroup_of_mem {g k : SharedGroup} {groups : List SharedGroup} (hk : k ∈ groups)
    (hn : k.name = g.name) :
    putGroup g groups = groups.map fun h => if h.name = g.name then g else h := by
  rw [putGroup, if_pos]
  exact List.any_eq_true.2 ⟨k, hk, beq_iff_eq.2 hn⟩

/-- A group that is not there is put behind the others. -/
theorem putGroup_of_new {g : SharedGroup} {groups : List SharedGroup}
    (hnew : ∀ k ∈ groups, k.name ≠ g.name) : putGroup g groups = groups ++ [g] := by
  rw [putGroup, if_neg]
  rw [List.any_eq_true]
  rintro ⟨k, hk, hn⟩
  exact hnew k hk (beq_iff_eq.1 hn)

/-- Putting a group back under its name reaches no other group. -/
theorem mem_putGroup {g h : SharedGroup} {groups : List SharedGroup}
    (hh : h ∈ putGroup g groups) : h = g ∨ h ∈ groups ∧ h.name ≠ g.name := by
  unfold putGroup at hh
  split at hh
  · obtain ⟨h', hh', rfl⟩ := List.mem_map.1 hh
    split
    · exact .inl rfl
    · next hn => exact .inr ⟨hh', hn⟩
  · next hnone =>
    rcases List.mem_append.1 hh with hh | hh
    · refine .inr ⟨hh, fun hn => hnone ?_⟩
      exact List.any_eq_true.2 ⟨h, hh, beq_iff_eq.2 hn⟩
    · exact .inl (List.mem_singleton.1 hh)

/-! ## The invariant -/

/-- A state with handles and one with values that agree, where the handles in `pending` have not
been submitted and `operations` are those at the start. -/
structure Mirrors (operations : List (String × Operation)) (pending : List String)
    (s : SharedGrouping) (t : Grouping) : Prop where
  groups : s.groups.map s.view = t.groups
  notices : s.notices = t.notices
  names : t.names.Nodup
  fresh : ∀ q ∈ pending, s.operations.lookup q = operations.lookup q ∧
    ∀ g ∈ s.groups, q ∉ g.members
  apart : ∀ g ∈ s.groups, ∀ h ∈ s.groups, g.name ≠ h.name → ∀ q ∈ g.members, q ∉ h.members

namespace Mirrors

variable {operations : List (String × Operation)} {pending : List String} {s : SharedGrouping}
  {t : Grouping}

/-- The group of a tag is found on both sides. -/
theorem group? (hm : Mirrors operations pending s t) (tag : String) :
    t.group? tag = (s.group? tag).map s.view := by
  rw [Grouping.group?, ← hm.groups, List.find?_map]
  rfl

/-- Groups of one name are one group. -/
theorem eq_of_name (hm : Mirrors operations pending s t) {g h : SharedGroup} (hg : g ∈ s.groups)
    (hh : h ∈ s.groups) (hn : g.name = h.name) : g = h := by
  have hnd : (s.groups.map (·.name)).Nodup := by
    have := hm.names
    rw [Grouping.names, ← hm.groups, List.map_map] at this
    exact this
  exact List.inj_on_of_nodup_map hnd hg hh hn

/-- Nothing is submitted by a call for a handle without an operation. -/
theorem skip {q : String} (hm : Mirrors operations (q :: pending) s t) :
    Mirrors operations pending s t :=
  { hm with fresh := fun q hq => hm.fresh q (List.mem_cons_of_mem _ hq) }

section
variable {c : Call} {o : Operation}

/-- What has not been submitted is not in the group that its call reaches. -/
theorem not_mem_target (hm : Mirrors operations (c.handle :: pending) s t) :
    c.handle ∉ (s.target c).members := by
  rcases s.target_cases c with ⟨-, hg⟩ | ⟨-, hg⟩
  · exact (hm.fresh c.handle List.mem_cons_self).2 _ hg
  · rw [hg]
    exact List.not_mem_nil

/-- A member of another group is neither the operation of a call nor in the group that it
reaches. -/
theorem not_mem_of_other (hm : Mirrors operations (c.handle :: pending) s t) {h : SharedGroup}
    (hh : h ∈ s.groups) (hn : h.name ≠ c.tag) {q : String} (hq : q ∈ h.members) :
    q ≠ c.handle ∧ q ∉ (s.target c).members := by
  refine ⟨?_, ?_⟩
  · rintro rfl
    exact (hm.fresh c.handle List.mem_cons_self).2 h hh hq
  · rcases s.target_cases c with ⟨-, hg⟩ | ⟨-, hg⟩
    · exact hm.apart h hh _ hg (by rw [s.target_name c]; exact hn) q hq
    · rw [hg]
      exact List.not_mem_nil

/-- The members of other groups stay as they are. -/
theorem view_other (hm : Mirrors operations (c.handle :: pending) s t)
    (ho : s.operations.lookup c.handle = some o) {h : SharedGroup} (hh : h ∈ s.groups)
    (hn : h.name ≠ c.tag) : (s.call c).view h = s.view h := by
  refine view_congr fun q hq => ?_
  obtain ⟨h1, h2⟩ := hm.not_mem_of_other hh hn hq
  rw [call_eq ho]
  exact lookup_operationsAfter_of_not_mem h1 h2

/-- After a call the groups are those after the submission. -/
theorem call_groups (hm : Mirrors operations (c.handle :: pending) s t)
    (ho : s.operations.lookup c.handle = some o) :
    (s.call c).groups.map (s.call c).view =
      (t.submit ⟨c.tag, c.verb, c.path, o⟩).groups := by
  have htarget : (s.call c).view (groupAfter (s.target c) c.path c.handle) =
      (s.view (s.target c)).add c.path o :=
    view_groupAfter hm.not_mem_target (by rw [call_eq ho])
  have hname : (groupAfter (s.target c) c.path c.handle).name = c.tag := s.target_name c
  have hgroups : (s.call c).groups =
      putGroup (groupAfter (s.target c) c.path c.handle) s.groups := by
    rw [call_eq ho]
  rw [hgroups, Grouping.submit, Grouping.add, hm.group?, ← hm.groups]
  rcases s.target_cases c with ⟨hg, hmem⟩ | ⟨hg, hnew⟩
  · have hsame : (s.target c).name = (groupAfter (s.target c) c.path c.handle).name := rfl
    rw [hg, Option.map_some, putGroup_of_mem hmem hsame, List.map_map, List.map_map]
    refine List.map_congr_left fun k hk => ?_
    rw [Function.comp_apply, Function.comp_apply, hname]
    by_cases hkn : k.name = c.tag
    · have hk' : k = s.target c := hm.eq_of_name hk hmem (hkn.trans (s.target_name c).symm)
      have hv : (s.view k).name = c.tag := hkn
      rw [if_pos hkn, if_pos hv, htarget, hk']
    · have hv : ¬ (s.view k).name = c.tag := hkn
      rw [if_neg hkn, if_neg hv]
      exact hm.view_other ho hk hkn
  · have hall : ∀ k ∈ s.groups, k.name ≠ c.tag := by
      intro k hk
      simpa using List.find?_eq_none.1 hg k hk
    have hold : s.groups.map (s.call c).view = s.groups.map s.view :=
      List.map_congr_left fun k hk => hm.view_other ho hk (hall k hk)
    rw [hg, Option.map_none, putGroup_of_new (by rw [hname]; exact hall), List.map_append,
      List.map_singleton, hold, htarget, hnew]
    rfl

/-- After a call the same has been told as after the submission. -/
theorem call_notices (hm : Mirrors operations (c.handle :: pending) s t)
    (ho : s.operations.lookup c.handle = some o) :
    (s.call c).notices = (t.submit ⟨c.tag, c.verb, c.path, o⟩).notices := by
  rw [call_eq ho, Grouping.submit, Grouping.add, hm.group?, hm.notices,
    takenIds_view hm.not_mem_target]
  have hname := s.target_name c
  rcases s.target_cases c with ⟨hg, -⟩ | ⟨hg, hnew⟩
  · rw [hg]
    simp only [Option.map_some, Option.isSome_some, if_true, List.append_nil, List.append_assoc,
      Group.addNotices, view_name, hname]
    rfl
  · rw [hg, hnew]
    simp only [Option.map_none, Option.isSome_none, Bool.false_eq_true, if_false,
      List.append_assoc, List.singleton_append, Group.addNotices]
    rfl

/-- What is still pending after a call has not been touched by it. -/
theorem call_fresh (hm : Mirrors operations (c.handle :: pending) s t)
    (ho : s.operations.lookup c.handle = some o) {q : String} (hq : q ∈ pending)
    (hne : q ≠ c.handle) :
    (s.call c).operations.lookup q = operations.lookup q ∧
      ∀ g ∈ (s.call c).groups, q ∉ g.members := by
  obtain ⟨hlook, hnowhere⟩ := hm.fresh q (List.mem_cons_of_mem _ hq)
  have hout : q ∉ (s.target c).members := by
    rcases s.target_cases c with ⟨-, hg⟩ | ⟨-, hg⟩
    · exact hnowhere _ hg
    · rw [hg]
      exact List.not_mem_nil
  rw [call_eq ho]
  refine ⟨?_, fun g hg hqg => ?_⟩
  · rw [lookup_operationsAfter_of_not_mem hne hout, hlook]
  · rcases mem_putGroup hg with rfl | ⟨hg, -⟩
    · rcases List.mem_append.1 hqg with h | h
      · exact hout h
      · exact hne (List.mem_singleton.1 h)
    · exact hnowhere g hg hqg

/-- After a call no operation is in two groups. -/
theorem call_apart (hm : Mirrors operations (c.handle :: pending) s t)
    (ho : s.operations.lookup c.handle = some o) :
    ∀ g ∈ (s.call c).groups, ∀ h ∈ (s.call c).groups, g.name ≠ h.name →
      ∀ q ∈ g.members, q ∉ h.members := by
  have hnew : ∀ g ∈ s.groups, g.name ≠ (groupAfter (s.target c) c.path c.handle).name →
      ∀ q ∈ g.members, q ∉ (groupAfter (s.target c) c.path c.handle).members := by
    intro g hg hn q hqg hq
    obtain ⟨h1, h2⟩ := hm.not_mem_of_other hg (fun he => hn (he.trans (s.target_name c).symm)) hqg
    rcases List.mem_append.1 hq with h | h
    · exact h2 h
    · exact h1 (List.mem_singleton.1 h)
  rw [call_eq ho]
  intro g hg h hh hgh q hqg hqh
  rcases mem_putGroup hg with rfl | ⟨hg, hgn⟩ <;> rcases mem_putGroup hh with rfl | ⟨hh, hhn⟩
  · exact hgh rfl
  · exact hnew h hh hhn q hqh hqg
  · exact hnew g hg hgn q hqg hqh
  · exact hm.apart g hg h hh hgh q hqg hqh

/-- A call for an operation that has not been submitted is a submission of it. -/
theorem call (hm : Mirrors operations (c.handle :: pending) s t) (hp : c.handle ∉ pending)
    (ho : operations.lookup c.handle = some o) :
    Mirrors operations pending (s.call c) (t.submit ⟨c.tag, c.verb, c.path, o⟩) := by
  have hs : s.operations.lookup c.handle = some o := by
    rw [(hm.fresh c.handle List.mem_cons_self).1, ho]
  exact
    { groups := hm.call_groups hs
      notices := hm.call_notices hs
      names := Grouping.nodup_names_submit hm.names _
      fresh := fun q hq => hm.call_fresh hs hq (fun he => hp (he ▸ hq))
      apart := hm.call_apart hs }

end

end Mirrors

/-! ## Runs -/

/-- Calls for operations that have not been submitted are submissions of them. -/
theorem Mirrors.calls {operations : List (String × Operation)} {calls : List Call}
    {s : SharedGrouping} {t : Grouping} (hm : Mirrors operations (calls.map (·.handle)) s t)
    (hd : (calls.map (·.handle)).Nodup) :
    Mirrors operations [] (calls.foldl SharedGrouping.call s)
      ((calls.filterMap (Call.submission? operations)).foldl Grouping.submit t) := by
  induction calls generalizing s t with
  | nil => exact hm
  | cons c calls ih =>
    rw [List.map_cons, List.nodup_cons] at hd
    cases ho : operations.lookup c.handle with
    | none =>
      have hs : s.operations.lookup c.handle = none := by
        rw [(hm.fresh c.handle List.mem_cons_self).1, ho]
      have hsub : c.submission? operations = none := by rw [Call.submission?, ho, Option.map_none]
      have hcall : s.call c = s := by
        unfold SharedGrouping.call add
        rw [hs]
      rw [List.filterMap_cons, hsub, List.foldl_cons, hcall]
      exact ih hm.skip hd.2
    | some o =>
      have hsub : c.submission? operations = some ⟨c.tag, c.verb, c.path, o⟩ := by
        rw [Call.submission?, ho, Option.map_some]
      rw [List.filterMap_cons, hsub, List.foldl_cons, List.foldl_cons]
      exact ih (hm.call hd.1 ho) hd.2

/-- If no operation is submitted twice, the groups are those in which every member stands for
itself, and the same is told. -/
theorem view_run {operations : List (String × Operation)} {calls : List Call}
    (hd : (calls.map (·.handle)).Nodup) :
    (run operations calls).groups.map (run operations calls).view =
        (Grouping.run (calls.filterMap (Call.submission? operations))).groups ∧
      (run operations calls).notices =
        (Grouping.run (calls.filterMap (Call.submission? operations))).notices := by
  have hstart : Mirrors operations (calls.map (·.handle)) { operations := operations } {} :=
    { groups := rfl
      notices := rfl
      names := List.nodup_nil
      fresh := fun _ _ => ⟨rfl, fun _ hg => absurd hg List.not_mem_nil⟩
      apart := fun _ hg => absurd hg List.not_mem_nil }
  have hm := hstart.calls hd
  exact ⟨hm.groups, hm.notices⟩

end SharedGrouping

end ClientGen.Client
