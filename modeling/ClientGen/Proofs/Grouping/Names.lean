import ClientGen.Proofs.Grouping.Partition
import Mathlib.Data.Finset.Card

/-!
# The names of members

An operation that joins a group gets a name that no member has ([uniqueId_not_mem]): its own one if
this is free, and otherwise the own one with a number behind it ([uniqueId_cases]). Of as many
numbers as there are taken names one is free, since names with different numbers are different and
none of them is the name itself ([exists_numbered_not_mem]). So the names of a group are given one
after the other ([NamedInTurn]). What is told of it while groups are made is one warning for each
new name, in the order in which operations come to their groups ([run_log]).
-/

namespace ClientGen.Client

/-! ## A free name -/

section
variable {id : String} {taken : List String}

/-- Names with different numbers are different. -/
theorem numbered_inj {m n : Nat} : numbered id m = numbered id n ↔ m = n := by
  refine ⟨fun h => ?_, congrArg (numbered id)⟩
  have hrepr : m.repr = n.repr := (String.append_right_inj (id ++ "_")).1 h
  rw [Nat.repr_eq_ofList_toDigits, Nat.repr_eq_ofList_toDigits, String.ofList_inj] at hrepr
  rw [← Nat.ofDigitChars_ten_toDigits (n := m), hrepr, Nat.ofDigitChars_ten_toDigits]

/-- A name with a number is not the name itself. -/
theorem numbered_ne (n : Nat) : numbered id n ≠ id := by
  intro h
  have hlength := congrArg String.length h
  rw [numbered, String.length_append, String.length_append] at hlength
  have hsign : "_".length = 1 := rfl
  omega

/-- If a name is taken, one of as many numbers as there are taken names makes it free. -/
theorem exists_numbered_not_mem (h : id ∈ taken) :
    ∃ n < taken.toFinset.card, numbered id n ∉ taken := by
  by_contra hnone
  simp only [not_exists, not_and, not_not] at hnone
  -- Otherwise the name and its numbered forms are one more than there are taken names.
  let forms := (Finset.range taken.toFinset.card).image (numbered id)
  have hid : id ∉ forms := by
    intro hmem
    obtain ⟨n, -, hn⟩ := Finset.mem_image.1 hmem
    exact numbered_ne n hn
  have hcard : (insert id forms).card = taken.toFinset.card + 1 := by
    rw [Finset.card_insert_of_notMem hid,
      Finset.card_image_of_injective _ fun m n => numbered_inj.1, Finset.card_range]
  have hsubset : insert id forms ⊆ taken.toFinset := by
    intro name hname
    rw [List.mem_toFinset]
    rcases Finset.mem_insert.1 hname with rfl | hname
    · exact h
    · obtain ⟨n, hn, rfl⟩ := Finset.mem_image.1 hname
      exact hnone n (Finset.mem_range.1 hn)
  have hle := Finset.card_le_card hsubset
  omega

/-- A name that is free is kept, and another one gets the least number that makes it free, which is
below the number of distinct taken names. -/
theorem uniqueId_cases (id : String) (taken : List String) :
    id ∉ taken ∧ uniqueId id taken = id ∨
      id ∈ taken ∧ ∃ n < taken.toFinset.card, uniqueId id taken = numbered id n ∧
        numbered id n ∉ taken ∧ ∀ k < n, numbered id k ∈ taken := by
  by_cases h : id ∈ taken
  · refine .inr ⟨h, ?_⟩
    obtain ⟨m, hm, hfree⟩ := exists_numbered_not_mem h
    have hlength : taken.toFinset.card ≤ taken.length := List.toFinset_card_le taken
    rw [uniqueId, if_pos (List.contains_iff_mem.2 h)]
    cases hfind : (List.range taken.length).find? fun n => !taken.contains (numbered id n) with
    | none =>
      have hall := List.find?_eq_none.1 hfind m (List.mem_range.2 (by omega))
      simp [hfree] at hall
    | some n =>
      obtain ⟨hn, -, hleast⟩ := List.find?_range_eq_some.1 hfind
      have hbelow : ∀ k < n, numbered id k ∈ taken := fun k hk => by simpa using hleast k hk
      have hnm : n ≤ m := Nat.le_of_not_lt fun hlt => hfree (hbelow m hlt)
      exact ⟨n, by omega, rfl, by simpa using hn, hbelow⟩
  · refine .inl ⟨h, ?_⟩
    rw [uniqueId, if_neg fun hc => h (List.contains_iff_mem.1 hc)]

/-- The name is free. -/
theorem uniqueId_not_mem (id : String) (taken : List String) : uniqueId id taken ∉ taken := by
  rcases uniqueId_cases id taken with ⟨hfree, heq⟩ | ⟨-, n, -, heq, hfree, -⟩
  · rwa [heq]
  · rwa [heq]

/-- It is the own one just if that is free. -/
theorem uniqueId_eq_self_iff : uniqueId id taken = id ↔ id ∉ taken := by
  rcases uniqueId_cases id taken with ⟨hfree, heq⟩ | ⟨htaken, n, -, heq, -⟩
  · exact iff_of_true heq hfree
  · rw [heq]
    exact iff_of_false (numbered_ne n) (not_not.2 htaken)

/-- Otherwise it has a number. -/
theorem exists_uniqueId_eq_numbered (h : uniqueId id taken ≠ id) :
    ∃ n, uniqueId id taken = numbered id n := by
  rcases uniqueId_cases id taken with ⟨-, heq⟩ | ⟨-, n, -, heq, -⟩
  · exact absurd heq h
  · exact ⟨n, heq⟩

end

/-! ## Names in turn -/

/-- Whether names are given one after the other for the wanted ones: a wanted name is kept just if
no earlier one is the same, and otherwise gets a number that makes it a new one. -/
inductive NamedInTurn : List String → List String → Prop
  | nil : NamedInTurn [] []
  | concat {wanted ids : List String} (earlier : NamedInTurn wanted ids) {own id : String}
      (fresh : id ∉ ids) (kept : id = own ↔ own ∉ ids)
      (numbered : id ≠ own → ∃ n, id = numbered own n) :
      NamedInTurn (wanted ++ [own]) (ids ++ [id])

/-- Such names are distinct. -/
theorem NamedInTurn.nodup {wanted ids : List String} (h : NamedInTurn wanted ids) : ids.Nodup := by
  induction h with
  | nil => exact List.nodup_nil
  | concat _ fresh _ _ ih =>
    refine List.nodup_append.2 ⟨ih, List.pairwise_singleton _ _, fun a ha b hb hab => ?_⟩
    rw [List.mem_singleton] at hb
    exact fresh (hb ▸ hab ▸ ha)

/-- What an operation gets as its name goes on with the names of a group. -/
theorem NamedInTurn.unique {wanted ids : List String} (h : NamedInTurn wanted ids) (own : String) :
    NamedInTurn (wanted ++ [own]) (ids ++ [uniqueId own ids]) :=
  .concat h (uniqueId_not_mem own ids) uniqueId_eq_self_iff exists_uniqueId_eq_numbered

/-! ## Members -/

namespace Operation

/-- Placing an operation leaves its names. -/
theorem operationId_placed (o : Operation) (base : String) :
    (o.placed base).operationId = o.operationId := by
  unfold placed
  rfl

theorem nickname_placed (o : Operation) (base : String) :
    (o.placed base).nickname = o.nickname := by
  unfold placed
  rfl

/-- What joins a group gets a free name. -/
theorem operationId_joined (o : Operation) (tag path : String) (taken : List String) :
    (o.joined tag path taken).operationId = uniqueId o.operationId taken := by
  have hrenamed : (o.renamed taken).operationId = uniqueId o.operationId taken := by
    by_cases h : uniqueId o.operationId taken = o.operationId
    · simp only [renamed, if_pos h]
      exact h.symm
    · simp only [renamed, if_neg h]
  exact hrenamed

/-- If its short name is its name, they are the same afterwards. -/
theorem nickname_joined {o : Operation} (h : o.nickname = o.operationId) (tag path : String)
    (taken : List String) :
    (o.joined tag path taken).nickname = (o.joined tag path taken).operationId := by
  have hrenamed : (o.renamed taken).nickname = (o.renamed taken).operationId := by
    by_cases hown : uniqueId o.operationId taken = o.operationId
    · simp only [renamed, if_pos hown]
      exact h
    · simp only [renamed, if_neg hown]
  exact hrenamed

end Operation

/-! ## One group -/

namespace Group

/-- A new member has a free name, and the others keep theirs. -/
theorem takenIds_add (g : Group) (path : String) (o : Operation) :
    (g.add path o).takenIds = g.takenIds ++ [uniqueId o.operationId g.takenIds] := by
  have hmember := Operation.operationId_joined o g.name path g.takenIds
  unfold add takenIds
  split
  · rw [List.map_append, List.map_singleton, Operation.operationId_placed]
    exact congrArg (fun id => g.takenIds ++ [id]) hmember
  · simp only [List.map_map, Function.comp_def, Operation.operationId_placed, List.map_append,
      List.map_singleton]
    exact congrArg (fun id => g.takenIds ++ [id]) hmember

/-- The names of a group are given in turn. -/
theorem made_named {tag : String} {items : List (String × Operation)} {g : Group}
    (h : made tag items = some g) :
    NamedInTurn (items.map (·.2.operationId)) g.takenIds := by
  refine made_induction
    (P := fun items g => NamedInTurn (items.map (·.2.operationId)) g.takenIds)
    (fun path o => ?_) (fun items g path o hg => ?_) h
  · rw [takenIds_add]
    exact NamedInTurn.nil.unique o.operationId
  · rw [takenIds_add, List.map_append, List.map_singleton]
    exact hg.unique o.operationId

/-- The short names are the names, if they are so before. -/
theorem nickname_add {g : Group} (hg : ∀ m ∈ g.operations, m.nickname = m.operationId)
    {o : Operation} (ho : o.nickname = o.operationId) (path : String) :
    ∀ m ∈ (g.add path o).operations, m.nickname = m.operationId := by
  have hnew := Operation.nickname_joined ho g.name path g.takenIds
  have hall : ∀ m ∈ g.operations ++ [o.joined g.name path g.takenIds],
      m.nickname = m.operationId :=
    List.forall_mem_append.2 ⟨hg, List.forall_mem_singleton.2 hnew⟩
  unfold add
  split
  · refine List.forall_mem_append.2 ⟨hg, List.forall_mem_singleton.2 ?_⟩
    rw [Operation.nickname_placed, Operation.operationId_placed]
    exact hnew
  · intro m hm
    obtain ⟨member, hmember, rfl⟩ := List.mem_map.1 hm
    rw [Operation.nickname_placed, Operation.operationId_placed]
    exact hall member hmember

/-- So are those of every group that is made. -/
theorem made_nickname {tag : String} {items : List (String × Operation)} {g : Group}
    (h : made tag items = some g) (hitems : ∀ i ∈ items, i.2.nickname = i.2.operationId) :
    ∀ m ∈ g.operations, m.nickname = m.operationId := by
  revert hitems
  refine made_induction
    (P := fun items g => (∀ i ∈ items, i.2.nickname = i.2.operationId) →
      ∀ m ∈ g.operations, m.nickname = m.operationId)
    (fun path o ho => ?_) (fun items g path o ih ho => ?_) h
  · exact nickname_add (g := start tag path) (fun m hm => nomatch hm) (ho _ List.mem_cons_self) path
  · rw [List.forall_mem_append, List.forall_mem_singleton] at ho
    exact nickname_add (ih ho.1) ho.2 path

end Group

/-! ## All groups -/

/-- The warning about an operation that comes to a group under another name than its own. -/
def renameWarning? (e : Submission × String) : Option String :=
  let (x, id) := e
  if id = x.operation.operationId then none
  else some (Notice.renamed x.operation.operationId x.tag x.verb x.path id).message

/-- The names that the operations of one tag came to. -/
def namesFor (tag : String) (log : List (Submission × String)) : List String :=
  (log.filter (·.1.tag = tag)).map (·.2)

namespace Grouping

/-- The names that are taken in the group of a tag. -/
def takenIds (s : Grouping) (tag : String) : List String :=
  ((s.group? tag).map (·.takenIds)).getD []

/-- A submission gets a free name in its group. -/
theorem takenIds_submit (s : Grouping) (x : Submission) (tag : String) :
    (s.submit x).takenIds tag =
      if x.tag = tag then
        s.takenIds tag ++ [uniqueId x.operation.operationId (s.takenIds tag)]
      else s.takenIds tag := by
  rw [takenIds, group?_submit]
  split
  · rw [Option.map_some, Option.getD_some, Group.takenIds_add, takenIds]
    cases s.group? tag <;> rfl
  · rfl

/-- There is a warning if this is not its own one, and no other one. -/
theorem warnings_submit (s : Grouping) (x : Submission) :
    (s.submit x).warnings = s.warnings ++
      (renameWarning? (x, uniqueId x.operation.operationId (s.takenIds x.tag))).toList := by
  have hnotices {g : Group} (hname : g.name = x.tag) :
      (g.addNotices x.verb x.path x.operation).filterMap (·.warning?) =
        (renameWarning? (x, uniqueId x.operation.operationId g.takenIds)).toList := by
    have houtside :
        (outsideNotice? x.path g.basePath x.tag).toList.filterMap (·.warning?) = [] := by
      unfold outsideNotice?
      split <;> rfl
    rw [Group.addNotices, hname, List.filterMap_append, houtside, List.append_nil]
    unfold renameNotice? renameWarning?
    by_cases hown : uniqueId x.operation.operationId g.takenIds = x.operation.operationId
    · simp only [if_pos hown]
      rfl
    · simp only [if_neg hown]
      rfl
  unfold submit add warnings takenIds
  split
  · next g hg =>
    rw [List.filterMap_append, hnotices (name_of_group? hg), hg]
    rfl
  · next hg =>
    rw [List.filterMap_append, List.filterMap_cons, hnotices rfl, hg]
    rfl

/-- For a run there is a log of its submissions with the names that they got: those of a tag are the
names of the members of its group, and the warnings are about those that got another name. -/
theorem run_log (xs : List Submission) :
    ∃ log : List (Submission × String), log.map (·.1) = xs ∧
      (∀ tag, (run xs).takenIds tag = namesFor tag log) ∧
      (run xs).warnings = log.filterMap renameWarning? := by
  induction xs using List.reverseRecOn with
  | nil => exact ⟨[], rfl, fun _ => rfl, rfl⟩
  | append_singleton xs x ih =>
    obtain ⟨log, hlog, hnames, hwarnings⟩ := ih
    refine ⟨log ++ [(x, uniqueId x.operation.operationId ((run xs).takenIds x.tag))], ?_,
      fun tag => ?_, ?_⟩
    · rw [List.map_append, hlog, List.map_singleton]
    · rw [run_concat, takenIds_submit, hnames, namesFor, namesFor, List.filter_append,
        List.filter_singleton]
      by_cases ht : x.tag = tag
      · rw [if_pos ht, decide_eq_true ht, cond_true, List.map_append, ht, hnames]
        rfl
      · rw [if_neg ht, decide_eq_false ht, cond_false, List.append_nil]
    · rw [run_concat, warnings_submit, hwarnings, List.filterMap_append]
      congr 1

end Grouping

/-- In every group names are distinct, short names are names, and names are given in turn for those
that the operations have. There is one warning for each operation that comes to a group under
another name than its own, in the order in which operations come to their groups. -/
theorem groupAll_names {pairs : List (Api.Operation × Operation)}
    (h : ∀ p ∈ pairs, p.2.nickname = p.2.operationId) :
    (∀ g ∈ (groupAll pairs).groups,
      (g.operations.map (·.operationId)).Nodup ∧
      (∀ m ∈ g.operations, m.nickname = m.operationId) ∧
      NamedInTurn ((carrying g.name pairs).map (·.2.operationId))
        (g.operations.map (·.operationId))) ∧
    ∃ log : List (Submission × String), log.map (·.1) = pairs.flatMap submissions ∧
      (∀ g ∈ (groupAll pairs).groups,
        g.operations.map (·.operationId) = namesFor g.name log) ∧
      (groupAll pairs).warnings = log.filterMap renameWarning? := by
  constructor
  · intro g hg
    have hmade := group?_groupAll_of_mem hg
    rw [group?_groupAll] at hmade
    have hnamed := Group.made_named hmade
    rw [List.map_map] at hnamed
    refine ⟨hnamed.nodup, Group.made_nickname hmade ?_, hnamed⟩
    intro i hi
    obtain ⟨p, hp, rfl⟩ := List.mem_map.1 hi
    exact h p (List.mem_filter.1 hp).1
  · obtain ⟨log, hlog, hnames, hwarnings⟩ := Grouping.run_log (pairs.flatMap submissions)
    refine ⟨log, hlog, fun g hg => ?_, by rw [groupAll_eq_run, hwarnings]⟩
    rw [groupAll_eq_run] at hg
    rw [← hnames, Grouping.takenIds, Grouping.group?_of_mem hg]
    rfl

/-- Operations whose names clash, one of them with the name that another one gets. -/
def clashingPairs : List (Api.Operation × Operation) :=
  [("findPets", ["pet"]), ("findPets", ["store", "pet"]), ("findPets_0", ["pet"])].map
    fun (id, tags) =>
      ({ method := .get, path := "/pets", tags := tags },
        { operationId := id, nickname := id, method := .get, rawPath := "?", path := "?" })

/-- Both of them get a number, and in the other group the name is kept. -/
theorem groupAll_names_clashing :
    (∀ p ∈ clashingPairs, p.2.nickname = p.2.operationId) ∧
      (groupAll clashingPairs).warnings.length = 2 ∧
      ∃ g ∈ (groupAll clashingPairs).groups, g.name = "pet" ∧
        g.operations.map (·.operationId) = ["findPets", "findPets_0", "findPets_0_0"] ∧
        NamedInTurn ["findPets", "findPets", "findPets_0"]
          (g.operations.map (·.operationId)) := by
  have hnicknames : ∀ p ∈ clashingPairs, p.2.nickname = p.2.operationId := by
    decide +kernel
  have hg : ((groupAll clashingPairs).group? "pet").getD default ∈
      (groupAll clashingPairs).groups := .head _
  have hnamed := ((groupAll_names hnicknames).1 _ hg).2.2
  exact ⟨hnicknames, by decide +kernel, _, hg, rfl, by decide +kernel, hnamed⟩

end ClientGen.Client
