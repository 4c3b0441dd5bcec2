import ClientGen.Options.Resolution
import ClientGen.Proofs.Lists
import ClientGen.Proofs.Steps
import Mathlib.Data.List.Nodup

/-!
# The values of declared options

In a list of declarations that share no name ([DistinctNames]) no option disturbs the value of
another one, so the value that [declaredValues] has for an option is its own: what becomes of the
raw value that is supplied for it ([OptionDecl.converted], [lookup_declaredValues]). The same holds
for the switches at the names of the modes of an option ([OptionDecl.switch?],
[lookup_declaredValues_mode]). A configuration keeps these values, unless a raw value stands under a
key in bytes that spell the name ([byteValue?], [lookup_keptValues]). When raw values can be used
([Usable]), and what a configuration is as a whole, is said once ([resolve_eq_ok_iff]).
-/

namespace ClientGen

variable {options : List OptionDecl} {raw : RawOptions} {values : List (String × Value)}

/-! ## One option -/

namespace OptionDecl

variable {o : OptionDecl} {q : String}

/-- What becomes of the raw value that is supplied for an option. -/
def converted (o : OptionDecl) (supplied : Option Value) : Value :=
  match o.kind with
  | .modes => (o.chosen supplied).1
  | .boolean => .bool ((supplied.map turnsOn).getD o.default.truth)
  | .text => (supplied.map fun v => .text v.asText).getD o.default

/-- The names of the modes of an option, with their legacy names. -/
def modeNames (o : OptionDecl) : List String := o.choices.map (·.1) ++ o.legacyModes.map (·.1)

/-- The names that belong to an option. -/
def allNames (o : OptionDecl) : List String := o.spellings ++ o.modeNames

/-- The switch at a name of a mode. -/
def switch? (o : OptionDecl) (mode : Value) (name : String) : Option Value :=
  if (o.choices.map (·.1)).contains name then some (.bool (isChosen name mode))
  else (o.legacyModes.lookup name).map fun target => .bool (isChosen target mode)

/-- Writing the switches of the modes of an option replaces what is at the names of the modes, and
adds what is missing at their legacy names. -/
theorem lookup_switches (mode : Value) (q : String) :
    (o.legacyModes.foldl
      (fun acc (name, target) => Assoc.insertNew name (.bool (isChosen target mode)) acc)
      (o.choices.foldl
        (fun acc (name, _) => Assoc.insert name (.bool (isChosen name mode)) acc)
        values)).lookup q =
      if (o.choices.map (·.1)).contains q then o.switch? mode q
      else (values.lookup q).or (o.switch? mode q) := by
  have hchoices := Assoc.lookup_foldl_insert (fun name => Value.bool (isChosen name mode))
    o.choices values q
  refine (Assoc.lookup_foldl_insertNew (fun target => Value.bool (isChosen target mode))
    o.legacyModes _ q).trans ?_
  rw [hchoices, switch?]
  split <;> rfl

/-- There is no switch at a name that is not the name of a mode. -/
theorem switch?_eq_none (hq : q ∉ o.modeNames) (mode : Value) : o.switch? mode q = none := by
  rw [modeNames, List.mem_append, not_or] at hq
  obtain ⟨hchoice, hlegacy⟩ := hq
  have hlookup : o.legacyModes.lookup q = none := by
    refine List.lookup_eq_none_iff.2 fun e he => bne_iff_ne.2 ?_
    rintro rfl
    exact hlegacy (List.mem_map_of_mem he)
  rw [switch?, List.contains_eq_mem, decide_eq_false hchoice, if_neg Bool.false_ne_true, hlookup,
    Option.map_none]

/-- There is one at every name of a mode. -/
theorem exists_switch? (hq : q ∈ o.modeNames) (mode : Value) :
    ∃ b, o.switch? mode q = some (.bool b) := by
  rw [switch?]
  split
  · exact ⟨_, rfl⟩
  · next hchoice =>
    rcases List.mem_append.1 hq with hmem | hmem
    · exact absurd (List.contains_iff_mem.2 hmem) hchoice
    · cases hlookup : o.legacyModes.lookup q with
      | some target => exact ⟨_, rfl⟩
      | none =>
        obtain ⟨e, he, rfl⟩ := List.mem_map.1 hmem
        exact absurd rfl (bne_iff_ne.1 (List.lookup_eq_none_iff.1 hlookup e he))

/-- At a name that is not the name of a mode an option writes its own value only. -/
theorem lookup_record (hq : q ∉ o.modeNames) :
    (o.record raw values).lookup q =
      if q = o.name then some (o.converted (o.supplied? raw)) else values.lookup q := by
  have hown (v : Value) : (Assoc.insert o.name v values).lookup q =
      if q = o.name then some v else values.lookup q := by
    simp only [Assoc.lookup_insert (Assoc.exact_of_lawful q), beq_iff_eq]
  have hchoice : ¬(o.choices.map (·.1)).contains q := by
    rw [List.contains_iff_mem]
    exact fun hmem => hq (List.mem_append_left _ hmem)
  unfold record converted
  cases o.kind with
  | boolean => exact hown _
  | text => exact hown _
  | modes =>
    refine (lookup_switches _ q).trans ?_
    rw [if_neg hchoice, switch?_eq_none hq, Option.or_none]
    exact hown _

/-- The names at which an option writes: its own one, and those of its modes if it has some. -/
def writtenNames (o : OptionDecl) : List String :=
  o.name :: if o.kind = .modes then o.modeNames else []

/-- The names under which no raw values are passed on because of an option: its spellings, and those
of its modes if it has some. -/
def ownNames (o : OptionDecl) : List String :=
  o.spellings ++ if o.kind = .modes then o.modeNames else []

/-- An option writes at names of its own only. -/
theorem writtenNames_subset : o.writtenNames ⊆ o.ownNames := by
  intro name hname
  rcases List.mem_cons.1 hname with rfl | hmode
  · exact List.mem_append_left _ List.mem_cons_self
  · exact List.mem_append_right _ hmode

/-- These are names that belong to it. -/
theorem ownNames_subset : o.ownNames ⊆ o.allNames := by
  intro name hname
  rcases List.mem_append.1 hname with hspelling | hmode
  · exact List.mem_append_left _ hspelling
  · split at hmode
    · exact List.mem_append_right _ hmode
    · cases hmode

/-- An option writes nothing at any other name. -/
theorem lookup_record_of_not_written (hq : q ∉ o.writtenNames) :
    (o.record raw values).lookup q = values.lookup q := by
  rw [writtenNames, List.mem_cons, not_or] at hq
  obtain ⟨hname, hmodes⟩ := hq
  by_cases hk : o.kind = .modes
  · rw [if_pos hk] at hmodes
    rw [lookup_record hmodes, if_neg hname]
  · have hown (v : Value) : (Assoc.insert o.name v values).lookup q = values.lookup q := by
      rw [Assoc.lookup_insert (Assoc.exact_of_lawful q), beq_eq_false_iff_ne.2 hname,
        if_neg Bool.false_ne_true]
    unfold record
    cases hkind : o.kind with
    | boolean => exact hown _
    | text => exact hown _
    | modes => exact absurd hkind hk

/-- The values that an option writes depend on what becomes of the raw value only. -/
theorem record_congr {raw' : RawOptions}
    (h : o.converted (o.supplied? raw') = o.converted (o.supplied? raw)) :
    o.record raw' values = o.record raw values := by
  unfold converted at h
  unfold record
  cases hkind : o.kind with
  | boolean =>
    rw [hkind] at h
    exact congrArg (Assoc.insert o.name · values) h
  | text =>
    rw [hkind] at h
    exact congrArg (Assoc.insert o.name · values) h
  | modes =>
    rw [hkind] at h
    dsimp only at h ⊢
    rw [h]

/-- At a name of a mode that has no value before, an option writes its switch. -/
theorem lookup_record_mode (hk : o.kind = .modes) (hq : q ≠ o.name)
    (hfresh : values.lookup q = none) :
    (o.record raw values).lookup q = o.switch? (o.converted (o.supplied? raw)) q := by
  have hown (v : Value) : (Assoc.insert o.name v values).lookup q = none := by
    rw [Assoc.lookup_insert (Assoc.exact_of_lawful q), beq_eq_false_iff_ne.2 hq,
      if_neg Bool.false_ne_true, hfresh]
  unfold record converted
  rw [hk]
  refine (lookup_switches _ q).trans ?_
  rw [hown, Option.none_or, ite_self]
  rfl

end OptionDecl

/-! ## All options -/

/-- The options share no name. -/
def DistinctNames (options : List OptionDecl) : Prop :=
  (options.flatMap OptionDecl.allNames).Nodup

instance : Decidable (DistinctNames options) :=
  inferInstanceAs (Decidable (options.flatMap OptionDecl.allNames).Nodup)

/-- The name of an option is not the name of one of its modes. -/
theorem DistinctNames.name_not_mem {o : OptionDecl} (hd : DistinctNames options)
    (ho : o ∈ options) : o.name ∉ o.modeNames := by
  have hnames : o.allNames.Nodup := (List.nodup_flatMap.1 hd).1 o ho
  intro hm
  exact List.disjoint_of_nodup_append hnames List.mem_cons_self hm

/-- What belongs to an option does not belong to a later one. -/
theorem DistinctNames.not_mem_later {o p : OptionDecl} {before after : List OptionDecl}
    (hd : DistinctNames (before ++ o :: after)) {name : String} (hn : name ∈ o.allNames)
    (hp : p ∈ after) : name ∉ p.allNames := by
  have hpairs := (List.nodup_flatMap.1 hd).2
  exact List.rel_of_pairwise_cons (List.pairwise_append.1 hpairs).2.1 hp hn

/-- Nor does it belong to an earlier one. -/
theorem DistinctNames.not_mem_earlier {o p : OptionDecl} {before after : List OptionDecl}
    (hd : DistinctNames (before ++ o :: after)) {name : String} (hn : name ∈ o.allNames)
    (hp : p ∈ before) : name ∉ p.allNames := by
  have hpairs := (List.nodup_flatMap.1 hd).2
  intro hmem
  exact (List.pairwise_append.1 hpairs).2.2 p hp o List.mem_cons_self hmem hn

/-- An option writes nothing at a name that does not belong to it. -/
theorem OptionDecl.lookup_record_of_not_mem {o : OptionDecl} {name : String}
    (hn : name ∉ o.allNames) : (o.record raw values).lookup name = values.lookup name := by
  exact lookup_record_of_not_written fun hname => hn (ownNames_subset (writtenNames_subset hname))

/-- At a name that belongs to an option the options before and after it make no difference. -/
theorem lookup_declaredValues_of_mem {o : OptionDecl} (hd : DistinctNames options)
    (ho : o ∈ options) (raw : RawOptions) {name : String} (hn : name ∈ o.allNames) :
    ∃ values, values.lookup name = none ∧
      (declaredValues options raw).lookup name = (o.record raw values).lookup name := by
  obtain ⟨before, after, rfl⟩ := List.append_of_mem ho
  -- The values are those of the options before it, which have written nothing at the name.
  refine ⟨before.foldl (fun values o => o.record raw values) [], ?_, ?_⟩
  · refine Assoc.lookup_foldl_of_forall (fun acc p hp => ?_) []
    exact OptionDecl.lookup_record_of_not_mem (hd.not_mem_earlier hn hp)
  · rw [declaredValues, List.foldl_append, List.foldl_cons]
    refine Assoc.lookup_foldl_of_forall (fun acc p hp => ?_) _
    exact OptionDecl.lookup_record_of_not_mem (hd.not_mem_later hn hp)

/-- At a name at which no option writes there is no value. -/
theorem lookup_declaredValues_of_not_written {name : String}
    (h : ∀ o ∈ options, name ∉ o.writtenNames) : (declaredValues options raw).lookup name = none :=
  Assoc.lookup_foldl_of_forall
    (fun _ o ho => OptionDecl.lookup_record_of_not_written (h o ho)) []

/-- Every option has the value that becomes of what is supplied for it. -/
theorem lookup_declaredValues {o : OptionDecl} (hd : DistinctNames options) (ho : o ∈ options)
    (raw : RawOptions) :
    (declaredValues options raw).lookup o.name = some (o.converted (o.supplied? raw)) := by
  obtain ⟨values, -, hvalues⟩ := lookup_declaredValues_of_mem hd ho raw
    (List.mem_append_left _ List.mem_cons_self)
  rw [hvalues, OptionDecl.lookup_record (hd.name_not_mem ho), if_pos rfl]

/-- Every mode of an option has the switch that becomes of what is supplied for the option. -/
theorem lookup_declaredValues_mode {o : OptionDecl} (hd : DistinctNames options) (ho : o ∈ options)
    (hk : o.kind = .modes) (raw : RawOptions) {name : String} (hn : name ∈ o.modeNames) :
    (declaredValues options raw).lookup name =
      o.switch? (o.converted (o.supplied? raw)) name := by
  obtain ⟨values, hfresh, hvalues⟩ := lookup_declaredValues_of_mem hd ho raw
    (List.mem_append_right _ hn)
  have hne : name ≠ o.name := by
    rintro rfl
    exact hd.name_not_mem ho hn
  rw [hvalues, OptionDecl.lookup_record_mode hk hne hfresh]

/-- No raw value is passed on under the name of a declared option. -/
theorem rawFate_name {o : OptionDecl} (ho : o ∈ options) (values : List (String × Value)) :
    rawFate options values o.name ≠ .passed := by
  have hdeclared : isDeclared options o.name = true :=
    List.any_eq_true.2 ⟨o, ho, by simp [OptionDecl.spellings]⟩
  rw [rawFate, if_pos hdeclared]
  simp

/-- Nor is one under a name that is there. -/
theorem rawFate_of_contains {name : String} (h : Assoc.contains values name = true) :
    rawFate options values name ≠ .passed := by
  unfold rawFate
  split
  · simp
  · simp

/-- Nor under one that has a value. -/
theorem rawFate_of_lookup {name : String} {v : Value} (h : values.lookup name = some v) :
    rawFate options values name ≠ .passed :=
  rawFate_of_contains (by
    rw [Assoc.contains_eq_isSome_lookup (Assoc.exact_of_lawful name), h, Option.isSome_some])

/-! ## Values that are passed on -/

/-- The value of a pair whose key is in bytes that spell a name. -/
def spelledInBytes? (name : String) : Key × Value → Option Value
  | (.bytes bs, v) => if Text.textOfBytes? bs = some name then some v else none
  | _ => none

/-- The last raw value under a key in bytes that spell a name. -/
def byteValue? (raw : RawOptions) (name : String) : Option Value :=
  raw.reverse.findSome? (spelledInBytes? name)

/-- The values under the texts that their keys spell. -/
def spelled (raw : RawOptions) : List (String × Value) :=
  raw.filterMap fun e => (spelledKey? e.1).map (·, e.2)

/-- A configuration keeps its values like an update of those of the declared options. -/
theorem keptValues_eq_update (values : List (String × Value)) (passed : RawOptions) :
    keptValues values passed = Assoc.update values (spelled passed) := by
  rw [keptValues, Assoc.update, spelled, List.foldl_filterMap]
  congr 1
  funext acc e
  obtain ⟨k, v⟩ := e
  dsimp only
  cases spelledKey? k <;> rfl

/-- Among the values under spelled keys the first one under the name is found. -/
theorem lookup_spelled (raw : RawOptions) (name : String) :
    (spelled raw).lookup name =
      raw.findSome? fun e => if spelledKey? e.1 = some name then some e.2 else none := by
  induction raw with
  | nil => rfl
  | cons e rest ih =>
    rw [spelled, List.filterMap_cons, List.findSome?_cons, ← ih]
    cases hk : spelledKey? e.1 with
    | none => rfl
    | some key =>
      by_cases hkey : key = name
      · simp [hkey]
      · have hne : (name == key) = false := beq_eq_false_iff_ne.2 (Ne.symm hkey)
        simp only [Option.map_some, List.lookup_cons, hne, Option.some.injEq, hkey, if_false]
        rfl

/-- A value that is passed on has a name under which none is passed on for its key only if the key
is in bytes. -/
theorem spelledInBytes?_of_mem {name : String} (hn : rawFate options values name ≠ .passed)
    {e : Key × Value} (he : e ∈ passedOn options raw values) :
    (if spelledKey? e.1 = some name then some e.2 else none) = spelledInBytes? name e := by
  obtain ⟨k, v⟩ := e
  cases k with
  | bytes bs => rfl
  | text key =>
    have hfate : rawFate options values key = .passed := by
      simpa using (List.mem_filter.1 he).2
    have hne : key ≠ name := by
      rintro rfl
      exact hn hfate
    exact if_neg fun h => hne (Option.some.inj h)
  | _ => rfl

/-- A value under a key in bytes is always passed on. -/
theorem findSome?_passedOn (name : String) :
    (passedOn options raw values).reverse.findSome? (spelledInBytes? name) =
      byteValue? raw name := by
  rw [passedOn, ← List.filter_reverse, byteValue?]
  refine findSome?_filter fun e he => ?_
  obtain ⟨k, v⟩ := e
  cases k with
  | text key => exact absurd rfl he
  | _ => rfl

/-- At a name under which no raw value is passed on a configuration keeps the value that is there,
unless a key in bytes spells the name. -/
theorem lookup_keptValues {name : String} (hn : rawFate options values name ≠ .passed) :
    (keptValues values (passedOn options raw values)).lookup name =
      (byteValue? raw name).or (values.lookup name) := by
  have hspelled : (spelled (passedOn options raw values)).reverse.lookup name =
      byteValue? raw name := by
    have hreverse : (spelled (passedOn options raw values)).reverse =
        spelled (passedOn options raw values).reverse := List.filterMap_reverse.symm
    rw [hreverse, lookup_spelled, ← findSome?_passedOn]
    exact findSome?_congr fun e he => spelledInBytes?_of_mem hn (List.mem_reverse.1 he)
  rw [keptValues_eq_update, Assoc.lookup_update (Assoc.exact_of_lawful name), hspelled]

/-! ## Configurations -/

/-- What the switches of a configuration read under a name. -/
def known? (options : List OptionDecl) (raw : RawOptions) (name : String) : Option Value :=
  let declared := declaredValues options raw
  (withPassed declared (passedOn options raw declared)).lookup name

/-- The configuration for raw values, with a family of JSON annotations. -/
def configurationWith (options : List OptionDecl) (raw : RawOptions) (mapping : JsonMapping) :
    Configuration :=
  let declared := declaredValues options raw
  let switch (name : String) : Bool := turnsOn ((known? options raw name).getD (.bool false))
  { values := keptValues declared (passedOn options raw declared)
    beanValidation := switch beanValidationOption
    genericResponse := switch genericResponseOption
    gzipForTests := switch gzipForTestsOption
    loggingForTests := switch loggingForTestsOption
    jsonMapping := mapping
    serializableModel := switch serializableModelOption
    warnings := optionWarnings options raw }

/-- Whether raw values can be used: wherever the text of one is asked for it has one, and all keys
are texts or spell one. -/
structure Usable (options : List OptionDecl) (raw : RawOptions) : Prop where
  texts : suppliedFault? options raw = none
  switches : ∀ name ∈ switchOptions, (known? options raw name).bind switchFault? = none
  keys : keyFaults raw = []

section
variable {o : OptionDecl} {c : Configuration}

theorem checkText_eq_ok_iff {fault? : Option TextFault} {u : Unit} :
    checkText fault? = .ok u ↔ fault? = none := by
  cases fault? with
  | some f => exact iff_of_false (fun h => nomatch h) (fun h => nomatch h)
  | none => exact iff_of_true rfl rfl

/-- Raw values are resolved iff they can be used and the family of JSON annotations can be told. -/
theorem resolve_eq_ok_iff : resolve options raw = .ok c ↔ Usable options raw ∧
    ∃ m, jsonMappingOf ((known? options raw jsonMappingOption).getD (.text "jackson")) = .ok m ∧
      c = configurationWith options raw m := by
  have hswitches : switchesFault? (withPassed (declaredValues options raw)
      (passedOn options raw (declaredValues options raw))) = none ↔
        ∀ name ∈ switchOptions, (known? options raw name).bind switchFault? = none :=
    List.findSome?_eq_none_iff
  unfold resolve
  cases htexts : suppliedFault? options raw with
  | some f =>
    exact iff_of_false (fun h => nomatch h) (fun ⟨hu, _⟩ => nomatch htexts.symm.trans hu.texts)
  | none =>
    change (jsonMappingOf ((known? options raw jsonMappingOption).getD (.text "jackson")) >>= _) =
      Except.ok c ↔ _
    cases jsonMappingOf ((known? options raw jsonMappingOption).getD (.text "jackson")) with
    | error f => exact iff_of_false (fun h => nomatch h) (fun ⟨_, _, hm, _⟩ => nomatch hm)
    | ok m =>
      cases hknown : switchesFault? (withPassed (declaredValues options raw)
          (passedOn options raw (declaredValues options raw))) with
      | some f =>
        exact iff_of_false (fun h => nomatch h)
          (fun ⟨hu, _⟩ => nomatch hknown.symm.trans (hswitches.2 hu.switches))
      | none =>
        cases hfaults : keyFaults raw with
        | cons f rest =>
          exact iff_of_false (fun h => nomatch h)
            (fun ⟨hu, _⟩ => nomatch hfaults.symm.trans hu.keys)
        | nil =>
          constructor
          · intro h
            cases h
            exact ⟨⟨htexts, hswitches.1 hknown, hfaults⟩, m, rfl, rfl⟩
          · rintro ⟨-, m', hm, rfl⟩
            cases hm
            rfl

/-- The values of a configuration are those that are kept. -/
theorem resolve_values (h : resolve options raw = .ok c) :
    c.values = keptValues (declaredValues options raw)
      (passedOn options raw (declaredValues options raw)) := by
  obtain ⟨-, m, -, rfl⟩ := resolve_eq_ok_iff.1 h
  rfl

/-- A configuration holds for an option what becomes of the raw value supplied for it, unless a key
in bytes spells the name of the option. -/
theorem lookup_resolve (hd : DistinctNames options) (ho : o ∈ options)
    (h : resolve options raw = .ok c) :
    c.values.lookup o.name =
      some ((byteValue? raw o.name).getD (o.converted (o.supplied? raw))) := by
  rw [resolve_values h, lookup_keptValues (rawFate_name ho _), lookup_declaredValues hd ho]
  cases byteValue? raw o.name <;> rfl

/-- For every mode of an option it holds the switch that becomes of this value, unless a key in
bytes spells the name of the mode. -/
theorem lookup_resolve_mode (hd : DistinctNames options) (ho : o ∈ options) (hk : o.kind = .modes)
    (h : resolve options raw = .ok c) {name : String} (hn : name ∈ o.modeNames) :
    c.values.lookup name =
      (byteValue? raw name).or (o.switch? (o.converted (o.supplied? raw)) name) := by
  have hmode := lookup_declaredValues_mode hd ho hk raw hn
  obtain ⟨b, hb⟩ := OptionDecl.exists_switch? hn (o.converted (o.supplied? raw))
  rw [resolve_values h, lookup_keptValues (rawFate_of_lookup (hmode.trans hb)), hmode]

/-- The switches read what becomes of the raw value that is supplied for an option. -/
theorem known?_name (hd : DistinctNames options) (ho : o ∈ options) (raw : RawOptions) :
    known? options raw o.name = some (o.converted (o.supplied? raw)) := by
  rw [known?, withPassed, List.lookup_append, lookup_declaredValues hd ho, Option.some_or]

/-- An option with modes gets no composite value, unless it is its default. -/
theorem OptionDecl.isComposite_converted (hmodes : o.kind = .modes)
    (hdefault : o.default.isComposite = false) (supplied : Option Value) :
    (o.converted supplied).isComposite = false := by
  rw [converted, hmodes]
  unfold chosen
  dsimp only
  split
  · exact hdefault
  · split
    · rfl
    · exact hdefault

/-- If the family of JSON annotations is a declared option with modes, then raw values are resolved
just if they can be used. -/
theorem exists_resolve_iff (hd : DistinctNames options) (ho : o ∈ options)
    (hname : o.name = jsonMappingOption) (hmodes : o.kind = .modes)
    (hdefault : o.default.isComposite = false) :
    (∃ c, resolve options raw = .ok c) ↔ Usable options raw := by
  have hcomposite := OptionDecl.isComposite_converted hmodes hdefault (o.supplied? raw)
  have hmapping : ∃ m, jsonMappingOf (o.converted (o.supplied? raw)) = .ok m := by
    unfold jsonMappingOf
    split
    · exact ⟨_, rfl⟩
    · rw [if_neg (by simp [hcomposite])]
      exact ⟨_, rfl⟩
  obtain ⟨m, hm⟩ := hmapping
  refine ⟨fun ⟨c, hc⟩ => (resolve_eq_ok_iff.1 hc).1, fun husable => ?_⟩
  refine ⟨_, resolve_eq_ok_iff.2 ⟨husable, m, ?_, rfl⟩⟩
  rw [← hname, known?_name hd ho, Option.getD_some, hm]

/-- What is known of a switch that is declared as such is a truth value, of which no text is asked
for. -/
theorem switchFault?_declared (hd : DistinctNames options) (ho : o ∈ options)
    (hkind : o.kind = .boolean) : (known? options raw o.name).bind switchFault? = none := by
  rw [known?_name hd ho, Option.bind_some, OptionDecl.converted, hkind]
  rfl

/-- If all switches are declared as such, no text is asked for but those of what is supplied for the
declared options. -/
theorem usable_iff (hd : DistinctNames options)
    (hswitches : ∀ name ∈ switchOptions, ∃ o ∈ options, o.name = name ∧ o.kind = .boolean) :
    Usable options raw ↔ suppliedFault? options raw = none ∧ keyFaults raw = [] := by
  refine ⟨fun h => ⟨h.texts, h.keys⟩, fun ⟨htexts, hkeys⟩ => ⟨htexts, fun name hname => ?_, hkeys⟩⟩
  obtain ⟨o, ho, rfl, hkind⟩ := hswitches name hname
  exact switchFault?_declared hd ho hkind

/-- The texts of what is supplied are there just if each declared option can use its value. -/
theorem suppliedFault?_eq_none_iff : suppliedFault? options raw = none ↔
    ∀ o ∈ options, ∀ v, o.supplied? raw = some v → o.valueFault? v = none := by
  simp only [suppliedFault?, List.findSome?_eq_none_iff, OptionDecl.textFault?,
    Option.bind_eq_none_iff]

end

end ClientGen
