import ClientGen.Proofs.Backend.Composition
import ClientGen.Proofs.Generation.Isolation
import ClientGen.Proofs.Options.Resolvable

/-!
# What resolved options mean

For a list of options that is well formed ([WellFormedOptions]) and raw values under texts
([TextMapping]) every key of a configuration has one meaning ([Means]): the key of an option, of a
mode or of a legacy name tells what is supplied for the option, another spelling of an option is no
key, and at any other key stands the raw value. Which mode is chosen is said without the functions
that search for it ([OptionDecl.Chooses]).
-/

namespace ClientGen

open JaxrsCxf (ReadsValues TextKeys byteValue?_eq_none readsValues_of_known)

/-! ## Lists of options and raw values -/

/-- What a list of options should be. -/
structure WellFormedOptions (options : List OptionDecl) : Prop where
  distinct : DistinctNames options
  /-- The default of an option with modes is one of them. -/
  defaults : ∀ o ∈ options, o.Accepts o.default
  /-- A legacy name stands for a mode of its option. -/
  targets : ∀ o ∈ options, o.kind = .modes → ∀ e ∈ o.legacyModes, e.2 ∈ o.choices.map (·.1)

instance (options : List OptionDecl) : Decidable (WellFormedOptions options) :=
  decidable_of_iff (DistinctNames options ∧ (∀ o ∈ options, o.Accepts o.default) ∧
      ∀ o ∈ options, o.kind = .modes → ∀ e ∈ o.legacyModes, e.2 ∈ o.choices.map (·.1))
    ⟨fun h => ⟨h.1, h.2.1, h.2.2⟩, fun h => ⟨h.distinct, h.defaults, h.targets⟩⟩

/-- A mapping whose keys are texts. -/
structure TextMapping (raw : RawOptions) : Prop where
  texts : TextKeys raw
  distinct : (raw.map (·.1)).Nodup

variable {options : List OptionDecl} {raw : RawOptions} {c : Configuration}

/-- The base of the Java backends has well-formed options. -/
theorem wellFormedOptions_java : WellFormedOptions Java.options := by decide

/-- So has the backend for CXF. -/
theorem wellFormedOptions_jaxrsCxf : WellFormedOptions JaxrsCxf.backend.options := by decide

/-! ## The chosen mode -/

/-- Whether an item is the first one of a list with a property. -/
def FirstWith {α : Type} (p : α → Prop) (items : List α) (a : α) : Prop :=
  ∃ before after, items = before ++ a :: after ∧ p a ∧ ∀ b ∈ before, ¬p b

/-- What is found is the first item for which the test succeeds. -/
theorem find?_eq_some_iff_firstWith {α : Type} {test : α → Bool} {p : α → Prop}
    (htest : ∀ a, test a = true ↔ p a) {items : List α} {a : α} :
    items.find? test = some a ↔ FirstWith p items a := by
  have hfails (b : α) : (!test b) = true ↔ ¬p b := by
    rw [Bool.not_eq_true', ← Bool.not_eq_true, htest]
  rw [List.find?_eq_some_iff_append, FirstWith, htest]
  simp only [hfails]
  constructor
  · rintro ⟨ha, before, after, hitems, hbefore⟩
    exact ⟨before, after, hitems, ha, hbefore⟩
  · rintro ⟨before, after, hitems, ha, hbefore⟩
    exact ⟨ha, before, after, hitems, hbefore⟩

/-- It is one of the items. -/
theorem FirstWith.mem {α : Type} {p : α → Prop} {items : List α} {a : α}
    (h : FirstWith p items a) : a ∈ items := by
  obtain ⟨before, after, rfl, -, -⟩ := h
  exact List.mem_append_right _ List.mem_cons_self

/-- And it has the property. -/
theorem FirstWith.holds {α : Type} {p : α → Prop} {items : List α} {a : α}
    (h : FirstWith p items a) : p a := by
  obtain ⟨-, -, -, ha, -⟩ := h
  exact ha

/-- Whether a name is a word, in any case. -/
def SameWord (word name : String) : Prop := Text.lower name = Text.lower word

instance (word name : String) : Decidable (SameWord word name) :=
  inferInstanceAs (Decidable (_ = _))

namespace OptionDecl

variable {o : OptionDecl} {supplied : Option Value} {mode : String}

/-- The word that a value stands for. -/
def wordOf (v : Value) : String := Text.trim v.asText

/-- Whether a word names neither a mode of an option nor a legacy name of one. -/
def Unnamed (o : OptionDecl) (word : String) : Prop :=
  ∀ e ∈ o.choices ++ o.legacyModes, ¬SameWord word e.1

instance (o : OptionDecl) (word : String) : Decidable (o.Unnamed word) :=
  inferInstanceAs (Decidable (∀ e ∈ o.choices ++ o.legacyModes, ¬SameWord word e.1))

/-- Whether a mode is the one that is chosen by what is supplied for an option. -/
inductive Chooses (o : OptionDecl) : Option Value → String → Prop
  | absent {mode : String} (h : o.default = .text mode) : Chooses o none mode
  /-- The first mode that the value names is chosen. -/
  | named {v : Value} {e : String × String}
    (h : FirstWith (fun e => SameWord (wordOf v) e.1) o.choices e) : Chooses o (some v) e.1
  /-- If the value names none, then it is the one that the first legacy name stands for. -/
  | legacy {v : Value} {e : String × String} (hnone : ∀ e ∈ o.choices, ¬SameWord (wordOf v) e.1)
    (h : FirstWith (fun e => SameWord (wordOf v) e.1) o.legacyModes e) : Chooses o (some v) e.2
  | unknown {v : Value} {mode : String} (hnone : o.Unnamed (wordOf v))
    (h : o.default = .text mode) : Chooses o (some v) mode

/-- The word that is supplied for an option with modes, if it names none of them. -/
def unknownWord? (o : OptionDecl) (raw : RawOptions) : Option String :=
  if o.kind = .modes then
    ((o.supplied? raw).map wordOf).filter fun word => decide (o.Unnamed word)
  else none

/-- A pair is found under a name just if it is the first one with this name. -/
theorem find?_eq_some_iff {word : String} {items : List (String × String)}
    {e : String × String} :
    items.find? (fun e => Text.lower e.1 == Text.lower word) = some e ↔
      FirstWith (fun e => SameWord word e.1) items e :=
  find?_eq_some_iff_firstWith fun _ => beq_iff_eq

/-- None is found just if there is none. -/
theorem find?_eq_none_iff {word : String} {items : List (String × String)} :
    items.find? (fun e => Text.lower e.1 == Text.lower word) = none ↔
      ∀ e ∈ items, ¬SameWord word e.1 := by
  simp only [List.find?_eq_none, beq_iff_eq, SameWord]

/-- No mode is found for a word just if it names none. -/
theorem mode?_eq_none_iff {word : String} : o.mode? word = none ↔ o.Unnamed word := by
  simp only [Unnamed, List.mem_append, or_imp, forall_and, mode?]
  cases hfind : o.choices.find? fun e => Text.lower e.1 == Text.lower word with
  | some e =>
    have hfirst := find?_eq_some_iff.1 hfind
    exact iff_of_false (fun h => nomatch h) fun h => h.1 e hfirst.mem hfirst.holds
  | none =>
    simp only [Option.map_eq_none_iff, find?_eq_none_iff]
    exact ⟨fun h => ⟨find?_eq_none_iff.1 hfind, h⟩, fun h => h.2⟩

/-- A mode is found for a word just if it is the first one with this name, or if there is none and
the first legacy name stands for it. -/
theorem mode?_eq_some_iff {word : String} : o.mode? word = some mode ↔
    (∃ e, FirstWith (fun e => SameWord word e.1) o.choices e ∧ e.1 = mode) ∨
      (∀ e ∈ o.choices, ¬SameWord word e.1) ∧
        ∃ e, FirstWith (fun e => SameWord word e.1) o.legacyModes e ∧ e.2 = mode := by
  simp only [mode?, ← find?_eq_some_iff, ← find?_eq_none_iff]
  cases o.choices.find? fun e => Text.lower e.1 == Text.lower word with
  | some e => simp
  | none => simp [Option.map_eq_some_iff]

/-- A value chooses the mode that is found for its word, or else the default. -/
theorem chooses_some_iff {v : Value} : o.Chooses (some v) mode ↔
    o.mode? (wordOf v) = some mode ∨ o.mode? (wordOf v) = none ∧ o.default = .text mode := by
  constructor
  · rintro (_ | hfirst | ⟨hnone, hfirst⟩ | ⟨hunnamed, hdefault⟩)
    · exact .inl (mode?_eq_some_iff.2 (.inl ⟨_, hfirst, rfl⟩))
    · exact .inl (mode?_eq_some_iff.2 (.inr ⟨hnone, _, hfirst, rfl⟩))
    · exact .inr ⟨mode?_eq_none_iff.2 hunnamed, hdefault⟩
  · rintro (hfound | ⟨hunnamed, hdefault⟩)
    · rcases mode?_eq_some_iff.1 hfound with ⟨e, hfirst, rfl⟩ | ⟨hnone, e, hfirst, rfl⟩
      · exact .named hfirst
      · exact .legacy hnone hfirst
    · exact .unknown (mode?_eq_none_iff.1 hunnamed) hdefault

/-- What an option makes of what is supplied is the mode that this chooses. -/
theorem chooses_iff : o.Chooses supplied mode ↔ (o.chosen supplied).1 = .text mode := by
  cases supplied with
  | none =>
    constructor
    · rintro ⟨hdefault⟩
      exact hdefault
    · exact .absent
  | some v =>
    have hword : Text.trim v.asText = wordOf v := rfl
    rw [chooses_some_iff]
    simp only [chosen, hword]
    cases o.mode? (wordOf v) <;> simp

/-- Only one mode is chosen. -/
theorem Chooses.unique {mode' : String} (h : o.Chooses supplied mode)
    (h' : o.Chooses supplied mode') : mode = mode' :=
  Value.text.inj ((chooses_iff.1 h).symm.trans (chooses_iff.1 h'))

/-- It is declared, if the default and what the legacy names stand for are. -/
theorem Chooses.declared (h : o.Chooses supplied mode)
    (hdefault : ∀ mode, o.default = .text mode → mode ∈ o.choices.map (·.1))
    (ht : ∀ e ∈ o.legacyModes, e.2 ∈ o.choices.map (·.1)) : mode ∈ o.choices.map (·.1) := by
  cases h with
  | absent h => exact hdefault _ h
  | named hfirst => exact List.mem_map_of_mem hfirst.mem
  | legacy _ hfirst => exact ht _ hfirst.mem
  | unknown _ h => exact hdefault _ h

/-- The default of an option with modes is one of them. -/
theorem exists_default (hk : o.kind = .modes) (hd : o.Accepts o.default) :
    ∃ mode, o.default = .text mode ∧ mode ∈ o.choices.map (·.1) := by
  have hdeclares := hd hk
  cases hdefault : o.default with
  | text mode =>
    rw [hdefault, declares, List.any_eq_true] at hdeclares
    obtain ⟨e, he, heq⟩ := hdeclares
    exact ⟨mode, rfl, List.mem_map.2 ⟨e, he, beq_iff_eq.1 heq⟩⟩
  | _ =>
    rw [hdefault] at hdeclares
    cases hdeclares

/-- Anything chooses a mode, and it is one of them. -/
theorem exists_chosen (hk : o.kind = .modes) (hd : o.Accepts o.default)
    (ht : ∀ e ∈ o.legacyModes, e.2 ∈ o.choices.map (·.1)) (supplied : Option Value) :
    ∃ mode, (o.chosen supplied).1 = .text mode ∧ mode ∈ o.choices.map (·.1) := by
  obtain ⟨default, hdefault, hdeclared⟩ := exists_default hk hd
  have hchosen : ∃ mode, (o.chosen supplied).1 = .text mode := by
    cases supplied with
    | none => exact ⟨default, hdefault⟩
    | some v =>
      simp only [chosen]
      cases o.mode? (Text.trim v.asText) with
      | none => exact ⟨default, hdefault⟩
      | some mode => exact ⟨mode, rfl⟩
  obtain ⟨mode, hmode⟩ := hchosen
  refine ⟨mode, hmode, (chooses_iff.2 hmode).declared (fun mode' h => ?_) ht⟩
  rw [hdefault] at h
  cases h
  exact hdeclared

/-- An option warns just about a word that names none of its modes. -/
theorem warning?_eq : o.warning? raw = (o.unknownWord? raw).map o.unknownMode := by
  unfold warning? unknownWord?
  cases hk : o.kind with
  | boolean => rfl
  | text => rfl
  | modes =>
    rw [if_pos rfl]
    cases o.supplied? raw with
    | none => rfl
    | some v =>
      dsimp only [chosen]
      rw [← wordOf, Option.map_some, Option.filter_some]
      by_cases hunnamed : o.Unnamed (wordOf v)
      · rw [mode?_eq_none_iff.2 hunnamed, if_pos (decide_eq_true hunnamed)]
        rfl
      · rw [decide_eq_false hunnamed, if_neg Bool.false_ne_true]
        cases hmode : o.mode? (wordOf v) with
        | none => exact absurd (mode?_eq_none_iff.1 hmode) hunnamed
        | some mode => rfl

end OptionDecl

/-! ## What is kept -/

/-- Under texts that differ everything that is passed on is kept at the end. -/
theorem TextMapping.keptValues_eq (hr : TextMapping raw) (values : List (String × Value)) :
    keptValues values (passedOn options raw values) =
      withPassed values (passedOn options raw values) := by
  have hspelled : spelled (passedOn options raw values) =
      (passedOn options raw values).filterMap fun e => e.1.text?.map (·, e.2) := by
    refine List.filterMap_congr fun e he => ?_
    obtain ⟨name, hname⟩ := hr.texts e (List.mem_filter.1 he).1
    rw [hname]
    rfl
  rw [keptValues_eq_update, withPassed, hspelled, Assoc.update_eq_append]
  · -- What is passed on is under a name that has no value.
    intro e he
    obtain ⟨⟨key, v⟩, hmem, hpair⟩ := List.mem_filterMap.1 he
    obtain ⟨hraw, hpassed⟩ := List.mem_filter.1 hmem
    obtain ⟨name, rfl⟩ := hr.texts _ hraw
    cases hpair
    have hfate : rawFate options values name = .passed := by simpa using hpassed
    exact eq_false_of_ne_true fun h => rawFate_of_contains h hfate
  · refine (List.Pairwise.filter _ (List.pairwise_map.1 hr.distinct)).filterMap _ ?_
    rintro ⟨k, v⟩ ⟨k', v'⟩ hne e he e' he'
    cases k with
    | text name =>
      cases k' with
      | text name' =>
        cases he
        cases he'
        exact beq_eq_false_iff_ne.2 fun h => hne (congrArg Key.text h)
      | _ => cases he'
    | _ => cases he

/-- The switches read what is kept. -/
theorem TextMapping.known?_eq (hr : TextMapping raw) (hc : resolve options raw = .ok c)
    (name : String) : known? options raw name = c.values.lookup name := by
  rw [resolve_values hc, hr.keptValues_eq]
  rfl

/-- An option has the value that becomes of what is supplied for it. -/
theorem TextMapping.lookup_name (hr : TextMapping raw) (hd : DistinctNames options)
    (hc : resolve options raw = .ok c) {o : OptionDecl} (ho : o ∈ options) :
    c.values.lookup o.name = some (o.converted (o.supplied? raw)) := by
  rw [← hr.known?_eq hc, known?_name hd ho]

/-- Another spelling of an option is written by none. -/
theorem DistinctNames.alias_not_written (hd : DistinctNames options) {o p : OptionDecl}
    (ho : o ∈ options) (hp : p ∈ options) {name : String} (hn : name ∈ o.aliases) :
    name ∉ p.writtenNames := by
  have hall : name ∈ o.allNames := List.mem_append_left _ (List.mem_cons_of_mem _ hn)
  obtain ⟨before, after, rfl⟩ := List.append_of_mem ho
  intro hwritten
  have hother := OptionDecl.ownNames_subset (OptionDecl.writtenNames_subset hwritten)
  rcases List.mem_append.1 hp with hbefore | hlater
  · exact hd.not_mem_earlier hall hbefore hother
  · rcases List.mem_cons.1 hlater with rfl | hafter
    · -- The option itself has the spelling only once.
      have hnames : p.allNames.Nodup := (List.nodup_flatMap.1 hd).1 p ho
      have hname : p.name ∉ p.aliases :=
        (List.nodup_cons.1 (List.Nodup.of_append_left hnames)).1
      rcases List.mem_cons.1 hwritten with rfl | hmode
      · exact hname hn
      · split at hmode
        · exact List.disjoint_of_nodup_append hnames (List.mem_cons_of_mem _ hn) hmode
        · cases hmode
    · exact hd.not_mem_later hall hafter hother

/-- So there is no value under it. -/
theorem TextMapping.lookup_alias (hr : TextMapping raw) (hd : DistinctNames options)
    (hc : resolve options raw = .ok c) {o : OptionDecl} (ho : o ∈ options) {name : String}
    (hn : name ∈ o.aliases) : c.values.lookup name = none := by
  have hdeclared : isDeclared options name = true :=
    List.any_eq_true.2 ⟨o, ho, List.contains_iff_mem.2 (List.mem_cons_of_mem _ hn)⟩
  have hfate : rawFate options (declaredValues options raw) name ≠ .passed := by
    rw [rawFate, if_pos hdeclared]
    simp
  rw [resolve_values hc, lookup_keptValues hfate, byteValue?_eq_none hr.texts, Option.none_or]
  exact lookup_declaredValues_of_not_written fun p hp => hd.alias_not_written ho hp hn

/-! ## The meaning of every key -/

/-- What values have for an option of which a mode is chosen. -/
structure OptionDecl.HasMode (o : OptionDecl) (values : List (String × Value)) (mode : String) :
    Prop where
  declared : mode ∈ o.choices.map (·.1)
  option : values.lookup o.name = some (.text mode)
  /-- A mode has the switch that tells whether it is chosen. -/
  modes : ∀ e ∈ o.choices, values.lookup e.1 = some (.bool (e.1 == mode))
  /-- A legacy name has the switch of the mode that it stands for. -/
  legacy : ∀ e ∈ o.legacyModes, values.lookup e.1 = some (.bool (e.2 == mode))
  /-- One mode is switched on, and no other. -/
  one : ∃! name, name ∈ o.choices.map (·.1) ∧ values.lookup name = some (.bool true)

/-- What a configuration has under every key, for options and raw values. -/
structure Means (options : List OptionDecl) (raw : RawOptions) (c : Configuration) : Prop where
  switches : ∀ o ∈ options, o.kind = .boolean →
    c.values.lookup o.name = some (.bool ((o.supplied? raw).elim o.default.truth turnsOn))
  texts : ∀ o ∈ options, o.kind = .text →
    c.values.lookup o.name = some ((o.supplied? raw).elim o.default fun v => .text v.asText)
  modes : ∀ o ∈ options, o.kind = .modes →
    ∃ mode, o.Chooses (o.supplied? raw) mode ∧ o.HasMode c.values mode
  /-- Another spelling of an option is no key. -/
  aliases : ∀ o ∈ options, ∀ name ∈ o.aliases, c.values.lookup name = none
  /-- Under any other key stands the raw value, if there is one. -/
  others : ∀ name, (∀ o ∈ options, name ∉ o.ownNames) →
    c.values.lookup name = raw.lookup (.text name)
  /-- The switches and the family of JSON annotations are those of the values. -/
  reads : ReadsValues c
  /-- There is a warning for every option for which a word is supplied that names no mode. -/
  warnings : c.warnings = options.filterMap fun o => (o.unknownWord? raw).map o.unknownMode

/-- The switch at the name of a mode tells whether it is the chosen one. -/
theorem OptionDecl.switch?_mode {o : OptionDecl} {e : String × String} (he : e ∈ o.choices)
    (mode : String) : o.switch? (.text mode) e.1 = some (.bool (e.1 == mode)) := by
  have hcontains : (o.choices.map (·.1)).contains e.1 = true :=
    List.contains_iff_mem.2 (List.mem_map_of_mem he)
  rw [switch?, if_pos hcontains]
  rfl

/-- The switch at a legacy name tells whether the mode that it stands for is the chosen one. -/
theorem OptionDecl.switch?_legacy {o : OptionDecl} (hnames : o.modeNames.Nodup)
    {e : String × String} (he : e ∈ o.legacyModes) (mode : String) :
    o.switch? (.text mode) e.1 = some (.bool (e.2 == mode)) := by
  have hlegacy : e.1 ∈ o.legacyModes.map (·.1) := List.mem_map_of_mem he
  have hchoice : e.1 ∉ o.choices.map (·.1) := fun hmem =>
    List.disjoint_of_nodup_append hnames hmem hlegacy
  have hlookup : o.legacyModes.lookup e.1 = some e.2 := by
    refine Assoc.lookup_of_mem (Assoc.exact_of_lawful e.1) he fun e' he' heq => ?_
    exact List.inj_on_of_nodup_map (List.Nodup.of_append_right hnames) he' he heq
  rw [switch?, List.contains_eq_mem, decide_eq_false hchoice, if_neg Bool.false_ne_true, hlookup]
  rfl

/-- Of the switches of the modes the one of the chosen mode is on, if it is one of them. -/
theorem existsUnique_switch {values : List (String × Value)} {names : List String} {mode : String}
    (hmode : mode ∈ names)
    (h : ∀ name ∈ names, values.lookup name = some (.bool (name == mode))) :
    ∃! name, name ∈ names ∧ values.lookup name = some (.bool true) := by
  refine ⟨mode, ⟨hmode, by rw [h mode hmode, beq_self_eq_true]⟩, ?_⟩
  rintro name ⟨hname, hon⟩
  rw [h name hname] at hon
  simpa using hon

/-- A configuration has for an option with modes the one that is chosen. -/
theorem TextMapping.exists_hasMode (hr : TextMapping raw) (hw : WellFormedOptions options)
    (hc : resolve options raw = .ok c) {o : OptionDecl} (ho : o ∈ options)
    (hk : o.kind = .modes) :
    ∃ mode, o.Chooses (o.supplied? raw) mode ∧ o.HasMode c.values mode := by
  have hconverted : o.converted (o.supplied? raw) = (o.chosen (o.supplied? raw)).1 := by
    rw [OptionDecl.converted, hk]
  obtain ⟨mode, hmode, hdeclared⟩ :=
    OptionDecl.exists_chosen hk (hw.defaults o ho) (hw.targets o ho hk) (o.supplied? raw)
  have hswitch {name : String} (hn : name ∈ o.modeNames) :
      c.values.lookup name = o.switch? (.text mode) name := by
    rw [lookup_resolve_mode hw.distinct ho hk hc hn, byteValue?_eq_none hr.texts, Option.none_or,
      hconverted, hmode]
  have hmodes : ∀ e ∈ o.choices, c.values.lookup e.1 = some (.bool (e.1 == mode)) := by
    intro e he
    rw [hswitch (List.mem_append_left _ (List.mem_map_of_mem he)), OptionDecl.switch?_mode he]
  have hnames : o.modeNames.Nodup :=
    List.Nodup.of_append_right ((List.nodup_flatMap.1 hw.distinct).1 o ho)
  refine ⟨mode, OptionDecl.chooses_iff.2 hmode, ?_⟩
  exact {
    declared := hdeclared
    option := by rw [hr.lookup_name hw.distinct hc ho, hconverted, hmode]
    modes := hmodes
    legacy := fun e he => by
      rw [hswitch (List.mem_append_right _ (List.mem_map_of_mem he)),
        OptionDecl.switch?_legacy hnames he]
    one := existsUnique_switch hdeclared fun name hname => by
      obtain ⟨e, he, rfl⟩ := List.mem_map.1 hname
      exact hmodes e he }

/-- For every list of options that is well formed, and every mapping whose keys are texts, a
configuration has the meaning. -/
theorem means_of_resolve : WellFormedOptions Java.options ∧
    WellFormedOptions JaxrsCxf.backend.options ∧
    ∀ options raw c, WellFormedOptions options → TextMapping raw →
      resolve options raw = .ok c → Means options raw c := by
  refine ⟨wellFormedOptions_java, wellFormedOptions_jaxrsCxf, fun options raw c hw hr hc => ?_⟩
  have hvalue {o : OptionDecl} (ho : o ∈ options) := hr.lookup_name hw.distinct hc ho
  exact {
    switches := fun o ho hk => by
      rw [hvalue ho, OptionDecl.converted, hk]
      cases o.supplied? raw <;> rfl
    texts := fun o ho hk => by
      rw [hvalue ho, OptionDecl.converted, hk]
      cases o.supplied? raw <;> rfl
    modes := fun o ho hk => hr.exists_hasMode hw hc ho hk
    aliases := fun o ho name hn => hr.lookup_alias hw.distinct hc ho hn
    others := fun name hname => by rw [← hr.known?_eq hc, known?_of_undeclared hname]
    reads := readsValues_of_known hc fun name _ => hr.known?_eq hc name
    warnings := by
      obtain ⟨-, m, -, rfl⟩ := resolve_eq_ok_iff.1 hc
      refine List.filterMap_congr fun o ho => ?_
      exact OptionDecl.warning?_eq }

/-- Raw values with a legacy name under another spelling, with a value that is passed on, and with
one under the name of a mode. -/
def legacySpelling : RawOptions :=
  [(.text "jsonMapping", .text " JSR367 "), (.text "custom", .int 5), (.text "jackson", .bool true)]

/-- The legacy name has chosen its mode, and the value under the name of the other one is gone. -/
theorem means_of_resolve_legacy : ∃ c, resolve JaxrsCxf.backend.options legacySpelling = .ok c ∧
    Means JaxrsCxf.backend.options legacySpelling c ∧
    c.values.lookup jsonMappingOption = some (.text "jsonb") ∧
    c.values.lookup "jackson" = some (.bool false) ∧
    c.values.lookup "custom" = some (.int 5) := by
  have hkeys : TextMapping legacySpelling := by
    refine ⟨?_, by decide⟩
    simp [legacySpelling, TextKeys]
  obtain ⟨c, hc⟩ :=
    (JaxrsCxf.exists_resolve_iff_of_textKeys hkeys.texts).2 (by decide +kernel)
  have hmeans := means_of_resolve.2.2 _ _ _ wellFormedOptions_jaxrsCxf hkeys hc
  obtain ⟨mode, hmode, hhas⟩ := hmeans.modes _ JaxrsCxf.jsonMappingDecl_mem rfl
  have hjsonb : JaxrsCxf.jsonMappingDecl.Chooses (some (.text " JSR367 ")) "jsonb" := by
    refine .legacy (by decide +kernel) (e := ("jsr367", "jsonb")) ?_
    exact ⟨[], [], rfl, by decide +kernel, List.forall_mem_nil _⟩
  obtain rfl : mode = "jsonb" := hmode.unique hjsonb
  refine ⟨c, hc, hmeans, hhas.option, hhas.modes ("jackson", _) (.head _), ?_⟩
  exact hmeans.others "custom" (by decide)

end ClientGen
