import ClientGen.Proofs.Generation.Files
import ClientGen.Render.Context

/-!
# The family of JSON annotations

The option for the family of JSON annotations has two modes, whatever default it is given
([modeDecl], [exists_options_of_compose]). What is supplied for it names one of them or leaves the
default ([modeFor]), and this family is what everything that depends on it sees ([SeenAs]): the
value of the option, the switches of the modes and of the legacy name, the switches for models and
for tests, and what every template knows. Raw values under the names of the modes themselves are
never looked at. All this is so if every option can use its value ([exists_unique_mode]): an integer
that is too long for a text names no mode, but it is not told of by a warning either
([long_mode_unresolved]).
-/

namespace ClientGen

open Render

/-! ## Templates -/

/-- Whether a template sees a family switched on. -/
def Render.Subject.sees (s : Subject) (m : JsonMapping) : Bool := s.jsonMapping == m

namespace JaxrsCxf

/-! ## The option with any default -/

/-- The option with a default of its own. -/
def modeDecl (default : JsonMapping) : OptionDecl :=
  { jsonMappingDecl with default := .text default.name }

/-- The options of the backend, in which the family of JSON annotations has another default. -/
def optionsWith (default : JsonMapping) : List OptionDecl :=
  backend.options.map fun o => if o.name == jsonMappingOption then modeDecl default else o

variable {d : JsonMapping}

/-- The names of the modes and their legacy name. -/
def modeWords : List String := ["jackson", "jsonb", "jsr367"]

/-- They are the same with any default. -/
theorem modeNames_modeDecl : (modeDecl d).modeNames = modeWords := rfl

/-- The options share no name. -/
theorem distinctNames_optionsWith : DistinctNames (optionsWith d) := by
  cases d <;> decide

/-- The option is one of them. -/
theorem modeDecl_mem : modeDecl d ∈ optionsWith d := by
  refine List.mem_map.2 ⟨jsonMappingDecl, jsonMappingDecl_mem, ?_⟩
  rfl

/-- The family that is a declared mode by its name. -/
theorem exists_of_declares {mode : Value} (h : OptionDecl.declares jsonMappingDecl.choices mode) :
    ∃ m : JsonMapping, mode = .text m.name := by
  cases mode with
  | text s =>
    simp only [OptionDecl.declares, jsonMappingDecl, List.any_cons, List.any_nil, Bool.or_false,
      Bool.or_eq_true, beq_iff_eq] at h
    rcases h with rfl | rfl
    · exact ⟨.jackson, rfl⟩
    · exact ⟨.jsonb, rfl⟩
  | _ => cases h

/-- Another default leaves the other options and the modes. -/
theorem exists_options_of_setOptionDefault {b b' : Backend} (hb : b.options = optionsWith d)
    {default : Value} (h : b.setOptionDefault jsonMappingOption default = .ok b') :
    ∃ d', b'.options = optionsWith d' := by
  have hfound : b.option? jsonMappingOption = some (modeDecl d) := by
    rw [Backend.option?, hb]
    cases d <;> rfl
  unfold Backend.setOptionDefault at h
  rw [hfound] at h
  dsimp only at h
  split at h
  · cases h
  · split at h
    · split at h <;> cases h
    · next hdeclared =>
      have hmode : OptionDecl.declares jsonMappingDecl.choices default := by
        simpa [modeDecl, jsonMappingDecl] using hdeclared
      obtain ⟨d', rfl⟩ := exists_of_declares hmode
      cases h
      refine ⟨d', ?_⟩
      rw [hb]
      cases d <;> cases d' <;> rfl

/-- So do any number of them, one after the other. -/
theorem exists_options_of_foldlM {defaults : List Value} {base b : Backend}
    (hbase : base.options = optionsWith d)
    (h : (defaults.map (.setOptionDefault jsonMappingOption)).foldlM Override.apply base = .ok b) :
    ∃ d', b.options = optionsWith d' := by
  -- What one step needs of the options is that they are the same but for a default, and that is
  -- what it leaves.
  induction defaults generalizing base d with
  | nil =>
    cases h
    exact ⟨d, hbase⟩
  | cons default rest ih =>
    rw [List.map_cons, List.foldlM_cons] at h
    obtain ⟨next, hnext, hrest⟩ := bind_eq_ok_iff.1 h
    obtain ⟨d', hd'⟩ := exists_options_of_setOptionDefault hbase hnext
    exact ih hd' hrest

/-- The options of the backend after any change of the default. -/
theorem exists_options_of_compose {defaults : List Value} {b : Backend}
    (h : compose backend (defaults.map (.setOptionDefault jsonMappingOption)) = .ok b) :
    ∃ d, b.options = optionsWith d := by
  obtain ⟨-, -, happly⟩ := bind_eq_ok_iff.1 h
  have hbase : backend.options = optionsWith .jackson := by rfl
  exact exists_options_of_foldlM hbase happly

/-! ## What is supplied for the option -/

/-- The family that a word names, in any case. -/
def modeNamed? (word : String) : Option JsonMapping :=
  if Text.lower word = "jackson" then some .jackson
  else if Text.lower word = "jsonb" ∨ Text.lower word = "jsr367" then some .jsonb
  else none

/-- The family that is chosen by what is supplied for the option. -/
def modeFor (d : JsonMapping) (supplied : Option Value) : JsonMapping :=
  (supplied.bind fun v => modeNamed? (Text.trim v.asText)).getD d

/-- The modes of the option and its legacy name are what words name. -/
theorem mode?_modeDecl (word : String) :
    (modeDecl d).mode? word = (modeNamed? word).map JsonMapping.name := by
  have hjackson : Text.lower "jackson" = "jackson" := by decide +kernel
  have hjsonb : Text.lower "jsonb" = "jsonb" := by decide +kernel
  have hlegacy : Text.lower "jsr367" = "jsr367" := by decide +kernel
  simp only [OptionDecl.mode?, modeDecl, jsonMappingDecl, JsonMapping.name, List.find?_cons,
    List.find?_nil, hjackson, hjsonb, hlegacy, modeNamed?]
  generalize Text.lower word = w
  by_cases h₁ : w = "jackson"
  · subst h₁
    rfl
  · by_cases h₂ : w = "jsonb"
    · subst h₂
      rfl
    · by_cases h₃ : w = "jsr367"
      · subst h₃
        rfl
      · rw [if_neg h₁, if_neg (not_or.2 ⟨h₂, h₃⟩), beq_eq_false_iff_ne.2 (Ne.symm h₁),
          beq_eq_false_iff_ne.2 (Ne.symm h₂), beq_eq_false_iff_ne.2 (Ne.symm h₃)]
        rfl

/-- What becomes of what is supplied is the chosen family. -/
theorem converted_modeDecl (supplied : Option Value) :
    (modeDecl d).converted supplied = .text (modeFor d supplied).name := by
  have hchosen : (modeDecl d).converted supplied = ((modeDecl d).chosen supplied).1 := rfl
  rw [hchosen, modeFor]
  cases supplied with
  | none => rfl
  | some v =>
    simp only [OptionDecl.chosen, mode?_modeDecl, Option.bind_some]
    cases modeNamed? (Text.trim v.asText) <;> rfl

/-- There is a warning just if something is supplied that names no family. -/
theorem isSome_chosen_modeDecl {supplied : Option Value} :
    ((modeDecl d).chosen supplied).2.isSome ↔
      ∃ v, supplied = some v ∧ modeNamed? (Text.trim v.asText) = none := by
  cases supplied with
  | none => simp [OptionDecl.chosen]
  | some v =>
    simp only [OptionDecl.chosen, mode?_modeDecl, Option.some.injEq, exists_eq_left']
    cases modeNamed? (Text.trim v.asText) <;> simp

/-- A word names no family just if it is none of the three. -/
theorem modeNamed?_eq_none_iff {word : String} :
    modeNamed? word = none ↔ Text.lower word ∉ modeWords := by
  simp only [modeWords, modeNamed?, List.mem_cons, List.not_mem_nil, or_false, not_or]
  split
  · next h => simp [h]
  · split
    · next h => rcases h with h | h <;> simp [h]
    · next h₁ h₂ => exact iff_of_true rfl ⟨h₁, not_or.1 h₂⟩

/-- What raw values give for the option, under its own name or else under its other one. -/
def modeValue? (raw : RawOptions) : Option Value :=
  (OptionDecl.given? raw jsonMappingOption).or (OptionDecl.given? raw "jsonMapping")

/-- It is what is supplied for the option, whatever its default is. -/
theorem supplied?_modeDecl (raw : RawOptions) : (modeDecl d).supplied? raw = modeValue? raw := by
  have hspellings : (modeDecl d).spellings = [jsonMappingOption, "jsonMapping"] := rfl
  rw [OptionDecl.supplied?, hspellings, modeValue?]
  simp only [List.findSome?_cons, List.findSome?_nil]
  cases OptionDecl.given? raw jsonMappingOption with
  | some v => rfl
  | none => cases OptionDecl.given? raw "jsonMapping" <;> rfl

/-! ## One family for all -/

/-- A family is what everything in a run sees that depends on it. -/
structure SeenAs (c : Configuration) (m : JsonMapping) : Prop where
  /-- It is the value of the option. -/
  option : c.values.lookup jsonMappingOption = some (.text m.name)
  /-- The switch of a mode is on just if it is the mode. -/
  switches : ∀ k : JsonMapping, c.values.lookup k.name = some (.bool (m == k))
  /-- The legacy name has the switch of the mode that it stands for. -/
  legacy : c.values.lookup "jsr367" = c.values.lookup JsonMapping.jsonb.name
  mapping : c.jsonMapping = m
  modelFeatures : c.modelFeatures.jsonMapping = m
  scaffoldFeatures : c.scaffoldFeatures.jsonMapping = m
  /-- The template of a model sees the switches of the modes. -/
  model : ∀ s table classes x k,
    c.values.lookup k.name = some (.bool ((modelSubject c s table classes x).sees k))
  /-- So do those of a group. -/
  group : ∀ s table classes g k,
    c.values.lookup k.name = some (.bool ((groupSubject c s table classes g).sees k))
  /-- And those of the whole run. -/
  run : ∀ groups models k,
    c.values.lookup k.name = some (.bool ((runSubject c groups models).sees k))

variable {raw : RawOptions} {c : Configuration}

/-- The chosen family is what is seen. -/
theorem seenAs_modeFor (h : TextKeys raw) (hc : resolve (optionsWith d) raw = .ok c) :
    SeenAs c (modeFor d (modeValue? raw)) := by
  have hvalue : (modeDecl d).converted ((modeDecl d).supplied? raw) =
      .text (modeFor d (modeValue? raw)).name := by
    rw [supplied?_modeDecl, converted_modeDecl]
  -- From here on it does not matter how the family was chosen.
  generalize modeFor d (modeValue? raw) = m at hvalue ⊢
  have hswitch {name : String} (hn : name ∈ modeWords) :
      c.values.lookup name = (modeDecl d).switch? (.text m.name) name := by
    rw [← modeNames_modeDecl (d := d)] at hn
    rw [lookup_resolve_mode distinctNames_optionsWith modeDecl_mem rfl hc hn,
      byteValue?_eq_none h, Option.none_or, hvalue]
  have hswitches (k : JsonMapping) : c.values.lookup k.name = some (.bool (m == k)) := by
    rw [hswitch (by cases k <;> decide)]
    cases m <;> cases k <;> rfl
  have hmapping : c.jsonMapping = m := by
    obtain ⟨-, m', hm', rfl⟩ := resolve_eq_ok_iff.1 hc
    have hknown : known? (optionsWith d) raw jsonMappingOption = some (.text m.name) := by
      rw [← hvalue]
      exact known?_name distinctNames_optionsWith modeDecl_mem raw
    rw [hknown] at hm'
    cases m <;> exact (Except.ok.inj hm').symm
  exact {
    option := by
      have hoption := lookup_resolve distinctNames_optionsWith modeDecl_mem hc
      rwa [byteValue?_eq_none h, Option.getD_none, hvalue] at hoption
    switches := hswitches
    legacy := by
      rw [hswitches, hswitch (by decide)]
      cases m <;> rfl
    mapping := hmapping
    modelFeatures := hmapping
    scaffoldFeatures := hmapping
    model := fun _ _ _ _ k => by rw [hswitches, ← hmapping]; rfl
    group := fun _ _ _ _ k => by rw [hswitches, ← hmapping]; rfl
    run := fun _ _ k => by rw [hswitches, ← hmapping]; rfl }

/-- And nothing else is. -/
theorem seenAs_iff (h : TextKeys raw) (hc : resolve (optionsWith d) raw = .ok c)
    {m : JsonMapping} : SeenAs c m ↔ m = modeFor d (modeValue? raw) := by
  have hchosen := seenAs_modeFor h hc
  refine ⟨fun hm => hm.mapping.symm.trans hchosen.mapping, ?_⟩
  rintro rfl
  exact hchosen

/-- The only warning is the one about what is given for the option. -/
theorem warnings_of_resolve (hc : resolve (optionsWith d) raw = .ok c) :
    c.warnings = ((modeDecl d).chosen (modeValue? raw)).2.toList := by
  obtain ⟨-, m, -, rfl⟩ := resolve_eq_ok_iff.1 hc
  have hwarnings : optionWarnings (optionsWith d) raw = ((modeDecl d).warning? raw).toList := by
    cases d <;> rfl
  rw [← supplied?_modeDecl (d := d)]
  exact hwarnings

/-- Whether raw values are the same beside some names. -/
def SameBeside (names : List String) (raw raw' : RawOptions) : Prop :=
  ∀ name, name ∉ names → raw'.lookup (.text name) = raw.lookup (.text name)

/-- The names of the modes do not matter to what is given for the option. -/
theorem modeValue?_congr {raw' : RawOptions} (h : SameBeside modeWords raw raw') :
    modeValue? raw' = modeValue? raw := by
  rw [modeValue?, OptionDecl.given?, OptionDecl.given?, h _ (by decide), h _ (by decide)]
  rfl

/-- They do not matter to what is supplied for any option. -/
theorem suppliedFault?_congr {raw' : RawOptions} (h : SameBeside modeWords raw raw') :
    suppliedFault? (optionsWith d) raw' = suppliedFault? (optionsWith d) raw := by
  have hother : ∀ o ∈ optionsWith d, ∀ name ∈ o.spellings, name ∉ modeWords := by
    cases d <;> decide +kernel
  refine findSome?_congr fun o ho => ?_
  have hsupplied : o.supplied? raw' = o.supplied? raw :=
    findSome?_congr fun name hname => by
      rw [OptionDecl.given?, OptionDecl.given?, h name (hother o ho name hname)]
  rw [OptionDecl.textFault?, OptionDecl.textFault?, hsupplied]

/-- Whatever default the option is given, and for all raw values whose keys are texts: these are
resolved just if every option can use its value. Then there is one family, and only one, that
everything sees, and a warning is recorded just if what is given for the option names neither of the
modes. Other raw values under the names of the modes change none of this. -/
theorem exists_unique_mode {defaults : List Value} {b : Backend}
    (hb : compose backend (defaults.map (.setOptionDefault jsonMappingOption)) = .ok b)
    (h : TextKeys raw) :
    ((∃ c, resolve b.options raw = .ok c) ↔
      ∀ o ∈ b.options, ∀ v, o.supplied? raw = some v → o.valueFault? v = none) ∧
    ∀ c, resolve b.options raw = .ok c →
      (∃! m, SeenAs c m) ∧
      (c.warnings ≠ [] ↔ ∃ v, modeValue? raw = some v ∧
        Text.lower (Text.trim v.asText) ∉ modeWords) ∧
      ∀ raw', TextKeys raw' → SameBeside modeWords raw raw' →
        ∃ c', resolve b.options raw' = .ok c' ∧ (∀ m, SeenAs c' m ↔ SeenAs c m) ∧
          c'.warnings = c.warnings := by
  obtain ⟨d, hd⟩ := exists_options_of_compose hb
  rw [hd]
  have hresolved {raw : RawOptions} (h : TextKeys raw) :
      (∃ c, resolve (optionsWith d) raw = .ok c) ↔ suppliedFault? (optionsWith d) raw = none := by
    have hswitches : ∀ name ∈ switchOptions,
        ∃ o ∈ optionsWith d, o.name = name ∧ o.kind = .boolean := by
      cases d <;> decide +kernel
    rw [exists_resolve_iff distinctNames_optionsWith modeDecl_mem rfl rfl (by cases d <;> rfl),
      usable_iff distinctNames_optionsWith hswitches, and_iff_left (keyFaults_eq_nil h)]
  refine ⟨(hresolved h).trans suppliedFault?_eq_none_iff, fun c hc => ⟨?_, ?_, ?_⟩⟩
  · exact ⟨_, seenAs_modeFor h hc, fun m hm => (seenAs_iff h hc).1 hm⟩
  · rw [warnings_of_resolve hc, ne_eq, Option.toList_eq_nil_iff, ← ne_eq,
      Option.ne_none_iff_isSome, isSome_chosen_modeDecl]
    simp only [modeNamed?_eq_none_iff]
  · intro raw' h' hsame
    obtain ⟨c', hc'⟩ := (hresolved h').2
      ((suppliedFault?_congr hsame).trans ((hresolved h).1 ⟨c, hc⟩))
    have hvalue := modeValue?_congr hsame
    refine ⟨c', hc', fun m => ?_, ?_⟩
    · rw [seenAs_iff h' hc', seenAs_iff h hc, hvalue]
    · rw [warnings_of_resolve hc', warnings_of_resolve hc, hvalue]

/-- With the other default, a word that names no mode and a switch that is set by itself: the
default is what is seen, and there is a warning. -/
theorem exists_unique_mode_misspelled : ∃ b c,
    compose backend [.setOptionDefault jsonMappingOption (.text "jsonb")] = .ok b ∧
      resolve b.options [(.text "jackson", .bool true), (.text "jsonMapping", .text "gson")] =
        .ok c ∧ (∃! m, SeenAs c m) ∧ c.warnings ≠ [] := by
  have hb : compose backend ([.text "jsonb"].map (.setOptionDefault jsonMappingOption)) =
      .ok { backend with options := optionsWith .jsonb } := by rfl
  have hkeys : TextKeys [(.text "jackson", .bool true), (.text "jsonMapping", .text "gson")] := by
    simp [TextKeys]
  obtain ⟨hexists, hall⟩ := exists_unique_mode hb hkeys
  obtain ⟨c, hc⟩ := hexists.2 (suppliedFault?_eq_none_iff.1 (by decide +kernel))
  obtain ⟨hunique, hwarnings, -⟩ := hall c hc
  exact ⟨_, c, hb, hc, hunique, hwarnings.2 ⟨.text "gson", rfl, by decide +kernel⟩⟩

/-- An integer with too many digits for a text. -/
def longInteger : Value := .int (Double.twoTo 14400)

/-- It names no mode, but it is not taken for the default: the options are not resolved. -/
theorem long_mode_unresolved :
    TextKeys [(.text jsonMappingOption, longInteger)] ∧
      ∀ c, resolve backend.options [(.text jsonMappingOption, longInteger)] ≠ .ok c := by
  refine ⟨fun e he => ⟨_, congrArg Prod.fst (List.mem_singleton.1 he)⟩, fun c hc => ?_⟩
  have htexts := (resolve_eq_ok_iff.1 hc).1.texts
  have hfault : (suppliedFault? backend.options
      [(.text jsonMappingOption, longInteger)]).isSome = true := by
    decide +kernel
  rw [htexts] at hfault
  cases hfault

end JaxrsCxf

end ClientGen
