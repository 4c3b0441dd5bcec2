import ClientGen.Proofs.Options.Meaning

/-!
# Options that are resolved again

The values of a configuration can be taken for raw values. For options whose modes are told apart
and spelled as they are read ([SettledOptions]) they are resolved to the same configuration, without
warnings ([resolve_asRaw]). What carries this is that the value that an option has becomes itself
([OptionDecl.converted_settled]), so that the same values are declared, the same ones are passed on,
and the switches of the modes are not taken for raw values.
-/

namespace ClientGen

open JaxrsCxf (TextKeys keyFaults_eq_nil)

/-! ## Settled options -/

/-- Whether a value is a text or absent. -/
def Value.isTextOrNull : Value → Bool
  | .text _ => true
  | .null => true
  | _ => false

namespace OptionDecl

/-- Whether the value that an option has can be read as what it was made of. -/
structure Settled (o : OptionDecl) : Prop where
  /-- A mode has no blanks around it. -/
  trimmed : o.kind = .modes → ∀ e ∈ o.choices, Text.trim e.1 = e.1
  /-- No two modes are one word. -/
  apart : o.kind = .modes → (o.choices.map fun e => Text.lower e.1).Nodup
  /-- A text has a text for its default, or none. -/
  text : o.kind = .text → o.default.isTextOrNull = true

/-- All of it can be looked up in the declaration. -/
theorem settled_iff {o : OptionDecl} : o.Settled ↔
    (o.kind = .modes → ∀ e ∈ o.choices, Text.trim e.1 = e.1) ∧
      (o.kind = .modes → (o.choices.map fun e => Text.lower e.1).Nodup) ∧
      (o.kind = .text → o.default.isTextOrNull = true) := by
  constructor
  · intro h
    exact ⟨h.trimmed, h.apart, h.text⟩
  · rintro ⟨trimmed, apart, text⟩
    exact ⟨trimmed, apart, text⟩

instance (o : OptionDecl) : Decidable o.Settled := decidable_of_iff' _ settled_iff

variable {o : OptionDecl}

/-- A mode is found under its own name. -/
theorem Settled.mode?_self (hs : o.Settled) (hk : o.kind = .modes) {mode : String}
    (h : mode ∈ o.choices.map (·.1)) : o.mode? (wordOf (.text mode)) = some mode := by
  obtain ⟨e, he, rfl⟩ := List.mem_map.1 h
  have hword : wordOf (.text e.1) = e.1 := hs.trimmed hk e he
  have hfirst : FirstWith (fun e' => SameWord e.1 e'.1) o.choices e := by
    obtain ⟨before, after, hsplit⟩ := List.append_of_mem he
    refine ⟨before, after, hsplit, rfl, fun e' he' hsame => ?_⟩
    have hapart := hs.apart hk
    rw [hsplit, List.map_append, List.map_cons] at hapart
    exact List.disjoint_of_nodup_append hapart (List.mem_map_of_mem he')
      (hsame ▸ List.mem_cons_self)
  rw [hword]
  exact mode?_eq_some_iff.2 (.inl ⟨e, hfirst, rfl⟩)

/-- What an option reads of a value that it has: an absent one is as if there were none. -/
def reread? (v : Value) : Option Value := (some v).filter (!·.isNull)

/-- A value that is a mode is found again. -/
theorem Settled.chosen_self (hs : o.Settled) (hk : o.kind = .modes) {mode : String}
    (h : mode ∈ o.choices.map (·.1)) : o.chosen (reread? (.text mode)) = (.text mode, none) := by
  have hword : Text.trim (Value.text mode).asText = wordOf (.text mode) := rfl
  have hreread : reread? (.text mode) = some (.text mode) := rfl
  simp only [hreread, chosen, hword, hs.mode?_self hk h]

/-- The value that an option has becomes itself. -/
theorem Settled.converted_self (hs : o.Settled) (hd : o.Accepts o.default)
    (ht : o.kind = .modes → ∀ e ∈ o.legacyModes, e.2 ∈ o.choices.map (·.1))
    (supplied : Option Value) :
    o.converted (reread? (o.converted supplied)) = o.converted supplied := by
  unfold converted
  cases hk : o.kind with
  | boolean => rfl
  | text =>
    cases supplied with
    | some v => rfl
    | none =>
      have hdefault := hs.text hk
      cases hvalue : o.default with
      | null => rfl
      | text s => rfl
      | _ =>
        rw [hvalue] at hdefault
        cases hdefault
  | modes =>
    obtain ⟨mode, hmode, hdeclared⟩ := exists_chosen hk hd (ht hk) supplied
    dsimp only
    rw [hmode, hs.chosen_self hk hdeclared]

/-- The value that an option has can be used, since it is a truth value, a text or absent. -/
theorem Settled.valueFault?_self (hs : o.Settled) (hd : o.Accepts o.default)
    (ht : o.kind = .modes → ∀ e ∈ o.legacyModes, e.2 ∈ o.choices.map (·.1))
    (supplied : Option Value) : (reread? (o.converted supplied)).bind o.valueFault? = none := by
  cases hk : o.kind with
  | boolean =>
    rw [converted, hk]
    dsimp only
    change o.valueFault? (.bool _) = none
    rw [valueFault?, hk]
    rfl
  | text =>
    have htext (s : String) : o.valueFault? (.text s) = none := by
      rw [valueFault?, hk]
      rfl
    rw [converted, hk]
    cases supplied with
    | some v => exact htext v.asText
    | none =>
      have hdefault := hs.text hk
      cases hvalue : o.default with
      | null => rfl
      | text s => exact htext s
      | _ =>
        rw [hvalue] at hdefault
        cases hdefault
  | modes =>
    obtain ⟨mode, hmode, hdeclared⟩ := exists_chosen hk hd (ht hk) supplied
    have hself : o.mode? (Text.trim (Value.text mode).asText) = some mode :=
      hs.mode?_self hk hdeclared
    rw [converted, hk]
    dsimp only
    rw [hmode]
    change o.valueFault? (.text mode) = none
    rw [valueFault?, hk]
    dsimp only
    rw [hself]
    rfl

end OptionDecl

/-- What a list of options should be for its configurations to be raw values of their own. -/
structure SettledOptions (options : List OptionDecl) : Prop extends WellFormedOptions options where
  settled : ∀ o ∈ options, o.Settled

/-- The base of the Java backends has such options. -/
theorem settledOptions_java : SettledOptions Java.options :=
  ⟨wellFormedOptions_java, by decide +kernel⟩

/-- So has the backend for CXF. -/
theorem settledOptions_jaxrsCxf : SettledOptions JaxrsCxf.backend.options :=
  ⟨wellFormedOptions_jaxrsCxf, by decide +kernel⟩

/-! ## Values as raw values -/

variable {options : List OptionDecl} {raw : RawOptions} {c : Configuration}

/-- The keys of values are texts. -/
theorem textKeys_asRaw (c : Configuration) : TextKeys c.asRaw := by
  intro e he
  obtain ⟨⟨name, v⟩, -, rfl⟩ := List.mem_map.1 he
  exact ⟨name, rfl⟩

/-- What is found among the raw values is found among the values. -/
theorem lookup_asRaw (c : Configuration) (name : String) :
    c.asRaw.lookup (.text name) = c.values.lookup name := by
  rw [Configuration.asRaw]
  induction c.values with
  | nil => rfl
  | cons e rest ih =>
    have hkey : ((Key.text name) == Key.text e.1) = (name == e.1) := by
      rw [Bool.eq_iff_iff, (Key.exact_text name _).1, beq_iff_eq, Key.text.injEq, eq_comm]
    rw [List.map_cons, List.lookup_cons, List.lookup_cons, hkey, ih]

/-- An option is supplied with its own value. -/
theorem supplied?_asRaw (hs : SettledOptions options) (hr : TextMapping raw)
    (hc : resolve options raw = .ok c) {o : OptionDecl} (ho : o ∈ options) :
    o.supplied? c.asRaw = OptionDecl.reread? (o.converted (o.supplied? raw)) := by
  have haliases : o.aliases.findSome? (OptionDecl.given? c.asRaw) = none := by
    refine List.findSome?_eq_none_iff.2 fun name hn => ?_
    rw [OptionDecl.given?, lookup_asRaw, hr.lookup_alias hs.distinct hc ho hn, Option.filter_none]
  rw [OptionDecl.supplied?, OptionDecl.spellings, List.findSome?_cons, haliases,
    OptionDecl.given?, lookup_asRaw, hr.lookup_name hs.distinct hc ho, ← OptionDecl.reread?]
  cases OptionDecl.reread? (o.converted (o.supplied? raw)) <;> rfl

/-- So the same values are declared. -/
theorem declaredValues_asRaw (hs : SettledOptions options) (hr : TextMapping raw)
    (hc : resolve options raw = .ok c) :
    declaredValues options c.asRaw = declaredValues options raw := by
  refine List.foldl_ext _ _ _ fun values o ho => OptionDecl.record_congr ?_
  rw [supplied?_asRaw hs hr hc ho]
  exact (hs.settled o ho).converted_self (hs.defaults o ho) (hs.targets o ho) _

/-- No option warns about its own value. -/
theorem optionWarnings_asRaw (hs : SettledOptions options) (hr : TextMapping raw)
    (hc : resolve options raw = .ok c) : optionWarnings options c.asRaw = [] := by
  refine List.filterMap_eq_nil_iff.2 fun o ho => ?_
  unfold OptionDecl.warning?
  cases hk : o.kind with
  | boolean => rfl
  | text => rfl
  | modes =>
    obtain ⟨mode, hmode, hdeclared⟩ :=
      OptionDecl.exists_chosen hk (hs.defaults o ho) (hs.targets o ho hk) (o.supplied? raw)
    have hconverted : o.converted (o.supplied? raw) = .text mode := by
      rw [OptionDecl.converted, hk]
      exact hmode
    dsimp only
    rw [supplied?_asRaw hs hr hc ho, hconverted, (hs.settled o ho).chosen_self hk hdeclared]

/-- Every option can use its own value. -/
theorem suppliedFault?_asRaw (hs : SettledOptions options) (hr : TextMapping raw)
    (hc : resolve options raw = .ok c) : suppliedFault? options c.asRaw = none := by
  refine List.findSome?_eq_none_iff.2 fun o ho => ?_
  rw [OptionDecl.textFault?, supplied?_asRaw hs hr hc ho]
  exact (hs.settled o ho).valueFault?_self (hs.defaults o ho) (hs.targets o ho) _

/-- The values are those that are declared, and those that are passed on. -/
theorem asRaw_eq (hr : TextMapping raw) (hc : resolve options raw = .ok c) :
    c.asRaw = (declaredValues options raw).map (fun e => (.text e.1, e.2)) ++
      passedOn options raw (declaredValues options raw) := by
  rw [Configuration.asRaw, resolve_values hc, hr.keptValues_eq, withPassed, List.map_append,
    List.map_filterMap]
  congr 1
  refine (List.filterMap_congr fun e he => ?_).trans List.filterMap_some
  obtain ⟨name, hname⟩ := hr.texts e (List.mem_filter.1 he).1
  obtain ⟨k, v⟩ := e
  cases hname
  rfl

/-- And the same ones are passed on. -/
theorem passedOn_asRaw (hr : TextMapping raw) (hc : resolve options raw = .ok c) :
    passedOn options c.asRaw (declaredValues options raw) =
      passedOn options raw (declaredValues options raw) := by
  have hdeclared : passedOn options
      ((declaredValues options raw).map fun e => (.text e.1, e.2))
      (declaredValues options raw) = [] := by
    refine List.filter_eq_nil_iff.2 fun e he => ?_
    obtain ⟨e', he', rfl⟩ := List.mem_map.1 he
    have hcontains : Assoc.contains (declaredValues options raw) e'.1 = true :=
      List.any_eq_true.2 ⟨e', he', beq_self_eq_true _⟩
    simpa using rawFate_of_contains hcontains
  have hpassed : passedOn options (passedOn options raw (declaredValues options raw))
      (declaredValues options raw) = passedOn options raw (declaredValues options raw) :=
    List.filter_eq_self.2 fun e he => (List.mem_filter.1 he).2
  calc passedOn options c.asRaw (declaredValues options raw)
    _ = passedOn options ((declaredValues options raw).map fun e => (.text e.1, e.2))
          (declaredValues options raw) ++
        passedOn options (passedOn options raw (declaredValues options raw))
          (declaredValues options raw) := by
      rw [asRaw_eq hr hc]
      exact List.filter_append _ _
    _ = passedOn options raw (declaredValues options raw) := by
      rw [hdeclared, hpassed, List.nil_append]

/-- The values of a configuration are resolved to the same configuration, without warnings. -/
theorem resolve_asRaw : SettledOptions Java.options ∧
    SettledOptions JaxrsCxf.backend.options ∧
    ∀ options raw c, SettledOptions options → TextMapping raw → resolve options raw = .ok c →
      resolve options c.asRaw = .ok { c with warnings := [] } := by
  refine ⟨settledOptions_java, settledOptions_jaxrsCxf, fun options raw c hs hr hc => ?_⟩
  have hdeclared := declaredValues_asRaw hs hr hc
  have hpassed := passedOn_asRaw hr hc
  have hknown (name : String) : known? options c.asRaw name = known? options raw name := by
    simp only [known?, hdeclared, hpassed]
  obtain ⟨husable, m, hm, hconfiguration⟩ := resolve_eq_ok_iff.1 hc
  have husableAgain : Usable options c.asRaw := {
    texts := suppliedFault?_asRaw hs hr hc
    switches := fun name hn => by rw [hknown, husable.switches name hn]
    keys := keyFaults_eq_nil (textKeys_asRaw c) }
  refine resolve_eq_ok_iff.2 ⟨husableAgain, m, ?_, ?_⟩
  · rw [hknown, hm]
  · simp only [configurationWith, hknown, hdeclared, hpassed, optionWarnings_asRaw hs hr hc]
    rw [hconfiguration]
    rfl

/-- Raw values with a word that names no mode, and with a value that is passed on. -/
def misspelledMode : RawOptions :=
  [(.text "jsonMapping", .text "gson"), (.text "custom", .int 5)]

/-- The warning about the word is not given again. -/
theorem resolve_asRaw_misspelled : ∃ c,
    resolve JaxrsCxf.backend.options misspelledMode = .ok c ∧ c.warnings ≠ [] ∧
      resolve JaxrsCxf.backend.options c.asRaw = .ok { c with warnings := [] } := by
  have hkeys : TextMapping misspelledMode := by
    refine ⟨?_, by decide⟩
    simp [misspelledMode, TextKeys]
  obtain ⟨c, hc⟩ :=
    (JaxrsCxf.exists_resolve_iff_of_textKeys hkeys.texts).2 (by decide +kernel)
  refine ⟨c, hc, ?_, resolve_asRaw.2.2 _ _ _ settledOptions_jaxrsCxf hkeys hc⟩
  have hwarned : optionWarnings JaxrsCxf.backend.options misspelledMode ≠ [] := by decide +kernel
  obtain ⟨-, m, -, rfl⟩ := resolve_eq_ok_iff.1 hc
  exact hwarned

end ClientGen
