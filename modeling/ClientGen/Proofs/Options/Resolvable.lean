import ClientGen.Options.Raw
import ClientGen.Proofs.Json.RoundTrip
import ClientGen.Proofs.Options.Precedence
import ClientGen.Proofs.Steps
import ClientGen.Proofs.Text.Utf8

/-!
# Which options are resolved

Raw options can have any keys and values that a document has. They are resolved only if every key
is a text or spells one in bytes ([keyFaults_eq_nil_iff]), and if every value that a declared option
takes has the text that is asked for. Where the switches and the family of JSON annotations are
declared options nothing else can go wrong. Where one of them is not, what stands under its name is
passed on and taken for it: a switch needs a text then, and the family must not be a composite value
([resolvable_iff]).
-/

namespace ClientGen

open Files

/-! ## Keys -/

/-- A key is read as a text just if it spells one. -/
theorem text_toValue_cases (k : Key) :
    (∃ s, spelledKey? k = some s ∧ Document.text k.toValue = .sound s) ∨
      spelledKey? k = none ∧ ∃ fault, Document.text k.toValue = .fault fault := by
  cases k with
  | text s => exact .inl ⟨s, rfl, rfl⟩
  | bytes bs =>
    cases hs : Text.textOfBytes? bs with
    | some s =>
      refine .inl ⟨s, hs, ?_⟩
      rw [Key.toValue, Document.text, Document.withText, hs]
      rfl
    | none =>
      refine .inr ⟨hs, .undecodable, ?_⟩
      rw [Key.toValue, Document.text, Document.withText, hs]
  | _ => exact .inr ⟨rfl, _, rfl⟩

/-- Pairs are read just if every key spells a text; otherwise there is a fault. -/
theorem pairs_cases (raw : RawOptions) :
    (∀ e ∈ raw, (spelledKey? e.1).isSome = true) ∧
        (∃ read, Document.pairs Document.anything raw = .sound read) ∨
      (¬∀ e ∈ raw, (spelledKey? e.1).isSome = true) ∧
        ∃ fault faults, Document.pairs Document.anything raw = .faulty (fault :: faults) := by
  induction raw with
  | nil => exact .inl ⟨fun e he => (List.not_mem_nil he).elim, [], rfl⟩
  | cons e raw ih =>
    obtain ⟨k, v⟩ := e
    rw [List.forall_mem_cons, Document.pairs]
    rcases text_toValue_cases k with ⟨s, hs, hkey⟩ | ⟨hs, fault, hkey⟩
    · rcases ih with ⟨hall, read, hread⟩ | ⟨hnot, fault, faults, hread⟩
      · exact .inl ⟨⟨by rw [hs]; rfl, hall⟩, (s, v) :: read, by rw [hkey, hread]; rfl⟩
      · exact .inr ⟨fun h => hnot h.2, fault, faults, by rw [hkey, hread]; rfl⟩
    · refine .inr ⟨fun h => ?_, ?_⟩
      · rw [hs] at h
        cases h.1
      · rcases ih with ⟨-, read, hread⟩ | ⟨-, fault', faults, hread⟩
        · exact ⟨_, _, by rw [hkey, hread]; rfl⟩
        · exact ⟨_, _, by rw [hkey, hread]; rfl⟩

/-- There is no fault in the keys just if every key spells a text. -/
theorem keyFaults_eq_nil_iff (raw : RawOptions) :
    keyFaults raw = [] ↔ ∀ e ∈ raw, (spelledKey? e.1).isSome = true := by
  rcases pairs_cases raw with ⟨hall, read, hread⟩ | ⟨hnot, fault, faults, hread⟩
  · refine iff_of_true ?_ hall
    rw [keyFaults, Document.mapping, hread]
    rfl
  · refine iff_of_false ?_ hnot
    rw [keyFaults, Document.mapping, hread]
    exact List.cons_ne_nil _ _

/-! ## Undeclared options -/

section
variable {options : List OptionDecl} {raw : RawOptions} {values : List (String × Value)}
  {name : String}

/-- A raw value under a name that is passed on is found among those that are. -/
theorem lookup_passedOn (h : rawFate options values name = .passed) :
    ((passedOn options raw values).filterMap fun e => e.1.text?.map (·, e.2)).lookup name =
      raw.lookup (.text name) := by
  induction raw with
  | nil => rfl
  | cons e raw ih =>
    obtain ⟨k, v⟩ := e
    rw [passedOn, List.filter_cons, ← passedOn, List.lookup_cons]
    by_cases hkey : k = .text name
    · subst hkey
      rw [((Key.exact_text name _).1).2 rfl]
      simp [h, Key.text?]
    · rw [Bool.eq_false_iff.2 fun heq => hkey (((Key.exact_text name k).1).1 heq), ← ih]
      cases k with
      | text key =>
        have hname : (name == key) = false :=
          beq_eq_false_iff_ne.2 fun heq => hkey (congrArg Key.text heq.symm)
        dsimp only
        split
        · simp only [List.filterMap_cons, Key.text?, Option.map_some, List.lookup_cons, hname]
        · rfl
      | _ => rfl

/-- What the switches read under a name that is none of any option's own is the raw value there. -/
theorem known?_of_undeclared (h : ∀ o ∈ options, name ∉ o.ownNames) :
    known? options raw name = raw.lookup (.text name) := by
  have hnone : (declaredValues options raw).lookup name = none :=
    lookup_declaredValues_of_not_written
      fun o ho hname => h o ho (OptionDecl.writtenNames_subset hname)
  have hdeclared : isDeclared options name = false := by
    rw [isDeclared, List.any_eq_false]
    exact fun o ho hspelled =>
      h o ho (List.mem_append_left _ (List.contains_iff_mem.1 hspelled))
  have hpassed : rawFate options (declaredValues options raw) name = .passed := by
    rw [rawFate, hdeclared, if_neg Bool.false_ne_true,
      Assoc.contains_eq_isSome_lookup (Assoc.exact_of_lawful name), hnone]
    rfl
  rw [known?, withPassed, List.lookup_append, hnone, Option.none_or, ← lookup_passedOn hpassed]

/-- A value tells a family of JSON annotations just if it is no composite value. -/
theorem exists_jsonMappingOf_iff (v : Value) :
    (∃ m, jsonMappingOf v = .ok m) ↔ v.isComposite = false := by
  cases v <;> simp [jsonMappingOf, Value.isComposite]

/-- If the family of JSON annotations belongs to no option, then raw values are resolved just if
they can be used and what stands under its name is no composite value. -/
theorem exists_resolve_iff_of_undeclared (h : ∀ o ∈ options, jsonMappingOption ∉ o.ownNames) :
    (∃ c, resolve options raw = .ok c) ↔ Usable options raw ∧
      ∀ v, raw.lookup (.text jsonMappingOption) = some v → v.isComposite = false := by
  have hfamily : (∃ m, jsonMappingOf
      ((raw.lookup (.text jsonMappingOption)).getD (.text "jackson")) = .ok m) ↔
        ∀ v, raw.lookup (.text jsonMappingOption) = some v → v.isComposite = false := by
    rw [exists_jsonMappingOf_iff]
    cases raw.lookup (.text jsonMappingOption) with
    | none => exact iff_of_true rfl fun v hv => nomatch hv
    | some v => simp
  rw [← hfamily]
  simp only [resolve_eq_ok_iff, known?_of_undeclared h]
  constructor
  · rintro ⟨c, husable, m, hm, -⟩
    exact ⟨husable, m, hm⟩
  · rintro ⟨husable, m, hm⟩
    exact ⟨_, husable, m, hm, rfl⟩

/-- If each switch is either declared as such or belongs to no option, then raw values can be used
just if every key spells a text, every declared option can use its value, and what stands under the
name of an undeclared switch has a text or is a number. -/
theorem usable_iff_of_undeclared (hd : DistinctNames options) {undeclared : List String}
    (hswitches : ∀ name ∈ switchOptions,
      name ∈ undeclared ∨ ∃ o ∈ options, o.name = name ∧ o.kind = .boolean)
    (hundeclared : ∀ name ∈ undeclared,
      name ∈ switchOptions ∧ ∀ o ∈ options, name ∉ o.ownNames) :
    Usable options raw ↔ (∀ e ∈ raw, (spelledKey? e.1).isSome = true) ∧
      (∀ o ∈ options, ∀ v, o.supplied? raw = some v → o.valueFault? v = none) ∧
      ∀ name ∈ undeclared, ∀ v, raw.lookup (.text name) = some v → switchFault? v = none := by
  rw [← keyFaults_eq_nil_iff, ← suppliedFault?_eq_none_iff]
  constructor
  · intro h
    refine ⟨h.keys, h.texts, fun name hname => ?_⟩
    obtain ⟨hswitch, hnames⟩ := hundeclared name hname
    have hknown := h.switches name hswitch
    rwa [known?_of_undeclared hnames, Option.bind_eq_none_iff] at hknown
  · rintro ⟨hkeys, htexts, hpassed⟩
    refine ⟨htexts, fun name hname => ?_, hkeys⟩
    rcases hswitches name hname with hmem | ⟨o, ho, rfl, hkind⟩
    · rw [known?_of_undeclared (hundeclared name hmem).2, Option.bind_eq_none_iff]
      exact hpassed name hmem
    · exact switchFault?_declared hd ho hkind

end

/-! ## The backends that there are -/

/-- The switches that the base of the Java backends does not declare. -/
def javaSwitches : List String :=
  [beanValidationOption, genericResponseOption, gzipForTestsOption, loggingForTestsOption]

/-- For the base of the Java backends raw options are resolved just if every key spells a text, every
declared option can use its value, what stands under the name of another switch has a text or is a
number, and what stands under that of the family of JSON annotations is no composite value. For the
backend for CXF they are just if every key spells a text and every option can use its value. -/
theorem resolvable_iff (raw : RawOptions) :
    ((∃ c, resolve Java.options raw = .ok c) ↔
      ((∀ e ∈ raw, (spelledKey? e.1).isSome = true) ∧
        (∀ o ∈ Java.options, ∀ v, o.supplied? raw = some v → o.valueFault? v = none) ∧
        ∀ name ∈ javaSwitches, ∀ v, raw.lookup (.text name) = some v → switchFault? v = none) ∧
      ∀ v, raw.lookup (.text jsonMappingOption) = some v → v.isComposite = false) ∧
    ((∃ c, resolve JaxrsCxf.backend.options raw = .ok c) ↔
      (∀ o ∈ JaxrsCxf.backend.options, ∀ v, o.supplied? raw = some v → o.valueFault? v = none) ∧
      ∀ e ∈ raw, (spelledKey? e.1).isSome = true) := by
  constructor
  · rw [← usable_iff_of_undeclared (by decide) (by decide +kernel) (by decide +kernel)]
    exact exists_resolve_iff_of_undeclared (by decide)
  · rw [← keyFaults_eq_nil_iff, ← suppliedFault?_eq_none_iff]
    exact JaxrsCxf.exists_resolve_options_iff

/-- A list under the name of the family of JSON annotations. -/
def listedFamily : RawOptions :=
  [(.text "json-mapping-mode", .list [.text "jackson"])]

/-- A file of options with it. -/
def listedFamilyTree : FileTree :=
  FileTree.empty.putFileAt ["options.json"] (Json.write (.map listedFamily)).toUTF8

/-- Such options are accepted, but the base of the Java backends does not resolve them; neither
backend resolves a key that is a number. -/
theorem accepted_options_unresolved :
    (∀ order,
      loadOptionsFile order listedFamilyTree [] (Path.ofText "options.json") = .ok listedFamily) ∧
    (∀ c, resolve Java.options listedFamily ≠ .ok c) ∧
    (∀ c, resolve Java.options [(.int 1, .text "x")] ≠ .ok c) ∧
    ∀ c, resolve JaxrsCxf.backend.options [(.int 1, .text "x")] ≠ .ok c := by
  have hnone {options : List OptionDecl} {raw : RawOptions}
      (h : (resolve options raw).toOption.isNone = true) (c : Configuration) :
      resolve options raw ≠ .ok c := by
    intro hc
    rw [hc] at h
    cases h
  refine ⟨fun order => ?_, hnone (by decide +kernel), hnone (by decide +kernel),
    hnone (by decide +kernel)⟩
  have hplain (depth : Nat) : Json.Plain (depth + 2) (.map listedFamily) := by
    have hitems : ∀ v ∈ [Value.text "jackson"], Json.Plain depth v := by
      intro v hv
      cases List.mem_singleton.1 hv
      exact .text "jackson"
    have hfields : ∀ e ∈ [("json-mapping-mode", Value.list [.text "jackson"])],
        Json.Plain (depth + 1) e.2 := by
      intro e he
      cases List.mem_singleton.1 he
      exact .list hitems
    exact .map (by decide) hfields
  have hread : Json.read (Json.write (.map listedFamily)) = .ok (.map listedFamily) :=
    Json.read_write (hplain 988)
  have htext : fileText (Json.write (.map listedFamily)).toUTF8 =
      .ok (Json.write (.map listedFamily)) := by
    rw [fileText, Text.decode_eq_ok_iff.2 rfl]
    rfl
  have hfound : listedFamilyTree.findFile [] (Path.ofText "options.json") =
      .ok (some (Json.write (.map listedFamily)).toUTF8) := by rfl
  have hjson : isJsonPath (Path.ofText "options.json") = true := by decide +kernel
  simp only [loadOptionsFile, hfound, htext, parseOptionsText, hjson, hread, mapError_ok, bind,
    Except.bind, if_true]
  rfl

end ClientGen
