import ClientGen.Backend.Java
import ClientGen.Client.Preparation
import ClientGen.Proofs.Names.Variables
import ClientGen.Render.ModelClass

/-!
# Names made of other names

Some names are not made as those of classes and fields are: the interface of a group, the
enumeration of a property and the arguments for one value of a container and for an attachment are
named by camel case or by the name of a field without the underscore in front, with a word behind
it. They are spelled as identifiers wherever the name of a field is, but nothing is put in front of
a digit ([derivedNames_iff]): so they are none if the text that they are made from has a digit
before any plain letter ([digitFirst], [derivedNames_fail]).
-/

namespace ClientGen

open Text Client

/-- Whether the first plain letter or digit of a text is a digit. -/
def digitFirst (s : String) : Bool := (firstPlain? s).any Char.isDigit

/-! ## No underscore at the start -/

namespace Text

theorem ofNat_ne_underscore {n : Nat} (h : n ≠ 95) : Char.ofNat n ≠ '_' := by
  by_cases hvalid : n.isValidChar
  · rw [Char.ofNat, dif_pos hvalid]
    exact mt (congrArg Char.toNat) h
  · rw [Char.ofNat, dif_neg hvalid]
    decide

/-- What a shift leads to is beyond the underscore. -/
theorem find?_toLowerTable_ne_underscore {c d : Char} (h : Shift.find? toLowerTable c = some d) :
    d ≠ '_' := by
  have htable : ∀ s ∈ toLowerTable, 96 ≤ (s.first : Int) + s.distance := by decide +kernel
  obtain ⟨s, hs, rfl⟩ := Option.map_eq_some_iff.1 h
  have hfirst : s.first ≤ c.toNat := by
    have hholds := List.find?_some hs
    simp only [Span.holds, Bool.and_eq_true, decide_eq_true_eq] at hholds
    exact hholds.1.1
  have hbeyond := htable s (List.mem_of_find?_eq_some hs)
  exact ofNat_ne_underscore (by omega)

/-- No other character has an underscore in its lower-case form. -/
theorem underscore_not_mem_lowerForm {c : Char} (hc : c ≠ '_') : '_' ∉ lowerForm c := by
  unfold lowerForm
  split
  · next hascii =>
    exact forall_ascii (P := fun c => c ≠ '_' → '_' ∉ [c.toLower]) (by decide +kernel) hascii hc
  · split
    · decide
    · rw [List.mem_singleton]
      cases h : Shift.find? toLowerTable c with
      | none => exact Ne.symm hc
      | some d => exact Ne.symm (find?_toLowerTable_ne_underscore h)

theorem underscore_not_mem_lower {s : String} (h : '_' ∉ s.toList) : '_' ∉ (lower s).toList := by
  have hchars (cs : List Char) (hcs : '_' ∉ cs) : ∀ inWord, '_' ∉ lowerChars inWord cs := by
    induction cs with
    | nil => exact fun _ => List.not_mem_nil
    | cons c cs ih =>
      intro inWord
      rw [List.mem_cons, not_or] at hcs
      rw [lowerChars, List.mem_append, not_or]
      refine ⟨?_, ih hcs.2 _⟩
      split
      · split <;> decide
      · exact underscore_not_mem_lowerForm (Ne.symm hcs.1)
  rw [lower, String.toList_ofList]
  exact hchars s.toList h false

/-- Without the underscores in front, a name that begins with none is left, and so is one behind an
underscore. -/
theorem trimCharStart_underscore {name : String} (h : begins (· == '_') name = false) :
    trimCharStart '_' name = name ∧ trimCharStart '_' ("_" ++ name) = name := by
  have hkept : name.toList.dropWhile (· == '_') = name.toList := by
    rw [begins] at h
    cases hcs : name.toList with
    | nil => rfl
    | cons c cs =>
      rw [hcs, List.head?_cons, Option.any_some] at h
      rw [List.dropWhile_cons, h, if_neg Bool.false_ne_true]
  constructor
  · rw [trimCharStart, hkept, String.ofList_toList]
  · rw [trimCharStart, toList_underscore, List.dropWhile_cons, if_pos (beq_self_eq_true '_'), hkept,
      String.ofList_toList]

end Text

namespace Java

/-- A stem has no underscore. -/
theorem underscore_not_mem_stem (raw : String) : '_' ∉ (stem raw).toList := by
  cases h : inCapitals raw with
  | true =>
    rw [stem, if_pos h]
    refine underscore_not_mem_lower ?_
    simp only [inCapitals, Bool.and_eq_true, Bool.not_eq_true', List.contains_eq_mem,
      decide_eq_false_iff_not] at h
    exact h.2
  | false => exact fun hc => absurd (isAlphanum_of_mem_stem h '_' hc) (by decide)

/-- So the name of a field without the underscore in front is its stem. -/
theorem trimCharStart_variableName (raw : String) :
    trimCharStart '_' (variableName raw) = stem raw := by
  have hbegins : begins (· == '_') (stem raw) = false := by
    refine Bool.eq_false_iff.2 fun h => ?_
    obtain ⟨c, hc, hunderscore⟩ := begins_eq_true_iff.1 h
    rw [beq_iff_eq] at hunderscore
    exact underscore_not_mem_stem raw (hunderscore ▸ List.mem_of_mem_head? hc)
  rcases variableName_cases raw with ⟨heq, -⟩ | heq
  · rw [heq]
    exact (trimCharStart_underscore hbegins).1
  · rw [heq]
    exact (trimCharStart_underscore hbegins).2

/-! ## A word behind a name -/

section
variable {A : Alphabet} {name suffix : String}

/-- A plain word behind a name leaves it spelled as an identifier, or not. -/
theorem isSpelled_append_iff (hne : name ≠ "")
    (hsuffix : ∀ c ∈ suffix.toList, c.isAlphanum = true) :
    A.IsSpelled (name ++ suffix) ↔ A.IsSpelled name := by
  have hmem (c : Char) : c ∈ (name ++ suffix).toList ↔ c ∈ name.toList ∨ c ∈ suffix.toList := by
    rw [String.toList_append, List.mem_append]
  constructor
  · exact fun h => ⟨hne, fun c hc => h.chars c ((hmem c).2 (.inl hc))⟩
  · intro h
    refine ⟨by simp [hne], fun c hc => ((hmem c).1 hc).elim (h.chars c) fun hc => ?_⟩
    exact Alphabet.nameChar_of_isAlphanum (hsuffix c hc)

/-- It leaves it an identifier, or none. -/
theorem isIdentifier_append_iff (hne : name ≠ "")
    (hsuffix : ∀ c ∈ suffix.toList, c.isAlphanum = true) :
    A.IsIdentifier (name ++ suffix) ↔ A.IsIdentifier name := by
  have hspelled : A.IsSpelled (name ++ suffix) ↔ A.IsSpelled name :=
    isSpelled_append_iff hne hsuffix
  have hbegins : begins A.digit (name ++ suffix) = begins A.digit name := begins_append hne suffix
  constructor
  · exact fun h => ⟨hspelled.1 h.toIsSpelled, hbegins.symm.trans h.start⟩
  · exact fun h => ⟨hspelled.2 h.toIsSpelled, hbegins.trans h.start⟩

/-- Camel case with a plain word behind it is spelled as an identifier, and is one just if it comes
of a text that has no digit first. -/
theorem camelize_append_spelled (s : String) (hsuffix : ∀ c ∈ suffix.toList, c.isAlphanum = true)
    (hne : suffix ≠ "") (hstart : startsWithDigit suffix = false) :
    A.IsSpelled (camelize s ++ suffix) ∧
      (A.IsIdentifier (camelize s ++ suffix) ↔ digitFirst s = false) := by
  have hchars : ∀ c ∈ (camelize s ++ suffix).toList, c.isAlphanum = true := by
    intro c hc
    rw [String.toList_append, List.mem_append] at hc
    exact hc.elim isAlphanum_of_mem_camelize (hsuffix c)
  have hboth : camelize s ++ suffix ≠ "" := by simp [hne]
  refine ⟨.of_isAlphanum hboth hchars, ?_⟩
  rw [Alphabet.isIdentifier_iff_of_isAlphanum hboth hchars, digitFirst]
  by_cases h : camelize s = ""
  · rw [h, camelize_eq_empty_iff.1 h, String.empty_append, hstart]
    rfl
  · rw [← startsWithDigit_camelize, startsWithDigit_eq, startsWithDigit_eq, begins_append h]

end

/-! ## Groups -/

/-- Joined by underscores, the runs of a text have its first plain letter or digit. -/
theorem find?_intercalate_runs (cs : List Char) :
    (['_'].intercalate (runs cs)).find? Char.isAlphanum = cs.find? Char.isAlphanum := by
  induction cs with
  | nil => rfl
  | cons c cs ih =>
    rw [List.find?_cons]
    cases hc : c.isAlphanum with
    | false =>
      rw [← ih, runs_cons_of_not hc]
    | true =>
      obtain ⟨r, rs, hruns⟩ := exists_runs_cons_eq hc cs
      rw [hruns]
      cases rs with
      | nil => rw [List.intercalate_singleton, List.find?_cons_of_pos hc]
      | cons r' rs =>
        rw [List.intercalate_cons_cons, List.append_assoc, List.cons_append,
          List.find?_cons_of_pos hc]

/-- The key of a tag has a digit first just if the tag does. -/
theorem digitFirst_tagKey (tag : String) : digitFirst (tagKey tag) = digitFirst tag := by
  have hfirst : firstPlain? (String.ofList (['_'].intercalate (runs tag.toList))) =
      firstPlain? tag := by
    rw [firstPlain?, String.toList_ofList, find?_intercalate_runs, firstPlain?]
  rw [tagKey, orElse, digitFirst, digitFirst]
  split
  · next hempty =>
    rw [← hfirst, hempty]
    rfl
  · rw [hfirst]

theorem tagKey_ne_empty (tag : String) : tagKey tag ≠ "" := by
  unfold tagKey orElse
  split
  · decide
  · next h => exact h

/-- The interface of a group is spelled as an identifier. -/
theorem apiName_tagKey_spelled (A : Alphabet) (tag : String) :
    A.IsSpelled (apiName (tagKey tag)) ∧
      (A.IsIdentifier (apiName (tagKey tag)) ↔ digitFirst tag = false) := by
  rw [apiName, if_neg (tagKey_ne_empty tag), ← digitFirst_tagKey tag]
  exact camelize_append_spelled (tagKey tag) (List.all_eq_true.1 (by decide)) (by decide)
    (by decide)

/-! ## Names without their underscore -/

/-- Whether the name of a field is an identifier also without the underscore that may be in front:
for a text in capitals, if it is one in small letters, and otherwise if the text has no digit
first. -/
def Alphabet.FitsBare (A : Alphabet) (raw : String) : Prop :=
  if inCapitals raw = true then A.IsIdentifier (lower raw) else digitFirst raw = false

theorem isIdentifier_stem_iff (A : Alphabet) (raw : String) :
    A.IsIdentifier (stem raw) ↔ A.FitsBare raw := by
  rw [Alphabet.FitsBare]
  by_cases h : inCapitals raw = true
  · rw [stem, if_pos h, if_pos h]
  · rw [if_neg h, Alphabet.isIdentifier_iff_of_isAlphanum (stem_ne_empty raw)
      (isAlphanum_of_mem_stem (Bool.not_eq_true _ ▸ h)), stem, if_neg h, orElse]
    split
    · next hempty =>
      rw [digitFirst, lowerCamelize_eq_empty_iff.1 hempty]
      exact iff_of_true (by decide) rfl
    · rw [startsWithDigit_lowerCamelize, digitFirst]

/-- The name of a field without its underscore and with a plain word behind it is spelled as an
identifier if the name itself is one. -/
theorem trimmed_spelled (A : Alphabet) (raw : String) {suffix : String}
    (hsuffix : ∀ c ∈ suffix.toList, c.isAlphanum = true) :
    (A.IsSpelled (trimCharStart '_' (variableName raw) ++ suffix) ↔
        A.IsIdentifier (variableName raw)) ∧
      (A.IsIdentifier (trimCharStart '_' (variableName raw) ++ suffix) ↔ A.FitsBare raw) := by
  have hne : stem raw ≠ "" := stem_ne_empty raw
  rw [trimCharStart_variableName, isSpelled_append_iff hne hsuffix,
    isIdentifier_append_iff hne hsuffix, isIdentifier_variableName_iff]
  exact ⟨Iff.rfl, isIdentifier_stem_iff A raw⟩

/-! ## All of them -/

/-- The name of the interface of a group and that of the enumeration of a property are always
spelled as identifiers, and each is one just if no digit comes first in the tag or in the name of
the property. Those of the arguments for one value of a container and for an attachment are spelled
so just if the name of the field or of the parameter is an identifier, and each is one just if that
name fits without its underscore. -/
theorem derivedNames_iff (A : Alphabet) :
    (∀ tag, A.IsSpelled (apiName (tagKey tag)) ∧
      (A.IsIdentifier (apiName (tagKey tag)) ↔ digitFirst tag = false)) ∧
    (∀ table schemas (p : Api.Property),
      ∀ name ∈ (prepareProperty table schemas p).1.enumName, A.IsSpelled name ∧
        (A.IsIdentifier name ↔ digitFirst p.name = false)) ∧
    (∀ table schemas (p : Api.Property) (q : Property),
      q.name = (prepareProperty table schemas p).1.name →
      (A.IsSpelled (Render.itemName q) ↔ A.IsIdentifier q.name) ∧
        (A.IsIdentifier (Render.itemName q) ↔ A.FitsBare p.name)) ∧
    ∀ table schemas (p : Api.Parameter) (q : Parameter),
      q.name = (prepareParameter table schemas p).1.name → Render.isAttachment q = true →
      (A.IsSpelled (Render.argumentName q) ↔ A.IsIdentifier q.name) ∧
        (A.IsIdentifier (Render.argumentName q) ↔ A.FitsBare p.name) := by
  refine ⟨apiName_tagKey_spelled A, ?enum, ?item, ?attachment⟩
  case enum =>
    intro table schemas p name hname
    change name ∈ enumNameOf p at hname
    unfold enumNameOf at hname
    split at hname
    · cases hname
    · cases hname
      exact camelize_append_spelled p.name (List.all_eq_true.1 (by decide)) (by decide) (by decide)
  case item =>
    intro table schemas p q hname
    rw [Render.itemName, hname]
    exact trimmed_spelled A p.name (List.all_eq_true.1 (by decide))
  case attachment =>
    intro table schemas p q hname hattached
    rw [Render.argumentName, if_pos hattached, hname]
    exact trimmed_spelled A p.name (List.all_eq_true.1 (by decide))

/-- A property for several of two texts. -/
def sizesProperty (name : String) : Api.Property :=
  { name := name, container := some .array, allowed := some ["small", "large"] }

/-- What it is in a model. -/
def preparedSizes (name : String) : Property :=
  (prepareProperty baseBackend.typeTable [] (sizesProperty name)).1

/-- A parameter for a file. -/
def fileParameter (name : String) : Api.Parameter :=
  { name := name, location := .form, type := "file" }

/-- What it is in a form of several parts. -/
def filePart (name : String) : Parameter :=
  { (prepareParameter baseBackend.typeTable [] (fileParameter name)).1 with inMultipart := true }

/-- Names of several words, in capitals or not, give identifiers. -/
theorem derivedNames_iff_words :
    apiName (tagKey "pet store") = "PetStoreApi" ∧
      (preparedSizes "SIZES").enumName = some "SIZESEnum" ∧
      Render.itemName (preparedSizes "SIZES") = "sizesItem" ∧
      Render.isAttachment (filePart "pet-photo") = true ∧
      Render.argumentName (filePart "pet-photo") = "petPhotoDetail" ∧
      ∀ name ∈ ["PetStoreApi", "SIZESEnum", "sizesItem", "petPhotoDetail"],
        Alphabet.plain.IsIdentifier name := by
  obtain ⟨hgroup, henum, hitem, hpart⟩ := derivedNames_iff Alphabet.plain
  have happ : apiName (tagKey "pet store") = "PetStoreApi" := by decide +kernel
  have henumName : (preparedSizes "SIZES").enumName = some "SIZESEnum" := by decide +kernel
  have hitemName : Render.itemName (preparedSizes "SIZES") = "sizesItem" := by decide +kernel
  have hattached : Render.isAttachment (filePart "pet-photo") = true := by decide +kernel
  have hpartName : Render.argumentName (filePart "pet-photo") = "petPhotoDetail" := by
    decide +kernel
  refine ⟨happ, henumName, hitemName, hattached, hpartName, ?_⟩
  have hsizes : Alphabet.plain.FitsBare "SIZES" := by
    have hlower : lower "SIZES" = "sizes" := by decide +kernel
    rw [Alphabet.FitsBare, if_pos (by decide +kernel), hlower,
      Alphabet.isIdentifier_iff_of_isAlphanum (by decide) (List.all_eq_true.1 (by decide))]
    decide
  have hphoto : Alphabet.plain.FitsBare "pet-photo" := by
    rw [Alphabet.FitsBare, if_neg (by decide +kernel)]
    decide
  rw [List.forall_mem_cons, List.forall_mem_cons, List.forall_mem_cons, List.forall_mem_singleton]
  refine ⟨?_, ?_, ?_, ?_⟩
  · rw [← happ]
    exact (hgroup "pet store").2.2 (by decide +kernel)
  · exact (henum baseBackend.typeTable [] (sizesProperty "SIZES") _ henumName).2.2
      (by decide +kernel)
  · rw [← hitemName]
    exact (hitem baseBackend.typeTable [] (sizesProperty "SIZES") (preparedSizes "SIZES")
      rfl).2.2 hsizes
  · rw [← hpartName]
    exact (hpart baseBackend.typeTable [] (fileParameter "pet-photo") (filePart "pet-photo") rfl
      hattached).2.2 hphoto

/-- But a digit that comes first is the first character of all four. -/
theorem derivedNames_fail :
    apiName (tagKey "1st") = "1stApi" ∧ (preparedSizes "1st").enumName = some "1stEnum" ∧
      Render.itemName (preparedSizes "1st") = "1stItem" ∧
      Render.isAttachment (filePart "1st") = true ∧
      Render.argumentName (filePart "1st") = "1stDetail" ∧
      ¬∃ A : Alphabet, ∃ name ∈ ["1stApi", "1stEnum", "1stItem", "1stDetail"],
        A.IsIdentifier name := by
  refine ⟨by decide +kernel, by decide +kernel, by decide +kernel, by decide +kernel,
    by decide +kernel, ?_⟩
  rintro ⟨A, name, hname, hidentifier⟩
  have hbegins : begins Char.isDigit name = true := by
    clear hidentifier
    revert name
    decide
  obtain ⟨c, hc, hdigit⟩ := begins_eq_true_iff.1 hbegins
  exact Bool.eq_false_iff.1 hidentifier.start
    (begins_eq_true_iff.2 ⟨c, hc, A.digit_of_isDigit hdigit⟩)

end Java

end ClientGen
