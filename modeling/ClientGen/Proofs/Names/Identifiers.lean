import ClientGen.Proofs.Names.Characters

/-!
# Names of classes, methods and constants

Whatever a name is made from, the name of a class begins with a capital ([IsClassName]), that of a
method with a small letter ([IsMethodName]), and that of a constant with no digit
([IsConstantName]), and the first two are no reserved words. The characters of a name are known, so
what is left is how it begins ([begins]): camel case begins with the first plain letter or digit of
the text ([head?_camelize]), and what is put in front of a digit or of a reserved word begins no
reserved word itself ([isReserved_eq_false_of_take]).
-/

namespace ClientGen

/-! ## How a text begins -/

/-- Whether a text has a first character, and one of some kind. -/
def begins (p : Char → Bool) (s : String) : Bool := s.toList.head?.any p

section
variable {p : Char → Bool} {s : String}

theorem begins_eq_true_iff : begins p s = true ↔ ∃ c ∈ s.toList.head?, p c = true := by
  rw [begins, Option.any_eq_true]
  rfl

/-- Behind a text that is not empty anything may follow. -/
theorem begins_append (hs : s ≠ "") (rest : String) : begins p (s ++ rest) = begins p s := by
  have hchars : s.toList ≠ [] := mt String.toList_eq_nil_iff.1 hs
  rw [begins, String.toList_append, List.head?_append, begins]
  cases hs : s.toList with
  | nil => exact absurd hs hchars
  | cons c cs => rfl

/-- The first plain letter or digit of a text. -/
def firstPlain? (s : String) : Option Char := s.toList.find? Char.isAlphanum

theorem isAlphanum_of_mem_firstPlain? {c : Char} (h : c ∈ firstPlain? s) : c.isAlphanum = true :=
  List.find?_some h

end

/-! ## Plain letters and digits -/

section
variable {c : Char}

theorem isUpper_toUpper_of_not_isDigit (h : c.isAlphanum = true) (hdigit : c.isDigit = false) :
    c.toUpper.isUpper = true :=
  forall_alphanum (P := fun c => c.isDigit = false → c.toUpper.isUpper = true)
    (by decide +kernel) h hdigit

theorem isLower_toLower_of_not_isDigit (h : c.isAlphanum = true) (hdigit : c.isDigit = false) :
    c.toUpper.toLower.isLower = true :=
  forall_alphanum (P := fun c => c.isDigit = false → c.toUpper.toLower.isLower = true)
    (by decide +kernel) h hdigit

theorem isDigit_toUpper (h : c.isAlphanum = true) : Text.isDigit c.toUpper = c.isDigit :=
  forall_alphanum (P := fun c => Text.isDigit c.toUpper = c.isDigit) (by decide +kernel) h

theorem isDigit_toLower (h : c.isAlphanum = true) :
    Text.isDigit c.toUpper.toLower = c.isDigit :=
  forall_alphanum (P := fun c => Text.isDigit c.toUpper.toLower = c.isDigit) (by decide +kernel) h

end

/-! ## Words -/

namespace Text

theorem head?_camelChars (cs : List Char) :
    (camelChars true cs).head? = (cs.find? Char.isAlphanum).map Char.toUpper := by
  induction cs with
  | nil => rfl
  | cons c cs ih =>
    rw [camelChars, List.find?_cons]
    cases hc : c.isAlphanum with
    | true => rfl
    | false => exact ih

theorem head?_lowerFirst (cs : List Char) : (lowerFirst cs).head? = cs.head?.map Char.toLower := by
  cases cs <;> rfl

/-- Camel case begins with the first plain letter or digit, as a capital. -/
theorem head?_camelize (s : String) :
    (camelize s).toList.head? = (firstPlain? s).map Char.toUpper := by
  rw [camelize, String.toList_ofList, head?_camelChars, firstPlain?]

/-- Lower camel case begins with it as a small letter. -/
theorem head?_lowerCamelize (s : String) :
    (lowerCamelize s).toList.head? = (firstPlain? s).map (·.toUpper.toLower) := by
  rw [lowerCamelize, String.toList_ofList, head?_lowerFirst, head?_camelChars, Option.map_map]
  rfl

/-- Camel case is empty if the text has no plain letter or digit. -/
theorem camelize_eq_empty_iff {s : String} : camelize s = "" ↔ firstPlain? s = none := by
  rw [← String.toList_eq_nil_iff, ← List.head?_eq_none_iff, head?_camelize, Option.map_eq_none_iff]

theorem lowerCamelize_eq_empty_iff {s : String} : lowerCamelize s = "" ↔ firstPlain? s = none := by
  rw [← String.toList_eq_nil_iff, ← List.head?_eq_none_iff, head?_lowerCamelize,
    Option.map_eq_none_iff]

/-- Lower camel case has plain letters and digits only. -/
theorem isAlphanum_of_mem_lowerCamelize {s : String} {c : Char}
    (h : c ∈ (lowerCamelize s).toList) : c.isAlphanum = true := by
  rw [lowerCamelize, String.toList_ofList] at h
  cases hcs : camelChars true s.toList with
  | nil =>
    rw [hcs] at h
    cases h
  | cons d rest =>
    have hall : ∀ e ∈ d :: rest, e.isAlphanum = true :=
      fun e he => isAlphanum_of_mem_camelChars (hcs ▸ he)
    rw [hcs, lowerFirst] at h
    rcases List.mem_cons.1 h with rfl | h
    · exact isAlphanum_toLower (hall d List.mem_cons_self)
    · exact hall c (List.mem_cons_of_mem d h)

theorem toList_underscore (s : String) : ("_" ++ s).toList = '_' :: s.toList := by
  rw [String.toList_append]
  rfl

/-- An ASCII character is followed by what is behind it in lower case. -/
theorem lowerChars_cons_of_ascii {c : Char} (h : c.toNat < 128) (inWord : Bool)
    (rest : List Char) : lowerChars inWord (c :: rest) =
      c.toLower :: lowerChars (if isCaseIgnorable c then inWord else isCased c) rest := by
  have hsigma : c ≠ 'Σ' := by
    rintro rfl
    exact absurd h (by decide)
  rw [lowerChars, if_neg hsigma, lowerForm, if_pos h]
  rfl

end Text

namespace Java

open Text

variable {name : String}

/-! ## Digits and reserved words -/

theorem startsWithDigit_eq (name : String) : startsWithDigit name = begins Text.isDigit name := by
  rw [startsWithDigit, begins]
  cases name.toList <;> rfl

/-- Camel case starts with a digit if this is what the text has first. -/
theorem startsWithDigit_camelize (s : String) :
    startsWithDigit (camelize s) = (firstPlain? s).any Char.isDigit := by
  rw [startsWithDigit_eq, begins, head?_camelize, Option.any_map]
  cases hc : firstPlain? s with
  | none => rfl
  | some c => exact isDigit_toUpper (isAlphanum_of_mem_firstPlain? hc)

theorem startsWithDigit_lowerCamelize (s : String) :
    startsWithDigit (lowerCamelize s) = (firstPlain? s).any Char.isDigit := by
  rw [startsWithDigit_eq, begins, head?_lowerCamelize, Option.any_map]
  cases hc : firstPlain? s with
  | none => rfl
  | some c => exact isDigit_toLower (isAlphanum_of_mem_firstPlain? hc)

/-- What begins like no reserved word is none. -/
theorem isReserved_eq_false_of_take (n : Nat) (start : List Char)
    (h : ∀ w ∈ reservedWords, w.toList.take n ≠ start) (hname : name.toList.take n = start) :
    isReserved name = false := by
  rw [isReserved, Bool.eq_false_iff, Ne, List.contains_iff_mem]
  exact fun hmem => h name hmem hname

/-- A name behind an underscore is not reserved. -/
theorem isReserved_underscore (name : String) : isReserved ("_" ++ name) = false := by
  refine isReserved_eq_false_of_take 1 ['_'] (by decide) ?_
  rw [toList_underscore, List.take_succ_cons, List.take_zero]

/-- The underscore is the same in lower case. -/
theorem lower_underscore (name : String) : lower ("_" ++ name) = "_" ++ lower name := by
  have hchars : lowerChars false ("_" ++ name).toList = '_' :: lowerChars false name.toList := by
    rw [toList_underscore]
    exact lowerChars_cons_of_ascii (by decide) false name.toList
  rw [lower, hchars, String.ofList_cons, lower]
  rfl

/-- What an escaped name is: the name, or the name behind an underscore. -/
theorem escapeReserved_cases (name : String) :
    escapeReserved name = name ∧ isReserved name = false ∧ isReserved (lower name) = false ∨
      escapeReserved name = "_" ++ name := by
  unfold escapeReserved
  split
  · exact .inr rfl
  · next h =>
    rw [Bool.not_eq_true, Bool.or_eq_false_iff] at h
    exact .inl ⟨rfl, h⟩

/-- It is no reserved word, in whatever case. -/
theorem escapeReserved_free (name : String) :
    isReserved (escapeReserved name) = false ∧
      isReserved (lower (escapeReserved name)) = false := by
  rcases escapeReserved_cases name with ⟨heq, hfree⟩ | heq
  · rwa [heq]
  · rw [heq, lower_underscore]
    exact ⟨isReserved_underscore name, isReserved_underscore (lower name)⟩

/-! ## Classes -/

/-- Whether a name is one for a class: a plain capital with plain letters and digits behind it, and
no reserved word in lower case. -/
structure IsClassName (name : String) : Prop where
  first : begins Char.isUpper name = true
  chars : ∀ c ∈ name.toList, c.isAlphanum = true
  free : isReserved (lower name) = false

/-- No reserved word begins like a name behind the word for models. -/
theorem isReserved_lower_model (name : String) : isReserved (lower ("Model" ++ name)) = false := by
  refine isReserved_eq_false_of_take 2 ['m', 'o'] (by decide) ?_
  have hchars : ("Model" ++ name).toList = 'M' :: 'o' :: ("del" ++ name).toList := by
    rw [String.toList_append, String.toList_append]
    rfl
  rw [lower, String.toList_ofList, hchars, lowerChars_cons_of_ascii (by decide),
    lowerChars_cons_of_ascii (by decide)]
  rfl

/-- Camel case that is not empty begins with a capital, if not with a digit. -/
theorem begins_isUpper_camelize {s : String} (hs : camelize s ≠ "")
    (hdigit : startsWithDigit (camelize s) = false) : begins Char.isUpper (camelize s) = true := by
  obtain ⟨c, hc⟩ := Option.ne_none_iff_exists'.1 (mt camelize_eq_empty_iff.2 hs)
  rw [startsWithDigit_camelize, hc] at hdigit
  rw [begins, head?_camelize, hc]
  exact isUpper_toUpper_of_not_isDigit (isAlphanum_of_mem_firstPlain? hc) hdigit

/-- The name of a class is camel case that needs nothing in front, or stands behind the word for
models. -/
theorem modelName_cases (raw : String) :
    modelName raw = orElse (camelize raw) "Model" ∧ startsWithDigit (modelName raw) = false ∧
        isReserved (lower (modelName raw)) = false ∨
      ∃ name, modelName raw = "Model" ++ name := by
  unfold modelName
  generalize orElse (camelize raw) "Model" = name
  by_cases hdigit : startsWithDigit name = true
  · simp only [if_pos hdigit]
    by_cases hreserved : isReserved (lower ("Model" ++ name)) = true
    · exact .inr ⟨"Model" ++ name, if_pos hreserved⟩
    · exact .inr ⟨name, if_neg hreserved⟩
  · simp only [if_neg hdigit]
    by_cases hreserved : isReserved (lower name) = true
    · exact .inr ⟨name, if_pos hreserved⟩
    · rw [if_neg hreserved]
      exact .inl ⟨rfl, Bool.not_eq_true _ ▸ hdigit, Bool.not_eq_true _ ▸ hreserved⟩

theorem isClassName_modelName (raw : String) : IsClassName (modelName raw) := by
  suffices h : begins Char.isUpper (modelName raw) = true ∧
      isReserved (lower (modelName raw)) = false from
    ⟨h.1, isAlphanum_of_mem_modelName raw, h.2⟩
  rcases modelName_cases raw with ⟨heq, hdigit, hfree⟩ | ⟨name, heq⟩
  · refine ⟨?_, hfree⟩
    rw [heq] at hdigit ⊢
    unfold orElse at hdigit ⊢
    split
    · rfl
    · next hne =>
      rw [if_neg hne] at hdigit
      exact begins_isUpper_camelize hne hdigit
  · rw [heq]
    exact ⟨begins_append (by decide) name, isReserved_lower_model name⟩

/-! ## Methods -/

/-- Whether a name is one for a method: a small plain letter with plain letters and digits behind
it, perhaps behind one underscore, and no reserved word in whatever case. -/
structure IsMethodName (name : String) : Prop where
  spelled : ∃ bare, (name = bare ∨ name = "_" ++ bare) ∧ begins Char.isLower bare = true ∧
    ∀ c ∈ bare.toList, c.isAlphanum = true
  free : isReserved name = false
  lowerFree : isReserved (lower name) = false

/-- Lower camel case that is not empty begins with a small letter, if not with a digit. -/
theorem begins_isLower_lowerCamelize {s : String} (hs : lowerCamelize s ≠ "")
    (hdigit : startsWithDigit (lowerCamelize s) = false) :
    begins Char.isLower (lowerCamelize s) = true := by
  obtain ⟨c, hc⟩ := Option.ne_none_iff_exists'.1 (mt lowerCamelize_eq_empty_iff.2 hs)
  rw [startsWithDigit_lowerCamelize, hc] at hdigit
  rw [begins, head?_lowerCamelize, hc]
  exact isLower_toLower_of_not_isDigit (isAlphanum_of_mem_firstPlain? hc) hdigit

theorem isMethodName_escapeReserved (hfirst : begins Char.isLower name = true)
    (hchars : ∀ c ∈ name.toList, c.isAlphanum = true) : IsMethodName (escapeReserved name) where
  spelled := ⟨name, (escapeReserved_cases name).imp (·.1) id, hfirst, hchars⟩
  free := (escapeReserved_free name).1
  lowerFree := (escapeReserved_free name).2

theorem isMethodName_operationName (raw : String) : IsMethodName (operationName raw) := by
  have hcall : ∀ c ∈ "call".toList, c.isAlphanum = true := List.all_eq_true.1 (by decide)
  unfold operationName
  simp only
  split
  · refine isMethodName_escapeReserved (begins_append (by decide) _) fun c hc => ?_
    rw [String.toList_append, List.mem_append] at hc
    exact hc.elim (hcall c) isAlphanum_of_mem_camelize
  · next hdigit =>
    rw [Bool.not_eq_true] at hdigit
    unfold orElse at hdigit ⊢
    split
    · exact isMethodName_escapeReserved rfl hcall
    · next hne =>
      rw [if_neg hne] at hdigit
      exact isMethodName_escapeReserved (begins_isLower_lowerCamelize hne hdigit)
        fun c hc => isAlphanum_of_mem_lowerCamelize hc

/-! ## Constants -/

/-- Whether a name is one for a constant: plain capitals, digits and underscores, not a digit
first. -/
structure IsConstantName (name : String) : Prop where
  nonempty : name ≠ ""
  chars : ∀ c ∈ name.toList, isConstantChar c = true
  start : startsWithDigit name = false

theorem isConstantName_constantName (value : String) : IsConstantName (constantName value) := by
  have hspelled : constantName value ≠ "" ∧ startsWithDigit (constantName value) = false := by
    unfold constantName
    simp only
    split
    · exact ⟨by decide, rfl⟩
    · next hne =>
      split
      · refine ⟨by simp, ?_⟩
        rw [startsWithDigit_eq, begins_append (by decide)]
        rfl
      · next hdigit => exact ⟨hne, Bool.not_eq_true _ ▸ hdigit⟩
  exact ⟨hspelled.1, fun c hc => isConstantChar_of_mem_constantName hc, hspelled.2⟩

/-- Whatever text a schema, an operation or an allowed value has as its name, it gets one for a
class, for a method or for a constant. -/
theorem names_spelled (raw : String) :
    IsClassName (modelName raw) ∧ IsMethodName (operationName raw) ∧
      IsConstantName (constantName raw) :=
  ⟨isClassName_modelName raw, isMethodName_operationName raw, isConstantName_constantName raw⟩

/-- A digit first, a reserved word, and no letter or digit at all. -/
example : modelName "404 list" = "Model404List" ∧ modelName "LIST" = "ModelLIST" ∧
    operationName "Class" = "_class" ∧ operationName "!" = "call" ∧ constantName "1.5" = "_1_5" ∧
    constantName "" = "EMPTY" := by
  decide +kernel

end Java

end ClientGen
