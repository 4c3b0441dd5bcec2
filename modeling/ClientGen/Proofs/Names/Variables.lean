import ClientGen.Proofs.Names.Identifiers

/-!
# Names of fields and parameters

The name of a field is a stem ([stem]), perhaps behind an underscore ([variableName_cases]). The
underscore keeps a digit from its start and reserved words from being it, so what is left is whether
its characters are those of an identifier. Camel case has no others, but a text that is written in
capitals ([inCapitals]) is only put in small letters, with whatever else is in it
([variableName_spelled]): the name of a header with hyphens is none ([header_not_identifier]).

Which letters and digits beyond the plain ones an identifier may have is left open ([Alphabet]).
-/

namespace ClientGen.Java

open Text

/-! ## Identifiers -/

/-- A plain letter or digit is a digit of some script just if it is a plain one. -/
theorem isDigit_of_isAlphanum {c : Char} (h : c.isAlphanum = true) : Text.isDigit c = c.isDigit :=
  forall_alphanum (P := fun c => Text.isDigit c = c.isDigit) (by decide +kernel) h

/-- Which characters count as letters and which as digits: the plain ones do, and what counts as a
digit is one of some script. -/
structure Alphabet where
  letter : Char → Bool
  digit : Char → Bool
  letter_of_isAlpha : ∀ {c : Char}, c.isAlpha = true → letter c = true
  digit_of_isDigit : ∀ {c : Char}, c.isDigit = true → digit c = true
  isDigit_of_digit : ∀ {c : Char}, digit c = true → Text.isDigit c = true

namespace Alphabet

/-- The plain letters and digits alone. -/
def plain : Alphabet where
  letter := Char.isAlpha
  digit := Char.isDigit
  letter_of_isAlpha h := h
  digit_of_isDigit h := h
  isDigit_of_digit h := (isDigit_of_isAlphanum (Bool.or_eq_true_iff.2 (.inr h))).trans h

variable (A : Alphabet)

/-- Whether a character is a letter, a digit or an underscore. -/
def nameChar (c : Char) : Bool := A.letter c || A.digit c || c == '_'

/-- Whether a name has characters, all of which are letters, digits and underscores. -/
structure IsSpelled (name : String) : Prop where
  nonempty : name ≠ ""
  chars : ∀ c ∈ name.toList, A.nameChar c = true

/-- Whether such a name does not start with a digit. -/
structure IsIdentifier (name : String) : Prop extends A.IsSpelled name where
  start : begins A.digit name = false

variable {A} {name : String}

theorem nameChar_of_isAlphanum {c : Char} (h : c.isAlphanum = true) : A.nameChar c = true := by
  rw [nameChar]
  rcases Bool.or_eq_true_iff.1 h with h | h
  · rw [A.letter_of_isAlpha h, Bool.true_or, Bool.true_or]
  · rw [A.digit_of_isDigit h, Bool.or_true, Bool.true_or]

/-- What does not start with a digit of any script does not start with one that counts. -/
theorem begins_digit_eq_false (h : startsWithDigit name = false) : begins A.digit name = false := by
  rw [startsWithDigit_eq] at h
  refine Bool.eq_false_iff.2 fun hdigit => ?_
  obtain ⟨c, hc, hdigit⟩ := begins_eq_true_iff.1 hdigit
  exact Bool.eq_false_iff.1 h (begins_eq_true_iff.2 ⟨c, hc, A.isDigit_of_digit hdigit⟩)

/-- Plain letters and digits make a name. -/
theorem IsSpelled.of_isAlphanum (hne : name ≠ "") (h : ∀ c ∈ name.toList, c.isAlphanum = true) :
    A.IsSpelled name :=
  ⟨hne, fun c hc => nameChar_of_isAlphanum (h c hc)⟩

/-- They make an identifier if there is no digit at the start. -/
theorem isIdentifier_iff_of_isAlphanum (hne : name ≠ "")
    (h : ∀ c ∈ name.toList, c.isAlphanum = true) :
    A.IsIdentifier name ↔ startsWithDigit name = false := by
  refine ⟨fun hname => ?_, fun hstart => ⟨.of_isAlphanum hne h, begins_digit_eq_false hstart⟩⟩
  rw [startsWithDigit_eq]
  refine Bool.eq_false_iff.2 fun hdigit => ?_
  obtain ⟨c, hc, hdigit⟩ := begins_eq_true_iff.1 hdigit
  have hplain : c.isDigit = true :=
    (isDigit_of_isAlphanum (h c (List.mem_of_mem_head? hc))).symm.trans hdigit
  exact Bool.eq_false_iff.1 hname.start
    (begins_eq_true_iff.2 ⟨c, hc, A.digit_of_isDigit hplain⟩)

/-- An underscore in front makes an identifier of every spelled name. -/
theorem isIdentifier_underscore_iff (hne : name ≠ "") :
    A.IsIdentifier ("_" ++ name) ↔ A.IsSpelled name := by
  constructor
  · intro h
    refine ⟨hne, fun c hc => h.chars c ?_⟩
    rw [toList_underscore]
    exact List.mem_cons_of_mem '_' hc
  · intro h
    refine ⟨⟨by simp, fun c hc => ?_⟩, begins_digit_eq_false ?_⟩
    · rw [toList_underscore] at hc
      rcases List.mem_cons.1 hc with rfl | hc
      · rw [nameChar, beq_self_eq_true, Bool.or_true]
      · exact h.chars c hc
    · rw [startsWithDigit_eq, begins_append (by decide)]
      rfl

end Alphabet

/-! ## Stems -/

/-- Whether a text is written in capitals and has no underscore. -/
def inCapitals (raw : String) : Bool := isUpperText raw && !raw.toList.contains '_'

/-- What the name of a field is made of: a text in capitals in small letters, and any other one in
camel case. -/
def stem (raw : String) : String :=
  if inCapitals raw then lower raw else orElse (lowerCamelize raw) "value"

theorem variableName_eq (raw : String) : variableName raw =
    escapeReserved (if startsWithDigit (stem raw) then "_" ++ stem raw else stem raw) := rfl

/-- In lower case there is something for every character. -/
theorem lower_ne_empty {s : String} (hs : s ≠ "") : lower s ≠ "" := by
  cases hcs : s.toList with
  | nil => exact absurd (String.toList_eq_nil_iff.1 hcs) hs
  | cons c cs =>
    intro h
    rw [lower, hcs, ← String.toList_eq_nil_iff, String.toList_ofList, lowerChars,
      List.append_eq_nil_iff] at h
    refine absurd h.1 ?_
    split
    · exact List.cons_ne_nil _ _
    · unfold lowerForm
      repeat' split
      all_goals exact List.cons_ne_nil _ _

/-- A text in capitals is not empty. -/
theorem ne_empty_of_inCapitals {raw : String} (h : inCapitals raw = true) : raw ≠ "" := by
  rintro rfl
  exact absurd h (by decide)

theorem stem_ne_empty (raw : String) : stem raw ≠ "" := by
  unfold stem
  split
  · next h => exact lower_ne_empty (ne_empty_of_inCapitals h)
  · unfold orElse
    split
    · decide
    · next h => exact h

/-- Behind an underscore a name needs no other one. -/
theorem escapeReserved_underscore (name : String) : escapeReserved ("_" ++ name) = "_" ++ name := by
  rw [escapeReserved, lower_underscore, isReserved_underscore, isReserved_underscore]
  rfl

/-- The name of a field is the stem, if this does not start with a digit, or the stem behind an
underscore. -/
theorem variableName_cases (raw : String) :
    variableName raw = stem raw ∧ startsWithDigit (stem raw) = false ∨
      variableName raw = "_" ++ stem raw := by
  rw [variableName_eq]
  by_cases hdigit : startsWithDigit (stem raw) = true
  · rw [if_pos hdigit]
    exact .inr (escapeReserved_underscore (stem raw))
  · rw [if_neg hdigit]
    rcases escapeReserved_cases (stem raw) with ⟨heq, -⟩ | heq
    · exact .inl ⟨heq, Bool.not_eq_true _ ▸ hdigit⟩
    · exact .inr heq

/-- An underscore is no part of a word. -/
theorem camelize_underscore (name : String) : camelize ("_" ++ name) = camelize name := by
  rw [camelize, toList_underscore, camelize]
  rfl

theorem camelize_variableName (raw : String) :
    camelize (variableName raw) = camelize (stem raw) := by
  rcases variableName_cases raw with ⟨heq, -⟩ | heq
  · rw [heq]
  · rw [heq, camelize_underscore]

/-- A text that is not in capitals gives plain letters and digits. -/
theorem isAlphanum_of_mem_stem {raw : String} (h : inCapitals raw = false) :
    ∀ c ∈ (stem raw).toList, c.isAlphanum = true := by
  intro c hc
  rw [stem, if_neg (Bool.not_eq_true _ ▸ h)] at hc
  unfold orElse at hc
  split at hc
  · exact List.all_eq_true.1 (by decide : "value".toList.all Char.isAlphanum = true) c hc
  · exact isAlphanum_of_mem_lowerCamelize hc

/-! ## Names -/

section
variable (A : Alphabet) (raw : String)

/-- The name of a field is an identifier just if its stem is spelled as one. -/
theorem isIdentifier_variableName_iff :
    A.IsIdentifier (variableName raw) ↔ A.IsSpelled (stem raw) := by
  rcases variableName_cases raw with ⟨heq, hstart⟩ | heq
  · rw [heq]
    exact ⟨fun h => h.toIsSpelled, fun h => ⟨h, Alphabet.begins_digit_eq_false hstart⟩⟩
  · rw [heq]
    exact Alphabet.isIdentifier_underscore_iff (stem_ne_empty raw)

/-- A stem is spelled as one if it is camel case, and otherwise if the text in small letters is. -/
theorem isSpelled_stem_iff :
    A.IsSpelled (stem raw) ↔
      (inCapitals raw = true → ∀ c ∈ (lower raw).toList, A.nameChar c = true) := by
  cases h : inCapitals raw with
  | true =>
    rw [stem, if_pos h]
    exact ⟨fun hs _ => hs.chars, fun hs => ⟨lower_ne_empty (ne_empty_of_inCapitals h), hs rfl⟩⟩
  | false =>
    refine iff_of_true ?_ fun hc => nomatch hc
    exact .of_isAlphanum (stem_ne_empty raw) (isAlphanum_of_mem_stem h)

/-- The name of a field or of a parameter is never empty, never starts with a digit of any script
and is never a reserved word. It has letters, digits and underscores only, unless its text is
written in capitals, has no underscore, and has some other character when it is put in small
letters. -/
theorem variableName_spelled :
    parameterName raw = variableName raw ∧
      variableName raw ≠ "" ∧ startsWithDigit (variableName raw) = false ∧
      isReserved (variableName raw) = false ∧
      (A.IsIdentifier (variableName raw) ↔
        (inCapitals raw = true → ∀ c ∈ (lower raw).toList, A.nameChar c = true)) := by
  have hstart : variableName raw ≠ "" ∧ startsWithDigit (variableName raw) = false := by
    rcases variableName_cases raw with ⟨heq, hstart⟩ | heq
    · rw [heq]
      exact ⟨stem_ne_empty raw, hstart⟩
    · rw [heq, startsWithDigit_eq, begins_append (by decide)]
      exact ⟨by simp, rfl⟩
  have hfree : isReserved (variableName raw) = false := by
    rw [variableName_eq]
    exact (escapeReserved_free _).1
  refine ⟨rfl, hstart.1, hstart.2, hfree, ?_⟩
  rw [isIdentifier_variableName_iff, isSpelled_stem_iff]

end

/-- Capitals without a separator, a digit first, a reserved word and camel case give identifiers. -/
theorem variableName_spelled_examples :
    variableName "2FA" = "_2fa" ∧ variableName "CLASS" = "_class" ∧
      variableName "X-Rate-Limit" = "xRateLimit" ∧
      ∀ raw ∈ ["2FA", "CLASS", "X-Rate-Limit"],
        Alphabet.plain.IsIdentifier (variableName raw) := by
  refine ⟨by decide +kernel, by decide +kernel, by decide +kernel, fun raw hraw => ?_⟩
  refine (variableName_spelled Alphabet.plain raw).2.2.2.2.2 fun hcapitals => ?_
  have hspelled : ["2FA", "CLASS", "X-Rate-Limit"].all (fun raw =>
      !inCapitals raw || (lower raw).toList.all Alphabet.plain.nameChar) = true := by
    decide +kernel
  have hchars := List.all_eq_true.1 hspelled raw hraw
  rw [hcapitals, Bool.not_true, Bool.false_or] at hchars
  exact List.all_eq_true.1 hchars

/-- But the name of a header in capitals keeps its hyphens, which are no letters. -/
theorem header_not_identifier :
    variableName "X-RATE-LIMIT" = "x-rate-limit" ∧
      ¬∃ A : Alphabet, A.letter '-' = false ∧ A.IsIdentifier (variableName "X-RATE-LIMIT") := by
  have hname : variableName "X-RATE-LIMIT" = "x-rate-limit" := by decide +kernel
  refine ⟨hname, ?_⟩
  rintro ⟨A, hletter, hidentifier⟩
  rw [hname] at hidentifier
  have hchar := hidentifier.chars '-' (by decide)
  have hdigit : A.digit '-' = false :=
    Bool.eq_false_iff.2 fun h => absurd (A.isDigit_of_digit h) (by decide)
  rw [Alphabet.nameChar, hletter, hdigit] at hchar
  exact absurd hchar (by decide)

end ClientGen.Java
