import ClientGen.Proofs.Lists
import ClientGen.Proofs.Names.Derived

/-!
# The words of constants

The name of a constant is made of the words of its value, in capitals and joined by underscores
([constantName_eq]), where a value without words has one of its own ([constantWords]). The words can
be read off the name again ([wordsOfConstant_constantName]). So two values have one constant just if
they are made of the same words, however these are written ([constantName_eq_iff]).
-/

namespace ClientGen

open Text

/-! ## Small words -/

namespace Text

/-- Pieces that are joined at a separator are cut there again. -/
theorem pieces_intercalate {sep : Char} {parts : List (List Char)} (hne : parts ≠ [])
    (h : ∀ p ∈ parts, sep ∉ p) : pieces sep ([sep].intercalate parts) = parts := by
  induction parts with
  | nil => exact absurd rfl hne
  | cons p parts ih =>
    have hp : sep ∉ p := h p List.mem_cons_self
    cases parts with
    | nil => rw [List.intercalate_singleton, pieces_of_not_mem hp]
    | cons q parts =>
      rw [List.intercalate_cons_cons, List.append_assoc, List.singleton_append, pieces_append hp,
        ih (List.cons_ne_nil q parts) fun r hr => h r (List.mem_cons_of_mem p hr)]

theorem ne_nil_of_mem_runs {cs r : List Char} (h : r ∈ runs cs) : r ≠ [] := by
  induction cs generalizing r with
  | nil => cases h
  | cons c cs ih =>
    rcases mem_runs_cons h with h | ⟨_, rfl | ⟨r', _, rfl⟩⟩
    · exact ih h
    · exact List.cons_ne_nil c []
    · exact List.cons_ne_nil c r'

theorem ne_nil_of_mem_humps {cs w : List Char} (h : w ∈ humps cs) : w ≠ [] := by
  induction cs generalizing w with
  | nil => cases h
  | cons c cs ih =>
    rcases mem_humps_cons h with h | rfl | ⟨w', _, rfl⟩
    · exact ih h
    · exact List.cons_ne_nil c []
    · exact List.cons_ne_nil c w'

/-- Letters and digits alone are one run. -/
theorem runs_eq_singleton {cs : List Char} (hne : cs ≠ []) (h : ∀ c ∈ cs, c.isAlphanum = true) :
    runs cs = [cs] := by
  induction cs with
  | nil => exact absurd rfl hne
  | cons c cs ih =>
    have hc := h c List.mem_cons_self
    cases cs with
    | nil => simp only [runs, hc, if_true]
    | cons d cs =>
      have hd := h d (List.mem_cons_of_mem c List.mem_cons_self)
      exact runs_cons_cons hc hd <| ih (List.cons_ne_nil d cs) fun e he =>
        h e (List.mem_cons_of_mem c he)

/-- Without capitals it is one word. -/
theorem humps_eq_singleton {cs : List Char} (hne : cs ≠ []) (h : ∀ c ∈ cs, c.isUpper = false) :
    humps cs = [cs] := by
  induction cs with
  | nil => exact absurd rfl hne
  | cons c cs ih =>
    cases cs with
    | nil => rfl
    | cons d cs =>
      have hd := h d (List.mem_cons_of_mem c List.mem_cons_self)
      have ih := ih (List.cons_ne_nil d cs) fun e he => h e (List.mem_cons_of_mem c he)
      rw [humps, ih]
      simp only [hd, Bool.false_and, Bool.false_eq_true, if_false]

/-- The words of a text in small letters. -/
def smallWords (s : String) : List (List Char) := (words s.toList).map (·.map Char.toLower)

/-- Such a word is not empty. -/
theorem ne_nil_of_mem_smallWords {s : String} {w : List Char} (h : w ∈ smallWords s) : w ≠ [] := by
  obtain ⟨w, hw, rfl⟩ := List.mem_map.1 h
  obtain ⟨r, _, hw⟩ := List.mem_flatMap.1 hw
  exact mt List.map_eq_nil_iff.1 (ne_nil_of_mem_humps hw)

/-- Whether a character is a plain small letter or a digit. -/
def isSmall (c : Char) : Bool := c.isLower || c.isDigit

theorem isSmall_of_mem_smallWords {s : String} {w : List Char} (h : w ∈ smallWords s) {c : Char}
    (hc : c ∈ w) : isSmall c = true := by
  obtain ⟨w, hw, rfl⟩ := List.mem_map.1 h
  obtain ⟨d, hd, rfl⟩ := List.mem_map.1 hc
  exact forall_alphanum (P := fun d => isSmall d.toLower = true) (by decide +kernel)
    (isAlphanum_of_mem_words hw hd)

theorem isAlphanum_of_isSmall {c : Char} (h : isSmall c = true) : c.isAlphanum = true := by
  rcases Bool.or_eq_true_iff.1 h with h | h
  · exact Bool.or_eq_true_iff.2 (.inl (Bool.or_eq_true_iff.2 (.inr h)))
  · exact Bool.or_eq_true_iff.2 (.inr h)

/-- A small letter or digit is back after it was made a capital. -/
theorem toLower_toUpper_of_isSmall {c : Char} (h : isSmall c = true) : c.toUpper.toLower = c :=
  forall_alphanum (P := fun c => isSmall c = true → c.toUpper.toLower = c) (by decide +kernel)
    (isAlphanum_of_isSmall h) h

/-- Small words are written in capitals character by character. -/
theorem upper_ofList {cs : List Char} (h : ∀ c ∈ cs, c.toNat < 128) :
    upper (String.ofList cs) = String.ofList (cs.map Char.toUpper) := by
  rw [upper, String.toList_ofList]
  refine congrArg String.ofList ?_
  induction cs with
  | nil => rfl
  | cons c cs ih =>
    rw [List.flatMap_cons, upperForm, if_pos (h c List.mem_cons_self),
      ih fun d hd => h d (List.mem_cons_of_mem c hd)]
    rfl

end Text

namespace Java

/-! ## Constants -/

/-- The words that the constant for a value is made of. -/
def constantWords (value : String) : List (List Char) :=
  if smallWords value = [] then ["empty".toList] else smallWords value

theorem constantWords_ne_nil (value : String) : constantWords value ≠ [] := by
  unfold constantWords
  split
  · exact List.cons_ne_nil _ _
  · assumption

/-- They are small and not empty. -/
theorem of_mem_constantWords {value : String} {w : List Char} (h : w ∈ constantWords value) :
    w ≠ [] ∧ ∀ c ∈ w, isSmall c = true := by
  unfold constantWords at h
  split at h
  · rw [List.mem_singleton.1 h]
    exact ⟨by decide, List.all_eq_true.1 (by decide)⟩
  · exact ⟨ne_nil_of_mem_smallWords h, fun c hc => isSmall_of_mem_smallWords h hc⟩

/-- The words joined by underscores. -/
def joinedWords (value : String) : List Char := ['_'].intercalate (constantWords value)

theorem mem_joinedWords {value : String} {c : Char} (h : c ∈ joinedWords value) :
    c.toNat < 128 ∧ c.toUpper.toLower = c := by
  rcases mem_of_mem_intercalate h with h | ⟨w, hw, h⟩
  · rw [List.mem_singleton.1 h]
    decide
  · have hsmall := (of_mem_constantWords hw).2 c h
    exact ⟨toNat_lt_of_isAlphanum (isAlphanum_of_isSmall hsmall), toLower_toUpper_of_isSmall hsmall⟩

/-- They begin with a small letter or digit. -/
theorem exists_joinedWords_eq (value : String) :
    ∃ c rest, joinedWords value = c :: rest ∧ isSmall c = true := by
  unfold joinedWords
  cases hwords : constantWords value with
  | nil => exact absurd hwords (constantWords_ne_nil value)
  | cons w ws =>
    have hw : w ∈ constantWords value := hwords ▸ List.mem_cons_self
    obtain ⟨hne, hsmall⟩ := of_mem_constantWords hw
    obtain ⟨c, w, rfl⟩ := List.exists_cons_of_ne_nil hne
    refine ⟨c, ?_⟩
    cases ws with
    | nil => exact ⟨w, List.intercalate_singleton, hsmall c List.mem_cons_self⟩
    | cons v ws =>
      refine ⟨w ++ ['_'] ++ ['_'].intercalate (v :: ws), ?_, hsmall c List.mem_cons_self⟩
      rw [List.intercalate_cons_cons, List.cons_append, List.cons_append]

/-- A constant is its words in capitals, behind an underscore if a digit comes first. -/
theorem constantName_eq (value : String) :
    let name := String.ofList ((joinedWords value).map Char.toUpper)
    constantName value = if startsWithDigit name then "_" ++ name else name := by
  intro name
  have hupper : upper (String.ofList (joinedWords value)) = name :=
    upper_ofList fun c hc => (mem_joinedWords hc).1
  by_cases hempty : smallWords value = []
  · have hwords : joinedWords value = "empty".toList := by
      rw [joinedWords, constantWords, if_pos hempty, List.intercalate_singleton]
    have hname : name = "EMPTY" := by
      change String.ofList ((joinedWords value).map Char.toUpper) = _
      rw [hwords]
      decide
    have hnone : underscore value = "" := by
      change String.ofList (['_'].intercalate (smallWords value)) = ""
      rw [hempty]
      rfl
    rw [hname, constantName, hnone]
    decide
  · have hjoined : upper (underscore value) = name := by
      rw [← hupper, joinedWords, constantWords, if_neg hempty]
      rfl
    have hne : name ≠ "" := by
      obtain ⟨c, rest, hcons, _⟩ := exists_joinedWords_eq value
      change String.ofList ((joinedWords value).map Char.toUpper) ≠ ""
      rw [hcons]
      simp
    unfold constantName
    simp only [hjoined, if_neg hne]

/-- The words of a constant. -/
def wordsOfConstant (name : String) : List (List Char) :=
  pieces '_' ((trimCharStart '_' name).toList.map Char.toLower)

/-- The words that a constant is made of can be read off it. -/
theorem wordsOfConstant_constantName (value : String) :
    wordsOfConstant (constantName value) = constantWords value := by
  have hbegins :
      begins (· == '_') (String.ofList ((joinedWords value).map Char.toUpper)) = false := by
    obtain ⟨c, rest, hcons, hsmall⟩ := exists_joinedWords_eq value
    rw [hcons, begins, String.toList_ofList, List.map_cons, List.head?_cons, Option.any_some]
    exact forall_alphanum (P := fun c => (c.toUpper == '_') = false) (by decide +kernel)
      (isAlphanum_of_isSmall hsmall)
  have htrim : trimCharStart '_' (constantName value) =
      String.ofList ((joinedWords value).map Char.toUpper) := by
    rw [constantName_eq]
    split
    · exact (trimCharStart_underscore hbegins).2
    · exact (trimCharStart_underscore hbegins).1
  have hsmall : ((joinedWords value).map Char.toUpper).map Char.toLower = joinedWords value := by
    rw [List.map_map, map_eq_self_iff]
    exact fun c hc => (mem_joinedWords hc).2
  rw [wordsOfConstant, htrim, String.toList_ofList, hsmall, joinedWords]
  refine pieces_intercalate (constantWords_ne_nil value) fun w hw hin => ?_
  exact absurd ((of_mem_constantWords hw).2 '_' hin) (by decide)

/-- So two values have one constant just if they are made of the same words. -/
theorem constantName_eq_iff {v w : String} :
    constantName v = constantName w ↔ constantWords v = constantWords w := by
  constructor
  · intro h
    rw [← wordsOfConstant_constantName, h, wordsOfConstant_constantName]
  · intro h
    rw [constantName_eq, constantName_eq, joinedWords, h, joinedWords]

/-! ## Words in small letters -/

/-- Whether a value is one word in small letters. -/
structure IsSmallWord (value : String) : Prop where
  nonempty : value ≠ ""
  chars : ∀ c ∈ value.toList, isSmall c = true

instance (value : String) : Decidable (IsSmallWord value) :=
  decidable_of_iff (value ≠ "" ∧ value.toList.all isSmall = true)
    ⟨fun h => ⟨h.1, List.all_eq_true.1 h.2⟩, fun h => ⟨h.nonempty, List.all_eq_true.2 h.chars⟩⟩

/-- Its constant is made of that word. -/
theorem IsSmallWord.constantWords_eq {value : String} (h : IsSmallWord value) :
    constantWords value = [value.toList] := by
  have hne : value.toList ≠ [] := mt String.toList_eq_nil_iff.1 h.nonempty
  have hwords : words value.toList = [value.toList] := by
    rw [words, runs_eq_singleton hne fun c hc => isAlphanum_of_isSmall (h.chars c hc),
      List.flatMap_singleton]
    refine humps_eq_singleton hne fun c hc => ?_
    exact forall_alphanum (P := fun c => isSmall c = true → c.isUpper = false) (by decide +kernel)
      (isAlphanum_of_isSmall (h.chars c hc)) (h.chars c hc)
  have hlower : value.toList.map Char.toLower = value.toList := by
    refine map_eq_self_iff.2 fun c hc => ?_
    exact forall_alphanum (P := fun c => isSmall c = true → c.toLower = c) (by decide +kernel)
      (isAlphanum_of_isSmall (h.chars c hc)) (h.chars c hc)
  have hsmall : smallWords value = [value.toList] := by
    rw [smallWords, hwords, List.map_singleton, hlower]
  rw [constantWords, hsmall, if_neg (List.cons_ne_nil _ _)]

end Java

end ClientGen
