import ClientGen.Java.Name
import ClientGen.Text.Pieces

/-!
# The characters of names

The names of classes are made of plain letters and digits ([isAlphanum_of_mem_modelName],
[exists_apiName_eq]), those of constants of capitals, digits and underscores
([isConstantChar_of_mem_constantName]). What is said of a plain letter or digit is found out by
trying all ASCII characters ([forall_ascii]).
-/

namespace ClientGen

/-! ## Plain letters and digits -/

/-- What holds of the first 128 characters holds of every ASCII character. -/
theorem forall_ascii {P : Char → Prop} (h : ∀ n : Fin 128, P (Char.ofNat n)) {c : Char}
    (hc : c.toNat < 128) : P c := by
  have hn := h ⟨c.toNat, hc⟩
  rwa [Char.ofNat_toNat] at hn

/-- Plain letters and digits are ASCII characters. -/
theorem toNat_lt_of_isAlphanum {c : Char} (h : c.isAlphanum = true) : c.toNat < 128 := by
  have hranges : (decide ('A'.val ≤ c.val ∧ c.val ≤ 'Z'.val) ||
      decide ('a'.val ≤ c.val) && decide (c.val ≤ 'z'.val) ||
      decide ('0'.val ≤ c.val) && decide (c.val ≤ '9'.val)) = true := h
  simp only [Bool.or_eq_true, Bool.and_eq_true, decide_eq_true_eq,
    UInt32.le_iff_toNat_le] at hranges
  have hc : c.toNat = c.val.toNat := rfl
  have hZ : 'Z'.val.toNat = 90 := rfl
  have hz : 'z'.val.toNat = 122 := rfl
  have h9 : '9'.val.toNat = 57 := rfl
  omega

/-- What holds of the plain letters and digits among the first 128 characters holds of all. -/
theorem forall_alphanum {P : Char → Prop}
    (h : ∀ n : Fin 128, (Char.ofNat n).isAlphanum = true → P (Char.ofNat n)) {c : Char}
    (hc : c.isAlphanum = true) : P c :=
  forall_ascii (P := fun c => c.isAlphanum = true → P c) h (toNat_lt_of_isAlphanum hc) hc

/-- In another case a plain letter or digit is one again, and its capital is the same. -/
theorem recased_of_isAlphanum {c : Char} (h : c.isAlphanum = true) :
    (c.toUpper.isAlphanum = true ∧ c.toUpper.toUpper = c.toUpper) ∧
      c.toLower.isAlphanum = true ∧ c.toLower.toUpper = c.toUpper :=
  forall_alphanum (P := fun c => (c.toUpper.isAlphanum = true ∧ c.toUpper.toUpper = c.toUpper) ∧
    c.toLower.isAlphanum = true ∧ c.toLower.toUpper = c.toUpper) (by decide +kernel) h

theorem isAlphanum_toUpper {c : Char} (h : c.isAlphanum = true) : c.toUpper.isAlphanum = true :=
  (recased_of_isAlphanum h).1.1

theorem toUpper_toUpper {c : Char} (h : c.isAlphanum = true) : c.toUpper.toUpper = c.toUpper :=
  (recased_of_isAlphanum h).1.2

theorem isAlphanum_toLower {c : Char} (h : c.isAlphanum = true) : c.toLower.isAlphanum = true :=
  (recased_of_isAlphanum h).2.1

theorem toUpper_toLower {c : Char} (h : c.isAlphanum = true) : c.toLower.toUpper = c.toUpper :=
  (recased_of_isAlphanum h).2.2

/-- A capital is its own capital. -/
theorem toUpper_of_isUpper {c : Char} (h : c.isUpper = true) : c.toUpper = c := by
  have hrange : 'A'.val ≤ c.val ∧ c.val ≤ 'Z'.val := of_decide_eq_true h
  have hnot : ¬('a'.val ≤ c.val ∧ c.val ≤ 'z'.val) := by
    rintro ⟨hsmall, -⟩
    exact absurd (UInt32.le_trans hsmall hrange.2) (by decide)
  exact dif_neg hnot

/-- Whether a character is a plain letter, a digit or an underscore. -/
def isNameChar (c : Char) : Bool := c.isAlphanum || c == '_'

theorem isNameChar_of_isAlphanum {c : Char} (h : c.isAlphanum = true) : isNameChar c = true := by
  simp [isNameChar, h]

/-- Whether a character is a plain capital, a digit or an underscore. -/
def isConstantChar (c : Char) : Bool := c.isUpper || c.isDigit || c == '_'

theorem isNameChar_of_isConstantChar {c : Char} (h : isConstantChar c = true) :
    isNameChar c = true := by
  rcases Bool.or_eq_true_iff.1 h with h | h
  · refine isNameChar_of_isAlphanum (Bool.or_eq_true_iff.2 ?_)
    exact (Bool.or_eq_true_iff.1 h).imp_left fun h => Bool.or_eq_true_iff.2 (.inl h)
  · exact Bool.or_eq_true_iff.2 (.inr h)

/-! ## Words -/

namespace Text

theorem isAlphanum_of_mem_camelChars {start : Bool} {cs : List Char} {c : Char}
    (h : c ∈ camelChars start cs) : c.isAlphanum = true := by
  induction cs generalizing start with
  | nil => cases h
  | cons d cs ih =>
    rw [camelChars] at h
    split at h
    · next hd =>
      rcases List.mem_cons.1 h with rfl | h
      · split
        · exact isAlphanum_toUpper hd
        · exact hd
      · exact ih h
    · exact ih h

/-- Camel case has plain letters and digits only. -/
theorem isAlphanum_of_mem_camelize {s : String} {c : Char} (h : c ∈ (camelize s).toList) :
    c.isAlphanum = true := by
  rw [camelize, String.toList_ofList] at h
  exact isAlphanum_of_mem_camelChars h

/-- Behind the start of a run plain letters and digits stay as they are. -/
theorem camelChars_false_eq_self {cs : List Char} (h : ∀ c ∈ cs, c.isAlphanum = true) :
    camelChars false cs = cs := by
  induction cs with
  | nil => rfl
  | cons c cs ih =>
    rw [camelChars, if_pos (h c List.mem_cons_self), if_neg Bool.false_ne_true,
      ih fun d hd => h d (List.mem_cons_of_mem c hd)]

/-- Other characters are in no run. -/
theorem runs_cons_of_not {c : Char} (hc : c.isAlphanum = false) (cs : List Char) :
    runs (c :: cs) = runs cs := by
  rw [runs.eq_def]
  simp only [hc, Bool.false_eq_true, if_false]

/-- In front of them a run ends, -/
theorem runs_cons_cons_of_not {c d : Char} (hc : c.isAlphanum = true) (hd : d.isAlphanum = false)
    (cs : List Char) : runs (c :: d :: cs) = [c] :: runs cs := by
  rw [runs.eq_def]
  simp only [hc, hd, if_true, Bool.false_eq_true, if_false, runs_cons_of_not hd]

/-- and otherwise it goes on. -/
theorem runs_cons_cons {c d : Char} (hc : c.isAlphanum = true) (hd : d.isAlphanum = true)
    {cs r : List Char} {rs : List (List Char)} (h : runs (d :: cs) = r :: rs) :
    runs (c :: d :: cs) = (c :: r) :: rs := by
  rw [runs.eq_def]
  simp only [hc, hd, if_true, h]

/-- A plain letter or digit begins a run. -/
theorem exists_runs_cons_eq {c : Char} (hc : c.isAlphanum = true) (cs : List Char) :
    ∃ r rs, runs (c :: cs) = (c :: r) :: rs := by
  unfold runs
  rw [if_pos hc]
  split
  · exact ⟨_, _, rfl⟩
  · split
    · split
      · exact ⟨_, _, rfl⟩
      · exact ⟨_, _, rfl⟩
    · exact ⟨_, _, rfl⟩

/-- A run is one of the further characters, or begins with the first one, a letter or digit. -/
theorem mem_runs_cons {c : Char} {cs r : List Char} (h : r ∈ runs (c :: cs)) :
    r ∈ runs cs ∨ c.isAlphanum = true ∧ (r = [c] ∨ ∃ r' ∈ runs cs, r = c :: r') := by
  unfold runs at h
  split at h
  · next hc =>
    split at h
    · exact .inr ⟨hc, .inl (List.mem_singleton.1 h)⟩
    · split at h
      · split at h
        · exact .inr ⟨hc, .inl (List.mem_singleton.1 h)⟩
        · next first rest hruns =>
          rw [hruns]
          rcases List.mem_cons.1 h with h | h
          · exact .inr ⟨hc, .inr ⟨first, List.mem_cons_self, h⟩⟩
          · exact .inl (List.mem_cons_of_mem first h)
      · rcases List.mem_cons.1 h with h | h
        · exact .inr ⟨hc, .inl h⟩
        · exact .inl h
  · exact .inl h

theorem isAlphanum_of_mem_runs {cs r : List Char} (hr : r ∈ runs cs) {c : Char} (hc : c ∈ r) :
    c.isAlphanum = true := by
  induction cs generalizing r with
  | nil => cases hr
  | cons d cs ih =>
    rcases mem_runs_cons hr with hr | ⟨hd, rfl | ⟨r', hr', rfl⟩⟩
    · exact ih hr hc
    · rwa [List.mem_singleton.1 hc]
    · rcases List.mem_cons.1 hc with rfl | hc
      · exact hd
      · exact ih hr' hc

/-- A word is one of the further characters, or begins with the first one. -/
theorem mem_humps_cons {c : Char} {cs w : List Char} (h : w ∈ humps (c :: cs)) :
    w ∈ humps cs ∨ w = [c] ∨ ∃ w' ∈ humps cs, w = c :: w' := by
  cases cs with
  | nil => exact .inr (.inl (List.mem_singleton.1 h))
  | cons d cs =>
    unfold humps at h
    split at h
    · exact .inr (.inl (List.mem_singleton.1 h))
    · next first rest hhumps =>
      rw [hhumps]
      split at h
      · rcases List.mem_cons.1 h with h | h
        · exact .inr (.inl h)
        · exact .inl h
      · rcases List.mem_cons.1 h with h | h
        · exact .inr (.inr ⟨first, List.mem_cons_self, h⟩)
        · exact .inl (List.mem_cons_of_mem first h)

/-- Cutting a run into words makes no new characters. -/
theorem mem_of_mem_humps {cs w : List Char} (hw : w ∈ humps cs) {c : Char} (hc : c ∈ w) :
    c ∈ cs := by
  induction cs generalizing w with
  | nil => cases hw
  | cons d cs ih =>
    rcases mem_humps_cons hw with hw | rfl | ⟨w', hw', rfl⟩
    · exact List.mem_cons_of_mem d (ih hw hc)
    · rw [List.mem_singleton.1 hc]
      exact List.mem_cons_self
    · rcases List.mem_cons.1 hc with rfl | hc
      · exact List.mem_cons_self
      · exact List.mem_cons_of_mem d (ih hw' hc)

theorem isAlphanum_of_mem_words {cs w : List Char} (hw : w ∈ words cs) {c : Char} (hc : c ∈ w) :
    c.isAlphanum = true := by
  obtain ⟨r, hr, hw⟩ := List.mem_flatMap.1 hw
  exact isAlphanum_of_mem_runs hr (mem_of_mem_humps hw hc)

/-- Words joined by underscores. -/
theorem isNameChar_of_mem_underscore {s : String} {c : Char} (h : c ∈ (underscore s).toList) :
    isNameChar c = true := by
  rw [underscore, String.toList_ofList] at h
  rcases mem_of_mem_intercalate h with h | ⟨w, hw, h⟩
  · rw [List.mem_singleton.1 h]
    rfl
  · obtain ⟨w', hw', rfl⟩ := List.mem_map.1 hw
    obtain ⟨d, hd, rfl⟩ := List.mem_map.1 h
    exact isNameChar_of_isAlphanum (isAlphanum_toLower (isAlphanum_of_mem_words hw' hd))

/-- The capital of a character of a name can stand in that of a constant. -/
theorem isConstantChar_of_mem_upperForm {c d : Char} (hc : isNameChar c = true)
    (hd : d ∈ upperForm c) : isConstantChar d = true := by
  have hascii : c.toNat < 128 := by
    rcases Bool.or_eq_true_iff.1 hc with h | h
    · exact toNat_lt_of_isAlphanum h
    · rw [eq_of_beq h]
      decide
  rw [upperForm, if_pos hascii, List.mem_singleton] at hd
  rw [hd]
  exact forall_ascii (P := fun c => isNameChar c = true → isConstantChar c.toUpper = true)
    (by decide +kernel) hascii hc

end Text

/-! ## Names of classes and constants -/

namespace Java

open Text

/-- The name of the class of a schema is its words, or a word for none, perhaps behind that word. -/
theorem modelName_induction {P : String → Prop} (raw : String)
    (hwords : P (orElse (camelize raw) "Model")) (hbehind : ∀ name, P name → P ("Model" ++ name)) :
    P (modelName raw) := by
  have hif (b : Bool) {name : String} (h : P name) : P (if b then "Model" ++ name else name) := by
    cases b with
    | false => exact h
    | true => exact hbehind name h
  unfold modelName
  exact hif _ (hif _ hwords)

/-- A class has a name. -/
theorem modelName_ne_empty (raw : String) : modelName raw ≠ "" := by
  refine modelName_induction (P := fun name => name ≠ "") raw ?_ (fun name _ => by simp)
  unfold orElse
  split
  · decide
  · next h => exact h

/-- It has plain letters and digits only. -/
theorem isAlphanum_of_mem_modelName (raw : String) :
    ∀ c ∈ (modelName raw).toList, c.isAlphanum = true := by
  have hmodel : ∀ c ∈ "Model".toList, c.isAlphanum = true := List.all_eq_true.1 (by decide)
  refine modelName_induction (P := fun name => ∀ c ∈ name.toList, c.isAlphanum = true) raw ?_
    (fun name hname c hc => ?_)
  · unfold orElse
    split
    · exact hmodel
    · exact fun c hc => isAlphanum_of_mem_camelize hc
  · rw [String.toList_append, List.mem_append] at hc
    exact hc.elim (hmodel c) (hname c)

/-- So has the name of the interface of a group, in front of a fixed end. -/
theorem exists_apiName_eq (tag : String) :
    ∃ name, apiName tag = name ++ "Api" ∧ ∀ c ∈ name.toList, c.isAlphanum = true := by
  unfold apiName
  split
  · exact ⟨"Default", rfl, List.all_eq_true.1 (by decide)⟩
  · exact ⟨camelize tag, rfl, fun c hc => isAlphanum_of_mem_camelize hc⟩

/-- The name of a constant has plain capitals, digits and underscores only. -/
theorem isConstantChar_of_mem_constantName {value : String} {c : Char}
    (h : c ∈ (constantName value).toList) : isConstantChar c = true := by
  have hupper : ∀ d ∈ (upper (underscore value)).toList, isConstantChar d = true := by
    intro d hd
    rw [upper, String.toList_ofList, List.mem_flatMap] at hd
    obtain ⟨e, he, hd⟩ := hd
    exact isConstantChar_of_mem_upperForm (isNameChar_of_mem_underscore he) hd
  unfold constantName at h
  simp only at h
  split at h
  · exact List.all_eq_true.1 (by decide : "EMPTY".toList.all isConstantChar = true) c h
  · split at h
    · rw [String.toList_append, List.mem_append] at h
      rcases h with h | h
      · rw [List.mem_singleton.1 h]
        rfl
      · exact hupper c h
    · exact hupper c h

theorem isNameChar_of_mem_constantName {value : String} {c : Char}
    (h : c ∈ (constantName value).toList) : isNameChar c = true :=
  isNameChar_of_isConstantChar (isConstantChar_of_mem_constantName h)

end Java

end ClientGen
