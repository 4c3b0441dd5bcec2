import ClientGen.Proofs.Names.Constants
import Mathlib.Data.List.Basic

/-!
# Names that are spelled again

Camel case is the words of a text, each with a capital ([toList_camelize]). A text that is spelled
in camel case has other words than the one that it was made from: a small letter in front makes a
word out of the capitals behind it. But only its first letter has to be a capital to spell it again
([toList_camelize_of_isAlphanum]), so nothing changes ([camelize_lowerCamelize]). The key of a tag
is made of the runs of the tag, which are found in it again ([runs_intercalate]), so it has the same
words ([words_tagKey]).
-/

namespace ClientGen

namespace Text

/-! ## Words with capitals -/

/-- A text whose first character is written as a capital. -/
def upperFirst : List Char → List Char
  | [] => []
  | c :: rest => c.toUpper :: rest

/-- The first word of a run begins like the run. -/
theorem exists_humps_cons_eq (c : Char) (cs : List Char) :
    ∃ w ws, humps (c :: cs) = (c :: w) :: ws := by
  cases cs with
  | nil => exact ⟨[], [], rfl⟩
  | cons d cs =>
    unfold humps
    split
    · exact ⟨_, _, rfl⟩
    · split
      · exact ⟨_, _, rfl⟩
      · exact ⟨_, _, rfl⟩

/-- The words of a run behind the first one begin with capitals already. -/
theorem flatMap_upperFirst_humps (cs : List Char) :
    (humps cs).flatMap upperFirst = upperFirst cs := by
  induction cs with
  | nil => rfl
  | cons c cs ih =>
    cases cs with
    | nil => rfl
    | cons d cs =>
      obtain ⟨w, ws, hwords⟩ := exists_humps_cons_eq d cs
      rw [hwords, List.flatMap_cons] at ih
      have hrest : w ++ ws.flatMap upperFirst = cs := List.cons_injective ih
      rw [humps, hwords]
      by_cases hcut : (d.isUpper && !c.isUpper) = true
      · have hupper : d.isUpper = true := (Bool.and_eq_true_iff.1 hcut).1
        simp only [hcut, if_true, List.flatMap_cons, upperFirst, toUpper_of_isUpper hupper,
          List.cons_append, List.nil_append, hrest]
      · simp only [hcut, Bool.false_eq_true, if_false, List.flatMap_cons, upperFirst,
          List.cons_append, hrest]

/-- Camel case is made run by run. -/
theorem camelChars_eq_flatMap_runs (cs : List Char) :
    camelChars true cs = (runs cs).flatMap upperFirst ∧
      ∀ c : Char, c.isAlphanum = true →
        c.toUpper :: camelChars false cs = (runs (c :: cs)).flatMap upperFirst := by
  induction cs with
  | nil =>
    refine ⟨rfl, fun c hc => ?_⟩
    have hrun : runs [c] = [[c]] := by simp only [runs, hc, if_true]
    rw [hrun]
    rfl
  | cons d cs ih =>
    obtain ⟨hstart, hinside⟩ := ih
    cases hd : d.isAlphanum with
    | true =>
      obtain ⟨r, rs, hruns⟩ := exists_runs_cons_eq hd cs
      have hfirst := hinside d hd
      constructor
      · rw [camelChars, if_pos hd, if_pos rfl, hfirst]
      · intro c hc
        rw [hruns, List.flatMap_cons] at hfirst
        have hrest : camelChars false cs = r ++ rs.flatMap upperFirst := List.cons_injective hfirst
        rw [camelChars, if_pos hd, if_neg Bool.false_ne_true, hrest, runs_cons_cons hc hd hruns]
        rfl
    | false =>
      have hnext (start : Bool) : camelChars start (d :: cs) = camelChars true cs := by
        rw [camelChars, if_neg (hd ▸ Bool.false_ne_true)]
      constructor
      · rw [hnext, runs_cons_of_not hd, hstart]
      · intro c hc
        rw [hnext, hstart, runs_cons_cons_of_not hc hd, List.flatMap_cons]
        rfl

/-- Camel case is the words of a text, each with a capital. -/
theorem toList_camelize (s : String) :
    (camelize s).toList = (words s.toList).flatMap upperFirst := by
  rw [camelize, String.toList_ofList, (camelChars_eq_flatMap_runs s.toList).1, words,
    List.flatMap_assoc]
  simp only [flatMap_upperFirst_humps]

/-! ## Camel case again -/

/-- Of plain letters and digits only the first one is written as a capital. -/
theorem toList_camelize_of_isAlphanum {s : String} (h : ∀ c ∈ s.toList, c.isAlphanum = true) :
    (camelize s).toList = upperFirst s.toList := by
  rw [camelize, String.toList_ofList]
  cases hs : s.toList with
  | nil => rfl
  | cons c cs =>
    rw [hs] at h
    rw [camelChars, if_pos (h c List.mem_cons_self), if_pos rfl, upperFirst,
      camelChars_false_eq_self fun d hd => h d (List.mem_cons_of_mem c hd)]

theorem upperFirst_lowerFirst {cs : List Char} (h : ∀ c ∈ cs, c.isAlphanum = true) :
    upperFirst (lowerFirst cs) = upperFirst cs := by
  cases cs with
  | nil => rfl
  | cons c cs => rw [lowerFirst, upperFirst, upperFirst, toUpper_toLower (h c List.mem_cons_self)]

theorem upperFirst_camelChars (cs : List Char) :
    upperFirst (camelChars true cs) = camelChars true cs := by
  induction cs with
  | nil => rfl
  | cons c cs ih =>
    rw [camelChars]
    split
    · next hc => rw [if_pos rfl, upperFirst, toUpper_toUpper hc]
    · exact ih

theorem upperFirst_camelize (s : String) :
    upperFirst (camelize s).toList = (camelize s).toList := by
  rw [camelize, String.toList_ofList, upperFirst_camelChars]

theorem toList_lowerCamelize (s : String) :
    (lowerCamelize s).toList = lowerFirst (camelize s).toList := by
  rw [lowerCamelize, camelize, String.toList_ofList, String.toList_ofList]

theorem camelize_camelize (s : String) : camelize (camelize s) = camelize s := by
  rw [← String.toList_inj, toList_camelize_of_isAlphanum fun c hc => isAlphanum_of_mem_camelize hc,
    upperFirst_camelize]

/-- The small letter in front is made a capital again. -/
theorem camelize_lowerCamelize (s : String) : camelize (lowerCamelize s) = camelize s := by
  rw [← String.toList_inj,
    toList_camelize_of_isAlphanum fun c hc => isAlphanum_of_mem_lowerCamelize hc,
    toList_lowerCamelize, upperFirst_lowerFirst fun c hc => isAlphanum_of_mem_camelize hc,
    upperFirst_camelize]

theorem lowerCamelize_lowerCamelize (s : String) :
    lowerCamelize (lowerCamelize s) = lowerCamelize s := by
  rw [← String.toList_inj, toList_lowerCamelize, camelize_lowerCamelize, toList_lowerCamelize]

/-! ## Runs that are joined -/

/-- Plain letters and digits in front of a separator are a run. -/
theorem runs_append {r : List Char} (hne : r ≠ []) (hr : ∀ c ∈ r, c.isAlphanum = true) {sep : Char}
    (hsep : sep.isAlphanum = false) (rest : List Char) :
    runs (r ++ sep :: rest) = r :: runs rest := by
  induction r with
  | nil => exact absurd rfl hne
  | cons c r ih =>
    have hc := hr c List.mem_cons_self
    cases r with
    | nil => exact runs_cons_cons_of_not hc hsep rest
    | cons d r =>
      have hd := hr d (List.mem_cons_of_mem c List.mem_cons_self)
      exact runs_cons_cons hc hd <| ih (List.cons_ne_nil d r) fun e he =>
        hr e (List.mem_cons_of_mem c he)

/-- Runs that are joined by a separator are found again. -/
theorem runs_intercalate {parts : List (List Char)}
    (h : ∀ p ∈ parts, p ≠ [] ∧ ∀ c ∈ p, c.isAlphanum = true) {sep : Char}
    (hsep : sep.isAlphanum = false) : runs ([sep].intercalate parts) = parts := by
  induction parts with
  | nil => rfl
  | cons p parts ih =>
    obtain ⟨hne, hp⟩ := h p List.mem_cons_self
    cases parts with
    | nil => rw [List.intercalate_singleton, runs_eq_singleton hne hp]
    | cons q parts =>
      rw [List.intercalate_cons_cons, List.append_assoc, List.singleton_append,
        runs_append hne hp hsep, ih fun r hr => h r (List.mem_cons_of_mem p hr)]

/-- A text with a plain letter or digit has a run. -/
theorem runs_ne_nil {cs : List Char} (h : ∃ c ∈ cs, c.isAlphanum = true) : runs cs ≠ [] := by
  obtain ⟨c, hin, hc⟩ := h
  induction cs with
  | nil => cases hin
  | cons d cs ih =>
    cases hd : d.isAlphanum with
    | true =>
      obtain ⟨r, rs, hruns⟩ := exists_runs_cons_eq hd cs
      rw [hruns]
      exact List.cons_ne_nil _ _
    | false =>
      rw [runs_cons_of_not hd]
      rcases List.mem_cons.1 hin with rfl | hin
      · rw [hd] at hc
        cases hc
      · exact ih hin

end Text

namespace Java

open Text

/-! ## Keys of tags -/

/-- What the key of a tag is made of: its runs, or a word for none. -/
def keyParts (tag : String) : List (List Char) :=
  if runs tag.toList = [] then ["default".toList] else runs tag.toList

theorem keyParts_ne_nil (tag : String) : keyParts tag ≠ [] := by
  unfold keyParts
  split
  · exact List.cons_ne_nil _ _
  · assumption

/-- They are not empty and have plain letters and digits only. -/
theorem of_mem_keyParts {tag : String} {p : List Char} (h : p ∈ keyParts tag) :
    p ≠ [] ∧ ∀ c ∈ p, c.isAlphanum = true := by
  unfold keyParts at h
  split at h
  · rw [List.mem_singleton.1 h]
    exact ⟨by decide, List.all_eq_true.1 (by decide)⟩
  · exact ⟨ne_nil_of_mem_runs h, fun c hc => isAlphanum_of_mem_runs h hc⟩

theorem toList_tagKey (tag : String) : (tagKey tag).toList = ['_'].intercalate (keyParts tag) := by
  unfold tagKey orElse keyParts
  by_cases hruns : runs tag.toList = []
  · rw [if_pos hruns, hruns]
    rfl
  · have hne : String.ofList (['_'].intercalate (runs tag.toList)) ≠ "" := by
      intro hempty
      rw [← String.toList_eq_nil_iff, String.toList_ofList] at hempty
      have hback : runs (['_'].intercalate (runs tag.toList)) = runs tag.toList :=
        runs_intercalate
          (fun p hp => ⟨ne_nil_of_mem_runs hp, fun c hc => isAlphanum_of_mem_runs hp hc⟩) rfl
      rw [hempty] at hback
      exact hruns hback.symm
    rw [if_neg hne, if_neg hruns, String.toList_ofList]

/-- They are the runs of the key. -/
theorem runs_tagKey (tag : String) : runs (tagKey tag).toList = keyParts tag := by
  rw [toList_tagKey]
  exact runs_intercalate (fun p hp => of_mem_keyParts hp) rfl

theorem tagKey_tagKey (tag : String) : tagKey (tagKey tag) = tagKey tag := by
  have hparts : keyParts (tagKey tag) = keyParts tag := by
    rw [keyParts, runs_tagKey, if_neg (keyParts_ne_nil tag)]
  rw [← String.toList_inj, toList_tagKey, hparts, toList_tagKey]

section
variable {tag : String} (h : ∃ c ∈ tag.toList, c.isAlphanum = true)
include h

/-- The key has the words of the tag. -/
theorem words_tagKey : words (tagKey tag).toList = words tag.toList := by
  rw [words, runs_tagKey, keyParts, if_neg (runs_ne_nil h), words]

theorem camelize_tagKey : camelize (tagKey tag) = camelize tag := by
  rw [← String.toList_inj, toList_camelize, words_tagKey h, toList_camelize]

theorem apiName_tagKey : apiName (tagKey tag) = apiName tag := by
  have hne : tag ≠ "" := by
    rintro rfl
    obtain ⟨c, hc, -⟩ := h
    cases hc
  rw [apiName, apiName, if_neg (tagKey_ne_empty tag), if_neg hne, camelize_tagKey h]

end

/-! ## Fields -/

/-- Camel case of the name of a field is that of the text, if this is not written in capitals. -/
theorem camelize_variableName_of_plain {raw : String} (hcapitals : inCapitals raw = false)
    (h : ∃ c ∈ raw.toList, c.isAlphanum = true) : camelize (variableName raw) = camelize raw := by
  have hne : lowerCamelize raw ≠ "" := by
    rw [Ne, lowerCamelize_eq_empty_iff, firstPlain?, List.find?_eq_none]
    intro hnone
    obtain ⟨c, hin, hc⟩ := h
    exact hnone c hin hc
  rw [camelize_variableName, stem, if_neg (hcapitals ▸ Bool.false_ne_true), orElse, if_neg hne,
    camelize_lowerCamelize]

/-! ## All of them -/

/-- Names that are spelled again stay as they are, in either camel case and as keys of tags. The key
of a tag is made of plain letters and digits, joined by single underscores. A text that has such a
letter or digit has the camel case of its key, and unless it is written in capitals the methods of
its field have it too, whatever stands in front of the field. -/
theorem spelled_again (s : String) :
    camelize (camelize s) = camelize s ∧ lowerCamelize (lowerCamelize s) = lowerCamelize s ∧
      camelize (lowerCamelize s) = camelize s ∧ tagKey (tagKey s) = tagKey s ∧
      (∃ parts ≠ [], (tagKey s).toList = ['_'].intercalate parts ∧
        ∀ p ∈ parts, p ≠ [] ∧ ∀ c ∈ p, c.isAlphanum = true) ∧
      ((∃ c ∈ s.toList, c.isAlphanum = true) →
        camelize (tagKey s) = camelize s ∧ apiName (tagKey s) = apiName s ∧
          (inCapitals s = false →
            (∀ datatype, getterName (variableName s) datatype =
              (if datatype = "boolean" then "is" else "get") ++ camelize s) ∧
            setterName (variableName s) = "set" ++ camelize s)) := by
  refine ⟨camelize_camelize s, lowerCamelize_lowerCamelize s, camelize_lowerCamelize s,
    tagKey_tagKey s, ⟨keyParts s, keyParts_ne_nil s, toList_tagKey s, fun p => of_mem_keyParts⟩,
    fun h => ⟨camelize_tagKey h, apiName_tagKey h, fun hcapitals => ?_⟩⟩
  have hfield := camelize_variableName_of_plain hcapitals h
  refine ⟨fun datatype => ?_, ?_⟩
  · rw [getterName, hfield]
  · rw [setterName, hfield]

/-- A reserved word, and a text with a digit first, whose fields are put behind an underscore. -/
theorem spelled_again_underscore :
    variableName "Class" = "_class" ∧ getterName (variableName "Class") "String" = "getClass" ∧
      variableName "2nd try" = "_2ndTry" ∧
      getterName (variableName "2nd try") "boolean" = "is2ndTry" ∧
      setterName (variableName "2nd try") = "set2ndTry" ∧
      apiName (tagKey "2nd  try!") = "2ndTryApi" := by
  obtain ⟨-, -, -, -, -, hclass⟩ := spelled_again "Class"
  obtain ⟨-, -, -, -, -, htry⟩ := spelled_again "2nd try"
  obtain ⟨-, -, -, -, -, htag⟩ := spelled_again "2nd  try!"
  obtain ⟨-, -, hclass⟩ := hclass ⟨'C', by decide, rfl⟩
  obtain ⟨-, -, htry⟩ := htry ⟨'2', by decide, rfl⟩
  obtain ⟨-, htag, -⟩ := htag ⟨'2', by decide, rfl⟩
  refine ⟨by decide +kernel, ?_, by decide +kernel, ?_, ?_, ?_⟩
  · rw [(hclass (by decide +kernel)).1]
    decide +kernel
  · rw [(htry (by decide +kernel)).1]
    decide +kernel
  · rw [(htry (by decide +kernel)).2]
    decide +kernel
  · rw [htag]
    decide +kernel

end Java

end ClientGen
