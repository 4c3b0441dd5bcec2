import ClientGen.Proofs.Literals.Patterns
import ClientGen.Text.Pieces
import Mathlib.Algebra.Ring.Parity
import Mathlib.Data.List.DropRight
import Mathlib.Data.List.Induction

/-!
# Escapes are taken back

[escapeText] is made in one pass over the characters, but it is the same as three replacements one
after the other, the later of which look at what the earlier ones have put in
([escapeText_eq_replaceAll]). One pass from left to right takes the escapes back ([unescape?]): it
reads a text exactly from its escaped form ([unescaped?_eq_some_iff]). What it reads has no line
feed, and a backslash that is not escaped itself in front of every quote, so the backslashes in
front of a quote are odd in number ([escapesNext_iff]).
-/

namespace ClientGen

namespace Java

/-- The escapes are made by three replacements. Backslashes come first, since the others put in
backslashes that are no part of the text. -/
theorem escapeText_eq_replaceAll (s : String) :
    escapeText s =
      Text.replaceAll "\n" "\\n" (Text.replaceAll "\"" "\\\"" (Text.replaceAll "\\" "\\\\" s)) := by
  rw [← String.toList_inj, escapeText, String.toList_ofList,
    Text.toList_replaceAll_char (c := '\n') rfl, Text.toList_replaceAll_char (c := '"') rfl,
    Text.toList_replaceAll_char (c := '\\') rfl, List.flatMap_assoc, List.flatMap_assoc]
  refine List.flatMap_congr fun c _ => ?_
  by_cases hslash : c = '\\'
  · rw [hslash]
    rfl
  · by_cases hquote : c = '"'
    · rw [hquote]
      rfl
    · simp [escapeChar, escapeQuote, hslash, hquote]

/-! ## Reading from left to right -/

/-- The text whose escaped form some characters are. Behind a backslash stands a backslash, a quote
or the letter of a line feed; quotes and line feeds cannot stand alone. -/
def unescape? : List Char → Option (List Char)
  | [] => some []
  | '\\' :: '\\' :: rest => (unescape? rest).map ('\\' :: ·)
  | '\\' :: '"' :: rest => (unescape? rest).map ('"' :: ·)
  | '\\' :: 'n' :: rest => (unescape? rest).map ('\n' :: ·)
  | '\\' :: _ => none
  | '"' :: _ => none
  | '\n' :: _ => none
  | c :: rest => (unescape? rest).map (c :: ·)

/-- A character that is not escaped is read as it is. -/
theorem unescape?_cons {c : Char} (hslash : c ≠ '\\') (hquote : c ≠ '"') (hfeed : c ≠ '\n')
    (rest : List Char) : unescape? (c :: rest) = (unescape? rest).map (c :: ·) := by
  rw [unescape?.eq_def]
  split <;> simp_all

/-- A character without escapes. -/
theorem escapeChar_plain {c : Char} (hslash : c ≠ '\\') (hquote : c ≠ '"') (hfeed : c ≠ '\n') :
    escapeChar c = [c] := by
  simp [escapeChar, escapeQuote, hfeed, hslash, hquote]

/-- The escapes of a character are read as that character. -/
theorem unescape?_escapeChar (c : Char) (rest : List Char) :
    unescape? (escapeChar c ++ rest) = (unescape? rest).map (c :: ·) := by
  by_cases hfeed : c = '\n'
  · subst hfeed
    rfl
  · by_cases hslash : c = '\\'
    · subst hslash
      rfl
    · by_cases hquote : c = '"'
      · subst hquote
        rfl
      · rw [escapeChar_plain hslash hquote hfeed, List.singleton_append,
          unescape?_cons hslash hquote hfeed]

/-- So a text is read back from its escaped form. -/
theorem unescape?_flatMap (cs : List Char) : unescape? (cs.flatMap escapeChar) = some cs := by
  induction cs with
  | nil => rfl
  | cons c rest ih => rw [List.flatMap_cons, unescape?_escapeChar, ih, Option.map_some]

/-- And it is read from nothing else. -/
theorem eq_flatMap_of_unescape? {cs text : List Char} (h : unescape? cs = some text) :
    cs = text.flatMap escapeChar := by
  fun_induction unescape? cs generalizing text with
  | case1 =>
    cases h
    rfl
  | case2 rest ih | case3 rest ih | case4 rest ih =>
    obtain ⟨tail, htail, rfl⟩ := Option.map_eq_some_iff.1 h
    rw [ih htail]
    rfl
  | case5 | case6 | case7 => cases h
  | case8 c rest _ _ _ hslash hquote hfeed ih =>
    obtain ⟨tail, htail, rfl⟩ := Option.map_eq_some_iff.1 h
    rw [ih htail, List.flatMap_cons, escapeChar_plain hslash hquote hfeed, List.singleton_append]

/-- The text of which a text is the escaped form. -/
def unescaped? (t : String) : Option String := (unescape? t.toList).map String.ofList

theorem unescaped?_eq_some_iff {t s : String} : unescaped? t = some s ↔ t = escapeText s := by
  rw [unescaped?, Option.map_eq_some_iff, escapeText]
  constructor
  · rintro ⟨text, htext, rfl⟩
    rw [String.toList_ofList, ← eq_flatMap_of_unescape? htext, String.ofList_toList]
  · rintro rfl
    exact ⟨s.toList, by rw [String.toList_ofList, unescape?_flatMap], s.ofList_toList⟩

/-- No other use of a quote, a line feed or a backslash is read. -/
example : unescaped? "a\"b" = none ∧ unescaped? "a\nb" = none ∧ unescaped? "a\\tb" = none ∧
    unescaped? "a\\" = none := by decide +kernel

/-! ## Backslashes in front of quotes -/

theorem quotesEscaped_escapeText (s : String) :
    quotesEscaped false (escapeText s).toList = true := by
  rw [escapeText, String.toList_ofList]
  refine quotesEscaped_flatMap (fun c rest => ?_) s.toList
  unfold escapeChar
  split
  · rfl
  · exact quotesEscaped_escapeQuote c rest

/-- Whether what comes behind some characters is escaped: they end with a backslash that is not
escaped itself. The first argument says whether the first character is escaped. -/
def escapesNext (escaped : Bool) (cs : List Char) : Bool :=
  cs.foldl (fun escaped c => !escaped && c = '\\') escaped

/-- They end with an odd number of backslashes. -/
theorem escapesNext_iff (cs : List Char) :
    escapesNext false cs = true ↔ Odd (cs.rtakeWhile (· = '\\')).length := by
  induction cs using List.reverseRecOn with
  | nil => decide
  | append_singleton cs c ih =>
    have hlast : escapesNext false (cs ++ [c]) = (!escapesNext false cs && c = '\\') := by
      rw [escapesNext, List.foldl_append]
      rfl
    by_cases hc : c = '\\'
    · rw [hlast, List.rtakeWhile_concat, if_pos (decide_eq_true hc), List.length_append,
        List.length_singleton, Nat.odd_add_one, ← ih]
      simp [hc]
    · rw [hlast, List.rtakeWhile_concat, if_neg (mt of_decide_eq_true hc)]
      simp [hc]

/-- If all quotes are escaped, then so is each of them by what is in front of it. -/
theorem escapesNext_of_quotesEscaped {escaped : Bool} {before after : List Char}
    (h : quotesEscaped escaped (before ++ '"' :: after) = true) :
    escapesNext escaped before = true := by
  induction before generalizing escaped with
  | nil =>
    cases escaped with
    | true => rfl
    | false => simp [quotesEscaped] at h
  | cons c before ih =>
    cases escaped with
    | true => exact ih h
    | false =>
      rw [List.cons_append, quotesEscaped, Bool.and_eq_true] at h
      exact ih h.2

/-! ## What is undone -/

/-- Escaping is the three replacements, and reading from left to right undoes it: a text is read
from its escaped form and from nothing else. So no two texts have one escaped form. It has no line
feed, and in front of each quote an odd number of backslashes. -/
theorem escapeText_undone :
    Function.Injective escapeText ∧ ∀ s,
      escapeText s =
        Text.replaceAll "\n" "\\n"
          (Text.replaceAll "\"" "\\\"" (Text.replaceAll "\\" "\\\\" s)) ∧
      unescaped? (escapeText s) = some s ∧
      (∀ t, unescaped? t = some s → t = escapeText s) ∧
      '\n' ∉ (escapeText s).toList ∧
      ∀ before after, (escapeText s).toList = before ++ '"' :: after →
        Odd (before.rtakeWhile (· = '\\')).length := by
  have hread (s : String) : unescaped? (escapeText s) = some s := unescaped?_eq_some_iff.2 rfl
  refine ⟨fun s t h => ?_, fun s => ⟨escapeText_eq_replaceAll s, hread s,
    fun t => unescaped?_eq_some_iff.1, not_mem_escapeText s, fun before after h => ?_⟩⟩
  · have hsame := hread s
    rw [h, hread t] at hsame
    exact (Option.some.inj hsame).symm
  · have hquotes := quotesEscaped_escapeText s
    rw [h] at hquotes
    exact (escapesNext_iff before).1 (escapesNext_of_quotesEscaped hquotes)

/-- Backslashes in front of a quote, and in front of a letter that would make a line feed. -/
theorem escapeText_undone_path :
    escapeText "\\new \\\"x\n" = "\\\\new \\\\\\\"x\\n" ∧
      unescaped? "\\\\new \\\\\\\"x\\n" = some "\\new \\\"x\n" ∧
      Odd ("\\\\new \\\\\\".toList.rtakeWhile (· = '\\')).length := by
  have hescaped : escapeText "\\new \\\"x\n" = "\\\\new \\\\\\\"x\\n" := by decide +kernel
  obtain ⟨_, hread, _, _, hodd⟩ := escapeText_undone.2 "\\new \\\"x\n"
  rw [hescaped] at hread hodd
  exact ⟨hescaped, hread, hodd "\\\\new \\\\\\".toList "x\\n".toList (by decide +kernel)⟩

end Java

end ClientGen
