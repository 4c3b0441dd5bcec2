/-!
# Blanks at the ends of a text

[isBlank] is the white space of the standard, the separators of files and records (U+001C to U+001F)
included and the zero-width characters not. The functions below take characters off the ends of a
text; [dropEnd] is the counterpart of `List.dropWhile` at the end of a list.
-/

namespace ClientGen.Text

/-- Whether a character is white space. -/
def isBlank (c : Char) : Bool :=
  let n := c.toNat
  (9 ≤ n && n ≤ 13) || (28 ≤ n && n ≤ 32) || n == 0x85 || n == 0xA0 || n == 0x1680 ||
    (0x2000 ≤ n && n ≤ 0x200A) || n == 0x2028 || n == 0x2029 || n == 0x202F || n == 0x205F ||
    n == 0x3000

/-- Without the longest end of characters that satisfy `p`. -/
def dropEnd (p : Char → Bool) (cs : List Char) : List Char :=
  (cs.reverse.dropWhile p).reverse

/-- A character that is kept ends what can be taken off. -/
theorem dropEnd_append {p : Char → Bool} {c : Char} (h : p c = false) (before after : List Char) :
    dropEnd p (before ++ c :: after) = before ++ c :: dropEnd p after := by
  have hc : (c :: before.reverse).dropWhile p = c :: before.reverse := by
    rw [List.dropWhile_cons, h, if_neg Bool.false_ne_true]
  have hr : (before ++ c :: after).reverse = after.reverse ++ c :: before.reverse := by simp
  rw [dropEnd, dropEnd, hr, List.dropWhile_append]
  split
  · next he =>
    rw [hc, List.isEmpty_iff.1 he]
    simp
  · simp

/-- Without the characters at both ends that satisfy `p`. -/
def dropEnds (p : Char → Bool) (cs : List Char) : List Char :=
  dropEnd p (cs.dropWhile p)

/-- Without white space at both ends. -/
def trim (s : String) : String :=
  String.ofList (dropEnds isBlank s.toList)

/-- Whether a text has nothing but white space. -/
def isBlankText (s : String) : Bool :=
  s.toList.all isBlank

/-- Without the given character at both ends. -/
def trimChar (c : Char) (s : String) : String :=
  String.ofList (dropEnds (· == c) s.toList)

/-- Without the given character at the start. -/
def trimCharStart (c : Char) (s : String) : String :=
  String.ofList (s.toList.dropWhile (· == c))

/-- Without the given character at the end. -/
def trimCharEnd (c : Char) (s : String) : String :=
  String.ofList (dropEnd (· == c) s.toList)

end ClientGen.Text
