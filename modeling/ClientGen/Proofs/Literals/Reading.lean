import ClientGen.Java.Literal
import ClientGen.Json.Reader
import Mathlib.Data.List.Basic

/-!
# What string literals denote

What stands between the quotes of a Java string literal is read in three passes ([literalText?]).
The first one turns characters into code units and resolves Unicode escapes, which may stand for any
unit ([unicodeEscapes]); the second one resolves escape sequences and refuses what ends a literal or
a line ([escapeSequences]); the third one joins the halves of pairs ([halves]). Each pass reads a
text of blocks one block after the other ([Pass.run_flatMap]). So a text whose backslashes and
quotes are escaped is read back just if it is on one line ([literalText?_escapeQuotes]), and one
whose line feeds are escaped, too, just if it has no carriage return ([literalText?_escapeText]).
-/

namespace ClientGen.Java

/-! ## Passes -/

/-- A pass over a list. In a state, an item leads to the next state and to what is put out, and the
end leads to what is left to put out, unless they are refused. -/
structure Pass (σ α β : Type) where
  step : σ → α → Option (σ × List β)
  finish : σ → Option (List β)

namespace Pass

variable {σ α β ι : Type}

/-- What is put out altogether. -/
def run (p : Pass σ α β) (s : σ) : List α → Option (List β)
  | [] => p.finish s
  | a :: rest => (p.step s a).bind fun (s', out) => (p.run s' rest).map (out ++ ·)

theorem run_cons {p : Pass σ α β} {s s' : σ} {a : α} {out : List β}
    (h : p.step s a = some (s', out)) (rest : List α) :
    p.run s (a :: rest) = (p.run s' rest).map (out ++ ·) := by
  rw [run, h, Option.bind_some]

/-- Of two items the first one may only change the state. -/
theorem run_cons_cons {p : Pass σ α β} {s s' s'' : σ} {a b : α} {out : List β}
    (ha : p.step s a = some (s', [])) (hb : p.step s' b = some (s'', out)) (rest : List α) :
    p.run s (a :: b :: rest) = (p.run s'' rest).map (out ++ ·) := by
  rw [run_cons ha, run_cons hb, Option.map_map]
  rfl

/-- If in some state a block leads back to it, then so does a list of blocks: they put out what each
of them does, and are refused if one of them is. -/
theorem run_flatMap {p : Pass σ α β} {s : σ} (hfinish : p.finish s = some [])
    {block : ι → List α} {value : ι → List β} (refused : ι → Bool)
    (hblock : ∀ i rest, p.run s (block i ++ rest) =
      if refused i then none else (p.run s rest).map (value i ++ ·)) (items : List ι) :
    p.run s (items.flatMap block) =
      if items.any refused then none else some (items.flatMap value) := by
  induction items with
  | nil => exact hfinish
  | cons i items ih =>
    rw [List.flatMap_cons, hblock, ih, List.any_cons]
    cases refused i with
    | true => rfl
    | false => cases items.any refused <;> rfl

/-- Blocks none of which is refused put out what each of them does. -/
theorem run_flatMap_all {p : Pass σ α β} {s : σ} (hfinish : p.finish s = some [])
    {block : ι → List α} {value : ι → List β}
    (hblock : ∀ i rest, p.run s (block i ++ rest) = (p.run s rest).map (value i ++ ·))
    (items : List ι) : p.run s (items.flatMap block) = some (items.flatMap value) := by
  have hnone : (items.any fun _ => false) = false := by simp
  rw [run_flatMap hfinish (fun _ => false) hblock, hnone]
  rfl

end Pass

/-! ## Code units -/

/-- The code units of a character: one, or the two halves of a pair. -/
def codeUnits (c : Char) : List Nat :=
  if c.toNat < 0x10000 then [c.toNat]
  else [0xD800 + (c.toNat - 0x10000) / 0x400, 0xDC00 + (c.toNat - 0x10000) % 0x400]

/-- Whether Unicode escapes may begin, or what was read of one. -/
inductive UnicodeState where
  /-- Behind an even number of backslashes. -/
  | plain
  /-- Behind an odd number of backslashes. -/
  | slash
  /-- Behind the letters of an escape. -/
  | marker
  /-- Behind some digits of an escape. After the next one, `missing` ones are left. -/
  | digits (missing value : Nat)

/-- The pass that resolves Unicode escapes. A backslash behind a backslash begins none. -/
def unicodeEscapes : Pass UnicodeState Char Nat where
  step
    | .plain, c => some (if c = '\\' then (.slash, []) else (.plain, codeUnits c))
    | .slash, c => some (if c = 'u' then (.marker, []) else (.plain, codeUnits '\\' ++ codeUnits c))
    | .marker, c =>
      if c = 'u' then some (.marker, []) else (Text.hexDigit? c).map fun d => (.digits 2 d, [])
    | .digits 0 n, c => (Text.hexDigit? c).map fun d => (.plain, [16 * n + d])
    | .digits (missing + 1) n, c =>
      (Text.hexDigit? c).map fun d => (.digits missing (16 * n + d), [])
  finish
    | .plain => some []
    | .slash => some (codeUnits '\\')
    | _ => none

/-! ## Escape sequences -/

/-- The characters that are written as a backslash and a letter or sign. -/
def escapeSigns : List (Char × Char) :=
  [('b', '\x08'), ('s', ' '), ('t', '\t'), ('n', '\n'), ('f', '\x0c'), ('r', '\r'), ('"', '"'),
    ('\x27', '\x27'), ('\\', '\\')]

/-- The code unit that is written as a backslash and the one of a letter or sign. -/
def signUnit? (n : Nat) : Option Nat :=
  (escapeSigns.find? fun (sign, _) => sign.toNat = n).map fun (_, c) => c.toNat

/-- The value of an octal digit. -/
def octalDigit? (n : Nat) : Option Nat :=
  if '0'.toNat ≤ n ∧ n ≤ '7'.toNat then some (n - '0'.toNat) else none

/-- Whether escape sequences may begin, or what was read of one. -/
inductive EscapeState where
  | plain
  | slash
  /-- Behind octal digits, at most `more` of which follow. -/
  | octal (more value : Nat)

/-- The step for a code unit outside of escape sequences. Quotes and ends of lines cannot be
there. -/
def plainUnit (n : Nat) : Option (EscapeState × List Nat) :=
  if n = '\\'.toNat then some (.slash, [])
  else if n = '"'.toNat ∨ n = '\n'.toNat ∨ n = '\r'.toNat then none
  else some (.plain, [n])

/-- The pass that resolves escape sequences. -/
def escapeSequences : Pass EscapeState Nat Nat where
  step
    | .plain, n => plainUnit n
    | .slash, n =>
      match octalDigit? n with
      | some d => some (.octal (if d ≤ 3 then 2 else 1) d, [])
      | none => (signUnit? n).map fun unit => (.plain, [unit])
    | .octal more value, n =>
      match octalDigit? n, more with
      | some d, more + 1 => some (.octal more (8 * value + d), [])
      | _, _ => (plainUnit n).map fun (s, out) => (s, value :: out)
  finish
    | .plain => some []
    | .slash => none
    | .octal _ value => some [value]

/-! ## Pairs -/

/-- The pass that joins the halves of pairs. The state is a first half that was read. -/
def halves : Pass (Option Nat) Nat Char where
  step
    | none, n =>
      if Json.isHighHalf n then some (some n, [])
      else if Json.isLowHalf n then none
      else some (none, [Char.ofNat n])
    | some high, n => if Json.isLowHalf n then some (none, [Json.pairChar high n]) else none
  finish
    | none => some []
    | some _ => none

/-- The text that a string literal denotes, if `s` can stand between its quotes. -/
def literalText? (s : String) : Option String := do
  let units ← unicodeEscapes.run .plain s.toList
  let units ← escapeSequences.run .plain units
  let cs ← halves.run none units
  return String.ofList cs

/-- Escapes of every kind stand for characters, but a quote stands for none alone. -/
example : literalText? "\\u0041\\1012\\t" = some "AA2\t" ∧
    literalText? "\\uD83D\\uDE00" = some "😀" ∧ literalText? "\\\\u0041" = some "\\u0041" ∧
    literalText? "a\"b" = none := by decide +kernel

/-! ## Reading one character -/

/-- A character is no half of a pair. -/
theorem toNat_bounds (c : Char) : c.toNat < 0xD800 ∨ 0xDFFF < c.toNat ∧ c.toNat < 0x110000 :=
  c.valid

/-- The halves of a pair. -/
theorem halves_of_le {n : Nat} (h : 0x10000 ≤ n) (h' : n < 0x110000) :
    Json.isHighHalf (0xD800 + (n - 0x10000) / 0x400) = true ∧
      Json.isLowHalf (0xDC00 + (n - 0x10000) % 0x400) = true ∧
      0x10000 + (0xD800 + (n - 0x10000) / 0x400 - 0xD800) * 0x400 +
        (0xDC00 + (n - 0x10000) % 0x400 - 0xDC00) = n := by
  simp only [Json.isHighHalf, Json.isLowHalf, Bool.and_eq_true, decide_eq_true_eq]
  omega

/-- A whole unit and the halves of a pair are joined to a character. -/
theorem run_halves_single {n : Nat} (hhigh : Json.isHighHalf n = false)
    (hlow : Json.isLowHalf n = false) (rest : List Nat) :
    halves.run none (n :: rest) = (halves.run none rest).map ([Char.ofNat n] ++ ·) := by
  have hstep : halves.step none n = some (none, [Char.ofNat n]) := by
    simp only [halves, hhigh, hlow, Bool.false_eq_true, if_false]
  exact Pass.run_cons hstep rest

theorem run_halves_pair {high low : Nat} (hhigh : Json.isHighHalf high = true)
    (hlow : Json.isLowHalf low = true) (rest : List Nat) :
    halves.run none (high :: low :: rest) =
      (halves.run none rest).map ([Json.pairChar high low] ++ ·) := by
  have hfirst : halves.step none high = some (some high, []) := by
    simp only [halves, hhigh, if_true]
  have hsecond : halves.step (some high) low = some (none, [Json.pairChar high low]) := by
    simp only [halves, hlow, if_true]
  exact Pass.run_cons_cons hfirst hsecond rest

/-- So the code units of a character are joined to it. -/
theorem run_halves_codeUnits (c : Char) (rest : List Nat) :
    halves.run none (codeUnits c ++ rest) = (halves.run none rest).map ([c] ++ ·) := by
  have hbounds := toNat_bounds c
  by_cases hsingle : c.toNat < 0x10000
  · have hhigh : Json.isHighHalf c.toNat = false := by
      simp only [Json.isHighHalf, Bool.and_eq_false_iff, decide_eq_false_iff_not]
      omega
    have hlow : Json.isLowHalf c.toNat = false := by
      simp only [Json.isLowHalf, Bool.and_eq_false_iff, decide_eq_false_iff_not]
      omega
    have hunits : codeUnits c = [c.toNat] := if_pos hsingle
    rw [hunits, List.singleton_append, run_halves_single hhigh hlow, Char.ofNat_toNat]
  · obtain ⟨hhigh, hlow, hpair⟩ := halves_of_le (n := c.toNat) (by omega) (by omega)
    have hunits : codeUnits c = [0xD800 + (c.toNat - 0x10000) / 0x400,
        0xDC00 + (c.toNat - 0x10000) % 0x400] := if_neg hsingle
    rw [hunits, List.cons_append, List.singleton_append, run_halves_pair hhigh hlow,
      Json.pairChar, hpair, Char.ofNat_toNat]

/-- A backslash and what is behind it begin no Unicode escape, if that is not its letter. -/
theorem run_unicodeEscapes_slash {c : Char} (hc : c ≠ 'u') (rest : List Char) :
    unicodeEscapes.run .plain ('\\' :: c :: rest) =
      (unicodeEscapes.run .plain rest).map (['\\', c].flatMap codeUnits ++ ·) := by
  have hsecond : unicodeEscapes.step .slash c =
      some (.plain, ['\\', c].flatMap codeUnits) := by
    simp only [unicodeEscapes, if_neg hc, List.flatMap_cons, List.flatMap_nil, List.append_nil]
  exact Pass.run_cons_cons rfl hsecond rest

theorem run_unicodeEscapes_plain {c : Char} (hc : c ≠ '\\') (rest : List Char) :
    unicodeEscapes.run .plain (c :: rest) =
      (unicodeEscapes.run .plain rest).map ([c].flatMap codeUnits ++ ·) := by
  have hstep : unicodeEscapes.step .plain c = some (.plain, [c].flatMap codeUnits) := by
    simp only [unicodeEscapes, if_neg hc, List.flatMap_cons, List.flatMap_nil, List.append_nil]
  exact Pass.run_cons hstep rest

/-! ## Characters and how they are written -/

/-- Whether a character ends a line. -/
def isLineEnd (c : Char) : Bool := c = '\n' || c = '\r'

/-- How a character can be written: as it is, or as a backslash and a letter or sign. -/
inductive Writes : Char → List Char → Prop
  | plain {c : Char} : c ≠ '\\' → c ≠ '"' → isLineEnd c = false → Writes c [c]
  | sign {sign c : Char} : (sign, c) ∈ escapeSigns → Writes c ['\\', sign]

/-- To the first pass such a text has no Unicode escapes. -/
theorem Writes.run_unicodeEscapes {c : Char} {block : List Char} (h : Writes c block)
    (rest : List Char) :
    unicodeEscapes.run .plain (block ++ rest) =
      (unicodeEscapes.run .plain rest).map (block.flatMap codeUnits ++ ·) := by
  cases h with
  | plain hslash => exact run_unicodeEscapes_plain hslash rest
  | @sign sign c hsign =>
    have hletter : ∀ e ∈ escapeSigns, e.1 ≠ 'u' := by decide
    exact run_unicodeEscapes_slash (hletter (sign, c) hsign) rest

/-- A code unit is its character or the half of a pair. -/
theorem mem_codeUnits {c : Char} {n : Nat} (h : n ∈ codeUnits c) : n = c.toNat ∨ 0xD800 ≤ n := by
  unfold codeUnits at h
  split at h
  · exact .inl (List.mem_singleton.1 h)
  · rcases List.mem_cons.1 h with rfl | h
    · exact .inr (Nat.le_add_right _ _)
    · rw [List.mem_singleton.1 h]
      exact .inr (by omega)

/-- Code units that stand for themselves are left by the second pass. -/
theorem run_escapeSequences_units {units : List Nat}
    (h : ∀ n ∈ units, plainUnit n = some (.plain, [n])) (rest : List Nat) :
    escapeSequences.run .plain (units ++ rest) =
      (escapeSequences.run .plain rest).map (units ++ ·) := by
  induction units with
  | nil => simp
  | cons n units ih =>
    have hn : escapeSequences.step .plain n = some (.plain, [n]) := h n List.mem_cons_self
    rw [List.cons_append, Pass.run_cons hn, ih fun m hm => h m (List.mem_cons_of_mem n hm),
      Option.map_map]
    rfl

/-- The second pass puts out the character that is written. -/
theorem Writes.run_escapeSequences {c : Char} {block : List Char} (h : Writes c block)
    (rest : List Nat) :
    escapeSequences.run .plain (block.flatMap codeUnits ++ rest) =
      (escapeSequences.run .plain rest).map (codeUnits c ++ ·) := by
  cases h with
  | plain hslash hquote hline =>
    rw [List.flatMap_singleton]
    refine run_escapeSequences_units (fun n hn => ?_) rest
    have hne (special : Char) (hspecial : special.toNat < 0xD800) (hc : c ≠ special) :
        n ≠ special.toNat := by
      rintro rfl
      rcases mem_codeUnits hn with heq | hle
      · exact hc (Char.toNat_inj.1 heq.symm)
      · omega
    simp only [isLineEnd, Bool.or_eq_false_iff, decide_eq_false_iff_not] at hline
    rw [plainUnit, if_neg (hne '\\' (by decide) hslash), if_neg]
    rintro (h | h | h)
    · exact hne '"' (by decide) hquote h
    · exact hne '\n' (by decide) hline.1 h
    · exact hne '\r' (by decide) hline.2 h
  | @sign sign c hsign =>
    have hall : ∀ e ∈ escapeSigns, codeUnits e.1 = [e.1.toNat] ∧ codeUnits e.2 = [e.2.toNat] ∧
        octalDigit? e.1.toNat = none ∧ signUnit? e.1.toNat = some e.2.toNat := by decide
    obtain ⟨hsingle, hsingle', hoctal, hunit⟩ := hall (sign, c) hsign
    dsimp only at hsingle hsingle' hoctal hunit
    rw [List.flatMap_cons, List.flatMap_singleton, hsingle, hsingle']
    have hsecond : escapeSequences.step .slash sign.toNat = some (.plain, [c.toNat]) := by
      simp only [escapeSequences, hoctal, hunit, Option.map_some]
    exact Pass.run_cons_cons rfl hsecond rest

/-- It refuses the end of a line. -/
theorem run_escapeSequences_lineEnd {c : Char} (h : isLineEnd c = true) (rest : List Nat) :
    escapeSequences.run .plain ([c].flatMap codeUnits ++ rest) = none := by
  simp only [isLineEnd, Bool.or_eq_true, decide_eq_true_eq] at h
  rcases h with rfl | rfl <;> rfl

/-! ## Texts of which each character is written -/

section
variable {escape : Char → List Char} {refused : Char → Bool}

/-- A text is read back if its characters are written so that they are, and is refused if the end of
a line is left in it. -/
theorem literalText?_flatMap
    (hrefused : ∀ c, refused c = true → isLineEnd c = true ∧ escape c = [c])
    (hwritten : ∀ c, refused c = false → Writes c (escape c)) (s : String) :
    literalText? (String.ofList (s.toList.flatMap escape)) =
      if s.toList.any refused then none else some s := by
  have hunicode : unicodeEscapes.run .plain (s.toList.flatMap escape) =
      some (s.toList.flatMap fun c => (escape c).flatMap codeUnits) := by
    refine Pass.run_flatMap_all rfl (fun c rest => ?_) _
    cases hc : refused c with
    | false => exact (hwritten c hc).run_unicodeEscapes rest
    | true =>
      obtain ⟨hline, hescape⟩ := hrefused c hc
      rw [hescape]
      refine run_unicodeEscapes_plain ?_ rest
      rintro rfl
      cases hline
  have hsequences : escapeSequences.run .plain
      (s.toList.flatMap fun c => (escape c).flatMap codeUnits) =
        if s.toList.any refused then none else some (s.toList.flatMap codeUnits) := by
    refine Pass.run_flatMap rfl refused (fun c rest => ?_) _
    cases hc : refused c with
    | false => exact (hwritten c hc).run_escapeSequences rest
    | true =>
      obtain ⟨hline, hescape⟩ := hrefused c hc
      rw [hescape]
      exact run_escapeSequences_lineEnd hline rest
  have hjoined : halves.run none (s.toList.flatMap codeUnits) =
      some (s.toList.flatMap fun c => [c]) :=
    Pass.run_flatMap_all rfl run_halves_codeUnits _
  unfold literalText?
  rw [String.toList_ofList, hunicode, Option.bind_eq_bind, Option.bind_some, hsequences]
  split
  · rfl
  · rw [Option.bind_eq_bind, Option.bind_some, hjoined, List.flatMap_singleton']
    exact congrArg some s.ofList_toList

end

/-- A text is on one line if it has neither a line feed nor a carriage return. -/
def OneLine (s : String) : Prop := ∀ c ∈ s.toList, isLineEnd c = false

instance (s : String) : Decidable (OneLine s) :=
  decidable_of_iff (s.toList.all fun c => !isLineEnd c)
    (List.all_eq_true.trans (forall₂_congr fun _ _ => Iff.of_eq (Bool.not_eq_true' _)))

theorem writes_escapeQuote {c : Char} (hc : isLineEnd c = false) : Writes c (escapeQuote c) := by
  unfold escapeQuote
  split
  · next h =>
    simp only [Bool.or_eq_true, decide_eq_true_eq] at h
    rcases h with rfl | rfl <;> exact .sign (by decide)
  · next h =>
    simp only [Bool.or_eq_true, decide_eq_true_eq, not_or] at h
    exact .plain h.1 h.2 hc

/-- A text whose backslashes and quotes are escaped is read back just if it is on one line. -/
theorem literalText?_escapeQuotes (s : String) :
    literalText? (escapeQuotes s) = if OneLine s then some s else none := by
  have hrefused (c : Char) (hc : isLineEnd c = true) :
      isLineEnd c = true ∧ escapeQuote c = [c] := by
    refine ⟨hc, ?_⟩
    simp only [isLineEnd, Bool.or_eq_true, decide_eq_true_eq] at hc
    rcases hc with rfl | rfl <;> rfl
  rw [escapeQuotes, literalText?_flatMap hrefused fun c => writes_escapeQuote]
  by_cases h : OneLine s
  · rw [if_pos h, if_neg]
    simpa [OneLine] using h
  · rw [if_neg h, if_pos]
    simpa [OneLine] using h

/-- A text whose line feeds are escaped, too, is read back just if it has no carriage return. -/
theorem literalText?_escapeText (s : String) :
    literalText? (escapeText s) = if '\r' ∈ s.toList then none else some s := by
  have hwritten (c : Char) (hc : decide (c = '\r') = false) : Writes c (escapeChar c) := by
    unfold escapeChar
    split
    · next h =>
      rw [h]
      exact .sign (by decide)
    · next h =>
      exact writes_escapeQuote (by simpa [isLineEnd, h] using hc)
  have hrefused (c : Char) (hc : decide (c = '\r') = true) :
      isLineEnd c = true ∧ escapeChar c = [c] := by
    rw [of_decide_eq_true hc]
    decide
  rw [escapeText, literalText?_flatMap hrefused hwritten]
  simp only [List.any_eq_true, decide_eq_true_eq, exists_eq_right]

end ClientGen.Java
