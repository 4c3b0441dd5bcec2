import ClientGen.Proofs.Literals.Patterns
import ClientGen.Text.Blank

/-!
# Texts that are written as they are

What stands between the quotes of a string literal may be written without any escapes. The text that
it denotes is never longer than what is written, and shorter if there is an escape: this is followed
through the three passes of [literalText?], counting the code units that begin a character
([characterCount]). So what is written denotes itself just if it needs no escapes
([literalText?_eq_self_iff]), and if quotes are taken off the ends of a text first, what is left
denotes the text just in the same case ([literalText?_trimChar_iff]).
-/

namespace ClientGen

/-! ## Quotes at the ends of a text -/

namespace Text

theorem dropEnd_sublist (p : Char → Bool) (cs : List Char) : (dropEnd p cs).Sublist cs := by
  have h := (List.dropWhile_sublist p (l := cs.reverse)).reverse
  rwa [List.reverse_reverse] at h

/-- What is left without a character at the ends is a part of the text. -/
theorem dropEnds_sublist (p : Char → Bool) (cs : List Char) : (dropEnds p cs).Sublist cs :=
  (dropEnd_sublist p _).trans (List.dropWhile_sublist p)

/-- A text without the character loses nothing. -/
theorem dropEnds_eq_self {p : Char → Bool} {cs : List Char} (h : ∀ c ∈ cs, p c = false) :
    dropEnds p cs = cs := by
  have hdrop {ds : List Char} (hds : ∀ c ∈ ds, p c = false) : ds.dropWhile p = ds := by
    cases ds with
    | nil => rfl
    | cons d rest => rw [List.dropWhile_cons, hds d List.mem_cons_self, if_neg Bool.false_ne_true]
  have hreverse : ∀ c ∈ cs.reverse, p c = false := fun c hc => h c (List.mem_reverse.1 hc)
  rw [dropEnds, hdrop h, dropEnd, hdrop hreverse, List.reverse_reverse]

/-- A character that is put at both ends is taken off with the others. -/
theorem dropEnds_quoted {p : Char → Bool} {c : Char} (hc : p c = true) (cs : List Char) :
    dropEnds p (c :: (cs ++ [c])) = dropEnds p cs := by
  have hlast (ds : List Char) : dropEnd p (ds ++ [c]) = dropEnd p ds := by
    rw [dropEnd, List.reverse_append, List.reverse_singleton, List.singleton_append,
      List.dropWhile_cons, if_pos hc, dropEnd]
  rw [dropEnds, List.dropWhile_cons, if_pos hc, List.dropWhile_append, dropEnds]
  split
  · next h =>
    rw [List.isEmpty_iff.1 h, List.dropWhile_cons, if_pos hc]
    rfl
  · exact hlast _

end Text

namespace Java

/-! ## Lengths -/

/-- How many of some code units begin a character: all but the second halves of pairs. -/
def characterCount (units : List Nat) : Nat := (units.filter fun n => !Json.isLowHalf n).length

theorem characterCount_append (units more : List Nat) :
    characterCount (units ++ more) = characterCount units + characterCount more := by
  rw [characterCount, List.filter_append, List.length_append]
  rfl

theorem characterCount_singleton_le (n : Nat) : characterCount [n] ≤ 1 := List.length_filter_le _ _

/-- One of the code units of a character begins it. -/
theorem characterCount_codeUnits (c : Char) : characterCount (codeUnits c) = 1 := by
  have hbounds := toNat_bounds c
  unfold codeUnits
  split
  · have hlow : Json.isLowHalf c.toNat = false := by
      simp only [Json.isLowHalf, Bool.and_eq_false_iff, decide_eq_false_iff_not]
      omega
    simp [characterCount, hlow]
  · have hhigh : Json.isLowHalf (0xD800 + (c.toNat - 0x10000) / 0x400) = false := by
      simp only [Json.isLowHalf, Bool.and_eq_false_iff, decide_eq_false_iff_not]
      omega
    have hlow : Json.isLowHalf (0xDC00 + (c.toNat - 0x10000) % 0x400) = true :=
      (halves_of_le (n := c.toNat) (by omega) (by omega)).2.1
    simp [characterCount, hhigh, hlow]

theorem characterCount_flatMap_codeUnits (cs : List Char) :
    characterCount (cs.flatMap codeUnits) = cs.length := by
  induction cs with
  | nil => rfl
  | cons c cs ih =>
    rw [List.flatMap_cons, characterCount_append, characterCount_codeUnits, ih, List.length_cons,
      Nat.add_comm]

namespace Pass

variable {σ α β : Type} {p : Pass σ α β}

/-- What is put out for a first item and behind it. -/
theorem exists_of_run_cons {s : σ} {a : α} {rest : List α} {out : List β}
    (h : p.run s (a :: rest) = some out) :
    ∃ s' first more, p.step s a = some (s', first) ∧ p.run s' rest = some more ∧
      out = first ++ more := by
  rw [run] at h
  obtain ⟨⟨s', first⟩, hstep, h⟩ := Option.bind_eq_some_iff.1 h
  obtain ⟨more, hmore, rfl⟩ := Option.map_eq_some_iff.1 h
  exact ⟨s', first, more, hstep, hmore, rfl⟩

/-- A pass puts out no more than it reads, if so does each step: what is put out and what the next
state holds back are no more than what the state held back and what is read. -/
theorem put_le {put : List β → Nat} {read : List α → Nat} {held : σ → Nat}
    (hput : ∀ out more, put (out ++ more) = put out + put more)
    (hread : ∀ a rest, read (a :: rest) = read [a] + read rest)
    (hstep : ∀ s a s' out, p.step s a = some (s', out) → put out + held s' ≤ held s + read [a])
    (hfinish : ∀ s out, p.finish s = some out → put out ≤ held s) (s : σ) {items : List α}
    {out : List β} (h : p.run s items = some out) : put out ≤ held s + read items := by
  induction items generalizing s out with
  | nil => exact Nat.le_trans (hfinish s out h) (Nat.le_add_right _ _)
  | cons a rest ih =>
    obtain ⟨s', first, more, hfirst, hmore, rfl⟩ := exists_of_run_cons h
    have hle := hstep s a s' first hfirst
    have hrest := ih s' hmore
    rw [hput, hread]
    omega

end Pass

theorem characterCount_cons (n : Nat) (rest : List Nat) :
    characterCount (n :: rest) = characterCount [n] + characterCount rest :=
  characterCount_append [n] rest

/-! ## Unicode escapes -/

/-- The backslash that was read before a state, if it is behind one. -/
def UnicodeState.pending : UnicodeState → List Nat
  | .plain => []
  | _ => codeUnits '\\'

/-- A step puts out what it reads, or fewer characters. -/
theorem unicodeEscapes_step {s s' : UnicodeState} {c : Char} {out : List Nat}
    (h : unicodeEscapes.step s c = some (s', out)) :
    out ++ s'.pending = s.pending ++ codeUnits c ∨
      characterCount (out ++ s'.pending) < characterCount s.pending + 1 := by
  have hslash : characterCount (codeUnits '\\') = 1 := characterCount_codeUnits '\\'
  cases s with
  | plain =>
    simp only [unicodeEscapes, Option.some.injEq] at h
    split at h
    · next hc =>
      cases h
      exact .inl (by rw [hc]; rfl)
    · cases h
      exact .inl (List.append_nil _)
  | slash =>
    simp only [unicodeEscapes, Option.some.injEq] at h
    split at h
    · cases h
      exact .inr (by simp [UnicodeState.pending, hslash])
    · cases h
      exact .inl (List.append_nil _)
  | marker =>
    simp only [unicodeEscapes] at h
    split at h
    · cases h
      exact .inr (by simp [UnicodeState.pending, hslash])
    · obtain ⟨d, _, hd⟩ := Option.map_eq_some_iff.1 h
      cases hd
      exact .inr (by simp [UnicodeState.pending, hslash])
  | digits missing value =>
    cases missing with
    | zero =>
      obtain ⟨d, _, hd⟩ := Option.map_eq_some_iff.1 h
      cases hd
      have hle := characterCount_singleton_le (16 * value + d)
      exact .inr (by simp only [UnicodeState.pending, List.append_nil, hslash]; omega)
    | succ missing =>
      obtain ⟨d, _, hd⟩ := Option.map_eq_some_iff.1 h
      cases hd
      exact .inr (by simp [UnicodeState.pending, hslash])

/-- The first pass puts out the code units that it reads, or fewer characters. -/
theorem unicodeEscapes_same_or_fewer (s : UnicodeState) {cs : List Char} {units : List Nat}
    (h : unicodeEscapes.run s cs = some units) :
    units = s.pending ++ cs.flatMap codeUnits ∨
      characterCount units < characterCount s.pending + cs.length := by
  induction cs generalizing s units with
  | nil =>
    cases s with
    | plain | slash =>
      cases h
      exact .inl rfl
    | marker | digits => cases h
  | cons c rest ih =>
    obtain ⟨s', first, more, hstep, hmore, rfl⟩ := Pass.exists_of_run_cons h
    have hcount := characterCount_append first s'.pending
    rw [characterCount_append, List.length_cons, List.flatMap_cons]
    rcases unicodeEscapes_step hstep with hsame | hfewer
    · rcases ih s' hmore with hrest | hrest
      · exact .inl (by rw [hrest, ← List.append_assoc, hsame, List.append_assoc])
      · rw [hsame, characterCount_append, characterCount_codeUnits] at hcount
        exact .inr (by omega)
    · refine .inr ?_
      have hle : characterCount more ≤ characterCount s'.pending + rest.length := by
        rcases ih s' hmore with hrest | hrest
        · exact Nat.le_of_eq
            (by rw [hrest, characterCount_append, characterCount_flatMap_codeUnits])
        · exact Nat.le_of_lt hrest
      omega

/-! ## Escape sequences -/

/-- How many characters a state holds back. -/
def EscapeState.held : EscapeState → Nat
  | .plain => 0
  | .slash => 0
  | .octal _ _ => 1

/-- What a step outside of escape sequences does. -/
theorem plainUnit_cases {n : Nat} {s : EscapeState} {out : List Nat}
    (h : plainUnit n = some (s, out)) :
    n = '\\'.toNat ∧ s = .slash ∧ out = [] ∨ s = .plain ∧ out = [n] := by
  unfold plainUnit at h
  split at h
  · next hn =>
    cases h
    exact .inl ⟨hn, rfl, rfl⟩
  · split at h
    · cases h
    · cases h
      exact .inr ⟨rfl, rfl⟩

/-- A code unit that is in an escape sequence begins a character. -/
theorem characterCount_signUnit? {n unit : Nat} (h : signUnit? n = some unit) :
    characterCount [n] = 1 := by
  obtain ⟨e, he, _⟩ := Option.map_eq_some_iff.1 h
  have hall : ∀ e ∈ escapeSigns, characterCount [e.1.toNat] = 1 := by decide
  have hn : e.1.toNat = n := by simpa using List.find?_some he
  exact hn ▸ hall e (List.mem_of_find?_eq_some he)

theorem characterCount_octalDigit? {n d : Nat} (h : octalDigit? n = some d) :
    characterCount [n] = 1 := by
  have hseven : '7'.toNat < 0xDC00 := by decide
  have hlow : Json.isLowHalf n = false := by
    unfold octalDigit? at h
    split at h
    · simp only [Json.isLowHalf, Bool.and_eq_false_iff, decide_eq_false_iff_not]
      omega
    · cases h
  simp [characterCount, hlow]

/-- The second pass puts out no more characters than it reads. -/
theorem characterCount_escapeSequences_le (s : EscapeState) {units out : List Nat}
    (h : escapeSequences.run s units = some out) :
    characterCount out ≤ s.held + characterCount units := by
  refine Pass.put_le characterCount_append characterCount_cons (fun s n s' out hstep => ?_)
    (fun s out hfinish => ?_) s h
  · have hunit {n : Nat} {s : EscapeState} {out : List Nat} (hn : plainUnit n = some (s, out)) :
        characterCount out + s.held ≤ characterCount [n] := by
      rcases plainUnit_cases hn with ⟨_, rfl, rfl⟩ | ⟨rfl, rfl⟩
      · exact Nat.zero_le _
      · exact Nat.le_refl _
    cases s with
    | plain => exact Nat.le_add_left_of_le (hunit hstep)
    | slash =>
      simp only [escapeSequences] at hstep
      split at hstep
      · next d hd =>
        cases hstep
        rw [characterCount_octalDigit? hd]
        exact Nat.le_refl 1
      · obtain ⟨unit, hn, hout⟩ := Option.map_eq_some_iff.1 hstep
        cases hout
        rw [characterCount_signUnit? hn]
        exact characterCount_singleton_le unit
    | octal more value =>
      simp only [escapeSequences] at hstep
      split at hstep
      · cases hstep
        exact Nat.le_add_right _ _
      · obtain ⟨⟨next, first⟩, hn, hout⟩ := Option.map_eq_some_iff.1 hstep
        cases hout
        have hle : characterCount first + next.held ≤ characterCount [n] := hunit hn
        have hvalue := characterCount_singleton_le value
        rw [characterCount_cons value first]
        change characterCount [value] + characterCount first + next.held ≤ 1 + characterCount [n]
        omega
  · cases s with
    | plain =>
      cases hfinish
      exact Nat.le_refl 0
    | slash => cases hfinish
    | octal more value =>
      cases hfinish
      exact characterCount_singleton_le value

/-- It puts out what it reads, if there is nothing to escape in it, or fewer characters. -/
theorem escapeSequences_same_or_fewer {units out : List Nat}
    (h : escapeSequences.run .plain units = some out) :
    (∀ n ∈ units, plainUnit n = some (.plain, [n])) ∨
      characterCount out < characterCount units := by
  induction units generalizing out with
  | nil => exact .inl fun n hn => by cases hn
  | cons n rest ih =>
    obtain ⟨s', first, more, hstep, hmore, rfl⟩ := Pass.exists_of_run_cons h
    rw [characterCount_append, characterCount_cons n rest]
    have hplain : plainUnit n = some (s', first) := hstep
    rcases plainUnit_cases hplain with ⟨hn, rfl, rfl⟩ | ⟨rfl, rfl⟩
    · have hle := characterCount_escapeSequences_le .slash hmore
      have hone : characterCount [n] = 1 := by rw [hn]; rfl
      have hnone : characterCount [] = 0 := rfl
      rw [EscapeState.held] at hle
      exact .inr (by omega)
    · rcases ih hmore with hrest | hrest
      · exact .inl (List.forall_mem_cons.2 ⟨hplain, hrest⟩)
      · exact .inr (by omega)

/-! ## Pairs -/

/-- How many halves of pairs a state holds back. -/
def heldHalves (s : Option Nat) : Nat := if s.isSome then 1 else 0

/-- The third pass puts out no more characters than there are. -/
theorem length_halves_le (s : Option Nat) {units : List Nat} {cs : List Char}
    (h : halves.run s units = some cs) : cs.length ≤ heldHalves s + characterCount units := by
  refine Pass.put_le (fun _ _ => List.length_append) characterCount_cons
    (fun s n s' out hstep => ?_) (fun s out hfinish => ?_) s h
  · cases s with
    | none =>
      simp only [halves] at hstep
      split at hstep
      · next hhigh =>
        cases hstep
        have hlow : Json.isLowHalf n = false := by
          simp only [Json.isHighHalf, Bool.and_eq_true, decide_eq_true_eq] at hhigh
          simp only [Json.isLowHalf, Bool.and_eq_false_iff, decide_eq_false_iff_not]
          omega
        simp [characterCount, hlow, heldHalves]
      · split at hstep
        · cases hstep
        · next hlow =>
          cases hstep
          simp [characterCount, hlow, heldHalves]
    | some high =>
      simp only [halves] at hstep
      split at hstep
      · cases hstep
        exact Nat.le_add_right _ _
      · cases hstep
  · cases s with
    | none =>
      cases hfinish
      exact Nat.le_refl 0
    | some high => cases hfinish

/-! ## Texts without escapes -/

/-- A text that can be written in a literal as it is. -/
def IsPlain (s : String) : Prop := OneLine s ∧ '\\' ∉ s.toList ∧ '"' ∉ s.toList

instance (s : String) : Decidable (IsPlain s) := inferInstanceAs (Decidable (_ ∧ _))

/-- If all code units of a text stand for themselves, then it is plain. -/
theorem isPlain_of_units {s : String}
    (h : ∀ n ∈ s.toList.flatMap codeUnits, plainUnit n = some (.plain, [n])) : IsPlain s := by
  have hnot {c : Char} (hunits : codeUnits c = [c.toNat])
      (hescaped : plainUnit c.toNat ≠ some (.plain, [c.toNat])) : c ∉ s.toList := by
    intro hc
    refine hescaped (h c.toNat (List.mem_flatMap.2 ⟨c, hc, ?_⟩))
    rw [hunits]
    exact List.mem_singleton_self _
  have hfeed : '\n' ∉ s.toList := hnot rfl (by simp [plainUnit])
  have hreturn : '\r' ∉ s.toList := hnot rfl (by simp [plainUnit])
  refine ⟨fun c hc => ?_, hnot rfl (by simp [plainUnit]), hnot rfl (by simp [plainUnit])⟩
  rw [isLineEnd, Bool.or_eq_false_iff, decide_eq_false_iff_not, decide_eq_false_iff_not]
  exact ⟨ne_of_mem_of_not_mem hc hfeed, ne_of_mem_of_not_mem hc hreturn⟩

/-- What is written in a literal is plain, or the text that it denotes is shorter. -/
theorem isPlain_or_shorter {s t : String} (h : literalText? s = some t) :
    IsPlain s ∨ t.length < s.length := by
  unfold literalText? at h
  obtain ⟨units, hunits, h⟩ := Option.bind_eq_some_iff.1 h
  obtain ⟨out, hout, h⟩ := Option.bind_eq_some_iff.1 h
  obtain ⟨cs, hcs, h⟩ := Option.bind_eq_some_iff.1 h
  obtain rfl := Option.some.inj h
  have hlength : cs.length ≤ 0 + characterCount out := length_halves_le none hcs
  have hfirst : units = s.toList.flatMap codeUnits ∨ characterCount units < 0 + s.toList.length :=
    unicodeEscapes_same_or_fewer .plain hunits
  rw [String.length_ofList, ← String.length_toList]
  rcases escapeSequences_same_or_fewer hout with hplain | hfewer
  · rcases hfirst with rfl | hfewer
    · exact .inl (isPlain_of_units hplain)
    · have hle : characterCount out ≤ 0 + characterCount units :=
        characterCount_escapeSequences_le .plain hout
      exact .inr (by omega)
  · have hle : characterCount units ≤ s.toList.length := by
      rcases hfirst with rfl | hfewer
      · exact Nat.le_of_eq (characterCount_flatMap_codeUnits s.toList)
      · omega
    exact .inr (by omega)

theorem escapeQuotes_of_isPlain {s : String} (h : IsPlain s) : escapeQuotes s = s := by
  have hescape : ∀ c ∈ s.toList, escapeQuote c = [c] := by
    intro c hc
    refine if_neg ?_
    simp [ne_of_mem_of_not_mem hc h.2.1, ne_of_mem_of_not_mem hc h.2.2]
  rw [escapeQuotes, List.flatMap_congr hescape, List.flatMap_singleton', String.ofList_toList]

/-- What is written denotes itself just if it is plain. -/
theorem literalText?_eq_self_iff {s : String} : literalText? s = some s ↔ IsPlain s := by
  constructor
  · intro h
    exact (isPlain_or_shorter h).resolve_right (Nat.lt_irrefl _)
  · intro h
    have hread := literalText?_escapeQuotes s
    rwa [escapeQuotes_of_isPlain h, if_pos h.1] at hread

/-- If quotes are taken off its ends first, a text is denoted in the same case. -/
theorem literalText?_trimChar_iff {s : String} :
    literalText? (Text.trimChar '"' s) = some s ↔ IsPlain s := by
  constructor
  · intro h
    have hle : (Text.trimChar '"' s).length ≤ s.length := by
      rw [Text.trimChar, String.length_ofList, ← String.length_toList]
      exact (Text.dropEnds_sublist _ _).length_le
    have hplain := (isPlain_or_shorter h).resolve_right (Nat.not_lt.2 hle)
    rw [literalText?_eq_self_iff.2 hplain, Option.some_inj] at h
    rwa [h] at hplain
  · intro h
    have hkept : Text.trimChar '"' s = s := by
      rw [Text.trimChar, Text.dropEnds_eq_self fun c hc => ?_, String.ofList_toList]
      exact beq_eq_false_iff_ne.2 (ne_of_mem_of_not_mem hc h.2.2)
    rw [hkept, literalText?_eq_self_iff.2 h]

end Java

end ClientGen
