import ClientGen.Text.Utf8
import Mathlib.Data.List.Basic

/-!
# Bytes that are a text

The bytes of a character are one to four, told apart by the first one ([Text.Encoding]). They are
what the library writes for the character ([Text.Encoding.utf8EncodeChar]), and what is taken for it
([Text.Encoding.decodeFrom_eq], [Text.exists_encoding_of_decodeFrom]). So bytes are decoded just if
they are those of a text, and to that text ([Text.decode_eq_ok_iff]).
-/

namespace ClientGen.Text

/-- The bytes of the character of a number. The ranges leave out longer forms of a number, halves of
pairs and numbers beyond the last one. -/
inductive Encoding : Nat → List Nat → Prop
  | one {a : Nat} (ha : a < 0x80) : Encoding a [a]
  | two {a b : Nat} (hlong : 2 ≤ a) (ha : a < 0x20) (hb : b < 0x40) :
    Encoding (0x40 * a + b) [0xC0 + a, 0x80 + b]
  | three {a b c : Nat} (ha : a < 0x10) (hb : b < 0x40) (hc : c < 0x40) (hlong : a = 0 → 0x20 ≤ b)
    (hhalf : a = 0xD → b < 0x20) :
    Encoding (0x40 * (0x40 * a + b) + c) [0xE0 + a, 0x80 + b, 0x80 + c]
  | four {a b c d : Nat} (ha : a < 5) (hb : b < 0x40) (hc : c < 0x40) (hd : d < 0x40)
    (hlong : a = 0 → 0x10 ≤ b) (hlast : a = 4 → b < 0x10) :
    Encoding (0x40 * (0x40 * (0x40 * a + b) + c) + d) [0xF0 + a, 0x80 + b, 0x80 + c, 0x80 + d]

/-! ## Characters -/

section
variable {n : Nat} {bs : List Nat}

/-- The number is that of a character. -/
theorem Encoding.toNat_ofNat (h : Encoding n bs) : (Char.ofNat n).toNat = n := by
  have hvalid : n.isValidChar := by
    cases h with
    | one => exact .inl (by omega)
    | two => exact .inl (by omega)
    | three => unfold Nat.isValidChar; omega
    | four => exact .inr (by omega)
  rw [Char.ofNat, dif_pos hvalid]
  rfl

/-- The library writes these bytes. -/
theorem Encoding.utf8EncodeChar (h : Encoding n bs) :
    String.utf8EncodeChar (Char.ofNat n) = bs.map UInt8.ofNat := by
  have hn : (Char.ofNat n).val.toNat = n := h.toNat_ofNat
  unfold String.utf8EncodeChar
  simp only [hn]
  cases h with
  | one =>
    rw [if_pos (by omega)]
    rfl
  | @two a b =>
    have hfirst : (0x40 * a + b) / 64 % 32 + 192 = 0xC0 + a := by omega
    have hsecond : (0x40 * a + b) % 64 + 128 = 0x80 + b := by omega
    rw [if_neg (by omega), if_pos (by omega), hfirst, hsecond]
    rfl
  | @three a b c =>
    have hfirst : (0x40 * (0x40 * a + b) + c) / 4096 % 16 + 224 = 0xE0 + a := by omega
    have hsecond : (0x40 * (0x40 * a + b) + c) / 64 % 64 + 128 = 0x80 + b := by omega
    have hthird : (0x40 * (0x40 * a + b) + c) % 64 + 128 = 0x80 + c := by omega
    rw [if_neg (by omega), if_neg (by omega), if_pos (by omega), hfirst, hsecond, hthird]
    rfl
  | @four a b c d =>
    have hfirst : (0x40 * (0x40 * (0x40 * a + b) + c) + d) / 262144 % 8 + 240 = 0xF0 + a := by
      omega
    have hsecond : (0x40 * (0x40 * (0x40 * a + b) + c) + d) / 4096 % 64 + 128 = 0x80 + b := by
      omega
    have hthird : (0x40 * (0x40 * (0x40 * a + b) + c) + d) / 64 % 64 + 128 = 0x80 + c := by omega
    have hlast : (0x40 * (0x40 * (0x40 * a + b) + c) + d) % 64 + 128 = 0x80 + d := by omega
    rw [if_neg (by omega), if_neg (by omega), if_neg (by omega), hfirst, hsecond, hthird, hlast]
    rfl

/-- Every character has such bytes. -/
theorem exists_encoding (c : Char) : ∃ bs, Encoding c.toNat bs := by
  have hvalid : c.toNat < 0xD800 ∨ 0xDFFF < c.toNat ∧ c.toNat < 0x110000 := c.valid
  generalize c.toNat = n at hvalid
  by_cases hone : n < 0x80
  · exact ⟨_, .one hone⟩
  · by_cases htwo : n < 0x800
    · have hsplit : n = 0x40 * (n / 0x40) + n % 0x40 := by omega
      rw [hsplit]
      exact ⟨_, .two (by omega) (by omega) (by omega)⟩
    · by_cases hthree : n < 0x10000
      · have hsplit : n = 0x40 * (0x40 * (n / 0x1000) + n / 0x40 % 0x40) + n % 0x40 := by omega
        rw [hsplit]
        exact ⟨_, .three (by omega) (by omega) (by omega) (by omega) (by omega)⟩
      · have hsplit : n = 0x40 * (0x40 * (0x40 * (n / 0x40000) + n / 0x1000 % 0x40) +
            n / 0x40 % 0x40) + n % 0x40 := by omega
        rw [hsplit]
        exact ⟨_, .four (by omega) (by omega) (by omega) (by omega) (by omega) (by omega)⟩

end

/-! ## Decoding -/

/-- What is owed behind the first of two bytes. -/
def Owed.two (a : Nat) : Owed := ⟨0xC0 + a, a, 1, 0, 0x80, 0xBF⟩

/-- What is owed behind the first of three bytes. -/
def Owed.three (a : Nat) : Owed :=
  ⟨0xE0 + a, a, 1, 1, if a = 0 then 0xA0 else 0x80, if a = 0xD then 0x9F else 0xBF⟩

/-- What is owed behind the first of four bytes. -/
def Owed.four (a : Nat) : Owed :=
  ⟨0xF0 + a, a, 1, 2, if a = 0 then 0x90 else 0x80, if a = 4 then 0x8F else 0xBF⟩

/-- A leading byte is the first of two, three or four. -/
theorem Owed.ofLead?_eq_some_iff {b : Nat} {o : Owed} : ofLead? b = some o ↔
    (∃ a, 2 ≤ a ∧ a < 0x20 ∧ b = 0xC0 + a ∧ o = two a) ∨
      (∃ a, a < 0x10 ∧ b = 0xE0 + a ∧ o = three a) ∨ ∃ a, a < 5 ∧ b = 0xF0 + a ∧ o = four a := by
  constructor
  · unfold ofLead?
    intro h
    split at h
    · next hrange =>
      simp only [Bool.and_eq_true, decide_eq_true_eq] at hrange
      cases h
      refine .inl ⟨b - 0xC0, by omega, by omega, by omega, ?_⟩
      rw [two, Nat.add_sub_of_le (by omega)]
    · split at h
      · next hrange =>
        simp only [Bool.and_eq_true, decide_eq_true_eq] at hrange
        cases h
        have hlow : b - 0xE0 = 0 ↔ b = 0xE0 := by omega
        have hhalf : b - 0xE0 = 0xD ↔ b = 0xED := by omega
        refine .inr (.inl ⟨b - 0xE0, by omega, by omega, ?_⟩)
        simp only [three, Nat.add_sub_of_le hrange.1, hlow, hhalf]
      · split at h
        · next hrange =>
          simp only [Bool.and_eq_true, decide_eq_true_eq] at hrange
          cases h
          have hlow : b - 0xF0 = 0 ↔ b = 0xF0 := by omega
          have hlast : b - 0xF0 = 4 ↔ b = 0xF4 := by omega
          refine .inr (.inr ⟨b - 0xF0, by omega, by omega, ?_⟩)
          simp only [four, Nat.add_sub_of_le hrange.1, hlow, hlast]
        · cases h
  · rintro (⟨a, hlong, ha, rfl, rfl⟩ | ⟨a, ha, rfl, rfl⟩ | ⟨a, ha, rfl, rfl⟩)
    · rw [ofLead?, if_pos (by simp; omega), Nat.add_sub_cancel_left]
      rfl
    · have hlow : 0xE0 + a = 0xE0 ↔ a = 0 := by omega
      have hhalf : 0xE0 + a = 0xED ↔ a = 0xD := by omega
      rw [ofLead?, if_neg (by simp), if_pos (by simp; omega), Nat.add_sub_cancel_left]
      simp only [three, hlow, hhalf]
    · have hlow : 0xF0 + a = 0xF0 ↔ a = 0 := by omega
      have hlast : 0xF0 + a = 0xF4 ↔ a = 4 := by omega
      rw [ofLead?, if_neg (by simp; omega), if_neg (by simp), if_pos (by simp; omega),
        Nat.add_sub_cancel_left]
      simp only [four, hlow, hlast]

/-- One byte more of a character. -/
def Owed.next (o : Owed) (b : Nat) : Owed :=
  ⟨o.lead, 0x40 * o.bits + b, o.taken + 1, o.more - 1, 0x80, 0xBF⟩

/-- A byte that is told by a number. -/
theorem eq_ofNat_of_toNat {byte : UInt8} {b : Nat} (h : byte.toNat = b) : byte = UInt8.ofNat b := by
  rw [← h, UInt8.ofNat_toNat]

section
variable {place : Nat} {bytes : List UInt8} {cs : List Char}

/-- What is decoded behind a character is put behind it. -/
theorem map_cons_eq_ok_iff {x : Except Utf8Fault (List Char)} {c : Char} :
    x.map (c :: ·) = .ok cs ↔ ∃ cs', x = .ok cs' ∧ cs = c :: cs' := by
  cases x with
  | error e => simp [Except.map]
  | ok cs' => simp [Except.map, eq_comm]

/-- Outside a character the next byte is one, or it owes others. -/
theorem decodeFrom_none_iff {byte : UInt8} : decodeFrom place none (byte :: bytes) = .ok cs ↔
    byte.toNat < 0x80 ∧ (∃ cs', decodeFrom (place + 1) none bytes = .ok cs' ∧
        cs = Char.ofNat byte.toNat :: cs') ∨
      ∃ o, Owed.ofLead? byte.toNat = some o ∧
        decodeFrom (place + 1) (some o) bytes = .ok cs := by
  rw [decodeFrom]
  by_cases hone : byte.toNat < 0x80
  · have hnone : Owed.ofLead? byte.toNat = none := by
      by_contra h
      obtain ⟨o, ho⟩ := Option.ne_none_iff_exists'.1 h
      rcases Owed.ofLead?_eq_some_iff.1 ho with ⟨a, h⟩ | ⟨a, h⟩ | ⟨a, h⟩ <;> omega
    simp only [hone, if_true, hnone, true_and, false_and, exists_false, or_false, reduceCtorEq]
    exact map_cons_eq_ok_iff
  · simp only [hone, if_false, false_and, false_or]
    cases Owed.ofLead? byte.toNat with
    | none => simp
    | some o => simp

/-- Inside a character the next byte is in the range that is owed. -/
theorem decodeFrom_some_iff {o : Owed} (hlow : 0x80 ≤ o.low) (hhigh : o.high ≤ 0xBF) :
    decodeFrom place (some o) bytes = .ok cs ↔
      ∃ b rest, bytes = UInt8.ofNat (0x80 + b) :: rest ∧ o.low ≤ 0x80 + b ∧ 0x80 + b ≤ o.high ∧
        if o.more = 0 then ∃ cs', decodeFrom (place + 1) none rest = .ok cs' ∧
          cs = Char.ofNat (0x40 * o.bits + b) :: cs'
        else decodeFrom (place + 1) (some (o.next b)) rest = .ok cs := by
  have hstep (b : Nat) (rest : List UInt8) (hl : o.low ≤ 0x80 + b) (hh : 0x80 + b ≤ o.high) :
      decodeFrom place (some o) (UInt8.ofNat (0x80 + b) :: rest) = .ok cs ↔
        if o.more = 0 then ∃ cs', decodeFrom (place + 1) none rest = .ok cs' ∧
          cs = Char.ofNat (0x40 * o.bits + b) :: cs'
        else decodeFrom (place + 1) (some (o.next b)) rest = .ok cs := by
    have hb : (UInt8.ofNat (0x80 + b)).toNat = 0x80 + b :=
      UInt8.toNat_ofNat_of_lt' (show 0x80 + b < 256 by omega)
    have hrange : ¬(0x80 + b < o.low || o.high < 0x80 + b) = true := by
      simp only [Bool.or_eq_true, decide_eq_true_eq]
      omega
    simp only [decodeFrom, hb, if_neg hrange, Nat.add_sub_cancel_left]
    split
    · exact map_cons_eq_ok_iff
    · exact Iff.rfl
  constructor
  · intro h
    cases bytes with
    | nil => cases h
    | cons byte rest =>
      by_cases hrange : o.low ≤ byte.toNat ∧ byte.toNat ≤ o.high
      · have hbyte : byte = UInt8.ofNat (0x80 + (byte.toNat - 0x80)) :=
          eq_ofNat_of_toNat (by omega)
        have hl : o.low ≤ 0x80 + (byte.toNat - 0x80) := by omega
        have hh : 0x80 + (byte.toNat - 0x80) ≤ o.high := by omega
        rw [hbyte, hstep _ _ hl hh] at h
        exact ⟨_, rest, by rw [← hbyte], hl, hh, h⟩
      · have hout : (byte.toNat < o.low || o.high < byte.toNat) = true := by
          simp only [Bool.or_eq_true, decide_eq_true_eq]
          omega
        simp only [decodeFrom, if_pos hout] at h
        cases h
  · rintro ⟨b, rest, rfl, hl, hh, h⟩
    exact (hstep b rest hl hh).2 h

/-- The last byte that is owed makes the character. -/
theorem decodeFrom_last_iff {o : Owed} (hlow : o.low = 0x80) (hhigh : o.high = 0xBF)
    (hmore : o.more = 0) : decodeFrom place (some o) bytes = .ok cs ↔
      ∃ b rest cs', b < 0x40 ∧ bytes = UInt8.ofNat (0x80 + b) :: rest ∧
        decodeFrom (place + 1) none rest = .ok cs' ∧
        cs = Char.ofNat (0x40 * o.bits + b) :: cs' := by
  rw [decodeFrom_some_iff (by omega) (by omega)]
  constructor
  · rintro ⟨b, rest, hbytes, hl, hh, h⟩
    rw [if_pos hmore] at h
    obtain ⟨cs', hrest, hcs⟩ := h
    exact ⟨b, rest, cs', by omega, hbytes, hrest, hcs⟩
  · rintro ⟨b, rest, cs', hb, hbytes, hrest, hcs⟩
    exact ⟨b, rest, hbytes, by omega, by omega, by rw [if_pos hmore]; exact ⟨cs', hrest, hcs⟩⟩

/-- Behind any other one there are bytes to come. -/
theorem decodeFrom_more_iff {o : Owed} (hrange : 0x80 ≤ o.low ∧ o.high ≤ 0xBF)
    (hmore : o.more ≠ 0) : decodeFrom place (some o) bytes = .ok cs ↔
      ∃ b rest, bytes = UInt8.ofNat (0x80 + b) :: rest ∧ o.low ≤ 0x80 + b ∧ 0x80 + b ≤ o.high ∧
        decodeFrom (place + 1) (some (o.next b)) rest = .ok cs := by
  rw [decodeFrom_some_iff hrange.1 hrange.2]
  simp only [if_neg hmore]

end

/-! ## The range of the second byte -/

namespace Owed

variable {a b : Nat}

/-- Of three bytes the second one makes no longer form of a number, and no half of a pair. -/
theorem three_range_iff : (three a).low ≤ 0x80 + b ∧ 0x80 + b ≤ (three a).high ↔
    b < 0x40 ∧ (a = 0 → 0x20 ≤ b) ∧ (a = 0xD → b < 0x20) := by
  unfold three
  dsimp only
  split <;> split <;> omega

/-- Of four bytes it makes no longer form either, and no number beyond the last one. -/
theorem four_range_iff : (four a).low ≤ 0x80 + b ∧ 0x80 + b ≤ (four a).high ↔
    b < 0x40 ∧ (a = 0 → 0x10 ≤ b) ∧ (a = 4 → b < 0x10) := by
  unfold four
  dsimp only
  split <;> split <;> omega

/-- It is in the range of the others. -/
theorem three_range (a : Nat) : 0x80 ≤ (three a).low ∧ (three a).high ≤ 0xBF := by
  unfold three
  dsimp only
  split <;> split <;> omega

theorem four_range (a : Nat) : 0x80 ≤ (four a).low ∧ (four a).high ≤ 0xBF := by
  unfold four
  dsimp only
  split <;> split <;> omega

end Owed

/-! ## Characters of several bytes -/

section
variable {place a : Nat} {bytes : List UInt8} {cs : List Char}

theorem decodeFrom_two_iff : decodeFrom place (some (.two a)) bytes = .ok cs ↔
    ∃ b rest cs', b < 0x40 ∧ bytes = UInt8.ofNat (0x80 + b) :: rest ∧
      decodeFrom (place + 1) none rest = .ok cs' ∧ cs = Char.ofNat (0x40 * a + b) :: cs' :=
  decodeFrom_last_iff rfl rfl rfl

theorem decodeFrom_three_iff : decodeFrom place (some (.three a)) bytes = .ok cs ↔
    ∃ b c rest cs', (b < 0x40 ∧ (a = 0 → 0x20 ≤ b) ∧ (a = 0xD → b < 0x20)) ∧ c < 0x40 ∧
      bytes = UInt8.ofNat (0x80 + b) :: UInt8.ofNat (0x80 + c) :: rest ∧
      decodeFrom (place + 2) none rest = .ok cs' ∧
      cs = Char.ofNat (0x40 * (0x40 * a + b) + c) :: cs' := by
  rw [decodeFrom_more_iff (Owed.three_range a) Nat.one_ne_zero]
  constructor
  · rintro ⟨b, _, rfl, hl, hh, h⟩
    obtain ⟨c, rest, cs', hc, rfl, hrest, hcs⟩ := (decodeFrom_last_iff rfl rfl rfl).1 h
    exact ⟨b, c, rest, cs', Owed.three_range_iff.1 ⟨hl, hh⟩, hc, rfl, hrest, hcs⟩
  · rintro ⟨b, c, rest, cs', hb, hc, rfl, hrest, hcs⟩
    obtain ⟨hl, hh⟩ := Owed.three_range_iff.2 hb
    exact ⟨b, _, rfl, hl, hh,
      (decodeFrom_last_iff rfl rfl rfl).2 ⟨c, rest, cs', hc, rfl, hrest, hcs⟩⟩

theorem decodeFrom_four_iff : decodeFrom place (some (.four a)) bytes = .ok cs ↔
    ∃ b c d rest cs', (b < 0x40 ∧ (a = 0 → 0x10 ≤ b) ∧ (a = 4 → b < 0x10)) ∧ c < 0x40 ∧
      d < 0x40 ∧ bytes = UInt8.ofNat (0x80 + b) :: UInt8.ofNat (0x80 + c) ::
        UInt8.ofNat (0x80 + d) :: rest ∧
      decodeFrom (place + 3) none rest = .ok cs' ∧
      cs = Char.ofNat (0x40 * (0x40 * (0x40 * a + b) + c) + d) :: cs' := by
  have hmiddle (b : Nat) : 0x80 ≤ ((Owed.four a).next b).low ∧
      ((Owed.four a).next b).high ≤ 0xBF := ⟨Nat.le_refl _, Nat.le_refl _⟩
  rw [decodeFrom_more_iff (Owed.four_range a) (Nat.succ_ne_zero 1)]
  constructor
  · rintro ⟨b, _, rfl, hl, hh, h⟩
    obtain ⟨c, _, rfl, hcl, hch, h⟩ := (decodeFrom_more_iff (hmiddle b) Nat.one_ne_zero).1 h
    obtain ⟨d, rest, cs', hd, rfl, hrest, hcs⟩ := (decodeFrom_last_iff rfl rfl rfl).1 h
    have hc : c < 0x40 := by
      have hch : 0x80 + c ≤ 0xBF := hch
      omega
    exact ⟨b, c, d, rest, cs', Owed.four_range_iff.1 ⟨hl, hh⟩, hc, hd, rfl, hrest, hcs⟩
  · rintro ⟨b, c, d, rest, cs', hb, hc, hd, rfl, hrest, hcs⟩
    obtain ⟨hl, hh⟩ := Owed.four_range_iff.2 hb
    have hch : 0x80 + c ≤ 0xBF := by omega
    refine ⟨b, _, rfl, hl, hh, (decodeFrom_more_iff (hmiddle b) Nat.one_ne_zero).2 ?_⟩
    exact ⟨c, _, rfl, Nat.le_add_right _ _, hch,
      (decodeFrom_last_iff rfl rfl rfl).2 ⟨d, rest, cs', hd, rfl, hrest, hcs⟩⟩

/-- Whatever is decoded begins with the bytes of a character, unless there is nothing. -/
theorem exists_encoding_of_decodeFrom {byte : UInt8}
    (h : decodeFrom place none (byte :: bytes) = .ok cs) :
    ∃ n bs rest cs', Encoding n bs ∧ byte :: bytes = bs.map UInt8.ofNat ++ rest ∧
      decodeFrom (place + bs.length) none rest = .ok cs' ∧ cs = Char.ofNat n :: cs' := by
  rcases decodeFrom_none_iff.1 h with ⟨hone, cs', hrest, hcs⟩ | ⟨o, ho, h⟩
  · refine ⟨_, _, bytes, cs', .one hone, ?_, hrest, hcs⟩
    rw [List.map_singleton, UInt8.ofNat_toNat]
    rfl
  · rcases Owed.ofLead?_eq_some_iff.1 ho with
      ⟨a, hlong, ha, hb, rfl⟩ | ⟨a, ha, hb, rfl⟩ | ⟨a, ha, hb, rfl⟩
    · obtain ⟨b, rest, cs', hb', rfl, hrest, hcs⟩ := decodeFrom_two_iff.1 h
      exact ⟨_, _, rest, cs', .two hlong ha hb', by rw [eq_ofNat_of_toNat hb]; rfl, hrest, hcs⟩
    · obtain ⟨b, c, rest, cs', ⟨hb', hlong, hhalf⟩, hc, rfl, hrest, hcs⟩ :=
        decodeFrom_three_iff.1 h
      exact ⟨_, _, rest, cs', .three ha hb' hc hlong hhalf, by rw [eq_ofNat_of_toNat hb]; rfl,
        hrest, hcs⟩
    · obtain ⟨b, c, d, rest, cs', ⟨hb', hlong, hlast⟩, hc, hd, rfl, hrest, hcs⟩ :=
        decodeFrom_four_iff.1 h
      exact ⟨_, _, rest, cs', .four ha hb' hc hd hlong hlast, by rw [eq_ofNat_of_toNat hb]; rfl,
        hrest, hcs⟩

/-- The bytes of a character are decoded to it. -/
theorem Encoding.decodeFrom_eq {n : Nat} {bs : List Nat} (h : Encoding n bs)
    {rest : List UInt8} (hrest : decodeFrom (place + bs.length) none rest = .ok cs) :
    decodeFrom place none (bs.map UInt8.ofNat ++ rest) = .ok (Char.ofNat n :: cs) := by
  have hlead {b : Nat} {o : Owed} (hb : b < 256) (ho : Owed.ofLead? b = some o)
      {tail : List UInt8}
      (htail : decodeFrom (place + 1) (some o) tail = .ok (Char.ofNat n :: cs)) :
      decodeFrom place none (UInt8.ofNat b :: tail) = .ok (Char.ofNat n :: cs) := by
    refine decodeFrom_none_iff.2 (.inr ⟨o, ?_, htail⟩)
    rwa [UInt8.toNat_ofNat_of_lt' hb]
  cases h with
  | one ha =>
    have hbyte := UInt8.toNat_ofNat_of_lt' (show n < 256 by omega)
    refine decodeFrom_none_iff.2 (.inl ?_)
    rw [hbyte]
    exact ⟨ha, cs, hrest, rfl⟩
  | two hlong ha hb =>
    refine hlead (by omega) (Owed.ofLead?_eq_some_iff.2 (.inl ⟨_, hlong, ha, rfl, rfl⟩)) ?_
    exact decodeFrom_two_iff.2 ⟨_, rest, cs, hb, rfl, hrest, rfl⟩
  | three ha hb hc hlong hhalf =>
    refine hlead (by omega) (Owed.ofLead?_eq_some_iff.2 (.inr (.inl ⟨_, ha, rfl, rfl⟩))) ?_
    exact decodeFrom_three_iff.2
      ⟨_, _, rest, cs, ⟨hb, hlong, hhalf⟩, hc, rfl, hrest, rfl⟩
  | four ha hb hc hd hlong hlast =>
    refine hlead (by omega) (Owed.ofLead?_eq_some_iff.2 (.inr (.inr ⟨_, ha, rfl, rfl⟩))) ?_
    exact decodeFrom_four_iff.2
      ⟨_, _, _, rest, cs, ⟨hb, hlong, hlast⟩, hc, hd, rfl, hrest, rfl⟩

end

/-! ## Whole texts -/

/-- Bytes are decoded to characters just if they are theirs, one behind the other. -/
theorem decodeFrom_eq_ok_iff {place : Nat} {bytes : List UInt8} {cs : List Char} :
    decodeFrom place none bytes = .ok cs ↔ cs.flatMap String.utf8EncodeChar = bytes := by
  constructor
  · intro h
    -- on the number of bytes, as a character takes several of them
    induction hlength : bytes.length using Nat.strongRecOn generalizing place bytes cs with
    | ind length ih =>
      cases bytes with
      | nil =>
        cases h
        rfl
      | cons byte bytes =>
        obtain ⟨n, bs, rest, cs', hn, hbytes, hrest, rfl⟩ := exists_encoding_of_decodeFrom h
        have hless : rest.length < length := by
          have hlengths := congrArg List.length hbytes
          have hpos : 0 < bs.length := by cases hn <;> exact Nat.succ_pos _
          rw [List.length_append, List.length_map] at hlengths
          omega
        rw [List.flatMap_cons, hn.utf8EncodeChar, ih _ hless hrest rfl, hbytes]
  · rintro rfl
    induction cs generalizing place with
    | nil => rfl
    | cons c cs ih =>
      obtain ⟨bs, hbs⟩ := exists_encoding c
      have hchar := hbs.utf8EncodeChar
      have hdecoded := hbs.decodeFrom_eq (@ih (place + bs.length))
      rw [Char.ofNat_toNat] at hchar hdecoded
      rwa [List.flatMap_cons, hchar]

/-- The bytes of an array are listed in order. -/
theorem toList_loop (bytes : ByteArray) (i : Nat) (read : List UInt8) :
    ByteArray.toList.loop bytes i read = read.reverse ++ bytes.data.toList.drop i := by
  fun_induction ByteArray.toList.loop bytes i read with
  | case1 i read hin ih =>
    have hlength : i < bytes.data.toList.length := by simpa using hin
    have hget : bytes.get! i = bytes.data.toList[i] := by
      change bytes.data[i]! = _
      rw [getElem!_pos bytes.data i hin, Array.getElem_toList]
    rw [ih, List.drop_eq_getElem_cons hlength, hget, List.reverse_cons, List.append_assoc]
    rfl
  | case2 i read hout =>
    rw [List.drop_eq_nil_of_le (by simpa using hout), List.append_nil]

theorem toList_eq (bytes : ByteArray) : bytes.toList = bytes.data.toList := by
  rw [ByteArray.toList, toList_loop]
  rfl

/-- Bytes are decoded just if they are those of a text, and to that text. -/
theorem decode_eq_ok_iff {bytes : ByteArray} {s : String} :
    decode bytes = .ok s ↔ s.toUTF8 = bytes := by
  have hbytes : s.toUTF8 = (s.toList.flatMap String.utf8EncodeChar).toByteArray := by
    have hlist : (String.ofList s.toList).toByteArray = s.toList.utf8Encode :=
      String.toByteArray_ofList
    rwa [String.ofList_toList] at hlist
  have hlist (l : List UInt8) : l.toByteArray = bytes ↔ l = bytes.toList := by
    rw [toList_eq, ByteArray.ext_iff, List.data_toByteArray, ← Array.toList_inj]
  rw [hbytes, hlist, ← decodeFrom_eq_ok_iff, decode]
  cases decodeFrom 0 none bytes.toList with
  | error e => simp [Except.map]
  | ok cs =>
    rw [Except.map, Except.ok.injEq, Except.ok.injEq, ← String.toList_inj, String.toList_ofList]

/-- Whether bytes are those of a text. -/
def IsText (bytes : ByteArray) : Prop := ∃ s : String, s.toUTF8 = bytes

/-- If they are not, there is a fault in them. -/
theorem exists_decode_error {bytes : ByteArray} (h : ¬IsText bytes) :
    ∃ fault, decode bytes = .error fault := by
  cases hdecoded : decode bytes with
  | error fault => exact ⟨fault, rfl⟩
  | ok s => exact absurd ⟨s, decode_eq_ok_iff.1 hdecoded⟩ h

end ClientGen.Text
