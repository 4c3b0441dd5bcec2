/-!
# Cutting and replacing

[pieces] cuts a text at every occurrence of a character, so that a text with `n` of them has `n + 1`
pieces. [replaceAll] puts one text in the place of every occurrence of another, from left to right,
and does not look again at what it has put in.
-/

namespace ClientGen.Text

/-- The parts of a list of characters between the occurrences of `sep`. -/
def pieces (sep : Char) : List Char → List (List Char)
  | [] => [[]]
  | c :: rest =>
    if c = sep then [] :: pieces sep rest
    else match pieces sep rest with
      | [] => [[c]]
      | p :: ps => (c :: p) :: ps

/-- There is always at least one piece. -/
theorem pieces_ne_nil (sep : Char) (cs : List Char) : pieces sep cs ≠ [] := by
  cases cs with
  | nil => simp [pieces]
  | cons c rest =>
    rw [pieces]
    split
    · simp
    · split <;> simp

/-- A separator ends an empty piece. -/
theorem pieces_sep (sep : Char) (rest : List Char) :
    pieces sep (sep :: rest) = [] :: pieces sep rest := by
  rw [pieces, if_pos rfl]

/-- What has no separator is one piece. -/
theorem pieces_of_not_mem {sep : Char} {cs : List Char} (h : sep ∉ cs) : pieces sep cs = [cs] := by
  induction cs with
  | nil => rfl
  | cons c rest ih =>
    rw [List.mem_cons, not_or] at h
    rw [pieces, if_neg (Ne.symm h.1), ih h.2]

/-- The first piece goes up to the first separator. -/
theorem pieces_append {sep : Char} {cs : List Char} (h : sep ∉ cs) (rest : List Char) :
    pieces sep (cs ++ sep :: rest) = cs :: pieces sep rest := by
  induction cs with
  | nil => exact pieces_sep sep rest
  | cons c cs ih =>
    rw [List.mem_cons, not_or] at h
    rw [List.cons_append, pieces, if_neg (Ne.symm h.1), ih h.2]

/-- At a separator the pieces of what is before it end, and those of the rest begin. -/
theorem pieces_append_sep (sep : Char) (cs rest : List Char) :
    pieces sep (cs ++ sep :: rest) = pieces sep cs ++ pieces sep rest := by
  induction cs with
  | nil => exact pieces_sep sep rest
  | cons c cs ih =>
    rw [List.cons_append, pieces, pieces]
    split
    · rw [ih, List.cons_append]
    · rw [ih]
      cases hcs : pieces sep cs with
      | nil => exact absurd hcs (pieces_ne_nil sep cs)
      | cons p ps => rfl

/-- No piece has the separator in it. -/
theorem not_mem_of_mem_pieces {sep : Char} {cs p : List Char} (h : p ∈ pieces sep cs) :
    sep ∉ p := by
  induction cs generalizing p with
  | nil =>
    rw [pieces, List.mem_singleton] at h
    rw [h]
    exact List.not_mem_nil
  | cons c rest ih =>
    rw [pieces] at h
    split at h
    · rcases List.mem_cons.1 h with rfl | h
      · exact List.not_mem_nil
      · exact ih h
    · next hc =>
      split at h
      · next hp => exact absurd hp (pieces_ne_nil sep rest)
      · next q qs hp =>
        rcases List.mem_cons.1 h with rfl | h
        · rw [List.mem_cons, not_or]
          exact ⟨Ne.symm hc, ih (hp ▸ List.mem_cons_self)⟩
        · exact ih (hp ▸ List.mem_cons_of_mem q h)

/-- The characters of a piece are those of the text. -/
theorem mem_of_mem_pieces {sep c : Char} {cs p : List Char} (h : p ∈ pieces sep cs) (hc : c ∈ p) :
    c ∈ cs := by
  induction cs generalizing p with
  | nil =>
    rw [pieces, List.mem_singleton] at h
    rwa [h] at hc
  | cons d rest ih =>
    rw [pieces] at h
    split at h
    · rcases List.mem_cons.1 h with rfl | h
      · cases hc
      · exact List.mem_cons_of_mem d (ih h hc)
    · split at h
      · next hp => exact absurd hp (pieces_ne_nil sep rest)
      · next q qs hp =>
        rcases List.mem_cons.1 h with rfl | h
        · rcases List.mem_cons.1 hc with rfl | hc
          · exact List.mem_cons_self
          · exact List.mem_cons_of_mem d (ih (hp ▸ List.mem_cons_self) hc)
        · exact List.mem_cons_of_mem d (ih (hp ▸ List.mem_cons_of_mem q h) hc)

/-- Joined pieces have the characters of the pieces and of what joins them. -/
theorem mem_of_mem_intercalate {sep : List Char} {pieces : List (List Char)} {c : Char}
    (h : c ∈ sep.intercalate pieces) : c ∈ sep ∨ ∃ p ∈ pieces, c ∈ p := by
  induction pieces with
  | nil => cases h
  | cons p pieces ih =>
    cases pieces with
    | nil =>
      rw [List.intercalate_singleton] at h
      exact .inr ⟨p, List.mem_singleton_self p, h⟩
    | cons q pieces =>
      rw [List.intercalate_cons_cons, List.mem_append, List.mem_append] at h
      rcases h with (h | h) | h
      · exact .inr ⟨p, List.mem_cons_self, h⟩
      · exact .inl h
      · rcases ih h with h | ⟨q', hq, h⟩
        · exact .inl h
        · exact .inr ⟨q', List.mem_cons_of_mem p hq, h⟩

/-- And they have all characters of the pieces. -/
theorem mem_intercalate_of_mem (sep : List Char) {pieces : List (List Char)} {p : List Char}
    (hp : p ∈ pieces) {c : Char} (hc : c ∈ p) : c ∈ sep.intercalate pieces := by
  induction pieces with
  | nil => cases hp
  | cons q pieces ih =>
    cases pieces with
    | nil =>
      rw [List.intercalate_singleton]
      exact List.mem_singleton.1 hp ▸ hc
    | cons r pieces =>
      rw [List.intercalate_cons_cons, List.mem_append, List.mem_append]
      rcases List.mem_cons.1 hp with rfl | hp
      · exact .inl (.inl hc)
      · exact .inr (ih hp)

/-- A list with every occurrence of `old` replaced by `new`, where `skip` characters of the last
occurrence are still to be passed over. An empty `old` occurs nowhere. -/
def replaceFrom (old new : List Char) : Nat → List Char → List Char
  | _, [] => []
  | skip + 1, _ :: rest => replaceFrom old new skip rest
  | 0, c :: rest =>
    if !old.isEmpty && old.isPrefixOf (c :: rest) then
      new ++ replaceFrom old new (old.length - 1) rest
    else c :: replaceFrom old new 0 rest

/-- To replace a character is to do it for each character. -/
theorem replaceFrom_char (old : Char) (new cs : List Char) :
    replaceFrom [old] new 0 cs = cs.flatMap fun c => if c = old then new else [c] := by
  induction cs with
  | nil => rfl
  | cons c rest ih =>
    by_cases hc : c = old
    · simp [replaceFrom, hc, ih]
    · simp [replaceFrom, hc, Ne.symm hc, ih]

/-- What is still to be passed over is passed over. -/
theorem replaceFrom_skip (old new passed rest : List Char) :
    replaceFrom old new passed.length (passed ++ rest) = replaceFrom old new 0 rest := by
  induction passed with
  | nil => rfl
  | cons c passed ih =>
    rw [List.length_cons, List.cons_append, replaceFrom]
    exact ih

/-- An occurrence at the start is replaced, and the search goes on behind it. -/
theorem replaceFrom_append_self (c : Char) (old new rest : List Char) :
    replaceFrom (c :: old) new 0 (c :: old ++ rest) =
      new ++ replaceFrom (c :: old) new 0 rest := by
  have hfound : (c :: old).isPrefixOf (c :: (old ++ rest)) = true :=
    List.isPrefixOf_iff_prefix.2 (List.prefix_append (c :: old) rest)
  rw [List.cons_append, replaceFrom, hfound]
  exact congrArg (new ++ ·) (replaceFrom_skip (c :: old) new old rest)

/-- Nothing is replaced before the first character of what is looked for. -/
theorem replaceFrom_append_of_not_mem {c : Char} {before : List Char} (h : c ∉ before)
    (old new rest : List Char) :
    replaceFrom (c :: old) new 0 (before ++ rest) =
      before ++ replaceFrom (c :: old) new 0 rest := by
  induction before with
  | nil => rfl
  | cons d before ih =>
    rw [List.mem_cons, not_or] at h
    have hother : (c :: old).isPrefixOf (d :: (before ++ rest)) = false := by
      rw [List.isPrefixOf, beq_false_of_ne h.1, Bool.false_and]
    rw [List.cons_append, List.cons_append, replaceFrom, hother, Bool.and_false,
      if_neg Bool.false_ne_true, ih h.2]

/-- A text with every occurrence of `old` replaced by `new`. -/
def replaceAll (old new s : String) : String :=
  String.ofList (replaceFrom old.toList new.toList 0 s.toList)

/-- An occurrence at the end is the only one if its first character is not before it. -/
theorem replaceAll_append_self {c : Char} {old before : String} {tail : List Char}
    (hold : old.toList = c :: tail) (h : c ∉ before.toList) (new : String) :
    replaceAll old new (before ++ old) = before ++ new := by
  apply String.toList_inj.1
  have hend := replaceFrom_append_self c tail new.toList []
  rw [List.append_nil, replaceFrom, List.append_nil] at hend
  rw [replaceAll, String.toList_ofList, String.toList_append, String.toList_append, hold,
    replaceFrom_append_of_not_mem h, hend]

theorem toList_replaceAll_char {old new : String} {c : Char} (hold : old.toList = [c])
    (s : String) :
    (replaceAll old new s).toList =
      s.toList.flatMap fun d => if d = c then new.toList else [d] := by
  rw [replaceAll, String.toList_ofList, hold, replaceFrom_char]

/-- Whether `part` occurs in a list of characters. -/
def occursIn (part : List Char) : List Char → Bool
  | [] => part.isEmpty
  | c :: rest => part.isPrefixOf (c :: rest) || occursIn part rest

/-- Whether one text occurs in another. -/
def contains (s part : String) : Bool :=
  occursIn part.toList s.toList

/-- Whether one text begins another. -/
def startsWith (s start : String) : Bool :=
  start.toList.isPrefixOf s.toList

/-- A text begins with another iff it is the other one and what follows it. -/
theorem startsWith_iff {s start : String} :
    startsWith s start = true ↔ ∃ rest, s = start ++ rest := by
  simp only [startsWith, List.isPrefixOf_iff_prefix]
  constructor
  · rintro ⟨cs, h⟩
    refine ⟨String.ofList cs, ?_⟩
    rw [← String.toList_inj, String.toList_append, String.toList_ofList, h]
  · rintro ⟨rest, rfl⟩
    exact ⟨rest.toList, (String.toList_append).symm⟩

/-- The text before the first occurrence of a character, and the text after it if there is one. -/
def cutAt (sep : Char) (s : String) : String × Option String :=
  let before := s.toList.takeWhile (· != sep)
  match s.toList.dropWhile (· != sep) with
  | [] => (String.ofList before, none)
  | _ :: after => (String.ofList before, some (String.ofList after))

end ClientGen.Text
