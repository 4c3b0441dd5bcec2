import ClientGen.Json.Reader
import ClientGen.Json.Writer

/-!
# Reading what was written

A document without numbers, whose keys are distinct texts and whose collections are not too deep
inside each other ([Plain]), is what is read in the text that is written of it ([read_write]). A
character in quotes is read back whether it is escaped or not ([readChars_writtenChar]), and so is a
text, whatever follows it. A list and a mapping are blocks of parts, so that one induction on the
parts is for both of them ([readAll_joined]). The collections inside each other are taken apart by
induction on the document.
-/

namespace ClientGen.Json

/-! ## Texts -/

section
variable {start tail cs after : List Char} {n : Nat}

/-- The digits of a control character tell its number. -/
theorem hexText_control :
    ∀ n < 32, (hexText 4 n).length = 4 ∧ Text.hexValue? (hexText 4 n) = some n := by
  decide +kernel

/-- The code of a control character is read back. -/
theorem codeUnit_hexText (hn : n < 32) (htail : tail ≠ []) :
    codeUnit ('u' :: (hexText 4 n ++ tail)) = .ok n := by
  obtain ⟨hlength, hvalue⟩ := hexText_control n hn
  have hdigits : (('u' :: (hexText 4 n ++ tail)).drop 1).take 4 = hexText 4 n :=
    List.take_left' hlength
  have hlong : ¬('u' :: (hexText 4 n ++ tail)).length ≤ 5 := by
    have := List.length_pos_iff.2 htail
    rw [List.length_cons, List.length_append]
    omega
  unfold codeUnit
  simp only [hdigits, hvalue, hlength]
  rw [if_neg (by simpa using hlong)]

/-- So is its escape. -/
theorem escapedChar_hexText (hn : n < 32) (htail : tail ≠ []) :
    escapedChar start ('u' :: (hexText 4 n ++ tail)) = .ok (Char.ofNat n, 5) := by
  have hhigh : isHighHalf n = false := by
    simp only [isHighHalf, Bool.and_eq_false_iff, decide_eq_false_iff_not]
    exact .inl (by omega)
  have hchar : unitChar n = Char.ofNat n := by
    have hlow : isLowHalf n = false := by
      simp only [isLowHalf, Bool.and_eq_false_iff, decide_eq_false_iff_not]
      exact .inl (by omega)
    rw [unitChar, hhigh, hlow]
    rfl
  rw [escapedChar, codeUnit_hexText hn htail]
  simp only [bind, Except.bind]
  split
  · simp [hhigh, hchar]
    rfl
  · rw [hchar]
    rfl

/-- Characters of an escape are passed over. -/
theorem readChars_skip (escape : List Char) :
    readChars start escape.length (escape ++ tail) = readChars start 0 tail := by
  induction escape with
  | nil => rfl
  | cons c escape ih => exact ih

/-- A character of a text is read back. -/
theorem readChars_writtenChar (c : Char) (htail : tail ≠ [])
    (h : readChars start 0 tail = .ok (cs, after)) :
    readChars start 0 (writtenChar c ++ tail) = .ok (c :: cs, after) := by
  have hescape (escape : List Char) (hne : escape ≠ [])
      (hc : escapedChar ('\\' :: (escape ++ tail)) (escape ++ tail) = .ok (c, escape.length)) :
      readChars start 0 ('\\' :: escape ++ tail) = .ok (c :: cs, after) := by
    have hempty : (escape ++ tail).isEmpty = false := by simp [hne]
    rw [List.cons_append, readChars, if_neg (by decide), if_pos rfl, hempty, hc]
    change (readChars start escape.length (escape ++ tail) >>= _) = _
    rw [readChars_skip, h]
    rfl
  unfold writtenChar
  split
  · next hc =>
    rw [Bool.or_eq_true, decide_eq_true_eq, decide_eq_true_eq] at hc
    rcases hc with rfl | rfl
    · exact hescape ['"'] (by simp) rfl
    · exact hescape ['\\'] (by simp) rfl
  next hplain =>
    split
    · next hc => subst hc; exact hescape ['n'] (by simp) rfl
    split
    · next hc => subst hc; exact hescape ['r'] (by simp) rfl
    split
    · next hc => subst hc; exact hescape ['t'] (by simp) rfl
    split
    · next hc => subst hc; exact hescape ['f'] (by simp) rfl
    split
    · next hc => subst hc; exact hescape ['b'] (by simp) rfl
    split
    · next hc =>
      have hwidth : ('u' :: hexText 4 c.toNat).length = 5 := by
        rw [List.length_cons, (hexText_control c.toNat hc).1]
      refine hescape ('u' :: hexText 4 c.toNat) (by simp) ?_
      rw [List.cons_append, escapedChar_hexText hc htail, Char.ofNat_toNat, hwidth]
    · next hc =>
      rw [Bool.or_eq_true, decide_eq_true_eq, decide_eq_true_eq, not_or] at hplain
      rw [List.singleton_append, readChars, if_neg hplain.1, if_neg hplain.2, if_neg hc, h]
      rfl

/-- Characters up to a quote are read back. -/
theorem readChars_written (cs : List Char) :
    readChars start 0 (cs.flatMap writtenChar ++ '"' :: after) = .ok (cs, after) := by
  induction cs with
  | nil => rfl
  | cons c cs ih =>
    rw [List.flatMap_cons, List.append_assoc]
    exact readChars_writtenChar c (by simp) ih

/-- A text is written in quotes. -/
theorem exists_writtenText_eq (s : String) (rest : List Char) :
    ∃ tail, (writtenText s).toList ++ rest = '"' :: tail := by
  rw [writtenText, String.toList_ofList]
  exact ⟨_, rfl⟩

/-- A text is read back. -/
theorem readText_writtenText (s : String) (rest : List Char) :
    readText ((writtenText s).toList ++ rest) = .ok (s, rest) := by
  have hcs : (writtenText s).toList ++ rest =
      '"' :: (s.toList.flatMap writtenChar ++ '"' :: rest) := by
    simp [writtenText]
  rw [hcs, readText]
  change (readChars _ 0 (s.toList.flatMap writtenChar ++ '"' :: rest) >>= _) = _
  rw [readChars_written]
  exact congrArg (fun t => Except.ok (t, rest)) String.ofList_toList

end

/-! ## Between values -/

/-- White space at the start of a line is skipped. -/
theorem skipSpace_newLine (level : Nat) (cs : List Char) :
    skipSpace ((newLine level).toList ++ cs) = skipSpace cs := by
  rw [newLine, String.toList_ofList]
  refine List.dropWhile_append_of_pos fun c hc => ?_
  rcases List.mem_cons.1 hc with rfl | hc
  · rfl
  · rw [List.eq_of_mem_replicate hc]
    rfl

/-- Whether a text begins with something that is not white space, and ends no collection. -/
def Begins (cs : List Char) : Prop :=
  ∃ c rest, cs = c :: rest ∧ isSpace c = false ∧ c ≠ ']' ∧ c ≠ '}' ∧ c ≠ '\uFEFF'

/-- Then it still does with more behind it. -/
theorem Begins.append {cs : List Char} (h : Begins cs) (rest : List Char) :
    Begins (cs ++ rest) := by
  obtain ⟨c, cs, rfl, hc⟩ := h
  exact ⟨c, cs ++ rest, rfl, hc⟩

/-- And nothing is skipped. -/
theorem Begins.skipSpace_eq {cs : List Char} (h : Begins cs) : skipSpace cs = cs := by
  obtain ⟨c, rest, rfl, hc, _⟩ := h
  exact List.dropWhile_cons_of_neg (by simp [hc])

/-- There is fuel for it. -/
theorem Begins.exists_fuel {cs : List Char} (h : Begins cs) {fuel : Nat}
    (hfuel : 2 * cs.length ≤ fuel) : ∃ n, fuel = n + 1 := by
  obtain ⟨c, rest, rfl, _⟩ := h
  rw [List.length_cons] at hfuel
  exact ⟨fuel - 1, by omega⟩

/-- Parts with a comma and a line break between them. -/
def joined (level : Nat) (parts : List String) : List Char :=
  (',' :: (newLine level).toList).intercalate (parts.map String.toList)

theorem joined_singleton (level : Nat) (part : String) : joined level [part] = part.toList :=
  List.intercalate_singleton

theorem joined_cons_cons (level : Nat) (part next : String) (parts : List String) :
    joined level (part :: next :: parts) =
      part.toList ++ ',' :: ((newLine level).toList ++ joined level (next :: parts)) := by
  rw [joined, List.map_cons, List.map_cons, List.intercalate_cons_cons, List.append_assoc]
  rfl

/-- Joined parts begin like the first one. -/
theorem begins_joined {level : Nat} {part : String} (h : Begins part.toList) (parts : List String) :
    Begins (joined level (part :: parts)) := by
  cases parts with
  | nil => rwa [joined_singleton]
  | cons next parts =>
    rw [joined_cons_cons]
    exact h.append _

section
variable {opening closing : String} {o c : Char} {level : Nat} {parts : List String}

/-- A block without parts is its brackets. -/
theorem toList_block_nil (ho : opening.toList = [o]) (hc : closing.toList = [c])
    (rest : List Char) :
    (block opening closing level []).toList ++ rest = o :: c :: rest := by
  simp [block, ho, hc]

/-- A block has its parts between its brackets. -/
theorem toList_block (ho : opening.toList = [o]) (hc : closing.toList = [c]) (hne : parts ≠ [])
    (rest : List Char) :
    (block opening closing level parts).toList ++ rest =
      o :: ((newLine (level + 1)).toList ++
        (joined (level + 1) parts ++ ((newLine level).toList ++ c :: rest))) := by
  rw [block, if_neg (by simpa using hne), joined]
  simp [String.toList_intercalate, ho, hc]

/-- So it is longer than the parts. -/
theorem length_joined_lt (ho : opening.toList = [o]) (hc : closing.toList = [c]) :
    (joined (level + 1) parts).length + 2 ≤ (block opening closing level parts).toList.length := by
  by_cases hne : parts = []
  · subst hne
    simp [block, ho, hc, joined]
  · have htext : (block opening closing level parts).toList ++ [] = _ := toList_block ho hc hne []
    have hlength := congrArg List.length htext
    simp only [List.append_nil, List.length_cons, List.length_append, List.length_nil] at hlength
    omega

/-- It begins with the first one. -/
theorem exists_toList_block_eq (ho : opening.toList = [o]) :
    ∃ rest, (block opening closing level parts).toList = o :: rest := by
  unfold block
  split
  · rw [String.toList_append, ho]
    exact ⟨_, rfl⟩
  · simp only [String.toList_append, ho, List.append_assoc]
    exact ⟨_, rfl⟩

end

/-! ## Parts of a block -/

/-- Whether a part of a block is read as a value by what reads all its parts: this ends behind the
part at the sign `close`, and goes on behind a comma. -/
structure ReadsPart {α : Type} (readAll : Nat → List Char → Except Stop (List α × List Char))
    (close : Char) (part : String) (value : α) : Prop where
  begins : Begins part.toList
  last : ∀ {fuel rest after}, 2 * part.toList.length ≤ fuel → skipSpace rest = close :: after →
    readAll (fuel + 1) (part.toList ++ rest) = .ok ([value], after)
  next : ∀ {fuel rest more values after}, 2 * part.toList.length ≤ fuel →
    skipSpace rest = ',' :: more → readAll fuel (skipSpace more) = .ok (values, after) →
      readAll (fuel + 1) (part.toList ++ rest) = .ok (value :: values, after)

section
variable {α β : Type} {readAll : Nat → List Char → Except Stop (List α × List Char)}
  {close : Char} {part : β → String} {value : β → α} {xs : List β}

/-- Joined parts are read back if each of them is. -/
theorem readAll_joined (hclose : isSpace close = false) (hne : xs ≠ [])
    (hparts : ∀ x ∈ xs, ReadsPart readAll close (part x) (value x)) {fuel level : Nat}
    (hfuel : 2 * (joined level (xs.map part)).length < fuel) (outer : Nat) (rest : List Char) :
    readAll fuel (joined level (xs.map part) ++ ((newLine outer).toList ++ close :: rest)) =
      .ok (xs.map value, rest) := by
  induction xs generalizing fuel with
  | nil => exact absurd rfl hne
  | cons x xs ih =>
    obtain ⟨fuel, rfl⟩ : ∃ n, fuel = n + 1 := ⟨fuel - 1, by omega⟩
    have hx := hparts x List.mem_cons_self
    cases xs with
    | nil =>
      rw [List.map_singleton, joined_singleton] at hfuel ⊢
      refine hx.last (by omega) ?_
      rw [skipSpace_newLine]
      exact List.dropWhile_cons_of_neg (by simp [hclose])
    | cons y ys =>
      have hy : Begins (joined level ((y :: ys).map part)) :=
        begins_joined (hparts y (by simp)).begins _
      have htext : joined level ((x :: y :: ys).map part) =
          (part x).toList ++ ',' :: ((newLine level).toList ++ joined level ((y :: ys).map part)) :=
        joined_cons_cons level _ _ _
      rw [htext, List.length_append, List.length_cons, List.length_append] at hfuel
      rw [htext, List.append_assoc, List.cons_append, List.append_assoc]
      refine hx.next (by omega) rfl ?_
      rw [skipSpace_newLine, (hy.append _).skipSpace_eq]
      exact ih (by simp) (fun z hz => hparts z (List.mem_cons_of_mem x hz)) (by omega)

/-- So are the parts of a block, behind the sign that opens it. -/
theorem readAll_block {opening closing : String} {o : Char} (ho : opening.toList = [o])
    (hc : closing.toList = [close]) (hclose : isSpace close = false) (hne : xs ≠ [])
    (hparts : ∀ x ∈ xs, ReadsPart readAll close (part x) (value x)) {fuel level : Nat}
    (hfuel : 2 * (block opening closing level (xs.map part)).toList.length ≤ fuel + 1)
    (rest : List Char) :
    ∃ cs, (block opening closing level (xs.map part)).toList ++ rest = o :: cs ∧
      Begins (skipSpace cs) ∧ readAll fuel (skipSpace cs) = .ok (xs.map value, rest) := by
  have hbegins : Begins (joined (level + 1) (xs.map part)) := by
    obtain ⟨x, xs, rfl⟩ := List.exists_cons_of_ne_nil hne
    exact begins_joined (hparts x List.mem_cons_self).begins _
  have hlength : (joined (level + 1) (xs.map part)).length + 2 ≤
      (block opening closing level (xs.map part)).toList.length := length_joined_lt ho hc
  refine ⟨_, toList_block ho hc (by simpa using hne) rest, ?_⟩
  rw [skipSpace_newLine, (hbegins.append _).skipSpace_eq]
  exact ⟨hbegins.append _, readAll_joined hclose hne hparts (by omega) level rest⟩

end

/-! ## Values -/

theorem writeItems_eq (level : Nat) (items : List Value) :
    writeItems level items = items.map (writeAt level) := by
  induction items with
  | nil => rfl
  | cons v rest ih => rw [writeItems, ih, List.map_cons]

theorem writeEntries_eq (level : Nat) (entries : List (Key × Value)) :
    writeEntries level entries =
      entries.map fun (k, v) => writtenKey k ++ ": " ++ writeAt level v := by
  induction entries with
  | nil => rfl
  | cons e rest ih => rw [writeEntries, ih, List.map_cons]

/-- Whether a value at a level is read back, inside some collections and whatever follows it. -/
structure ReadsBack (level around : Nat) (v : Value) : Prop where
  begins : Begins (writeAt level v).toList
  reads : ∀ fuel rest, 2 * (writeAt level v).toList.length ≤ fuel →
    readValue fuel around ((writeAt level v).toList ++ rest) = .ok (v, rest)

section
variable {fuel level around : Nat} {cs rest : List Char}

/-- An item of a list is read as a part of it. -/
theorem ReadsBack.readsPart {v : Value} (h : ReadsBack level around v) :
    ReadsPart (fun fuel => readItems fuel around) ']' (writeAt level v) v where
  begins := h.begins
  last {fuel rest after} hfuel hrest := by
    rw [readItems, h.reads fuel rest hfuel]
    simp only [bind, Except.bind, hrest]
    rfl
  next {fuel rest more values after} hfuel hrest hmore := by
    rw [readItems, h.reads fuel rest hfuel]
    simp only [bind, Except.bind, hrest, hmore]
    rfl

/-- The key of a pair and its colon are read back. -/
theorem readKey_writtenText (key : String) (h : Begins cs) :
    readKey ((writtenText key).toList ++ (": ".toList ++ cs)) = .ok (.text key, cs) := by
  have htext := readText_writtenText key (": ".toList ++ cs)
  obtain ⟨tail, htail⟩ := exists_writtenText_eq key (": ".toList ++ cs)
  rw [htail] at htext ⊢
  rw [readKey, htext]
  change Except.ok (Key.text key, skipSpace cs) = _
  rw [h.skipSpace_eq]

/-- The text of a pair at a level. -/
def pairText (level : Nat) (e : String × Value) : String :=
  writtenText e.1 ++ ": " ++ writeAt level e.2

/-- A pair begins with its key. -/
theorem begins_pairText (level : Nat) (e : String × Value) : Begins (pairText level e).toList := by
  rw [pairText, writtenText, String.toList_append, String.toList_append, String.toList_ofList]
  exact ⟨'"', _, rfl, by decide⟩

/-- A pair of a mapping is read as a part of it. -/
theorem ReadsBack.readsPart_pair {e : String × Value} (h : ReadsBack level around e.2) :
    ReadsPart (fun fuel => readEntries fuel around) '}' (pairText level e)
      (Key.text e.1, e.2) := by
  have hkey (rest : List Char) : readKey ((pairText level e).toList ++ rest) =
      .ok (.text e.1, (writeAt level e.2).toList ++ rest) := by
    rw [pairText, String.toList_append, String.toList_append, List.append_assoc,
      List.append_assoc, readKey_writtenText e.1 (h.begins.append rest)]
  have hvalue {fuel : Nat} (rest : List Char)
      (hfuel : 2 * (pairText level e).toList.length ≤ fuel) :
      readValue fuel around ((writeAt level e.2).toList ++ rest) = .ok (e.2, rest) := by
    rw [pairText, String.toList_append, List.length_append] at hfuel
    exact h.reads fuel rest (by omega)
  constructor
  case begins => exact begins_pairText level e
  case last =>
    intro fuel rest after hfuel hrest
    rw [readEntries, hkey]
    simp only [bind, Except.bind, hvalue rest hfuel, hrest]
    rfl
  case next =>
    intro fuel rest more values after hfuel hrest hmore
    rw [readEntries, hkey]
    simp only [bind, Except.bind, hvalue rest hfuel, hrest, hmore]
    rfl

/-- A list is read back if its items are. -/
theorem readValue_list {items : List Value} (hdepth : around < deepest)
    (hbegins : Begins (skipSpace cs))
    (h : readItems fuel (around + 1) (skipSpace cs) = .ok (items, rest)) :
    readValue (fuel + 1) around ('[' :: cs) = .ok (.list items, rest) := by
  obtain ⟨c, tail, hcs, _, hc, _⟩ := hbegins
  rw [readValue, if_neg (by omega)]
  split
  · next heq => exact absurd (List.cons.inj (hcs.symm.trans heq)).1 hc
  · rw [h]
    rfl

/-- A mapping is read back if its pairs are. -/
theorem readValue_map {entries : List (Key × Value)} (hdepth : around < deepest)
    (hbegins : Begins (skipSpace cs))
    (h : readEntries fuel (around + 1) (skipSpace cs) = .ok (entries, rest)) :
    readValue (fuel + 1) around ('{' :: cs) = .ok (.map (Assoc.ofList entries), rest) := by
  obtain ⟨c, tail, hcs, _, _, hc, _⟩ := hbegins
  rw [readValue, if_neg (by omega)]
  split
  · next heq => exact absurd (List.cons.inj (hcs.symm.trans heq)).1 hc
  · rw [h]
    rfl

end

/-- Pairs with distinct texts as keys are kept. -/
theorem ofList_fields {fields : List (String × Value)} (h : (fields.map (·.1)).Nodup) :
    Assoc.ofList (fields.map fun (key, v) => (Key.text key, v)) =
      fields.map fun (key, v) => (Key.text key, v) := by
  refine Assoc.ofList_eq_self (List.pairwise_map.2 ((List.pairwise_map.1 h).imp fun hne => ?_))
  rw [Bool.eq_false_iff, ne_eq, (Key.exact_text _ _).1]
  exact fun heq => hne (Key.text.inj heq).symm

section
variable {level around : Nat}

/-- A value is read back if it is with enough fuel for its first step. -/
theorem readsBack_of_succ {v : Value} (hbegins : Begins (writeAt level v).toList)
    (h : ∀ fuel rest, 2 * (writeAt level v).toList.length ≤ fuel + 1 →
      readValue (fuel + 1) around ((writeAt level v).toList ++ rest) = .ok (v, rest)) :
    ReadsBack level around v := by
  refine ⟨hbegins, fun fuel rest hfuel => ?_⟩
  obtain ⟨fuel, rfl⟩ := hbegins.exists_fuel hfuel
  exact h fuel rest hfuel

/-- A word is read back. -/
theorem readsBack_null : ReadsBack level around .null := by
  refine readsBack_of_succ ?_ fun fuel rest _ => ?_
  · rw [writeAt]
    exact ⟨'n', ['u', 'l', 'l'], rfl, by decide⟩
  · rw [writeAt]
    rfl

theorem readsBack_bool (b : Bool) : ReadsBack level around (.bool b) := by
  refine readsBack_of_succ ?_ fun fuel rest _ => ?_
  · rw [writeAt]
    cases b with
    | true => exact ⟨'t', ['r', 'u', 'e'], rfl, by decide⟩
    | false => exact ⟨'f', ['a', 'l', 's', 'e'], rfl, by decide⟩
  · rw [writeAt]
    cases b <;> rfl

/-- So is a text. -/
theorem readsBack_text (s : String) : ReadsBack level around (.text s) := by
  refine readsBack_of_succ ?_ fun fuel rest _ => ?_
  · rw [writeAt, writtenText, String.toList_ofList]
    exact ⟨'"', _, rfl, by decide⟩
  · have htext := readText_writtenText s rest
    obtain ⟨tail, htail⟩ := exists_writtenText_eq s rest
    rw [htail] at htext
    rw [writeAt, htail, readValue, htext]
    rfl

/-- So is a list if its items are. -/
theorem readsBack_list (hdepth : around < deepest) {items : List Value}
    (hitems : ∀ v ∈ items, ReadsBack (level + 1) (around + 1) v) :
    ReadsBack level around (.list items) := by
  refine readsBack_of_succ ?_ fun fuel rest hfuel => ?_
  · rw [writeAt]
    obtain ⟨rest, hrest⟩ : ∃ rest, (block "[" "]" level _).toList = '[' :: rest :=
      exists_toList_block_eq rfl
    exact ⟨'[', rest, hrest, by decide⟩
  · rw [writeAt, writeItems_eq] at hfuel ⊢
    cases items with
    | nil =>
      rw [List.map_nil, toList_block_nil (o := '[') (c := ']') rfl rfl, readValue,
        if_neg (by omega)]
      rfl
    | cons v vs =>
      obtain ⟨cs, hcs, hbegins, hread⟩ := readAll_block (o := '[') rfl rfl rfl (by simp)
        (fun u hu => (hitems u hu).readsPart) hfuel rest
      rw [List.map_id'] at hread
      rw [hcs]
      exact readValue_list hdepth hbegins hread

/-- And so is a mapping with distinct texts as keys if their values are. -/
theorem readsBack_map (hdepth : around < deepest) {fields : List (String × Value)}
    (hkeys : (fields.map (·.1)).Nodup)
    (hfields : ∀ e ∈ fields, ReadsBack (level + 1) (around + 1) e.2) :
    ReadsBack level around (.map (fields.map fun (key, v) => (.text key, v))) := by
  have hparts : writeEntries (level + 1) (fields.map fun (key, v) => (.text key, v)) =
      fields.map (pairText (level + 1)) := by
    rw [writeEntries_eq, List.map_map]
    rfl
  refine readsBack_of_succ ?_ fun fuel rest hfuel => ?_
  · rw [writeAt]
    obtain ⟨rest, hrest⟩ : ∃ rest, (block "\x7b" "\x7d" level _).toList = '{' :: rest :=
      exists_toList_block_eq rfl
    exact ⟨'{', rest, hrest, by decide⟩
  · rw [writeAt, hparts] at hfuel ⊢
    cases fields with
    | nil =>
      rw [List.map_nil, toList_block_nil (o := '{') (c := '}') rfl rfl, readValue,
        if_neg (by omega)]
      rfl
    | cons e es =>
      obtain ⟨cs, hcs, hbegins, hread⟩ := readAll_block (o := '{') rfl rfl rfl (by simp)
        (fun f hf => (hfields f hf).readsPart_pair) hfuel rest
      rw [hcs, ← ofList_fields hkeys]
      exact readValue_map hdepth hbegins hread

end

/-- Documents without numbers, where all keys are distinct texts and collections are at most some
number of levels deep. -/
inductive Plain : Nat → Value → Prop
  | null {depth : Nat} : Plain depth .null
  | bool {depth : Nat} (b : Bool) : Plain depth (.bool b)
  | text {depth : Nat} (s : String) : Plain depth (.text s)
  | list {depth : Nat} {items : List Value} (hitems : ∀ v ∈ items, Plain depth v) :
      Plain (depth + 1) (.list items)
  | map {depth : Nat} {fields : List (String × Value)} (hkeys : (fields.map (·.1)).Nodup)
      (hfields : ∀ e ∈ fields, Plain depth e.2) :
      Plain (depth + 1) (.map (fields.map fun (key, v) => (.text key, v)))

/-- They are read back, inside not too many collections. -/
theorem Plain.readsBack {depth : Nat} {v : Value} (h : Plain depth v) {level around : Nat}
    (hdepth : around + depth ≤ deepest) : ReadsBack level around v := by
  induction h generalizing level around with
  | null => exact readsBack_null
  | bool b => exact readsBack_bool b
  | text s => exact readsBack_text s
  | list _ ih => exact readsBack_list (by omega) fun v hv => ih v hv (by omega)
  | map hkeys _ ih => exact readsBack_map (by omega) hkeys fun e he => ih e he (by omega)

/-- What is written of such a document is read as the document, whatever white space follows it. -/
theorem read_write_append {v : Value} (h : Plain deepest v) {space : String}
    (hspace : skipSpace space.toList = []) : read (write v ++ space) = .ok v := by
  have hback : ReadsBack 0 0 v := h.readsBack (Nat.le_of_eq (Nat.zero_add _))
  have hfuel : 2 * (write v).toList.length ≤ 2 * (write v ++ space).toList.length + 1 := by
    rw [String.toList_append, List.length_append]
    omega
  have hread := hback.reads _ space.toList hfuel
  have hbegins := hback.begins.append space.toList
  rw [← write, ← String.toList_append] at hread hbegins
  have hdocument : readDocument (write v ++ space).toList = .ok v := by
    have hmark : (write v ++ space).toList.head? ≠ some '\uFEFF' := by
      obtain ⟨c, rest, hcs, _, _, _, hc⟩ := hbegins
      rw [hcs]
      exact fun heq => hc (Option.some.inj heq)
    rw [readDocument, if_neg hmark, hbegins.skipSpace_eq, hread]
    simp only [bind, Except.bind, hspace]
    rfl
  rw [read, hdocument]
  rfl

/-- So is what is written alone. -/
theorem read_write {v : Value} (h : Plain deepest v) : read (write v) = .ok v := by
  have hspace : skipSpace "".toList = [] := rfl
  have hread := read_write_append h hspace
  rwa [String.append_empty] at hread

end ClientGen.Json
