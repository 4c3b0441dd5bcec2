import ClientGen.Client.Grouping

/-!
# Paths under a base path

A base path is empty or a slash and one segment ([IsBase]); [groupBasePath] gives no other. Of a
path under a base path, [relativePath] is what is left behind it, so that the two together are the
path without the slashes at its end ([base_append_relativePath]). A path lies under a segment only
if that segment is the base path that it would give a group itself ([groupBasePath_of_beginsWith]):
of two segments it lies under one at most.
-/

namespace ClientGen.Client

/-- A name between two slashes. -/
def IsSegment (s : String) : Prop := s ≠ "" ∧ '/' ∉ s.toList

/-- Nothing, for the root, or a slash and one segment. -/
def IsBase (base : String) : Prop := base = "" ∨ ∃ s, IsSegment s ∧ base = "/" ++ s

/-- Whether a path is a slash and a segment, or goes on behind them with another slash. -/
def BeginsWith (s path : String) : Prop := path = "/" ++ s ∨ ∃ rest, path = "/" ++ s ++ "/" ++ rest

/-- The characters of a segment behind a slash. -/
theorem toList_slash (s : String) : ("/" ++ s).toList = '/' :: s.toList := by
  rw [String.toList_append]
  rfl

/-- A segment behind a slash is more than nothing. -/
theorem slash_ne_empty (s : String) : "/" ++ s ≠ "" := by
  intro h
  have := congrArg String.toList h
  rw [toList_slash] at this
  exact List.cons_ne_nil _ _ this

/-- Segments are determined by their base paths. -/
theorem slash_inj {s t : String} (h : "/" ++ s = "/" ++ t) : s = t := by
  have := congrArg String.toList h
  rw [toList_slash, toList_slash] at this
  exact String.toList_inj.1 (List.cons.inj this).2

/-! ## The base path of a path -/

/-- The base path of a path is empty, or its first segment behind a slash. -/
theorem isBase_groupBasePath (path : String) : IsBase (groupBasePath path) := by
  unfold groupBasePath
  split
  · exact .inl rfl
  · next seg h =>
    have hne : seg ≠ [] := by
      have := List.find?_some h
      simpa using this
    have hslash : '/' ∉ seg := Text.not_mem_of_mem_pieces (List.mem_of_find?_eq_some h)
    refine .inr ⟨String.ofList seg, ⟨?_, ?_⟩, rfl⟩
    · intro he
      exact hne (by simpa using congrArg String.toList he)
    · rw [String.toList_ofList]
      exact hslash

/-- Everything is under the root. -/
theorem isUnder_empty (path : String) : isUnder path "" = true := rfl

/-- To be under a segment is to begin with it. -/
theorem isUnder_slash {path s : String} : isUnder path ("/" ++ s) = true ↔ BeginsWith s path := by
  simp only [isUnder, Bool.or_eq_true, decide_eq_true_eq, Text.startsWith_iff, BeginsWith]
  constructor
  · rintro ((h | h) | h)
    · exact absurd h (slash_ne_empty s)
    · exact .inl h
    · exact .inr h
  · rintro (h | h)
    · exact .inl (.inr h)
    · exact .inr h

/-- A path that begins with a segment has it for its base path. -/
theorem groupBasePath_of_beginsWith {path s : String} (hs : IsSegment s)
    (h : BeginsWith s path) : groupBasePath path = "/" ++ s := by
  have hne : s.toList ≠ [] := fun he => hs.1 (String.toList_inj.1 he)
  have hfind : ∃ tail, Text.pieces '/' path.toList = [] :: s.toList :: tail := by
    rcases h with rfl | ⟨rest, rfl⟩
    · refine ⟨[], ?_⟩
      rw [toList_slash, Text.pieces_sep, Text.pieces_of_not_mem hs.2]
    · refine ⟨Text.pieces '/' rest.toList, ?_⟩
      rw [String.toList_append, String.toList_append, toList_slash, List.cons_append,
        List.cons_append, Text.pieces_sep, List.append_assoc]
      exact congrArg ([] :: ·) (Text.pieces_append hs.2 rest.toList)
  obtain ⟨tail, htail⟩ := hfind
  have hempty : s.toList.isEmpty = false := List.isEmpty_eq_false_iff.2 hne
  simp [groupBasePath, htail, hempty, String.ofList_toList]

/-- A path begins with one segment at most. -/
theorem BeginsWith.unique {path s t : String} (hs : IsSegment s) (ht : IsSegment t)
    (h : BeginsWith s path) (h' : BeginsWith t path) : s = t := by
  have hbase := groupBasePath_of_beginsWith hs h
  rw [groupBasePath_of_beginsWith ht h'] at hbase
  exact slash_inj hbase.symm

/-! ## The path behind the base path -/

/-- The base path and what is left behind it are the path without the slashes at its end. -/
theorem base_append_relativePath {path base : String} (hb : IsBase base)
    (hu : isUnder path base = true) :
    base ++ relativePath path base = Text.trimCharEnd '/' path := by
  rw [relativePath, if_pos hu]
  apply String.toList_inj.1
  simp only [Text.trimCharEnd, String.toList_append, String.toList_ofList]
  rcases hb with rfl | ⟨s, hs, rfl⟩
  · rfl
  · -- The last character of a segment is no slash: nothing of the base path is taken off.
    obtain ⟨before, c, hsc⟩ : ∃ before c, s.toList = before ++ [c] := by
      rcases List.eq_nil_or_concat s.toList with h | ⟨before, c, h⟩
      · exact absurd (String.toList_inj.1 h) hs.1
      · exact ⟨before, c, by rw [h, List.concat_eq_append]⟩
    have hc : (c == '/') = false := by
      rw [beq_eq_false_iff_ne]
      rintro rfl
      exact hs.2 (by simp [hsc])
    obtain ⟨rest, hrest⟩ : ∃ rest, path.toList = ("/" ++ s).toList ++ rest := by
      rcases isUnder_slash.1 hu with rfl | ⟨rest, rfl⟩
      · exact ⟨[], (List.append_nil _).symm⟩
      · exact ⟨('/' :: rest.toList), by simp [String.toList_append]⟩
    have hlen : ("/" ++ s).length = ("/" ++ s).toList.length := String.length_toList.symm
    rw [hrest, hlen, List.drop_left, toList_slash, hsc]
    have := Text.dropEnd_append (p := (· == '/')) hc ('/' :: before) rest
    simpa using this.symm

end ClientGen.Client
