import ClientGen.Text.Case

/-!
# The words of a name

A name of an API is made of words, the runs of plain letters and digits ([runs]), which are cut once
more in front of a capital that follows a small letter or a digit ([humps]). Three spellings are
made from them: [camelize], where every run starts with a capital, [lowerCamelize], where the whole
starts with a small letter, and [underscore], all in small letters with `_` in between. A capital in
the middle of a run starts a word and stays a capital, so [camelize] need not look at the humps.
-/

namespace ClientGen.Text

/-- The maximal runs of plain letters and digits. -/
def runs : List Char → List (List Char)
  | [] => []
  | c :: rest =>
    if c.isAlphanum then
      match rest with
      | [] => [[c]]
      | d :: _ =>
        if d.isAlphanum then
          match runs rest with
          | [] => [[c]]
          | r :: rs => (c :: r) :: rs
        else [c] :: runs rest
    else runs rest

/-- The parts of a run, cut in front of each capital that follows a small letter or a digit. -/
def humps : List Char → List (List Char)
  | [] => []
  | [c] => [[c]]
  | c :: d :: rest =>
    match humps (d :: rest) with
    | [] => [[c]]
    | w :: ws => if d.isUpper && !c.isUpper then [c] :: w :: ws else (c :: w) :: ws

/-- The words of a name. -/
def words (cs : List Char) : List (List Char) :=
  (runs cs).flatMap humps

/-- The letters and digits of a name, where `start` says that the next one begins a run and is
written as a capital. -/
def camelChars (start : Bool) : List Char → List Char
  | [] => []
  | c :: rest =>
    if c.isAlphanum then (if start then c.toUpper else c) :: camelChars false rest
    else camelChars true rest

/-- A text whose first character is written as a small letter. -/
def lowerFirst : List Char → List Char
  | [] => []
  | c :: rest => c.toLower :: rest

/-- The words of a name, each with a capital, written together. -/
def camelize (s : String) : String :=
  String.ofList (camelChars true s.toList)

/-- The words of a name, each but the first with a capital, written together. -/
def lowerCamelize (s : String) : String :=
  String.ofList (lowerFirst (camelChars true s.toList))

/-- The words of a name in small letters, with `_` in between. -/
def underscore (s : String) : String :=
  String.ofList (['_'].intercalate ((words s.toList).map (·.map Char.toLower)))

end ClientGen.Text
