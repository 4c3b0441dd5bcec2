import ClientGen.Text.BytePage.Desktop
import ClientGen.Text.BytePage.Mainframe
import ClientGen.Text.BytePage.Regional
import ClientGen.Text.BytePage.Standard
import ClientGen.Text.BytePage.Terminal
import ClientGen.Text.BytePage.Window
import ClientGen.Text.Charset.Escaped
import ClientGen.Text.Charset.Switched
import ClientGen.Text.Charset.Taiwanese
import ClientGen.Text.Charset.Unicode

/-!
# Charsets by their names

All charsets that are known ([charsets]). A charset is known by several names ([Charset.ofName?]),
in which case and the signs between letters and digits do not matter.
-/

namespace ClientGen.Text

/-! ## Charsets -/

/-- Names that stand for something else than a way to write a text as bytes. -/
def otherCharsets : List Charset := [
  ⟨["undefined"], fun _ => .error .undefined⟩,
  ⟨["idna"], fun _ => .error .noReplacement⟩,
  ⟨["rot_13", "rot13"], fun _ => .error .takesText⟩,
  ⟨["base64_codec", "base64", "base_64"], fun _ => .error .makesBytes⟩,
  ⟨["bz2_codec", "bz2"], fun _ => .error .makesBytes⟩,
  ⟨["hex_codec", "hex"], fun _ => .error .makesBytes⟩,
  ⟨["quopri_codec", "quopri", "quoted_printable", "quotedprintable"],
    fun _ => .error .makesBytes⟩,
  ⟨["uu_codec", "uu"], fun _ => .error .makesBytes⟩,
  ⟨["zlib_codec", "zip", "zlib"], fun _ => .error .makesBytes⟩]

/-- Every page. -/
def bytePages : List BytePage :=
  [asciiPage, latinPage, plainPage] ++ standardPages ++ windowPages ++ terminalPages ++
    desktopPages ++ mainframePages ++ regionalPages

/-- Every charset. -/
def charsets : List Charset :=
  unitCharsets ++ bytePages.map BytePage.charset ++ escapedCharsets ++ japaneseCharsets ++
    koreanCharsets ++ chineseCharsets ++ taiwaneseCharsets ++ switchedCharsets ++ otherCharsets

/-! ## Names -/

/-- A name in small letters, in which single underscores stand between runs of letters, digits and
points, where `pending` says that one is due. -/
def plainName (pending : Bool) : List Char → List Char
  | [] => []
  | c :: rest =>
    if c.isAlphanum || c = '.' then
      if pending then '_' :: c.toLower :: plainName false rest
      else c.toLower :: plainName false rest
    else plainName true rest

/-- Whether a charset is known by a name. A point stands for an underscore, but not in the own name
of a charset. -/
def Charset.isNamed (charset : Charset) (plain : String) : Bool :=
  charset.names.contains plain ||
    (charset.names.drop 1).contains (replaceAll "." "_" plain)

/-- The charset of a name. -/
def Charset.ofName? (name : String) : Option Charset :=
  let cs := (name.toList.dropWhile fun c => !(c.isAlphanum || c = '.'))
  let plain := String.ofList (plainName false cs)
  charsets.find? (·.isNamed plain)

/-! ## Texts -/

/-- The text of bytes. Where there are none, the charset does not matter. -/
def Charset.text (charset : Charset) (bytes : ByteArray) : Except CharsetFault String :=
  if bytes.isEmpty then .ok "" else String.ofList <$> charset.decode bytes.toList

end ClientGen.Text
