import ClientGen.Text.Charset.Basic

/-!
# Pages of characters

The charsets in which every byte is a character. A page says what the last bytes stand for
([BytePage.upper]), and every byte in front of them is its own code point; a byte without a
character stands for the replacement character.
-/

namespace ClientGen.Text

/-- A charset of single bytes. Its names are in small letters, with single underscores. -/
structure BytePage where
  names : List String
  /-- The characters of the last bytes, up to the greatest one. -/
  upper : String

/-- The character of a byte. -/
def BytePage.char (p : BytePage) (byte : UInt8) : Char :=
  let start := 256 - p.upper.length
  if byte.toNat < start then Char.ofNat byte.toNat
  else (p.upper.toList[byte.toNat - start]?).getD replacement

/-- The charset of a page. -/
def BytePage.charset (p : BytePage) : Charset :=
  ⟨p.names, fun bytes => .ok (bytes.map p.char)⟩

/-- ASCII, where the upper half stands for nothing. -/
def asciiPage : BytePage :=
  ⟨["ascii", "646", "ansi_x3.4_1968", "ansi_x3.4_1986", "ansi_x3_4_1968", "cp367", "csascii",
    "ibm367", "iso646_us", "iso_646.irv_1991", "iso_ir_6", "us", "us_ascii"],
    String.ofList (List.replicate 128 replacement)⟩

/-- Latin-1, which needs no table. -/
def latinPage : BytePage :=
  ⟨["latin_1", "8859", "cp819", "csisolatin1", "ibm819", "iso8859", "iso8859_1", "iso_8859_1",
    "iso_8859_1_1987", "iso_ir_100", "l1", "latin", "latin1"],
    ""⟩

/-- The page in which every byte is its own code point because there is no table. -/
def plainPage : BytePage := ⟨["charmap"], ""⟩

end ClientGen.Text
