import ClientGen.Text.Charset.Basic
import ClientGen.Text.Grid.Chinese

/-!
# Chinese charsets

The characters of GB 2312 with the eighth bit set in both bytes, between signs that announce them
([takeMarked]), and with all other characters of Unicode around them: ideographs that have no place
are put in order beside the others ([moreIdeographs]), and what is left has four bytes ([ofFour?]).
-/

namespace ClientGen.Text

/-- A character of GB 2312, of two bytes without the eighth bit. -/
def gb2312? (a b : Nat) : Option (List Char) := (gb2312.ofBytes? a b).map ([·])

/-- A character of GB 2312, of two bytes with the eighth bit. -/
def highGb2312? (a b : Nat) : Option (List Char) := gb2312? (a ^^^ 0x80) (b ^^^ 0x80)

/-! ## Characters beside the others -/

/-- The place of two bytes: 190 of them belong to every first byte. -/
def gbPlace? (a b : Nat) : Option Nat :=
  if a < 0x81 || 0xFE < a || b < 0x40 || b = 0x7F || 0xFE < b then none
  else some (190 * (a - 0x81) + if b < 0x7F then b - 0x40 else b - 0x41)

/-- The place of the number of two bytes. -/
def gbPlaceOf (bytes : Nat) : Nat := (gbPlace? (bytes / 256) (bytes % 256)).getD 0

/-- Runs of places: the bytes of the first one and of the last one, or of the only one, and the code
point at the first. -/
def gbRuns (table : String) : List (List Nat) :=
  (rowsOf table).map fun row => row.dropLast.map gbPlaceOf ++ row.getLast?.toList

/-- Signs beside GB 2312, and two in it that are others there. -/
def gbSigns : List (List Nat) := gbRuns
  "A1A4=B7 A1AA=2014 A2A1-A2AA=2170 A6E0-A6E1=FE35 A6E2-A6E3=FE39 A6E4-A6E5=FE3F A6E6-A6E7=FE3D
    A6E8-A6EB=FE41 A6EE-A6EF=FE3B A6F0-A6F1=FE37 A6F2=FE31 A6F4-A6F5=FE33 A840-A841=2CA A842=2D9
    A843=2013 A844=2015 A845=2025 A846=2035 A847=2105 A848=2109 A849-A84C=2196 A84D=2215 A84E=221F
    A84F=2223 A850=2252 A851-A852=2266 A853=22BF A854-A877=2550 A878-A887=2581 A888-A88A=2593
    A88B-A88C=25BC A88D-A890=25E2 A891=2609 A892=2295 A893=3012 A894-A895=301D A8BB=251 A8BD=144
    A8BE=148 A8C0=261 A940-A948=3021 A949=32A3 A94A-A94B=338E A94C-A94E=339C A94F=33A1 A950=33C4
    A951=33CE A952-A953=33D1 A954=33D5 A955=FE30 A956=FFE2 A957=FFE4 A959=2121 A95A=3231 A95C=2010
    A960=30FC A961-A962=309B A963-A964=30FD A965=3006 A966-A967=309D A968-A971=FE49 A972-A975=FE54
    A976-A984=FE59 A985-A988=FE68 A996=3007 FD9C=F92C FD9D=F979 FD9E=F995 FD9F=F9E7 FDA0=F9F1
    FE40-FE43=FA0C FE44=FA11 FE45-FE46=FA13 FE47=FA18 FE48-FE4A=FA1F FE4B-FE4C=FA23 FE4D-FE4F=FA27"

/-- More signs and ideographs, and what is free for any use. -/
def gbMoreSigns : List (List Nat) := gbRuns
  "A140-A1A0=E4C6 A240-A2A0=E526 A2AB-A2B0=E766 A2E3=20AC A2E4=E76D A2EF-A2F0=E76E A2FD-A2FE=E770
    A340-A3A0=E586 A440-A4A0=E5E6 A4F4-A4FE=E772 A540-A5A0=E646 A5F7-A5FE=E77D A640-A6A0=E6A6
    A6B9-A6C0=E785 A6D9-A6DF=E78D A6EC-A6ED=E794 A6F3=E796 A6F6-A6FE=E797 A740-A7A0=E706
    A7C2-A7D0=E7A0 A7F2-A7FE=E7AF A896-A8A0=E7BC A8BC=E7C7 A8BF=1F9 A8C1-A8C4=E7C9 A8EA-A8FE=E7CD
    A958=E7E2 A95B=E7E3 A95D-A95F=E7E4 A989=303E A98A-A995=2FF0 A997-A9A3=E7F4 A9F0-A9FE=E801
    AAA1-AAFE=E000 ABA1-ABFE=E05E ACA1-ACFE=E0BC ADA1-ADFE=E11A AEA1-AEFE=E178 AFA1-AFFE=E1D6
    D7FA-D7FE=E810 F8A1-F8FE=E234 F9A1-F9FE=E292 FAA1-FAFE=E2F0 FBA1-FBFE=E34E FCA1-FCFE=E3AC
    FDA1-FDFE=E40A FE50=2E81 FE51-FE53=E816 FE54=2E84 FE55=3473 FE56=3447 FE57=2E88 FE58=2E8B
    FE59=E81E FE5A=359E FE5B=361A FE5C=360E FE5D=2E8C FE5E=2E97 FE5F=396E FE60=3918 FE61=E826
    FE62=39CF FE63=39DF FE64=3A73 FE65=39D0 FE66-FE67=E82B FE68=3B4E FE69=3C6E FE6A=3CE0 FE6B=2EA7
    FE6C-FE6D=E831 FE6E=2EAA FE6F=4056 FE70=415F FE71=2EAE FE72=4337 FE73=2EB3 FE74-FE75=2EB6
    FE76=E83B FE77=43B1 FE78=43AC FE79=2EBB FE7A=43DD FE7B=44D6 FE7C=4661 FE7D=464C FE7E=E843
    FE80=4723 FE81=4729 FE82=477C FE83=478D FE84=2ECA FE85=4947 FE86=497A FE87=497D FE88-FE89=4982
    FE8A-FE8B=4985 FE8C=499F FE8D=499B FE8E=49B7 FE8F=49B6 FE90-FE91=E854 FE92=4CA3 FE93-FE95=4C9F
    FE96=4C77 FE97=4CA2 FE98-FE9E=4D13 FE9F=4DAE FEA0=E864 FEA1-FEFE=E468"

/-- The common ideographs that are not in GB 2312. -/
def moreIdeographs : Array Char :=
  charsBeside (gb2312.toList.flatMap Array.toList) 0x4E00 20902

/-- The number of one of the ideographs that are not in GB 2312. They follow each other in front of
it, and then beside it. -/
def ideographNumber? (a b : Nat) : Option Nat := do
  let place ← gbPlace? a b
  if a ≤ 0xA0 then some place
  else if 0xAA ≤ a && b ≤ 0xA0 then some (190 * 32 + 96 * (a - 0xAA) + place % 190)
  else none

/-- A character of GB 2312 as extended, of two bytes. -/
def extendedGb? (a b : Nat) : Option (List Char) :=
  let sign := (gbPlace? a b).bind (charInRuns? gbSigns)
  let ideograph := (ideographNumber? a b).bind (moreIdeographs[·]?)
  ((sign.map ([·])).or (highGb2312? a b)).or (ideograph.map ([·]))

/-- A character of two bytes where everything has a place. -/
def wholeGb? (a b : Nat) : Option (List Char) :=
  (extendedGb? a b).or (((gbPlace? a b).bind (charInRuns? gbMoreSigns)).map ([·]))

/-! ## Characters of four bytes -/

/-- The code points of the first plane that have no two bytes. One of GB 2312 is among them, because
another sign is in its place. -/
def lastOfPlane : Array Char :=
  let codes := (gbSigns ++ gbMoreSigns).flatMap fun
    | [_, code] => [Char.ofNat code]
    | [first, last, code] => (List.range (last - first + 1)).map fun i => Char.ofNat (code + i)
    | _ => []
  let given := (gb2312.toList.flatMap Array.toList).filter (· ≠ '・')
  charsBeside (given ++ moreIdeographs.toList ++ codes) 0x80 (0x10000 - 0x80)

/-- The character of four bytes. -/
def ofFour? (a b c d : Nat) : Option Char :=
  if a < 0x81 || 0xFE < a || c < 0x81 || 0xFE < c || d < 0x30 || 0x39 < d then none
  else
    let n := ((10 * (a - 0x81) + (b - 0x30)) * 126 + (c - 0x81)) * 10 + (d - 0x30)
    if a < 0x85 then lastOfPlane[n]?
    else if a < 0x90 then none
    else
      let code := 0x10000 + (n - 15 * 12600)
      if code < 0x110000 then some (Char.ofNat code) else none

/-- What is taken where a digit as the second byte announces four bytes. -/
def takeWholeGb (_ : Unit) : List Nat → Taken Unit
  | a :: b :: rest =>
    if 0x80 ≤ a && 0x30 ≤ b && b ≤ 0x39 then
      match rest with
      | c :: d :: _ =>
        match ofFour? a b c d with
        | some char => .chars [char] 4 ()
        | none => .nothing 1
      | _ => .short
    else takePair ascii? wholeGb? () (a :: b :: rest)
  | bytes => takePair ascii? wholeGb? () bytes

/-! ## Marked runs -/

/-- What is taken where tildes stand in front of signs that turn to GB 2312 (`inside`) and back, of
a tilde, and of an end of line that does not count. -/
def takeMarked (inside : Bool) : List Nat → Taken Bool
  | [] => .short
  | a :: rest =>
    if a = '~'.toNat then
      match rest with
      | [] => .short
      | b :: _ =>
        let sign := Char.ofNat b
        if inside then (if sign = '\x7d' then .chars [] 2 false else .nothing 1)
        else if sign = '~' then .chars ['~'] 2 false
        else if sign = '\x7b' then .chars [] 2 true
        else if sign = '\n' then .chars [] 2 false
        else .nothing 1
    else if 0x80 ≤ a then .nothing 1
    else if !inside then .chars [Char.ofNat a] 1 false
    else match rest with
      | [] => .short
      | b :: _ =>
        match gb2312? a b with
        | some cs => .chars cs 2 true
        | none => .nothing 1

/-! ## Charsets -/

/-- The Chinese charsets. -/
def chineseCharsets : List Charset := [
  ⟨["gb2312", "chinese", "csiso58gb231280", "euc_cn", "euccn", "eucgb2312_cn", "gb2312_1980",
    "gb2312_80", "iso_ir_58", "x_mac_simp_chinese"], decodeBy (takePair ascii? highGb2312?) ()⟩,
  ⟨["gbk", "936", "cp936", "ms936"], decodeBy (takePair ascii? extendedGb?) ()⟩,
  ⟨["gb18030", "gb18030_2000"], decodeBy takeWholeGb ()⟩,
  ⟨["hz", "hz_gb", "hz_gb_2312", "hzgb"], decodeBy takeMarked false⟩]

end ClientGen.Text
