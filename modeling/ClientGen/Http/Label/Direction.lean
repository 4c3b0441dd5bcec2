import ClientGen.Http.Label.DirectionTable

/-!
# The direction of a label

A label with a character that is written from the right is written as a whole from the right or from
the left. [directionFault?] says whether the characters in it go together.
-/

namespace ClientGen.Http

/-- Why the characters of a label do not go together. -/
inductive DirectionFault where
  /-- There is no character at a place. -/
  | unknown (place : Nat)
  /-- The first character sets no direction. -/
  | first
  /-- A character has no place in the direction of the label. -/
  | against (place : Nat) (leftward : Bool)
  /-- There are numbers of two kinds. -/
  | numbers
  /-- The last character may not be the last one. -/
  | last
  deriving DecidableEq, Repr

namespace Direction

/-- Whether characters of a direction make a label one with a direction. -/
def turns (d : Direction) : Bool := d matches right | arabic | arabicNumber

/-- Whether a character may stand in any label with a direction. -/
def isFree (d : Direction) : Bool :=
  d matches number | numberSign | separator | numberEnd | neutral | invisible | mark

/-- Whether a character may stand in a label of the direction. -/
def fits (leftward : Bool) (d : Direction) : Bool :=
  d.isFree || if leftward then d.turns else d = left

/-- Whether a character may be the last one. -/
def ends (leftward : Bool) (d : Direction) : Bool :=
  d = number || if leftward then d.turns else d = left

end Direction

open Direction in
/-- The fault of characters in a label of a direction, from a place on. `seen` are the kinds of
numbers so far, and `ended` says whether the characters so far may be all. -/
def faultFrom? (leftward : Bool) :
    Nat → Option Direction → Bool → List Direction → Option DirectionFault
  | _, _, ended, [] => if ended then none else some .last
  | place, seen, ended, d :: rest =>
    if !d.fits leftward then some (.against place leftward)
    else
      let ended := if d = mark then ended else d.ends leftward
      if leftward && (d = arabicNumber || d = number) then
        if seen.all (· = d) then faultFrom? leftward (place + 1) (some d) ended rest
        else some .numbers
      else faultFrom? leftward (place + 1) seen ended rest

/-- Why the characters of a label do not go together, if they do not. Places count from one. -/
def directionFault? (label : List Nat) : Option DirectionFault :=
  let directions := label.map direction?
  match directions.findIdx? Option.isNone with
  | some i => some (.unknown (i + 1))
  | none =>
    let directions := directions.filterMap id
    if !directions.any Direction.turns then none
    else match directions.head? with
      | some .right | some .arabic => faultFrom? true 1 none false directions
      | some .left => faultFrom? false 1 none false directions
      | _ => some .first

end ClientGen.Http
