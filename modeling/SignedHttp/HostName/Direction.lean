import SignedHttp.HostName.Direction.Table
import SignedHttp.Text.Interval

/-!
# The direction of a label

A label that holds a right-to-left character must be of one direction, that of its first
character: a left-to-right label has no right-to-left characters, a right-to-left one no
left-to-right letters and digits of one kind only, and each ends, marks apart, with a
letter or a digit of its direction. Other labels are not looked at any further.

Key definitions: `direction`, `DirectionDefect`, `checkDirection`.
-/

namespace SignedHttp.HostName

def direction (n : Nat) : Direction :=
  (Text.Interval.valueAt? directionRanges n).getD .left

namespace Direction

def isRightLetter (d : Direction) : Bool :=
  d = .right || d = .arabicLetter

/-- Whether the direction makes a text one with right-to-left characters. -/
def isRight (d : Direction) : Bool :=
  d.isRightLetter || d = .arabicNumber

def isNumber (d : Direction) : Bool :=
  d = .arabicNumber || d = .europeanNumber

end Direction

/-- What is wrong with the direction of a label. Positions count from one. -/
inductive DirectionDefect where
  | unknown (label : List Nat) (position : Nat)
  /-- The first code point has no direction of its own. -/
  | undirected (label : List Nat)
  /-- A code point is of the other direction. -/
  | foreign (rightToLeft : Bool) (position : Nat)
  | mixedNumbers
  /-- The last code point does not end a label of its direction. -/
  | openEnd
deriving DecidableEq, Repr

/-- Refuses what may not stand in a right-to-left label, from a position on, behind a
digit or none. -/
def checkRight (position : Nat) (number : Option Direction) :
    List Direction → Except DirectionDefect Unit
  | [] => .ok ()
  | d :: rest =>
    if d = .left then .error (.foreign true position)
    else if d.isNumber then
      if number.any (· != d) then .error .mixedNumbers else checkRight (position + 1) (some d) rest
    else checkRight (position + 1) number rest

def checkLeft (directions : List Direction) : Except DirectionDefect Unit :=
  match directions.findIdx? Direction.isRight with
  | some i => .error (.foreign false (i + 1))
  | none => .ok ()

/-- Refuses a label whose last direction, that of marks apart, is none of those that end
it. -/
def checkEnd (isEnd : Direction → Bool) (directions : List Direction) :
    Except DirectionDefect Unit :=
  if ((directions.reverse.dropWhile (· = .nonspacing)).head?).any isEnd then .ok ()
  else .error .openEnd

def checkDirection (label : List Nat) : Except DirectionDefect Unit :=
  let directions := label.map direction
  match directions.findIdx? (· = .unknown) with
  | some i => .error (.unknown label (i + 1))
  | none =>
    if !directions.any Direction.isRight then .ok ()
    else if directions.head?.any Direction.isRightLetter then do
      checkRight 1 none directions
      checkEnd (fun d => d.isRightLetter || d.isNumber) directions
    else if directions.head? = some .left then do
      checkLeft directions
      checkEnd (fun d => d = .left || d = .europeanNumber) directions
    else .error (.undirected label)

end SignedHttp.HostName
