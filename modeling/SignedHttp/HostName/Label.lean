import SignedHttp.HostName.Direction
import SignedHttp.HostName.Joining
import SignedHttp.HostName.Mark
import SignedHttp.HostName.Permitted
import SignedHttp.HostName.Punycode
import SignedHttp.HostName.Script
import SignedHttp.Text.Composition
import SignedHttp.Text.Hex
import SignedHttp.Text.Quoted

/-!
# Labels of host names

A label is what stands between two points of a host name, as a list of code points. It is
composed, has hyphens neither at its ends nor in both its third and fourth place, starts
with no mark, holds permitted code points only, and is of one direction. A label outside
ASCII goes over the wire in its spelling, behind `xn--`, and it has one spelling only.

Key definitions: `LabelDefect`, `checkLabel`, `spelledLabel`, `readLabel`.
-/

namespace SignedHttp.HostName

/-- What is wrong with a label. Positions count from one. -/
inductive LabelDefect where
  | empty
  | tooLong
  | notComposed
  /-- The third and the fourth code point are hyphens. -/
  | innerHyphens
  | outerHyphen
  | initialMark
  | forbidden (n position : Nat) (label : List Nat)
  /-- A code point is not permitted beside these neighbours. -/
  | misplaced (n position : Nat) (label : List Nat)
  /-- A joiner has nothing to join or to part. -/
  | looseJoiner (n position : Nat) (label : List Nat)
  /-- A joiner stands behind a code point that has no name. -/
  | strangeNeighbour (n position : Nat) (label : List Nat)
  | direction (defect : DirectionDefect)
  /-- Nothing is spelled. -/
  | noSpelling
  /-- The spelling ends with the hyphen in front of its numbers. -/
  | noNumbers
  | malformedSpelling
  /-- The label has another spelling, which is the one to be used. -/
  | unusualSpelling
deriving DecidableEq, Repr

def hyphen : Nat := '-'.toNat

/-! ### Code points that need certain neighbours -/

/-- The joiner that parts its neighbours, and the one that joins them. -/
def joiners : List Nat :=
  [0x200C, 0x200D]

/-- The class of the marks that mute the vowel of the letter before them. -/
def viramaClass : Nat := 9

def tangutRanges : List (Nat × Nat) :=
  [(0x17000, 0x187F7), (0x18D00, 0x18D08)]

/-- Whether a code point that is permitted has no name: it is not yet assigned, or is one of
the ideographs of Tangut. -/
def isNameless (n : Nat) : Bool :=
  direction n = .unknown || Text.Interval.covers tangutRanges n

def isVirama (n : Nat) : Bool :=
  Text.Composition.markClass n = viramaClass

/-- Whether a joiner may stand at a place: behind a mark that mutes a vowel, or, if it is
one that parts letters, between letters that would be joined. -/
def joinerFits (n : Nat) (before after : List Nat) : Bool :=
  before.head?.any isVirama || (n = 0x200C && isJoined before after)

def isArabicDigit (n : Nat) : Bool :=
  0x660 ≤ n && n ≤ 0x669

/-- An Arabic digit as it is written farther east. -/
def isEasternDigit (n : Nat) : Bool :=
  0x6F0 ≤ n && n ≤ 0x6F9

/-- Whether a code point is permitted beside certain neighbours only, joiners apart. -/
def needsNeighbours (n : Nat) : Bool :=
  [0xB7, 0x375, 0x5F3, 0x5F4, 0x30FB].contains n || isArabicDigit n || isEasternDigit n

/-- Whether such a code point may stand at a place: a middle point between two `l`, a
Greek numeral sign before Greek, Hebrew punctuation behind Hebrew, the Japanese point in a
label with a letter of Japanese, and digits of one of the two Arabic kinds beside none of
the other. -/
def neighboursFit (n : Nat) (before after : List Nat) : Bool :=
  let l := 'l'.toNat
  if n = 0xB7 then before.head? = some l && after.head? = some l
  else if n = 0x375 then after.head?.any isGreek
  else if n = 0x5F3 || n = 0x5F4 then before.head?.any isHebrew
  else if n = 0x30FB then before.any isJapanese || after.any isJapanese
  else if isArabicDigit n then !(before.any isEasternDigit || after.any isEasternDigit)
  else !(before.any isArabicDigit || after.any isArabicDigit)

/-- Refuses the code points that are not permitted where they stand. The text before them
is held last code point first. -/
def checkPoints (before : List Nat) : List Nat → Except LabelDefect Unit
  | [] => .ok ()
  | n :: after =>
    let position := before.length + 1
    let label := before.reverse ++ n :: after
    if isPermitted n then checkPoints (n :: before) after
    else if joiners.contains n then
      if before.head?.any isNameless then .error (.strangeNeighbour n position label)
      else if joinerFits n before after then checkPoints (n :: before) after
      else .error (.looseJoiner n position label)
    else if needsNeighbours n then
      if neighboursFit n before after then checkPoints (n :: before) after
      else .error (.misplaced n position label)
    else .error (.forbidden n position label)

def checkLabel (label : List Nat) : Except LabelDefect Unit := do
  if label.isEmpty then throw .empty
  if !Text.Composition.isComposed label then throw .notComposed
  if (label.drop 2).take 2 = [hyphen, hyphen] then throw .innerHyphens
  if label.head? = some hyphen || label.getLast? = some hyphen then throw .outerHyphen
  if label.head?.any isMark then throw .initialMark
  checkPoints [] label
  (checkDirection label).mapError .direction

/-! ### The spelling of a label -/

/-- What stands in front of a spelling. -/
def spellingMark : List Char :=
  "xn--".toList

def maxLabelLength : Nat := 63

/-- The label that an ASCII text denotes, in lower case. -/
def readLabel (s : List Char) : Except LabelDefect (List Nat) :=
  let s := s.map Char.toLower
  if spellingMark.isPrefixOf s then
    let spelling := s.drop spellingMark.length
    if spelling.isEmpty then .error .noSpelling
    else if spelling.getLast? = some '-' then .error .noNumbers
    else match Punycode.decode? spelling with
      | none => .error .malformedSpelling
      | some label =>
        if Punycode.encode label = spelling then (fun () => label) <$> checkLabel label
        else .error .unusualSpelling
  else
    let label := s.map Char.toNat
    (fun () => label) <$> checkLabel label

def spelledLabel (s : List Char) : Except LabelDefect (List Char) := do
  let spelled ← if s.all Text.Ascii.isAscii then (fun _ => s) <$> readLabel s
    else (fun () => spellingMark ++ Punycode.encode (s.map Char.toNat)) <$>
      checkLabel (s.map Char.toNat)
  if maxLabelLength < spelled.length then throw .tooLong
  return spelled

/-! ### Wording -/

/-- A code point as messages number it: in at least four capital digits. -/
def pointName (n : Nat) : String :=
  let digits := (Nat.toDigits 16 n).map Char.toUpper
  "U+" ++ .ofList (List.replicate (4 - digits.length) '0' ++ digits)

def DirectionDefect.message : DirectionDefect → String
  | .unknown label position =>
    "Unknown directionality in label " ++ Text.quotedPoints label ++ " at position " ++
      toString position
  | .undirected label =>
    "First codepoint in label " ++ Text.quotedPoints label ++ " must be directionality L, R or AL"
  | .foreign rightToLeft position =>
    "Invalid direction for codepoint at position " ++ toString position ++
      (if rightToLeft then " in a right-to-left label" else " in a left-to-right label")
  | .mixedNumbers => "Can not mix numeral types in a right-to-left label"
  | .openEnd => "Label ends with illegal codepoint directionality"

def LabelDefect.message : LabelDefect → String
  | .empty => "Empty Label"
  | .tooLong => "Label too long"
  | .notComposed => "Label must be in Normalization Form C"
  | .innerHyphens => "Label has disallowed hyphens in 3rd and 4th position"
  | .outerHyphen => "Label must not start or end with a hyphen"
  | .initialMark => "Label begins with an illegal combining character"
  | .forbidden n position label =>
    "Codepoint " ++ pointName n ++ " at position " ++ toString position ++ " of " ++
      Text.quotedPoints label ++ " not allowed"
  | .misplaced n position label =>
    "Codepoint " ++ pointName n ++ " not allowed at position " ++ toString position ++ " in " ++
      Text.quotedPoints label
  | .looseJoiner n position label =>
    "Joiner " ++ pointName n ++ " not allowed at position " ++ toString position ++ " in " ++
      Text.quotedPoints label
  | .strangeNeighbour n position label =>
    "Unknown codepoint adjacent to joiner " ++ pointName n ++ " at position " ++
      toString position ++ " in " ++ Text.quotedPoints label
  | .direction defect => defect.message
  | .noSpelling => "Malformed A-label, no Punycode eligible content found"
  | .noNumbers => "A-label must not end with a hyphen"
  | .malformedSpelling => "Invalid A-label"
  | .unusualSpelling => "A-label is not the canonical Punycode encoding of its U-label"

end SignedHttp.HostName
