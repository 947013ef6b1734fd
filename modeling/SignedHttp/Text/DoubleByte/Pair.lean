import SignedHttp.Text.CharacterSet.Chinese
import SignedHttp.Text.CharacterSet.Japanese
import SignedHttp.Text.CharacterSet.Korean
import SignedHttp.Text.CharacterSet.Traditional

/-!
# Characters of a pair of bytes

In a set of rows the first byte of a pair gives the row of its character and the second the
cell. Some encodings put the rows elsewhere, or add characters between and behind them: those
that are left of a whole block of code points, in their order, signs in runs, and characters
for private use. One writes the syllables of Korean by the numbers of their letters.

Key definitions: `DoubleByte`, `DoubleByte.pair?`.
-/

namespace SignedHttp.Text

/-- The encodings of characters in two bytes. -/
inductive DoubleByte where
  /-- Japanese, between the characters of one byte. There can be a yen sign and an overline in
  the place of the backslash and the tilde. -/
  | shiftJis (hasYen : Bool)
  /-- The same with the rows of makers. -/
  | shiftJisVendor
  /-- Japanese, all bytes above ASCII. -/
  | eucJapanese
  | chinese
  | chineseExtended
  /-- The last Chinese set, which has characters of four bytes too. -/
  | chineseLast
  | traditional
  | traditionalVendor
  | korean
  | koreanExtended
  /-- Korean syllables by their parts, and the rest of the set behind them. -/
  | koreanParts
deriving DecidableEq, Repr

namespace DoubleByte

/-- The character whose run, of those with the pairs of bytes that they start at, holds a
pair. -/
def inRuns? (runs : List (Nat × String)) (pair : Nat) : Option Char :=
  runs.findSome? fun (first, s) => if pair < first then none else s.toList[pair - first]?

/-- The character in the rows of 94 cells whose bytes start at 0xA1. -/
def inRows? (grid : Grid) (a b : Nat) : Option Char :=
  if 0xA1 ≤ a && 0xA1 ≤ b then grid.char? (a - 0xA1) (b - 0xA1) else none

/-- The row and the cell of a pair between the characters of one byte: each first byte is that
of two rows. -/
def shifted? (a b : Nat) : Option (Nat × Nat) :=
  let isFirst := (0x81 ≤ a && a ≤ 0x9F) || (0xE0 ≤ a && a ≤ 0xFC)
  let isSecond := (0x40 ≤ b && b ≤ 0x7E) || (0x80 ≤ b && b ≤ 0xFC)
  let row := 2 * (if a < 0xE0 then a - 0x81 else a - 0xC1)
  let cell := if b < 0x80 then b - 0x40 else b - 0x41
  if isFirst && isSecond then some (row + cell / 94, cell % 94) else none

def halfWidth? (a : Nat) : Option Char :=
  if 0xA1 ≤ a && a ≤ 0xDF then some (.ofNat (0xFF61 + (a - 0xA1))) else none

/-- The cells of the basic Japanese set for which makers have another sign. -/
def vendorSigns : List ((Nat × Nat) × Char) :=
  [((0, 32), '～'), ((0, 33), '∥'), ((0, 60), '－'), ((0, 80), '￠'), ((0, 81), '￡'),
    ((1, 43), '￢')]

/-- The character of a maker in a cell: a sign, one of its rows, or one for private use. -/
def vendorChar? (row cell : Nat) : Option Char :=
  match vendorSigns.lookup (row, cell) with
  | some c => some c
  | none =>
    if 94 ≤ row && row < 114 then some (.ofNat (0xE000 + (row - 94) * 94 + cell))
    else do
      let index ← CharacterSet.japaneseVendorRows.idxOf? row
      CharacterSet.japaneseVendor.char? index cell

/-- The characters from `first` to `last`, without those in the rows of a set. -/
def others (grid : Grid) (first last : Nat) : Array Char :=
  let mark (listed : Array Bool) (c : Char) : Array Bool :=
    if first ≤ c.toNat then listed.setIfInBounds (c.toNat - first) true else listed
  let listed := grid.foldl (fun listed row => row.foldl mark listed)
    (Array.replicate (last + 1 - first) false)
  ((List.range (last + 1 - first)).filter (!listed.getD · false)).toArray.map
    fun i => Char.ofNat (first + i)

def otherIdeographs : Array Char :=
  others CharacterSet.chinese 0x4E00 0x9FA5

def otherSyllables : Array Char :=
  others CharacterSet.korean 0xAC00 0xD7A3

/-- The added ideograph of a pair: they fill the first bytes before the basic set, then the
second bytes before its cells. -/
def otherIdeograph? (a b : Nat) : Option Char :=
  let cell := if b < 0x7F then b - 0x40 else b - 0x41
  if b < 0x40 || b = 0x7F || b = 0xFF || a < 0x81 then none
  else if a < 0xA1 then otherIdeographs[(a - 0x81) * 190 + cell]?
  else if 0xAA ≤ a && b < 0xA1 then otherIdeographs[32 * 190 + (a - 0xAA) * 96 + cell]?
  else none

/-- The number of a second byte among those of the added syllables, whose bytes below the rows
are letters. -/
def syllableCell? (b : Nat) : Option Nat :=
  if 0x41 ≤ b && b ≤ 0x5A then some (b - 0x41)
  else if 0x61 ≤ b && b ≤ 0x7A then some (b - 0x61 + 26)
  else if 0x81 ≤ b && b ≤ 0xFE then some (b - 0x81 + 52)
  else none

/-- The added syllable of a pair: they fill the first bytes before the basic set, then the
second bytes before its cells. -/
def otherSyllable? (a b : Nat) : Option Char := do
  let cell ← syllableCell? b
  if a < 0x81 then none
  else if a < 0xA1 then otherSyllables[(a - 0x81) * 178 + cell]?
  else if b < 0xA1 then otherSyllables[32 * 178 + (a - 0xA1) * 84 + cell]?
  else none

def privateChar? (pair : Nat) : Option Char :=
  (CharacterSet.chinesePrivate.find? fun (first, last, _) => first ≤ pair && pair ≤ last).map
    fun (first, _, start) => .ofNat (start + (pair - first))

/-- The traditional character of a pair: each first byte has two rows. -/
def traditionalChar? (a b : Nat) : Option Char :=
  if a < 0xA1 then none
  else if 0xA1 ≤ b then CharacterSet.traditional.char? (2 * (a - 0xA1) + 1) (b - 0xA1)
  else if 0x40 ≤ b && b ≤ 0x7E then CharacterSet.traditional.char? (2 * (a - 0xA1)) (b - 0x40)
  else none

/-- The character of a number that is an index into the text from `first` on. -/
def indexed? (s : String) (first : Nat) (n : Nat) : Option Char :=
  if n < first then none else s.toList[n - first]?

/-- The number of the vowel of a syllable, by its five bits. -/
def vowel? (n : Nat) : Option Nat :=
  if n % 8 < 2 || 29 < n || n < 3 then none else some (n - 3 - 2 * (n / 8))

def firstLetters : String := "ㄱㄲㄴㄷㄸㄹㅁㅂㅃㅅㅆㅇㅈㅉㅊㅋㅌㅍㅎ"

/-- The letters that end a syllable, in their order; the seventeenth place is empty. -/
def lastLetters : String := "ㄱㄲㄳㄴㄵㄶㄷㄹㄺㄻㄼㄽㄾㄿㅀㅁ�ㅂㅄㅅㅆㅇㅈㅊㅋㅌㅍㅎ"

def lastLetter? (n : Nat) : Option Nat :=
  if n = 1 then some 0
  else if 2 ≤ n && n ≤ 17 then some (n - 1)
  else if 19 ≤ n && n ≤ 29 then some (n - 2)
  else none

/-- The syllable of three parts, or a letter by itself between fillers. -/
def partsChar? (first vowel last : Nat) : Option Char :=
  if first = 1 then
    if vowel = 2 then
      if last = 1 then some '\u3000'
      else if last = 18 then none
      else indexed? lastLetters 2 last
    else if last = 1 then (vowel? vowel).map fun n => .ofNat (0x314F + n)
    else none
  else do
    let letter ← if 2 ≤ first && first ≤ 20 then some (first - 2) else none
    if vowel = 2 then
      if last = 1 then indexed? firstLetters 2 first else none
    else
      return .ofNat (0xAC00 + letter * 588 + (← vowel? vowel) * 28 + (← lastLetter? last))

/-- The place in the rows of a pair behind those of syllables: each first byte is that of two
rows, and the letters have no place. -/
def behindParts? (a b : Nat) : Option (Nat × Nat) :=
  let row := if a < 0xE0 then 2 * (a - 0xD9) else 2 * (a - 0xE0) + 0x29
  let cell := if b < 0x91 then b - 0x31 else b - 0x43
  if a < 0xD9 || a = 0xDF || 0xF9 < a || b < 0x31 || (0x80 ≤ b && b < 0x91) || b % 0x80 = 0x7F ||
      (a = 0xDA && 0xA1 ≤ b && b ≤ 0xD3) then none
  else some (row + cell / 94, cell % 94)

/-- The character of a pair that writes a syllable by its parts, or of one behind those. -/
def partsPair? (a b : Nat) : Option Char :=
  let n := a * 0x100 + b
  if a < 0xD8 then partsChar? (n / 0x400 % 0x20) (n / 0x20 % 0x20) (n % 0x20)
  else do
    let (row, cell) ← behindParts? a b
    CharacterSet.korean.char? row cell

/-- The pair that announces a syllable in parts. -/
def filler : Nat × Nat := (0xA4, 0xD4)

def pair? (encoding : DoubleByte) (a b : Nat) : Option Char :=
  match encoding with
  | shiftJis _ => do
    let (row, cell) ← shifted? a b
    CharacterSet.japanese.char? row cell
  | shiftJisVendor => do
    let (row, cell) ← shifted? a b
    vendorChar? row cell <|> CharacterSet.japanese.char? row cell
  | eucJapanese => inRows? CharacterSet.japanese a b
  | chinese => inRows? CharacterSet.chinese a b
  | chineseExtended =>
    inRuns? CharacterSet.chineseSigns (a * 0x100 + b) <|> inRows? CharacterSet.chinese a b <|>
      otherIdeograph? a b
  | chineseLast =>
    inRuns? CharacterSet.chineseSigns (a * 0x100 + b) <|> inRows? CharacterSet.chinese a b <|>
      otherIdeograph? a b <|> privateChar? (a * 0x100 + b)
  | traditional => traditionalChar? a b
  | traditionalVendor =>
    inRuns? CharacterSet.traditionalVendor (a * 0x100 + b) <|> traditionalChar? a b
  | korean => inRows? CharacterSet.korean a b
  | koreanExtended =>
    if (a, b) = filler then some '\u3164'
    else inRows? CharacterSet.korean a b <|> otherSyllable? a b
  | koreanParts => partsPair? a b

end DoubleByte

end SignedHttp.Text
