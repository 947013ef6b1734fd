/-!
# Blank characters

Two classes of blank characters: the six of ASCII, which separate pairs of
hexadecimal digits, and all those of the character database, which separate words
in a settings file. Every ASCII blank is a blank (`isBlank_of_isAsciiBlank`).

Key definitions: `isAsciiBlank`, `isBlank`, `isHorizontalBlank`, `trimRight`.
-/

namespace SignedHttp.Text

/-- Space, tab, line feed, vertical tab, form feed and carriage return. -/
def isAsciiBlank (c : Char) : Bool :=
  c = ' ' || ('\t' ≤ c && c ≤ '\r')

/-- The characters that the character database counts as white space, and the four
information separators. -/
def isBlank (c : Char) : Bool :=
  isAsciiBlank c || ('\x1c' ≤ c && c ≤ '\x1f') || c = '\u0085' || c = '\u00a0' || c = '\u1680' ||
    ('\u2000' ≤ c && c ≤ '\u200a') || c = '\u2028' || c = '\u2029' || c = '\u202f' ||
    c = '\u205f' || c = '\u3000'

/-- A blank that does not end a line. -/
def isHorizontalBlank (c : Char) : Bool :=
  isBlank c && c != '\n' && c != '\r'

theorem isBlank_of_isAsciiBlank {c : Char} (h : isAsciiBlank c = true) : isBlank c = true := by
  simp [isBlank, h]

def trimRight : List Char → List Char
  | [] => []
  | c :: s =>
    match trimRight s with
    | [] => if isBlank c then [] else [c]
    | kept => c :: kept

end SignedHttp.Text
