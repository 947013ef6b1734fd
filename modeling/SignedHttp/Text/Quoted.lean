import SignedHttp.Text.Ascii
import SignedHttp.Text.Point
import SignedHttp.Text.Printable

/-!
# Names quoted in messages

A message shows a name between single quotes, or between double quotes when the name
holds a single quote and no double one. Backslashes, the quote itself and whatever is not
printed are escaped. A name is a list of code points, since some names that are shown
hold surrogates.

Key definitions: `quotedPoints`, `quoted`.
-/

namespace SignedHttp.Text

/-- How a code point stands between the quotes. -/
def quotedPoint (quote : Char) (n : Nat) : List Char :=
  if n = quote.toNat || n = '\\'.toNat then ['\\', .ofNat n]
  else if n = '\n'.toNat then ['\\', 'n']
  else if n = '\r'.toNat then ['\\', 'r']
  else if n = '\t'.toNat then ['\\', 't']
  else if isPrintable n then [.ofNat n]
  else escapeCode n

def quotedPoints (s : List Nat) : String :=
  let quote := if s.contains '\''.toNat && !s.contains '"'.toNat then '"' else '\''
  .ofList (quote :: s.flatMap (quotedPoint quote) ++ [quote])

def quoted (name : String) : String :=
  quotedPoints (points name.toList)

end SignedHttp.Text
