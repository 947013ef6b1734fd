/-!
# Characters in rows

A set of characters can be given by rows, in which each character has a cell. A replacement
character stands in a cell that has none; cells behind the end of a row have none either.

Key definitions: `Grid`, `Grid.ofRows`, `Grid.char?`.
-/

namespace SignedHttp.Text

abbrev Grid := Array (Array Char)

namespace Grid

/-- What stands in a cell that has no character. -/
def gap : Char := '\ufffd'

def ofRows (rows : List String) : Grid :=
  (rows.map fun row => row.toList.toArray).toArray

def char? (grid : Grid) (row cell : Nat) : Option Char :=
  (grid[row]?.bind (·[cell]?)).filter (· != gap)

end Grid

end SignedHttp.Text
