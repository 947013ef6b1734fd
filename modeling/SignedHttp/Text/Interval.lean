/-!
# Classes as intervals

A class of code points is a list of intervals, from their first to their last code
point, in increasing order; a table gives every interval a value besides. A search ends
at the first interval that does not end before the code point.

Key definitions: `covers`, `coversAlternating`, `valueAt?`.
-/

namespace SignedHttp.Text.Interval

def covers : List (Nat × Nat) → Nat → Bool
  | [], _ => false
  | (first, last) :: rest, n => if n ≤ last then first ≤ n else covers rest n

/-- Whether one of the intervals holds `n` an even number of places behind its start. -/
def coversAlternating : List (Nat × Nat) → Nat → Bool
  | [], _ => false
  | (first, last) :: rest, n =>
    if n ≤ last then first ≤ n && (n - first) % 2 = 0 else coversAlternating rest n

def valueAt? {α : Type} : List (Nat × Nat × α) → Nat → Option α
  | [], _ => none
  | (first, last, value) :: rest, n =>
    if n ≤ last then if first ≤ n then some value else none else valueAt? rest n

end SignedHttp.Text.Interval
