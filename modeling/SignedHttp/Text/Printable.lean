import SignedHttp.Text.Interval
import SignedHttp.Text.Printable.Table

/-!
# Printable characters

A message shows the code points that have a visible form, and the space, as they are.

Key definitions: `isPrintable`.
-/

namespace SignedHttp.Text

def isPrintable (n : Nat) : Bool :=
  !Interval.covers Printable.unprinted n

end SignedHttp.Text
