import SignedHttp.HostName.Joining.Table
import SignedHttp.Text.Interval

/-!
# Joined neighbours

Two letters of a cursive script are joined when the first joins on its left side, that of
the next letter, and the second on its right side. Marks between them are passed over.

Key definitions: `isJoined`.
-/

namespace SignedHttp.HostName

/-- How a code point joins its neighbours, if it does. -/
def joining? (n : Nat) : Option Joining :=
  Text.Interval.valueAt? joiningRanges n

/-- How the first code point joins that is not passed over. -/
def firstJoining? (s : List Nat) : Option Joining :=
  (s.dropWhile (joining? · = some .transparent)).head?.bind joining?

/-- Whether the letters around a place are joined. The text before it is held last code
point first. -/
def isJoined (before after : List Nat) : Bool :=
  [some .left, some .both].contains (firstJoining? before) &&
    [some .right, some .both].contains (firstJoining? after)

end SignedHttp.HostName
