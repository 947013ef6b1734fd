import SignedHttp.HostName.Label
import SignedHttp.Text.Piece

/-!
# Host names outside ASCII

A host name is a row of labels between points, of which there are four kinds; a point may
stand at the end. `spelled` gives the name as it goes over the wire, `read` the labels
that such a name denotes. Both refuse names that are too long and labels that are none.

Key definitions: `HostName.Defect`, `HostName.spelled`, `HostName.read`.
-/

namespace SignedHttp.HostName

inductive Defect where
  | empty
  | tooLong
  | label (defect : LabelDefect)
deriving DecidableEq, Repr

def Defect.message : Defect → String
  | .empty => "Empty domain"
  | .tooLong => "Domain too long"
  | .label defect => defect.message

def isPoint (c : Char) : Bool :=
  c = '.' || c = '\u3002' || c = '\uff0e' || c = '\uff61'

/-- The most characters that a name may have, the point at its end apart. -/
def maxLength : Nat := 253

/-- The labels of a name, and whether a point stands at its end. -/
def labels (s : List Char) : Except Defect (List (List Char) × Bool) :=
  let labels := Text.pieces isPoint s
  if maxLength + 1 < s.length then .error .tooLong
  else if s.isEmpty then .error .empty
  else if labels.getLast? = some [] then .ok (labels.dropLast, true)
  else .ok (labels, false)

def spelled (s : List Char) : Except Defect (List Char) := do
  let (labels, hasEnd) ← labels s
  let labels ← (labels.mapM spelledLabel).mapError .label
  let name := ['.'].intercalate (labels ++ if hasEnd then [[]] else [])
  if (if hasEnd then maxLength + 1 else maxLength) < name.length then throw .tooLong
  return name

/-- The labels that a name in ASCII denotes. -/
def read (s : List Char) : Except Defect (List (List Nat)) := do
  let (labels, _) ← labels s
  (labels.mapM readLabel).mapError .label

end SignedHttp.HostName
