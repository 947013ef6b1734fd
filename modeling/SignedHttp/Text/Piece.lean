/-!
# Pieces of a text

A text cut at its separators. There is always one piece more than there are separators.

Key definitions: `pieces`.
-/

namespace SignedHttp.Text

def pieces (isSeparator : Char → Bool) : List Char → List (List Char)
  | [] => [[]]
  | c :: s =>
    if isSeparator c then [] :: pieces isSeparator s
    else match pieces isSeparator s with
      | [] => [[c]]
      | piece :: rest => (c :: piece) :: rest

end SignedHttp.Text
