import SignedHttp.Text.Hex
import SignedHttp.Text.Point

/-!
# Strings that an encoding has no bytes for

An encoding has bytes for some code points and none for others. A string with one of the others is
refused at the first of them; the refusal covers the whole run of such code points.

Key definitions: `Unencodable`, `Unencodable.checkFrom`, `Unencodable.message`,
`Irregular.refusal`.
Key theorems: `Unencodable.checkFrom_eq_ok_iff`, `Irregular.check_eq`.
-/

namespace SignedHttp.Text

/-- The last `width` hexadecimal digits of `n`. -/
def hexDigits : Nat → Nat → List Char
  | 0, _ => []
  | width + 1, n => hexDigits width (n / 16) ++ [Hex.digit (n % 16)]

/-- How a message shows a code point in ASCII: its number in two, four or eight digits. -/
def escapeCode (n : Nat) : List Char :=
  if n < 0x100 then '\\' :: 'x' :: hexDigits 2 n
  else if n < 0x10000 then '\\' :: 'u' :: hexDigits 4 n
  else '\\' :: 'U' :: hexDigits 8 n

/-- A run of code points without bytes: the number of those before it, its first one and those
that follow in the run. -/
structure Unencodable where
  position : Nat
  first : Nat
  rest : List Nat
deriving DecidableEq, Repr

namespace Unencodable

/-- Refuses a string, whose first code point has position `i`, with a code point that has no
bytes. -/
def checkFrom (hasBytes : Nat → Bool) (i : Nat) : List Nat → Except Unencodable Unit
  | [] => .ok ()
  | n :: s =>
    if hasBytes n then checkFrom hasBytes (i + 1) s
    else .error ⟨i, n, s.takeWhile (!hasBytes ·)⟩

theorem checkFrom_eq_ok_iff (hasBytes : Nat → Bool) : ∀ (i : Nat) (s : List Nat),
    checkFrom hasBytes i s = .ok () ↔ s.all hasBytes = true
  | _, [] => by simp [checkFrom]
  | i, n :: s => by
    by_cases h : hasBytes n = true
    · simp [checkFrom, h, checkFrom_eq_ok_iff hasBytes (i + 1) s]
    · simp [checkFrom, h]

def message (e : Unencodable) (encoding reason : String) : String :=
  let place :=
    if e.rest.isEmpty then
      "character '" ++ .ofList (escapeCode e.first) ++ "' in position " ++ toString e.position
    else "characters in position " ++ toString e.position ++ "-" ++
      toString (e.position + e.rest.length)
  "'" ++ encoding ++ "' codec can't encode " ++ place ++ ": " ++ reason

end Unencodable

/-- Why an irregular string cannot be written: the run of surrogates that comes first. -/
def Irregular.refusal (s : Irregular) : Unencodable :=
  match h : Unencodable.checkFrom isCharacter 0 s.codes with
  | .error refusal => refusal
  | .ok () => absurd ((Unencodable.checkFrom_eq_ok_iff isCharacter 0 s.codes).mp h)
    (Bool.eq_false_iff.mp s.isIrregular)

theorem Irregular.check_eq (s : Irregular) :
    Unencodable.checkFrom isCharacter 0 s.codes = .error s.refusal := by
  unfold refusal
  split
  · assumption
  · rename_i h
    exact absurd ((Unencodable.checkFrom_eq_ok_iff isCharacter 0 s.codes).mp h)
      (Bool.eq_false_iff.mp s.isIrregular)

end SignedHttp.Text
