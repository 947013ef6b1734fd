import SignedHttp.Log.Conversion

/-!
# Log messages with arguments

A message without arguments stands as it is. With arguments, each placeholder shows the
next one, or, if it has a name, the member of that name. Arguments come in order, and then
all of them must be used and none may be missing; or they are one value, whose members
need not be used. What is wrong first from the left is what is reported.

Key definitions: `Arguments`, `Supply`, `fillPieces`, `fill`.
-/

namespace SignedHttp.Log

inductive Arguments where
  | inOrder (values : List Json)
  | single (value : Json)
deriving Repr

/-- The arguments that a list gives: one object with members stands for its members. -/
def Arguments.ofList : List Json → Arguments
  | [.object (member :: members)] => .single (.object (member :: members))
  | values => .inOrder values

def Arguments.isEmpty : Arguments → Bool
  | .inOrder values => values.isEmpty
  | .single value => value.isEmpty

/-- The arguments that are still to be used, and the value in which names are looked up. -/
structure Supply where
  waiting : List Json
  holder : Option Json

def Arguments.supply : Arguments → Supply
  | .inOrder values => ⟨values, none⟩
  | .single value =>
    match value with
    | .array _ => ⟨[value], some value⟩
    | .object _ => ⟨[value], some value⟩
    | _ => ⟨[value], none⟩

namespace Supply

variable (supply : Supply)

def next : Except TemplateDefect (Json × Supply) :=
  match supply.waiting with
  | [] => .error .tooFewArguments
  | value :: rest => .ok (value, { supply with waiting := rest })

/-- The supply after a name: the member of that name is the next argument, and the only
one. -/
def select : PlaceholderName → Except TemplateDefect Supply
  | .none => .ok supply
  | name =>
    match supply.holder, name with
    | none, _ => .error .noMembers
    | some _, .unclosed => .error .openName
    | some (.object members), .said name =>
      match members.lookup name with
      | some value => .ok { supply with waiting := [value] }
      | none => .error (.unknownName name)
    | some _, _ => .error .namelessItems

def nextAmount : Except TemplateDefect (Int × Supply) := do
  let (value, supply) ← supply.next
  match value.toInt? with
  | some n => return (n, supply)
  | none => throw .amountNotInteger

def maxWidth : Nat := 0x7FFFFFFFFFFFFFFF

def maxPrecision : Nat := 0x7FFFFFFF

/-- Whether an integer lies between the negative of a bound, one more included, and the
bound. -/
def isWithin (bound : Nat) (n : Int) : Bool :=
  -Int.ofNat bound - 1 ≤ n && n ≤ Int.ofNat bound

/-- The width that an integer says: its magnitude, if that is a width. The least integer has
none, and no width is asked for. -/
def widthOf (n : Int) : Nat :=
  if n.natAbs ≤ maxWidth then n.natAbs else 0

/-- The width, and whether it puts the value on the left: a negative one does. -/
def width (amount : Amount) : Except TemplateDefect (Nat × Bool × Supply) :=
  match amount with
  | .none => .ok (0, false, supply)
  | .said n => if n ≤ maxWidth then .ok (n, false, supply) else .error .writtenWidth
  | .given => do
    let (n, supply) ← supply.nextAmount
    if isWithin maxWidth n then return (widthOf n, n < 0, supply)
    else throw .givenWidth

/-- The precision; a negative one counts as zero. -/
def precision (amount : Amount) : Except TemplateDefect (Option Nat × Supply) :=
  match amount with
  | .none => .ok (none, supply)
  | .said n => if n ≤ maxPrecision then .ok (some n, supply) else .error .writtenPrecision
  | .given => do
    let (n, supply) ← supply.nextAmount
    if isWithin maxPrecision n then return (some n.toNat, supply)
    else throw .givenPrecision

/-- The placeholder with its width and precision, and the argument that it shows. -/
def serve (p : Placeholder) (letterIndex : Nat) :
    Except TemplateDefect (Shape × Json × Supply) := do
  let supply ← supply.select p.name
  let (width, left, supply) ← supply.width p.width
  let (precision, supply) ← supply.precision p.precision
  let some letter := p.letter | throw .incomplete
  let (value, supply) ← supply.next
  return (⟨{ p.flags with left := p.flags.left || left }, width, precision, letter, letterIndex⟩,
    value, supply)

def isLeft : Bool :=
  supply.holder.isNone && !supply.waiting.isEmpty

end Supply

/-- The pieces of a message with the arguments in the place of placeholders. -/
def fillPieces (supply : Supply) : List Piece → Except Fault (List Nat)
  | [] => if supply.isLeft then .error (.invalidTemplate .tooManyArguments) else .ok []
  | .plain c :: pieces => (c.toNat :: ·) <$> fillPieces supply pieces
  | .placeholder p letterIndex :: pieces => do
    let (shape, value, supply) ← (supply.serve p letterIndex).mapError .invalidTemplate
    let shown ← shape.convert value
    (shown ++ ·) <$> fillPieces supply pieces

def fill (text : List Nat) (arguments : Arguments) : Except Fault (List Nat) :=
  if arguments.isEmpty then .ok text
  else fillPieces arguments.supply (Piece.ofTemplate (text.map Char.ofNat))

end SignedHttp.Log
