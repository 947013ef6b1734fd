import SignedHttp.Log.Value
import SignedHttp.Number.Binary64

/-!
# Clocks

A clock is the sequence of what it reads: a list of readings, then one that repeats
for ever. A reading is a number of seconds, whole or a double, or a failure. In
milliseconds a whole number is exact; a double is multiplied by 1000 as doubles are and cut
towards zero.

Key definitions: `Reading`, `Reading.ofReal`, `Reading.milliseconds`, `Clock`, `Clock.read`,
`Clock.inTurn`, `Clock.milliseconds`.
-/

namespace SignedHttp

/-- What a clock gives when it is read. -/
inductive Reading where
  | seconds (n : Int)
  | double (x : Number.Binary64)
  | failed (fault : Fault)
deriving DecidableEq, Repr

def Reading.broken (message : Json) : Reading :=
  match message.shown with
  | .ok text => .failed (.brokenClock text)
  | .error fault => .failed fault

/-- An integer read as a double. -/
def Reading.ofInt (n : Int) : Reading :=
  match Number.nearest (Rat.ofInt n) with
  | .infinite _ => .failed .hugeReal
  | x => .double x

/-- A value read as a double: a literal, or a number. -/
def Reading.ofReal : Json → Reading
  | .string s =>
    match Number.Binary64.ofLiteral? s with
    | some x => .double x
    | none => .failed (.notADouble s)
  | value =>
    match value.toInt? with
    | some n => .ofInt n
    | none => .failed (.notReal value.kind)

def Reading.milliseconds : Reading → Except Fault Int
  | .seconds n => .ok (1000 * n)
  | .failed fault => .error fault
  | .double x =>
    match x.times 1000 with
    | .nan => .error .undefinedTime
    | .infinite _ => .error .infiniteTime
    | .finite value => .ok (Number.truncate value)

/-- The readings still to come, and the one that repeats after them. -/
structure Clock where
  upcoming : List Reading
  settled : Reading
deriving DecidableEq, Repr

namespace Clock

def always (r : Reading) : Clock :=
  ⟨[], r⟩

def read (clock : Clock) : Reading × Clock :=
  match clock.upcoming with
  | [] => (clock.settled, clock)
  | r :: rest => (r, { clock with upcoming := rest })

/-- One reading from each of the clocks in turn; the last one goes on. -/
def inTurn : Clock → List Clock → Clock
  | clock, [] => clock
  | clock, next :: rest =>
    let later := inTurn next rest
    { later with upcoming := clock.read.1 :: later.upcoming }

def milliseconds (clock : Clock) : Except Fault Int × Clock :=
  (clock.read.1.milliseconds, clock.read.2)

end Clock

end SignedHttp
