import SignedHttp.Hook
import SignedHttp.Log.Logger
import SignedHttp.Settings.Sources

/-!
# The state of a session

A session holds settings, telemetry, the signers that were made, a header mapping and
at most one hook of each kind. Signers are shared: a hook keeps the place of its signer
in the list, so a later change to that signer reaches the hook, and a later signer does
not. A signer has a clock of its own, or shares the session's. A logger exists from the time
it is first used.

Key definitions: `TimeSource`, `Enrolled`, `State`, `State.enroll`, `State.clockOf`,
`State.moveClock`, `State.absorb`, `State.settle`.
-/

namespace SignedHttp.Session

inductive TimeSource where
  /-- From the session's clock, which others may read too. -/
  | shared
  | own (clock : Clock)
deriving DecidableEq, Repr

structure Enrolled where
  signer : Signer
  time : TimeSource
deriving Repr

/-- A hook, with the place of its signer. -/
structure PlacedHook where
  place : Nat
  apiKey : Json
deriving Repr

structure State where
  clock : Clock
  settings : Settings
  /-- The kind of what stands in the place of the record of settings that were given. -/
  lostRecord : Option String
  telemetry : Telemetry
  loggers : List String
  signers : List Enrolled
  current : Option Nat
  headers : Headers
  mappedHook : Option PlacedHook
  listedHook : Option PlacedHook

namespace State

def initial (settings : Settings) (clock : Clock) (telemetry : Telemetry) : State where
  clock := clock
  settings := settings
  lostRecord := none
  telemetry := telemetry
  loggers := Log.Logger.initial
  signers := []
  current := none
  headers := .empty .exact
  mappedHook := none
  listedHook := none

variable (state : State)

def enroll (enrolled : Enrolled) : State × Nat :=
  ({ state with signers := state.signers ++ [enrolled] }, state.signers.length)

def current? : Option (Nat × Enrolled) := do
  let place ← state.current
  let enrolled ← state.signers[place]?
  return (place, enrolled)

def clockOf (enrolled : Enrolled) : Clock :=
  match enrolled.time with
  | .shared => state.clock
  | .own clock => clock

/-- The state after the clock of the signer at a place has been read. -/
def moveClock (place : Nat) (clock : Clock) : State :=
  match state.signers[place]? with
  | some ⟨_, .shared⟩ => { state with clock := clock }
  | some ⟨signer, .own _⟩ =>
    { state with signers := state.signers.set place ⟨signer, .own clock⟩ }
  | none => state

def absorb (events : List Event) : State × List Line :=
  let (telemetry, lines) := state.telemetry.absorb events
  ({ state with telemetry := telemetry }, lines)

/-- The state after a run of the signer at a place, and the lines of its events. -/
def settle {α : Type} (place : Nat) (run : Run α) : State × List Line :=
  (state.moveClock place run.clock).absorb run.events

end State

end SignedHttp.Session
