import SignedHttp.Log.Record
import SignedHttp.Tally

/-!
# Events, log lines and counts

Signing and the hooks do not write or count themselves: they give events. Telemetry
takes them in order. A record that the levels admits becomes a line, with the instant
at which the log's clock stands; an outcome is counted whatever the levels.

Key definitions: `Event`, `Line`, `Telemetry`, `Telemetry.absorb`.
-/

namespace SignedHttp

inductive Event where
  | logged (record : Log.Record)
  | counted (outcome : Outcome)
deriving Repr

structure Line where
  record : Log.Record
  text : String
deriving Repr

/-- The levels, the instant of the log's clock in microseconds, and the counts. -/
structure Telemetry where
  levels : Log.Levels
  instant : Int
  tally : Tally
deriving Repr

namespace Telemetry

def defaultInstant : Int := 1700000000000000

def initial : Telemetry := ⟨.initial, defaultInstant, .empty⟩

/-- The line of a record, if its level is admitted. A record that cannot be formatted
is dropped. -/
def write (telemetry : Telemetry) (record : Log.Record) : List Line :=
  if telemetry.levels.admits record.level then
    match record.line telemetry.instant with
    | .ok text => [⟨record, text⟩]
    | .error _ => []
  else []

def absorb (telemetry : Telemetry) : List Event → Telemetry × List Line
  | [] => (telemetry, [])
  | .logged record :: events =>
    let (after, lines) := absorb telemetry events
    (after, telemetry.write record ++ lines)
  | .counted outcome :: events =>
    absorb { telemetry with tally := telemetry.tally.increment outcome } events

end Telemetry

end SignedHttp
