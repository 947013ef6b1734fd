import SignedHttp.Settings

/-!
# The command line

The command takes an address and a body, which are strings when they come from a terminal,
signs with the configured signer, and prints the fields one to a line. Without an address
it prints its usage and exits with 1, without a secret it complains and exits with 2; a
fault that it does not handle makes it exit with 1. Bytes of an argument that are no UTF-8 come
as surrogates, which can neither be signed nor printed.

Key definitions: `CommandLine.Result`, `CommandLine.printLines`, `CommandLine.run`.
-/

namespace SignedHttp.CommandLine

/-- What the command leaves: its exit code, the two outputs, the fault that it did not
handle, and what it logged and counted at the levels that it configured. -/
structure Result where
  exit : Nat
  output : String
  complaint : String
  fault : Option Fault
  events : List Event
  telemetry : Telemetry

def usage : String :=
  "Usage: python compute_signature.py <url> [body]\n" ++
    "Example: SIGNER_SECRET=secret python compute_signature.py " ++
    "'http://127.0.0.1:8080/api/ping' '\x7b\"id\":1\x7d'\n"

def noSecret : String :=
  "error: Signing secret is not set. Set SIGNER_SECRET.\n"

/-- The line of one field; a name that is no string stands for none. -/
def fieldLine (field : Payload × String) : List Nat :=
  field.1.codes?.getD (Text.points "None".toList) ++ Text.points (": " ++ field.2).toList

/-- What is printed of the fields, one to a line, and what goes wrong. Lines are printed in UTF-8,
up to the first that cannot be. -/
def printLines : List (Payload × String) → String × Option Fault
  | [] => ("", none)
  | field :: fields =>
    match Text.Utf8.check (fieldLine field) with
    | .error refusal => ("", some (.surrogates refusal))
    | .ok () =>
      let (text, fault) := printLines fields
      (Text.ofPoints (fieldLine field) ++ "\n" ++ text, fault)

def sign (telemetry : Telemetry) (settings : Settings) (clock : Clock) (url body : Json) :
    Result :=
  match Signer.ofSettings settings with
  | .error fault => ⟨1, "", "", some fault, [], telemetry⟩
  | .ok signer =>
    let run := signer.sign clock url (.json body) .null
    match run.result with
    | .error fault => ⟨1, "", "", some fault, run.events, telemetry⟩
    | .ok signed =>
      let (output, fault) := printLines signed.pairs
      ⟨if fault.isSome then 1 else 0, output, "", fault, run.events, telemetry⟩

def run (telemetry : Telemetry) (settings : Settings) (clock : Clock) (arguments : List Json) :
    Result :=
  match arguments with
  | [] => ⟨1, usage, "", none, [], telemetry⟩
  | url :: rest =>
    match Log.Levels.configure (.json settings.logLevel) with
    | .error fault => ⟨1, "", "", some fault, [], telemetry⟩
    | .ok levels =>
      let telemetry := { telemetry with levels := levels }
      match settings.hasSecret with
      | .error fault => ⟨1, "", "", some fault, [], telemetry⟩
      | .ok false => ⟨2, "", noSecret, none, [], telemetry⟩
      | .ok true => sign telemetry settings clock url (rest.head?.getD .null)

namespace Result

def lines (result : Result) : List Line :=
  (result.telemetry.absorb result.events).2

end Result

end SignedHttp.CommandLine
