import SignedHttp.CommandLine
import SignedHttp.Settings.Sources
import Std.Time.DateTime.Timestamp

/-!
# The command

Reads the environment, the settings file of the working directory and the time, runs
the command line, and writes what it leaves.

Key definitions: `main`.
-/

namespace SignedHttp

/-- A text at its first equals sign, as a name and a value. -/
def assignment (s : String) : String × String :=
  let chars := s.toList
  (.ofList (chars.takeWhile (· != '=')), .ofList ((chars.dropWhile (· != '=')).drop 1))

def readText? (path : String) : IO (Option String) := do
  try
    return some (← IO.FS.readFile path)
  catch _ =>
    return none

def readEnvironment : IO (List (String × String)) := do
  let text := (← readText? "/proc/self/environ").getD ""
  return ((text.splitOn "\x00").filter (!·.isEmpty)).map assignment

def readNanoseconds : IO Int := do
  return (← Std.Time.Timestamp.now).toNanosecondsSinceUnixEpoch.val

def complaint : Fault → String
  | .invalidSettings defects =>
    String.join (defects.map fun defect =>
      "error: " ++ defect.name ++ ": " ++ defect.message ++ "\n")
  | fault => "error: " ++ fault.wording ++ "\n"

end SignedHttp

open SignedHttp in
/-- Signs the address and the body that are given as arguments. -/
def main (arguments : List String) : IO UInt32 := do
  let sources : Sources :=
    { Sources.empty with environment := ← readEnvironment, file := ← readText? ".env" }
  let stderr ← IO.getStderr
  match sources.resolve with
  | .error fault =>
    stderr.putStr (complaint fault)
    return 1
  | .ok settings =>
    let nanoseconds ← readNanoseconds
    let clock := Clock.always (.double (Number.nearest (mkRat nanoseconds 1000000000)))
    let telemetry := { Telemetry.initial with instant := nanoseconds / 1000 }
    let result := CommandLine.run telemetry settings clock (arguments.map .string)
    for line in result.lines do
      stderr.putStrLn line.text
    IO.print result.output
    stderr.putStr result.complaint
    if let some fault := result.fault then
      stderr.putStr (complaint fault)
    return .ofNat result.exit
