import SensorRelay.Instant.Basic
import SensorRelay.Launch
import Std.Time.Format

/-!
# The program

Reads the command line, the environment and the files of settings, records the start and reports
what keeps the program from running. No transport is part of it: every address counts as taken, and
no endpoint answers.
-/

namespace SensorRelay.Program

open CommandLine

def knownVariables : List String :=
  endpointVariable :: ["SERVER__HOST", "SERVER__PORT", "SERVER__HISTORY_CAPACITY",
    "SERVER__EVENT_BUFFER", "AUTH__SECRET", "CLIENT__ENDPOINT", "CLIENT__MEASUREMENT_PERIOD_MS",
    "LOGGING__LEVEL", "LOGGING__FILTER"].map ("SENSORSTREAM_" ++ ·)

def environment : IO (List (String × String)) :=
  knownVariables.filterMapM fun name => return (← IO.getEnv name).map (name, ·)

/-- A file that cannot be read counts as missing. -/
def readFile (path : String) : IO (Option (List UInt8)) := do
  try
    return some (← IO.FS.readBinFile path).toList
  catch _ =>
    return none

def readFiles (userFile : Option String) : IO (List (String × List UInt8)) :=
  let paths := Config.systemFile :: userFile.toList
  let candidates := paths.flatMap fun path => path :: Config.Format.all.map (·.extended path)
  candidates.filterMapM fun path => return (← readFile path).map (path, ·)

def surroundings (args : List String) : IO Launch.Surroundings := do
  let environment ← environment
  let userFile := match Invocation.parse environment args with
    | .ok i => i.configFile
    | .error _ => none
  let files ← readFiles userFile
  let entropy ← IO.getRandomBytes 32
  return {
    files := fun path => files.lookup path
    environment
    entropy := entropy.toList
    isWritable := fun _ => true
    isTaken := fun _ => true
    answers := fun _ => false }

def today : IO String := do
  let seconds := (← Std.Time.Timestamp.now).toSecondsSinceUnixEpoch.val
  match Instant.ofTimestamp? ⟨Int64.ofInt seconds, 0⟩ with
  | some i => return String.ofList (i.rfc3339.toList.takeWhile (· ≠ 'T'))
  | none => return ""

def recordStart (o : Launch.Outcome) : IO Unit := do
  let line := " INFO " ++ Logging.programTarget ++ ": " ++ Logging.startRecord
  if o.isStartLogged then IO.eprintln line
  if let some directory := o.logDirectory then
    let file ← IO.FS.Handle.mk (directory ++ "/sensorstream.log." ++ (← today)) .append
    if o.isStartLogged then file.putStrLn line

def isWritable (directory : String) : IO Bool := do
  try
    IO.FS.createDirAll directory
    return true
  catch _ =>
    return false

/-- The directory for records is made only for a run that would write to it. -/
def run (args : List String) : IO UInt32 := do
  let m ← surroundings args
  let o ← match (Launch.run args m).logDirectory with
    | some directory =>
      let isMade ← isWritable directory
      pure (Launch.run args { m with isWritable := fun _ => isMade })
    | none => pure (Launch.run args m)
  o.output.forM IO.println
  recordStart o
  if let some f := o.failure then IO.eprintln f.report
  return o.exitCode.toUInt32

end SensorRelay.Program

def main (args : List String) : IO UInt32 :=
  SensorRelay.Program.run args
