import SensorRelay.CommandLine.Options
import SensorRelay.Text.Numeral

/-!
# Invocations

The commands of the program. The options on configuration belong to every command and may stand
before or after its name; the later place wins.
-/

namespace SensorRelay.CommandLine

open Text

/-- Periods are in milliseconds. -/
inductive Command
  | server (host : Option String) (port : Option UInt16) (logDirectory : Option String)
  | sensor (period : Option Nat)
  | subscriber (json : Bool)
deriving DecidableEq, Repr

def Command.logDirectory? : Command → Option String
  | server _ _ directory => directory
  | _ => none

structure Invocation where
  configFile : Option String
  endpoint : Option String
  logLevel : Option String
  command : Command
deriving DecidableEq, Repr

def readPort (s : String) : Option UInt16 :=
  (readSigned 0 (UInt16.size - 1) s.toList).map fun n => UInt16.ofNat n.toNat

def readPeriod (s : String) : Option Nat :=
  readUnsigned (UInt64.size - 1) s.toList

def anyText (_ : String) : Bool := true

def isPath (s : String) : Bool := !s.isEmpty

def sharedOptions : List OptionSpec :=
  [⟨"config", some 'c', .valued isPath⟩, ⟨"endpoint", none, .valued anyText⟩,
    ⟨"log-level", none, .valued anyText⟩, ⟨"help", some 'h', .stop .help⟩]

def programOptions : List OptionSpec :=
  ⟨"version", some 'V', .stop .version⟩ :: sharedOptions

def serverOptions : List OptionSpec :=
  [⟨"host", none, .valued anyText⟩, ⟨"port", some 'p', .valued fun s => (readPort s).isSome⟩,
    ⟨"log-dir", none, .valued isPath⟩] ++ sharedOptions

def sensorOptions : List OptionSpec :=
  ⟨"period-ms", none, .valued fun s => (readPeriod s).isSome⟩ :: sharedOptions

def subscriberOptions : List OptionSpec :=
  ⟨"json", none, .switch⟩ :: sharedOptions

def commandNames : List String := ["server", "sensor", "subscriber", "help"]

def readCommand (name : String) (args : List String) : Except Stop (Given × Command) := do
  match name with
  | "server" =>
    let (g, _) ← Given.nothing.scan serverOptions [] args
    .ok (g, .server (g.value? "host") ((g.value? "port").bind readPort) (g.value? "log-dir"))
  | "sensor" =>
    let (g, _) ← Given.nothing.scan sensorOptions [] args
    .ok (g, .sensor ((g.value? "period-ms").bind readPeriod))
  | "subscriber" =>
    let (g, _) ← Given.nothing.scan subscriberOptions [] args
    .ok (g, .subscriber (g.has "json"))
  | _ =>
    match args with
    | [] => .error .help
    | [topic] => .error (if commandNames.contains topic then .help else .usage)
    | _ => .error .usage

def endpointVariable : String := "SENSORSTREAM_ENDPOINT"

def Invocation.parse (environment : List (String × String)) (args : List String) :
    Except Stop Invocation := do
  match ← Given.nothing.scan programOptions commandNames args with
  | (_, []) => .error .usage
  | (before, name :: rest) =>
    let (after, command) ← readCommand name rest
    let shared (name : String) : Option String := (after.value? name).or (before.value? name)
    .ok {
      configFile := shared "config"
      endpoint := (shared "endpoint").or (environment.lookup endpointVariable)
      logLevel := shared "log-level"
      command := command }

def versionText : String := "sensorstream 0.1.0"

def helpText : String :=
  "Usage: sensorstream [OPTIONS] <COMMAND>\n\n" ++
    "Commands:\n  server      Start the in-memory reference server\n" ++
    "  sensor      Run an interactive sensor that streams measurements\n" ++
    "  subscriber  Run an interactive subscriber\n" ++
    "  help        Print this message\n\n" ++
    "Options:\n  -c, --config <CONFIG>\n      --endpoint <ENDPOINT>\n" ++
    "      --log-level <LOG_LEVEL>\n  -h, --help\n  -V, --version"

end SensorRelay.CommandLine
