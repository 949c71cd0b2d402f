import SensorRelay.Config.Layer
import SensorRelay.Config.Reading

/-!
# Loading settings

Settings come from the defaults, the system's file, the user's file, the environment and the
command line; each overrides those before it.
-/

namespace SensorRelay.Config

structure Sources where
  files : String → Option (List UInt8)
  userFile : Option String
  environment : List (String × String)
  endpoint : Option String
  logLevel : Option String

inductive LoadError
  | noDocument
  | outOfList
  | wrongType
  | zero (setting : String)
deriving DecidableEq, Repr

def LoadError.error : LoadError → Error
  | noDocument => ⟨.config, "configuration file is missing or cannot be read"⟩
  | outOfList => ⟨.config, "a key leads out of a list"⟩
  | wrongType => ⟨.config, "a setting has the wrong type"⟩
  | zero setting => ⟨.config, setting ++ " must be greater than 0"⟩

def defaults : Value :=
  .table [
    ("server", .table [
      ("host", .text "127.0.0.1"),
      ("port", .integer 8090),
      ("history_capacity", .integer 50),
      ("event_buffer", .integer 256)]),
    ("auth", .table []),
    ("client", .table [
      ("endpoint", .text "http://127.0.0.1:8090"),
      ("measurement_period_ms", .integer 1000)]),
    ("logging", .table [("level", .text "info")])]

/-- Where the system's file is. It may be missing. -/
def systemFile : String := "/etc/sensorstream/config.toml"

namespace Sources

variable (s : Sources)

def systemLayer : Option Layer :=
  match findFile s.files systemFile with
  | some (format, bytes) => (format.read bytes).map Layer.ofTable
  | none => some []

/-- A user's file that is named must be there. -/
def userLayer : Option Layer :=
  match s.userFile with
  | some path => do
    let (format, bytes) ← findFile s.files path
    (format.read bytes).map Layer.ofTable
  | none => some []

/-- The layers beneath the command line, lowest first. -/
def layers : Option (List Layer) := do
  some [Layer.ofTable defaults, ← s.systemLayer, ← s.userLayer, Layer.ofEnvironment s.environment]

/-- The command line has the last word on the endpoint and the level. -/
def override (x : Settings) : Settings :=
  { x with
    client := { x.client with endpoint := s.endpoint.getD x.client.endpoint }
    logging := { x.logging with level := s.logLevel.getD x.logging.level } }

def load : Except LoadError Settings :=
  match s.layers with
  | none => .error .noDocument
  | some ls =>
    match Layer.combine ls with
    | none => .error .outOfList
    | some v =>
      match Value.reading.settings v with
      | none => .error .wrongType
      | some x =>
        match (s.override x).zero? with
        | some setting => .error (.zero setting)
        | none => .ok (s.override x)

end Sources
end SensorRelay.Config
