import SensorRelay.Error
import SensorRelay.SocketAddress

/-!
# Settings

What a server and its peers can be told: where to listen, what to keep, how to sign, whom to
connect to and what to log.
-/

namespace SensorRelay

open Text

/-- The capacity counts measurements of one sensor, the buffer its pending events. -/
structure ServerSettings where
  host : String
  port : UInt16
  historyCapacity : Nat := 50
  eventBuffer : Nat := 256
deriving DecidableEq, Repr

/-- Tokens are signed with a random secret if none is set. -/
structure AuthSettings where
  secret : Option String := none
deriving DecidableEq, Repr

/-- The period is in milliseconds. -/
structure ClientSettings where
  endpoint : String
  measurementPeriod : Nat := 1000
deriving DecidableEq, Repr

/-- A filter overrides the level. -/
structure LoggingSettings where
  level : String := "info"
  filter : Option String := none
deriving DecidableEq, Repr

structure Settings where
  server : ServerSettings
  auth : AuthSettings
  client : ClientSettings
  logging : LoggingSettings
deriving DecidableEq, Repr

def ServerSettings.addressError : Error :=
  ⟨.config, "Invalid listen address: invalid socket address syntax"⟩

/-- The host must be an address; no name is looked up. -/
def ServerSettings.listenAddress (s : ServerSettings) : Except Error SocketAddress :=
  match SocketAddress.parse? (s.host ++ ":" ++ numeral s.port.toNat) with
  | some a => .ok a
  | none => .error addressError

/-- The first setting that is zero and must not be. -/
def Settings.zero? (s : Settings) : Option String :=
  if s.server.historyCapacity = 0 then some "server.history_capacity"
  else if s.server.eventBuffer = 0 then some "server.event_buffer"
  else if s.client.measurementPeriod = 0 then some "client.measurement_period_ms"
  else none

end SensorRelay
