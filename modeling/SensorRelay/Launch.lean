import SensorRelay.Client.Endpoint
import SensorRelay.CommandLine.Invocation
import SensorRelay.Config.Load
import SensorRelay.Logging
import SensorRelay.Server.Basic

/-!
# Launching

From settings to a server or a connected peer, and what can keep one from running.
-/

namespace SensorRelay

open CommandLine

structure Failure where
  activity : String
  cause : Error
deriving DecidableEq, Repr

/-- What went wrong and, if there is more to tell, what lies beneath it. -/
def Failure.causes (f : Failure) : List String :=
  f.cause.message :: f.cause.source?.toList

def Failure.chain (f : Failure) : List String :=
  f.activity :: f.causes

/-- The first line tells the activity; the causes follow, with numbers if there are several. -/
def Failure.report (f : Failure) : String :=
  let lines := match f.causes with
    | [cause] => ["    " ++ cause]
    | causes => causes.zipIdx.map fun (cause, n) => "    " ++ Text.numeral n ++ ": " ++ cause
  "\n".intercalate (("Error: " ++ f.activity) :: "" :: "Caused by:" :: lines)

def Failure.during (activity : String) {α : Type} (r : Except Error α) : Except Failure α :=
  r.mapError (Failure.mk activity)

/-- The host and the port of the command line go before those of the settings. -/
def ServerSettings.override (s : ServerSettings) (host : Option String) (port : Option UInt16) :
    ServerSettings :=
  { s with host := host.getD s.host, port := port.getD s.port }

namespace Launch

def transportError : Error := ⟨.transport, "transport error"⟩

/-- The address is checked before the secret. A server cannot run at an address that is taken. -/
def server (s : Settings) (entropy : List UInt8) (isTaken : SocketAddress → Bool) :
    Except Failure (SocketAddress × Server) := do
  let address ← Failure.during "Invalid listen address" s.server.listenAddress
  let issuer ← Failure.during "Failed to create server"
    ((Auth.Issuer.ofSecret s.auth.secret entropy).mapError Auth.Issuer.SecretError.error)
  if isTaken address then .error ⟨"Server error", transportError⟩
  else .ok (address, .empty issuer s.server.historyCapacity s.server.eventBuffer)

def connect (answers : String → Bool) (endpoint : String) : Except Failure Unit :=
  let activity := "Failed to connect to " ++ endpoint
  if !Client.Endpoint.isValid endpoint then .error ⟨activity, ⟨.transport, "invalid URI"⟩⟩
  else if answers endpoint then .ok ()
  else .error ⟨activity, transportError⟩

def sources (i : Invocation) (files : String → Option (List UInt8))
    (environment : List (String × String)) : Config.Sources :=
  ⟨files, i.configFile, environment, i.endpoint, i.logLevel⟩

structure Surroundings where
  files : String → Option (List UInt8)
  environment : List (String × String)
  entropy : List UInt8
  isWritable : String → Bool
  isTaken : SocketAddress → Bool
  answers : String → Bool

def failure? (c : Command) (s : Settings) (m : Surroundings) : Option Failure :=
  let outcome : Except Failure Unit := match c with
    | .server host port _ =>
      (server { s with server := s.server.override host port } m.entropy m.isTaken).map fun _ => ()
    | .sensor _ | .subscriber _ => connect m.answers s.client.endpoint
  match outcome with
  | .ok _ => none
  | .error f => some f

/-- How a run ends if nothing is served. The start is recorded in the log directory, if there is
one, and among the errors. -/
structure Outcome where
  exitCode : UInt8
  output : List String
  failure : Option Failure
  logDirectory : Option String
  isStartLogged : Bool

namespace Outcome

def early (exitCode : UInt8) (output : List String) (failure : Option Failure) : Outcome :=
  ⟨exitCode, output, failure, none, false⟩

def errorLine? (o : Outcome) : Option String :=
  o.failure.bind fun f => (f.report.splitOn "\n").head?

end Outcome

/-- The exit code of a run that cannot even report what is wrong. -/
def brokenCode : UInt8 := 101

/-- A run with settings. Before anything else its records must have a place to go to. -/
def start (c : Command) (s : Settings) (m : Surroundings) : Outcome :=
  match Logging.isStartLogged s.logging with
  | none => .early brokenCode [] none
  | some isLogged =>
    if c.logDirectory?.all m.isWritable then
      let failure := failure? c s m
      ⟨if failure.isSome then 1 else 0, [], failure, c.logDirectory?, isLogged⟩
    else .early brokenCode [] none

def run (args : List String) (m : Surroundings) : Outcome :=
  match Invocation.parse m.environment args with
  | .error .usage => .early 2 [] none
  | .error .help => .early 0 (helpText.splitOn "\n") none
  | .error .version => .early 0 [versionText] none
  | .ok i =>
    match (sources i m.files m.environment).load with
    | .error .outOfList => .early brokenCode [] none
    | .error e => .early 1 [] (some ⟨"Failed to load configuration", e.error⟩)
    | .ok s => start i.command s m

end Launch
end SensorRelay
