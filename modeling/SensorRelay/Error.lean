import SensorRelay.Rpc

/-!
# Errors

What a peer reports to its user. Each error has a kind and a detail; the kind decides the label in
front of the detail and the status that the error becomes when a call reports it.
-/

namespace SensorRelay

inductive ErrorKind
  | auth
  | stream
  | protocol
  | usage
  | config
  | transport
  | invalidData
  | io
deriving DecidableEq, Repr

structure Error where
  kind : ErrorKind
  detail : String
deriving DecidableEq, Repr

def ErrorKind.label : ErrorKind → String
  | .auth => "Authentication error: "
  | .stream => "Stream error: "
  | .protocol => "Protocol error: "
  | .usage => ""
  | .config => "Configuration error: "
  | .transport => "Transport error: "
  | .invalidData => "Invalid data: "
  | .io => "I/O error: "

def ErrorKind.name : ErrorKind → String
  | .auth => "Auth"
  | .stream => "Stream"
  | .protocol => "Protocol"
  | .usage => "Usage"
  | .config => "Config"
  | .transport => "Transport"
  | .invalidData => "InvalidData"
  | .io => "Io"

namespace Error

open Rpc

def message (e : Error) : String :=
  e.kind.label ++ e.detail

/-- The text of the failure beneath an input or output error. -/
def source? (e : Error) : Option String :=
  if e.kind = .io then some e.detail else none

def status (e : Error) : Status :=
  match e.kind with
  | .auth => ⟨.unauthenticated, e.detail⟩
  | .stream => ⟨.unknown, e.detail⟩
  | .protocol => ⟨.invalidArgument, e.detail⟩
  | .usage => ⟨.failedPrecondition, e.detail⟩
  | .config => ⟨.failedPrecondition, "Config error: " ++ e.detail⟩
  | .transport => ⟨.unavailable, e.detail⟩
  | .invalidData => ⟨.invalidArgument, e.detail⟩
  | .io => ⟨.internal, e.message⟩

def ofAuthStatus (s : Status) : Error :=
  if s.code = .unavailable then ⟨.transport, s.message⟩ else ⟨.auth, s.message⟩

def ofQueryStatus (s : Status) : Error :=
  match s.code with
  | .unavailable => ⟨.transport, s.message⟩
  | .unauthenticated => ⟨.auth, s.message⟩
  | _ => ⟨.invalidData, s.message⟩

def ofStreamStatus (s : Status) : Error :=
  if s.code = .unauthenticated then ⟨.auth, s.message⟩
  else ⟨.stream, s.code.name ++ ": " ++ s.message⟩

end Error
end SensorRelay
