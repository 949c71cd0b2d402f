import SensorRelay.Measurement
import SensorRelay.Roster
import SensorRelay.Service
import SensorRelay.Wire.Codec

/-!
# Roster and history queries
-/

namespace SensorRelay.Client

open Rpc

/-- Newest measurement first. -/
structure SensorHistory where
  measurements : List Measurement
  status : OnlineStatus
deriving DecidableEq

def depthError : Error := ⟨.usage, "Depth must be greater than 0"⟩

/-- One measurement without a valid timestamp spoils the whole history. -/
def SensorHistory.ofResponse (r : HistoryResponse) : Except Error SensorHistory :=
  match r.measurements.mapM Measurement.ofResponse? with
  | some ms => .ok ⟨ms, .resolve r.sensorStatus⟩
  | none => .error Measurement.timestampError

def rosterEntries (r : RosterAnswer) : List (Except Error SensorSummary) :=
  (r.entries.map fun i => .ok (.ofInfo i)) ++
    (r.failure.bind Status.failure?).toList.map fun s => .error (Error.ofStreamStatus s)

variable {σ : Type} [Service σ]

/-- A refusal with a good status is an empty roster. -/
def roster (tags : List String) : StateM σ (Except Error (List (Except Error SensorSummary))) := do
  match ← Service.roster tags with
  | .ok r => return .ok (rosterEntries r)
  | .error s =>
    match s.failure? with
    | some s => return .error (Error.ofQueryStatus s)
    | none => return .ok []

/-- Longer messages are not taken. -/
def sizeLimit : Nat := 4194304

def tooLong (size : Nat) : Status :=
  ⟨.outOfRange, "Error, decoded message length too large: found " ++ Text.numeral size ++
    " bytes, the limit is: " ++ Text.numeral sizeLimit ++ " bytes"⟩

def fetchHistory (r : HistoryRequest) : StateM σ (Except Status HistoryResponse) := do
  match answered (← Service.history r) with
  | .ok h =>
    let size := Wire.historyResponse.size h
    return if sizeLimit < size then .error (tooLong size) else .ok h.transmitted
  | .error s => return .error s

/-- The service is not asked for a depth that is not positive. -/
def history (sensorId : String) (depth : Int32) : StateM σ (Except Error SensorHistory) := do
  if depth ≤ 0 then return .error depthError
  match ← fetchHistory ⟨sensorId, depth⟩ with
  | .ok r => return SensorHistory.ofResponse r
  | .error s => return .error (Error.ofQueryStatus s)

end SensorRelay.Client
