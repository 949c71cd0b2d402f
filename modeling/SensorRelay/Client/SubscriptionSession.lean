import SensorRelay.Measurement
import SensorRelay.Service

/-!
# The subscription session of a client

At most one open stream. A control call opens one if there is none and uses it otherwise; events of
a stream that was closed still arrive under its number. The subscriptions are the ids as they were
asked for.
-/

namespace SensorRelay.Client

open Auth Rpc

/-- What a session reports, with the number of the stream that it belongs to. -/
inductive SessionEvent
  | opened (stream : Nat)
  | event (e : SubscriberEvent)
  | ended (stream : Nat)
  | failed (stream : Nat) (e : Error)
deriving DecidableEq

inductive OpenOutcome
  | opened
  | reused
deriving DecidableEq, Repr

inductive CloseOutcome
  | closing
  | notOpen
deriving DecidableEq, Repr

structure ActiveStream where
  generation : Nat
  call : CallId
  subscriptions : List String
deriving DecidableEq, Repr

/-- `opened` counts the streams so far. -/
structure SubscriptionSession where
  opened : Nat
  active : Option ActiveStream
deriving DecidableEq, Repr

namespace SubscriptionSession

variable (s : SubscriptionSession)

def closed : SubscriptionSession := ⟨0, none⟩

def isOpen : Bool := s.active.isSome

def connected (call : CallId) : SubscriptionSession :=
  ⟨s.opened + 1, some ⟨s.opened + 1, call, []⟩⟩

def controlled (r : SubscribeRequest) : SubscriptionSession :=
  { s with active := s.active.map fun a =>
      let others := a.subscriptions.filter (· ≠ r.sensorId)
      { a with subscriptions := if r.disconnect then others else r.sensorId :: others } }

/-- Forgets the stream without waiting for its end. -/
def close : CloseOutcome × SubscriptionSession :=
  (if s.isOpen then .closing else .notOpen, { s with active := none })

/-- A stream is over; a newer one stays open. -/
def release (generation : Nat) : SubscriptionSession :=
  if s.active.any (·.generation = generation) then { s with active := none } else s

/-- The ids asked for on the open stream, sorted. -/
def subscriptions : List String :=
  (s.active.elim [] (·.subscriptions)).mergeSort fun a b => decide (a ≤ b)

end SubscriptionSession
end SensorRelay.Client
