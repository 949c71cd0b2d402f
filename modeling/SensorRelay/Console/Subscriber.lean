import SensorRelay.Client.Handshake
import SensorRelay.Client.Query
import SensorRelay.Console.Line
import SensorRelay.Network.Session

/-!
# The subscriber's console

A subscriber that is operated by lines of text. Each line is answered first; what its session
reports meanwhile is printed after the answer. Rosters and histories are printed as JSON if that was
asked for.
-/

namespace SensorRelay.Console

open Auth Client

/-- The last registered or logged in identity is the current one. -/
structure SubscriberConsole (σ : Type) where
  network : Network σ
  identity : Option ClientIdentity
  json : Bool
  running : Bool

abbrev SubscriberConsoleM (σ : Type) := StateM (SubscriberConsole σ)

namespace SubscriberConsole

variable {σ : Type}

def sessionName : String := "subscriber"

def connected (network : Network σ) (json : Bool) : SubscriberConsole σ :=
  ⟨network, none, json, true⟩

def onNetwork {α : Type} (f : NetworkM σ α) : SubscriberConsoleM σ α :=
  modifyGet fun c =>
    let (a, network) := f c.network
    (a, { c with network := network })

def say (text : String) : String := "Client >>> " ++ text

def summaryText (json : Bool) (s : SensorSummary) : String :=
  if json then s.json.text else say s.text

def measurementText (json : Bool) (m : Measurement) : String :=
  if json then m.json.text
  else say ("Value: " ++ m.value.text ++ " Made at: " ++ m.madeAt.rfc3339)

def entryText (json : Bool) : Except Error SensorSummary → String
  | .ok s => summaryText json s
  | .error e => say e.message

/-- The end of a stream is silent once a newer one was opened. -/
def eventText (streamsOpened : Nat) : SessionEvent → Option String
  | .opened _ => none
  | .event e => some (say e.text)
  | .ended n => if n < streamsOpened then none else some (say "Subscription stream is over")
  | .failed _ e => some (say ("Subscription stream failed: " ++ e.message))

def reportText (streamsOpened : Nat) : Report → Option String
  | .event _ e => eventText streamsOpened e
  | _ => none

variable [Service σ]

def adopt (greeting : String) : Except Error ClientIdentity → SubscriberConsoleM σ (List String)
  | .error e => return [say e.message]
  | .ok client => do
    modify fun c => { c with identity := some client }
    return [say (greeting ++ client.login)]

/-- A control frame travels under the current identity if it opens a stream. -/
def control (r : SubscribeRequest) : SubscriberConsoleM σ (List String) := do
  match (← get).identity with
  | none => return [say "Log in or register first"]
  | some client =>
    match ← onNetwork (Network.control sessionName client.token r) with
    | .ok _ => return []
    | .error e => return [say e.message]

def answerLine : SubscriberLine → SubscriberConsoleM σ (List String)
  | .empty => return []
  | .register login password email => do
    let o ← onNetwork Network.occasion
    adopt "Registered as "
      (← onNetwork (Network.ask (registerClient ⟨login, password, email⟩ o)))
  | .logIn login password => do
    let o ← onNetwork Network.occasion
    adopt "Logged in as " (← onNetwork (Network.ask (logIn login password o)))
  | .list => do
    match ← onNetwork (Network.ask (roster [])) with
    | .ok entries => return entries.map (entryText (← get).json)
    | .error e => return [say e.message]
  | .history sensorId depth => do
    match ← onNetwork (Network.ask (history sensorId depth)) with
    | .ok h =>
      return say ("Sensor status: " ++ h.status.name) ::
        h.measurements.map (measurementText (← get).json)
    | .error e => return [say e.message]
  | .subscribeOn sensorId => control ⟨sensorId, false⟩
  | .unsubscribeFrom sensorId => control ⟨sensorId, true⟩
  | .disconnect => do
    match ← onNetwork (Network.close sessionName) with
    | .closing => return []
    | .notOpen => return [say "No stream is opened"]
  | .quit => do
    modify fun c => { c with running := false }
    let _ ← onNetwork (Network.close sessionName)
    return []

def printReports : SubscriberConsoleM σ (List String) := do
  let reports ← onNetwork Network.takeLog
  let c ← get
  if !c.running then return []
  let opened := (c.network.session sessionName).opened
  return (reports.filterMap (reportText opened)).flatMap (·.splitOn "\n")

def enter (line : String) : SubscriberConsoleM σ (List String) := do
  if !(← get).running then return []
  let answers ← match SubscriberLine.parse line with
    | .ok l => answerLine l
    | .error e => pure [e.message]
  return answers.flatMap (·.splitOn "\n") ++ (← printReports)

end SubscriberConsole
end SensorRelay.Console
