import SensorRelay.Client.Handshake
import SensorRelay.Config.Settings
import SensorRelay.Console.Line
import SensorRelay.Network.Stream

/-!
# The sensor's console

A sensor that is operated by lines of text. Each line is answered first; what its stream reports
meanwhile is printed after the answer.
-/

namespace SensorRelay.Console

open Auth Client

/-- The last registered identity is the current one. Nothing is answered after the console was
left. -/
structure SensorConsole (σ : Type) where
  network : Network σ
  identity : Option SensorIdentity
  defaultPeriod : Nat
  running : Bool

abbrev SensorConsoleM (σ : Type) := StateM (SensorConsole σ)

namespace SensorConsole

variable {σ : Type}

def streamName : String := "sensor"

/-- A period of the command line goes before that of the settings. -/
def connected (network : Network σ) (period : Option Nat) (s : ClientSettings) : SensorConsole σ :=
  ⟨network, none, period.getD s.measurementPeriod, true⟩

def onNetwork {α : Type} (f : NetworkM σ α) : SensorConsoleM σ α :=
  modifyGet fun c =>
    let (a, network) := f c.network
    (a, { c with network := network })

def say (text : String) : String := "Sensor >>> " ++ text

def identityText (s : SensorIdentity) : String :=
  "Id: " ++ s.id ++ " Name: " ++ s.name ++ " Location: " ++ s.location ++ " Tags: [" ++
    ", ".intercalate s.tags ++ "]"

def noticeText : StreamNotice → Option String
  | .opened => none
  | .closed => some (say "Streaming is over")
  | .failed e => some (say ("Streaming stopped: " ++ e.message))

def reportText : Report → Option String
  | .notice _ n => noticeText n
  | _ => none

variable [Service σ]

def register (r : SensorRegistration) : SensorConsoleM σ String := do
  let o ← onNetwork Network.occasion
  match ← onNetwork (Network.ask (registerSensor r o)) with
  | .error e => return say e.message
  | .ok s =>
    modify fun c => { c with identity := some s }
    return say ("Sensor was registered. Id: " ++ s.id)

def emitRandom (period : Nat) : SensorConsoleM σ String := do
  let o ← onNetwork Network.occasion
  let source := ValueSource.random (.seeded (UInt64.ofNat o.freshId.value.toNat))
  match ← onNetwork (Network.emit streamName period source) with
  | .ok _ => return say "Streaming random data has started"
  | .error e => return say e.message

/-- A given token goes before that of the identity, and a given period before the default one. The
emitter is attached before the server can answer the new call. -/
def startStream (period : Option Nat) (token : Option String) : SensorConsoleM σ String := do
  let c ← get
  match (token.map Token.mk).or (c.identity.map (·.token)) with
  | none => return say "Register first or pass a token"
  | some token =>
    match ← onNetwork (Network.begin streamName token) with
    | .error e => return say e.message
    | .ok .alreadyStreaming => return say "Stream is already opened"
    | .ok .started =>
      let answer ← emitRandom (period.getD c.defaultPeriod)
      onNetwork (Network.openStream streamName token)
      return answer

def answerLine : SensorLine → SensorConsoleM σ (List String)
  | .empty => return []
  | .register name location tags => return [← register ⟨name, location, tags⟩]
  | .whoAmI => do
    match (← get).identity with
    | some s => return [say (identityText s)]
    | none => return [say "Not registered"]
  | .startStream period token => return [← startStream period token]
  | .endStream => do
    match ← onNetwork (Network.finish streamName) with
    | .ending => return [say "Ending stream"]
    | .noStream => return [say "No stream is opened"]
  | .quit => do
    modify fun c => { c with running := false }
    let _ ← onNetwork (Network.finish streamName)
    return []

def printReports : SensorConsoleM σ (List String) := do
  let reports ← onNetwork Network.takeLog
  if !(← get).running then return []
  return (reports.filterMap reportText).flatMap (·.splitOn "\n")

def enter (line : String) : SensorConsoleM σ (List String) := do
  if !(← get).running then return []
  let answers ← match SensorLine.parse line with
    | .ok l => answerLine l
    | .error e => pure [e.message]
  return answers.flatMap (·.splitOn "\n") ++ (← printReports)

end SensorConsole
end SensorRelay.Console
