import SensorRelay.Error
import SensorRelay.Text.Blank
import SensorRelay.Text.Numeral

/-!
# Input lines

The commands that a user types at a sensor or at a subscriber. Only the words of a line matter;
words that match no command with its exact arguments are answered with all the commands.
-/

namespace SensorRelay.Console

open Text

def sensorUsage : String :=
  "Commands:\n  -register <name> <location> [tags...]\n  -whoami\n" ++
    "  -startstream [period_ms] [token]\n  -endstream\n  -quit"

def subscriberUsage : String :=
  "Commands:\n  -register <login> <password> <email>\n  -login <login> <password>\n  -list\n" ++
    "  -history <sensorId> <depth>\n  -subscribeon <sensorId>\n" ++
    "  -unsubscribefrom <sensorId>\n  -disconnect\n  -quit"

/-- A command to a sensor; periods are in milliseconds. -/
inductive SensorLine
  | empty
  | register (name location : String) (tags : List String)
  | whoAmI
  | startStream (period : Option Nat) (token : Option String)
  | endStream
  | quit
deriving DecidableEq, Repr

/-- A command to a subscriber. -/
inductive SubscriberLine
  | empty
  | register (login password email : String)
  | logIn (login password : String)
  | list
  | history (sensorId : String) (depth : Int32)
  | subscribeOn (sensorId : String)
  | unsubscribeFrom (sensorId : String)
  | disconnect
  | quit
deriving DecidableEq, Repr

/-- A period of at least a millisecond that fits into sixty-four bits. -/
def readPeriod (word : String) : Option Nat :=
  (readUnsigned (UInt64.size - 1) word.toList).filter (0 < ·)

def readDepth (word : String) : Option Int32 :=
  (readSigned Int32.minValue.toInt Int32.maxValue.toInt word.toList).map Int32.ofInt

namespace SensorLine

def ofWords? : List String → Option SensorLine
  | [] => some empty
  | "-register" :: name :: location :: tags => some (register name location tags)
  | ["-whoami"] => some whoAmI
  | ["-startstream"] => some (startStream none none)
  | ["-startstream", ms] => (readPeriod ms).map fun p => startStream (some p) none
  | ["-startstream", ms, token] => (readPeriod ms).map fun p => startStream (some p) (some token)
  | ["-endstream"] => some endStream
  | ["-quit"] => some quit
  | _ => none

def usageError : Error := ⟨.usage, sensorUsage⟩

def parse (line : String) : Except Error SensorLine :=
  match ofWords? (words line) with
  | some l => .ok l
  | none => .error usageError

end SensorLine

namespace SubscriberLine

def ofWords? : List String → Option SubscriberLine
  | [] => some empty
  | ["-register", login, password, email] => some (register login password email)
  | ["-login", login, password] => some (logIn login password)
  | ["-list"] => some list
  | ["-history", sensorId, depth] => (readDepth depth).map (history sensorId)
  | ["-subscribeon", sensorId] => some (subscribeOn sensorId)
  | ["-unsubscribefrom", sensorId] => some (unsubscribeFrom sensorId)
  | ["-disconnect"] => some disconnect
  | ["-quit"] => some quit
  | _ => none

def usageError : Error := ⟨.usage, subscriberUsage⟩

def parse (line : String) : Except Error SubscriberLine :=
  match ofWords? (words line) with
  | some l => .ok l
  | none => .error usageError

end SubscriberLine
end SensorRelay.Console
