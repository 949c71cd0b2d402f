import SensorRelay.Json.Writer
import SensorRelay.Message

/-!
# Roster entries

What a subscriber is shown of each sensor, as a sentence or as one line of JSON.
-/

namespace SensorRelay

structure SensorSummary where
  id : String
  name : String
  location : String
  tags : List String
  onlineStatus : OnlineStatus
deriving DecidableEq, Repr

namespace SensorSummary

def ofInfo (i : SensorInfo) : SensorSummary :=
  ⟨i.id, i.name, i.location, i.tags, OnlineStatus.resolve i.onlineStatus⟩

def json (s : SensorSummary) : Json :=
  .object [
    ("id", .string s.id),
    ("name", .string s.name),
    ("location", .string s.location),
    ("tags", .array (s.tags.map .string)),
    ("online_status", .string s.onlineStatus.name)]

def text (s : SensorSummary) : String :=
  "Id: " ++ s.id ++ " Name: " ++ s.name ++ " Location: " ++ s.location ++ " Tags: [" ++
    ", ".intercalate s.tags ++ "] Status: " ++ s.onlineStatus.name

end SensorSummary
end SensorRelay
