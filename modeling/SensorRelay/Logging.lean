import SensorRelay.Config.Settings
import SensorRelay.Logging.Directive

/-!
# Logging

Which records are logged. A filter is a list of directives; each lets the records of a target pass
up to a verbosity, and of the directives for a target the most specific one decides. The level in
the settings decides if the filter has no directive.
-/

namespace SensorRelay.Logging

/-- The directives of a filter. Those that cannot be read are passed over, but with a misplaced one
there is no filter. -/
def directives (filter : String) : Option (List Directive) :=
  let readings := ((filter.toList.splitOn ',').filter (· ≠ [])).map Directive.parse
  if readings.any fun | .error .misplaced => true | _ => false then none
  else some (readings.filterMap Except.toOption)

/-- How much of a target is let through. Of equally specific directives the last one counts. -/
def verbosityFor (ds : List Directive) (target : String) : Verbosity :=
  let deciding := (ds.filter (·.covers target.toList)).foldl
    (fun best d =>
      match best with
      | some b => if b.specificity ≤ d.specificity then some d else some b
      | none => some d)
    none
  (deciding.map (·.verbosity)).getD .off

/-- The verbosity of a target under the settings, if their filter is usable. A level that is unknown
is `info`. -/
def verbosity (s : LoggingSettings) (target : String) : Option Verbosity :=
  (directives (s.filter.getD "")).map fun
    | [] => (Verbosity.parse? s.level.toList).getD .info
    | ds => verbosityFor ds target

def isLogged (s : LoggingSettings) (target : String) (v : Verbosity) : Option Bool :=
  (verbosity s target).map (v.rank ≤ ·.rank)

def programTarget : String := "sensorstream"

def startRecord : String := "sensorstream starting up"

def isStartLogged (s : LoggingSettings) : Option Bool :=
  isLogged s programTarget .info

end SensorRelay.Logging
