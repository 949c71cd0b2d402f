import SensorRelay.Text.Numeral

/-!
# Verbosity

How much is logged, and how that is written.
-/

namespace SensorRelay.Logging

open Text

inductive Verbosity
  | off
  | error
  | warn
  | info
  | debug
  | trace
deriving DecidableEq, Repr

namespace Verbosity

def rank : Verbosity → Nat
  | off => 0
  | error => 1
  | warn => 2
  | info => 3
  | debug => 4
  | trace => 5

def name : Verbosity → String
  | off => "off"
  | error => "error"
  | warn => "warn"
  | info => "info"
  | debug => "debug"
  | trace => "trace"

def all : List Verbosity := [off, error, warn, info, debug, trace]

/-- A name in any case or a rank; no text at all asks for errors. -/
def parse? (cs : List Char) : Option Verbosity :=
  match readUnsigned 5 cs with
  | some n => all[n]?
  | none =>
    if cs.isEmpty then some error
    else all.find? fun v => v.name.toList = cs.map Char.toLower

end Verbosity

end SensorRelay.Logging
