/-!
# Options

How the arguments of a command are read: long options with their value in the same argument or in
the next one, and short options that can stand together. An option is given at most once, and two
hyphens end the options.
-/

namespace SensorRelay.CommandLine

inductive Stop
  | usage
  | help
  | version
deriving DecidableEq, Repr

/-- What an option takes: a value that is accepted, or nothing. -/
inductive OptionKind
  | valued (accepts : String → Bool)
  | switch
  | stop (reason : Stop)

structure OptionSpec where
  long : String
  short : Option Char
  kind : OptionKind

/-- What the arguments up to some place gave. A switch has an empty value. -/
structure Given where
  values : List (String × String)
  pending : Option OptionSpec
  ended : Bool

namespace Given

variable (g : Given) (specs : List OptionSpec)

def nothing : Given := ⟨[], none, false⟩

def value? (name : String) : Option String :=
  g.values.lookup name

def has (name : String) : Bool :=
  (g.value? name).isSome

/-- Gives a value to an option that has none. -/
def give (o : OptionSpec) (value : String) : Except Stop Given :=
  match o.kind with
  | .valued accepts =>
    if accepts value && !g.has o.long then
      .ok { g with values := (o.long, value) :: g.values, pending := none }
    else .error .usage
  | _ => .error .usage

def turnOn (o : OptionSpec) : Except Stop Given :=
  if g.has o.long then .error .usage else .ok { g with values := (o.long, "") :: g.values }

def alone (o : OptionSpec) : Except Stop Given :=
  match o.kind with
  | .valued _ => .ok { g with pending := some o }
  | .switch => g.turnOn o
  | .stop reason => .error reason

def long (cs : List Char) : Except Stop Given :=
  let name := cs.takeWhile (· ≠ '=')
  match specs.find? (·.long.toList = name), cs.drop name.length with
  | none, _ => .error .usage
  | some o, [] => g.alone o
  | some o, _ :: value => g.give o (String.ofList value)

/-- An argument after its hyphen. The first option that takes a value takes the rest of it. -/
def short (g : Given) : List Char → Except Stop Given
  | [] => .ok g
  | c :: cs =>
    match specs.find? (·.short = some c) with
    | none => .error .usage
    | some o =>
      match o.kind, cs with
      | .valued _, [] => g.alone o
      | .valued _, '=' :: value => g.give o (String.ofList value)
      | .valued _, value => g.give o (String.ofList value)
      | _, cs => (g.alone o).bind (short · cs)

/-- Does an argument begin like an option? A hyphen alone does not. -/
def isOption (arg : String) : Bool :=
  match arg.toList with
  | '-' :: _ :: _ => true
  | _ => false

def scan (commands : List String) (g : Given) : List String → Except Stop (Given × List String)
  | [] => if g.pending.isSome then .error .usage else .ok (g, [])
  | arg :: rest =>
    match g.ended, g.pending with
    | true, _ => .error .usage
    | false, some o =>
      if isOption arg then .error .usage else (g.give o arg).bind (scan commands · rest)
    | false, none =>
      if commands.contains arg then .ok (g, arg :: rest)
      else
        match arg.toList with
        | ['-', '-'] => scan commands { g with ended := true } rest
        | '-' :: '-' :: cs => (g.long specs cs).bind (scan commands · rest)
        | '-' :: c :: cs => (g.short specs (c :: cs)).bind (scan commands · rest)
        | _ => .error .usage

end Given
end SensorRelay.CommandLine
