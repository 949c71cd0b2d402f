import SensorRelay.Json.Reader

/-!
# Scanning JSON

Readers that can fail without giving up the input: a failed one leaves the input where it stopped,
and another may go on from there. On well-formed input they fail only where a value cannot be
kept: at a text that cannot be decoded, at a number without a finite double, and at a value nested
too deep.
-/

namespace SensorRelay.Json

/-- A reader that also tells what it left when it failed. -/
abbrev Scan := OptionT (StateM (List UInt8))

namespace Scan

/-- The result of a reader, if any. Either way the input goes on where it stopped. -/
def attempt {α : Type} (x : Scan α) : Scan (Option α) :=
  OptionT.mk (some <$> x.run)

/-- Reads what stands between brackets, and then the end whether or not that went well. -/
def enclosed {α : Type} (inside : Scan α) (close : Scan Unit) : Scan α := do
  let result ← inside.attempt
  close
  result.elim failure pure

def next : Scan UInt8 := do
  match ← get with
  | b :: rest => set rest; pure b
  | [] => failure

def peek? : Scan (Option UInt8) :=
  List.head? <$> get

def blank : Scan Unit :=
  modify skipBlank

/-- The next byte behind blanks, which is left. -/
def peek : Scan UInt8 := do
  blank
  (← peek?).elim failure pure

def byte (b : UInt8) : Scan Unit := do
  if (← peek) = b then discard next else failure

/-- Reads a word up to its first wrong byte. -/
def word : List UInt8 → Scan Unit
  | [] => pure ()
  | b :: rest => do if (← next) = b then word rest else failure

def digits : Scan (List UInt8) :=
  modifyGet fun bs => (bs.takeWhile isDigitByte, bs.dropWhile isDigitByte)

def text : Scan String := do
  let (result, rest) := stringText (← get)
  set rest
  result.elim failure pure

def wholePart : Scan (List UInt8) := do
  let b ← next
  if b = 0x30 then
    if (← peek?).any isDigitByte then failure else pure [b]
  else if isDigitByte b then (b :: ·) <$> digits
  else failure

def fractionPart : Scan (List UInt8) := do
  if (← peek?) = some 0x2E then
    let point ← next
    let ds ← digits
    if ds.isEmpty then failure else pure (point :: ds)
  else pure []

/-- The input behind the digit that takes an exponent beyond thirty-one bits, if one does. -/
def afterExcess (n : Nat) : List UInt8 → Option (List UInt8)
  | [] => none
  | b :: rest =>
    if isDigitByte b then
      let m := 10 * n + (b - 0x30).toNat
      if Int32.maxValue.toInt < m then some rest else afterExcess m rest
    else none

/-- An exponent. Too great a one fails at once if the digits before it are significant. -/
def exponentPart (significant : Bool) : Scan (List UInt8) := do
  if (← peek?) = some 0x65 ∨ (← peek?) = some 0x45 then
    let mark ← next
    let sign ← if (← peek?) = some 0x2B ∨ (← peek?) = some 0x2D then ([·]) <$> next else pure []
    let input ← get
    if isDigitByte (← next) then
      match afterExcess 0 input with
      | some rest =>
        if significant && sign ≠ [0x2D] then
          set rest
          failure
      | none => pure ()
      set input
      pure (mark :: sign ++ (← digits))
    else failure
  else pure []

def numberValue : Scan Json := do
  let sign ← if (← peek?) = some 0x2D then ([·]) <$> next else pure []
  let digits := (← wholePart) ++ (← fractionPart)
  let exponent ← exponentPart (digits.any fun b => isDigitByte b && b ≠ 0x30)
  let literal := asciiText (sign ++ digits ++ exponent)
  if (doubleOf literal).isFinite then pure (number literal) else failure

def nextItem (first : Bool) : Scan Bool := do
  let b ← peek
  if b = 0x5D then pure false
  else if first then pure true
  else if b = 0x2C then
    discard next
    if (← peek) = 0x5D then failure else pure true
  else failure

def nextMember (first : Bool) : Scan Bool := do
  let b ← peek
  if b = 0x7D then pure false
  else
    unless first do byte 0x2C
    byte 0x22
    pure true

/-- The end of a list. A comma is read in its place. -/
def closeList : Scan Unit := do
  if (← peek) = 0x2C then
    discard next
    failure
  else byte 0x5D

def closeObject : Scan Unit :=
  byte 0x7D

mutual

/-- A value nested at most `room` deep. The fuel bounds the nesting and the number of siblings. -/
def value : Nat → Nat → Scan Json
  | 0, _ => failure
  | fuel + 1, room => do
    let b ← peek
    if b = 0x22 then
      discard next
      string <$> text
    else if b = 0x6E then
      word [0x6E, 0x75, 0x6C, 0x6C]
      pure null
    else if b = 0x74 then
      word [0x74, 0x72, 0x75, 0x65]
      pure (bool true)
    else if b = 0x66 then
      word [0x66, 0x61, 0x6C, 0x73, 0x65]
      pure (bool false)
    else if b = 0x2D ∨ isDigitByte b then numberValue
    else
      match room with
      | 0 => failure
      | room + 1 =>
        if b = 0x5B then
          discard next
          enclosed (array <$> items fuel room true) closeList
        else if b = 0x7B then
          discard next
          enclosed (object <$> members fuel room true) closeObject
        else failure

def items : Nat → Nat → Bool → Scan (List Json)
  | 0, _, _ => failure
  | fuel + 1, room, first => do
    if ← nextItem first then
      let item ← value fuel room
      (item :: ·) <$> items fuel room false
    else pure []

def members : Nat → Nat → Bool → Scan (List (String × Json))
  | 0, _, _ => failure
  | fuel + 1, room, first => do
    if ← nextMember first then
      let name ← text
      byte 0x3A
      let item ← value fuel room
      ((name, item) :: ·) <$> members fuel room false
    else pure []

end

def skipped : Scan Unit := do
  let bs ← get
  match readValue (fuelFor bs) bs with
  | some (_, rest) => set rest
  | none => failure

end Scan
end SensorRelay.Json
