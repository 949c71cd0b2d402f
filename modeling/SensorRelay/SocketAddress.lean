import SensorRelay.Text.Hex
import SensorRelay.Text.Numeral

/-!
# Socket addresses

An internet address and a port. An IPv4 address is written as four octets; an IPv6 address stands
in brackets, may shorten one run of zero groups to two colons and may carry the number of a scope.
-/

namespace SensorRelay

open Text

structure IPv4 where
  octets : List UInt8
  length_eq : octets.length = 4
deriving DecidableEq

structure IPv6 where
  groups : List UInt16
  length_eq : groups.length = 8
deriving DecidableEq

inductive SocketAddress
  | v4 (address : IPv4) (port : UInt16)
  | v6 (address : IPv6) (scope : UInt32) (port : UInt16)
deriving DecidableEq

namespace IPv4

/-- Up to three digits, without a leading zero. -/
def readOctet (cs : List Char) : Option UInt8 :=
  if 3 < cs.length ∨ (cs.head? = some '0' ∧ 1 < cs.length) then none
  else ((readDigits cs).filter (· ≤ 255)).map UInt8.ofNat

def parse? (cs : List Char) : Option IPv4 :=
  ((cs.splitOn '.').mapM readOctet).bind fun octets =>
    if h : octets.length = 4 then some ⟨octets, h⟩ else none

def chars (a : IPv4) : List Char :=
  ['.'].intercalate (a.octets.map fun b => Nat.toDigits 10 b.toNat)

def groups (a : IPv4) : List UInt16 :=
  match a.octets with
  | [w, x, y, z] =>
    [UInt16.ofNat (w.toNat * 256 + x.toNat), UInt16.ofNat (y.toNat * 256 + z.toNat)]
  | _ => []

def ofGroups (high low : UInt16) : IPv4 :=
  ⟨[high.toNat / 256, high.toNat % 256, low.toNat / 256, low.toNat % 256].map UInt8.ofNat, rfl⟩

end IPv4

namespace IPv6

/-- Up to four hexadecimal digits. -/
def readGroup (cs : List Char) : Option UInt16 :=
  if cs.isEmpty ∨ 4 < cs.length then none else (readHex cs).map UInt16.ofNat

/-- Groups between colons. The last two of them may be written as an IPv4 address if it is
admitted. -/
def readPieces (admitted : Bool) : List (List Char) → Option (List UInt16)
  | [] => some []
  | [last] =>
    match IPv4.parse? last with
    | some a => if admitted then some a.groups else none
    | none => (readGroup last).map ([·])
  | piece :: rest => do some ((← readGroup piece) :: (← readPieces admitted rest))

def readGroups (admitted : Bool) (cs : List Char) : Option (List UInt16) :=
  if cs.isEmpty then some [] else readPieces admitted (cs.splitOn ':')

/-- What stands before and after the first two neighbouring colons. -/
def cutGap : List Char → Option (List Char × List Char)
  | ':' :: ':' :: rest => some ([], rest)
  | c :: rest => (cutGap rest).map fun p => (c :: p.1, p.2)
  | [] => none

def ofGroups? (groups : List UInt16) : Option IPv6 :=
  if h : groups.length = 8 then some ⟨groups, h⟩ else none

/-- Two colons stand for at least one zero group. -/
def parse? (cs : List Char) : Option IPv6 :=
  match cutGap cs with
  | none => (readGroups true cs).bind ofGroups?
  | some (before, after) => do
    let front ← readGroups false before
    let back ← readGroups true after
    if front.length + back.length < 8 then
      ofGroups? (front ++ List.replicate (8 - front.length - back.length) 0 ++ back)
    else none

def zerosFrom (groups : List UInt16) (place : Nat) : Nat :=
  ((groups.drop place).takeWhile (· = 0)).length

/-- The place and the length of the first longest run of zero groups. -/
def longestRun (groups : List UInt16) : Nat × Nat :=
  (List.range groups.length).foldl
    (fun best place =>
      let run := zerosFrom groups place
      if best.2 < run then (place, run) else best)
    (0, 0)

/-- Lower-case digits without leading zeros, between colons. -/
def joined (groups : List UInt16) : List Char :=
  [':'].intercalate (groups.map fun g => Nat.toDigits 16 g.toNat)

/-- A run of at least two zero groups is shortened. An address that embeds an IPv4 address ends
with it. -/
def chars (a : IPv6) : List Char :=
  match a.groups with
  | [0, 0, 0, 0, 0, 0xFFFF, high, low] => "::ffff:".toList ++ (IPv4.ofGroups high low).chars
  | groups =>
    let (place, run) := longestRun groups
    if run < 2 then joined groups
    else joined (groups.take place) ++ ':' :: ':' :: joined (groups.drop (place + run))

end IPv6

namespace SocketAddress

def readPort (cs : List Char) : Option UInt16 :=
  ((readDigits cs).filter (· < UInt16.size)).map UInt16.ofNat

def readScope (cs : List Char) : Option UInt32 :=
  ((readDigits cs).filter (· < UInt32.size)).map UInt32.ofNat

/-- An IPv6 address and its scope, zero if none is given. -/
def readScoped (cs : List Char) : Option (IPv6 × UInt32) :=
  match cs.splitOn '%' with
  | [address] => (IPv6.parse? address).map (·, 0)
  | [address, scope] => do some ((← IPv6.parse? address), (← readScope scope))
  | _ => none

def parse? (s : String) : Option SocketAddress :=
  match s.toList with
  | '[' :: cs =>
    let inside := cs.takeWhile (· ≠ ']')
    match cs.drop inside.length with
    | ']' :: ':' :: port => do
      let (address, scope) ← readScoped inside
      some (.v6 address scope (← readPort port))
    | _ => none
  | cs =>
    match cs.splitOn ':' with
    | [address, port] => do some (.v4 (← IPv4.parse? address) (← readPort port))
    | _ => none

def chars : SocketAddress → List Char
  | v4 address port => address.chars ++ ':' :: Nat.toDigits 10 port.toNat
  | v6 address scope port =>
    '[' :: address.chars ++ (if scope = 0 then [] else '%' :: Nat.toDigits 10 scope.toNat) ++
      ']' :: ':' :: Nat.toDigits 10 port.toNat

def text (a : SocketAddress) : String :=
  String.ofList a.chars

def isV6 : SocketAddress → Bool
  | v4 .. => false
  | v6 .. => true

def port : SocketAddress → UInt16
  | v4 _ port | v6 _ _ port => port

end SocketAddress
end SensorRelay
