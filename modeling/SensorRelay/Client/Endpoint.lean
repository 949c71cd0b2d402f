import SensorRelay.Error
import SensorRelay.Text.Utf8

/-!
# Endpoints

Which texts can name a server to connect to: an authority alone, a path alone, or a scheme, an
authority and a path with an optional query and fragment.
-/

namespace SensorRelay.Client

open Text

namespace Endpoint

def isAlphanumeric (c : Char) : Bool :=
  c.isAlpha || c.isDigit

/-- What an authority has shown up to some character. The user part ends at the last at sign, and
the brackets of an address hide the colons and percent signs within. -/
structure AuthorityScan where
  colons : Nat
  opened : Bool
  closed : Bool
  percent : Bool
  atSign : Bool

namespace AuthorityScan

def start : AuthorityScan := ⟨0, false, false, false, false⟩

/-- The most colons that may stand before a bracket or an at sign. -/
def colonLimit : Nat := 8

def next? (s : AuthorityScan) (c : Char) : Option AuthorityScan :=
  let s := { s with atSign := false }
  if c = ':' then
    if s.colons < colonLimit then some { s with colons := s.colons + 1 } else none
  else if c = '[' then
    if s.percent || s.opened then none else some { s with opened := true }
  else if c = ']' then
    if !s.opened || s.closed then none
    else some { s with closed := true, colons := 0, percent := false }
  else if c = '@' then some { s with colons := 0, percent := false, atSign := true }
  else if c = '%' then some { s with percent := true }
  else if isAlphanumeric c || "!$&'()*+,-.;=_~".toList.contains c then some s
  else none

/-- One host, with at most one port and no percent sign. -/
def isComplete (s : AuthorityScan) : Bool :=
  s.opened == s.closed && s.colons ≤ 1 && !s.atSign && !s.percent

end AuthorityScan

def isAuthority (cs : List Char) : Bool :=
  match cs.foldlM AuthorityScan.next? .start with
  | some s => s.isComplete
  | none => false

def isQueryChar (c : Char) : Bool :=
  let n := c.toNat
  n == 0x21 || (0x24 ≤ n && n ≤ 0x3B) || n == 0x3D || (0x3F ≤ n && n != 0x7F)

def isPathChar (c : Char) : Bool :=
  c == '"' || (isQueryChar c && c != '?' && c.toNat != 0x60)

/-- A path, then a query after a question mark; a fragment may hold anything. -/
def isPath (cs : List Char) : Bool :=
  let parts := cs.takeWhile (· ≠ '#')
  let path := parts.takeWhile (· ≠ '?')
  path.all isPathChar && (parts.drop (path.length + 1)).all isQueryChar

def schemeLimit : Nat := 64

/-- What follows a scheme; `none` if there is no scheme. -/
def afterScheme (cs : List Char) : Option (List Char × List Char) :=
  let scheme := cs.takeWhile fun c => isAlphanumeric c || ['+', '-', '.', '~'].contains c
  match cs.drop scheme.length with
  | ':' :: '/' :: '/' :: rest => some (scheme, rest)
  | _ => none

def authorityOf (cs : List Char) : List Char :=
  cs.takeWhile fun c => !(['/', '?', '#'].contains c)

def lengthLimit : Nat := 65534

def isValid (endpoint : String) : Bool :=
  let cs := endpoint.toList
  if cs.isEmpty || lengthLimit < (utf8 endpoint).length then false
  else if cs.head? = some '/' then isPath cs
  else if cs = ['*'] then true
  else
    match afterScheme cs with
    | some (scheme, rest) =>
      let authority := authorityOf rest
      scheme.length ≤ schemeLimit && !authority.isEmpty && isAuthority authority &&
        isPath (rest.drop authority.length)
    | none => isAuthority cs

end Endpoint
end SensorRelay.Client
