/-! What may stand as the address of an API: a scheme and a host, a host alone, a path alone, or a
single star. -/
namespace ClusterSurvey

inductive AddressFault where
  | empty
  | tooLong
  | badCharacter
  | schemeTooLong
  | badAuthority
  | badFormat
  deriving DecidableEq, Repr

def AddressFault.message : AddressFault → String
  | empty => "empty string"
  | tooLong => "uri too long"
  | badCharacter => "invalid uri character"
  | schemeTooLong => "scheme too long"
  | badAuthority => "invalid authority"
  | badFormat => "invalid format"

namespace Address

def lengthLimit : Nat := 65534

def schemeLimit : Nat := 64

def colonLimit : Nat := 8

def knownSchemes : List String := ["http://", "https://"]

/-- The fewest bytes of an address with a scheme other than the known ones. -/
def schemedLength : Nat := 4

def isSchemeChar (c : Char) : Bool :=
  c.isAlphanum || c = '+' || c = '-' || c = '.' || c = '~'

def isAddressChar (c : Char) : Bool := c.isAlphanum || "!#$&'()*+,-./:;=?@[]_~".toList.contains c

def afterScheme? (cs : List Char) : Except AddressFault (Option (List Char)) :=
  match knownSchemes.find? fun s => s.toList.isPrefixOf (cs.map Char.toLower) with
  | some s => .ok (some (cs.drop s.length))
  | none =>
    let scheme := cs.takeWhile isSchemeChar
    match cs.drop scheme.length with
    | ':' :: '/' :: '/' :: rest =>
      if cs.length < schemedLength then .ok none
      else if schemeLimit < scheme.length then .error .schemeTooLong
      else .ok (some rest)
    | _ => .ok none

structure Seen where
  colons : Nat
  opened : Bool
  closed : Bool
  percent : Bool
  atSign : Bool

namespace Seen

def start : Seen := ⟨0, false, false, false, false⟩

/-- After one more character. What stands before an `@` or within brackets is no host, so its
colons and escapes do not count. -/
def step (s : Seen) (c : Char) : Except AddressFault Seen :=
  let s := { s with atSign := false }
  if c = ':' then
    if colonLimit ≤ s.colons then .error .badAuthority else .ok { s with colons := s.colons + 1 }
  else if c = '[' then
    if s.percent || s.opened then .error .badAuthority else .ok { s with opened := true }
  else if c = ']' then
    if !s.opened || s.closed then .error .badAuthority
    else .ok { s with closed := true, colons := 0, percent := false }
  else if c = '@' then .ok { s with atSign := true, colons := 0, percent := false }
  else if c = '%' then .ok { s with percent := true }
  else if isAddressChar c then .ok s
  else .error .badCharacter

def finish (s : Seen) : Except AddressFault Unit :=
  if s.opened != s.closed || 1 < s.colons || s.atSign || s.percent then .error .badAuthority
  else .ok ()

end Seen

def afterAuthority (cs : List Char) : Except AddressFault (List Char) := do
  let host := cs.takeWhile fun c => c ≠ '/' && c ≠ '?' && c ≠ '#'
  (← host.foldlM Seen.step .start).finish
  return cs.drop host.length

def isPathChar (c : Char) : Bool :=
  let n := c.toNat
  n = 0x21 || n = 0x22 || (0x24 ≤ n && n ≤ 0x3B) || n = 0x3D || (0x40 ≤ n && n ≤ 0x5F) ||
    (0x61 ≤ n && n ≠ 0x7F)

def isQueryChar (c : Char) : Bool :=
  let n := c.toNat
  n = 0x21 || (0x24 ≤ n && n ≤ 0x3B) || n = 0x3D || (0x3F ≤ n && n ≠ 0x7F)

/-- What may stand behind the host; whatever follows a `#` is passed over. -/
def checkPath (cs : List Char) : Except AddressFault Unit :=
  let cs := cs.takeWhile (· ≠ '#')
  let path := cs.takeWhile (· ≠ '?')
  let query := (cs.drop path.length).drop 1
  if path.all isPathChar && query.all isQueryChar then .ok () else .error .badCharacter

def check (address : String) : Except AddressFault Unit :=
  let cs := address.toList
  if lengthLimit < address.utf8ByteSize then .error .tooLong
  else
    match cs with
    | [] => .error .empty
    | ['*'] => .ok ()
    | '/' :: _ => checkPath cs
    | [_] => do
      unless (← afterAuthority cs).isEmpty do throw .badCharacter
    | _ => do
      match ← afterScheme? cs with
      | none => unless (← afterAuthority cs).isEmpty do throw .badFormat
      | some [] => throw .empty
      | some rest =>
        let path ← afterAuthority rest
        if path.length = rest.length then throw .badFormat
        checkPath path

end Address

end ClusterSurvey
