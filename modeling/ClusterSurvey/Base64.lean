/-! Standard base64 with padding, read strictly: full groups of four, padding only at the end,
and no bit set that the bytes do not use. -/
namespace ClusterSurvey.Base64

inductive Fault where
  | badSymbol (offset : Nat) (byte : UInt8)
  /-- A group ends after its first symbol; so many symbols come before its end. -/
  | badLength (length : Nat)
  /-- The last symbol sets bits that no byte uses. -/
  | badLastSymbol (offset : Nat) (byte : UInt8)
  | badPadding
  deriving DecidableEq, Repr

def Fault.message : Fault → String
  | badSymbol offset byte =>
    "Invalid symbol " ++ Nat.repr byte.toNat ++ ", offset " ++ Nat.repr offset ++ "."
  | badLength length => "Invalid input length: " ++ Nat.repr length
  | badLastSymbol offset byte =>
    "Invalid last symbol " ++ Nat.repr byte.toNat ++ ", offset " ++ Nat.repr offset ++ "."
  | badPadding => "Invalid padding"

def pad : UInt8 := 0x3D

def symbolValue? (byte : UInt8) : Option Nat :=
  let n := byte.toNat
  if 0x41 ≤ n ∧ n ≤ 0x5A then some (n - 0x41)
  else if 0x61 ≤ n ∧ n ≤ 0x7A then some (n - 0x61 + 26)
  else if 0x30 ≤ n ∧ n ≤ 0x39 then some (n - 0x30 + 52)
  else if n = 0x2B then some 62
  else if n = 0x2F then some 63
  else none

def readSymbols (offset : Nat) (read : List Nat) : List UInt8 → Except Fault (List Nat)
  | [] => .ok read.reverse
  | byte :: rest =>
    match symbolValue? byte with
    | some value => readSymbols (offset + 1) (value :: read) rest
    | none => .error (.badSymbol offset byte)

/-- The values of the last group's symbols, in reverse, and the padding behind them. Padding stands
behind at least two of them, and nothing stands behind padding. -/
def readLastGroup (offset : Nat) (read : List Nat) (pads : Nat) :
    List UInt8 → Except Fault (List Nat × Nat)
  | [] => .ok (read, pads)
  | byte :: rest =>
    let here := offset + read.length
    if byte = pad then
      if read.length + pads < 2 then .error (.badSymbol here byte)
      else readLastGroup offset read (pads + 1) rest
    else if 0 < pads then .error (.badSymbol here pad)
    else
      match symbolValue? byte with
      | some value => readLastGroup offset (value :: read) pads rest
      | none => .error (.badSymbol here byte)

/-- How many values some last symbols leave over, all of them being powers of two. -/
def spare : Nat → Nat
  | 2 => 16
  | 3 => 4
  | _ => 1

def unpack : List Nat → List UInt8
  | a :: b :: c :: d :: rest =>
    (a * 4 + b / 16).toUInt8 :: (b % 16 * 16 + c / 4).toUInt8 :: (c % 4 * 64 + d).toUInt8 ::
      unpack rest
  | [a, b, c] => [(a * 4 + b / 16).toUInt8, (b % 16 * 16 + c / 4).toUInt8]
  | [a, b] => [(a * 4 + b / 16).toUInt8]
  | _ => []

/-- The length of the last group, which is cut short if others are full. -/
def lastLength (length : Nat) : Nat := if length % 4 = 0 then min length 4 else length % 4

def strayByte? (bytes : List UInt8) : Option UInt8 :=
  if bytes.length % 4 = 1 then
    bytes.getLast?.filter fun byte => byte ≠ pad && (symbolValue? byte).isNone
  else none

def decodeBytes (bytes : List UInt8) : Except Fault (List UInt8) := do
  if let some byte := strayByte? bytes then
    throw (.badSymbol (bytes.length - 1) byte)
  let offset := bytes.length - lastLength bytes.length
  let full ← readSymbols 0 [] (bytes.take offset)
  let (last, pads) ← readLastGroup offset [] 0 (bytes.drop offset)
  if !bytes.isEmpty && last.length < 2 then
    throw (.badLength (offset + last.length))
  if (last.length + pads) % 4 ≠ 0 then
    throw .badPadding
  let final := offset + last.length - 1
  if (last.headD 0) % spare last.length ≠ 0 then
    throw (.badLastSymbol final (bytes.getD final 0))
  return unpack (full ++ last.reverse)

def decode (text : String) : Except Fault (List UInt8) := decodeBytes text.toUTF8.toList

def symbol (value : Nat) : UInt8 :=
  if value < 26 then (0x41 + value).toUInt8
  else if value < 52 then (0x61 + (value - 26)).toUInt8
  else if value < 62 then (0x30 + (value - 52)).toUInt8
  else if value = 62 then 0x2B
  else 0x2F

def cut (a b c : UInt8) : List Nat :=
  [a.toNat / 4, a.toNat % 4 * 16 + b.toNat / 16, b.toNat % 16 * 4 + c.toNat / 64, c.toNat % 64]

def encodeBytes : List UInt8 → List UInt8
  | a :: b :: c :: rest => (cut a b c).map symbol ++ encodeBytes rest
  | [a, b] => ((cut a b 0).take 3).map symbol ++ [pad]
  | [a] => ((cut a 0 0).take 2).map symbol ++ [pad, pad]
  | [] => []

def encode (bytes : List UInt8) : String :=
  String.ofList ((encodeBytes bytes).map fun symbol => Char.ofNat symbol.toNat)

end ClusterSurvey.Base64
