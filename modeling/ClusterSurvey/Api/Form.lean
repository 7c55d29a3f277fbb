import ClusterSurvey.Text.Reader
import ClusterSurvey.Text.Split
import ClusterSurvey.Text.Utf8

/-! The parameters of a request as text: names and values joined by `=`, and each pair behind an
ampersand. Bytes that could be taken for something else are escaped. -/
namespace ClusterSurvey.Form

open Text (hexDigit pieces splitOnce)

def isPlain (b : UInt8) : Bool :=
  let c := Char.ofNat b.toNat
  c.isAlphanum || c = '*' || c = '-' || c = '.' || c = '_'

def escapeDigit (n : Nat) : Char := (Nat.digitChar n).toUpper

def escape (b : UInt8) : List Char :=
  if isPlain b then [Char.ofNat b.toNat]
  else if b = 0x20 then ['+']
  else ['%', escapeDigit (b.toNat / 16), escapeDigit (b.toNat % 16)]

def encodeText (s : String) : List Char := s.toUTF8.toList.flatMap escape

def encode (pairs : List (String × String)) : List Char :=
  pairs.flatMap fun p => '&' :: encodeText p.1 ++ '=' :: encodeText p.2

/-- The bytes that an escaped text stands for. A percent sign without two digits is itself. -/
def unescape : List Char → List UInt8
  | [] => []
  | '+' :: rest => 0x20 :: unescape rest
  | '%' :: a :: b :: rest =>
    match hexDigit a, hexDigit b with
    | some m, some n => UInt8.ofNat (m * 16 + n) :: unescape rest
    | _, _ => 0x25 :: unescape (a :: b :: rest)
  | c :: rest => Text.encodeChar c ++ unescape rest

def decodeText (cs : List Char) : String := Text.decodeUtf8 (unescape cs)

def decodePair (cs : List Char) : String × String :=
  match splitOnce '=' cs with
  | some (name, value) => (decodeText name, decodeText value)
  | none => (decodeText cs, "")

/-- The pairs that a text holds; where nothing stands between ampersands there is none. -/
def decode (cs : List Char) : List (String × String) :=
  ((pieces '&' cs).filter fun piece => !piece.isEmpty).map decodePair

end ClusterSurvey.Form
