/-! The characters of a YAML text and places in it. -/
namespace ClusterSurvey.Yaml

/-- The characters that a text may hold. -/
def isAllowed (c : Char) : Bool :=
  let n := c.toNat
  c = '\t' || c = '\n' || c = '\r' || (0x20 ≤ n && n ≤ 0x7E) || n = 0x85 ||
    (0xA0 ≤ n && n ≤ 0xFFFD) || 0x10000 ≤ n

def byteOrderMark : Char := '\ufeff'

def isBreak (c : Char) : Bool :=
  c = '\n' || c = '\r' || c = '\x85' || c = '\u2028' || c = '\u2029'

def isBlank (c : Char) : Bool := c = ' ' || c = '\t'

def isNameChar (c : Char) : Bool := c.isAlphanum || c = '_' || c = '-'

def atGap : List Char → Bool
  | [] => true
  | c :: _ => isBlank c || isBreak c

def takeBreak? : List Char → Option (Char × List Char)
  | '\r' :: '\n' :: rest => some ('\n', rest)
  | c :: rest =>
    if c = '\n' || c = '\r' || c = '\x85' then some ('\n', rest)
    else if c = '\u2028' || c = '\u2029' then some (c, rest)
    else none
  | [] => none

/-- The text without the rest of its first line; the line break is kept. -/
def skipComment (cs : List Char) : List Char :=
  match cs with
  | '#' :: rest => rest.dropWhile fun c => !isBreak c
  | _ => cs

def endLine? (cs : List Char) : Option (List Char) :=
  let rest := skipComment (cs.dropWhile isBlank)
  match takeBreak? rest with
  | some (_, rest) => some rest
  | none => if rest.isEmpty then some [] else none

/-- Whether a text begins with three marks that stand by themselves. -/
def startsWithMarks (mark : Char) : List Char → Bool
  | a :: b :: c :: rest => a = mark && b = mark && c = mark && atGap rest
  | _ => false

def atBoundary (cs : List Char) : Bool := startsWithMarks '-' cs || startsWithMarks '.' cs

structure Cursor where
  rest : List Char
  index : Nat
  line : Nat
  column : Nat

namespace Cursor

/-- The place behind one more character. A carriage return counts as a line break only if no line
feed follows. -/
def step (c : Cursor) (passed : Char) (rest : List Char) : Cursor :=
  if isBreak passed && !(passed = '\r' && rest.head? = some '\n') then
    ⟨rest, c.index + 1, c.line + 1, 0⟩
  else ⟨rest, c.index + 1, c.line, c.column + 1⟩

def skip : Nat → Cursor → Cursor
  | 0, c => c
  | n + 1, c =>
    match c.rest with
    | [] => c
    | passed :: rest => skip n (c.step passed rest)

def moveTo (c : Cursor) (rest : List Char) : Cursor := skip (c.rest.length - rest.length) c

end Cursor

end ClusterSurvey.Yaml
