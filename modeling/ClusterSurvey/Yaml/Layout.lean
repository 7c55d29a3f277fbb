import ClusterSurvey.Yaml.Token

/-! The tokens of a text, with those that follow from its layout: a block collection begins where
the indent grows and ends where it shrinks. Whether something is a key is known only when a colon
follows on the same line, so the marks of a key are put before what has been read since. -/
namespace ClusterSurvey.Yaml

structure PossibleKey where
  index : Nat
  line : Nat
  column : Nat
  position : Nat
  isRequired : Bool
  deriving DecidableEq, Repr

/-- How much of a text has been read, and what that means for the rest. -/
structure Layout where
  cursor : Cursor
  tokens : List Token
  count : Nat
  /-- The columns where the open block collections begin, the innermost first. -/
  indents : List Nat
  keyAllowed : Bool
  /-- The possible key of the innermost flow collection, or else of the block around. -/
  key : Option PossibleKey
  /-- The possible keys of what lies around the innermost flow collection. -/
  outer : List (Option PossibleKey)

namespace Layout

def keyLimit : Nat := 1024

def start (text : List Char) : Layout := ⟨⟨text, 0, 0, 0⟩, [], 0, [], true, none, []⟩

def inFlow (l : Layout) : Bool := !l.outer.isEmpty

def isBefore (l : Layout) (column : Nat) : Bool := l.indents.head?.all (· < column)

def emit (l : Layout) (t : Token) : Layout :=
  { l with tokens := t :: l.tokens, count := l.count + 1 }

def insert (l : Layout) (position : Nat) (t : Token) : Layout :=
  let behind := l.count - position
  { l with
    tokens := l.tokens.take behind ++ t :: l.tokens.drop behind
    count := l.count + 1 }

def emitTo (l : Layout) (t : Token) (rest : List Char) : Layout :=
  { l.emit t with cursor := l.cursor.moveTo rest }

def emitMark (l : Layout) (t : Token) (length : Nat) : Layout :=
  { l.emit t with cursor := l.cursor.skip length }

/-- Behind blanks, comments and line breaks. A tab may not stand where a block could begin. -/
def passGap (fuel : Nat) (l : Layout) : Layout :=
  match fuel with
  | 0 => l
  | fuel + 1 =>
    let cs :=
      match l.cursor.rest with
      | c :: rest => if l.cursor.index = 0 && c = byteOrderMark then rest else c :: rest
      | [] => []
    let tabsPass := l.inFlow || !l.keyAllowed
    let cs := skipComment (cs.dropWhile fun c => c = ' ' || (tabsPass && c = '\t'))
    match takeBreak? cs with
    | some (_, rest) =>
      passGap fuel
        { l with cursor := l.cursor.moveTo rest, keyAllowed := l.keyAllowed || !l.inFlow }
    | none => { l with cursor := l.cursor.moveTo cs }

/-- A possible key as it is seen from a later place, where it may be too far away. -/
def seenFrom (cursor : Cursor) : Option PossibleKey → Option (Option PossibleKey)
  | none => some none
  | some k =>
    if k.line < cursor.line || k.index + keyLimit < cursor.index then
      if k.isRequired then none else some none
    else some (some k)

def dropFarKeys (l : Layout) : Option Layout := do
  return { l with
    key := ← seenFrom l.cursor l.key
    outer := ← l.outer.mapM (seenFrom l.cursor) }

/-- There is no key, unless there has to be one. -/
def forgetKey (l : Layout) : Option Layout :=
  if l.key.any (·.isRequired) then none else some { l with key := none }

/-- What begins here is a possible key, if a key may begin here. -/
def saveKey (l : Layout) : Option Layout :=
  if l.keyAllowed then
    (l.forgetKey).map fun l =>
      { l with
        key := some {
          index := l.cursor.index
          line := l.cursor.line
          column := l.cursor.column
          position := l.count
          isRequired := !l.inFlow && l.indents.head? = some l.cursor.column } }
  else some l

/-- Ends the block collections that begin behind a column. -/
def closeBlocks (l : Layout) (column : Nat) : Layout :=
  if l.inFlow then l
  else
    let kept := l.indents.dropWhile (column < ·)
    let closed := l.indents.length - kept.length
    { l with
      tokens := List.replicate closed .blockEnd ++ l.tokens
      count := l.count + closed
      indents := kept }

def closeAllBlocks (l : Layout) : Layout :=
  if l.inFlow then l
  else
    { l with
      tokens := List.replicate l.indents.length .blockEnd ++ l.tokens
      count := l.count + l.indents.length
      indents := [] }

def openBlock (l : Layout) (t : Token) (column position : Nat) : Layout :=
  if !l.inFlow && l.isBefore column then
    { l.insert position t with indents := column :: l.indents }
  else l

def openBlockHere (l : Layout) (t : Token) : Option Layout :=
  if l.inFlow then some l
  else if l.keyAllowed then some (l.openBlock t l.cursor.column l.count)
  else none

def allowKey (l : Layout) (isAllowed : Bool) : Layout := { l with keyAllowed := isAllowed }

def leaveDocument (l : Layout) : Option Layout :=
  (l.closeAllBlocks.forgetKey).map (·.allowKey false)

def readDirective (l : Layout) (rest : List Char) : Option Layout := do
  let (token, rest) ← Token.readDirective? rest
  return (← l.leaveDocument).emitTo token rest

def readBoundary (l : Layout) (t : Token) : Option Layout :=
  (l.leaveDocument).map (·.emitMark t 3)

def openFlow (l : Layout) (t : Token) : Option Layout :=
  (l.saveKey).map fun l =>
    { (l.allowKey true).emitMark t 1 with key := none, outer := l.key :: l.outer }

def closeFlow (l : Layout) (t : Token) : Option Layout :=
  (l.forgetKey).map fun l =>
    let l := (l.allowKey false).emitMark t 1
    match l.outer with
    | key :: outer => { l with key, outer }
    | [] => l

def readComma (l : Layout) : Option Layout :=
  (l.forgetKey).map fun l => (l.allowKey true).emitMark .comma 1

def readItem (l : Layout) : Option Layout := do
  let l ← (← l.openBlockHere .blockSeqStart).forgetKey
  return (l.allowKey true).emitMark .item 1

def readKey (l : Layout) : Option Layout := do
  let l ← (← l.openBlockHere .blockMapStart).forgetKey
  return (l.allowKey !l.inFlow).emitMark .key 1

def readValue (l : Layout) : Option Layout :=
  match l.key with
  | some k =>
    let l := (l.insert k.position .key).openBlock .blockMapStart k.column k.position
    some ({ l.allowKey false with key := none }.emitMark .value 1)
  | none =>
    (l.openBlockHere .blockMapStart).map fun l => (l.allowKey !l.inFlow).emitMark .value 1

def readContent (l : Layout) (read : Option (Token × List Char)) : Option Layout := do
  let l ← l.saveKey
  let (token, rest) ← read
  return (l.allowKey false).emitTo token rest

def readTag (l : Layout) (rest : List Char) : Option Layout :=
  l.readContent do
    let (tag, rest) ← Token.readTag? rest
    guard (atGap rest || (l.inFlow && rest.head? = some ','))
    return (.tag tag, rest)

def readBlockScalar (l : Layout) (isFolded : Bool) (rest : List Char) : Option Layout := do
  let l ← l.forgetKey
  let (text, rest) ← readBlock isFolded l.indents.head? rest
  return (l.allowKey true).emitTo (.scalar text false) rest

def readQuotedScalar (l : Layout) (quote : Char) (rest : List Char) : Option Layout :=
  l.readContent ((readQuoted (rest.length + 1) quote false [] .none rest).map
    fun (text, rest) => (.scalar text false, rest))

def readPlainScalar (l : Layout) : Option Layout := do
  let l ← l.saveKey
  let indent := l.indents.head?.elim 0 (· + 1)
  let (text, lineEnds, rest) ← readPlain l.inFlow indent l.cursor.column [] .none l.cursor.rest
  return (l.allowKey lineEnds).emitTo (.scalar text true) rest

def indicators : List Char := "-?:,[]\x7b\x7d#&*!|>'\"%@\x60".toList

/-- Whether a plain scalar begins with a character before some rest. -/
def beginsPlain (l : Layout) (c : Char) (rest : List Char) : Bool :=
  if c = '-' then !rest.head?.any isBlank
  else if c = '?' || c = ':' then !l.inFlow && !atGap rest
  else !isBlank c && !isBreak c && !indicators.contains c

def readToken (l : Layout) : Option Layout :=
  let cs := l.cursor.rest
  let atLineStart := l.cursor.column = 0
  if atLineStart && startsWithMarks '-' cs then l.readBoundary .documentStart
  else if atLineStart && startsWithMarks '.' cs then l.readBoundary .documentEnd
  else
    match cs with
    | [] => none
    | c :: rest =>
      let standsApart := l.inFlow || atGap rest
      if atLineStart && c = '%' then l.readDirective rest
      else if c = '[' then l.openFlow .flowSeqStart
      else if c = '\x7b' then l.openFlow .flowMapStart
      else if c = ']' then l.closeFlow .flowSeqEnd
      else if c = '\x7d' then l.closeFlow .flowMapEnd
      else if c = ',' then l.readComma
      else if c = '-' && atGap rest then l.readItem
      else if c = '?' && standsApart then l.readKey
      else if c = ':' && standsApart then l.readValue
      else if c = '*' then
        l.readContent ((Token.readAnchor? rest).map fun (name, rest) => (.alias name, rest))
      else if c = '&' then
        l.readContent ((Token.readAnchor? rest).map fun (name, rest) => (.anchor name, rest))
      else if c = '!' then l.readTag rest
      else if (c = '|' || c = '>') && !l.inFlow then l.readBlockScalar (c = '>') rest
      else if c = '\'' || c = '"' then l.readQuotedScalar c rest
      else if l.beginsPlain c rest then l.readPlainScalar
      else none

/-- The tokens from here to the end of the text. Each but those that follow from the layout takes
a character, which `fuel` bounds. -/
def readTokens (fuel : Nat) (l : Layout) : Option (List Token) :=
  match fuel with
  | 0 => none
  | fuel + 1 => do
    let l ← (l.passGap (fuel + 1)).dropFarKeys
    if l.cursor.rest.isEmpty then
      return (← l.leaveDocument).tokens.reverse
    else readTokens fuel (← (l.closeBlocks l.cursor.column).readToken)

end Layout

def tokens? (text : List Char) : Option (List Token) :=
  if text.all isAllowed then (Layout.start text).readTokens (text.length + 1) else none

end ClusterSurvey.Yaml
