import ClusterSurvey.Text.Reader

/-! The four kinds of strings of a TOML document: with or without escapes, on one line or over
several. Controls other than the tab are refused in all of them. -/
namespace ClusterSurvey.Toml

open Text

def isInlineBlank (c : Char) : Bool := c = ' ' || c = '\t'

def skipInline (cs : List Char) : List Char := cs.dropWhile isInlineBlank

def afterBreak? : List Char → Option (List Char)
  | '\n' :: rest => some rest
  | '\r' :: '\n' :: rest => some rest
  | _ => none

def isTextChar (c : Char) : Bool := c = '\t' || (0x20 ≤ c.toNat && c.toNat ≠ 0x7F)

def shortEscape (c : Char) : Option Char :=
  if c = '"' ∨ c = '\\' then some c
  else if c = 'b' then some '\x08'
  else if c = 't' then some '\t'
  else if c = 'n' then some '\n'
  else if c = 'f' then some '\x0c'
  else if c = 'r' then some '\r'
  else none

def codePoint (digits : List Char) : Option Char := (hexValue digits).bind scalar

def readBasic (read : List Char) : Reader String
  | '"' :: rest => some (String.ofList read.reverse, rest)
  | '\\' :: 'u' :: a :: b :: c :: d :: rest =>
    match codePoint [a, b, c, d] with
    | some x => readBasic (x :: read) rest
    | none => none
  | '\\' :: 'U' :: a :: b :: c :: d :: e :: f :: g :: h :: rest =>
    match codePoint [a, b, c, d, e, f, g, h] with
    | some x => readBasic (x :: read) rest
    | none => none
  | '\\' :: c :: rest =>
    match shortEscape c with
    | some x => readBasic (x :: read) rest
    | none => none
  | c :: rest => if isTextChar c then readBasic (c :: read) rest else none
  | [] => none

def breaksLine (cs : List Char) : Bool := (afterBreak? (skipInline cs)).isSome

/-- The rest of a string with escapes over several lines. Behind a backslash that ends a line,
blanks and line breaks are passed over. Up to two quotes may touch the closing ones. -/
def readLongBasic (read : List Char) (joining : Bool) : Reader String
  | '"' :: '"' :: '"' :: '"' :: '"' :: rest =>
    some (String.ofList ('"' :: '"' :: read).reverse, rest)
  | '"' :: '"' :: '"' :: '"' :: rest => some (String.ofList ('"' :: read).reverse, rest)
  | '"' :: '"' :: '"' :: rest => some (String.ofList read.reverse, rest)
  | '\n' :: rest =>
    if joining then readLongBasic read true rest else readLongBasic ('\n' :: read) false rest
  | '\r' :: '\n' :: rest =>
    if joining then readLongBasic read true rest else readLongBasic ('\n' :: read) false rest
  | '\\' :: 'u' :: a :: b :: c :: d :: rest =>
    match codePoint [a, b, c, d] with
    | some x => readLongBasic (x :: read) false rest
    | none => none
  | '\\' :: 'U' :: a :: b :: c :: d :: e :: f :: g :: h :: rest =>
    match codePoint [a, b, c, d, e, f, g, h] with
    | some x => readLongBasic (x :: read) false rest
    | none => none
  | '\\' :: c :: rest =>
    match shortEscape c with
    | some x => readLongBasic (x :: read) false rest
    | none => if breaksLine (c :: rest) then readLongBasic read true rest else none
  | c :: rest =>
    if joining && isInlineBlank c then readLongBasic read true rest
    else if isTextChar c then readLongBasic (c :: read) false rest
    else none
  | [] => none

def readLiteral (read : List Char) : Reader String
  | '\'' :: rest => some (String.ofList read.reverse, rest)
  | c :: rest => if isTextChar c then readLiteral (c :: read) rest else none
  | [] => none

def readLongLiteral (read : List Char) : Reader String
  | '\'' :: '\'' :: '\'' :: '\'' :: '\'' :: rest =>
    some (String.ofList ('\'' :: '\'' :: read).reverse, rest)
  | '\'' :: '\'' :: '\'' :: '\'' :: rest => some (String.ofList ('\'' :: read).reverse, rest)
  | '\'' :: '\'' :: '\'' :: rest => some (String.ofList read.reverse, rest)
  | '\n' :: rest => readLongLiteral ('\n' :: read) rest
  | '\r' :: '\n' :: rest => readLongLiteral ('\n' :: read) rest
  | c :: rest => if isTextChar c then readLongLiteral (c :: read) rest else none
  | [] => none

/-- The text without a line break in front, which a string over several lines drops. -/
def dropBreak (cs : List Char) : List Char := (afterBreak? cs).getD cs

def readString : Reader String
  | '"' :: '"' :: '"' :: rest => readLongBasic [] false (dropBreak rest)
  | '\'' :: '\'' :: '\'' :: rest => readLongLiteral [] (dropBreak rest)
  | '"' :: rest => readBasic [] rest
  | '\'' :: rest => readLiteral [] rest
  | _ => none

end ClusterSurvey.Toml
