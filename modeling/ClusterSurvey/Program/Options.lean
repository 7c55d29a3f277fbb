import ClusterSurvey.Text.Split

/-! The options of the program, read off its arguments. A value that follows its option as an
argument of its own is judged when the next option or the end is reached, so of two mistakes an
argument that nothing can be made of comes before a bad value. -/
namespace ClusterSurvey

inductive OutputFormat where
  | summary
  | json
  deriving DecidableEq, Repr

namespace OutputFormat

def name : OutputFormat → String
  | summary => "summary"
  | json => "json"

def ofName? (name : String) : Option OutputFormat := [summary, json].find? fun f => f.name = name

end OutputFormat

structure Options where
  context : Option String
  config : Option String
  output : OutputFormat
  tolerateFailures : Bool
  verbose : Bool
  deriving DecidableEq, Repr

inductive Switch where
  | tolerateFailures
  | verbose
  | help
  | version
  deriving DecidableEq, Repr

inductive Setting where
  | config
  | output
  deriving DecidableEq, Repr

inductive OptionKind where
  | switch (s : Switch)
  | setting (s : Setting)
  deriving DecidableEq, Repr

namespace OptionKind

def long (name : String) : Option OptionKind :=
  match name with
  | "config" => some (.setting .config)
  | "output" => some (.setting .output)
  | "tolerate-component-failures" => some (.switch .tolerateFailures)
  | "verbose" => some (.switch .verbose)
  | "help" => some (.switch .help)
  | "version" => some (.switch .version)
  | _ => none

def short (c : Char) : Option OptionKind :=
  match c with
  | 'c' => some (.setting .config)
  | 'o' => some (.setting .output)
  | 'v' => some (.switch .verbose)
  | 'h' => some (.switch .help)
  | 'V' => some (.switch .version)
  | _ => none

end OptionKind

inductive UsageError where
  | help
  | version
  | unknownArgument
  | invalidValue
  | unneededValue
  | repeated
  deriving DecidableEq, Repr

structure Draft where
  context : Option String
  config : Option String
  output : Option OutputFormat
  tolerateFailures : Bool
  verbose : Bool
  /-- The option that was read last and not judged yet, with its value if that has come. -/
  pending : Option (Setting × Option String)
  trailing : Bool
  deriving DecidableEq, Repr

namespace Draft

def start : Draft := ⟨none, none, none, false, false, none, false⟩

def assign (d : Draft) (s : Setting) (value : String) : Except UsageError Draft :=
  match s with
  | .config =>
    if d.config.isSome then .error .repeated
    else if value.isEmpty then .error .invalidValue
    else .ok { d with config := some value }
  | .output =>
    if d.output.isSome then .error .repeated
    else
      match OutputFormat.ofName? value with
      | some format => .ok { d with output := some format }
      | none => .error .invalidValue

def settle (d : Draft) : Except UsageError Draft :=
  match d.pending with
  | none => .ok d
  | some (_, none) => .error .invalidValue
  | some (s, some value) => { d with pending := none }.assign s value

/-- Switches something on. -/
def raise (d : Draft) (s : Switch) : Except UsageError Draft := do
  let d ← d.settle
  match s with
  | .help => throw .help
  | .version => throw .version
  | .verbose => if d.verbose then throw .repeated else return { d with verbose := true }
  | .tolerateFailures =>
    if d.tolerateFailures then throw .repeated else return { d with tolerateFailures := true }

def give (d : Draft) (s : Setting) (value : Option String) : Except UsageError Draft := do
  let d ← d.settle
  match value with
  | some value => d.assign s value
  | none => return { d with pending := some (s, none) }

def place (d : Draft) (word : String) : Except UsageError Draft := do
  if d.context.isSome then throw .unknownArgument
  return { ← d.settle with context := some word }

def readLong (d : Draft) (cs : List Char) : Except UsageError Draft :=
  let (name, value) :=
    match Text.splitOnce '=' cs with
    | some (name, value) => (name, some (String.ofList value))
    | none => (cs, none)
  match OptionKind.long (String.ofList name), value with
  | none, _ => .error .unknownArgument
  | some (.setting s), value => d.give s value
  | some (.switch _), some _ => .error .unneededValue
  | some (.switch s), none => d.raise s

def attached : List Char → Option String
  | [] => none
  | '=' :: rest => some (String.ofList rest)
  | cs => some (String.ofList cs)

def readShort (d : Draft) : List Char → Except UsageError Draft
  | [] => .ok d
  | c :: rest =>
    match OptionKind.short c with
    | none => .error .unknownArgument
    | some (.setting s) => d.give s (attached rest)
    | some (.switch s) => do readShort (← d.raise s) rest

def readPlain (d : Draft) (word : String) : Except UsageError Draft :=
  match d.pending with
  | some (s, none) => .ok { d with pending := some (s, some word) }
  | _ => d.place word

def read (d : Draft) (word : String) : Except UsageError Draft :=
  if d.trailing then d.place word
  else
    match word.toList with
    | ['-', '-'] => .ok { d with trailing := true }
    | '-' :: '-' :: rest => d.readLong rest
    | '-' :: c :: rest => d.readShort (c :: rest)
    | _ => d.readPlain word

end Draft

def Options.ofArguments (args : List String) : Except UsageError Options := do
  let d ← (← args.foldlM Draft.read .start).settle
  return {
    context := d.context
    config := d.config
    output := d.output.getD .summary
    tolerateFailures := d.tolerateFailures
    verbose := d.verbose }

end ClusterSurvey
