import ClusterSurvey.Api.Http
import ClusterSurvey.Cluster.Basic
import ClusterSurvey.Json.Parser
import ClusterSurvey.Object.Json
import ClusterSurvey.Text.Blank
import ClusterSurvey.Text.Decimal
import ClusterSurvey.Text.Utf8

/-! The stream that a command runs over. Its frames carry what the command writes, and at last a
status that tells how it ended. -/
namespace ClusterSurvey

structure StatusCause where
  reason : Option String
  text : Option String
  deriving DecidableEq, Repr

structure ExecStatus where
  status : Option String
  reason : Option String
  text : Option String
  causes : Option (List StatusCause)
  deriving DecidableEq, Repr

namespace StatusCause

def ofJson? (j : Json) : Option StatusCause := do
  let _ ← j.obj?
  guard (j.hasTexts ["field"])
  return { reason := ← j.optional Json.str? "reason", text := ← j.optional Json.str? "message" }

end StatusCause

namespace ExecStatus

def success : String := "Success"

def nonZeroExit : String := "NonZeroExitCode"

def exitCodeCause : String := "ExitCode"

def causesOfJson? (j : Json) : Option (Option (List StatusCause)) := do
  let _ ← j.obj?
  guard (j.hasTexts ["group", "kind", "name", "uid"])
  let _ ← j.optional (Json.intWithin? 0x80000000) "retryAfterSeconds"
  j.optional (Json.listOf? StatusCause.ofJson?) "causes"

def ofJson? (j : Json) : Option ExecStatus := do
  let _ ← j.obj?
  guard (j.agrees "apiVersion" "v1" && j.agrees "kind" "Status")
  let _ ← j.optional (Json.intWithin? 0x80000000) "code"
  let _ ← j.optional Json.listMetadata? "metadata"
  return {
    status := ← j.optional Json.str? "status"
    reason := ← j.optional Json.str? "reason"
    text := ← j.optional Json.str? "message"
    causes := (← j.optional causesOfJson? "details").join }

def ofBytes? (bytes : List UInt8) : Option ExecStatus := (Json.ofBytes? bytes).bind ofJson?

def readCode (text : String) : Option Int32 :=
  (Text.signed 0x80000000 (Text.trim text.toList)).map Int32.ofInt

/-- The exit code that a status tells: that of the first cause which should hold one. -/
def exitCode? (s : ExecStatus) : Option Int32 :=
  if s.reason = some nonZeroExit then do
    let cause ← (← s.causes).find? fun c => c.reason = some exitCodeCause
    readCode (← cause.text)
  else none

/-- What a status means for the command. No status at all means that it ended well. -/
def judge : Option ExecStatus → Except CallError Unit
  | none => .ok ()
  | some s =>
    if s.status = some success then .ok ()
    else
      match s.exitCode? with
      | some code => .error (.exitCode code)
      | none => .error (.stream (s.text.getD "unknown exec failure"))

end ExecStatus

inductive ExecFrame where
  | binary (channel : Nat) (payload : List UInt8)
  | text
  deriving DecidableEq, Repr

structure ExecStream where
  frames : List ExecFrame
  /-- Whether the other side closes the stream at its end, and does not just vanish. -/
  isClosed : Bool
  deriving DecidableEq, Repr

def stdoutChannel : Nat := 1

def stderrChannel : Nat := 2

def statusChannel : Nat := 3

structure Heard where
  stdout : List UInt8
  stderr : List UInt8
  status : Option (List UInt8)
  deriving DecidableEq, Repr

/-- What some frames carry. Empty frames and other channels carry nothing, and nothing is heard
after the status. -/
def hear : List ExecFrame → Heard
  | [] => ⟨[], [], none⟩
  | .text :: rest => hear rest
  | .binary _ [] :: rest => hear rest
  | .binary channel payload :: rest =>
    if channel = statusChannel then ⟨[], [], some payload⟩
    else
      let heard := hear rest
      if channel = stdoutChannel then { heard with stdout := payload ++ heard.stdout }
      else if channel = stderrChannel then { heard with stderr := payload ++ heard.stderr }
      else heard

def brokenStream : String :=
  "failed to receive a WebSocket message: WebSocket protocol error: " ++
    "Connection reset without closing handshake"

def unreadableStatus : String := "failed to deserialize status object"

def ExecStream.outcome (s : ExecStream) : Except CallError ExecOutput := do
  let heard := hear s.frames
  let output : ExecOutput := ⟨Text.decodeUtf8 heard.stdout, Text.decodeUtf8 heard.stderr⟩
  match heard.status with
  | none => if s.isClosed then return output else throw (.stream brokenStream)
  | some bytes =>
    match ExecStatus.ofBytes? bytes with
    | none => throw (.stream unreadableStatus)
    | some status =>
      ExecStatus.judge (some status)
      return output

inductive ExecReply where
  | refused (status : Nat)
  | opened (stream : ExecStream)
  deriving DecidableEq, Repr

end ClusterSurvey
