import ClusterSurvey.Api.Request
import ClusterSurvey.Api.Response

/-! What the client library says of its errors. The library is not part of this one: a connection
brings along how its client words them. -/
namespace ClusterSurvey

structure ClientWording where
  refused : ErrorResponse → LibraryError
  unreadable : Response → LibraryError
  /-- A request was not turned into a stream, but answered with an HTTP status. -/
  notUpgraded : Nat → LibraryError
  notAsked : RequestFault → LibraryError
  unreachable : LibraryError

namespace ErrorResponse

def summary (e : ErrorResponse) : String := e.text ++ ": " ++ e.reason

def listing (e : ErrorResponse) : String :=
  "ErrorResponse \x7b status: " ++ Text.quoted e.status ++ ", message: " ++ Text.quoted e.text ++
    ", reason: " ++ Text.quoted e.reason ++ ", code: " ++ Nat.repr e.code ++ " \x7d"

end ErrorResponse

namespace ClientWording

/-- The usual wording, on a machine without a network. -/
def usual : ClientWording where
  refused e := ⟨"ApiError: " ++ e.summary ++ " (" ++ e.listing ++ ")", [e.summary]⟩
  unreadable _ := ⟨"Error deserializing response: unexpected content", ["unexpected content"]⟩
  notUpgraded status :=
    ⟨"failed to upgrade to a WebSocket connection: failed to switch protocol: " ++ statusText status,
      ["failed to switch protocol: " ++ statusText status]⟩
  notAsked fault := ⟨"Failed to build request: " ++ fault.message, fault.message :: fault.sources⟩
  unreachable := ⟨"ServiceError: client error (Connect)", ["client error (Connect)",
    "tcp connect error", "Network is unreachable (os error 101)"]⟩

end ClientWording

end ClusterSurvey
