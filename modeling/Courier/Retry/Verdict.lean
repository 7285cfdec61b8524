import Courier.Calendar.HttpDate
import Courier.Response
import Courier.Text.Number
/-!
# Verdict - whether a failed attempt may succeed when it is made again

A failure may be permanent, passing, or one for which the server asked for a delay.  A server asks by a
`Retry-After` header with status 429 or 503, or by the details of the codes resource-exhausted and
unavailable; a resource that is exhausted without such a hint stays so.
-/
namespace Courier

/-- What to make of a failed attempt. -/
inductive Verdict
  /-- It will fail again. -/
  | permanent
  /-- It may succeed later. -/
  | passing
  /-- The server asked for a delay. -/
  | throttled (delay : Duration)
deriving Repr, DecidableEq, Inhabited

namespace Verdict

/-- The HTTP status codes of passing failures. -/
def isPassingStatus (status : Nat) : Bool :=
  [408, 429, 502, 503, 504].contains status

/-- The HTTP status codes that a delay may come with. -/
def mayThrottle (status : Nat) : Bool :=
  [429, 503].contains status

/-- The delay that a text asks for: a number of seconds, or the time until an instant. -/
def delayOfText? (now : Timestamp) (s : List Char) : Option Duration :=
  match Text.word? s with
  | some n => some (.ofSeconds n.toNat)
  | none => (HttpDate.read? s).map fun t => t.since now

/-- The delay in the first `Retry-After` header. -/
def retryAfter? (headers : Header.Table) (now : Timestamp) : Option Duration :=
  ((headers.get? "retry-after").bind Header.text?).bind fun s => delayOfText? now (Text.trim s.toList)

/-- What to make of an HTTP status code, or of none, and headers. -/
def ofHttp (status : Option Nat) (headers : Header.Table) (now : Timestamp) : Verdict :=
  match status with
  | none => .passing
  | some s =>
    if !isPassingStatus s then .permanent
    else if mayThrottle s then
      match retryAfter? headers now with
      | some delay => .throttled delay
      | none => .passing
    else .passing

/-- The codes of passing failures. -/
def isPassingCode : StatusCode → Bool
  | .cancelled | .deadlineExceeded | .aborted | .outOfRange | .unavailable | .dataLoss => true
  | _ => false

/-- The delay that a status asks for. -/
def delayOfStatus? (s : Status) : Option Duration :=
  match s.code with
  | .resourceExhausted | .unavailable => RetryInfo.delayIn s.details
  | _ => none

/-- What to make of a status. -/
def ofStatus (s : Status) : Verdict :=
  match delayOfStatus? s with
  | some delay => .throttled delay
  | none => if isPassingCode s.code then .passing else .permanent

end Verdict
end Courier
