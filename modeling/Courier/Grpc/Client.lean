import Courier.Client
import Courier.Grpc.Target
import Courier.Text.Base64
/-!
# Client - remote calls, answered by a list

Each call takes the next answer of the list, and then is accepted.  An answer counts only if it comes before
the time of the attempt is up; without any time no call is made.  The first connections may be refused.
-/
namespace Courier
namespace Grpc

/-- What comes back for a call. -/
inductive Reply
  | status (status : Status)
  /-- Nothing comes back. -/
  | hang
deriving Inhabited

/-- The client: its target, what its calls will be answered, and what it sent. -/
structure State where
  target : Target
  replies : List (Duration × Reply) := []
  /-- How many connections are still to be refused. -/
  refusals : Nat := 0
  /-- The calls, the last one first. -/
  sent : List Request := []
  shut : Bool := false

def timedOut : Status := { code := .deadlineExceeded, message := "export timed out" }

def calledOff : Status := { code := .cancelled, message := "export cancelled" }

def refused : Status := { code := .unavailable, message := "refused" }

/-- The status of a call that was answered by nothing but a status.  To be accepted takes a message too. -/
def bare (status : Status) : Status :=
  if status.code = .ok then { code := .internal, message := "Missing response message." } else status

/-- The details of a status among the lines after a message. -/
def detailsIn (trailers : Header.Table) : List UInt8 :=
  ((trailers.get? "grpc-status-details-bin").bind fun value => Base64.decode? value.data.toList).getD []

/-- The response to a call that ended with a status: the code `ok` is no failure. -/
def ended (deadline : Timestamp) (status : Status) : Response :=
  .grpc (if status.code = .ok then .accepted deadline else .ended deadline status)

/-- The end of an attempt that is not called off, and its response. -/
def Reply.outcome (r : Reply) (clock : Clock) (call : Call) (delay limit : Duration) : Moment × Response :=
  let up := clock.sleep call.start limit
  let late := (up, ended call.deadline timedOut)
  match r with
  | .hang => late
  | .status final =>
    let m := clock.sleep call.start delay
    if m < up then (m, ended call.deadline final) else late

/-- The next reply with its delay, and the replies after it. -/
def State.take (s : State) : (Duration × Reply) × List (Duration × Reply) :=
  match s.replies with
  | r :: rest => (r, rest)
  | [] => ((.zero, .status { code := .ok }), [])

def callThrough (clock : Clock) (s : State) (call : Call) (limit : Duration) : Attempt State :=
  let ((delay, reply), replies) := s.take
  let next := { s with replies, sent := s.target.request call.body :: s.sent }
  let (finish, response) := reply.outcome clock call delay limit
  match call.cut with
  | some cut =>
    if cut < finish then
      { finish := some cut, reply := .ok (ended call.deadline calledOff), calledOff := true, next }
    else { finish := some finish, reply := .ok response, next }
  | none => { finish := some finish, reply := .ok response, next }

def attempt (clock : Clock) (s : State) (call : Call) : Attempt State :=
  let limit := call.allowance clock s.target.timeout
  if s.shut then { finish := some call.start, reply := .error .alreadyShutdown, next := s }
  else if limit.nanos = 0 then
    { finish := some call.start, reply := .ok (ended call.deadline timedOut), next := s }
  else if s.refusals ≠ 0 then
    { finish := some call.start, reply := .ok (ended call.deadline refused),
      next := { s with refusals := s.refusals - 1 } }
  else callThrough clock s call limit

def shutdown (s : State) : Result × State :=
  if s.shut then (.error .alreadyShutdown, s) else (.ok (), { s with shut := true })

def client : Client State := { attempt, shutdown }

end Grpc
end Courier
