import Courier.Client
import Courier.Http.Target
/-!
# Client - requests over HTTP, answered by a list

Each request takes the next answer of the list, and then status 200.  An answer that comes at the moment at
which the time of the attempt is up still counts.
-/
namespace Courier
namespace Http

/-- What comes back for a request. -/
inductive Reply
  | status (code : Nat) (headers : Header.Table)
  | error (reason : String)
  /-- Nothing comes back. -/
  | hang
deriving Inhabited

/-- The client: its target, what its requests will be answered, and what it sent. -/
structure State where
  target : Target
  replies : List (Duration × Reply) := []
  /-- The requests, the last one first. -/
  sent : List Request := []
  shut : Bool := false

def timedOut : String := "request timed out"

def calledOff : String := "export cancelled"

/-- The response to a request that was answered, or not. -/
def Reply.response (r : Reply) (deadline : Timestamp) : HttpResponse :=
  match r with
  | .status code headers => .received deadline code headers
  | .error reason => .failed deadline reason
  | .hang => .failed deadline timedOut

/-- When a reply comes, if ever. -/
def Reply.arrival (r : Reply) (clock : Clock) (start : Moment) (delay : Duration) : Option Moment :=
  match r with
  | .hang => none
  | _ => some (clock.sleep start delay)

/-- The end of an attempt that is not called off, and its response. -/
def Reply.outcome (r : Reply) (clock : Clock) (call : Call) (delay limit : Duration) : Moment × HttpResponse :=
  let up := clock.sleep call.start limit
  match r.arrival clock call.start delay with
  | some m => if m ≤ up then (m, r.response call.deadline) else (up, .failed call.deadline timedOut)
  | none => (up, .failed call.deadline timedOut)

/-- The next reply with its delay, and the replies after it. -/
def State.take (s : State) : (Duration × Reply) × List (Duration × Reply) :=
  match s.replies with
  | r :: rest => (r, rest)
  | [] => ((.zero, .status 200 []), [])

def attempt (clock : Clock) (s : State) (call : Call) : Attempt State :=
  if s.shut then { finish := some call.start, reply := .error .alreadyShutdown, next := s }
  else
    let ((delay, reply), replies) := s.take
    let next := { s with replies, sent := s.target.request call.body :: s.sent }
    let (finish, response) := reply.outcome clock call delay (call.allowance clock s.target.timeout)
    match call.cut with
    | some cut =>
      if cut < finish then
        { finish := some cut, reply := .ok (.http (.failed call.deadline calledOff)), calledOff := true, next }
      else { finish := some finish, reply := .ok (.http response), next }
    | none => { finish := some finish, reply := .ok (.http response), next }

def shutdown (s : State) : Result × State :=
  if s.shut then (.error .alreadyShutdown, s) else (.ok (), { s with shut := true })

def client : Client State := { attempt, shutdown }

end Http
end Courier
