import Courier.Client
/-!
# Scripted - a client that answers by a list

Each attempt takes the next answer of the list, then the one that repeats, and then is accepted.  An answer
comes after a delay; it may wait for the attempt to be called off, and may call off the transmission itself.
-/
namespace Courier
namespace Scripted

structure Answer where
  delay : Duration := .zero
  /-- It comes only once the attempt is called off. -/
  hangs : Bool := false
  /-- It calls off the transmission. -/
  cancels : Bool := false
  /-- The answer, by the deadline of the attempt. -/
  reply : Timestamp → Except Failure Response

def Answer.accepted : Answer :=
  { reply := fun deadline => .ok (.grpc (.accepted deadline)) }

/-- The client: what is left of its list, and what it was asked. -/
structure State where
  answers : List Answer := []
  repeated : Option Answer := none
  onShutdown : Result := .ok ()
  /-- The bodies of all attempts, the last one first. -/
  bodies : List ByteArray := []
  /-- How often it was shut down. -/
  shutdowns : Nat := 0

/-- The next answer, and the answers after it. -/
def State.take (s : State) : Answer × List Answer :=
  match s.answers with
  | a :: rest => (a, rest)
  | [] => (s.repeated.getD .accepted, [])

/-- When an answer comes, and whether only because the attempt was called off. -/
def Answer.finish (a : Answer) (ready : Moment) (cut : Option Moment) : Option Moment × Bool :=
  if a.hangs then
    match cut with
    | none => (none, false)
    | some cut => if cut < ready then (some ready, false) else (some cut, true)
  else (some ready, false)

def attempt (clock : Clock) (s : State) (call : Call) : Attempt State :=
  let (a, rest) := s.take
  let (finish, calledOff) := a.finish (clock.sleep call.start a.delay) call.cut
  { finish, reply := a.reply call.deadline, calledOff, cancels := a.cancels,
    next := { s with answers := rest, bodies := call.body :: s.bodies } }

def shutdown (s : State) : Result × State :=
  (s.onShutdown, { s with shutdowns := s.shutdowns + 1 })

def client : Client State := { attempt, shutdown }

end Scripted
end Courier
