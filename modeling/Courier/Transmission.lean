import Courier.Clock
import Courier.Failure
import Courier.Retry.Decision
import Courier.Signal
/-!
# Transmission - delivering one payload, attempt by attempt

A transmission is a machine that is told what happens - an attempt was answered, a wait is over, a shutdown
came during a wait - and says what is next: make an attempt, wait, or end.  Time, chance and the answers
come from outside, so every run of it is a run of these steps.

A single attempt ends the transmission whatever it came to.  Repeated attempts end with the first that is
accepted, fails for good, or leaves no time for another.
-/
namespace Courier

/-- What every transmission of an exporter has in common. -/
structure Transmission where
  signal : Signal
  /-- The time for one payload, all attempts and waits together. -/
  timeout : Duration
  /-- Failed attempts are made again. -/
  repeats : Bool
deriving Repr, DecidableEq, Inhabited

namespace Transmission

/-- What a transmission under way knows. -/
structure Run where
  deadline : Moment
  /-- How many attempts were begun.  It is meant to fit in 32 bits: of more attempts the count tells nothing. -/
  attempts : Nat := 0
  /-- The window of the next decision. -/
  window : Nat := Window.initial
  /-- The response after which it last waited. -/
  last : Option Response := none
deriving Inhabited

inductive Ending
  /-- The payload was accepted. -/
  | delivered
  /-- The attempt, or the exporter, would not even try. -/
  | rejected (failure : Failure)
  /-- The attempt failed for good. -/
  | refused (response : Response)
  /-- No time is left for another attempt; before that there may have been a response. -/
  | outOfTime (response : Option Response)
  | cancelled
  /-- There is no deadline that the clock can show. -/
  | clockOverflow
deriving Inhabited

/-- What is next. -/
inductive Phase
  | attempting (run : Run)
  | waiting (run : Run) (wake : Moment)
  /-- The transmission is over, after so many attempts. -/
  | ended (attempts : Nat) (ending : Ending)
deriving Inhabited

/-- One more attempt is under way. -/
def Run.attempt (run : Run) : Run :=
  { run with attempts := run.attempts + 1 }

/-- The next attempt, if there is time for one. -/
def Run.next (run : Run) (now : Moment) : Phase :=
  if run.deadline ≤ now then .ended run.attempts (.outOfTime run.last) else .attempting run.attempt

/-- The first step, of an exporter that is shut down or not. -/
def start (t : Transmission) (shut : Bool) (now : Moment) : Phase :=
  if shut then .ended 0 (.rejected .alreadyShutdown)
  else match now.add? t.timeout with
    | none => .ended 0 .clockOverflow
    | some deadline =>
      let run : Run := { deadline }
      if t.repeats then run.next now else .attempting run.attempt

/-- What follows a response that was not accepted, where failed attempts are made again. -/
def afterFailure (run : Run) (r : Response) (now : Moment) (wall : Timestamp) (draw : Nat) : Phase :=
  match Decision.onResponse r run.window wall draw with
  | none => .ended run.attempts (if r.deadline ≤ wall then .outOfTime (some r) else .refused r)
  | some d =>
    let left := run.deadline.since now
    if left.nanos = 0 then .ended run.attempts (.outOfTime (some r))
    else .waiting { run with window := d.window, last := some r } (now.add (d.delay.min left))

/-- What follows the end of an attempt, with the exporter shut down by then or not. -/
def replied (t : Transmission) (run : Run) (reply : Except Failure Response) (shut : Bool)
    (now : Moment) (wall : Timestamp) (draw : Nat) : Phase :=
  match reply with
  | .error failure => .ended run.attempts (.rejected failure)
  | .ok r =>
    if r.success then .ended run.attempts .delivered
    else if shut then .ended run.attempts .cancelled
    else if t.repeats then afterFailure run r now wall draw
    else .ended run.attempts (.refused r)

/-- What follows a wait that came to its end. -/
def woken (run : Run) (now : Moment) : Phase :=
  run.next now

/-- What follows a shutdown during a wait. -/
def interrupted (run : Run) : Phase :=
  .ended run.attempts .cancelled

def noAnswer : String := "no attempt completed"

def attemptsText (n : Nat) : String := toString n ++ " attempt(s)"

def result (t : Transmission) (attempts : Nat) : Ending → Except Fault Result
  | .delivered => .ok (.ok ())
  | .rejected failure => .ok (.error failure)
  | .refused r => .ok <| .error <| .failed <|
      t.signal.text ++ " export failed after " ++ attemptsText attempts ++ ": " ++ r.text
  | .outOfTime r => .ok <| .error <| .failed <|
      t.signal.text ++ " export did not complete within " ++ t.timeout.text ++ " after " ++
        attemptsText attempts ++ ": " ++ (r.map Response.text).getD noAnswer
  | .cancelled => .ok <| .error <| .failed <| t.signal.text ++ " export cancelled by shutdown"
  | .clockOverflow => .error .clockOverflow

end Transmission
end Courier
