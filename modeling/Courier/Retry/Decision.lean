import Courier.Retry.Verdict
import Courier.Retry.Window
/-!
# Decision - whether, and after what delay, an attempt is made again

A failed attempt is made again only before its deadline and only when its failure is not permanent.  The
delay is the one that the server asked for, or else a random one below the current window.  Chance is a
number of any size that is handed in; its remainder by the window is the wait.
-/
namespace Courier

/-- The attempt is made again. -/
structure Decision where
  /-- The server asked for the delay. -/
  throttled : Bool
  delay : Duration
  /-- The window for the decision after this one. -/
  window : Nat
deriving Repr, DecidableEq, Inhabited

namespace Decision

/-- The window that the next one grows from, after a delay that the server asked for.  Less than a
millisecond leaves the window in place, and more milliseconds than 64 bits hold count as the largest
window. -/
def throttledBase (window : Nat) (delay : Duration) : Nat :=
  if delay.millis = 0 then window
  else if delay.millis < 0x10000000000000000 then delay.millis
  else Window.largest

/-- The moment after the delay, counted from the deadline, is not past. -/
def resumes (deadline : Timestamp) (delay : Duration) (now : Timestamp) : Bool :=
  match deadline.add? delay with
  | some t => now < t
  | none => true

/-- A random wait below a window. -/
def jitter (window draw : Nat) : Duration :=
  .ofMillis (draw % window)

/-- The decision on a verdict before the deadline. -/
def ofVerdict (verdict : Verdict) (deadline : Timestamp) (window : Nat) (now : Timestamp) (draw : Nat) :
    Option Decision :=
  let window := max window 1
  match verdict with
  | .permanent => none
  | .throttled delay =>
    if resumes deadline delay now then some ⟨true, delay, Window.next (throttledBase window delay)⟩ else none
  | .passing =>
    let delay := jitter window draw
    if resumes deadline delay now then some ⟨false, delay, Window.next window⟩ else none

/-- What to make of a response.  A call without a status cannot be judged. -/
def verdict? (r : Response) (now : Timestamp) : Option Verdict :=
  match r with
  | .grpc g => g.status.map Verdict.ofStatus
  | .http h => some (Verdict.ofHttp h.status h.headers now)

/-- The decision on a response, and none where the attempt is not made again. -/
def onResponse (r : Response) (window : Nat) (now : Timestamp) (draw : Nat) : Option Decision :=
  if r.deadline ≤ now then none
  else (verdict? r now).bind fun v => ofVerdict v r.deadline window now draw

end Decision
end Courier
