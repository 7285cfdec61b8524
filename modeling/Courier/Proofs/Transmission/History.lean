import Courier.Transmission
/-!
# History - all that a transmission did, event by event

A transmission under way hears of two kinds of events: its attempt is answered, or it is looked at again while it
waits.  How much time passes before an event, what the answer is, what the clocks and chance say and whether the
exporter is shut down by then is not for it to choose, so a list of events is any run there is.  A history keeps what
came of each event.  Each delivery by a client and a clock is such a history (`Delivery.deliver?_history`), and so is
each of any number of transmissions that share an exporter (`Traffic.histories_run`).
-/
namespace Courier
namespace Transmission

/-- The answer to an attempt, and what was known when it came. -/
structure Answer where
  finish : Moment
  reply : Except Failure Response
  /-- The exporter was shut down by then. -/
  shut : Bool
  wall : Timestamp
  /-- The chance for a decision on it. -/
  draw : Nat

/-- A wait after an answer. -/
structure Wait where
  /-- How long it should last. -/
  wake : Moment
  /-- When it was over, unless it still lasts. -/
  finish : Option Moment := none
  /-- It was over because the exporter was shut down. -/
  cut : Bool := false

/-- An attempt, and what came of it. -/
structure Round where
  body : ByteArray
  start : Moment
  /-- The exporter was shut down when it began. -/
  shut : Bool
  /-- The window for a decision on its answer. -/
  window : Nat
  answer : Option Answer := none
  wait : Option Wait := none

/-- The decision that the answer to an attempt leads to, where there is one to take. -/
def Round.decision (r : Round) : Option Decision :=
  r.answer.bind fun a =>
    match a.reply with
    | .error _ => none
    | .ok response =>
      if response.success || a.shut then none else Decision.onResponse response r.window a.wall a.draw

/-- What happens to a transmission under way. -/
inductive Event
  /-- The attempt is answered. -/
  | answered (reply : Except Failure Response) (wall : Timestamp) (draw : Nat)
  /-- It is looked at again, as at the end of a wait and after a shutdown. -/
  | resumed

/-- An event, so long after the one before it, with the exporter shut down by then or not. -/
structure Happening where
  gap : Duration
  shut : Bool
  event : Event

/-- A transmission, and all that it did. -/
structure History where
  body : ByteArray
  phase : Phase
  /-- When it came to where it is. -/
  now : Moment
  /-- Its attempts, the last one first. -/
  rounds : List Round
  /-- How often an event made it go on. -/
  moves : Nat := 0

namespace History

/-- The moments at which the attempts began, the last one first. -/
def starts (h : History) : List Moment :=
  h.rounds.map Round.start

/-- The attempt that begins with a phase. -/
def opening (body : ByteArray) (now : Moment) (shut : Bool) : Phase → List Round
  | .attempting run => [{ body, start := now, shut, window := run.window }]
  | _ => []

/-- A transmission that begins. -/
def begun (t : Transmission) (body : ByteArray) (shut : Bool) (now : Moment) : History :=
  { body, phase := t.start shut now, now, rounds := opening body now shut (t.start shut now) }

/-- The wait that a phase is. -/
def waitIn : Phase → Option Wait
  | .waiting _ wake => some { wake }
  | _ => none

theorem finish_of_mem_waitIn {phase : Phase} {w : Wait} (h : w ∈ waitIn phase) : w.finish = none := by
  cases phase with
  | attempting run => cases h
  | waiting run wake =>
    cases h
    rfl
  | ended n ending => cases h

/-- The attempt under way is answered. -/
def answered (t : Transmission) (h : History) (run : Run) (a : Answer) : History :=
  let phase := t.replied run a.reply a.shut a.finish a.wall a.draw
  { h with
    phase, now := a.finish, moves := h.moves + 1
    rounds := h.rounds.modifyHead fun r => { r with answer := some a, wait := waitIn phase } }

/-- The wait is over, and the transmission goes on in a phase. -/
def roused (h : History) (now : Moment) (shut : Bool) (phase : Phase) : History :=
  { h with
    phase, now, moves := h.moves + 1
    rounds := opening h.body now shut phase ++
      h.rounds.modifyHead fun r => { r with wait := r.wait.map fun w => { w with finish := some now, cut := shut } } }

/-- A look at a transmission that waits.  A shutdown counts before the end of the wait. -/
def resumed (h : History) (run : Run) (wake : Moment) (shut : Bool) (now : Moment) : History :=
  if shut then h.roused now shut (interrupted run)
  else if wake ≤ now then h.roused now shut (woken run now)
  else { h with now }

/-- What an event makes of a history.  One that is over stays as it is. -/
def step (t : Transmission) (h : History) (x : Happening) : History :=
  let now := h.now.add x.gap
  match h.phase, x.event with
  | .attempting run, .answered reply wall draw => h.answered t run ⟨now, reply, x.shut, wall, draw⟩
  | .waiting run wake, .resumed => h.resumed run wake x.shut now
  | .ended _ _, _ => h
  | _, _ => { h with now }

/-- All that an event can make of a history: an answer to the attempt under way, a look at a wait, nothing once the
transmission is over, and otherwise no more than that time passes. -/
theorem step_cases (t : Transmission) (h : History) (x : Happening) :
    (∃ run reply wall draw, h.phase = .attempting run ∧ x.event = .answered reply wall draw ∧
      h.step t x = h.answered t run ⟨h.now.add x.gap, reply, x.shut, wall, draw⟩) ∨
    (∃ run wake, h.phase = .waiting run wake ∧ x.event = .resumed ∧
      h.step t x = h.resumed run wake x.shut (h.now.add x.gap)) ∨
    (∃ n ending, h.phase = .ended n ending ∧ h.step t x = h) ∨
    ((∀ n ending, h.phase ≠ .ended n ending) ∧ h.step t x = { h with now := h.now.add x.gap }) := by
  obtain ⟨body, phase, now, rounds, moves⟩ := h
  obtain ⟨gap, shut, event⟩ := x
  cases phase with
  | attempting run =>
    cases event with
    | answered reply wall draw => exact .inl ⟨run, reply, wall, draw, rfl, rfl, rfl⟩
    | resumed => exact .inr (.inr (.inr ⟨fun _ _ => Phase.noConfusion, rfl⟩))
  | waiting run wake =>
    cases event with
    | answered reply wall draw => exact .inr (.inr (.inr ⟨fun _ _ => Phase.noConfusion, rfl⟩))
    | resumed => exact .inr (.inl ⟨run, wake, rfl, rfl, rfl⟩)
  | ended n ending => exact .inr (.inr (.inl ⟨n, ending, rfl, rfl⟩))

section

variable {t : Transmission} {h : History} {n : Nat} {ending : Ending}

/-- What is over stays as it is. -/
theorem step_of_ended (hphase : h.phase = .ended n ending) (x : Happening) : h.step t x = h := by
  obtain ⟨run, -, -, -, hother, -⟩ | ⟨run, wake, hother, -⟩ | ⟨-, -, -, hstep⟩ | ⟨hopen, -⟩ := step_cases t h x
  · cases hphase.symm.trans hother
  · cases hphase.symm.trans hother
  · exact hstep
  · exact absurd hphase (hopen n ending)

theorem foldl_of_ended (hphase : h.phase = .ended n ending) (xs : List Happening) : xs.foldl (step t) h = h := by
  induction xs with
  | nil => rfl
  | cons x xs ih => rw [List.foldl_cons, step_of_ended hphase, ih]

end

/-- A transmission of an exporter that was not shut down before, after some events. -/
def run (t : Transmission) (body : ByteArray) (began : Moment) (xs : List Happening) : History :=
  xs.foldl (step t) (begun t body false began)

theorem run_concat (t : Transmission) (body : ByteArray) (began : Moment) (xs : List Happening) (x : Happening) :
    run t body began (xs ++ [x]) = (run t body began xs).step t x := by
  rw [run, List.foldl_append]
  rfl

end History

/-! ## A transmission that recovers -/

/-- Ten seconds to try. -/
def patient : Transmission := { signal := .traces, timeout := .ofSeconds 10, repeats := true }

/-- A service that is away for a while, and then accepts the payload. -/
def recovery : List Happening :=
  [⟨.ofMillis 5, false, .answered (.ok (.grpc (.ended ⟨100⟩ { code := .unavailable }))) ⟨0⟩ 250⟩,
    ⟨.ofMillis 250, false, .resumed⟩,
    ⟨.ofMillis 5, false, .answered (.ok (.grpc (.accepted ⟨100⟩))) ⟨0⟩ 0⟩]

end Transmission
end Courier
