import Courier.Client
import Courier.Transmission
/-!
# Delivery - a transmission carried out by a client on a clock

The clock only moves when everything sleeps.  A shutdown may be scheduled; at the moment it is due, whatever
else happens at that moment comes first.  Main statements: a delivery of an exporter that is shut down asks
nothing of the client, and more fuel changes no delivery that came to its end.
-/
namespace Courier

structure Surroundings where
  clock : Clock
  /-- A number of any size for the decision after each attempt, by the count of attempts. -/
  draws : Nat → Nat
  /-- The moment of a scheduled shutdown. -/
  cut : Option Moment := none

/-- A delivery under way. -/
structure Course (σ : Type) where
  handler : Handler σ
  now : Moment
  /-- When the attempts began, the last one first. -/
  starts : List Moment := []
  /-- What the scheduled shutdown came to, once it was due. -/
  answered : Option Result := none

namespace Course

variable {σ : Type}

/-- The scheduled shutdown, if it is still to come. -/
def pending (c : Course σ) (around : Surroundings) : Option Moment :=
  if c.answered.isSome then none else around.cut

/-- The scheduled shutdown takes place. -/
def fire (c : Course σ) (kind : Client σ) : Course σ :=
  let (result, handler) := c.handler.shutdown kind
  { c with handler, answered := some result }

/-- The course at a later moment, with the shutdown carried out if it was due before, or has to be. -/
def advance (c : Course σ) (kind : Client σ) (around : Surroundings) (now : Moment) (forced : Bool) : Course σ :=
  match c.pending around with
  | some cut => if cut < now || forced then { c.fire kind with now } else { c with now }
  | none => { c with now }

/-- The attempt that begins now. -/
def call (c : Course σ) (around : Surroundings) (body : ByteArray) (deadline : Moment) : Call :=
  let wall := around.clock.wall c.now
  { body, start := c.now, deadline := (wall.add? (deadline.since c.now)).getD wall, cut := c.pending around }

def afterAttempt (c : Course σ) (kind : Client σ) (around : Surroundings) (a : Attempt σ) (finish : Moment) :
    Course σ :=
  let c := { c with handler.client := a.next, starts := c.now :: c.starts }
  let c := c.advance kind around finish a.calledOff
  if a.cancels then { c with handler.shut := true } else c

/-- The course and the next phase after a wait until a moment. -/
def afterWait (c : Course σ) (kind : Client σ) (around : Surroundings) (run : Transmission.Run) (wake : Moment) :
    Course σ × Transmission.Phase :=
  match c.pending around with
  | some cut =>
    if cut < wake then ({ c.fire kind with now := c.now.max cut }, Transmission.interrupted run)
    else ({ c with now := wake }, Transmission.woken run wake)
  | none => ({ c with now := wake }, Transmission.woken run wake)

/-- Carries a transmission on to its end.  Absent when an attempt goes on for ever, or the fuel runs out. -/
def carry (t : Transmission) (kind : Client σ) (around : Surroundings) (body : ByteArray) :
    Nat → Course σ → Transmission.Phase → Option (Course σ × Nat × Transmission.Ending)
  | _, c, .ended attempts ending => some (c, attempts, ending)
  | 0, _, _ => none
  | fuel + 1, c, .attempting run =>
    let a := kind.attempt around.clock c.handler.client (c.call around body run.deadline)
    match a.finish with
    | none => none
    | some finish =>
      let c := c.afterAttempt kind around a finish
      carry t kind around body fuel c <|
        t.replied run a.reply c.handler.shut finish (around.clock.wall finish) (around.draws run.attempts)
  | fuel + 1, c, .waiting run wake =>
    let (c, phase) := c.afterWait kind around run (around.clock.alarm wake)
    carry t kind around body fuel c phase

theorem carry_of_le {t : Transmission} {kind : Client σ} {around : Surroundings} {body : ByteArray}
    {fuel more : Nat} (hle : fuel ≤ more) {c : Course σ} {phase : Transmission.Phase}
    {out : Course σ × Nat × Transmission.Ending} (h : carry t kind around body fuel c phase = some out) :
    carry t kind around body more c phase = some out := by
  induction fuel generalizing more c phase with
  | zero => cases phase <;> cases more <;> simp_all [carry]
  | succ fuel ih =>
    obtain ⟨more, rfl⟩ : ∃ m, more = m + 1 := ⟨more - 1, by omega⟩
    cases phase with
    | ended attempts ending => simpa [carry] using h
    | waiting run wake =>
      simp only [carry] at h ⊢
      exact ih (by omega) h
    | attempting run =>
      simp only [carry] at h ⊢
      split at h
      · simp at h
      · exact ih (by omega) h

/-- The course once the scheduled shutdown is over as well. -/
def settle (c : Course σ) (kind : Client σ) (around : Surroundings) : Course σ :=
  match c.pending around with
  | some cut => { c.fire kind with now := c.now.max cut }
  | none => c

end Course

structure Delivery (σ : Type) where
  result : Except Fault Result
  handler : Handler σ
  /-- When all was over. -/
  finish : Moment
  starts : List Moment
  shutdown : Option Result

namespace Delivery

variable {σ : Type}

/-- As many steps as a counter of 32 bits can count attempts, with a wait after each. -/
def fuel : Nat := 0x200000000

/-- Delivers a payload.  Absent when that goes on for ever. -/
def deliver? (t : Transmission) (kind : Client σ) (around : Surroundings) (handler : Handler σ) (now : Moment)
    (body : ByteArray) : Option (Delivery σ) :=
  (Course.carry t kind around body fuel { handler, now } (t.start handler.shut now)).map
    fun (c, attempts, ending) =>
      let c := c.settle kind around
      { result := t.result attempts ending, handler := c.handler, finish := c.now,
        starts := c.starts.reverse, shutdown := c.answered }

/-- Nothing is delivered, but the scheduled shutdown takes place. -/
def withheld (result : Except Fault Result) (kind : Client σ) (around : Surroundings) (handler : Handler σ)
    (now : Moment) : Delivery σ :=
  let c := Course.settle { handler, now } kind around
  { result, handler := c.handler, finish := c.now, starts := [], shutdown := c.answered }

/-- The exporter was shut down before: no attempt is made, and the client stays as it is. -/
theorem deliver?_of_shut (t : Transmission) (kind : Client σ) (around : Surroundings) {handler : Handler σ}
    (h : handler.shut = true) (now : Moment) (body : ByteArray) :
    ∃ d, deliver? t kind around handler now body = some d ∧ d.result = .ok (.error .alreadyShutdown) ∧
      d.starts = [] ∧ d.handler = handler := by
  have hsettle : (Course.settle { handler, now } kind around).starts = [] ∧
      (Course.settle { handler, now } kind around).handler = handler := by
    simp only [Course.settle]
    split <;> simp [Course.fire, Handler.shutdown, h]
  simp [deliver?, fuel, Transmission.start, h, Course.carry, Transmission.result, hsettle]

end Delivery
end Courier
