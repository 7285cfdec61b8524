import Courier.Proofs.Transmission.Demand
import Mathlib.Algebra.Order.Floor.Div
/-!
# Deadline - the time for one payload is never overrun

The deadline lies one timeout after the start.  Main statements: where failed attempts are made again, every attempt
starts before the deadline, no wait is asked for beyond it or beyond the decided delay, and as long as the attempts
and the sleeps keep their time the transmission returns by then; delays that are never shorter than some duration
bound the number of attempts, and so of all that happens (`History.timeout_kept`).
-/
namespace Courier
namespace Transmission

variable {t : Transmission} {body : ByteArray} {began deadline : Moment}

theorem wakeAt_le_deadline {answer : Answer} (d : Decision) (h : answer.finish < deadline) :
    wakeAt deadline answer d ≤ deadline := by
  simp only [wakeAt, Moment.le_iff, Moment.lt_iff, Moment.nanos_add, Moment.nanos_since, Duration.nanos_min] at *
  omega

theorem Round.Demands.decision {r : Round} {answer : Answer} {response : Response} {d : Decision}
    (h : r.Demands deadline answer response d) : r.decision = some d := by
  simp only [Round.decision, h.answered, Option.bind_some, h.replied, h.failed, h.unshut, Bool.or_false,
    Bool.false_eq_true, if_false, h.decided]

/-! ## Attempts -/

theorem Follows.start_le {a b : Round} (h : Follows deadline a b) : a.start ≤ b.start := by
  obtain ⟨answer, response, d, demands, -, -, hwaited, -⟩ := h
  exact Nat.le_trans demands.started (Nat.le_trans (Nat.le_add_right _ _) hwaited)

theorem Linked.start_mem {rounds : List Round} (h : Linked t began deadline rounds) (hr : t.repeats = true) :
    ∀ r ∈ rounds, began ≤ r.start ∧ r.start < deadline := by
  induction h with
  | none => exact List.forall_mem_nil _
  | first start _ _ early => exact List.forall_mem_singleton.2 ⟨Nat.le_of_eq (congrArg _ start.symm), early hr⟩
  | next _ follows _ ih =>
    have hlater := follows.start_le
    obtain ⟨-, -, -, -, -, -, -, hearly⟩ := follows
    exact List.forall_mem_cons.2 ⟨⟨Nat.le_trans (ih _ List.mem_cons_self).1 hlater, hearly⟩, ih⟩

theorem Linked.start_le {rounds : List Round} (h : Linked t began deadline rounds) (hle : began ≤ deadline) :
    ∀ r ∈ rounds, r.start ≤ deadline := by
  induction h with
  | none => exact List.forall_mem_nil _
  | first start => exact List.forall_mem_singleton.2 (start ▸ hle)
  | next _ follows _ ih =>
    obtain ⟨-, -, -, -, -, -, -, hearly⟩ := follows
    exact List.forall_mem_cons.2 ⟨Nat.le_of_lt hearly, ih⟩

/-- Each attempt is at least one delay after the one before it. -/
theorem Linked.mul_le {rounds : List Round} {d : Duration} (h : Linked t began deadline rounds)
    (hd : ∀ r ∈ rounds, ∀ c ∈ r.decision, d ≤ c.delay) :
    ∀ b rest, rounds = b :: rest → began.nanos + rest.length * d.nanos ≤ b.start.nanos := by
  induction h with
  | none => exact fun _ _ h => nomatch h
  | first start =>
    rintro b rest ⟨⟩
    simp [start]
  | @next a b rest _ follows _ ih =>
    rintro b' rest' ⟨⟩
    obtain ⟨answer, response, c, demands, -, -, hwaited, -⟩ := follows
    have hbefore := ih (List.forall_mem_cons.1 hd).2 a rest rfl
    have hdelay : d.nanos ≤ c.delay.nanos := hd a (by simp) c demands.decision
    have hstarted : a.start.nanos ≤ answer.finish.nanos := demands.started
    rw [Moment.le_iff, Moment.nanos_add] at hwaited
    rw [List.length_cons, Nat.add_mul, Nat.one_mul]
    omega

theorem lt_ceilDiv {k d n : Nat} (hd : 0 < d) (h : k * d < n) : k < n ⌈/⌉ d := by
  by_contra hle
  have hn := (ceilDiv_le_iff_le_mul hd).1 (Nat.le_of_not_lt hle)
  rw [Nat.mul_comm] at hn
  omega

theorem Linked.length_le {rounds : List Round} {d : Duration} (h : Linked t began (began.add t.timeout) rounds)
    (hr : t.repeats = true) (hpos : 0 < d.nanos) (hd : ∀ r ∈ rounds, ∀ c ∈ r.decision, d ≤ c.delay) :
    rounds.length ≤ t.timeout.nanos ⌈/⌉ d.nanos := by
  cases rounds with
  | nil => exact Nat.zero_le _
  | cons b rest =>
    have hstart := h.mul_le hd b rest rfl
    have hearly := (h.start_mem hr b List.mem_cons_self).2
    rw [Moment.lt_iff, Moment.nanos_add] at hearly
    exact lt_ceilDiv hpos (by omega)

/-! ## The end -/

/-- A transmission whose attempts and sleeps kept their time ends in time. -/
theorem Exit.le_deadline {rounds : List Round} {now : Moment} {ending : Ending}
    (h : Exit t began (began.add t.timeout) rounds now ending)
    (hwaits : ∀ r ∈ rounds, r.WaitsInTime (began.add t.timeout))
    (hanswers : ∀ r ∈ rounds, ∀ a ∈ r.answer, a.finish ≤ began.add t.timeout)
    (hsleeps : ∀ r ∈ rounds, ∀ w ∈ r.wait, ∀ m ∈ w.finish, m ≤ w.wake) : now ≤ began.add t.timeout := by
  have hlater : began ≤ began.add t.timeout := Nat.le_add_right _ _
  have hover : ∀ {a rest wake finish cut}, rounds = a :: rest → a.wait = some ⟨wake, some finish, cut⟩ →
      finish ≤ began.add t.timeout := by
    rintro a rest wake finish cut rfl hwait
    obtain ⟨answer, response, d, demands, hwake⟩ := hwaits a List.mem_cons_self _ hwait
    exact Nat.le_trans (hsleeps a List.mem_cons_self _ hwait _ rfl)
      (hwake ▸ wakeAt_le_deadline d demands.early)
  cases h with
  | overflow => exact hlater
  | lateAtStart => exact hlater
  | accepted answered => exact hanswers _ List.mem_cons_self _ answered
  | rejected answered => exact hanswers _ List.mem_cons_self _ answered
  | shutAtAnswer failed => exact hanswers _ List.mem_cons_self _ failed.answered
  | single failed => exact hanswers _ List.mem_cons_self _ failed.answered
  | refused failed => exact hanswers _ List.mem_cons_self _ failed.answered
  | expired failed => exact hanswers _ List.mem_cons_self _ failed.answered
  | lateAtAnswer failed => exact hanswers _ List.mem_cons_self _ failed.answered
  | shutInWait _ wait => exact hover rfl wait
  | lateAtWake _ wait => exact hover rfl wait

end Transmission
end Courier
