import Courier.Proofs.Retry.Hints
import Courier.Proofs.Transmission.Backoff
import Courier.Proofs.Transmission.Delivered
/-!
# Overflow - nothing but the deadline can lie beyond the clock

A deadline that the clock cannot show breaks a transmission off before its first attempt.  No step after that adds to
the clock without care: a wait is asked for no further than the deadline, the end of a delay that the clock cannot
show counts as ahead, and an attempt whose own deadline cannot be shown has none but now.  Main statement: with a
deadline that can be shown every transmission comes to a result, with all that is computed on the way in its range,
and with a timeout of 63 bits of seconds or more none does (`Delivery.result_of_shown`).
-/
namespace Courier
namespace Transmission

variable {t : Transmission} {body : ByteArray} {began deadline : Moment}

/-- A phase at which no addition failed. -/
def Phase.OnClock (phase : Phase) : Prop :=
  ∀ n, phase ≠ .ended n .clockOverflow

@[simp] theorem Phase.attempting_onClock (run : Run) : (Phase.attempting run).OnClock := by simp [OnClock]

@[simp] theorem Phase.waiting_onClock (run : Run) (wake : Moment) : (Phase.waiting run wake).OnClock := by
  simp [OnClock]

@[simp] theorem Phase.ended_onClock {n : Nat} {ending : Ending} :
    (Phase.ended n ending).OnClock ↔ ending ≠ .clockOverflow := by
  simp [OnClock]

theorem start_onClock (h : (began.add t.timeout).Shown) (shut : Bool) : (t.start shut began).OnClock := by
  cases shut with
  | true => simp [start]
  | false =>
    rw [start_of_shown h]
    simp only [Run.next]
    split
    · split <;> simp
    · simp

theorem replied_onClock (t : Transmission) (run : Run) (reply : Except Failure Response) (shut : Bool) (now : Moment)
    (wall : Timestamp) (draw : Nat) : (t.replied run reply shut now wall draw).OnClock := by
  cases reply with
  | error failure => simp [replied]
  | ok r =>
    simp only [replied, afterFailure]
    split
    · simp
    · split
      · simp
      · split
        · split
          · split <;> simp
          · split <;> simp
        · simp

theorem woken_onClock (run : Run) (now : Moment) : (woken run now).OnClock := by
  unfold woken Run.next
  split <;> simp

theorem result_of_ne (t : Transmission) (n : Nat) {ending : Ending} (h : ending ≠ .clockOverflow) :
    ∃ r, t.result n ending = .ok r := by
  cases ending with
  | clockOverflow => exact absurd rfl h
  | delivered | rejected | refused | outOfTime | cancelled => exact ⟨_, rfl⟩

theorem Exit.ne_clockOverflow {rounds : List Round} {now : Moment} {ending : Ending}
    (h : Exit t began deadline rounds now ending) (hshown : (began.add t.timeout).Shown) : ending ≠ .clockOverflow := by
  cases h with
  | overflow hnot => exact absurd hshown hnot
  | lateAtStart | accepted | rejected | shutAtAnswer | single | refused | expired | lateAtAnswer | shutInWait
  | lateAtWake => simp

/-! ## What is computed on the way -/

/-- What a transmission computes lies in its range: the attempts and waits are at moments that the clock can show,
waits are drawn from windows that are not empty, and durations hold the delays that are decided on. -/
structure History.InRange (h : History) : Prop where
  starts : ∀ r ∈ h.rounds, r.start.Shown
  wakes : ∀ r ∈ h.rounds, ∀ w ∈ r.wait, w.wake.Shown
  windows : ∀ r ∈ h.rounds, 2 ≤ r.window ∧ r.window ≤ 5000
  delays : ∀ r ∈ h.rounds, (∀ a ∈ r.answer, a.wall.Shown) → ∀ d ∈ r.decision, d.delay.Held

theorem Linked.window_mem {rounds : List Round} (h : Linked t began deadline rounds) :
    ∀ r ∈ rounds, 2 ≤ r.window ∧ r.window ≤ 5000 := by
  intro r hr
  obtain ⟨os, ds, hdecided, hwindows, -⟩ := h.decided (List.ne_nil_of_mem hr)
  have hmem : r.window ∈ windows Window.initial ds := by
    rw [← hwindows]
    exact List.mem_map_of_mem (List.mem_reverse.2 hr)
  rcases List.mem_cons.1 hmem with hfirst | hlater
  · rw [hfirst]
    decide
  · obtain ⟨d, hd, heq⟩ := List.mem_map.1 hlater
    obtain ⟨o, w, -, hdecision⟩ := hdecided.exists_of_mem hd
    rw [← heq]
    exact Occasion.window_mem hdecision

theorem Round.delay_held {r : Round} (hwindow : r.window ≤ 5000) (hwall : ∀ a ∈ r.answer, a.wall.Shown) {d : Decision}
    (hd : d ∈ r.decision) : d.delay.Held := by
  obtain ⟨a, ha, hdecided⟩ := Option.bind_eq_some_iff.1 hd
  cases hreply : a.reply with
  | error f => simp [hreply] at hdecided
  | ok response =>
    simp only [hreply] at hdecided
    split at hdecided
    · cases hdecided
    · let o : Occasion := ⟨response, a.wall, a.draw⟩
      have hdecision : o.decision r.window = some d := hdecided
      by_cases hasks : ∃ hint, o.Asks hint
      · obtain ⟨hint, hasks⟩ := hasks
        have hdelay : d.delay = hint := Decision.delay_of_throttled (Verdict.throttled_iff.2 hasks) hdecision
        rw [hdelay]
        exact Response.Asks.held (hwall a ha) hasks
      · have hlt := Occasion.delay_lt hdecision (not_exists.1 hasks)
        have hnanos : d.delay.nanos < max r.window 1 * 1000000 := hlt
        unfold Duration.Held Duration.seconds
        omega

theorem History.inRange_run (h : (began.add t.timeout).Shown) (xs : List Happening) :
    (run t body began xs).InRange := by
  obtain ⟨-, hkept, -⟩ := sound_run t body began xs
  have hlater : began ≤ began.add t.timeout := Nat.le_add_right _ _
  have hwindows := hkept.linked.window_mem
  refine ⟨fun r hr => h.of_le (hkept.linked.start_le hlater r hr), fun r hr w hw => ?_, hwindows, fun r hr hwall d hd =>
    Round.delay_held (hwindows r hr).2 hwall hd⟩
  obtain ⟨answer, response, d, demands, hwake⟩ := hkept.waits r hr w hw
  rw [hwake]
  exact h.of_le (wakeAt_le_deadline d demands.early)

theorem History.result_run (h : (began.add t.timeout).Shown) (xs : List Happening) {n : Nat} {ending : Ending}
    (hphase : (run t body began xs).phase = .ended n ending) : ∃ r, t.result n ending = .ok r := by
  obtain ⟨-, -, hstage⟩ := sound_run t body began xs
  rw [hphase] at hstage
  cases hstage with
  | ended exit => exact result_of_ne t _ (exit.ne_clockOverflow h)

end Transmission

/-! ## Deliveries -/

namespace Course

variable {σ : Type} {t : Transmission} {kind : Client σ} {around : Surroundings} {body : ByteArray}

theorem afterWait_onClock (c : Course σ) (kind : Client σ) (around : Surroundings) (run : Transmission.Run)
    (wake : Moment) : (c.afterWait kind around run wake).2.OnClock := by
  unfold afterWait
  split
  · split
    · simp [Transmission.interrupted]
    · exact Transmission.woken_onClock run wake
  · exact Transmission.woken_onClock run wake

theorem carry_onClock {fuel : Nat} {c : Course σ} {phase : Transmission.Phase} (h : phase.OnClock)
    {out : Course σ × Nat × Transmission.Ending} (hout : carry t kind around body fuel c phase = some out) :
    out.2.2 ≠ .clockOverflow := by
  -- `OnClock` is the invariant: no step of a course leads to the ending that it excludes.
  induction fuel generalizing c phase with
  | zero =>
    cases phase with
    | ended n ending =>
      cases hout
      exact fun heq => h n (congrArg _ heq)
    | attempting run => cases hout
    | waiting run wake => cases hout
  | succ fuel ih =>
    cases phase with
    | ended n ending =>
      cases hout
      exact fun heq => h n (congrArg _ heq)
    | waiting run wake => exact ih (afterWait_onClock c kind around run _) hout
    | attempting run =>
      simp only [carry] at hout
      split at hout
      · cases hout
      · exact ih (Transmission.replied_onClock t run _ _ _ _ _) hout

theorem call_shown (c : Course σ) (body : ByteArray) (deadline : Moment) (h : (around.clock.wall c.now).Shown) :
    (c.call around body deadline).deadline.Shown := by
  simp only [call, Timestamp.add?]
  split
  · assumption
  · exact h

end Course

namespace Delivery

variable {σ : Type} {t : Transmission} {now : Moment}

theorem result_ok (h : (now.add t.timeout).Shown) {kind : Client σ} {around : Surroundings} {handler : Handler σ}
    {body : ByteArray} {d : Delivery σ} (hd : deliver? t kind around handler now body = some d) :
    ∃ r, d.result = .ok r := by
  obtain ⟨⟨c, n, ending⟩, hcarry, rfl⟩ := Option.map_eq_some_iff.1 hd
  exact Transmission.result_of_ne t n (Course.carry_onClock (Transmission.start_onClock h handler.shut) hcarry)

theorem deliver?_overflow (h : ¬ (now.add t.timeout).Shown) (kind : Client σ) (around : Surroundings)
    {handler : Handler σ} (hopen : handler.shut = false) (body : ByteArray) :
    ∃ d, deliver? t kind around handler now body = some d ∧ d.result = .error .clockOverflow := by
  unfold deliver? fuel
  rw [hopen, Transmission.start_of_not_shown h]
  exact ⟨_, rfl, rfl⟩

/-- **A deadline that the clock can show is all that a transmission needs.** With one every transmission ends with a
result, whatever happens, and all that it computes on the way is in its range.  So is a delivery by any client, on any
clock: the deadline of each attempt can be shown, its end is a result, and it comes to an end unless an attempt of the
client does not, or there are more attempts than 32 bits can count.  With a timeout of 63 bits of seconds or more there
is no such deadline, and a delivery breaks off. -/
theorem result_of_shown (t : Transmission) (now : Moment) (body : ByteArray) :
    ((now.add t.timeout).Shown →
      (∀ xs, let h := Transmission.History.run t body now xs
        h.InRange ∧ ∀ n ending, h.phase = .ended n ending → ∃ r, t.result n ending = .ok r) ∧
      ∀ {σ : Type} (kind : Client σ) (around : Surroundings) (handler : Handler σ),
        (∀ (c : Course σ) deadline, (around.clock.wall c.now).Shown →
          (c.call around body deadline).deadline.Shown) ∧
        (∀ d, deliver? t kind around handler now body = some d → ∃ r, d.result = .ok r) ∧
        (kind.Forward → (∀ cut ∈ around.cut, now ≤ cut) →
          (∀ client call, (kind.attempt around.clock client call).finish ≠ none) →
          (∃ d r, deliver? t kind around handler now body = some d ∧ d.result = .ok r) ∨
          ∃ xs, let h := Transmission.History.run t body now xs
            0x100000000 ≤ h.starts.length ∧ ∀ r ∈ h.rounds, Course.Made kind around body (now.add t.timeout) r)) ∧
    (0x8000000000000000 ≤ t.timeout.seconds → ∀ {σ : Type} (kind : Client σ) (around : Surroundings)
      (handler : Handler σ), handler.shut = false →
        ∃ d, deliver? t kind around handler now body = some d ∧ d.result = .error .clockOverflow) := by
  refine ⟨fun hshown => ⟨fun xs => ?_, fun kind around handler => ⟨fun c deadline => ?_, fun d => ?_, ?_⟩⟩, ?_⟩
  · exact ⟨Transmission.History.inRange_run hshown xs, fun n ending => Transmission.History.result_run hshown xs⟩
  · exact c.call_shown body deadline
  · exact result_ok hshown
  · intro hforward hcut hall
    cases hshut : handler.shut with
    | true =>
      obtain ⟨d, hd, hresult, -⟩ := deliver?_of_shut t kind around hshut now body
      exact .inl ⟨d, _, hd, hresult⟩
    | false =>
      cases hd : deliver? t kind around handler now body with
      | some d =>
        obtain ⟨r, hr⟩ := result_ok hshown hd
        exact .inl ⟨d, r, rfl, hr⟩
      | none => exact .inr (deliver?_eq_none hforward hshut hcut hall hd)
  · intro hlarge σ kind around handler hopen
    exact deliver?_overflow (now.not_shown_add hlarge) kind around hopen body

def welcoming : Client Unit where
  attempt _ _ call := { finish := some call.start, reply := .ok (.grpc (.accepted call.deadline)), next := () }
  shutdown _ := (.ok (), ())

theorem forward_welcoming : welcoming.Forward := by
  intro clock s call finish _ h
  cases h
  exact Nat.le_refl _

def still : Surroundings := { clock := { tick := 1000000, wall := fun _ => .epoch }, draws := fun _ => 0 }

def lasting : Transmission := { signal := .traces, timeout := ⟨9223372036854775807999999999⟩, repeats := true }

/-- The longest timeout with a deadline is like any other: a service that recovers has its payload then, and one that
accepts it at once is done. -/
theorem result_of_shown_lasting :
    (Moment.zero.add lasting.timeout).Shown ∧
    (Transmission.History.run lasting "a".toUTF8 .zero Transmission.recovery).InRange ∧
    (∃ r, lasting.result 2 .delivered = .ok r) ∧
    ((∃ d r, deliver? lasting welcoming still { client := () } .zero "a".toUTF8 = some d ∧ d.result = .ok r) ∨
      ∃ xs, 0x100000000 ≤ (Transmission.History.run lasting "a".toUTF8 .zero xs).starts.length) := by
  have hshown : (Moment.zero.add lasting.timeout).Shown := by
    unfold Moment.Shown
    decide
  obtain ⟨hruns, hdeliveries⟩ := (result_of_shown lasting .zero "a".toUTF8).1 hshown
  obtain ⟨hrange, hended⟩ := hruns Transmission.recovery
  refine ⟨hshown, hrange, hended 2 .delivered rfl, ?_⟩
  rcases (hdeliveries welcoming still { client := () }).2.2 forward_welcoming nofun nofun with hover | ⟨xs, hmany, -⟩
  · exact .inl hover
  · exact .inr ⟨xs, hmany⟩

def endless : Transmission :=
  { signal := .traces, timeout := ⟨18446744073709551615999999999⟩, repeats := true }

/-- With the longest timeout there is no deadline: a payload that would be accepted at once is not even tried, and
there is no result. -/
theorem no_result_endless :
    (∃ d, deliver? endless welcoming still { client := () } .zero "a".toUTF8 = some d ∧ d.starts = [] ∧
      ∀ r, d.result ≠ .ok r) ∧
    Fault.message .clockOverflow = "overflow when adding duration to instant" := by
  refine ⟨⟨_, rfl, rfl, fun r hr => ?_⟩, rfl⟩
  cases hr

end Delivery
end Courier
