import Courier.Delivery
import Courier.Proofs.Transmission.Attempts
import Courier.Proofs.Transmission.Shutdown
/-!
# Delivered - a delivery is a history that a client and a clock made

A delivery drives a transmission by a client whose attempts take time, by a clock that sleeps long enough, and
perhaps by a shutdown at some moment.  Main statements: each step of a delivery is an event of its transmission
(`Tells.attempt`, `Tells.wait`), so a delivery that comes to its end is a history with the same attempts, the answers
of the client and the same result, and none of its attempts begins after the shutdown (`Delivery.deliver?_history`).
-/
namespace Courier

namespace Course

open Transmission (History Phase Round Run)

variable {σ : Type} {t : Transmission} {kind : Client σ} {around : Surroundings} {body : ByteArray}
  {began deadline : Moment} {c : Course σ} {phase : Phase} {h : History}

/-- What the client and the clock make of an attempt: its answer is that to a call of the course, and a sleep after
it is no longer than the clock makes it. -/
structure Made (kind : Client σ) (around : Surroundings) (body : ByteArray) (deadline : Moment) (r : Round) : Prop where
  answered : ∀ a ∈ r.answer, ∃ c : Course σ, c.now = r.start ∧
    (kind.attempt around.clock c.handler.client (c.call around body deadline)).finish = some a.finish ∧
    (kind.attempt around.clock c.handler.client (c.call around body deadline)).reply = a.reply
  slept : ∀ w ∈ r.wait, ∀ m ∈ w.finish, m ≤ around.clock.alarm w.wake

theorem made_opening (body' : ByteArray) (now : Moment) (shut : Bool) (phase : Phase) :
    ∀ r ∈ History.opening body' now shut phase, Made kind around body deadline r := by
  intro r hr
  cases phase with
  | attempting run =>
    cases List.mem_singleton.1 hr
    constructor
    · intro a ha
      cases ha
    · intro w hw
      cases hw
  | waiting run wake => cases hr
  | ended n ending => cases hr

theorem made_roused {r : Round} {rest : List Round} {wake now : Moment} (hrounds : h.rounds = r :: rest)
    (hwait : r.wait = some { wake }) (hm : ∀ r ∈ h.rounds, Made kind around body deadline r)
    (hnow : now ≤ around.clock.alarm wake) (shut : Bool) (phase : Phase) :
    ∀ r ∈ (h.roused now shut phase).rounds, Made kind around body deadline r := by
  rw [hrounds] at hm
  obtain ⟨hfirst, hrest⟩ := List.forall_mem_cons.1 hm
  simp only [History.roused, hrounds, List.modifyHead_cons, hwait]
  refine List.forall_mem_append.2 ⟨made_opening _ _ _ _, List.forall_mem_cons.2 ⟨⟨hfirst.answered, ?_⟩, hrest⟩⟩
  intro w hw m hfinish
  cases hw
  cases hfinish
  exact hnow

/-- The attempts, with the one that begins with a phase. -/
def begun (c : Course σ) : Phase → List Moment
  | .attempting _ => c.now :: c.starts
  | _ => c.starts

/-- A history tells of a course at a phase. -/
structure Tells (t : Transmission) (kind : Client σ) (around : Surroundings) (body : ByteArray) (began : Moment)
    (c : Course σ) (phase : Phase) (h : History) : Prop where
  sound : History.Sound t body began h
  made : ∀ r ∈ h.rounds, Made kind around body (began.add t.timeout) r
  place : h.phase = phase
  moment : h.now = c.now
  attempts : h.starts = c.begun phase
  /-- The scheduled shutdown is not overdue. -/
  ahead : ∀ cut ∈ c.pending around, c.now ≤ cut
  /-- After the scheduled shutdown it is over. -/
  closed : c.answered.isSome = true → ∃ n ending, phase = .ended n ending
  /-- A wait is not over before it begins. -/
  due : ∀ run wake, phase = .waiting run wake → c.now ≤ wake
  inTime : ∀ cut ∈ around.cut, ∀ m ∈ h.starts, m ≤ cut

theorem pending_eq (hopen : ¬ c.answered.isSome = true) : c.pending around = around.cut :=
  if_neg hopen

theorem Tells.unanswered (ht : Tells t kind around body began c phase h)
    (hphase : ∀ n ending, phase ≠ .ended n ending) : ¬ c.answered.isSome = true := by
  intro hsome
  obtain ⟨n, ending, hended⟩ := ht.closed hsome
  exact hphase n ending hended

/-- A course is at a moment, and the scheduled shutdown was carried out or is still ahead. -/
structure Reached (around : Surroundings) (c : Course σ) (now : Moment) (starts : List Moment) : Prop where
  moment : c.now = now
  attempts : c.starts = starts
  ahead : ∀ cut ∈ c.pending around, now ≤ cut
  shut : c.answered.isSome = true → c.handler.shut = true

theorem reached_fire (c : Course σ) (kind : Client σ) (around : Surroundings) (now : Moment) :
    Reached around { c.fire kind with now } now c.starts :=
  ⟨rfl, rfl, nofun, fun _ => c.handler.shutdown_shut kind⟩

theorem reached_advance (kind : Client σ) (around : Surroundings) (now : Moment) (forced : Bool)
    (hopen : ¬ c.answered.isSome = true) : Reached around (c.advance kind around now forced) now c.starts := by
  unfold advance
  cases hpending : c.pending around with
  | none =>
    refine ⟨rfl, rfl, fun _ h => ?_, fun h => absurd h hopen⟩
    rw [show ({ c with now } : Course σ).pending around = none from hpending] at h
    cases h
  | some cut =>
    simp only
    split
    · exact reached_fire c kind around now
    · rename_i hahead
      simp only [Bool.or_eq_true, decide_eq_true_eq, not_or] at hahead
      refine ⟨rfl, rfl, fun _ h => ?_, fun h => absurd h hopen⟩
      rw [show ({ c with now } : Course σ).pending around = some cut from hpending] at h
      cases h
      exact Nat.le_of_not_lt hahead.1

theorem reached_afterAttempt (kind : Client σ) (around : Surroundings) (a : Attempt σ) (finish : Moment)
    (hopen : ¬ c.answered.isSome = true) :
    Reached around (c.afterAttempt kind around a finish) finish (c.now :: c.starts) := by
  have hreached := reached_advance (c := { c with handler.client := a.next, starts := c.now :: c.starts }) kind around
    finish a.calledOff hopen
  simp only [afterAttempt]
  split
  · exact ⟨hreached.moment, hreached.attempts, hreached.ahead, fun _ => rfl⟩
  · exact hreached

/-- A wait is cut by the scheduled shutdown, or comes to its end. -/
theorem afterWait_cases (kind : Client σ) (around : Surroundings) (run : Run) {wake : Moment} (hdue : c.now ≤ wake) :
    (∃ now, c.now ≤ now ∧ now ≤ wake ∧
      c.afterWait kind around run wake = ({ c.fire kind with now }, Transmission.interrupted run)) ∨
    (∀ cut ∈ c.pending around, wake ≤ cut) ∧
      c.afterWait kind around run wake = ({ c with now := wake }, Transmission.woken run wake) := by
  unfold afterWait
  cases c.pending around with
  | none => exact .inr ⟨nofun, rfl⟩
  | some cut =>
    simp only
    split
    · rename_i hcut
      exact .inl ⟨c.now.max cut, Nat.le_max_left _ _, Nat.max_le.2 ⟨hdue, Nat.le_of_lt hcut⟩, rfl⟩
    · rename_i hahead
      refine .inr ⟨fun _ h => ?_, rfl⟩
      cases h
      exact Nat.le_of_not_lt hahead

/-- An answer ends a transmission or begins a wait, which lasts for a while. -/
theorem replied_phase (t : Transmission) (run : Run) (reply : Except Failure Response) (shut : Bool) (now : Moment)
    (wall : Timestamp) (draw : Nat) :
    (∃ n ending, t.replied run reply shut now wall draw = .ended n ending) ∨
    ∃ run' d, t.replied run reply shut now wall draw = .waiting run' (now.add d) := by
  cases reply with
  | error f => exact .inl ⟨_, _, rfl⟩
  | ok r =>
    simp only [Transmission.replied, Transmission.afterFailure]
    split
    · exact .inl ⟨_, _, rfl⟩
    · split
      · exact .inl ⟨_, _, rfl⟩
      · split
        · split
          · exact .inl ⟨_, _, rfl⟩
          · split
            · exact .inl ⟨_, _, rfl⟩
            · exact .inr ⟨_, _, rfl⟩
        · exact .inl ⟨_, _, rfl⟩

theorem add_since {a b : Moment} (h : a ≤ b) : a.add (b.since a) = b := by
  obtain ⟨a⟩ := a
  obtain ⟨b⟩ := b
  exact congrArg Moment.mk (Nat.add_sub_cancel' h)

theorem begun_replied (c : Course σ) (t : Transmission) (run : Run) (reply : Except Failure Response) (shut : Bool)
    (now : Moment) (wall : Timestamp) (draw : Nat) : c.begun (t.replied run reply shut now wall draw) = c.starts := by
  obtain ⟨n, ending, hphase⟩ | ⟨run', d, hphase⟩ := replied_phase t run reply shut now wall draw
  · rw [hphase, begun]
    exact nofun
  · rw [hphase, begun]
    exact nofun

theorem Tells.made_answered {run : Run} (ht : Tells t kind around body began c (.attempting run) h) {a : Attempt σ}
    (ha : kind.attempt around.clock c.handler.client (c.call around body run.deadline) = a) {finish : Moment}
    (hfinish : a.finish = some finish) (shut : Bool) (wall : Timestamp) (draw : Nat) :
    ∀ r ∈ (h.answered t run ⟨finish, a.reply, shut, wall, draw⟩).rounds,
      Made kind around body (began.add t.timeout) r := by
  obtain ⟨r, rest, hrounds, -, -, -, hends, -⟩ := (ht.place ▸ ht.sound.stage).attempting_inv
  have hstart : r.start :: rest.map Round.start = c.now :: c.starts := by
    rw [← List.map_cons, ← hrounds]
    exact ht.attempts
  obtain ⟨-, hrest⟩ := List.forall_mem_cons.1 (hrounds ▸ ht.made)
  simp only [History.answered, hrounds, List.modifyHead_cons]
  refine List.forall_mem_cons.2 ⟨⟨?_, ?_⟩, hrest⟩
  · intro a' ha'
    cases ha'
    rw [hends] at ha
    exact ⟨c, (List.cons.inj hstart).1.symm, ha ▸ hfinish, ha ▸ rfl⟩
  · intro w hw m hm
    rw [History.finish_of_mem_waitIn hw] at hm
    cases hm

/-- The answer to an attempt is an event of its transmission. -/
theorem Tells.attempt {run : Run} (hk : kind.Forward)
    (ht : Tells t kind around body began c (.attempting run) h) {a : Attempt σ}
    (ha : kind.attempt around.clock c.handler.client (c.call around body run.deadline) = a) {finish : Moment}
    (hfinish : a.finish = some finish) :
    let c' := c.afterAttempt kind around a finish
    ∃ x, Tells t kind around body began c' (t.replied run a.reply c'.handler.shut finish (around.clock.wall finish)
        (around.draws run.attempts)) (h.step t x) ∧ (h.step t x).moves = h.moves + 1 := by
  intro c'
  have hopen := ht.unanswered fun _ _ hended => by cases hended
  have hle : c.now ≤ finish := hk _ _ _ finish ht.ahead (ha ▸ hfinish)
  have hreached : Reached around c' finish (c.now :: c.starts) := reached_afterAttempt kind around a finish hopen
  let wall := around.clock.wall finish
  let draw := around.draws run.attempts
  have hstep : h.step t ⟨finish.since c.now, c'.handler.shut, .answered a.reply wall draw⟩ =
      h.answered t run ⟨finish, a.reply, c'.handler.shut, wall, draw⟩ := by
    simp only [History.step, ht.place, ht.moment, add_since hle]
  have hstarts := History.starts_answered t h run ⟨finish, a.reply, c'.handler.shut, wall, draw⟩
  have hsound := History.sound_step ht.sound ⟨finish.since c.now, c'.handler.shut, .answered a.reply wall draw⟩
  refine ⟨_, ?_, congrArg History.moves hstep⟩
  rw [hstep] at hsound ⊢
  refine ⟨hsound, ht.made_answered ha hfinish _ _ _, rfl, hreached.moment.symm, ?_,
    hreached.moment.symm ▸ hreached.ahead, ?_, ?_, ?_⟩
  · rw [hstarts, ht.attempts, begun_replied, hreached.attempts]
    rfl
  · intro hsome
    obtain ⟨ending, hended, -⟩ := Transmission.replied_of_shut t run a.reply finish wall draw
    exact ⟨run.attempts, ending, by rw [hreached.shut hsome]; exact hended⟩
  · intro run' wake hwait
    rw [hreached.moment]
    obtain ⟨n, ending, hphase⟩ | ⟨run'', d, hphase⟩ := replied_phase t run a.reply c'.handler.shut finish wall draw
    · cases hphase.symm.trans hwait
    · cases hphase.symm.trans hwait
      exact Nat.le_add_right _ _
  · rw [hstarts]
    exact ht.inTime

/-- The end of a wait is an event of its transmission. -/
theorem Tells.wait {run : Run} {wake : Moment}
    (ht : Tells t kind around body began c (.waiting run wake) h) :
    let next := c.afterWait kind around run (around.clock.alarm wake)
    ∃ x, Tells t kind around body began next.1 next.2 (h.step t x) ∧ (h.step t x).moves = h.moves + 1 := by
  intro next
  have hopen := ht.unanswered fun _ _ hended => by cases hended
  have hdue : c.now ≤ wake := ht.due run wake rfl
  have hlate : wake ≤ around.clock.alarm wake := around.clock.le_alarm wake
  obtain ⟨r, rest, answer, response, d, hrounds, -, -, -, hwait, -⟩ := (ht.place ▸ ht.sound.stage).waiting_inv
  obtain ⟨now, hnow, hwoken, hnext⟩ | ⟨hahead, hnext⟩ := afterWait_cases kind around run (Nat.le_trans hdue hlate)
  · have hstep : h.step t ⟨now.since c.now, true, .resumed⟩ = h.roused now true (Transmission.interrupted run) := by
      simp only [History.step, ht.place, ht.moment, add_since hnow, History.resumed, if_true]
    have hstarts : (h.roused now true (Transmission.interrupted run)).starts = h.starts := History.starts_roused ..
    have hsound := History.sound_step ht.sound ⟨now.since c.now, true, .resumed⟩
    refine ⟨_, ?_, congrArg History.moves hstep⟩
    rw [hstep] at hsound ⊢
    rw [show next = _ from hnext]
    have hahead := (reached_fire c kind around now).ahead
    refine ⟨hsound, made_roused hrounds hwait ht.made hwoken _ _, rfl, rfl, hstarts.trans ht.attempts, hahead,
      fun _ => ⟨_, _, rfl⟩, ?_, hstarts ▸ ht.inTime⟩
    intro run' wake' hphase
    cases hphase
  · have hnow : c.now ≤ around.clock.alarm wake := Nat.le_trans hdue hlate
    have hstep : h.step t ⟨(around.clock.alarm wake).since c.now, false, .resumed⟩ =
        h.roused (around.clock.alarm wake) false (Transmission.woken run (around.clock.alarm wake)) := by
      simp only [History.step, ht.place, ht.moment, add_since hnow, History.resumed, Bool.false_eq_true, if_false,
        if_pos hlate]
    have hstarts := History.starts_roused h (around.clock.alarm wake) false
      (Transmission.woken run (around.clock.alarm wake))
    have hsound := History.sound_step ht.sound ⟨(around.clock.alarm wake).since c.now, false, .resumed⟩
    refine ⟨_, ?_, congrArg History.moves hstep⟩
    rw [hstep] at hsound ⊢
    rw [show next = _ from hnext]
    rw [ht.attempts] at hstarts
    rw [pending_eq hopen] at hahead
    refine ⟨hsound, made_roused hrounds hwait ht.made (Nat.le_refl _) _ _, rfl, rfl, ?_, ?_,
      fun hsome => absurd hsome hopen, ?_, ?_⟩
    · rw [hstarts]
      simp only [Transmission.woken, Run.next]
      split <;> rfl
    · exact pending_eq (c := c) hopen ▸ hahead
    · intro run' wake' hwait
      simp only [Transmission.woken, Run.next] at hwait
      split at hwait <;> cases hwait
    · intro cut hcut m hm
      have hold : ∀ m ∈ c.starts, m ≤ cut := fun m hm => ht.inTime cut hcut m (ht.attempts ▸ hm)
      rw [hstarts] at hm
      simp only [Transmission.woken, Run.next] at hm
      split at hm
      · exact hold m hm
      · obtain rfl | hm := List.mem_cons.1 hm
        · exact hahead cut hcut
        · exact hold m hm

/-- A course is carried on along a history, to the end of both, or as far as the fuel lasts while its attempts end. -/
theorem Tells.carry (hk : kind.Forward) {fuel : Nat} {phase : Phase} {h : History}
    (ht : Tells t kind around body began c phase h) : ∃ xs : List Transmission.Happening,
      (∀ out, Course.carry t kind around body fuel c phase = some out →
        Tells t kind around body began out.1 (.ended out.2.1 out.2.2) (xs.foldl (History.step t) h)) ∧
      (Course.carry t kind around body fuel c phase = none →
        (∀ client call, (kind.attempt around.clock client call).finish ≠ none) →
        (∃ c' phase', Tells t kind around body began c' phase' (xs.foldl (History.step t) h)) ∧
          (xs.foldl (History.step t) h).moves = h.moves + fuel) := by
  induction fuel generalizing c phase h with
  | zero =>
    refine ⟨[], fun out hout => ?_, fun _ _ => ⟨⟨c, phase, ht⟩, rfl⟩⟩
    cases phase with
    | ended n ending =>
      cases hout
      exact ht
    | attempting run => cases hout
    | waiting run wake => cases hout
  | succ fuel ih =>
    cases phase with
    | ended n ending =>
      refine ⟨[], fun out hout => ?_, nofun⟩
      cases hout
      exact ht
    | waiting run wake =>
      obtain ⟨x, hx, hmoves⟩ := ht.wait
      obtain ⟨xs, hend, hfuel⟩ := ih hx
      refine ⟨x :: xs, hend, fun hnone hall => ?_⟩
      obtain ⟨htold, hcount⟩ := hfuel hnone hall
      refine ⟨htold, ?_⟩
      rw [List.foldl_cons, hcount, hmoves]
      omega
    | attempting run =>
      cases hfinish : (kind.attempt around.clock c.handler.client (c.call around body run.deadline)).finish with
      | none =>
        refine ⟨[], fun out hout => ?_, fun _ hall => absurd hfinish (hall _ _)⟩
        simp [Course.carry, hfinish] at hout
      | some finish =>
        obtain ⟨x, hx, hmoves⟩ := ht.attempt hk rfl hfinish
        obtain ⟨xs, hend, hfuel⟩ := ih hx
        refine ⟨x :: xs, fun out hout => hend out ?_, fun hnone hall => ?_⟩
        · simpa [Course.carry, hfinish] using hout
        · obtain ⟨htold, hcount⟩ := hfuel (by simpa [Course.carry, hfinish] using hnone) hall
          refine ⟨htold, ?_⟩
          rw [List.foldl_cons, hcount, hmoves]
          omega

theorem tells_begun (t : Transmission) (body : ByteArray) {now : Moment} {client : σ}
    (hcut : ∀ cut ∈ around.cut, now ≤ cut) :
    Tells t kind around body now { handler := { client }, now } (t.start false now)
      (History.begun t body false now) where
  sound := History.sound_begun t body now
  made := made_opening _ _ _ _
  place := rfl
  moment := rfl
  attempts := by
    cases hstart : t.start false now <;> simp [History.begun, History.starts, History.opening, hstart, begun]
  ahead := hcut
  closed := nofun
  due run wake hwait := by
    obtain ⟨ending, hphase, -⟩ | ⟨hphase, -⟩ := Transmission.start_open t now
    · cases hphase.symm.trans hwait
    · cases hphase.symm.trans hwait
  inTime cut hmem m hm := by
    have hstarts : ∀ phase, m ∈ (History.opening body now false phase).map Round.start → m = now := by
      intro phase hm
      cases phase with
      | attempting run => exact List.mem_singleton.1 hm
      | waiting run wake => cases hm
      | ended n ending => cases hm
    exact hstarts _ hm ▸ hcut cut hmem

end Course

/-! ## Deliveries -/

namespace Delivery

open Transmission (History)

variable {σ : Type} {t : Transmission} {kind : Client σ} {around : Surroundings} {handler : Handler σ} {now : Moment}
  {body : ByteArray} {d : Delivery σ}

theorem settle_spec (c : Course σ) (kind : Client σ) (around : Surroundings) :
    (c.settle kind around).starts = c.starts ∧
    ((c.settle kind around).now = c.now ∨ ∃ cut ∈ around.cut, (c.settle kind around).now = c.now.max cut) := by
  unfold Course.settle
  cases hpending : c.pending around with
  | none => exact ⟨rfl, .inl rfl⟩
  | some cut =>
    unfold Course.pending at hpending
    split at hpending
    · cases hpending
    · exact ⟨rfl, .inr ⟨cut, hpending, rfl⟩⟩

/-- **A delivery is a history** of its transmission, by a client whose attempts do not end before they begin: it made
the same attempts, with the answers of the client, it has the same result, and it is over when that is, or when the
scheduled shutdown is.  None of the attempts begins after that shutdown. -/
theorem deliver?_history (hk : kind.Forward) (hopen : handler.shut = false) (hcut : ∀ cut ∈ around.cut, now ≤ cut)
    (hd : deliver? t kind around handler now body = some d) :
    (∃ xs n ending, let h := History.run t body now xs
      h.phase = .ended n ending ∧ d.result = t.result n ending ∧ d.starts = h.starts.reverse ∧
        (∀ r ∈ h.rounds, Course.Made kind around body (now.add t.timeout) r) ∧
        (d.finish = h.now ∨ ∃ cut ∈ around.cut, d.finish = h.now.max cut)) ∧
    ∀ cut ∈ around.cut, ∀ m ∈ d.starts, m ≤ cut := by
  obtain ⟨shut, client⟩ := handler
  obtain rfl : shut = false := hopen
  obtain ⟨⟨c, n, ending⟩, hcarry, rfl⟩ := Option.map_eq_some_iff.1 hd
  obtain ⟨xs, hend, -⟩ := (Course.tells_begun t body hcut).carry hk
  have ht := hend _ hcarry
  obtain ⟨hstarts, hfinish⟩ := settle_spec c kind around
  have hattempts : (History.run t body now xs).starts = c.starts := ht.attempts
  have hmoment : (History.run t body now xs).now = c.now := ht.moment
  refine ⟨⟨xs, n, ending, ht.place, rfl, ?_, ht.made, ?_⟩, fun cut hmem m hm => ?_⟩
  · exact congrArg List.reverse (hstarts.trans hattempts.symm)
  · rw [hmoment]
    exact hfinish
  · have hmade : m ∈ (c.settle kind around).starts := List.mem_reverse.1 hm
    rw [hstarts, ← hattempts] at hmade
    exact ht.inTime cut hmem m hmade

/-- A delivery that is not over when the fuel is, although each of its attempts is, made more attempts than 32 bits
can count, with the answers of the client. -/
theorem deliver?_eq_none (hk : kind.Forward) (hopen : handler.shut = false) (hcut : ∀ cut ∈ around.cut, now ≤ cut)
    (hall : ∀ client call, (kind.attempt around.clock client call).finish ≠ none)
    (hd : deliver? t kind around handler now body = none) :
    ∃ xs, let h := History.run t body now xs
      0x100000000 ≤ h.starts.length ∧ ∀ r ∈ h.rounds, Course.Made kind around body (now.add t.timeout) r := by
  obtain ⟨shut, client⟩ := handler
  obtain rfl : shut = false := hopen
  obtain ⟨xs, -, hfuel⟩ := (Course.tells_begun t body hcut).carry hk
  obtain ⟨⟨c, phase, ht⟩, hcount⟩ := hfuel (Option.map_eq_none_iff.1 hd) hall
  refine ⟨xs, ?_, ht.made⟩
  have hmoves : (History.run t body now xs).moves = 0 + fuel := hcount
  have hle := (History.sound_run t body now xs).stage.moves_le
  rw [hmoves, fuel] at hle
  rw [History.starts, List.length_map]
  omega

end Delivery

end Courier
