import Courier.Client.Scripted
import Courier.Proofs.Transmission.Shutdown
/-!
# Traffic - the transmissions of one exporter, and its shutdown

Any number of transmissions share an exporter.  They begin and go on in any order, attempts leave the client in any
state, and the exporter may be shut down between any two steps of them.  Main statements: each transmission of an
exporter has a history of its own (`histories_run`), so that what holds of every history holds of each of them; and a
shutdown is final, wherever it comes between them (`shutdown_final`).
-/
namespace Courier
namespace Transmission

/-- What happens to an exporter in use. -/
inductive Occurrence (σ : Type)
  /-- A transmission of a payload begins. -/
  | transmit (body : ByteArray)
  /-- Something happens to the transmission with that number. -/
  | event (i : Nat) (event : Event)
  /-- An attempt leaves the client in another state. -/
  | client (next : σ)
  /-- An attempt calls off all transmissions. -/
  | callOff
  /-- The exporter is shut down. -/
  | shutdown

/-- No transmission begins from then on. -/
def Occurrence.shuts {σ : Type} : Occurrence σ → Bool
  | .callOff | .shutdown => true
  | _ => false

/-- An exporter in use. -/
structure Traffic (σ : Type) where
  handler : Handler σ
  now : Moment
  /-- Its transmissions, in the order in which they began. -/
  histories : List History := []
  /-- What its shutdowns came to, in their order. -/
  shutdowns : List Result := []

namespace Traffic

variable {σ : Type}

/-- What an occurrence makes of an exporter.  A transmission only learns of a shutdown at its own next event. -/
def occur (t : Transmission) (kind : Client σ) (s : Traffic σ) : Occurrence σ → Traffic σ
  | .transmit body => { s with histories := s.histories ++ [History.begun t body s.handler.shut s.now] }
  | .event i event =>
    { s with histories := s.histories.modify i fun h => h.step t ⟨s.now.since h.now, s.handler.shut, event⟩ }
  | .client next => { s with handler.client := next }
  | .callOff => { s with handler.shut := true }
  | .shutdown =>
    { s with
      handler := (s.handler.shutdown kind).2
      shutdowns := s.shutdowns ++ [(s.handler.shutdown kind).1] }

/-- An occurrence so long after the one before it. -/
def step (t : Transmission) (kind : Client σ) (s : Traffic σ) (x : Duration × Occurrence σ) : Traffic σ :=
  occur t kind { s with now := s.now.add x.1 } x.2

/-- An exporter after some occurrences. -/
def run (t : Transmission) (kind : Client σ) (s : Traffic σ) (xs : List (Duration × Occurrence σ)) : Traffic σ :=
  xs.foldl (step t kind) s

variable {t : Transmission} {kind : Client σ} {s : Traffic σ}

theorem run_cons (x : Duration × Occurrence σ) (xs : List (Duration × Occurrence σ)) :
    s.run t kind (x :: xs) = (s.step t kind x).run t kind xs := rfl

theorem run_append (xs ys : List (Duration × Occurrence σ)) :
    s.run t kind (xs ++ ys) = (s.run t kind xs).run t kind ys := List.foldl_append

@[simp] theorem step_now (x : Duration × Occurrence σ) : (s.step t kind x).now = s.now.add x.1 := by
  obtain ⟨gap, occurrence⟩ := x
  cases occurrence <;> rfl

theorem step_shut (x : Duration × Occurrence σ) : (s.step t kind x).handler.shut = (s.handler.shut || x.2.shuts) := by
  obtain ⟨gap, occurrence⟩ := x
  cases occurrence with
  | transmit body => exact (Bool.or_false _).symm
  | event i event => exact (Bool.or_false _).symm
  | client next => exact (Bool.or_false _).symm
  | callOff => exact (Bool.or_true _).symm
  | shutdown => exact (s.handler.shutdown_shut kind).trans (Bool.or_true _).symm

theorem step_stays_shut (hs : s.handler.shut = true) (x : Duration × Occurrence σ) :
    (s.step t kind x).handler.shut = true := by
  rw [step_shut, hs, Bool.true_or]

theorem run_shut (xs : List (Duration × Occurrence σ)) :
    (s.run t kind xs).handler.shut = (s.handler.shut || xs.any (·.2.shuts)) := by
  induction xs generalizing s with
  | nil => exact (Bool.or_false _).symm
  | cons x xs ih => rw [run_cons, ih, step_shut, List.any_cons, Bool.or_assoc]

/-! ## Transmissions -/

/-- All that an occurrence can be to a transmission: nothing, or an event of its own. -/
theorem step_getElem? (t : Transmission) (kind : Client σ) {i : Nat} {h : History} (hi : s.histories[i]? = some h)
    (x : Duration × Occurrence σ) :
    ((∀ event, x.2 ≠ .event i event) ∧ (s.step t kind x).histories[i]? = some h) ∨
    ∃ event, x.2 = .event i event ∧ (s.step t kind x).histories[i]? =
      some (h.step t ⟨(s.now.add x.1).since h.now, s.handler.shut, event⟩) := by
  obtain ⟨gap, occurrence⟩ := x
  cases occurrence with
  | transmit body => exact .inl ⟨nofun, List.getElem?_append_left (List.getElem?_eq_some_iff.1 hi).1 ▸ hi⟩
  | event j event =>
    by_cases hij : j = i
    · subst hij
      exact .inr ⟨event, rfl, by simp [step, occur, hi]⟩
    · refine .inl ⟨fun event' h => ?_, by simp [step, occur, hi, hij]⟩
      cases h
      exact hij rfl
  | client next => exact .inl ⟨nofun, hi⟩
  | callOff => exact .inl ⟨nofun, hi⟩
  | shutdown => exact .inl ⟨nofun, hi⟩

/-- Where a history of an exporter comes from. -/
def Own (t : Transmission) (h : History) : Prop :=
  (∃ body began xs, h = History.run t body began xs) ∨
  h.phase = .ended 0 (.rejected .alreadyShutdown) ∧ h.rounds = []

theorem own_begun (t : Transmission) (body : ByteArray) (shut : Bool) (now : Moment) :
    Own t (History.begun t body shut now) := by
  cases shut with
  | false => exact .inl ⟨body, now, [], rfl⟩
  | true => exact .inr ⟨rfl, rfl⟩

theorem Own.step {h : History} (ho : Own t h) (x : Happening) : Own t (h.step t x) := by
  obtain ⟨body, began, xs, rfl⟩ | ⟨hphase, hrounds⟩ := ho
  · exact .inl ⟨body, began, xs ++ [x], (History.run_concat ..).symm⟩
  · rw [History.step_of_ended hphase]
    exact .inr ⟨hphase, hrounds⟩

theorem Own.rounds_ne_nil {h : History} (ho : Own t h) {run : Run} (hphase : h.phase = .attempting run) :
    h.rounds ≠ [] := by
  obtain ⟨body, began, xs, rfl⟩ | ⟨hended, -⟩ := ho
  · obtain ⟨r, rest, hrounds, -⟩ := (hphase ▸ (History.sound_run t body began xs).stage).attempting_inv
    simp [hrounds]
  · cases hphase.symm.trans hended

/-- What holds of all transmissions of an exporter. -/
structure Orderly (t : Transmission) (s : Traffic σ) : Prop where
  own : ∀ h ∈ s.histories, Own t h
  timely : ∀ h ∈ s.histories, h.now ≤ s.now

/-- A transmission after an event is one that the event is not of, or what the event makes of one. -/
theorem mem_step_event {i : Nat} {event : Event} {gap : Duration} {h' : History}
    (hh' : h' ∈ (s.step t kind (gap, .event i event)).histories) : h' ∈ s.histories ∨
      ∃ h ∈ s.histories, h' = h.step t ⟨(s.now.add gap).since h.now, s.handler.shut, event⟩ := by
  obtain ⟨j, hj⟩ := List.mem_iff_getElem?.1 hh'
  simp only [step, occur, List.getElem?_modify, Option.map_eq_map, Option.map_eq_some_iff] at hj
  obtain ⟨h, hsome, hstep⟩ := hj
  split at hstep
  · exact .inr ⟨h, List.mem_of_getElem? hsome, hstep.symm⟩
  · exact .inl (hstep ▸ List.mem_of_getElem? hsome)

/-- An event that comes in time leaves a transmission in time. -/
theorem step_timely {h : History} {now : Moment} (hnow : h.now ≤ now) (shut : Bool) (event : Event) :
    (h.step t ⟨now.since h.now, shut, event⟩).now ≤ now := by
  obtain hstep | hstep := History.step_now t h ⟨now.since h.now, shut, event⟩
  · rw [hstep]
    exact hnow
  · rw [hstep]
    simp only [Moment.le_iff, Moment.nanos_add, Moment.nanos_since] at hnow ⊢
    omega

theorem Orderly.step (ho : s.Orderly t) (kind : Client σ) (x : Duration × Occurrence σ) :
    (s.step t kind x).Orderly t := by
  have hlater : s.now ≤ s.now.add x.1 := Nat.le_add_right _ _
  have htimely : ∀ h ∈ s.histories, h.now ≤ s.now.add x.1 := fun h hh => Nat.le_trans (ho.timely h hh) hlater
  obtain ⟨gap, occurrence⟩ := x
  cases occurrence with
  | transmit body =>
    exact ⟨List.forall_mem_append.2 ⟨ho.own, List.forall_mem_singleton.2 (own_begun ..)⟩,
      List.forall_mem_append.2 ⟨htimely, List.forall_mem_singleton.2 (Nat.le_refl _)⟩⟩
  | event i event =>
    refine ⟨fun h' hh' => ?_, fun h' hh' => ?_⟩
    · obtain hold | ⟨h, hh, rfl⟩ := mem_step_event hh'
      · exact ho.own h' hold
      · exact (ho.own h hh).step _
    · obtain hold | ⟨h, hh, rfl⟩ := mem_step_event hh'
      · exact htimely h' hold
      · exact step_timely (htimely h hh) s.handler.shut event
  | client next => exact ⟨ho.own, htimely⟩
  | callOff => exact ⟨ho.own, htimely⟩
  | shutdown => exact ⟨ho.own, htimely⟩

theorem Orderly.run (ho : s.Orderly t) (kind : Client σ) (xs : List (Duration × Occurrence σ)) :
    (s.run t kind xs).Orderly t := by
  induction xs generalizing s with
  | nil => exact ho
  | cons x xs ih => exact ih (ho.step kind x)

theorem Orderly.rounds_ne_nil (ho : s.Orderly t) {i : Nat} {h : History} (hi : s.histories[i]? = some h) :
    ∀ run, h.phase = .attempting run → h.rounds ≠ [] :=
  fun _ => (ho.own h (List.mem_of_getElem? hi)).rounds_ne_nil

/-- An exporter that was not used yet. -/
def idle (handler : Handler σ) (began : Moment) : Traffic σ :=
  { handler, now := began }

theorem orderly_idle (t : Transmission) (handler : Handler σ) (began : Moment) : (idle handler began).Orderly t :=
  ⟨List.forall_mem_nil _, List.forall_mem_nil _⟩

/-- **Each transmission of an exporter has a history of its own**, however many there are and in whatever order they
go on; those that begin after a shutdown are over at once. -/
theorem histories_run (t : Transmission) (kind : Client σ) (handler : Handler σ) (began : Moment)
    (xs : List (Duration × Occurrence σ)) : ∀ h ∈ ((idle handler began).run t kind xs).histories,
      (∃ body m ys, h = History.run t body m ys) ∨
      h.phase = .ended 0 (.rejected .alreadyShutdown) ∧ h.rounds = [] :=
  ((orderly_idle t handler began).run kind xs).own

/-! ## After the shutdown -/

theorem run_getElem?_of_ended (t : Transmission) (kind : Client σ) {i n : Nat} {h : History} {ending : Ending}
    (hi : s.histories[i]? = some h) (hphase : h.phase = .ended n ending) (xs : List (Duration × Occurrence σ)) :
    (s.run t kind xs).histories[i]? = some h := by
  induction xs generalizing s with
  | nil => exact hi
  | cons x xs ih =>
    obtain ⟨-, hstep⟩ | ⟨event, -, hstep⟩ := step_getElem? t kind hi x
    · exact ih hstep
    · rw [History.step_of_ended hphase] at hstep
      exact ih hstep

/-- Each transmission of an exporter that is shut down stays where it was, or ends. -/
theorem run_winds (kind : Client σ) {i : Nat} {h₀ h : History} (hs : s.handler.shut = true)
    (hi : s.histories[i]? = some h) (hrounds : ∀ run, h₀.phase = .attempting run → h₀.rounds ≠ [])
    (hw : History.Winds t h₀ h) (xs : List (Duration × Occurrence σ)) :
    ∃ h', (s.run t kind xs).histories[i]? = some h' ∧ History.Winds t h₀ h' := by
  induction xs generalizing s h with
  | nil => exact ⟨h, hi, hw⟩
  | cons x xs ih =>
    have hs' : (s.step t kind x).handler.shut = true := step_stays_shut hs x
    obtain ⟨-, hstep⟩ | ⟨event, -, hstep⟩ := step_getElem? t kind hi x
    · exact ih hs' hstep hw
    · exact ih hs' hstep (hw.step hrounds hs)

/-- A transmission that hears of the event it goes on by, after the shutdown, is over from then on. -/
theorem run_ended (kind : Client σ) {i : Nat} {h : History} (ho : s.Orderly t) (hs : s.handler.shut = true)
    (hi : s.histories[i]? = some h) {pre post : List (Duration × Occurrence σ)} {gap : Duration} {event : Event}
    (hends : History.Ends event h.phase) :
    ∃ h' n ending, (s.run t kind (pre ++ (gap, .event i event) :: post)).histories[i]? = some h' ∧
      h'.phase = .ended n ending ∧ h'.now ≤ (s.run t kind pre).now.add gap ∧ History.Winds t h h' := by
  have hrounds := ho.rounds_ne_nil hi
  obtain ⟨h₁, hi₁, hw₁⟩ := run_winds kind hs hi hrounds (.still rfl rfl) pre
  have hs₁ : (s.run t kind pre).handler.shut = true := by rw [run_shut, hs, Bool.true_or]
  have ho₂ := (ho.run kind pre).step kind (gap, .event i event)
  obtain ⟨hother, -⟩ | ⟨event', hevent, hi₂⟩ := step_getElem? t kind hi₁ (gap, .event i event)
  · exact absurd rfl (hother event)
  · cases hevent
    let x : Happening := ⟨((s.run t kind pre).now.add gap).since h₁.now, (s.run t kind pre).handler.shut, event⟩
    obtain ⟨n, ending, hphase⟩ := History.step_ended (x := x) hw₁ hs₁ hends
    refine ⟨_, n, ending, ?_, hphase, ?_, hw₁.step hrounds hs₁⟩
    · rw [run_append, run_cons]
      exact run_getElem?_of_ended t kind hi₂ hphase post
    · have hnow := ho₂.timely _ (List.mem_of_getElem? hi₂)
      rwa [step_now] at hnow

theorem run_getElem?_of_quiet (t : Transmission) (kind : Client σ) {i : Nat} {h : History}
    (hi : s.histories[i]? = some h) {xs : List (Duration × Occurrence σ)}
    (hquiet : ∀ x ∈ xs, ∀ event, x.2 ≠ .event i event) : (s.run t kind xs).histories[i]? = some h := by
  induction xs generalizing s with
  | nil => exact hi
  | cons x xs ih =>
    obtain ⟨hx, hxs⟩ := List.forall_mem_cons.1 hquiet
    obtain ⟨-, hstep⟩ | ⟨event, hevent, -⟩ := step_getElem? t kind hi x
    · exact ih hstep hxs
    · exact absurd hevent (hx event)

/-- An attempt that is under way at the shutdown keeps the first answer that comes. -/
theorem run_answered (kind : Client σ) {i : Nat} {h h' : History} {run : Run} (ho : s.Orderly t)
    (hs : s.handler.shut = true) (hi : s.histories[i]? = some h) (hphase : h.phase = .attempting run)
    {pre post : List (Duration × Occurrence σ)} {gap : Duration} {reply : Except Failure Response} {wall : Timestamp}
    {draw : Nat} (hquiet : ∀ x ∈ pre, ∀ event, x.2 ≠ .event i event)
    (hi' : (s.run t kind (pre ++ (gap, .event i (.answered reply wall draw)) :: post)).histories[i]? = some h') :
    lastReply? h'.rounds = some reply := by
  have hpre := run_getElem?_of_quiet t kind hi hquiet
  have hshut : (s.run t kind pre).handler.shut = true := by rw [run_shut, hs, Bool.true_or]
  obtain ⟨hother, -⟩ | ⟨event, hevent, hstep⟩ := step_getElem? t kind hpre (gap, .event i (.answered reply wall draw))
  · exact absurd rfl (hother _)
  · cases hevent
    have hends : History.Ends (.answered reply wall draw) h.phase := by
      rw [hphase]
      exact ⟨reply, wall, draw, rfl⟩
    let x : Happening :=
      ⟨((s.run t kind pre).now.add gap).since h.now, (s.run t kind pre).handler.shut, .answered reply wall draw⟩
    obtain ⟨n, ending, hover⟩ := History.step_ended (t := t) (x := x) (.still rfl rfl) hshut hends
    have hlast := run_getElem?_of_ended t kind hstep hover post
    rw [run_append, run_cons, hlast] at hi'
    cases hi'
    rw [History.step, hphase]
    exact History.lastReply?_answered t run _ (ho.rounds_ne_nil hi run hphase)

theorem run_shutdowns (t : Transmission) (kind : Client σ) (hs : s.handler.shut = true)
    (xs : List (Duration × Occurrence σ)) :
    ∃ later, (s.run t kind xs).shutdowns = s.shutdowns ++ later ∧ ∀ r ∈ later, r = .error .alreadyShutdown := by
  induction xs generalizing s with
  | nil => exact ⟨[], (List.append_nil _).symm, List.forall_mem_nil _⟩
  | cons x xs ih =>
    have hs' : (s.step t kind x).handler.shut = true := step_stays_shut hs x
    obtain ⟨later, hlater, hall⟩ := ih hs'
    obtain ⟨gap, occurrence⟩ := x
    cases occurrence with
    | shutdown =>
      refine ⟨.error .alreadyShutdown :: later, ?_, List.forall_mem_cons.2 ⟨rfl, hall⟩⟩
      rw [run_cons, hlater]
      simp [step, occur, Handler.shutdown, hs]
    | transmit body => exact ⟨later, hlater, hall⟩
    | event i event => exact ⟨later, hlater, hall⟩
    | client next => exact ⟨later, hlater, hall⟩
    | callOff => exact ⟨later, hlater, hall⟩

/-- The transmissions that begin after the shutdown are over at once. -/
theorem run_getElem?_late (hs : s.handler.shut = true) (xs : List (Duration × Occurrence σ)) {i : Nat} {h : History}
    (hlate : ∀ h', s.histories[i]? = some h' → h'.phase = .ended 0 (.rejected .alreadyShutdown) ∧ h'.rounds = [])
    (hi : (s.run t kind xs).histories[i]? = some h) :
    h.phase = .ended 0 (.rejected .alreadyShutdown) ∧ h.rounds = [] := by
  induction xs generalizing s with
  | nil => exact hlate h hi
  | cons x xs ih =>
    refine ih (step_stays_shut hs x) ?_ hi
    intro h' hh'
    cases hold : s.histories[i]? with
    | some h₀ =>
      obtain ⟨hphase, hrounds⟩ := hlate h₀ hold
      obtain ⟨-, hstep⟩ | ⟨event, -, hstep⟩ := step_getElem? t kind hold x
      · cases hstep.symm.trans hh'
        exact ⟨hphase, hrounds⟩
      · rw [History.step_of_ended hphase] at hstep
        cases hstep.symm.trans hh'
        exact ⟨hphase, hrounds⟩
    | none =>
      obtain ⟨gap, occurrence⟩ := x
      cases occurrence with
      | transmit body =>
        simp only [step, occur, List.getElem?_append_right (List.getElem?_eq_none_iff.1 hold), hs] at hh'
        cases List.mem_singleton.1 (List.mem_of_getElem? hh')
        exact ⟨rfl, rfl⟩
      | event j event => simp [step, occur, List.getElem?_modify, hold] at hh'
      | client next => cases hold.symm.trans hh'
      | callOff => cases hold.symm.trans hh'
      | shutdown => cases hold.symm.trans hh'

/-- What is final for a transmission when the exporter is shut down: it makes no other attempt; if it waits, it is
over when it is looked at next, however early; if its attempt is under way, it is over with the answer to it, which
tells the result; and what is over stays as it is. -/
structure Final (t : Transmission) (kind : Client σ) (cut : Traffic σ) (xs : List (Duration × Occurrence σ)) (i : Nat)
    (h h' : History) : Prop where
  starts : h'.starts = h.starts
  waiting : ∀ run wake, h.phase = .waiting run wake → ∀ pre gap post, xs = pre ++ (gap, .event i .resumed) :: post →
    h'.phase = .ended run.attempts .cancelled ∧ h'.now ≤ (cut.run t kind pre).now.add gap
  attempting : ∀ run, h.phase = .attempting run → ∀ pre gap reply wall draw post,
    xs = pre ++ (gap, .event i (.answered reply wall draw)) :: post →
    ∃ last ending, lastReply? h'.rounds = some last ∧
      ((∀ x ∈ pre, ∀ event, x.2 ≠ .event i event) → last = reply) ∧ h'.phase = .ended run.attempts ending ∧
      t.result run.attempts ending = t.lastWord last ∧ h'.now ≤ (cut.run t kind pre).now.add gap
  ended : ∀ n ending, h.phase = .ended n ending → h' = h

/-- **A shutdown is final**, wherever it comes.  The transmissions of an exporter end as they have to; those that
begin later are over at once and make no attempt; and the first shutdown of an exporter that nothing called off
before comes to what the client makes of it, and all others to nothing. -/
theorem shutdown_final (t : Transmission) (kind : Client σ) (handler : Handler σ) (began : Moment)
    (ys : List (Duration × Occurrence σ)) (gap : Duration) (xs : List (Duration × Occurrence σ)) :
    let before := (idle handler began).run t kind ys
    let cut := before.step t kind (gap, .shutdown)
    let after := cut.run t kind xs
    (∀ (i : Nat) (h : History), before.histories[i]? = some h →
      ∃ h', after.histories[i]? = some h' ∧ Final t kind cut xs i h h') ∧
    (∀ (i : Nat) (h : History), before.histories[i]? = none → after.histories[i]? = some h →
      h.rounds = [] ∧ ∃ n ending, h.phase = .ended n ending ∧ t.result n ending = .ok (.error .alreadyShutdown)) ∧
    ∃ later, after.shutdowns = before.shutdowns ++ (if handler.shut || ys.any (·.2.shuts) then
        .error .alreadyShutdown else (kind.shutdown before.handler.client).1) :: later ∧
      ∀ r ∈ later, r = .error .alreadyShutdown := by
  intro before cut after
  have ho : cut.Orderly t := ((orderly_idle t handler began).run kind ys).step kind _
  have hs : cut.handler.shut = true := by
    rw [step_shut]
    exact Bool.or_true _
  refine ⟨fun i h hi => ?_, fun i h hnone hi => ?_, ?_⟩
  · have hi : cut.histories[i]? = some h := hi
    obtain ⟨h', hi', hw⟩ := run_winds kind hs hi (ho.rounds_ne_nil hi) (.still rfl rfl) xs
    refine ⟨h', hi', hw.starts, ?_, ?_, ?_⟩
    · rintro run wake hphase pre gap post rfl
      have hends : History.Ends .resumed h.phase := by rw [hphase]; rfl
      obtain ⟨h'', n, ending, hi'', hover, hnow, hw⟩ := run_ended kind ho hs hi hends
      cases hi'.symm.trans hi''
      exact ⟨hw.of_waiting hphase hover, hnow⟩
    · rintro run hphase pre gap reply wall draw post rfl
      have hends : History.Ends (.answered reply wall draw) h.phase := by rw [hphase]; exact ⟨_, _, _, rfl⟩
      obtain ⟨h'', n, ending, hi'', hover, hnow, hw⟩ := run_ended kind ho hs hi hends
      cases hi'.symm.trans hi''
      obtain ⟨last, hlast, rfl, hsaid⟩ := hw.of_attempting hphase hover
      refine ⟨last, ending, hlast, fun hquiet => ?_, hover, hsaid, hnow⟩
      exact Option.some.inj (hlast.symm.trans (run_answered kind ho hs hi hphase hquiet hi'))
    · intro n ending hphase
      exact Option.some.inj (hi'.symm.trans (run_getElem?_of_ended t kind hi hphase xs))
  · have hlate : ∀ h', cut.histories[i]? = some h' →
        h'.phase = .ended 0 (.rejected .alreadyShutdown) ∧ h'.rounds = [] := by
      intro h' hsome
      cases hnone.symm.trans hsome
    obtain ⟨hphase, hrounds⟩ := run_getElem?_late hs xs hlate hi
    exact ⟨hrounds, 0, _, hphase, rfl⟩
  · obtain ⟨later, hlater, hall⟩ := run_shutdowns t kind hs xs
    refine ⟨later, ?_, hall⟩
    have hshut : before.handler.shut = (handler.shut || ys.any (·.2.shuts)) := run_shut ys
    rw [hlater, ← hshut]
    simp only [cut, step, occur, Handler.shutdown, List.append_assoc, List.singleton_append]
    split <;> rfl

/-- One transmission waits, and an attempt of another one is under way. -/
def twoUnderWay : List (Duration × Occurrence Scripted.State) :=
  [(.zero, .transmit "a".toUTF8), (.zero, .transmit "b".toUTF8),
    (.ofMillis 5, .event 0 (.answered (.ok (.grpc (.ended ⟨100⟩ { code := .unavailable }))) ⟨0⟩ 250))]

/-- Both come to their end, and the exporter is shut down once more. -/
def twoAfterwards : List (Duration × Occurrence Scripted.State) :=
  [(.ofMillis 1, .event 0 .resumed), (.ofMillis 1, .event 1 (.answered (.ok (.grpc (.accepted ⟨100⟩))) ⟨0⟩ 0)),
    (.zero, .shutdown)]

/-- The transmission that waits is called off after a millisecond, the other one may still succeed, and the second
shutdown comes to nothing. -/
theorem shutdown_final_two :
    let before := (idle { client := {} } ⟨7⟩).run patient Scripted.client twoUnderWay
    let cut := before.step patient Scripted.client (.zero, .shutdown)
    let after := cut.run patient Scripted.client twoAfterwards
    (∃ h, after.histories[0]? = some h ∧ h.phase = .ended 1 .cancelled ∧ h.now ≤ cut.now.add (.ofMillis 1)) ∧
    (∃ h ending, after.histories[1]? = some h ∧ h.phase = .ended 1 ending ∧
      ∃ last, lastReply? h.rounds = some last ∧ patient.result 1 ending = patient.lastWord last) ∧
    ∃ later, after.shutdowns = .ok () :: later ∧ ∀ r ∈ later, r = .error .alreadyShutdown := by
  obtain ⟨hfinal, -, hshutdowns⟩ :=
    shutdown_final patient Scripted.client { client := {} } ⟨7⟩ twoUnderWay .zero twoAfterwards
  obtain ⟨h, hi, hwaited⟩ := hfinal 0 _ rfl
  obtain ⟨h', hi', hattempted⟩ := hfinal 1 _ rfl
  obtain ⟨last, ending, hlast, -, hphase, hsaid, -⟩ :=
    hattempted.attempting _ rfl [_] _ _ _ _ [_] rfl
  exact ⟨⟨h, hi, hwaited.waiting _ _ rfl [] _ [_, _] rfl⟩, ⟨h', ending, hi', hphase, last, hlast, hsaid⟩, hshutdowns⟩

end Traffic
end Transmission
end Courier
