import Courier.Client.Scripted
import Courier.Grpc.Client
import Courier.Http.Client
/-!
# Attempts - when the attempts of a client end

Main statements: the attempts of every client there is do not end before they begin (`Scripted.forward`,
`Http.forward`, `Grpc.forward`), and those over HTTP and by remote calls do not last longer than they may
(`Http.inTime`, `Grpc.inTime`).
-/
namespace Courier

namespace Client

variable {σ : Type}

/-- The attempts of a client do not end before they begin. -/
def Forward (kind : Client σ) : Prop :=
  ∀ clock s call finish, (∀ cut ∈ call.cut, call.start ≤ cut) → (kind.attempt clock s call).finish = some finish →
    call.start ≤ finish

/-- The attempts of a client do not last longer than they may, on a clock whose sleeps are exact. -/
def InTime (kind : Client σ) : Prop :=
  ∀ clock s call finish, clock.tick = 0 → (kind.attempt clock s call).finish = some finish →
    finish ≤ call.start.add (call.deadline.since (clock.wall call.start))

end Client

namespace Clock

variable {clock : Clock}

theorem le_sleep (clock : Clock) (now : Moment) (d : Duration) : now ≤ clock.sleep now d :=
  Nat.le_trans (Nat.le_add_right _ _) (clock.le_alarm _)

theorem alarm_of_exact (h : clock.tick = 0) (m : Moment) : clock.alarm m = m :=
  if_pos h

theorem sleep_allowance_le (h : clock.tick = 0) (call : Call) (limit : Duration) :
    clock.sleep call.start (call.allowance clock limit) ≤
      call.start.add (call.deadline.since (clock.wall call.start)) := by
  rw [sleep, alarm_of_exact h, Call.allowance, Moment.le_iff, Moment.nanos_add, Moment.nanos_add, Duration.nanos_min]
  omega

end Clock

/-- An attempt ends when it begins, or when it is cut, or between its start and the last moment that it has. -/
inductive Call.EndsBy (call : Call) (last finish : Moment) : Prop
  | atOnce (h : finish = call.start)
  | cut (h : finish ∈ call.cut) (before : finish ≤ last)
  | within (after : call.start ≤ finish) (before : finish ≤ last)

theorem Call.EndsBy.start_le {call : Call} {last finish : Moment} (h : call.EndsBy last finish)
    (hcut : ∀ cut ∈ call.cut, call.start ≤ cut) : call.start ≤ finish := by
  cases h with
  | atOnce h => exact h ▸ Nat.le_refl _
  | cut h before => exact hcut finish h
  | within after before => exact after

theorem Call.EndsBy.le_last {call : Call} {last finish : Moment} (h : call.EndsBy last finish)
    (hlast : call.start ≤ last) : finish ≤ last := by
  cases h with
  | atOnce h => exact h ▸ hlast
  | cut h before => exact before
  | within after before => exact before

theorem Scripted.forward : Scripted.client.Forward := by
  intro clock s call finish hcut hfinish
  have hready := clock.le_sleep call.start s.take.1.delay
  simp only [Scripted.client, Scripted.attempt, Scripted.Answer.finish] at hfinish
  split at hfinish
  · split at hfinish
    · cases hfinish
    · split at hfinish
      · cases hfinish
        exact hready
      · cases hfinish
        exact hcut _ ‹_›
  · cases hfinish
    exact hready

/-! ## HTTP -/

namespace Http

variable {clock : Clock} {s : State} {call : Call} {finish : Moment}

theorem Reply.outcome_within (r : Reply) (clock : Clock) (call : Call) (delay limit : Duration) :
    call.start ≤ (r.outcome clock call delay limit).1 ∧
    (r.outcome clock call delay limit).1 ≤ clock.sleep call.start limit := by
  have hup := clock.le_sleep call.start limit
  have harrival : ∀ m ∈ r.arrival clock call.start delay, call.start ≤ m := by
    intro m hm
    cases r with
    | hang => cases hm
    | status code headers =>
      cases hm
      exact clock.le_sleep call.start delay
    | error reason =>
      cases hm
      exact clock.le_sleep call.start delay
  unfold outcome
  cases hwhen : r.arrival clock call.start delay with
  | none => exact ⟨hup, Nat.le_refl _⟩
  | some m =>
    simp only
    split
    · exact ⟨harrival m hwhen, ‹_›⟩
    · exact ⟨hup, Nat.le_refl _⟩

theorem attempt_endsBy (h : (attempt clock s call).finish = some finish) :
    call.EndsBy (clock.sleep call.start (call.allowance clock s.target.timeout)) finish := by
  obtain ⟨hafter, hbefore⟩ := s.take.1.2.outcome_within clock call s.take.1.1 (call.allowance clock s.target.timeout)
  simp only [attempt] at h
  split at h
  · cases h
    exact .atOnce rfl
  · split at h
    · split at h
      · rename_i hearly
        cases h
        exact .cut ‹_› (Nat.le_trans (Nat.le_of_lt hearly) hbefore)
      · cases h
        exact .within hafter hbefore
    · cases h
      exact .within hafter hbefore

theorem forward : client.Forward := by
  intro clock s call finish hcut hfinish
  exact (attempt_endsBy hfinish).start_le hcut

theorem inTime : client.InTime := by
  intro clock s call finish hclock hfinish
  have hlast := (attempt_endsBy hfinish).le_last (clock.le_sleep ..)
  exact Nat.le_trans hlast (Clock.sleep_allowance_le hclock call s.target.timeout)

end Http

/-! ## Remote calls -/

namespace Grpc

variable {clock : Clock} {s : State} {call : Call} {finish : Moment}

theorem Reply.outcome_within (r : Reply) (clock : Clock) (call : Call) (delay limit : Duration) :
    call.start ≤ (r.outcome clock call delay limit).1 ∧
    (r.outcome clock call delay limit).1 ≤ clock.sleep call.start limit := by
  have hup := clock.le_sleep call.start limit
  cases r with
  | hang => exact ⟨hup, Nat.le_refl _⟩
  | status final =>
    simp only [outcome]
    split
    · rename_i hearly
      exact ⟨clock.le_sleep call.start delay, Nat.le_of_lt hearly⟩
    · exact ⟨hup, Nat.le_refl _⟩

theorem attempt_endsBy (h : (attempt clock s call).finish = some finish) :
    call.EndsBy (clock.sleep call.start (call.allowance clock s.target.timeout)) finish := by
  obtain ⟨hafter, hbefore⟩ := s.take.1.2.outcome_within clock call s.take.1.1 (call.allowance clock s.target.timeout)
  simp only [attempt, callThrough] at h
  split at h
  · cases h
    exact .atOnce rfl
  · split at h
    · cases h
      exact .atOnce rfl
    · split at h
      · cases h
        exact .atOnce rfl
      · split at h
        · split at h
          · rename_i hearly
            cases h
            exact .cut ‹_› (Nat.le_trans (Nat.le_of_lt hearly) hbefore)
          · cases h
            exact .within hafter hbefore
        · cases h
          exact .within hafter hbefore

theorem forward : client.Forward := by
  intro clock s call finish hcut hfinish
  exact (attempt_endsBy hfinish).start_le hcut

theorem inTime : client.InTime := by
  intro clock s call finish hclock hfinish
  have hlast := (attempt_endsBy hfinish).le_last (clock.le_sleep ..)
  exact Nat.le_trans hlast (Clock.sleep_allowance_le hclock call s.target.timeout)

end Grpc
end Courier
