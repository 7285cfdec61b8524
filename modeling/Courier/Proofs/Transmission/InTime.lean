import Courier.Proofs.Transmission.Deadline
import Courier.Proofs.Transmission.Delivered
/-!
# InTime - a delivery ends by its deadline

An attempt may last until the deadline and no longer, whatever the wall clock says.  Main statement: by a client that
keeps to that, as those for HTTP and for remote calls do, and by a clock whose sleeps are exact, a delivery is over
when its time is, or with the scheduled shutdown (`Delivery.finish_le_deadline`).
-/
namespace Courier

/-- A call may last until the deadline, and no longer. -/
theorem Course.call_le_deadline {σ : Type} (c : Course σ) (around : Surroundings) (body : ByteArray)
    {deadline : Moment} (h : c.now ≤ deadline) :
    c.now.add ((c.call around body deadline).deadline.since (around.clock.wall c.now)) ≤ deadline := by
  have hsince : ((c.call around body deadline).deadline.since (around.clock.wall c.now)).nanos ≤
      (deadline.since c.now).nanos := by
    simp only [call, Timestamp.add?]
    split <;> simp [Timestamp.since]
  rw [Moment.le_iff] at h ⊢
  rw [Moment.nanos_since] at hsince
  rw [Moment.nanos_add]
  omega

namespace Delivery

open Transmission (History)

variable {σ : Type} {t : Transmission} {kind : Client σ} {around : Surroundings} {handler : Handler σ} {now : Moment}
  {body : ByteArray} {d : Delivery σ}

/-- **A delivery ends in time**, where its attempts and its sleeps do: by the deadline, or with the scheduled
shutdown. -/
theorem finish_le_deadline (hk : kind.Forward) (hin : kind.InTime) (hclock : around.clock.tick = 0)
    (hopen : handler.shut = false) (hcut : ∀ cut ∈ around.cut, now ≤ cut)
    (hd : deliver? t kind around handler now body = some d) :
    d.finish ≤ now.add t.timeout ∨ ∃ cut ∈ around.cut, d.finish = cut := by
  obtain ⟨⟨xs, n, ending, hphase, -, -, hmade, hfinish⟩, -⟩ := deliver?_history hk hopen hcut hd
  obtain ⟨-, hkept, hstage⟩ := History.sound_run t body now xs
  have hstarts := hkept.linked.start_le (Nat.le_add_right _ _)
  have hanswers : ∀ r ∈ (History.run t body now xs).rounds, ∀ a ∈ r.answer, a.finish ≤ now.add t.timeout := by
    intro r hr a ha
    obtain ⟨c, hstart, hlast, -⟩ := (hmade r hr).answered a ha
    refine Nat.le_trans (hin _ _ _ _ hclock hlast) (c.call_le_deadline around body ?_)
    exact hstart ▸ hstarts r hr
  have hsleeps : ∀ r ∈ (History.run t body now xs).rounds, ∀ w ∈ r.wait, ∀ m ∈ w.finish, m ≤ w.wake := by
    intro r hr w hw m hm
    have hslept := (hmade r hr).slept w hw m hm
    rwa [Clock.alarm_of_exact hclock] at hslept
  rw [hphase] at hstage
  have hle : (History.run t body now xs).now ≤ now.add t.timeout := by
    cases hstage with
    | ended exit => exact exit.le_deadline hkept.waits hanswers hsleeps
  obtain hsame | ⟨cut, hmem, hmax⟩ := hfinish
  · exact .inl (hsame ▸ hle)
  · obtain hbefore | hafter := Nat.le_total cut.nanos (History.run t body now xs).now.nanos
    · rw [Moment.max, show Nat.max _ _ = _ from Nat.max_eq_left hbefore] at hmax
      exact .inl (hmax ▸ hle)
    · rw [Moment.max, show Nat.max _ _ = _ from Nat.max_eq_right hafter] at hmax
      exact .inr ⟨cut, hmem, hmax⟩

end Delivery

end Courier
