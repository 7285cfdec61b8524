import Courier.Client
import Courier.Proofs.Transmission.Report
/-!
# Shutdown - a transmission of an exporter that is shut down makes no other attempt

A transmission learns of a shutdown when its attempt is answered or when it is looked at during a wait.  Main
statements: whatever happens after the shutdown, it stays where it was or it ends (`Winds.step`), and the first event
that it hears of ends it (`step_ended`).
-/
namespace Courier

theorem Handler.shutdown_shut {σ : Type} (h : Handler σ) (kind : Client σ) : (h.shutdown kind).2.shut = true := by
  unfold Handler.shutdown
  split
  · assumption
  · rfl

namespace Transmission

/-- What a transmission comes to when the answer to its attempt is the last it hears of. -/
def lastWord (t : Transmission) : Except Failure Response → Except Fault Result
  | .error failure => .ok (.error failure)
  | .ok r =>
    if r.success then .ok (.ok ())
    else .ok (.error (.failed (t.signal.text ++ " export cancelled by shutdown")))

/-- An answer after the shutdown is the last one. -/
theorem replied_of_shut (t : Transmission) (run : Run) (reply : Except Failure Response) (now : Moment)
    (wall : Timestamp) (draw : Nat) : ∃ ending, t.replied run reply true now wall draw = .ended run.attempts ending ∧
      ∀ n, t.result n ending = t.lastWord reply := by
  cases reply with
  | error failure => exact ⟨.rejected failure, rfl, fun _ => rfl⟩
  | ok r =>
    cases hsuccess : r.success with
    | true => exact ⟨.delivered, by simp [replied, hsuccess], fun _ => by simp [result, lastWord, hsuccess]⟩
    | false => exact ⟨.cancelled, by simp [replied, hsuccess], fun _ => by simp [result, lastWord, hsuccess]⟩

namespace History

variable {t : Transmission} {h₀ h : History} {n : Nat} {ending : Ending}

/-- What may become of a transmission once the exporter is shut down. -/
inductive Winds (t : Transmission) (h h' : History) : Prop
  /-- Time passes, and nothing else. -/
  | still (phase : h'.phase = h.phase) (rounds : h'.rounds = h.rounds)
  /-- It waited, and is over. -/
  | interrupted {run : Run} {wake : Moment} (waited : h.phase = .waiting run wake)
      (ended : h'.phase = .ended run.attempts .cancelled) (starts : h'.starts = h.starts)
  /-- Its attempt was under way, and was its last one. -/
  | answered {run : Run} {reply : Except Failure Response} {ending : Ending} (attempted : h.phase = .attempting run)
      (ended : h'.phase = .ended run.attempts ending) (starts : h'.starts = h.starts)
      (last : lastReply? h'.rounds = some reply) (said : t.result run.attempts ending = t.lastWord reply)

theorem Winds.starts {h' : History} (hw : Winds t h h') : h'.starts = h.starts := by
  cases hw with
  | still _ rounds => exact congrArg (List.map Round.start) rounds
  | interrupted _ _ starts => exact starts
  | answered _ _ starts => exact starts

theorem Winds.of_waiting {h' : History} {run : Run} {wake : Moment} (hw : Winds t h h')
    (hphase : h.phase = .waiting run wake) (hover : h'.phase = .ended n ending) :
    h'.phase = .ended run.attempts .cancelled := by
  cases hw with
  | still phase => cases hover.symm.trans (phase.trans hphase)
  | interrupted waited ended =>
    cases waited.symm.trans hphase
    exact ended
  | answered attempted => cases attempted.symm.trans hphase

theorem Winds.of_attempting {h' : History} {run : Run} (hw : Winds t h h') (hphase : h.phase = .attempting run)
    (hover : h'.phase = .ended n ending) :
    ∃ last, lastReply? h'.rounds = some last ∧ n = run.attempts ∧ t.result n ending = t.lastWord last := by
  cases hw with
  | still phase => cases hover.symm.trans (phase.trans hphase)
  | interrupted waited => cases waited.symm.trans hphase
  | answered attempted ended _ last said =>
    cases attempted.symm.trans hphase
    cases ended.symm.trans hover
    exact ⟨_, last, rfl, said⟩

theorem map_start_modifyHead {f : Round → Round} (hf : ∀ r, (f r).start = r.start) (rounds : List Round) :
    (rounds.modifyHead f).map Round.start = rounds.map Round.start := by
  cases rounds with
  | nil => rfl
  | cons r rest => simp [hf]

theorem starts_answered (t : Transmission) (h : History) (run : Run) (a : Answer) :
    (h.answered t run a).starts = h.starts := by
  refine map_start_modifyHead ?_ h.rounds
  exact fun _ => rfl

theorem starts_roused (h : History) (now : Moment) (shut : Bool) (phase : Phase) :
    (h.roused now shut phase).starts = (opening h.body now shut phase).map Round.start ++ h.starts := by
  refine List.map_append.trans (congrArg _ ?_)
  refine map_start_modifyHead ?_ h.rounds
  exact fun _ => rfl

theorem lastReply?_answered (t : Transmission) (run : Run) (a : Answer) (hrounds : h.rounds ≠ []) :
    lastReply? (h.answered t run a).rounds = some a.reply := by
  obtain ⟨r, rest, hcons⟩ := List.exists_cons_of_ne_nil hrounds
  simp [answered, hcons, lastReply?]

/-- Whatever happens after the shutdown, a transmission stays where it was or ends. -/
theorem Winds.step (hw : Winds t h₀ h) (hrounds : ∀ run, h₀.phase = .attempting run → h₀.rounds ≠ []) {x : Happening}
    (hx : x.shut = true) : Winds t h₀ (h.step t x) := by
  cases hw with
  | interrupted waited ended starts =>
    rw [step_of_ended ended x]
    exact .interrupted waited ended starts
  | answered attempted ended starts last said =>
    rw [step_of_ended ended x]
    exact .answered attempted ended starts last said
  | still phase rounds =>
    have hstarts : h.starts = h₀.starts := congrArg (List.map Round.start) rounds
    obtain ⟨run, reply, wall, draw, hphase, -, hstep⟩ | ⟨run, wake, hphase, -, hstep⟩ | ⟨n, ending, -, hstep⟩ |
      ⟨-, hstep⟩ := step_cases t h x
    · obtain ⟨ending, hover, hsaid⟩ := replied_of_shut t run reply (h.now.add x.gap) wall draw
      rw [hstep, hx]
      refine .answered (phase ▸ hphase) hover ((starts_answered ..).trans hstarts) ?_ (hsaid _)
      exact lastReply?_answered t run _ (rounds ▸ hrounds run (phase ▸ hphase))
    · rw [hstep, hx]
      exact .interrupted (phase ▸ hphase) rfl ((starts_roused ..).trans hstarts)
    · rw [hstep]
      exact .still phase rounds
    · rw [hstep]
      exact .still phase rounds

/-- The event ends a phase when the exporter is shut down by then: the answer to an attempt, a look at a wait. -/
def Ends (event : Event) : Phase → Prop
  | .attempting _ => ∃ reply wall draw, event = .answered reply wall draw
  | .waiting _ _ => event = .resumed
  | .ended _ _ => True

theorem step_ended (hw : Winds t h₀ h) {x : Happening} (hx : x.shut = true) (hends : Ends x.event h₀.phase) :
    ∃ n ending, (h.step t x).phase = .ended n ending := by
  cases hw with
  | interrupted _ ended => exact ⟨_, _, (step_of_ended ended x).symm ▸ ended⟩
  | answered _ ended => exact ⟨_, _, (step_of_ended ended x).symm ▸ ended⟩
  | still phase =>
    rw [← phase] at hends
    obtain ⟨gap, shut, event⟩ := x
    obtain rfl : shut = true := hx
    cases hphase : h.phase with
    | attempting run =>
      obtain ⟨reply, wall, draw, rfl⟩ : ∃ reply wall draw, event = .answered reply wall draw := by
        rwa [hphase] at hends
      obtain ⟨ending, hover, -⟩ := replied_of_shut t run reply (h.now.add gap) wall draw
      exact ⟨run.attempts, ending, by rw [History.step, hphase]; exact hover⟩
    | waiting run wake =>
      obtain rfl : event = .resumed := by rwa [hphase] at hends
      exact ⟨run.attempts, .cancelled, by rw [History.step, hphase]; rfl⟩
    | ended n ending => exact ⟨n, ending, (step_of_ended hphase _).symm ▸ hphase⟩

/-- An event takes the time that it takes, or happens to what is over. -/
theorem step_now (t : Transmission) (h : History) (x : Happening) :
    (h.step t x).now = h.now ∨ (h.step t x).now = h.now.add x.gap := by
  obtain ⟨run, reply, wall, draw, -, -, hstep⟩ | ⟨run, wake, -, -, hstep⟩ | ⟨-, -, -, hstep⟩ | ⟨-, hstep⟩ :=
    step_cases t h x
  · exact .inr (congrArg now hstep)
  · refine .inr ((congrArg now hstep).trans ?_)
    simp only [resumed]
    split
    · rfl
    · split <;> rfl
  · exact .inl (congrArg now hstep)
  · exact .inr (congrArg now hstep)

end History
end Transmission
end Courier
