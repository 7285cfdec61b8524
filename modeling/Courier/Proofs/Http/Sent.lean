import Courier.Http.Client
/-!
# Sent - the requests of a client are those of its target

Main statement: whatever is asked of a client, and however it is answered, what it sends is the target's request for
some body, and every such request can be sent (`Http.Target.sends_iff`).
-/
namespace Courier
namespace Http

/-- A client for a target comes to a state by attempts and by being shut down. -/
inductive Target.Reaches (t : Target) : State → Prop
  | start (replies : List (Duration × Reply)) : t.Reaches { target := t, replies }
  | attempt {s : State} (clock : Clock) (call : Call) (before : t.Reaches s) : t.Reaches (attempt clock s call).next
  | shutdown {s : State} (before : t.Reaches s) : t.Reaches (shutdown s).2

/-- A client for a target sends a request. -/
def Target.Sends (t : Target) (r : Request) : Prop := ∃ s, t.Reaches s ∧ r ∈ s.sent

theorem sent_attempt (clock : Clock) (s : State) (call : Call) : (attempt clock s call).next.target = s.target ∧
    (attempt clock s call).next.sent = if s.shut then s.sent else s.target.request call.body :: s.sent := by
  unfold attempt
  split
  · exact ⟨rfl, rfl⟩
  · cases call.cut with
    | none => exact ⟨rfl, rfl⟩
    | some cut =>
      simp only
      split <;> exact ⟨rfl, rfl⟩

theorem sent_shutdown (s : State) : (shutdown s).2.target = s.target ∧ (shutdown s).2.sent = s.sent := by
  unfold shutdown
  split <;> exact ⟨rfl, rfl⟩

theorem Target.Reaches.sent {t : Target} {s : State} (h : t.Reaches s) :
    s.target = t ∧ ∀ r ∈ s.sent, ∃ body, r = t.request body := by
  induction h with
  | start replies => exact ⟨rfl, List.forall_mem_nil _⟩
  | @attempt s clock call _ ih =>
    obtain ⟨htarget, hsent⟩ := sent_attempt clock s call
    rw [htarget, hsent]
    refine ⟨ih.1, ?_⟩
    split
    · exact ih.2
    · rw [ih.1]
      exact List.forall_mem_cons.2 ⟨⟨_, rfl⟩, ih.2⟩
  | @shutdown s _ ih =>
    obtain ⟨htarget, hsent⟩ := sent_shutdown s
    rw [htarget, hsent]
    exact ih

theorem Target.sends_iff {t : Target} {r : Request} : t.Sends r ↔ ∃ body, r = t.request body := by
  constructor
  · rintro ⟨s, hreaches, hr⟩
    exact hreaches.sent.2 r hr
  · rintro ⟨body, rfl⟩
    let clock : Clock := ⟨0, fun _ => .epoch⟩
    let call : Call := { body, start := .zero, deadline := .epoch }
    refine ⟨_, .attempt clock call (.start []), ?_⟩
    rw [(sent_attempt _ _ _).2]
    exact List.mem_cons_self

end Http
end Courier
