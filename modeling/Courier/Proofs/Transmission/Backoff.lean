import Courier.Proofs.Retry.Windows
import Courier.Proofs.Transmission.Traffic
/-!
# Backoff - each transmission has windows of its own

The attempts of a transmission are answered in windows that begin at one second, and the decision on each answer
leaves the next one (`Linked.decided`).  Main statement: every row of decisions leaves windows that the hints of its
responses and the window before fix, and each transmission of an exporter goes through such a row from its start,
whatever the transmissions before it did (`Traffic.windows_exact`).
-/
namespace Courier
namespace Transmission

/-- What was to be decided on the answer to an attempt. -/
def Round.occasion (r : Round) : Option Occasion :=
  r.answer.bind fun a =>
    match a.reply with
    | .error _ => none
    | .ok response => some ⟨response, a.wall, a.draw⟩

variable {t : Transmission} {began deadline : Moment}

theorem Round.Demands.occasion {a : Round} {answer : Answer} {r : Response} {d : Decision}
    (h : a.Demands deadline answer r d) : ∃ o, a.occasion = some o ∧ o.decision a.window = some d :=
  ⟨⟨r, answer.wall, answer.draw⟩, by simp [Round.occasion, h.answered, h.replied], h.decided⟩

/-- The attempts but the last one are those whose answers were decided on, from the first window on. -/
theorem Linked.decided {rounds : List Round} (h : Linked t began deadline rounds) (hne : rounds ≠ []) :
    ∃ os ds, Decided Window.initial os ds ∧ rounds.reverse.map Round.window = windows Window.initial ds ∧
      rounds.tail.reverse.map Round.occasion = os.map some ∧
      rounds.tail.reverse.map Round.decision = ds.map some := by
  induction h with
  | none => exact absurd rfl hne
  | first start window => exact ⟨[], [], .nil _, by simp [windows, window], rfl, rfl⟩
  | @next a b rest repeats follows before ih =>
    obtain ⟨os, ds, hdecided, hwindows, hoccasions, hdecisions⟩ := ih (List.cons_ne_nil _ _)
    obtain ⟨answer, response, d, demands, hwindow, -⟩ := follows
    obtain ⟨o, ho, hd⟩ := demands.occasion
    have hlast : (windows Window.initial ds).getLast? = some a.window := by
      rw [← hwindows]
      simp
    refine ⟨os ++ [o], ds ++ [d], hdecided.concat hlast hd, ?_, ?_, ?_⟩
    · rw [List.reverse_cons, List.map_append, hwindows]
      simp [windows, hwindow]
    · simpa [ho] using hoccasions
    · simpa [demands.decision] using hdecisions

namespace Traffic

/-- **The windows are exact.** In every row of decisions for another attempt, from any window on, each window is from
two to five thousand milliseconds.  A hint of at least a millisecond takes it to half as much again, a half going to
the even neighbour, and otherwise it grows so from the one before, strictly below the cap: after twenty-one decisions
without such a hint it is at the cap, from anywhere, and stays there.  A delay without a hint is below the window.
Chance has no part in the windows.  And the windows of each transmission of an exporter begin at a thousand,
whatever other transmissions did. -/
theorem windows_exact :
    (∀ window os ds, Decided window os ds →
      (∀ d ∈ ds, 2 ≤ d.window ∧ d.window ≤ 5000) ∧
      (∀ (i w : ℕ) (o : Occasion) (d : Decision), os[i]? = some o → ds[i]? = some d → (windows window ds)[i]? = some w →
        (o.Unhinted → (∃ k, RoundsToEven (3 / 2 * (max w 1 : ℕ)) k ∧ d.window = min k 5000) ∧
          (w ≤ 5000 → w ≤ d.window) ∧ (w < 5000 → w < d.window)) ∧
        (∀ hint, o.Asks hint → 1 ≤ hint.millis →
          ∃ k, RoundsToEven (3 / 2 * hint.millis) k ∧ d.window = min k 5000) ∧
        ((∀ hint, ¬ o.Asks hint) → d.delay < .ofMillis (max w 1))) ∧
      (∀ i j w, i + 21 ≤ j → (∀ k o, i ≤ k → k < j → os[k]? = some o → o.Unhinted) →
        (windows window ds)[j]? = some w → w = 5000) ∧
      ∀ os' ds', List.Forall₂ (fun o o' => ∀ hint, o.Asks hint ↔ o'.Asks hint) os os' → Decided window os' ds' →
        windows window ds' = windows window ds) ∧
    ∀ {σ : Type} (t : Transmission) (kind : Client σ) (handler : Handler σ) (began : Moment)
      (xs : List (Duration × Occurrence σ)), ∀ h ∈ ((idle handler began).run t kind xs).histories, h.rounds ≠ [] →
      ∃ os ds, Decided 1000 os ds ∧ h.rounds.reverse.map Round.window = windows 1000 ds ∧
        h.rounds.tail.reverse.map Round.occasion = os.map some ∧
        h.rounds.tail.reverse.map Round.decision = ds.map some := by
  refine ⟨fun window os ds hdecided => ⟨fun d hd => ?_, fun i w o d ho hd hw => ⟨fun hu => ?_, ?_, ?_⟩, ?_, ?_⟩, ?_⟩
  · obtain ⟨o, w, -, h⟩ := hdecided.exists_of_mem hd
    exact Occasion.window_mem h
  · rw [Occasion.window_of_unhinted (hdecided.decision_of_getElem? ho hd hw) hu]
    exact ⟨Window.next_rounds _, Window.le_grown, Window.lt_grown⟩
  · intro hint hasks hms
    rw [Occasion.window_of_asks (hdecided.decision_of_getElem? ho hd hw) hasks hms]
    exact Window.next_rounds _
  · exact Occasion.delay_lt (hdecided.decision_of_getElem? ho hd hw)
  · intro i j w
    exact hdecided.window_of_unhinted
  · intro os' ds'
    exact hdecided.windows_eq_of_hints
  · intro σ t kind handler began xs h hmem hne
    obtain ⟨body, m, ys, rfl⟩ | ⟨-, hnone⟩ := histories_run t kind handler began xs h hmem
    · exact (History.sound_run t body m ys).kept.linked.decided hne
    · exact absurd hnone hne

/-- A server that asks for all the time there is, and then is unavailable. -/
def spell : List Occasion :=
  [⟨.http (.received ⟨100⟩ 429 [("retry-after", "18446744073709551615".toUTF8)]), ⟨0⟩, 3⟩,
    ⟨.grpc (.ended ⟨100⟩ { code := .unavailable }), ⟨0⟩, 7654321⟩]

def given : List Decision :=
  [⟨true, .ofSeconds 18446744073709551615, 5000⟩, ⟨false, .ofMillis 4321, 5000⟩]

theorem decided_spell : Decided 0 spell given :=
  .cons (by decide +kernel) (.cons (by decide +kernel) (.nil _))

theorem hints_spell : ∃ a b : Occasion, spell = [a, b] ∧ a.Asks (.ofSeconds 18446744073709551615) ∧
    ∀ hint, ¬ b.Asks hint := by
  refine ⟨_, _, rfl, .header (.inl rfl) (by decide +kernel), fun hint hasks => ?_⟩
  have hnone : Decision.verdict? (.grpc (.ended ⟨100⟩ { code := .unavailable })) ⟨0⟩ = some .passing := by
    decide +kernel
  cases hnone.symm.trans (Verdict.throttled_iff.2 hasks)

/-- More milliseconds than 64 bits hold are cut to the cap, where the window stays, and the wait after that is below
it; and the second of two transmissions begins at a thousand, while the first one waits in a larger window. -/
theorem windows_exact_spell :
    (∃ a b : Occasion, spell = [a, b] ∧ a.Asks (.ofSeconds 18446744073709551615) ∧
      0x10000000000000000 ≤ (Duration.ofSeconds 18446744073709551615).millis ∧
      (∃ k, RoundsToEven (3 / 2 * (Duration.ofSeconds 18446744073709551615).millis) k ∧ 5000 = min k 5000) ∧
      b.Unhinted ∧ Duration.ofMillis 4321 < .ofMillis 5000) ∧
    ∃ h, ((idle { client := {} } ⟨7⟩).run patient Scripted.client twoUnderWay).histories[1]? = some h ∧
      ∃ ds, h.rounds.reverse.map Round.window = windows 1000 ds := by
  obtain ⟨hrows, htransmissions⟩ := windows_exact
  obtain ⟨-, hsteps, -⟩ := hrows 0 spell given decided_spell
  obtain ⟨a, b, hspell, ha, hb⟩ := hints_spell
  have hfirst := hsteps 0 0 a _ (by rw [hspell]; rfl) rfl rfl
  have hsecond := hsteps 1 5000 b _ (by rw [hspell]; rfl) rfl rfl
  refine ⟨⟨a, b, hspell, ha, by decide, hfirst.2.1 _ ha (by decide), fun hint hasks => absurd hasks (hb hint),
    hsecond.2.2 hb⟩, _, rfl, ?_⟩
  obtain ⟨-, ds, -, hwindows, -⟩ := htransmissions patient Scripted.client { client := {} } ⟨7⟩ twoUnderWay _
    (List.mem_of_getElem? (show _[1]? = some _ from rfl)) (List.cons_ne_nil _ _)
  exact ⟨ds, hwindows⟩

end Traffic
end Transmission
end Courier
