import Courier.Proofs.Retry.Judgement
import Mathlib.Algebra.Order.Ring.Rat
import Mathlib.Order.Iterate
import Mathlib.Tactic.Linarith
import Mathlib.Tactic.Ring
/-!
# Windows - how random waits grow from decision to decision

Below the cap the product in double precision is exact, and beyond it no rounding brings it back (`Window.next_eq`).
A hint of at least a millisecond is where the next window grows from (`Occasion.window_of_asks`), and otherwise it
grows from the last one (`Occasion.window_of_unhinted`).  Main statements: a row of decisions without such hints brings
the window to the cap (`Decided.window_of_unhinted`), and chance has no part in it (`Decided.windows_eq_of_hints`).
-/
namespace Courier

/-- A whole number nearest to another, and the even one of two. -/
def RoundsToEven (x : ℚ) (n : ℕ) : Prop :=
  |x - n| ≤ 1 / 2 ∧ (|x - n| = 1 / 2 → Even n)

namespace Window

/-- Half of a number, a half going to the even neighbour. -/
def halfToEven (n : Nat) : Nat :=
  if n % 4 = 3 then n / 2 + 1 else n / 2

theorem halfToEven_cases (n : Nat) : ∃ q, (n = 4 * q ∧ halfToEven n = 2 * q) ∨
    (n = 4 * q + 1 ∧ halfToEven n = 2 * q) ∨ (n = 4 * q + 2 ∧ halfToEven n = 2 * q + 1) ∨
    (n = 4 * q + 3 ∧ halfToEven n = 2 * q + 2) := by
  refine ⟨n / 4, ?_⟩
  unfold halfToEven
  split <;> omega

theorem roundsToEven_of_even {n k : ℕ} (h : n = 2 * k + 1 ∨ n + 1 = 2 * k) (heven : Even k) :
    RoundsToEven (n / 2) k := by
  have hx : |(n : ℚ) / 2 - k| = 1 / 2 := by
    rcases h with h | h
    · rw [show (n : ℚ) = 2 * k + 1 by exact_mod_cast h, abs_of_nonneg] <;> linarith
    · rw [show (n : ℚ) = 2 * k - 1 by rw [eq_sub_iff_add_eq]; exact_mod_cast h, abs_of_neg] <;> linarith
  exact ⟨hx.le, fun _ => heven⟩

theorem roundsToEven_of_double {n k : ℕ} (h : n = 2 * k) : RoundsToEven (n / 2) k := by
  have hx : (n : ℚ) / 2 - k = 0 := by
    rw [show (n : ℚ) = 2 * k by exact_mod_cast h]
    ring
  rw [RoundsToEven, hx]
  norm_num

theorem roundsToEven_halfToEven (n : Nat) : RoundsToEven (n / 2) (halfToEven n) := by
  obtain ⟨q, ⟨hn, hk⟩ | ⟨hn, hk⟩ | ⟨hn, hk⟩ | ⟨hn, hk⟩⟩ := halfToEven_cases n
  · exact roundsToEven_of_double (by omega)
  · exact roundsToEven_of_even (.inl (by omega)) (Nat.even_iff.2 (by omega))
  · exact roundsToEven_of_double (by omega)
  · exact roundsToEven_of_even (.inr (by omega)) (Nat.even_iff.2 (by omega))

theorem halves_eq (w : Nat) :
    min (Double.nearest (3 * Double.nearest w)) (2 * largest) = min (3 * w) (2 * largest) := by
  unfold largest
  -- Products of 53 binary digits are exact, and longer ones stay above the cap however they are rounded.
  by_cases h : 3 * w < 0x20000000000000
  · rw [Double.nearest_of_lt (show w < 0x20000000000000 by omega), Double.nearest_of_lt h]
  · have hw := Double.le_two_mul_nearest w
    have hproduct := Double.le_two_mul_nearest (3 * Double.nearest w)
    omega

theorem next_eq (w : Nat) : next w = min (halfToEven (3 * w)) largest := by
  unfold next
  rw [halves_eq]
  generalize hhalves : min (3 * w) (2 * largest) = halves
  unfold largest at *
  obtain ⟨q, h | h | h | h⟩ := halfToEven_cases (3 * w)
  all_goals
    simp only
    split <;> omega

theorem next_le (w : Nat) : next w ≤ largest := by
  rw [next_eq]
  exact Nat.min_le_right _ _

theorem next_mono {a b : Nat} (h : a ≤ b) : next a ≤ next b := by
  rw [next_eq, next_eq]
  obtain ⟨q, ha⟩ := halfToEven_cases (3 * a)
  obtain ⟨r, hb⟩ := halfToEven_cases (3 * b)
  omega

theorem lt_next {w : Nat} (hpos : 1 ≤ w) (h : w < largest) : w < next w := by
  rw [next_eq]
  obtain ⟨q, hq⟩ := halfToEven_cases (3 * w)
  omega

theorem next_largest : next largest = largest := by decide +kernel

theorem two_le_next {w : Nat} (hpos : 1 ≤ w) : 2 ≤ next w := by
  rw [next_eq]
  obtain ⟨q, hq⟩ := halfToEven_cases (3 * w)
  unfold largest
  omega

theorem next_rounds (w : Nat) : ∃ k, RoundsToEven (3 / 2 * w) k ∧ next w = min k largest := by
  refine ⟨halfToEven (3 * w), ?_, next_eq w⟩
  have h := roundsToEven_halfToEven (3 * w)
  rwa [show ((3 * w : ℕ) : ℚ) / 2 = 3 / 2 * w by push_cast; ring] at h

/-- The window after a decision that no hint guides. -/
def grown (w : Nat) : Nat := next (max w 1)

theorem grown_mono : Monotone grown := fun _ _ h => next_mono (max_le_max_right 1 h)

theorem lt_grown {w : Nat} (h : w < largest) : w < grown w := by
  have hnext : max w 1 < next (max w 1) := lt_next (le_max_right w 1) (by unfold largest at *; omega)
  exact lt_of_le_of_lt (le_max_left w 1) hnext

theorem le_grown {w : Nat} (h : w ≤ largest) : w ≤ grown w := by
  rcases Nat.lt_or_eq_of_le h with h | rfl
  · exact (lt_grown h).le
  · exact next_largest.ge

theorem grown_iterate {n : Nat} (h : 21 ≤ n) : largest ≤ grown^[n] 0 :=
  calc largest ≤ grown^[21] 0 := by decide +kernel
    _ ≤ grown^[n] 0 := grown_mono.monotone_iterate_of_le_map (Nat.zero_le _) h

end Window

/-- A delay of more milliseconds than 64 bits hold is as good as the largest window. -/
theorem Decision.throttledBase_cases (window : Nat) (hint : Duration) :
    (hint.millis = 0 ∧ throttledBase window hint = window) ∨
    1 ≤ hint.millis ∧ (throttledBase window hint = hint.millis ∨
      Window.largest ≤ hint.millis ∧ throttledBase window hint = Window.largest) := by
  unfold throttledBase
  generalize hint.millis = ms
  split
  · exact .inl ⟨‹_›, rfl⟩
  · refine .inr ⟨Nat.pos_of_ne_zero ‹_›, ?_⟩
    split
    · exact .inl rfl
    · refine .inr ⟨?_, rfl⟩
      unfold Window.largest
      omega

/-- A response to decide on, and what is known then. -/
structure Occasion where
  response : Response
  now : Timestamp
  draw : Nat

namespace Occasion

def Asks (o : Occasion) (hint : Duration) : Prop :=
  o.response.Asks o.now hint

/-- The response asks for no delay, or for one below a millisecond. -/
def Unhinted (o : Occasion) : Prop :=
  ∀ hint, o.Asks hint → hint.millis = 0

def decision (o : Occasion) (window : Nat) : Option Decision :=
  Decision.onResponse o.response window o.now o.draw

/-- All that a decision can be. -/
theorem decision_cases {o : Occasion} {window : Nat} {d : Decision} (h : o.decision window = some d) :
    (∃ hint, o.Asks hint ∧ d.window = Window.next (Decision.throttledBase (max window 1) hint)) ∨
    (∀ hint, ¬ o.Asks hint) ∧ d.window = Window.grown window ∧
      d.delay = Decision.jitter (max window 1) o.draw := by
  have hlt := Decision.lt_of_onResponse h
  rw [decision, Decision.onResponse_of_lt hlt] at h
  obtain ⟨v, hv, hdecided⟩ := Option.bind_eq_some_iff.1 h
  rw [Decision.ofVerdict_of_lt hlt] at hdecided
  cases v with
  | permanent => cases hdecided
  | throttled hint =>
    cases hdecided
    exact .inl ⟨hint, Verdict.throttled_iff.1 hv, rfl⟩
  | passing =>
    cases hdecided
    refine .inr ⟨fun hint hasks => ?_, rfl, rfl⟩
    cases hv.symm.trans (Verdict.throttled_iff.2 hasks)

theorem asks_unique {o : Occasion} {a b : Duration} (ha : o.Asks a) (hb : o.Asks b) : a = b := by
  cases (Verdict.throttled_iff.2 ha).symm.trans (Verdict.throttled_iff.2 hb)
  rfl

theorem window_of_unhinted {o : Occasion} {window : Nat} {d : Decision} (h : o.decision window = some d)
    (hu : o.Unhinted) : d.window = Window.grown window := by
  obtain ⟨hint, hasks, hwindow⟩ | ⟨-, hwindow, -⟩ := decision_cases h
  · have hzero := hu hint hasks
    obtain ⟨-, hbase⟩ | ⟨hms, -⟩ := Decision.throttledBase_cases (max window 1) hint
    · rw [hwindow, hbase, Window.grown]
    · omega
  · exact hwindow

theorem window_of_asks {o : Occasion} {window : Nat} {d : Decision} (h : o.decision window = some d)
    {hint : Duration} (hasks : o.Asks hint) (hms : 1 ≤ hint.millis) : d.window = Window.next hint.millis := by
  obtain ⟨hint', hasks', hwindow⟩ | ⟨hnone, -⟩ := decision_cases h
  · obtain rfl := asks_unique hasks hasks'
    obtain ⟨hzero, -⟩ | ⟨-, hbase | ⟨hlarge, hbase⟩⟩ := Decision.throttledBase_cases (max window 1) hint
    · omega
    · rw [hwindow, hbase]
    · rw [hwindow, hbase]
      refine Nat.le_antisymm (Window.next_mono hlarge) ?_
      rw [Window.next_largest]
      exact Window.next_le _
  · exact absurd hasks (hnone hint)

theorem delay_lt {o : Occasion} {window : Nat} {d : Decision} (h : o.decision window = some d)
    (hnone : ∀ hint, ¬ o.Asks hint) : d.delay < .ofMillis (max window 1) := by
  obtain ⟨hint, hasks, -⟩ | ⟨-, -, hdelay⟩ := decision_cases h
  · exact absurd hasks (hnone hint)
  · have hlt : o.draw % max window 1 < max window 1 := Nat.mod_lt _ (le_max_right window 1)
    rw [hdelay]
    exact Nat.mul_lt_mul_of_pos_right hlt (by decide)

theorem window_mem {o : Occasion} {window : Nat} {d : Decision} (h : o.decision window = some d) :
    2 ≤ d.window ∧ d.window ≤ Window.largest := by
  obtain ⟨hint, -, hwindow⟩ | ⟨-, hwindow, -⟩ := decision_cases h
  · rw [hwindow]
    refine ⟨Window.two_le_next ?_, Window.next_le _⟩
    rcases Decision.throttledBase_cases (max window 1) hint with h | h
    · omega
    · unfold Window.largest at h
      omega
  · rw [hwindow]
    exact ⟨Window.two_le_next (le_max_right window 1), Window.next_le _⟩

theorem window_eq_of_hints {o o' : Occasion} (hsame : ∀ hint, o.Asks hint ↔ o'.Asks hint) {window : Nat}
    {d d' : Decision} (h : o.decision window = some d) (h' : o'.decision window = some d') :
    d'.window = d.window := by
  obtain ⟨hint, hasks, hwindow⟩ | ⟨hnone, hwindow, -⟩ := decision_cases h
  · obtain ⟨hint', hasks', hwindow'⟩ | ⟨hnone', -⟩ := decision_cases h'
    · rw [hwindow, hwindow', asks_unique hasks' ((hsame hint).1 hasks)]
    · exact absurd ((hsame hint).1 hasks) (hnone' hint)
  · obtain ⟨hint', hasks', -⟩ | ⟨-, hwindow', -⟩ := decision_cases h'
    · exact absurd ((hsame hint').2 hasks') (hnone hint')
    · rw [hwindow, hwindow']

end Occasion

/-- Decisions in a row for another attempt, each in the window that the one before it left. -/
inductive Decided : Nat → List Occasion → List Decision → Prop
  | nil (window : Nat) : Decided window [] []
  | cons {window : Nat} {o : Occasion} {d : Decision} {os : List Occasion} {ds : List Decision}
      (decided : o.decision window = some d) (rest : Decided d.window os ds) : Decided window (o :: os) (d :: ds)

/-- The first window of a row of decisions, and those that they leave. -/
def windows (window : Nat) (ds : List Decision) : List Nat :=
  window :: ds.map Decision.window

namespace Decided

variable {window : Nat} {os : List Occasion} {ds : List Decision}

theorem length_eq (h : Decided window os ds) : os.length = ds.length := by
  induction h with
  | nil => rfl
  | cons _ _ ih => simp [ih]

theorem getElem? (h : Decided window os ds) {i : Nat} {o : Occasion} (ho : os[i]? = some o) :
    ∃ w d, (windows window ds)[i]? = some w ∧ ds[i]? = some d ∧ o.decision w = some d ∧
      (windows window ds)[i + 1]? = some d.window := by
  induction h generalizing i with
  | nil => simp at ho
  | cons decided rest ih =>
    cases i with
    | zero =>
      cases ho
      exact ⟨_, _, rfl, rfl, decided, rfl⟩
    | succ i => exact ih ho

theorem decision_of_getElem? (h : Decided window os ds) {i w : Nat} {o : Occasion} {d : Decision}
    (ho : os[i]? = some o) (hd : ds[i]? = some d) (hw : (windows window ds)[i]? = some w) :
    o.decision w = some d := by
  obtain ⟨w', d', hw', hd', hdecided, -⟩ := h.getElem? ho
  cases hw.symm.trans hw'
  cases hd.symm.trans hd'
  exact hdecided

theorem exists_of_mem (h : Decided window os ds) {d : Decision} (hd : d ∈ ds) :
    ∃ o w, o ∈ os ∧ o.decision w = some d := by
  induction h with
  | nil => cases hd
  | cons decided rest ih =>
    rcases List.mem_cons.1 hd with rfl | hd
    · exact ⟨_, _, List.mem_cons_self, decided⟩
    · obtain ⟨o, w, ho, hdecided⟩ := ih hd
      exact ⟨o, w, List.mem_cons_of_mem _ ho, hdecided⟩

theorem concat (h : Decided window os ds) {w : Nat} {o : Occasion} {d : Decision}
    (hw : (windows window ds).getLast? = some w) (hd : o.decision w = some d) :
    Decided window (os ++ [o]) (ds ++ [d]) := by
  induction h with
  | nil =>
    cases hw
    exact .cons hd (.nil _)
  | cons decided rest ih =>
    refine .cons decided (ih ?_)
    rwa [windows, List.map_cons, List.getLast?_cons_cons] at hw

theorem iterate_le (h : Decided window os ds) {i : Nat} : ∀ (n w : Nat),
    (∀ k o, i ≤ k → k < i + n → os[k]? = some o → o.Unhinted) → (windows window ds)[i + n]? = some w →
      Window.grown^[n] 0 ≤ w
  | 0, w, _, _ => Nat.zero_le w
  | n + 1, w, hu, hw => by
    have hlt : i + n < os.length := by
      have := (List.getElem?_eq_some_iff.1 hw).1
      rw [h.length_eq]
      simp only [windows, List.length_cons, List.length_map] at this
      omega
    have ho : os[i + n]? = some os[i + n] := List.getElem?_eq_getElem hlt
    obtain ⟨w', d, hw', -, hdecided, hnext⟩ := h.getElem? ho
    cases hw.symm.trans hnext
    -- `grown` is monotone, so the bound on the window before this decision carries over.
    rw [Function.iterate_succ_apply', Occasion.window_of_unhinted hdecided (hu _ _ (by omega) (by omega) ho)]
    exact Window.grown_mono (iterate_le h n w' (fun k o hle hlt => hu k o hle (by omega)) hw')

/-- Twenty-one decisions without a hint reach the largest window from anywhere, and those after them stay there. -/
theorem window_of_unhinted (h : Decided window os ds) {i j w : Nat} (hij : i + 21 ≤ j)
    (hu : ∀ k o, i ≤ k → k < j → os[k]? = some o → o.Unhinted) (hw : (windows window ds)[j]? = some w) :
    w = Window.largest := by
  obtain ⟨n, rfl⟩ : ∃ n, j = i + n := ⟨j - i, by omega⟩
  refine Nat.le_antisymm ?_ (Nat.le_trans (Window.grown_iterate (by omega)) (h.iterate_le n w hu hw))
  obtain ⟨j, hj⟩ : ∃ j, i + n = j + 1 := ⟨i + n - 1, by omega⟩
  rw [hj, windows, List.getElem?_cons_succ, List.getElem?_map] at hw
  obtain ⟨d, hd, rfl⟩ := Option.map_eq_some_iff.1 hw
  obtain ⟨o, w, -, hdecided⟩ := h.exists_of_mem (List.mem_of_getElem? hd)
  exact (Occasion.window_mem hdecided).2

/-- The windows hang on nothing but what the responses ask for. -/
theorem windows_eq_of_hints (h : Decided window os ds) {os' : List Occasion} {ds' : List Decision}
    (hsame : List.Forall₂ (fun o o' => ∀ hint, o.Asks hint ↔ o'.Asks hint) os os')
    (h' : Decided window os' ds') : windows window ds' = windows window ds := by
  induction h generalizing os' ds' with
  | nil =>
    cases hsame
    cases h'
    rfl
  | cons decided rest ih =>
    cases hsame with
    | cons hhints hsame =>
      cases h' with
      | cons decided' rest' =>
        have hwindow := Occasion.window_eq_of_hints hhints decided decided'
        have htail := ih hsame (hwindow ▸ rest')
        simp only [windows, List.map_cons, List.cons.injEq, true_and] at htail ⊢
        exact ⟨hwindow, htail⟩

end Decided
end Courier
