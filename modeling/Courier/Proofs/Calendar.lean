import Courier.Calendar
import Mathlib.Algebra.Order.BigOperators.Group.List
import Mathlib.Algebra.Order.Group.Nat
/-!
# Calendar - the dates one day after the other

The day after a date is the next of its month, or the first of the next month, or the first of January.  Main
statements: the days of a date count the steps that lead to it from the first of January 1970 (`Calendar.days_date`),
and no other date that exists has as many (`Calendar.date_days`).
-/
namespace Courier
namespace Calendar

def Date.next (d : Date) : Date :=
  if d.day < daysInMonth d.year d.month then { d with day := d.day + 1 }
  else if d.month < 12 then ⟨d.year, d.month + 1, 1⟩
  else ⟨d.year + 1, 1, 1⟩

/-- The date so many days after the first of January 1970. -/
def date : Nat → Date
  | 0 => ⟨1970, 1, 1⟩
  | n + 1 => (date n).next

/-! ## Months and years -/

theorem daysInMonth_le (y m : Nat) : daysInMonth y m ≤ 31 := by
  unfold daysInMonth
  split
  · split <;> decide
  all_goals decide

theorem daysBeforeMonth_le (y m : Nat) : daysBeforeMonth y m ≤ (m - 1) * 31 := by
  show ((List.range (m - 1)).map fun i => daysInMonth y (i + 1)).sum ≤ _
  have h := List.sum_le_card_nsmul ((List.range (m - 1)).map fun i => daysInMonth y (i + 1)) 31 (by
    simp only [List.mem_map]
    rintro _ ⟨i, -, rfl⟩
    exact daysInMonth_le _ _)
  rwa [List.length_map, List.length_range] at h

theorem daysBeforeYear_le (y : Nat) : daysBeforeYear y ≤ 366 * y := by
  unfold daysBeforeYear leapsBefore
  omega

theorem daysInMonth_pos (y m : Nat) : 1 ≤ daysInMonth y m := by
  unfold daysInMonth
  split
  · split <;> decide
  all_goals decide

theorem daysBeforeMonth_succ (y : Nat) {m : Nat} (h : 1 ≤ m) :
    daysBeforeMonth y (m + 1) = daysBeforeMonth y m + daysInMonth y m := by
  obtain ⟨k, rfl⟩ := Nat.exists_eq_add_of_le' h
  show ((List.range (k + 1)).map _).sum = ((List.range k).map _).sum + _
  rw [List.range_succ, List.map_append, List.sum_append, List.map_singleton, List.sum_singleton]

/-- The months of a year make up its days. -/
theorem daysBeforeMonth_thirteen (y : Nat) : daysBeforeMonth y 13 = if isLeap y then 366 else 365 := by
  cases h : isLeap y <;> simp [daysBeforeMonth, daysInMonth, h, List.range_succ]

theorem isLeap_iff {y : Nat} : isLeap y = true ↔ 4 ∣ y ∧ (¬ 100 ∣ y ∨ 400 ∣ y) := by
  simp [isLeap, Nat.dvd_iff_mod_eq_zero]

theorem leapsBefore_succ {y : Nat} (h : 1 ≤ y) : leapsBefore (y + 1) = leapsBefore y + if isLeap y then 1 else 0 := by
  obtain ⟨k, rfl⟩ := Nat.exists_eq_add_of_le' h
  -- A multiple of 400 is one of 100, and that is one of 4: of the eight cases four remain.
  have hfour : 100 ∣ k + 1 → 4 ∣ k + 1 := Nat.dvd_trans (by decide)
  have hhundred : 400 ∣ k + 1 → 100 ∣ k + 1 := Nat.dvd_trans (by decide)
  have hle : k / 100 ≤ k / 4 := Nat.div_le_div_left (by decide) (by decide)
  simp only [leapsBefore, Nat.add_sub_cancel, Nat.succ_div, isLeap_iff]
  by_cases h4 : 4 ∣ k + 1 <;> by_cases h100 : 100 ∣ k + 1 <;> by_cases h400 : 400 ∣ k + 1 <;>
    simp [h4, h100, h400] at hfour hhundred ⊢ <;> omega

theorem leapsBefore_le {y : Nat} (h : 1970 ≤ y) : leapsBefore 1970 ≤ leapsBefore y := by
  induction y, h using Nat.le_induction with
  | base => exact Nat.le_refl _
  | succ y hy ih => exact Nat.le_trans ih (Nat.le.intro (leapsBefore_succ (Nat.one_le_of_lt hy)).symm)

theorem daysBeforeYear_succ {y : Nat} (h : 1970 ≤ y) :
    daysBeforeYear (y + 1) = daysBeforeYear y + daysBeforeMonth y 13 := by
  have hleaps := leapsBefore_succ (y := y) (by omega)
  have hle := leapsBefore_le h
  rw [daysBeforeMonth_thirteen, daysBeforeYear, daysBeforeYear]
  cases hleap : isLeap y <;> simp only [hleap, Bool.false_eq_true, if_true, if_false] at hleaps ⊢ <;> omega

/-! ## Days -/

namespace Date

theorem exists?_iff {d : Date} : d.exists? = true ↔
    1970 ≤ d.year ∧ (1 ≤ d.month ∧ d.month ≤ 12) ∧ 1 ≤ d.day ∧ d.day ≤ daysInMonth d.year d.month := by
  simp only [exists?, Bool.and_eq_true, decide_eq_true_eq, and_assoc]

theorem days_le {d : Date} (h : d.exists? = true) : d.days ≤ 366 * d.year + 400 := by
  obtain ⟨-, ⟨-, hlast⟩, -, hend⟩ := exists?_iff.1 h
  have hyear := daysBeforeYear_le d.year
  have hmonth := daysBeforeMonth_le d.year d.month
  have hday := daysInMonth_le d.year d.month
  unfold days
  omega

theorem exists?_next {d : Date} (h : d.exists? = true) : d.next.exists? = true := by
  obtain ⟨hyear, ⟨hfirst, hlast⟩, hday, -⟩ := exists?_iff.1 h
  unfold next
  split
  · exact exists?_iff.2 ⟨hyear, ⟨hfirst, hlast⟩, Nat.le_succ_of_le hday, ‹_›⟩
  · split
    · exact exists?_iff.2 ⟨hyear, ⟨Nat.le_succ_of_le hfirst, ‹_›⟩, Nat.le_refl 1, daysInMonth_pos _ _⟩
    · have hjanuary : 1 ≤ 1 ∧ 1 ≤ 12 := by decide
      exact exists?_iff.2 ⟨Nat.le_succ_of_le hyear, hjanuary, Nat.le_refl 1, daysInMonth_pos _ _⟩

theorem days_next {d : Date} (h : d.exists? = true) : d.next.days = d.days + 1 := by
  obtain ⟨hyear, ⟨hfirst, hlast⟩, hday, hend⟩ := exists?_iff.1 h
  have hmonth := daysBeforeMonth_succ d.year hfirst
  unfold next
  split
  · simp only [days]
    omega
  · split
    · simp only [days]
      omega
    · -- The year is full with December, and the new one begins at nothing.
      have hdecember : d.month = 12 := by omega
      have hnew : daysBeforeMonth (d.year + 1) 1 = 0 := rfl
      have hyears : daysBeforeYear (d.year + 1) = daysBeforeYear d.year + daysBeforeMonth d.year (d.month + 1) := by
        rw [hdecember]
        exact daysBeforeYear_succ hyear
      have hlength : daysInMonth d.year d.month = 31 := by
        rw [hdecember]
        rfl
      simp only [days, hnew]
      omega

/-- The dates begin with the first of January 1970. -/
theorem exists_next {d : Date} (h : d.exists? = true) (hfirst : d ≠ ⟨1970, 1, 1⟩) :
    ∃ before : Date, before.exists? = true ∧ before.next = d := by
  obtain ⟨year, month, day⟩ := d
  obtain ⟨hyear, ⟨hjanuary, hdecember⟩, hday, hend⟩ := exists?_iff.1 h
  simp only at hyear hjanuary hdecember hday hend
  by_cases hinside : 1 < day
  · refine ⟨⟨year, month, day - 1⟩, exists?_iff.2 ?_, ?_⟩
    · simp only
      omega
    · rw [next, if_pos (by simp only; omega)]
      simp only [Nat.sub_add_cancel hday]
  -- Before the first of a month is the last of another one.
  obtain rfl : day = 1 := by omega
  by_cases hmonth : 1 < month
  · refine ⟨⟨year, month - 1, daysInMonth year (month - 1)⟩, exists?_iff.2 ?_, ?_⟩
    · have hlength := daysInMonth_pos year (month - 1)
      simp only
      omega
    · rw [next, if_neg (Nat.lt_irrefl _), if_pos (by simp only; omega)]
      simp only [Nat.sub_add_cancel hjanuary]
  obtain rfl : month = 1 := by omega
  have hlater : 1970 < year := by
    refine Nat.lt_of_le_of_ne hyear fun heq => hfirst ?_
    rw [← heq]
  refine ⟨⟨year - 1, 12, 31⟩, exists?_iff.2 ?_, ?_⟩
  · have hlength : daysInMonth (year - 1) 12 = 31 := rfl
    simp only
    omega
  · have hended : ¬ 31 < daysInMonth (year - 1) 12 := Nat.lt_irrefl 31
    rw [next, if_neg hended, if_neg (Nat.lt_irrefl 12)]
    simp only [Nat.sub_add_cancel (Nat.one_le_of_lt hlater)]

end Date

theorem exists?_date (n : Nat) : (date n).exists? = true := by
  induction n with
  | zero => rfl
  | succ n ih => exact Date.exists?_next ih

theorem days_date (n : Nat) : (date n).days = n := by
  induction n with
  | zero => rfl
  | succ n ih => rw [date, Date.days_next (exists?_date n), ih]

theorem date_days {d : Date} (h : d.exists? = true) : date d.days = d := by
  induction hdays : d.days generalizing d with
  | zero =>
    by_cases hfirst : d = ⟨1970, 1, 1⟩
    · rw [hfirst, date]
    · obtain ⟨before, hbefore, rfl⟩ := Date.exists_next h hfirst
      rw [Date.days_next hbefore] at hdays
      cases hdays
  | succ n ih =>
    have hfirst : d ≠ ⟨1970, 1, 1⟩ := by
      rintro rfl
      cases hdays
    obtain ⟨before, hbefore, rfl⟩ := Date.exists_next h hfirst
    rw [Date.days_next hbefore] at hdays
    rw [date, ih hbefore (Nat.succ.inj hdays)]

/-- The year 10000 begins after 2932897 days. -/
theorem year_date_le {n : Nat} (h : n < 2932897) : (date n).year ≤ 9999 := by
  have hdays := days_date n
  unfold Date.days daysBeforeYear leapsBefore at hdays
  omega

end Calendar
end Courier
