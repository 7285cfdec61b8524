import Courier.Calendar.HttpDate
import Courier.Proofs.Calendar
import Courier.Proofs.Text.Bytes
import Courier.Proofs.Text.Number
import Mathlib.Tactic.IntervalCases
/-!
# HttpDate - instants are written so that they are read again

Main statement: every whole second from 1970 to the end of 9999 is read back from its first form
(`HttpDate.read?_write`).
-/
namespace Courier
namespace HttpDate

/-- So many of the last digits of a number. -/
def lastDigits : Nat → Nat → List Char
  | 0, _ => []
  | width + 1, n => lastDigits width (n / 10) ++ [(n % 10).digitChar]

/-- The short name of a day of the week, Monday being 0. -/
def shortWeekday (w : Nat) : List Char := (weekdays.getD w "").toList.take 3

/-- The short name of a month, counted from one. -/
def shortMonth (m : Nat) : List Char := (months.getD (m - 1) "").toList

/-- The form of `Sun, 06 Nov 1994 08:49:37 GMT`. -/
def inForm (weekday day month year hour minute second : List Char) : List Char :=
  weekday ++ ',' :: ' ' :: (day ++ ' ' :: (month ++ ' ' :: (year ++ ' ' :: (hour ++ ':' :: (minute ++ ':' ::
    (second ++ " GMT".toList))))))

/-- The text of a date and a time of day. -/
def Parts.text (p : Parts) : List Char :=
  inForm (shortWeekday p.weekday) (lastDigits 2 p.date.day) (shortMonth p.date.month) (lastDigits 4 p.date.year)
    (lastDigits 2 p.hour) (lastDigits 2 p.minute) (lastDigits 2 p.second)

/-- The date and the time of day so many seconds after the start of 1970, which was a Thursday. -/
def partsAt (seconds : Nat) : Parts where
  weekday := (seconds / 86400 + 3) % 7
  date := Calendar.date (seconds / 86400)
  hour := seconds / 3600 % 24
  minute := seconds / 60 % 60
  second := seconds % 60

/-- The text of the instant so many seconds after the start of 1970. -/
def write (seconds : Nat) : String := String.ofList (partsAt seconds).text

/-! ## The pieces -/

theorem number?_append_digit {s : List Char} {n d : Nat} (h : number? s = some n) (hd : d < 10) :
    number? (s ++ [d.digitChar]) = some (10 * n + d) := by
  obtain ⟨hdigit, hvalue⟩ := Text.digitChar_spec hd
  unfold number? at h ⊢
  rw [List.foldlM_append, h, Option.bind_eq_bind, Option.bind_some, List.foldlM_cons, if_pos hdigit, hvalue]
  rfl

theorem number?_two {n : Nat} (h : n < 100) : number? (lastDigits 2 n) = some n := by
  have hten : n / 10 < 10 := by omega
  have hone : n % 10 < 10 := by omega
  have hread := number?_append_digit (number?_append_digit (s := []) rfl hten) hone
  rw [lastDigits, lastDigits, lastDigits, Nat.mod_eq_of_lt hten, hread]
  congr 1
  omega

theorem number?_four {n : Nat} (h : n < 10000) : number? (lastDigits 4 n) = some n := by
  have hhundreds : n / 10 / 10 < 100 := by omega
  have hread := number?_append_digit (number?_append_digit (number?_two hhundreds)
    (Nat.mod_lt (n / 10) (by decide))) (Nat.mod_lt n (by decide))
  rw [lastDigits, lastDigits, hread]
  congr 1
  omega

theorem length_lastDigits (width n : Nat) : (lastDigits width n).length = width := by
  induction width generalizing n with
  | zero => rfl
  | succ width ih => rw [lastDigits, List.length_append, ih, List.length_singleton]

theorem shortWeekday?_shortWeekday {w : Nat} (h : w < 7) : shortWeekday? (shortWeekday w) = some w := by
  decide +revert

theorem length_shortWeekday {w : Nat} (h : w < 7) : (shortWeekday w).length = 3 := by
  decide +revert

theorem month?_shortMonth {m : Nat} (hfirst : 1 ≤ m) (hlast : m ≤ 12) : month? (shortMonth m) = some m := by
  interval_cases m <;> rfl

theorem length_shortMonth {m : Nat} (hfirst : 1 ≤ m) (hlast : m ≤ 12) : (shortMonth m).length = 3 := by
  interval_cases m <;> rfl

theorem isAlphanum_of_mem_lastDigits {width n : Nat} {c : Char} (h : c ∈ lastDigits width n) : c.isAlphanum := by
  induction width generalizing n with
  | zero => cases h
  | succ width ih =>
    obtain h | h := List.mem_append.1 h
    · exact ih h
    · rw [List.mem_singleton.1 h]
      have hd : n % 10 < 10 := Nat.mod_lt n (by decide)
      generalize n % 10 = d at hd
      decide +revert

theorem isAlphanum_of_mem_shortWeekday {w : Nat} (h : w < 7) : ∀ c ∈ shortWeekday w, c.isAlphanum := by
  have hall : (shortWeekday w).all Char.isAlphanum = true := by interval_cases w <;> rfl
  exact List.all_eq_true.1 hall

theorem isAlphanum_of_mem_shortMonth {m : Nat} (hfirst : 1 ≤ m) (hlast : m ≤ 12) :
    ∀ c ∈ shortMonth m, c.isAlphanum := by
  have hall : (shortMonth m).all Char.isAlphanum = true := by interval_cases m <;> rfl
  exact List.all_eq_true.1 hall

/-! ## The whole -/

/-- A text in the first form is read piece by piece. -/
theorem fixed?_inForm {w d m y h i s : List Char} (hw : w.length = 3) (hd : d.length = 2) (hm : m.length = 3)
    (hy : y.length = 4) (hh : h.length = 2) (hi : i.length = 2) (hs : s.length = 2) :
    fixed? (inForm w d m y h i s) = (do
      let second ← number? s
      let minute ← number? i
      let hour ← number? h
      let day ← number? d
      let month ← month? m
      let year ← number? y
      let weekday ← shortWeekday? w
      return ⟨weekday, ⟨year, month, day⟩, hour, minute, second⟩) := by
  obtain ⟨w₁, w₂, w₃, rfl⟩ := List.length_eq_three.1 hw
  obtain ⟨d₁, d₂, rfl⟩ := List.length_eq_two.1 hd
  obtain ⟨m₁, m₂, m₃, rfl⟩ := List.length_eq_three.1 hm
  obtain ⟨y₁, y₂, y₃, y₄, rfl⟩ := List.length_eq_four.1 hy
  obtain ⟨h₁, h₂, rfl⟩ := List.length_eq_two.1 hh
  obtain ⟨i₁, i₂, rfl⟩ := List.length_eq_two.1 hi
  obtain ⟨s₁, s₂, rfl⟩ := List.length_eq_two.1 hs
  rfl

/-- Its names are known, and its numbers fit in their places. -/
structure Parts.Fits (p : Parts) : Prop where
  weekday : p.weekday < 7
  month : 1 ≤ p.date.month ∧ p.date.month ≤ 12
  day : p.date.day < 100
  year : p.date.year < 10000
  time : p.hour < 100 ∧ p.minute < 100 ∧ p.second < 100

theorem Parts.fits_of_isValid {p : Parts} (h : p.isValid = true) : p.Fits := by
  simp only [isValid, Bool.and_eq_true, decide_eq_true_eq, beq_iff_eq] at h
  obtain ⟨⟨⟨⟨⟨hsecond, hminute⟩, hhour⟩, hdate⟩, hyear⟩, hweekday⟩ := h
  obtain ⟨-, hmonth, -, hday⟩ := Calendar.Date.exists?_iff.1 hdate
  have hlength := Calendar.daysInMonth_le p.date.year p.date.month
  exact ⟨hweekday ▸ Nat.mod_lt _ (by decide), hmonth, by omega, by omega, by omega⟩

theorem Parts.Fits.fixed? {p : Parts} (h : p.Fits) : fixed? p.text = some p := by
  obtain ⟨hweekday, ⟨hfirst, hlast⟩, hday, hyear, hhour, hminute, hsecond⟩ := h
  rw [text, fixed?_inForm (length_shortWeekday hweekday) (length_lastDigits 2 _) (length_shortMonth hfirst hlast)
    (length_lastDigits 4 _) (length_lastDigits 2 _) (length_lastDigits 2 _) (length_lastDigits 2 _),
    number?_two hsecond, number?_two hminute, number?_two hhour, number?_two hday, month?_shortMonth hfirst hlast,
    number?_four hyear, shortWeekday?_shortWeekday hweekday]
  rfl

theorem Parts.read?_text {p : Parts} (h : p.isValid = true) : read? p.text = some p.time := by
  rw [read?, (fits_of_isValid h).fixed?, Option.some_or]
  simp only [h, if_true]

/-- The year 10000 begins after 253402300800 seconds. -/
theorem isValid_partsAt {s : Nat} (h : s < 253402300800) : (partsAt s).isValid = true := by
  have hyear := Calendar.year_date_le (n := s / 86400) (by omega)
  have hweekday : (partsAt s).weekday = (partsAt s).date.weekday := by
    rw [Calendar.Date.weekday, partsAt, Calendar.days_date]
  simp only [Parts.isValid, Bool.and_eq_true, decide_eq_true_eq, beq_iff_eq]
  refine ⟨⟨⟨⟨⟨?_, ?_⟩, ?_⟩, Calendar.exists?_date _⟩, hyear⟩, hweekday⟩
  all_goals exact Nat.mod_lt _ (by decide)

theorem time_partsAt (s : Nat) : (partsAt s).time = ⟨(s * 1000000000 : Nat)⟩ := by
  have hsplit : s / 86400 * 86400 + s / 3600 % 24 * 3600 + s / 60 % 60 * 60 + s % 60 = s := by omega
  simp only [Parts.time, partsAt, Calendar.days_date, hsplit]

theorem read?_write {s : Nat} (h : s < 253402300800) : read? (write s).toList = some ⟨(s * 1000000000 : Nat)⟩ := by
  rw [write, String.toList_ofList, Parts.read?_text (isValid_partsAt h), time_partsAt]

/-! ## As a value -/

open Text (isBlank digit?)

theorem shortWeekday_head {w : Nat} (h : w < 7) :
    ∃ c rest, shortWeekday w = c :: rest ∧ isBlank c = false ∧ digit? c = none ∧ c ≠ '+' := by
  interval_cases w <;> exact ⟨_, _, rfl, by decide⟩

theorem Parts.Fits.isTextChar {p : Parts} (h : p.Fits) : ∀ c ∈ p.text, Header.IsTextChar c := by
  have hdigits (width n : Nat) : ∀ c ∈ lastDigits width n, Header.IsTextChar c :=
    fun c hc => Header.isTextChar_of_isAlphanum (isAlphanum_of_mem_lastDigits hc)
  have hweekday : ∀ c ∈ shortWeekday p.weekday, Header.IsTextChar c :=
    fun c hc => Header.isTextChar_of_isAlphanum (isAlphanum_of_mem_shortWeekday h.weekday c hc)
  have hmonth : ∀ c ∈ shortMonth p.date.month, Header.IsTextChar c :=
    fun c hc => Header.isTextChar_of_isAlphanum (isAlphanum_of_mem_shortMonth h.month.1 h.month.2 c hc)
  have hcomma : Header.IsTextChar ',' := by decide
  have hcolon : Header.IsTextChar ':' := by decide
  have hblank : Header.IsTextChar ' ' := by decide
  have hzone : (" GMT".toList.all fun c => decide (Header.IsTextChar c)) = true := rfl
  simp only [text, inForm, List.forall_mem_append, List.forall_mem_cons]
  exact ⟨hweekday, hcomma, hblank, hdigits _ _, hblank, hmonth, hblank, hdigits _ _, hblank, hdigits _ _, hcolon,
    hdigits _ _, hcolon, hdigits _ _, fun c hc => of_decide_eq_true (List.all_eq_true.1 hzone c hc)⟩

theorem Parts.Fits.tight {p : Parts} (h : p.Fits) : Header.Tight p.text := by
  obtain ⟨c, rest, hname, hblank, -⟩ := shortWeekday_head h.weekday
  refine ⟨fun x hx => ?_, fun x hx => ?_⟩
  · rw [text, inForm, hname] at hx
    cases hx
    exact hblank
  · simp [text, inForm, List.getLast?_cons, List.getLast?_append] at hx
    rw [← hx]
    rfl

theorem Parts.Fits.word? {p : Parts} (h : p.Fits) : Text.word? p.text = none := by
  obtain ⟨c, rest, hname, -, hdigit, hsign⟩ := shortWeekday_head h.weekday
  rw [Text.word?, text, inForm, hname, List.cons_append, Text.natural?_of_ne hsign, Text.digits?, hdigit]

end HttpDate
end Courier
