import Courier.Calendar
import Courier.Timestamp
/-!
# HttpDate - the three written forms of an instant in message headers

The forms are `Sun, 06 Nov 1994 08:49:37 GMT`, `Sunday, 06-Nov-94 08:49:37 GMT` and
`Sun Nov  6 08:49:37 1994`.  Names are spelled exactly so.  A year of two digits is of this century when it
is below 70 and of the last one else.  The day has to exist, in a year from 1970 to 9999, and has to be the
named day of the week.
-/
namespace Courier
namespace HttpDate

def weekdays : List String :=
  ["Monday", "Tuesday", "Wednesday", "Thursday", "Friday", "Saturday", "Sunday"]

def months : List String :=
  ["Jan", "Feb", "Mar", "Apr", "May", "Jun", "Jul", "Aug", "Sep", "Oct", "Nov", "Dec"]

/-- The place of a text in a list of texts. -/
def indexOf? (names : List String) (s : List Char) : Option Nat :=
  names.findIdx? fun n => n.toList == s

/-- A month by its short name, counted from one. -/
def month? (s : List Char) : Option Nat :=
  (indexOf? months s).map (· + 1)

def shortWeekday? (s : List Char) : Option Nat :=
  indexOf? (weekdays.map fun n => String.ofList (n.toList.take 3)) s

def weekday? (s : List Char) : Option Nat :=
  indexOf? weekdays s

/-- A number in digits, all of them. -/
def number? (s : List Char) : Option Nat :=
  s.foldlM (fun n c => if '0' ≤ c ∧ c ≤ '9' then some (10 * n + (c.toNat - '0'.toNat)) else none) 0

/-- A number whose first digit may be a blank. -/
def blankNumber? : List Char → Option Nat
  | ' ' :: rest => number? rest
  | s => number? s

structure Parts where
  weekday : Nat
  date : Calendar.Date
  hour : Nat
  minute : Nat
  second : Nat
deriving Repr, DecidableEq, Inhabited

def Parts.isValid (p : Parts) : Bool :=
  p.second < 60 && p.minute < 60 && p.hour < 24 && p.date.exists? && p.date.year ≤ 9999 &&
    p.weekday == p.date.weekday

def Parts.time (p : Parts) : Timestamp :=
  ⟨((p.date.days * 86400 + p.hour * 3600 + p.minute * 60 + p.second) * 1000000000 : Nat)⟩

/-- Reads `Sun, 06 Nov 1994 08:49:37 GMT`. -/
def fixed? : List Char → Option Parts
  | [w₁, w₂, w₃, ',', ' ', d₁, d₂, ' ', m₁, m₂, m₃, ' ', y₁, y₂, y₃, y₄, ' ', h₁, h₂, ':', i₁, i₂, ':',
      s₁, s₂, ' ', 'G', 'M', 'T'] => do
    let second ← number? [s₁, s₂]
    let minute ← number? [i₁, i₂]
    let hour ← number? [h₁, h₂]
    let day ← number? [d₁, d₂]
    let month ← month? [m₁, m₂, m₃]
    let year ← number? [y₁, y₂, y₃, y₄]
    let weekday ← shortWeekday? [w₁, w₂, w₃]
    return ⟨weekday, ⟨year, month, day⟩, hour, minute, second⟩
  | _ => none

/-- A year by its last two digits. -/
def century (y : Nat) : Nat := if y < 70 then 2000 + y else 1900 + y

/-- Reads `06-Nov-94 08:49:37 GMT` behind the name of a day.  Any character may stand before the hour. -/
def dashed? (weekday : Nat) : List Char → Option Parts
  | [d₁, d₂, '-', m₁, m₂, m₃, '-', y₁, y₂, _, h₁, h₂, ':', i₁, i₂, ':', s₁, s₂, ' ', 'G', 'M', 'T'] => do
    let year ← number? [y₁, y₂]
    let second ← number? [s₁, s₂]
    let minute ← number? [i₁, i₂]
    let hour ← number? [h₁, h₂]
    let day ← number? [d₁, d₂]
    let month ← month? [m₁, m₂, m₃]
    return ⟨weekday, ⟨century year, month, day⟩, hour, minute, second⟩
  | _ => none

/-- Reads `Sunday, 06-Nov-94 08:49:37 GMT`. -/
def named? (s : List Char) : Option Parts :=
  match s.span (· != ',') with
  | (name, ',' :: ' ' :: rest) => (weekday? name).bind fun w => dashed? w rest
  | _ => none

/-- Reads `Sun Nov  6 08:49:37 1994`. -/
def yearLast? : List Char → Option Parts
  | [w₁, w₂, w₃, ' ', m₁, m₂, m₃, ' ', d₁, d₂, ' ', h₁, h₂, ':', i₁, i₂, ':', s₁, s₂, ' ', y₁, y₂, y₃,
      y₄] => do
    let second ← number? [s₁, s₂]
    let minute ← number? [i₁, i₂]
    let hour ← number? [h₁, h₂]
    let day ← blankNumber? [d₁, d₂]
    let month ← month? [m₁, m₂, m₃]
    let year ← number? [y₁, y₂, y₃, y₄]
    let weekday ← shortWeekday? [w₁, w₂, w₃]
    return ⟨weekday, ⟨year, month, day⟩, hour, minute, second⟩
  | _ => none

/-- Reads an instant in any of the three forms. -/
def read? (s : List Char) : Option Timestamp :=
  match (fixed? s).or ((named? s).or (yearLast? s)) with
  | some p => if p.isValid then some p.time else none
  | none => none

end HttpDate
end Courier
