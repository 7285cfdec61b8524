import Courier.Proofs.Calendar.HttpDate
import Courier.Proofs.Retry.Judgement
/-!
# After - a number of seconds and a date ask for the same delay

Main statement: the number of seconds until an instant and the date of the instant come to the same verdict and the
same decision, and the delay that a date asks for shrinks with time until nothing of it is left
(`Verdict.ofHttp_seconds_date`).
-/
namespace Courier

/-- The instant so many whole seconds after the start of 1970. -/
def Timestamp.ofSeconds (s : Nat) : Timestamp := ⟨(s * 1000000000 : Nat)⟩

/-- The first `Retry-After` line is the text. -/
def Header.Table.RetryAfter (headers : Header.Table) (text : String) : Prop :=
  headers.get? "retry-after" = some text.toUTF8

namespace Timestamp

theorem since_ofSeconds (now n : Nat) : (ofSeconds (now + n)).since (ofSeconds now) = .ofSeconds n := by
  simp only [since, ofSeconds, Duration.ofSeconds]
  congr 1
  omega

theorem since_of_le {t now : Timestamp} (h : t ≤ now) : t.since now = .zero := by
  have hle : t.nanos ≤ now.nanos := h
  simp only [since, Duration.zero]
  congr 1
  omega

/-- What is left until an instant shrinks with time. -/
theorem since_anti (t : Timestamp) {earlier later : Timestamp} (h : earlier ≤ later) :
    t.since later ≤ t.since earlier := by
  have hle : earlier.nanos ≤ later.nanos := h
  simp only [Duration.le_iff, since]
  omega

end Timestamp

/-- Chance plays no part where a delay was asked for. -/
theorem Decision.onResponse_eq_of_throttled {r r' : Response} {now : Timestamp} {d : Duration}
    (hdeadline : r.deadline = r'.deadline) (h : verdict? r now = some (.throttled d))
    (h' : verdict? r' now = some (.throttled d)) (window draw draw' : Nat) :
    onResponse r window now draw = onResponse r' window now draw' := by
  simp only [onResponse, h, h', hdeadline, Option.bind_some, ofVerdict]

namespace Verdict

open Text (trim)

variable {headers : Header.Table} {now n t : Nat}

theorem retryAfter?_of_text {text : String} (h : headers.RetryAfter text)
    (hplain : ∀ c ∈ text.toList, Header.IsTextChar c) (instant : Timestamp) :
    retryAfter? headers instant = delayOfText? instant (trim text.toList) := by
  rw [retryAfter?, h, Option.bind_some, Header.text?_eq_some_iff.2 ⟨rfl, hplain⟩, Option.bind_some]

theorem isTextChar_toString (n : Nat) : ∀ c ∈ (toString n).toList, Header.IsTextChar c := by
  intro c hc
  have hdigit := Nat.isDigit_of_mem_toDigits (by decide) (by decide) (String.toList_ofList ▸ hc)
  exact Header.isTextChar_of_isAlphanum (by simp [Char.isAlphanum, hdigit])

theorem retryAfter?_number (h : headers.RetryAfter (toString n)) (hn : n < 0x10000000000000000) (now : Timestamp) :
    retryAfter? headers now = some (.ofSeconds n) := by
  have hvalue : (UInt64.ofNat n).toNat = n := UInt64.toNat_ofNat_of_lt' hn
  have hread : Text.word? (trim (toString n).toList) = some (UInt64.ofNat n) := by
    refine Text.paddedWord?_eq_some_iff.2 ?_
    rw [hvalue]
    exact Text.spells_toString n
  rw [retryAfter?_of_text h (isTextChar_toString n), delayOfText?, hread]
  exact congrArg (fun m => some (Duration.ofSeconds m)) hvalue

/-- A date asks for the time until its instant. -/
theorem retryAfter?_date (h : headers.RetryAfter (HttpDate.write t)) (ht : t < 253402300800) (now : Timestamp) :
    retryAfter? headers now = some ((Timestamp.ofSeconds t).since now) := by
  have hread := HttpDate.read?_write ht
  have hfits := HttpDate.Parts.fits_of_isValid (HttpDate.isValid_partsAt ht)
  have htext : (HttpDate.write t).toList = (HttpDate.partsAt t).text := String.toList_ofList
  rw [htext] at hread
  rw [retryAfter?_of_text h (htext ▸ hfits.isTextChar), htext, Header.trim_tight hfits.tight, delayOfText?, hfits.word?,
    hread]
  rfl

theorem ofHttp_of_retryAfter? {status : Nat} (hstatus : status = 429 ∨ status = 503) {d : Duration}
    {now : Timestamp} (h : retryAfter? headers now = some d) : ofHttp (some status) headers now = .throttled d :=
  ofHttp_throttled.2 ⟨by simpa using hstatus, h⟩

/-- **Both forms of a hint mean the same.**  Where the date is that of the instant `n` seconds from now, the number
and the date are the same hint, and lead to the same decision at every deadline and in every window.  When the
instant has come the date asks for no delay, and until then it never asks for a longer one than before. -/
theorem ofHttp_seconds_date (now n : Nat) (h : now + n < 253402300800) {status : Nat}
    (hstatus : status = 429 ∨ status = 503) {seconds date : Header.Table} (hseconds : seconds.RetryAfter (toString n))
    (hdate : date.RetryAfter (HttpDate.write (now + n))) :
    ofHttp (some status) seconds (.ofSeconds now) = .throttled (.ofSeconds n) ∧
    ofHttp (some status) date (.ofSeconds now) = .throttled (.ofSeconds n) ∧
    (∀ deadline window draw draw',
      Decision.onResponse (.http (.received deadline status seconds)) window (.ofSeconds now) draw =
        Decision.onResponse (.http (.received deadline status date)) window (.ofSeconds now) draw') ∧
    (∀ later, Timestamp.ofSeconds (now + n) ≤ later → ofHttp (some status) date later = .throttled .zero) ∧
    ∀ earlier later : Timestamp, earlier ≤ later → ∃ long short, ofHttp (some status) date earlier = .throttled long ∧
      ofHttp (some status) date later = .throttled short ∧ short ≤ long := by
  have hasked (instant : Timestamp) := ofHttp_of_retryAfter? hstatus (retryAfter?_date hdate h instant)
  have hnumber := ofHttp_of_retryAfter? hstatus (retryAfter?_number hseconds (by omega) (.ofSeconds now))
  have hsame : ofHttp (some status) date (.ofSeconds now) = .throttled (.ofSeconds n) := by
    rw [hasked, Timestamp.since_ofSeconds]
  refine ⟨hnumber, hsame, fun deadline window draw draw' => ?_, fun later hlater => ?_, fun earlier later hle => ?_⟩
  · have hverdict {headers : Header.Table}
        (h : ofHttp (some status) headers (.ofSeconds now) = .throttled (.ofSeconds n)) :
        Decision.verdict? (.http (.received deadline status headers)) (.ofSeconds now) =
          some (.throttled (.ofSeconds n)) := congrArg some h
    refine Decision.onResponse_eq_of_throttled ?_ (hverdict hnumber) (hverdict hsame) window draw draw'
    rfl
  · rw [hasked, Timestamp.since_of_le hlater]
  · exact ⟨_, _, hasked earlier, hasked later, Timestamp.since_anti _ hle⟩

/-- A server that asks to be left alone until a leap day, and of two hints means the first. -/
def untilLeapDay : Header.Table :=
  [("server", "relay".toUTF8), ("retry-after", "Tue, 29 Feb 2000 12:34:56 GMT".toUTF8), ("retry-after", "1".toUTF8)]

theorem retryAfter_untilLeapDay : untilLeapDay.RetryAfter (HttpDate.write 951827696) := by
  have hday : Calendar.date 11016 = ⟨2000, 2, 29⟩ := Calendar.date_days (d := ⟨2000, 2, 29⟩) (by decide)
  have hparts : HttpDate.partsAt 951827696 = ⟨1, ⟨2000, 2, 29⟩, 12, 34, 56⟩ := by
    rw [HttpDate.partsAt, ← hday]
  rw [HttpDate.write, hparts]
  rfl

theorem ofHttp_seconds_date_leapDay :
    951741296 + 86400 < 253402300800 ∧ Header.Table.RetryAfter [("retry-after", "86400".toUTF8)] (toString 86400) ∧
      untilLeapDay.RetryAfter (HttpDate.write (951741296 + 86400)) ∧
      ofHttp (some 503) [("retry-after", "86400".toUTF8)] (.ofSeconds 951741296) = .throttled (.ofSeconds 86400) ∧
      ofHttp (some 503) untilLeapDay (.ofSeconds 951741296) = .throttled (.ofSeconds 86400) := by
  have hnumber : Header.Table.RetryAfter [("retry-after", "86400".toUTF8)] (toString 86400) := rfl
  have h := ofHttp_seconds_date 951741296 86400 (by decide) (.inr rfl) hnumber retryAfter_untilLeapDay
  exact ⟨by decide, hnumber, retryAfter_untilLeapDay, h.1, h.2.1⟩

end Verdict
end Courier
