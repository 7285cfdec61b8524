import Courier.Proofs.Calendar
import Courier.Proofs.Transmission.Throttle
/-!
# Hints - what a server asks for is a time that can be waited for

Seconds in a header fit in 64 bits, a date lies in a year of four digits, and a detail is cut to the longest delay it
may hold.  Main statement: a duration holds every hint that is read while the clock shows an instant
(`Response.Asks.held`).
-/
namespace Courier

/-- A duration can hold it: its seconds fit in 64 bits. -/
def Duration.Held (d : Duration) : Prop :=
  d.seconds < 0x10000000000000000

theorem Duration.held_ofSeconds {n : Nat} (h : n < 0x10000000000000000) : (Duration.ofSeconds n).Held := by
  show n * 1000000000 / 1000000000 < _
  rwa [Nat.mul_div_cancel _ (by decide)]

theorem HttpDate.shown_of_read? {s : List Char} {t : Timestamp} (h : HttpDate.read? s = some t) : t.Shown := by
  unfold HttpDate.read? at h
  split at h
  · rename_i p _
    split at h
    · rename_i hvalid
      cases h
      simp only [Parts.isValid, Bool.and_eq_true, decide_eq_true_eq] at hvalid
      have hdays := Calendar.Date.days_le hvalid.1.1.2
      simp only [Timestamp.Shown, Parts.time]
      omega
    · cases h
  · cases h

theorem Timestamp.held_since {t now : Timestamp} (ht : t.Shown) (hnow : now.Shown) : (t.since now).Held := by
  simp only [Timestamp.Shown, Duration.Held, Duration.seconds, Timestamp.since] at *
  omega

namespace RetryInfo

theorem delayOf_held (seconds : Int64) (nanos : Int32) : (delayOf seconds nanos).Held := by
  simp only [Duration.Held, Duration.seconds, delayOf, longest]
  omega

theorem delay?_held {occurrences : List (List UInt8)} {d : Duration} (h : delay? occurrences = some (some d)) :
    d.Held := by
  simp only [delay?, Option.bind_eq_bind, Option.bind_eq_some_iff] at h
  obtain ⟨fs, -, seconds, -, nanos, -, h⟩ := h
  split at h
  · cases h
  · cases h
    exact delayOf_held _ _

theorem delayIn_held {details : List UInt8} {d : Duration} (h : delayIn details = some d) : d.Held := by
  unfold delayIn at h
  split at h
  · obtain ⟨detail, -, hread⟩ := List.exists_of_findSome?_eq_some (Option.join_eq_some_iff.1 h)
    simp only [read?, Option.bind_eq_bind, Option.bind_eq_some_iff] at hread
    obtain ⟨fs, -, delays, -, hdelay⟩ := hread
    exact delay?_held hdelay
  · cases h

end RetryInfo

namespace Verdict

theorem delayOfText?_held {now : Timestamp} (hnow : now.Shown) {s : List Char} {d : Duration}
    (h : delayOfText? now s = some d) : d.Held := by
  unfold delayOfText? at h
  split at h
  · rename_i n _
    cases h
    exact Duration.held_ofSeconds n.toNat_lt
  · obtain ⟨t, ht, rfl⟩ := Option.map_eq_some_iff.1 h
    exact Timestamp.held_since (HttpDate.shown_of_read? ht) hnow

theorem retryAfter?_held {now : Timestamp} (hnow : now.Shown) {headers : Header.Table} {d : Duration}
    (h : retryAfter? headers now = some d) : d.Held := by
  obtain ⟨s, -, h⟩ := Option.bind_eq_some_iff.1 h
  exact delayOfText?_held hnow h

end Verdict

theorem Response.Asks.held {now : Timestamp} (hnow : now.Shown) {r : Response} {d : Duration} (h : r.Asks now d) :
    d.Held := by
  cases h with
  | details _ _ delay => exact RetryInfo.delayIn_held delay
  | header _ delay => exact Verdict.retryAfter?_held hnow delay

end Courier
