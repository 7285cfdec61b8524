import Courier.Proofs.Collected.Envelope
import Courier.Proofs.Received.Arrived
/-!
# Times - the times of records, as they are given and as they are received

Every time of a record is received as the number that its instant is written as, and a missing one as 0
(`Received.Span.times_arrive` and its siblings).  The numbers of two instants are in their order unless 2^64
nanoseconds came full between them (`Timestamp.Arrives.le`).
-/
namespace Courier

open Collected (OptionalTimeArrives optionalTime_arrives)

namespace Timestamp

/-- How often 2^64 nanoseconds have come full since the start of 1970. -/
def turn (t : Timestamp) : Nat := t.nanos.toNat / 0x10000000000000000

theorem Arrives.le {t u : Timestamp} {m n : UInt64} (hm : t.Arrives m) (hn : u.Arrives n) (h : t ≤ u)
    (hturn : t.turn = u.turn) : m ≤ n := by
  have hle : t.nanos ≤ u.nanos := h
  unfold Arrives at hm hn
  unfold turn at hturn
  rw [UInt64.le_iff_toNat_le]
  -- In one turn both numbers are the same multiple of 2^64 below their instants.
  omega

end Timestamp

/-! ## What is given -/

/-- The start and the end of a span, and the times of the events that its limits keep. -/
def Span.times (limits : Limits) (s : Span) : List (Option Timestamp) :=
  some s.start :: some s.finish :: (s.events.take limits.eventCount.toNat).map fun e => some e.time

/-- A record that was not seen at a time of its own was seen when it was made. -/
def LogRecord.times (r : LogRecord) : List (Option Timestamp) :=
  [r.time, r.observed.or r.time]

def pointTimes (start : Option Timestamp) (time : Timestamp) (exemplars : List Exemplar) : List (Option Timestamp) :=
  start :: some time :: exemplars.map fun e => some e.time

def MetricData.times : MetricData → List (Option Timestamp)
  | .gauge ps => ps.flatMap fun p => pointTimes p.start p.time p.exemplars
  | .sum ps _ _ => ps.flatMap fun p => pointTimes p.start p.time p.exemplars
  | .histogram ps _ => ps.flatMap fun p => pointTimes p.start p.time p.exemplars
  | .exponential ps _ => ps.flatMap fun p => pointTimes p.start p.time p.exemplars
  | .summary ps => ps.flatMap fun p => pointTimes p.start p.time []

def Metric.times (m : Metric) : List (Option Timestamp) := m.data.times

/-! ## What is received -/

namespace Received

def Span.times (s : Span) : List UInt64 := s.start :: s.finish :: s.events.map Event.time

def LogRecord.times (r : LogRecord) : List UInt64 := [r.time, r.observed]

def pointTimes (start time : UInt64) (exemplars : List Exemplar) : List UInt64 :=
  start :: time :: exemplars.map Exemplar.time

def MetricData.times : MetricData → List UInt64
  | .gauge ps => ps.flatMap fun p => pointTimes p.start p.time p.exemplars
  | .sum ps _ _ => ps.flatMap fun p => pointTimes p.start p.time p.exemplars
  | .histogram ps _ => ps.flatMap fun p => pointTimes p.start p.time p.exemplars
  | .exponential ps _ => ps.flatMap fun p => pointTimes p.start p.time p.exemplars
  | .summary ps => ps.flatMap fun p => pointTimes p.start p.time []

def Metric.times (m : Metric) : List UInt64 := m.data.toList.flatMap MetricData.times

/-! ## What arrives -/

theorem Span.times_arrive (limits : Limits) {s s' : Courier.Span} (h : s.Answered limits s') :
    List.Forall₂ OptionalTimeArrives (s.times limits) (of limits s').times := by
  obtain ⟨-, hes, -⟩ := h
  refine .cons (Timestamp.arrives _) (.cons (Timestamp.arrives _) ?_)
  rw [of, (Payload.take_answered hes).1, List.map_map, List.forall₂_map_left_iff, List.forall₂_map_right_iff]
  refine hes.imp fun e e' he => ?_
  cases he
  exact e.time.arrives

theorem LogRecord.times_arrive (limits : Limits) {r r' : Courier.LogRecord} (h : r.Answered limits r') :
    List.Forall₂ OptionalTimeArrives r.times (of limits r').times := by
  obtain ⟨-, -⟩ := h
  exact .cons (optionalTime_arrives _) (.cons (optionalTime_arrives _) .nil)

theorem pointTimes_arrive (allowance : Allowance) {es es' : List Courier.Exemplar}
    (h : List.Forall₂ (Exemplar.Answered allowance) es es') (start : Option Timestamp) (time : Timestamp) :
    List.Forall₂ OptionalTimeArrives (Courier.pointTimes start time es)
      (pointTimes (startNanos start) time.wireNanos (es'.map (Exemplar.of allowance))) := by
  refine .cons (optionalTime_arrives start) (.cons time.arrives ?_)
  rw [List.map_map, List.forall₂_map_left_iff, List.forall₂_map_right_iff]
  refine h.imp fun e e' he => ?_
  cases he
  exact e.time.arrives

/-- The times of points arrive if those of each point do. -/
theorem flatMap_arrive {α β γ : Type} {R : α → β → Prop} {given : α → List (Option Timestamp)} {made : β → γ}
    {received : γ → List UInt64} {xs : List α} {ys : List β} (h : List.Forall₂ R xs ys)
    (hr : ∀ x y, R x y → List.Forall₂ OptionalTimeArrives (given x) (received (made y))) :
    List.Forall₂ OptionalTimeArrives (xs.flatMap given) ((ys.map made).flatMap received) := by
  rw [List.flatMap_map]
  exact List.rel_flatMap h hr

theorem MetricData.times_arrive (allowance : Allowance) {d d' : Courier.MetricData} (h : d.Answered allowance d') :
    List.Forall₂ OptionalTimeArrives d.times (of allowance d').times := by
  cases h with
  | gauge hps => exact flatMap_arrive hps fun p p' ⟨_, hes⟩ => pointTimes_arrive allowance hes p.start p.time
  | sum t monotonic hps => exact flatMap_arrive hps fun p p' ⟨_, hes⟩ => pointTimes_arrive allowance hes p.start p.time
  | histogram t hps => exact flatMap_arrive hps fun p p' ⟨_, hes⟩ => pointTimes_arrive allowance hes p.start p.time
  | exponential t hps => exact flatMap_arrive hps fun p p' ⟨_, hes⟩ => pointTimes_arrive allowance hes p.start p.time
  | summary hps => exact flatMap_arrive hps fun p p' ⟨_⟩ => pointTimes_arrive allowance .nil p.start p.time

theorem Metric.times_arrive (allowance : Allowance) {m m' : Courier.Metric} (h : m.Answered allowance m') :
    List.Forall₂ OptionalTimeArrives m.times (of allowance m').times := by
  obtain ⟨hdata⟩ := h
  show List.Forall₂ _ _ ([_].flatMap MetricData.times)
  rw [List.flatMap_singleton]
  exact MetricData.times_arrive allowance hdata

end Received
end Courier
