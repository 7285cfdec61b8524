import Courier.Proofs.Batch.Texts
import Courier.Proofs.Received.Placed
import Courier.Proofs.Received.Times
/-!
# Times - the times of a batch keep their order

Main statement: in a request of fewer than 2^28 bytes the times of a batch are in the order of their instants, unless
2^64 nanoseconds came full between two of them (`Batch.times_kept`).  Where they did, in the year 2554, a span is
received with its end before its start (`Batch.times_turned`).
-/
namespace Courier

open Collected (OptionalTimeArrives)

namespace Received

variable {α ρ : Type}

/-- A record arrives, as `S` says, and its times arrive one for one. -/
structure Timed (S : α → ρ → Prop) (given : α → List (Option Timestamp)) (received : ρ → List UInt64) (x : α) (r : ρ) :
    Prop where
  record : S x r
  times : List.Forall₂ OptionalTimeArrives (given x) (received r)

/-- The records of a request are those given, in some order, each with its times; and of the times of all records two
are in order if they are so given and of one turn. -/
structure TimesKept (S : α → ρ → Prop) (given : α → List (Option Timestamp)) (received : ρ → List UInt64)
    (records : List α) (q : Request ρ) : Prop where
  arrive : ∃ order : List α, order.Perm records ∧
    List.Forall₂ (Timed S given received) order q.records ∧
    ∀ p ∈ (order.flatMap given).zip (q.records.flatMap received),
      ∀ p' ∈ (order.flatMap given).zip (q.records.flatMap received),
        ∀ t ∈ p.1, ∀ t' ∈ p'.1, t ≤ t' → t.turn = t'.turn → p.2 ≤ p'.2

/-- A span arrives, and does not end before it starts. -/
structure Span.RunsForward (limits : Limits) (s : Courier.Span) (t : Span) : Prop where
  arrives : Span.Arrives limits s t
  inOrder : s.start ≤ s.finish → s.start.turn = s.finish.turn → t.start ≤ t.finish

theorem times_le {ts : List (Option Timestamp)} {ns : List UInt64} (h : List.Forall₂ OptionalTimeArrives ts ns) :
    ∀ p ∈ ts.zip ns, ∀ p' ∈ ts.zip ns, ∀ t ∈ p.1, ∀ t' ∈ p'.1, t ≤ t' → t.turn = t'.turn → p.2 ≤ p'.2 := by
  rintro ⟨o, m⟩ hp ⟨o', n⟩ hp' t ht t' ht' hle hturn
  have hm : OptionalTimeArrives o m := (List.forall₂_iff_zip.1 h).2 hp
  have hn : OptionalTimeArrives o' n := (List.forall₂_iff_zip.1 h).2 hp'
  cases ht
  cases ht'
  exact Timestamp.Arrives.le hm hn hle hturn

theorem TimesKept.of {S : α → ρ → Prop} {given : α → List (Option Timestamp)} {received : ρ → List UInt64}
    {allowance : Allowance} {resource : Courier.Resource} {groups : List (Courier.Scope × List α)} {records : List α}
    {t : ResourceGroup ρ}
    (h : ResourceGroup.Arrives allowance (Timed S given received) resource groups t)
    (hperm : (groups.flatMap Prod.snd).Perm records) : TimesKept S given received records [t] :=
  ⟨_, hperm, h.records, times_le (List.rel_flatMap h.records fun _ _ hx => hx.times)⟩

theorem Span.runsForward (limits : Limits) {s s' : Courier.Span} (h : s.Answered limits s') :
    RunsForward limits s (of limits s') := by
  refine ⟨Span.arrives limits h, fun hle hturn => ?_⟩
  obtain ⟨hstart, hrest⟩ := List.forall₂_cons.1 (Span.times_arrive limits h)
  obtain ⟨hfinish, -⟩ := List.forall₂_cons.1 hrest
  exact Timestamp.Arrives.le hstart hfinish hle hturn

end Received

namespace Batch

open Received (Request.read?)

/-- The bytes are a request in which the times of the batch are kept. -/
def TimesKept (limits : Limits) (payload : List UInt8) : Batch → Prop
  | .traces spans => ∃ q, Request.read? Received.Span.read? payload = some q ∧
      Received.TimesKept (Received.Span.RunsForward limits) (Span.times limits) Received.Span.times spans q
  | .metrics scopes => ∃ q, Request.read? Received.Metric.read? payload = some q ∧
      Received.TimesKept (Received.Metric.Arrives limits.generic) Metric.times Received.Metric.times
        (scopes.flatMap ScopeMetrics.metrics) q
  | .logs records => ∃ q, Request.read? Received.LogRecord.read? payload = some q ∧
      Received.TimesKept (Received.LogRecord.Arrives limits) LogRecord.times Received.LogRecord.times records q

/-- **Times keep their order**, as long as no 2^64 nanoseconds come full between them; so no span that ends in the turn
in which it starts is received as ending before it starts. -/
theorem times_kept (limits : Limits) (resource : Resource) (batch : Batch) {buffer : ByteArray} {offset finish : Nat}
    (h : (batch.write limits resource offset buffer).1 = .written finish) (hshort : finish < offset + 0x10000000) :
    batch.TimesKept limits ((batch.write limits resource offset buffer).2.extract offset finish).data.toList := by
  cases batch with
  | traces spans =>
    obtain ⟨t, ht, harrives⟩ := spans_arrive
      (S := Received.Timed (Received.Span.RunsForward limits) (Span.times limits) Received.Span.times)
      (fun _ _ hs => ⟨Received.Span.runsForward limits hs, Received.Span.times_arrive limits hs⟩) h hshort
    exact ⟨[t], ht, .of harrives (Scope.group_perm Span.scope spans)⟩
  | metrics scopes =>
    obtain ⟨t, ht, harrives⟩ := metrics_arrive
      (S := Received.Timed (Received.Metric.Arrives limits.generic) Metric.times Received.Metric.times)
      (fun _ _ hm => ⟨Received.Metric.arrives limits.generic hm, Received.Metric.times_arrive limits.generic hm⟩) h
      hshort
    refine ⟨[t], ht, .of harrives ?_⟩
    rw [List.flatMap_map]
  | logs records =>
    obtain ⟨t, ht, harrives⟩ := logs_arrive
      (S := Received.Timed (Received.LogRecord.Arrives limits) LogRecord.times Received.LogRecord.times)
      (fun _ _ hr => ⟨Received.LogRecord.arrives limits hr, Received.LogRecord.times_arrive limits hr⟩) h hshort
    exact ⟨[t], ht, .of harrives (Scope.group_perm LogRecord.scope records)⟩

/-- A span from before 1970 to the last nanosecond of the first turn. -/
def longSpan : Span := { start := ⟨-1⟩, finish := ⟨0xffffffffffffffff⟩ }

theorem times_kept_longSpan :
    ((Batch.traces [longSpan]).write {} {} 0 (List.replicate 83 7).toByteArray).1 = .written 83 ∧
    (Batch.traces [longSpan]).TimesKept {} (((Batch.traces [longSpan]).write {} {} 0
      (List.replicate 83 7).toByteArray).2.extract 0 83).data.toList ∧
    longSpan.start ≤ longSpan.finish ∧ longSpan.start.turn = longSpan.finish.turn := by
  have h : ((Batch.traces [longSpan]).write {} {} 0 (List.replicate 83 7).toByteArray).1 = .written 83 :=
    write_of_finish (by decide +kernel)
  exact ⟨h, times_kept {} {} _ h (by decide), by decide, by decide⟩

/-- A span of one nanosecond, at the end of which 2^64 have come full. -/
def lateSpan : Span := { start := ⟨0xffffffffffffffff⟩, finish := ⟨0x10000000000000000⟩ }

theorem steady_lateSpan : lateSpan.Steady where
  scope := Scope.steady_empty
  attributes := steadyAttributes_nil
  events := List.forall_mem_nil _
  links := List.forall_mem_nil _

/-- A span that comes full of 2^64 nanoseconds is received as ending before it starts. -/
theorem times_turned : lateSpan.start ≤ lateSpan.finish ∧
    ((Batch.traces [lateSpan]).write {} {} 0 (List.replicate 83 7).toByteArray).1 = .written 83 ∧
    ∃ q r, Request.read? Received.Span.read? (((Batch.traces [lateSpan]).write {} {} 0
        (List.replicate 83 7).toByteArray).2.extract 0 83).data.toList = some q ∧
      q.records = [r] ∧ r.start = 0xffffffffffffffff ∧ r.finish = 0 := by
  have h : ((Batch.traces [lateSpan]).write {} {} 0 (List.replicate 83 7).toByteArray).1 = .written 83 :=
    write_of_finish (by decide +kernel)
  have hdecode := Received.traces_decode {} Resource.steady_empty (List.forall_mem_singleton.2 steady_lateSpan)
    (by rw [List.size_toByteArray]; decide) h
  have hgroup : Scope.group Span.scope [lateSpan] = [({}, [lateSpan])] := by
    rw [Scope.group_cons, List.filter_nil, List.filter_nil, Scope.group_nil]
    rfl
  rw [hgroup] at hdecode
  exact ⟨by decide, h, _, _, hdecode, rfl, rfl, rfl⟩

end Batch
end Courier
