import Courier.Collected.LogRecord
import Courier.Proofs.Collected.Envelope
import Courier.Proofs.Received.Logs
/-!
# Logs - what a collector receives of the log records of a collecting library

Main statement: once such records are written, a collector reads one record for each, under its target or its scope
(`LogRecord.logs_arrive`).
-/
namespace Courier
namespace Collected
namespace LogRecord

/-- What a record is told apart by: its target, with nothing but a name, or else its scope. -/
def placed (r : LogRecord) : Scope :=
  match r.target with
  | some name => { name }
  | none => r.scope

structure Arrives (limits : Limits) (r : LogRecord) (w : Received.LogRecord) : Prop where
  eventName : w.eventName = r.eventName.getD ""
  time : OptionalTimeArrives r.time w.time
  observed : OptionalTimeArrives (r.observed.or r.time) w.observed
  severity : w.severity.toInt = ((r.severity.map Severity.number).getD 0 : Nat)
  severityText : w.severityText = r.severityText.getD ""
  body : Option.Rel (LogValue.Arrives limits.log.length) r.body w.body
  attributes : AttributesArrive LogValue.Arrives limits.log 0 r.attributes w.attributes w.dropped
  traceId : w.traceId = (r.context.map fun c => c.traceId.toList).getD []
  spanId : w.spanId = (r.context.map fun c => c.spanId.toList).getD []
  flags : w.flags.toNat = ((r.context.bind LogContext.flags).map UInt8.toNat).getD 0

/-- The scope of records with a target has its name, and nothing else unless a record without one came with more. -/
def TargetArrives (members : List LogRecord) (g : Received.ScopeGroup Received.LogRecord) : Prop :=
  ∀ r ∈ members, ∀ name, r.target = some name →
    ∃ w, g.scope = some w ∧ w.name = name ∧ w.version = "" ∧ g.schemaUrl = "" ∧
      ((∀ other ∈ members, other.target = none → other.scope.attributes = []) → w.attributes = [] ∧ w.dropped = 0)

def AllArrive (limits : Limits) (records : List LogRecord) (scopes : List (Received.ScopeGroup Received.LogRecord)) :
    Prop :=
  Grouped (fun r => r.placed.key) (fun members g => (∃ r, members.head? = some r ∧
    GroupArrives limits.generic (Arrives limits) r.placed members g) ∧ TargetArrives members g) records scopes

theorem exportedScope_eq (r : LogRecord) : r.exportedScope = r.placed.exported := by
  unfold exportedScope placed
  cases r.target <;> rfl

/-- **A log record arrives.** -/
theorem arrives (limits : Limits) (r : LogRecord) : r.Arrives limits (Received.LogRecord.of limits r.exported) where
  eventName := rfl
  time := optionalTime_arrives r.time
  observed := optionalTime_arrives (r.observed.or r.time)
  severity := by
    show Int32.toInt ((r.severity.map fun s => Int32.ofNat s.number).getD 0) = _
    cases r.severity with
    | none => rfl
    | some s =>
      have hle := s.le_last
      exact Int32.toInt_ofNat_of_lt (by omega)
  severityText := rfl
  body := by
    show Option.Rel _ _ ((r.body.map LogValue.exported).bind _)
    cases r.body with
    | none => exact .none
    | some v =>
      obtain ⟨w, hw, hv⟩ := v.arrives limits.log.length
      rw [Option.map_some, Option.bind_some, hw]
      exact .some hv
  attributes := LogValue.exportedEntries_arrive limits.log r.attributes
  traceId := rfl
  spanId := rfl
  flags := by
    show UInt32.toNat (((r.context.bind LogContext.flags).map UInt8.toUInt32).getD 0) = _
    cases r.context.bind LogContext.flags <;> rfl

theorem steady (r : LogRecord) : r.exported.Steady where
  scope := by
    show r.exportedScope.Steady
    rw [exportedScope_eq]
    exact r.placed.steady
  body v hv := by
    obtain ⟨u, -, rfl⟩ := Option.map_eq_some_iff.1 hv
    exact u.steady
  attributes := LogValue.steady_entries r.attributes

theorem targetArrives {limits : Limits} {first : LogRecord} {members : List LogRecord}
    {g : Received.ScopeGroup Received.LogRecord} (hfirst : members.head? = some first)
    (h : GroupArrives limits.generic (Arrives limits) first.placed members g)
    (hkey : ∀ r ∈ members, r.placed.key = first.placed.key) : TargetArrives members g := by
  intro r hr name htarget
  obtain ⟨w, hw, harrives⟩ := h.scope
  have hsame : (⟨name, none, none⟩ : Courier.Scope.Key) = first.placed.key := by
    rw [← hkey r hr, placed, htarget]
    rfl
  obtain ⟨hname, hversion, hurl⟩ := Courier.Scope.Key.mk.inj hsame
  refine ⟨w, hw, harrives.name.trans hname.symm, ?_, ?_, fun hothers => ?_⟩
  · rw [harrives.version, ← hversion]
    rfl
  · rw [h.schemaUrl, ← hurl]
    rfl
  · -- The group has the scope of its first record, with or without a target.
    have hempty : first.placed.attributes = [] := by
      unfold placed
      cases ht : first.target with
      | some other => rfl
      | none => exact hothers first (List.mem_of_mem_head? hfirst) ht
    obtain ⟨hkept, hcounted⟩ := harrives.attributes
    rw [hempty] at hkept hcounted
    rw [List.take_nil, List.forall₂_nil_left_iff] at hkept
    rw [hkept] at hcounted
    exact ⟨hkept, UInt32.toNat_inj.1 hcounted⟩

/-- **Log records arrive.** -/
theorem logs_arrive (limits : Limits) (resource : Resource) (records : List LogRecord) {buffer : ByteArray}
    (hbuffer : buffer.size ≤ Buffer.maxSize) (offset : Nat) :
    BatchArrives limits resource (.logs (records.map exported)) buffer offset Received.LogRecord.read?
      (AllArrive limits records) := by
  intro finish h
  have hs : ∀ r ∈ records.map exported, r.Steady := List.forall_mem_map.2 fun r _ => r.steady
  refine ⟨_, Received.logs_decode limits resource.steady hs hbuffer h, _, rfl, resource.arrives _, ?_⟩
  refine List.Forall₂.imp ?_ (Grouped.of exported exportedScope_eq (arrives limits) records)
  rintro k g ⟨first, hfirst, hgroup⟩
  refine ⟨⟨first, hfirst, hgroup⟩, targetArrives hfirst hgroup fun r hr => ?_⟩
  have hk := (List.mem_filter.1 (List.mem_of_mem_head? hfirst)).2
  exact (beq_iff_eq.1 (List.mem_filter.1 hr).2).trans (beq_iff_eq.1 hk).symm

end LogRecord
end Collected
end Courier
