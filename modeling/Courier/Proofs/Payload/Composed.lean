import Courier.Proofs.Gather
import Courier.Proofs.Steady
import Courier.Proofs.Wire.Composed
/-!
# Composed - the writers of a payload are composed

One lemma for each writer of a part of a payload.  Main statement: a batch is put by a composed writer, with no other
deferred texts than those of the batch and its resource (`Batch.composed`).
-/
namespace Courier
namespace Payload

open Wire

variable {P : Deferred → Prop}

/-! ## Fields that may be absent -/

theorem composed_string? (field : Nat) (o : Option String) : Composed P (putString? field o) := by
  cases o with
  | none => exact .pure ()
  | some s => exact composed_putString field s

theorem composed_nonempty (field : Nat) (o : Option String) : Composed P (putNonempty field o) := by
  cases o with
  | none => exact .pure ()
  | some s => exact .ite (.pure ()) (composed_putString field s)

theorem composed_double? (field : Nat) (o : Option Double) : Composed P (putDouble? field o) := by
  cases o with
  | none => exact .pure ()
  | some x => exact composed_putFixed64 field x.bits

theorem composed_time? (field : Nat) (o : Option Timestamp) : Composed P (putTime? field o) := by
  cases o with
  | none => exact .pure ()
  | some t => exact composed_putFixed64 field t.wireNanos

theorem composed_count (field : Nat) (n : UInt32) : Composed P (putCount field n) :=
  .ite (.pure ()) (composed_putNumber field n.toNat)

theorem composed_packed {α : Type} (field : Nat) {put : α → Write Unit} (xs : List α)
    (h : ∀ x, Composed P (put x)) : Composed P (putPacked field put xs) :=
  .ite (.pure ()) (.message field (composed_putAll fun x _ => h x))

/-! ## Values -/

theorem composed_uniform (length : Option Nat) (a : UniformArray) : Composed P (putUniform length a) := by
  cases a with
  | bools vs => exact composed_putAll fun v _ => (composed_putNumber 2 _).message 1
  | ints vs => exact composed_putAll fun v _ => (composed_putNumber 3 _).message 1
  | doubles vs => exact composed_putAll fun v _ => (composed_putFixed64 4 v.bits).message 1
  | strings vs => exact composed_putAll fun v _ => (composed_putString 1 _).message 1

/-- A value whose message holds one field that is always written. -/
theorem composed_scalar {w : Write Unit} (field : Nat) (h : Composed P w) :
    Composed P (messageIf field do w; pure true) := (h.andThen (.pure true)).messageIf field

mutual

theorem composed_value (length : Option Nat) (field : Nat) : ∀ v : Value, (∀ d ∈ v.deferrals, P d) →
    Composed P (putValue length field v)
  | .bool b, _ => composed_scalar field (composed_putNumber 2 _)
  | .int n, _ => composed_scalar field (composed_putNumber 3 _)
  | .double x, _ => composed_scalar field (composed_putFixed64 4 x.bits)
  | .string s, _ => composed_scalar field (composed_putString 1 _)
  | .bytes b, _ => composed_scalar field (composed_putBytes 7 b)
  | .array a, _ => composed_scalar field ((composed_uniform length a).message 5)
  | .list vs, h => composed_scalar field ((composed_values length vs h).message 5)
  | .map es, h => composed_scalar field ((composed_entries length es h).message 6)
  | .deferred d, h => by
    refine (Composed.bind (.text (h d List.mem_cons_self)) fun o => ?_).messageIf field
    cases o with
    | none => exact .pure false
    | some s => exact (composed_putString 1 _).andThen (.pure true)

theorem composed_values (length : Option Nat) : ∀ vs : List Value, (∀ d ∈ Value.deferralsOfAll vs, P d) →
    Composed P (putValues length vs)
  | [], _ => .pure ()
  | v :: vs, h => by
    obtain ⟨hv, hvs⟩ := List.forall_mem_append.1 h
    exact (composed_value length 1 v hv).andThen (composed_values length vs hvs)

theorem composed_entries (length : Option Nat) : ∀ es : List (String × Value),
    (∀ d ∈ Value.deferralsOfEntries es, P d) → Composed P (putEntries length es)
  | [], _ => .pure ()
  | (k, v) :: es, h => by
    obtain ⟨hv, hes⟩ := List.forall_mem_append.1 h
    have hentry := ((composed_putString 1 k).andThen (composed_value length 2 v hv)).messageIf 1
    exact hentry.andThen (composed_entries length es hes)

end

theorem composed_attributesFrom (allowance : Allowance) (field : Nat) : ∀ (attributes : List Attribute)
    (kept dropped : Nat), (∀ d ∈ attributeDeferrals attributes, P d) →
      Composed P (putAttributesFrom allowance field kept dropped attributes)
  | [], _, dropped, _ => .pure dropped
  | a :: attributes, kept, dropped, h => by
    obtain ⟨ha, hrest⟩ := List.forall_mem_append.1 h
    have hput : Composed P (putAttribute allowance.length field a) :=
      ((composed_putString 1 a.1).andThen (composed_value allowance.length 2 a.2 ha)).messageIf field
    have hnext : ∀ written : Bool, Composed P (if written = true then
        putAttributesFrom allowance field (kept + 1) dropped attributes
        else putAttributesFrom allowance field kept (dropped + 1) attributes) := fun written =>
      .ite (composed_attributesFrom allowance field attributes (kept + 1) dropped hrest)
        (composed_attributesFrom allowance field attributes kept (dropped + 1) hrest)
    exact .ite (hput.bind hnext) ((Composed.pure false).bind hnext)

variable {attributes : List Attribute}

theorem composed_kept (allowance : Allowance) (field : Nat) (h : ∀ d ∈ attributeDeferrals attributes, P d) :
    Composed P (putKept allowance field attributes) :=
  (composed_attributesFrom allowance field attributes 0 0 h).andThen (.pure ())

theorem composed_counted (allowance : Allowance) (field countField : Nat) (before : UInt32)
    (h : ∀ d ∈ attributeDeferrals attributes, P d) :
    Composed P (putCounted allowance field countField before attributes) :=
  (composed_attributesFrom allowance field attributes 0 0 h).bind fun _ => composed_count countField _

/-- The members of a list, each with deferred texts of its own. -/
theorem composed_each {α : Type} {deferrals : α → List Deferred} {put : α → Write Unit}
    (hput : ∀ x, (∀ d ∈ deferrals x, P d) → Composed P (put x)) {xs : List α} (h : ∀ d ∈ xs.flatMap deferrals, P d) :
    Composed P (putAll put xs) :=
  composed_putAll fun x hx => hput x fun d hd => h d (List.mem_flatMap_of_mem hx hd)

/-! ## Requests -/

theorem composed_resource (field : Nat) {r : Resource} (h : ∀ d ∈ r.deferrals, P d) :
    Composed P (putResource field r) :=
  (composed_counted .unlimited 1 2 r.dropped h).message field

theorem composed_scope (allowance : Allowance) (field : Nat) {s : Scope} (h : ∀ d ∈ s.deferrals, P d) :
    Composed P (putScope allowance field s) :=
  ((composed_putString 1 s.name).andThen ((composed_string? 2 s.version).andThen
    (composed_counted allowance 3 4 0 h))).message field

variable {α : Type} {allowance : Allowance} {put : Nat → α → Write Unit}

theorem composed_scopeGroup {g : Scope × List α} (hs : ∀ d ∈ g.1.deferrals, P d)
    (hr : ∀ x ∈ g.2, Composed P (put 2 x)) : Composed P (putScopeGroup allowance put g) :=
  ((composed_scope allowance 1 hs).andThen ((composed_putAll hr).andThen
    (composed_nonempty 3 g.1.schemaUrl))).message 2

/-- What a request writes inside its message. -/
theorem composed_requestBody {r : Resource} {groups : List (Scope × List α)} (h : ∀ d ∈ r.deferrals, P d)
    (hg : ∀ g ∈ groups, (∀ d ∈ g.1.deferrals, P d) ∧ ∀ x ∈ g.2, Composed P (put 2 x)) :
    ∃ body, putRequest allowance put r groups = message 1 body ∧ Composed P body := by
  refine ⟨_, rfl, (composed_resource 1 h).andThen (Composed.andThen ?_ (composed_nonempty 3 r.schemaUrl))⟩
  exact composed_putAll fun g hm => composed_scopeGroup (hg g hm).1 (hg g hm).2

theorem composed_grouped {scopeOf : α → Scope} {r : Resource} {xs : List α} (h : ∀ d ∈ r.deferrals, P d)
    (hs : ∀ x ∈ xs, ∀ d ∈ (scopeOf x).deferrals, P d) (hx : ∀ x ∈ xs, Composed P (put 2 x)) :
    ∃ body, putRequest allowance put r (Scope.group scopeOf xs) = message 1 body ∧ Composed P body := by
  refine composed_requestBody h fun g hg => ?_
  obtain ⟨⟨x, hm, he⟩, hall⟩ := Scope.mem_group hg
  refine ⟨?_, fun y hy => hx y (hall y hy)⟩
  rw [he]
  exact hs x hm

/-! ## Traces -/

theorem composed_event (allowance : Allowance) {e : SpanEvent} (h : ∀ d ∈ e.deferrals, P d) :
    Composed P (putEvent allowance e) :=
  ((composed_putFixed64 1 e.time.wireNanos).andThen ((composed_putString 2 e.name).andThen
    (composed_counted allowance 3 4 e.dropped h))).message 11

theorem composed_link (allowance : Allowance) {l : SpanLink} (h : ∀ d ∈ l.deferrals, P d) :
    Composed P (putLink allowance l) := by
  have hflags := composed_putFixed32 (P := P) 6 (referenceFlags l.flags l.remote)
  have hc := (composed_counted allowance 4 5 l.dropped h).andThen hflags
  exact ((composed_putBytes 1 (idBytes l.traceId)).andThen ((composed_putBytes 2 (idBytes l.spanId)).andThen
    ((composed_nonempty 3 l.traceState).andThen hc))).message 13

theorem composed_status (status : SpanStatus) : Composed P (putSpanStatus status) := by
  cases status with
  | unset => exact .pure ()
  | ok => exact (composed_putNumber 3 1).message 15
  | error description => exact ((composed_nonempty 2 (some description)).andThen (composed_putNumber 3 2)).message 15

theorem composed_parent (parent : SpanId) : Composed P (putParent parent) :=
  .ite (.pure ()) (composed_putBytes 4 (idBytes parent))

theorem composed_span (limits : Limits) (field : Nat) {s : Span} (h : ∀ d ∈ s.deferrals, P d) :
    Composed P (putSpan limits field s) := by
  obtain ⟨-, h⟩ := List.forall_mem_append.1 h
  obtain ⟨ha, h⟩ := List.forall_mem_append.1 h
  obtain ⟨he, hl⟩ := List.forall_mem_append.1 h
  have hevents : Composed P (putAll (putEvent limits.event) (s.events.take limits.eventCount.toNat)) :=
    composed_putAll fun e hm => composed_event limits.event fun d hd =>
      he d (List.mem_flatMap_of_mem (List.mem_of_mem_take hm) hd)
  have hlinks : Composed P (putAll (putLink limits.link) (s.links.take limits.linkCount.toNat)) :=
    composed_putAll fun l hm => composed_link limits.link fun d hd =>
      hl d (List.mem_flatMap_of_mem (List.mem_of_mem_take hm) hd)
  -- From the last field back to the first.
  have hend := (composed_status (P := P) s.status).andThen
    (composed_putFixed32 16 (referenceFlags s.flags s.parentRemote))
  have hlists := hevents.andThen
    ((composed_count 12 (droppedPast limits.eventCount s.events.length s.droppedEvents)).andThen
      (hlinks.andThen ((composed_count 14 (droppedPast limits.linkCount s.links.length s.droppedLinks)).andThen hend)))
  have hattributes := (composed_counted limits.span 9 10 s.droppedAttributes ha).andThen hlists
  have htimes := (composed_putFixed64 7 s.start.wireNanos).andThen
    ((composed_putFixed64 8 s.finish.wireNanos).andThen hattributes)
  have hname := (composed_putString 5 s.name).andThen ((composed_putNumber 6 (spanKindCode s.kind)).andThen htimes)
  have hids := (composed_putBytes 1 (idBytes s.traceId)).andThen ((composed_putBytes 2 (idBytes s.spanId)).andThen
    ((composed_nonempty 3 s.traceState).andThen ((composed_parent s.parent).andThen hname)))
  exact hids.message field

/-! ## Logs -/

theorem composed_severity? (o : Option Severity) : Composed P (putSeverity? o) := by
  cases o with
  | none => exact .pure ()
  | some s => exact composed_putNumber 2 s.number

theorem composed_body? (length : Option Nat) {o : Option Value} (h : ∀ d ∈ o.toList.flatMap Value.deferrals, P d) :
    Composed P (putBody? length o) := by
  cases o with
  | none => exact .pure ()
  | some v =>
    have hv := composed_value length 5 v fun d hd => h d (List.mem_flatMap_of_mem (List.mem_singleton.2 rfl) hd)
    exact hv.andThen (.pure ())

theorem composed_context? (o : Option LogContext) : Composed P (putContext? o) := by
  cases o with
  | none => exact .pure ()
  | some c =>
    have hids := (composed_putBytes (P := P) 9 (idBytes c.traceId)).andThen (composed_putBytes 10 (idBytes c.spanId))
    refine Composed.andThen ?_ hids
    cases c.flags with
    | none => exact .pure ()
    | some f => exact composed_putFixed32 8 f.toUInt32

theorem composed_logRecord (limits : Limits) (field : Nat) {r : LogRecord} (h : ∀ d ∈ r.deferrals, P d) :
    Composed P (putLogRecord limits field r) := by
  obtain ⟨-, h⟩ := List.forall_mem_append.1 h
  obtain ⟨hbody, ha⟩ := List.forall_mem_append.1 h
  have hend := (composed_time? (P := P) 11 (r.observed.or r.time)).andThen (composed_string? 12 r.eventName)
  have hcontext := (composed_context? r.context).andThen hend
  have hattributes := (composed_counted limits.log 6 7 0 ha).andThen hcontext
  have htext := (composed_string? 3 r.severityText).andThen
    ((composed_body? limits.log.length hbody).andThen hattributes)
  exact ((composed_time? 1 r.time).andThen ((composed_severity? r.severity).andThen htext)).message field

/-! ## Metrics -/

theorem composed_numberValue (doubleField intField : Nat) (v : NumberValue) :
    Composed P (putNumberValue doubleField intField v) := by
  cases v with
  | double x => exact composed_putFixed64 doubleField x.bits
  | int n => exact composed_putFixed64 intField n.toUInt64

theorem composed_times (start : Option Timestamp) (time : Timestamp) : Composed P (putTimes start time) :=
  (composed_time? 2 start).andThen (composed_putFixed64 3 time.wireNanos)

theorem composed_exemplar (allowance : Allowance) (field : Nat) {e : Exemplar} (h : ∀ d ∈ e.deferrals, P d) :
    Composed P (putExemplar allowance field e) := by
  have hids := (composed_putBytes (P := P) 4 (idBytes e.spanId)).andThen (composed_putBytes 5 (idBytes e.traceId))
  exact ((composed_kept allowance 7 h).andThen ((composed_putFixed64 2 e.time.wireNanos).andThen
    ((composed_numberValue 3 6 e.value).andThen hids))).message field

theorem composed_exemplars (allowance : Allowance) (field : Nat) {es : List Exemplar}
    (h : ∀ d ∈ es.flatMap Exemplar.deferrals, P d) : Composed P (putAll (putExemplar allowance field) es) :=
  composed_each (fun _ he => composed_exemplar allowance field he) h

theorem composed_numberPoint (allowance : Allowance) {p : NumberPoint} (h : ∀ d ∈ p.deferrals, P d) :
    Composed P (putNumberPoint allowance p) := by
  obtain ⟨ha, he⟩ := List.forall_mem_append.1 h
  exact ((composed_kept allowance 7 ha).andThen ((composed_times p.start p.time).andThen
    ((composed_numberValue 4 6 p.value).andThen (composed_exemplars allowance 5 he)))).message 1

theorem composed_histogramPoint (allowance : Allowance) {p : HistogramPoint} (h : ∀ d ∈ p.deferrals, P d) :
    Composed P (putHistogramPoint allowance p) := by
  obtain ⟨ha, he⟩ := List.forall_mem_append.1 h
  have hend := (composed_exemplars allowance 8 he).andThen
    ((composed_double? 11 p.min).andThen (composed_double? 12 p.max))
  have hruns := (composed_packed 6 p.bucketCounts fun n => .raw (fixed64 n)).andThen
    ((composed_packed 7 p.bounds fun x => .raw (fixed64 x.bits)).andThen hend)
  have hcount := (composed_putFixed64 4 p.count).andThen ((composed_double? 5 p.sum).andThen hruns)
  exact ((composed_kept allowance 9 ha).andThen ((composed_times p.start p.time).andThen hcount)).message 1

theorem composed_buckets (field : Nat) (b : ExponentialBuckets) : Composed P (putBuckets field b) :=
  ((composed_putNumber 1 (zigzag b.offset.toInt)).andThen
    (composed_packed 2 b.counts fun n => composed_putVarint n.toNat)).message field

theorem composed_exponentialPoint (allowance : Allowance) {p : ExponentialPoint} (h : ∀ d ∈ p.deferrals, P d) :
    Composed P (putExponentialPoint allowance p) := by
  obtain ⟨ha, he⟩ := List.forall_mem_append.1 h
  -- From the last field back to the first.
  have hend := (composed_double? (P := P) 12 p.min).andThen
    ((composed_double? 13 p.max).andThen (composed_putFixed64 14 p.zeroThreshold.bits))
  have hbuckets := (composed_buckets 8 p.positive).andThen ((composed_buckets 9 p.negative).andThen
    ((composed_exemplars allowance 11 he).andThen hend))
  have hzero := (composed_putNumber 6 (zigzag p.scale.toInt32.toInt)).andThen
    ((composed_putFixed64 7 p.zeroCount).andThen hbuckets)
  have hcount := (composed_putFixed64 4 p.count).andThen ((composed_double? 5 p.sum).andThen hzero)
  exact ((composed_kept allowance 1 ha).andThen ((composed_times p.start p.time).andThen hcount)).message 1

theorem composed_summaryPoint (allowance : Allowance) {p : SummaryPoint} (h : ∀ d ∈ p.deferrals, P d) :
    Composed P (putSummaryPoint allowance p) := by
  have hquantiles : Composed P (putAll putQuantile p.quantiles) := composed_putAll fun q _ =>
    ((composed_putFixed64 1 q.quantile.bits).andThen (composed_putFixed64 2 q.value.bits)).message 6
  have hcount := (composed_putFixed64 4 p.count).andThen ((composed_putFixed64 5 p.sum.bits).andThen hquantiles)
  exact ((composed_kept allowance 7 h).andThen ((composed_times p.start p.time).andThen hcount)).message 1

theorem composed_metricData (allowance : Allowance) {data : MetricData} (h : ∀ d ∈ data.deferrals, P d) :
    Composed P (putMetricData allowance data) := by
  cases data with
  | gauge ps => exact (composed_each (fun _ hp => composed_numberPoint allowance hp) h).message 5
  | sum ps t monotonic =>
    have hend := (composed_putNumber (P := P) 2 (temporalityCode t)).andThen
      (.ite (c := monotonic = true) (composed_putNumber 3 1) (.pure ()))
    exact ((composed_each (fun _ hp => composed_numberPoint allowance hp) h).andThen hend).message 7
  | histogram ps t =>
    exact ((composed_each (fun _ hp => composed_histogramPoint allowance hp) h).andThen
      (composed_putNumber 2 (temporalityCode t))).message 9
  | exponential ps t =>
    exact ((composed_each (fun _ hp => composed_exponentialPoint allowance hp) h).andThen
      (composed_putNumber 2 (temporalityCode t))).message 10
  | summary ps => exact (composed_each (fun _ hp => composed_summaryPoint allowance hp) h).message 11

theorem composed_metric (allowance : Allowance) (field : Nat) {m : Metric} (h : ∀ d ∈ m.data.deferrals, P d) :
    Composed P (putMetric allowance field m) :=
  ((composed_putString 1 m.name).andThen ((composed_nonempty 2 (some m.description)).andThen
    ((composed_nonempty 3 (some m.unit)).andThen (composed_metricData allowance h)))).message field

end Payload

open Payload Wire

variable {P : Deferred → Prop}

/-- **A batch is one message with a composed body.** -/
theorem Batch.composed (limits : Limits) {resource : Resource} {batch : Batch} (hr : ∀ d ∈ resource.deferrals, P d)
    (hb : ∀ d ∈ batch.deferrals, P d) : ∃ body, batch.put limits resource = message 1 body ∧ Composed P body := by
  cases batch with
  | traces spans =>
    have hspan : ∀ s ∈ spans, ∀ d ∈ s.deferrals, P d := fun s hs d hd => hb d (List.mem_flatMap_of_mem hs hd)
    exact composed_grouped hr (fun s hs => (List.forall_mem_append.1 (hspan s hs)).1)
      fun s hs => composed_span limits 2 (hspan s hs)
  | metrics scopes =>
    refine composed_requestBody hr fun g hg => ?_
    obtain ⟨s, hs, rfl⟩ := List.mem_map.1 hg
    obtain ⟨hscope, hmetrics⟩ := List.forall_mem_append.1 fun d hd => hb d (List.mem_flatMap_of_mem hs hd)
    exact ⟨hscope, fun m hm => composed_metric limits.generic 2 fun d hd => hmetrics d (List.mem_flatMap_of_mem hm hd)⟩
  | logs records =>
    have hrecord : ∀ x ∈ records, ∀ d ∈ x.deferrals, P d := fun x hx d hd => hb d (List.mem_flatMap_of_mem hx hd)
    exact composed_grouped hr (fun x hx => (List.forall_mem_append.1 (hrecord x hx)).1)
      fun x hx => composed_logRecord limits 2 (hrecord x hx)

end Courier
