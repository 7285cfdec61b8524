import Courier.Proofs.Payload.Answered
/-!
# Records - requests whose deferred texts are answered in any way

Each writer of a record puts its fields in the order of their numbers, and so the parts of a record that it is
answered as.  Main statement: a request is put as one whose resource, scopes and records are answered, for the
records of any signal (`putsSome_request`).
-/
namespace Courier
namespace Payload

open Wire
open Received (Attribute.kept Attribute.dropped)

/-! ## Requests -/

theorem putsSome_resource (field : Nat) (r : Resource) :
    PutsSome (putResource field r) r.Answered fun r' => [(field, [.message (encodeParts (resourceParts r'))])] := by
  refine ((putsSome_counted .unlimited 1 2 r.dropped r.attributes).message field).mono ?_
  exact fun as has => ⟨_, .intro has, rfl⟩

theorem putsSome_scope (allowance : Allowance) (field : Nat) (s : Scope) :
    PutsSome (putScope allowance field s) (s.Answered allowance)
      fun s' => [(field, [.message (encodeParts (scopeParts allowance s'))])] := by
  have hb := (puts_string 1 s.name).before ((puts_string? 2 s.version).before
    (putsSome_counted allowance 3 4 0 s.attributes))
  refine (hb.message field).mono ?_
  exact fun as has => ⟨_, .intro has, rfl⟩

variable {α : Type} {allowance : Allowance} {put : Nat → α → Write Unit} {record : α → Parts} {R : α → α → Prop}

theorem putsSome_scopeGroup (g : Scope × List α)
    (hr : ∀ x ∈ g.2, PutsSome (put 2 x) (R x) fun y => [(2, [.message (encodeParts (record y))])]) :
    PutsSome (putScopeGroup allowance put g) (GroupAnswered allowance R g)
      fun g' => [(2, [.message (encodeParts (scopeGroupParts allowance record g'))])] := by
  have hb := (putsSome_scope allowance 1 g.1).append ((putsSome_all 2 hr).then (puts_nonempty 3 g.1.schemaUrl))
  refine (hb.message 2).mono ?_
  rintro ⟨_, xs⟩ ⟨⟨has⟩, hxs⟩
  exact ⟨(_, xs), ⟨.intro has, hxs⟩, rfl⟩

/-- **A request is put as one whose deferred texts are answered**, once its records are. -/
theorem putsSome_request (r : Resource) {groups : List (Scope × List α)}
    (hg : ∀ g ∈ groups, ∀ x ∈ g.2, PutsSome (put 2 x) (R x) fun y => [(2, [.message (encodeParts (record y))])]) :
    PutsSome (putRequest allowance put r groups)
      (fun a : Resource × List (Scope × List α) => r.Answered a.1 ∧
        List.Forall₂ (GroupAnswered allowance R) groups a.2)
      fun a => requestParts allowance record a.1 a.2 := by
  have ha : PutsSome (putAll (putScopeGroup allowance put) groups) _ _ :=
    putsSome_all 2 fun g hm => putsSome_scopeGroup g (hg g hm)
  have hb := (putsSome_resource 1 r).append (ha.then (puts_nonempty 3 r.schemaUrl))
  refine (hb.message 1).mono ?_
  rintro ⟨_, gs⟩ ⟨⟨has⟩, hgs⟩
  exact ⟨(_, gs), ⟨.intro has, hgs⟩, rfl⟩

/-! ## Traces -/

theorem putsSome_event (allowance : Allowance) (e : SpanEvent) :
    PutsSome (putEvent allowance e) (e.Answered allowance)
      fun e' => [(11, [.message (encodeParts (eventParts allowance e'))])] := by
  have hb := (puts_fixed64 1 e.time.wireNanos).before ((puts_string 2 e.name).before
    (putsSome_counted allowance 3 4 e.dropped e.attributes))
  refine (hb.message 11).mono ?_
  exact fun as has => ⟨_, .intro has, rfl⟩

theorem putsSome_link (allowance : Allowance) (l : SpanLink) :
    PutsSome (putLink allowance l) (l.Answered allowance)
      fun l' => [(13, [.message (encodeParts (linkParts allowance l'))])] := by
  have hc := (putsSome_counted allowance 4 5 l.dropped l.attributes).then
    (puts_fixed32 6 (referenceFlags l.flags l.remote))
  have hb := (puts_id 1 l.traceId).before ((puts_id 2 l.spanId).before ((puts_nonempty 3 l.traceState).before hc))
  refine (hb.message 13).mono ?_
  exact fun as has => ⟨_, .intro has, rfl⟩

/-- What comes behind the members that are written is not taken. -/
theorem take_answered {α : Type} {R : α → α → Prop} {xs ys : List α} {n : Nat} (h : List.Forall₂ R (xs.take n) ys) :
    (ys ++ xs.drop n).take n = ys ∧ (ys ++ xs.drop n).length = xs.length := by
  have hlen := h.length_eq
  rw [List.length_take] at hlen
  refine ⟨?_, by rw [List.length_append, List.length_drop]; omega⟩
  rw [List.take_append, List.take_of_length_le (by omega)]
  by_cases hn : n ≤ xs.length
  · rw [show n - ys.length = 0 by omega, List.take_zero, List.append_nil]
  · rw [List.drop_of_length_le (by omega), List.take_nil, List.append_nil]

theorem putsSome_span (limits : Limits) (field : Nat) (s : Span) :
    PutsSome (putSpan limits field s) (s.Answered limits)
      fun s' => [(field, [.message (encodeParts (spanParts limits s'))])] := by
  have hevents : PutsSome (putAll (putEvent limits.event) (s.events.take limits.eventCount.toNat)) _ _ :=
    putsSome_all 11 fun e _ => putsSome_event limits.event e
  have hlinks : PutsSome (putAll (putLink limits.link) (s.links.take limits.linkCount.toNat)) _ _ :=
    putsSome_all 13 fun l _ => putsSome_link limits.link l
  -- From the last field back to the first.
  have hend := (puts_status s.status).cons (puts_fixed32 16 (referenceFlags s.flags s.parentRemote))
  have hlists := hevents.append ((puts_count 12 (droppedPast limits.eventCount s.events.length
    s.droppedEvents)).before (hlinks.then ((puts_count 14 (droppedPast limits.linkCount s.links.length
      s.droppedLinks)).cons hend)))
  have hattributes := (putsSome_counted limits.span 9 10 s.droppedAttributes s.attributes).append hlists
  have htimes := (puts_fixed64 7 s.start.wireNanos).before ((puts_fixed64 8 s.finish.wireNanos).before hattributes)
  have hname := (puts_string 5 s.name).before ((puts_number 6 (spanKindCode_lt s.kind)).before htimes)
  have hids := (puts_id 1 s.traceId).before ((puts_id 2 s.spanId).before ((puts_nonempty 3 s.traceState).before
    ((puts_parent s.parent).before hname)))
  refine (hids.message field).mono ?_
  rintro ⟨as, es, ls⟩ ⟨has, hes, hls⟩
  refine ⟨_, .intro has hes hls, ?_⟩
  obtain ⟨htake, hlength⟩ := take_answered hes
  obtain ⟨htake', hlength'⟩ := take_answered hls
  simp only [spanParts, htake, hlength, htake', hlength']
  rfl

/-! ## Logs -/

theorem putsSome_body? (length : Option Nat) (o : Option Value) :
    PutsSome (putBody? length o) (Option.Rel Value.Answered o)
      fun o' => [(5, (o'.bind (Received.Value.of? length)).toList.map valuePiece)] := by
  cases o with
  | none =>
    refine Ends.mono (ends_pure ()) ?_
    rintro _ _ ⟨-, rfl⟩
    exact ⟨none, .none, rfl⟩
  | some v =>
    refine (Ends.bind (ends_value length 5 v) fun _ => ends_pure ()).mono ?_
    rintro _ _ ⟨_, _, _, ⟨v', hv, -, rfl⟩, ⟨-, rfl⟩, rfl⟩
    exact ⟨some v', .some hv, by rw [List.append_nil, encodeParts_singleton]; rfl⟩

theorem putsSome_logRecord (limits : Limits) (field : Nat) (r : LogRecord) :
    PutsSome (putLogRecord limits field r) (r.Answered limits)
      fun r' => [(field, [.message (encodeParts (logRecordParts limits r'))])] := by
  -- From the last field back to the first.
  have hend := (puts_time? 11 (r.observed.or r.time)).cons (puts_string? 12 r.eventName)
  have hcontext := (puts_context? r.context).append hend
  have hattributes := (putsSome_counted limits.log 6 7 0 r.attributes).then hcontext
  have hbody := (putsSome_body? limits.log.length r.body).append hattributes
  have htime := (puts_time? 1 r.time).before ((puts_severity? r.severity).before
    ((puts_string? 3 r.severityText).before hbody))
  refine (htime.message field).mono ?_
  rintro ⟨o, as⟩ ⟨ho, has⟩
  exact ⟨_, .intro ho has, rfl⟩

/-! ## Metrics -/

theorem putsSome_exemplar (allowance : Allowance) (field : Nat) (e : Exemplar) :
    PutsSome (putExemplar allowance field e) (e.Answered allowance)
      fun e' => [(field, [.message (encodeParts (exemplarParts allowance e'))])] := by
  have hvalue := (puts_numberValue 3 6 e.value).append ((puts_id 4 e.spanId).cons (puts_id 5 e.traceId))
  have hb := (putsSome_kept allowance 7 e.attributes).then ((puts_fixed64 2 e.time.wireNanos).cons hvalue)
  refine (hb.message field).mono ?_
  exact fun as has => ⟨_, .intro has, rfl⟩

theorem putsSome_exemplars (allowance : Allowance) (field : Nat) (es : List Exemplar) :
    PutsSome (putAll (putExemplar allowance field) es) (List.Forall₂ (Exemplar.Answered allowance) es)
      fun es' => [(field, exemplarPieces allowance es')] :=
  putsSome_all field fun e _ => putsSome_exemplar allowance field e

theorem putsSome_numberPoint (allowance : Allowance) (p : NumberPoint) :
    PutsSome (putNumberPoint allowance p) (p.Answered allowance)
      fun p' => [(1, [.message (encodeParts (numberPointParts allowance p'))])] := by
  have hvalue := (puts_numberValue 4 6 p.value).before (putsSome_exemplars allowance 5 p.exemplars)
  have hb := (putsSome_kept allowance 7 p.attributes).append ((puts_times p.start p.time).before hvalue)
  refine (hb.message 1).mono ?_
  rintro ⟨as, es⟩ ⟨has, hes⟩
  exact ⟨_, .intro has hes, rfl⟩

theorem putsSome_histogramPoint (allowance : Allowance) (p : HistogramPoint) :
    PutsSome (putHistogramPoint allowance p) (p.Answered allowance)
      fun p' => [(1, [.message (encodeParts (histogramPointParts allowance p'))])] := by
  have hend := (putsSome_exemplars allowance 8 p.exemplars).then ((puts_double? 11 p.min).cons (puts_double? 12 p.max))
  have hruns := (puts_fixedRun 6 (fun n => n) p.bucketCounts).before
    ((puts_fixedRun 7 Double.bits p.bounds).before hend)
  have hcount := (puts_fixed64 4 p.count).before ((puts_double? 5 p.sum).before hruns)
  have hb := (putsSome_kept allowance 9 p.attributes).append ((puts_times p.start p.time).before hcount)
  refine (hb.message 1).mono ?_
  rintro ⟨as, es⟩ ⟨has, hes⟩
  exact ⟨_, .intro has hes, rfl⟩

theorem putsSome_exponentialPoint (allowance : Allowance) (p : ExponentialPoint) :
    PutsSome (putExponentialPoint allowance p) (p.Answered allowance)
      fun p' => [(1, [.message (encodeParts (exponentialPointParts allowance p'))])] := by
  -- From the last field back to the first.
  have hend := (puts_double? 12 p.min).cons ((puts_double? 13 p.max).cons (puts_fixed64 14 p.zeroThreshold.bits))
  have hbuckets := (puts_buckets 8 p.positive).before ((puts_buckets 9 p.negative).before
    ((putsSome_exemplars allowance 11 p.exemplars).then hend))
  have hzero := (puts_zigzag 6 p.scale.toInt32).before ((puts_fixed64 7 p.zeroCount).before hbuckets)
  have hcount := (puts_fixed64 4 p.count).before ((puts_double? 5 p.sum).before hzero)
  have hb := (putsSome_kept allowance 1 p.attributes).append ((puts_times p.start p.time).before hcount)
  refine (hb.message 1).mono ?_
  rintro ⟨as, es⟩ ⟨has, hes⟩
  exact ⟨_, .intro has hes, rfl⟩

theorem putsSome_summaryPoint (allowance : Allowance) (p : SummaryPoint) :
    PutsSome (putSummaryPoint allowance p) (p.Answered allowance)
      fun p' => [(1, [.message (encodeParts (summaryPointParts allowance p'))])] := by
  have hquantiles := puts_all 6 putQuantile p.quantiles fun q _ => puts_quantile q
  have hcount := (puts_fixed64 4 p.count).cons ((puts_fixed64 5 p.sum.bits).cons hquantiles)
  have hb := (putsSome_kept allowance 7 p.attributes).then ((puts_times p.start p.time).append hcount)
  refine (hb.message 1).mono ?_
  exact fun as has => ⟨_, .intro has, rfl⟩

theorem putsSome_metricData (allowance : Allowance) (d : MetricData) :
    PutsSome (putMetricData allowance d) (d.Answered allowance)
      fun d' => [((dataParts allowance d').1, [.message (encodeParts (dataParts allowance d').2)])] := by
  cases d with
  | gauge ps =>
    have hp : PutsSome (putAll (putNumberPoint allowance) ps) _ _ :=
      putsSome_all 1 fun p _ => putsSome_numberPoint allowance p
    exact (hp.message 5).mono fun ps' hps => ⟨.gauge ps', .gauge hps, rfl⟩
  | sum ps t monotonic =>
    have hp : PutsSome (putAll (putNumberPoint allowance) ps) _ _ :=
      putsSome_all 1 fun p _ => putsSome_numberPoint allowance p
    exact ((hp.then ((puts_temporality t).cons (puts_monotonic monotonic))).message 7).mono fun ps' hps =>
      ⟨.sum ps' t monotonic, .sum t monotonic hps, rfl⟩
  | histogram ps t =>
    have hp : PutsSome (putAll (putHistogramPoint allowance) ps) _ _ :=
      putsSome_all 1 fun p _ => putsSome_histogramPoint allowance p
    exact ((hp.then (puts_temporality t)).message 9).mono fun ps' hps => ⟨.histogram ps' t, .histogram t hps, rfl⟩
  | exponential ps t =>
    have hp : PutsSome (putAll (putExponentialPoint allowance) ps) _ _ :=
      putsSome_all 1 fun p _ => putsSome_exponentialPoint allowance p
    exact ((hp.then (puts_temporality t)).message 10).mono fun ps' hps => ⟨.exponential ps' t, .exponential t hps, rfl⟩
  | summary ps =>
    have hp : PutsSome (putAll (putSummaryPoint allowance) ps) _ _ :=
      putsSome_all 1 fun p _ => putsSome_summaryPoint allowance p
    exact (hp.message 11).mono fun ps' hps => ⟨.summary ps', .summary hps, rfl⟩

theorem putsSome_metric (allowance : Allowance) (field : Nat) (m : Metric) :
    PutsSome (putMetric allowance field m) (m.Answered allowance)
      fun m' => [(field, [.message (encodeParts (metricParts allowance m'))])] := by
  have hb := (puts_string 1 m.name).before ((puts_nonempty 2 (some m.description)).before
    ((puts_nonempty 3 (some m.unit)).before (putsSome_metricData allowance m.data)))
  refine (hb.message field).mono ?_
  exact fun data hdata => ⟨_, .intro hdata, rfl⟩

end Payload
end Courier
