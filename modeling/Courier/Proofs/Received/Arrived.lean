import Courier.Proofs.Payload.Answered.Records
import Courier.Proofs.Received.Logs
import Courier.Proofs.Received.Metrics
import Courier.Proofs.Received.Traces
/-!
# Arrived - what a collector may get of a batch, told from outside

Each relation says what of a record is cut, and by which limit, and that the rest of its texts and bytes is whole.
They leave open what the deferred texts of a batch give and which of their requests count, and what is received of a
batch whose texts were answered in one way satisfies them.
-/
namespace Courier
namespace Received

/-! ## Values -/

/-- The first characters of a text, as many as a limit allows and there are, or the whole text without a limit. -/
def Cut (length : Option Nat) (s t : String) : Prop :=
  match length with
  | some n => t.toList = s.toList.take (min n s.toList.length)
  | none => t = s

/-- The attributes of which something is received, under their names. -/
def named (attributes : List Courier.Attribute) (os : List (Option Value)) : List Attribute :=
  (List.zipWith (fun a o => o.map fun w => (a.1, some w)) attributes os).filterMap id

/-- What may be received of a value, or nothing where it is a text that is refused. -/
inductive Value.Arrives (length : Option Nat) : Courier.Value → Option Value → Prop
  | bool (b : Bool) : Arrives length (.bool b) (some (.bool b))
  | int (n : Int64) : Arrives length (.int n) (some (.int n))
  | double (x : Double) : Arrives length (.double x) (some (.double x))
  | string {s t : String} (h : Cut length s t) : Arrives length (.string s) (some (.string t))
  | bytes (b : ByteArray) : Arrives length (.bytes b) (some (.bytes b.data.toList))
  | bools (vs : List Bool) : Arrives length (.array (.bools vs)) (some (.array (vs.map .bool)))
  | ints (vs : List Int64) : Arrives length (.array (.ints vs)) (some (.array (vs.map .int)))
  | doubles (vs : List Double) : Arrives length (.array (.doubles vs)) (some (.array (vs.map .double)))
  | strings {vs ts : List String} (h : List.Forall₂ (Cut length) vs ts) :
    Arrives length (.array (.strings vs)) (some (.array (ts.map .string)))
  | list {vs : List Courier.Value} {os : List (Option Value)} (h : List.Forall₂ (Arrives length) vs os) :
    Arrives length (.list vs) (some (.array (os.filterMap id)))
  | map {es : List (String × Courier.Value)} {os : List (Option Value)}
    (h : List.Forall₂ (fun e o => Arrives length e.2 o) es os) :
    Arrives length (.map es) (some (.keyValues (named es os)))
  | text {d : Deferred} {earlier : Nat} {s t : String} (given : d.render earlier = .text s) (h : Cut length s t) :
    Arrives length (.deferred d) (some (.string t))
  | refused {d : Deferred} {earlier : Nat} (h : d.render earlier = .failed) : Arrives length (.deferred d) none

theorem cut_shortened (length : Option Nat) (s : String) : Cut length s (shortened length s) := by
  cases length with
  | none => rfl
  | some n =>
    show (String.ofList (s.toList.take n)).toList = _
    rw [String.toList_ofList]
    exact List.take_eq_take_min

/-- What is received of entries is named like the entries that were given. -/
theorem filterMap_named (length : Option Nat) : ∀ {es es' : List Courier.Attribute},
    es'.map Prod.fst = es.map Prod.fst →
      es'.filterMap (Attribute.of? length) = named es (es'.map fun e => Value.of? length e.2)
  | [], [], _ => rfl
  | [], _ :: _, h => nomatch h
  | _ :: _, [], h => nomatch h
  | e :: es, e' :: es', h => by
    obtain ⟨hkey, hrest⟩ := List.cons.inj h
    have ih := filterMap_named length hrest
    have hnamed : named (e :: es) ((e' :: es').map fun e => Value.of? length e.2) =
        ((Value.of? length e'.2).map fun w => (e.1, some w)).toList ++
          named es (es'.map fun e => Value.of? length e.2) := by
      rw [List.map_cons, named, List.zipWith_cons_cons, filterMap_cons_toList]
      rfl
    rw [hnamed, filterMap_cons_toList, ih, Attribute.of?, hkey]

mutual

/-- **What is received of an answered value may be received of the value.** -/
theorem Value.arrives (length : Option Nat) : ∀ {v v' : Courier.Value}, v.Answered v' →
    Arrives length v (of? length v')
  | .bool _, _, .bool b => .bool b
  | .int _, _, .int n => .int n
  | .double _, _, .double x => .double x
  | .string _, _, .string s => .string (cut_shortened length s)
  | .bytes _, _, .bytes b => .bytes b
  | .array (.bools _), _, .array (.bools vs) => .bools vs
  | .array (.ints _), _, .array (.ints vs) => .ints vs
  | .array (.doubles _), _, .array (.doubles vs) => .doubles vs
  | .array (.strings _), _, .array (.strings vs) => by
    have hs : List.Forall₂ (Cut length) vs (vs.map (shortened length)) :=
      List.forall₂_map_right_iff.2 (List.forall₂_same.2 fun s _ => cut_shortened length s)
    have h := Arrives.strings hs
    rwa [List.map_map] at h
  | .list vs, _, .list h => by
    have harrives := Arrives.list (Value.arrives_all length h)
    rw [of?, ofAll_eq]
    rwa [List.filterMap_map] at harrives
  | .map es, _, .map hkeys h => by
    rw [of?, ofEntries_eq, filterMap_named length hkeys]
    exact .map (Value.arrives_entries length h)
  | .deferred d, _, @Courier.Value.Answered.deferred _ earlier h => by
    rw [of?, Deferred.text?, Deferred.fixed]
    cases hd : d.render earlier with
    | text s => exact .text hd (cut_shortened length s)
    | failed => exact .refused hd
    | aborted reason => exact absurd hd (h reason)

theorem Value.arrives_all (length : Option Nat) : ∀ {vs vs' : List Courier.Value},
    List.Forall₂ Courier.Value.Answered vs vs' → List.Forall₂ (Arrives length) vs (vs'.map (of? length))
  | [], _, .nil => .nil
  | _ :: _, _, .cons hv h => .cons (Value.arrives length hv) (Value.arrives_all length h)

theorem Value.arrives_entries (length : Option Nat) : ∀ {es es' : List (String × Courier.Value)},
    List.Forall₂ (fun e e' => e.2.Answered e'.2) es es' →
      List.Forall₂ (fun e o => Arrives length e.2 o) es (es'.map fun e => of? length e.2)
  | [], _, .nil => .nil
  | _ :: _, _, .cons hv h => .cons (Value.arrives length hv) (Value.arrives_entries length h)

end

/-! ## Attributes -/

/-- The attributes present are the first that are not refused, as many as are allowed. -/
structure AttributesArrive (allowance : Allowance) (given : List Courier.Attribute) (present : List Attribute) : Prop
    where
  /-- What comes behind the attributes that were asked for comes behind the limit. -/
  first : ∃ looked skipped os, given = looked ++ skipped ∧
    List.Forall₂ (fun a o => Value.Arrives allowance.length a.2 o) looked os ∧ present = named looked os ∧
    (skipped = [] ∨ allowance.count = some present.length)
  within : ∀ n ∈ allowance.count, present.length ≤ n

theorem AttributesArrive.of {allowance : Allowance} {given as : List Courier.Attribute}
    (h : AnsweredAttributes allowance given as) : AttributesArrive allowance given (Attribute.kept allowance as) := by
  have hwithin : ∀ n ∈ allowance.count, (Attribute.kept allowance as).length ≤ n := by
    intro n hn
    rw [Attribute.kept, Option.mem_def.1 hn]
    exact List.length_take_le n _
  obtain ⟨keys, values, kept, limit⟩ := h
  rename_i looked looked' skipped
  rw [Attribute.keptFrom_zero] at kept
  refine ⟨⟨looked, skipped, _, rfl, Value.arrives_entries allowance.length values, ?_, ?_⟩, hwithin⟩
  · rw [kept, filterMap_named _ keys]
  · refine limit.imp id fun hlimit => ?_
    rw [Nat.zero_add, ← kept, Allowance.admits] at hlimit
    cases hc : allowance.count with
    | none =>
      rw [hc] at hlimit
      cases hlimit
    | some n =>
      rw [hc] at hlimit
      have hle := hwithin n hc
      have hge := of_decide_eq_false hlimit
      rw [show n = _ from Nat.le_antisymm (Nat.le_of_not_lt hge) hle]

/-! ## Records -/

structure Scope.Arrives (allowance : Allowance) (s : Courier.Scope) (t : Scope) : Prop where
  name : t.name = s.name
  version : t.version = s.version.getD ""
  attributes : AttributesArrive allowance s.attributes t.attributes

structure Event.Arrives (allowance : Allowance) (e : SpanEvent) (t : Event) : Prop where
  time : t.time = e.time.wireNanos
  name : t.name = e.name
  attributes : AttributesArrive allowance e.attributes t.attributes

structure Link.Arrives (allowance : Allowance) (l : SpanLink) (t : Link) : Prop where
  traceId : t.traceId = l.traceId.toList
  spanId : t.spanId = l.spanId.toList
  traceState : t.traceState = l.traceState.getD ""
  attributes : AttributesArrive allowance l.attributes t.attributes

structure Span.Arrives (limits : Limits) (s : Courier.Span) (t : Span) : Prop where
  traceId : t.traceId = s.traceId.toList
  spanId : t.spanId = s.spanId.toList
  traceState : t.traceState = s.traceState.getD ""
  parent : t.parent = if s.parent = .none then [] else s.parent.toList
  name : t.name = s.name
  attributes : AttributesArrive limits.span s.attributes t.attributes
  events : List.Forall₂ (Event.Arrives limits.event) (s.events.take limits.eventCount.toNat) t.events
  links : List.Forall₂ (Link.Arrives limits.link) (s.links.take limits.linkCount.toNat) t.links
  status : t.status = Status.of? s.status

structure LogRecord.Arrives (limits : Limits) (r : Courier.LogRecord) (t : LogRecord) : Prop where
  severityText : t.severityText = r.severityText.getD ""
  /-- A body is like the value of an attribute, and absent where it is refused. -/
  body : ∀ v ∈ r.body, Value.Arrives limits.log.length v t.body
  noBody : r.body = none → t.body = none
  attributes : AttributesArrive limits.log r.attributes t.attributes
  traceId : t.traceId = (r.context.map fun c => c.traceId.toList).getD []
  spanId : t.spanId = (r.context.map fun c => c.spanId.toList).getD []
  eventName : t.eventName = r.eventName.getD ""

structure Exemplar.Arrives (allowance : Allowance) (e : Courier.Exemplar) (t : Exemplar) : Prop where
  attributes : AttributesArrive allowance e.attributes t.attributes
  spanId : t.spanId = e.spanId.toList
  traceId : t.traceId = e.traceId.toList

structure NumberPoint.Arrives (allowance : Allowance) (p : Courier.NumberPoint) (t : NumberPoint) : Prop where
  attributes : AttributesArrive allowance p.attributes t.attributes
  exemplars : List.Forall₂ (Exemplar.Arrives allowance) p.exemplars t.exemplars

structure HistogramPoint.Arrives (allowance : Allowance) (p : Courier.HistogramPoint) (t : HistogramPoint) : Prop where
  attributes : AttributesArrive allowance p.attributes t.attributes
  exemplars : List.Forall₂ (Exemplar.Arrives allowance) p.exemplars t.exemplars

structure ExponentialPoint.Arrives (allowance : Allowance) (p : Courier.ExponentialPoint) (t : ExponentialPoint) : Prop
    where
  attributes : AttributesArrive allowance p.attributes t.attributes
  exemplars : List.Forall₂ (Exemplar.Arrives allowance) p.exemplars t.exemplars

structure SummaryPoint.Arrives (allowance : Allowance) (p : Courier.SummaryPoint) (t : SummaryPoint) : Prop where
  attributes : AttributesArrive allowance p.attributes t.attributes

inductive MetricData.Arrives (allowance : Allowance) : Courier.MetricData → MetricData → Prop
  | gauge {ps : List Courier.NumberPoint} {ts : List NumberPoint}
    (h : List.Forall₂ (NumberPoint.Arrives allowance) ps ts) : Arrives allowance (.gauge ps) (.gauge ts)
  | sum {ps : List Courier.NumberPoint} {ts : List NumberPoint} (t : Temporality) (monotonic : Bool)
    (h : List.Forall₂ (NumberPoint.Arrives allowance) ps ts) :
    Arrives allowance (.sum ps t monotonic) (.sum ts (temporalityNumber t) monotonic)
  | histogram {ps : List Courier.HistogramPoint} {ts : List HistogramPoint} (t : Temporality)
    (h : List.Forall₂ (HistogramPoint.Arrives allowance) ps ts) :
    Arrives allowance (.histogram ps t) (.histogram ts (temporalityNumber t))
  | exponential {ps : List Courier.ExponentialPoint} {ts : List ExponentialPoint} (t : Temporality)
    (h : List.Forall₂ (ExponentialPoint.Arrives allowance) ps ts) :
    Arrives allowance (.exponential ps t) (.exponential ts (temporalityNumber t))
  | summary {ps : List Courier.SummaryPoint} {ts : List SummaryPoint}
    (h : List.Forall₂ (SummaryPoint.Arrives allowance) ps ts) : Arrives allowance (.summary ps) (.summary ts)

structure Metric.Arrives (allowance : Allowance) (m : Courier.Metric) (t : Metric) : Prop where
  name : t.name = m.name
  description : t.description = m.description
  unit : t.unit = m.unit
  data : ∃ data, t.data = some data ∧ MetricData.Arrives allowance m.data data

/-! ## Requests -/

structure ScopeGroup.Arrives {α ρ : Type} (allowance : Allowance) (record : α → ρ → Prop) (g : Courier.Scope × List α)
    (t : ScopeGroup ρ) : Prop where
  scope : ∃ s, t.scope = some s ∧ Scope.Arrives allowance g.1 s
  records : List.Forall₂ record g.2 t.records
  schemaUrl : t.schemaUrl = g.1.schemaUrl.getD ""

/-- The attributes of a resource have no limits. -/
structure ResourceGroup.Arrives {α ρ : Type} (allowance : Allowance) (record : α → ρ → Prop) (r : Courier.Resource)
    (groups : List (Courier.Scope × List α)) (t : ResourceGroup ρ) : Prop where
  resource : ∃ s, t.resource = some s ∧ AttributesArrive .unlimited r.attributes s.attributes
  scopes : List.Forall₂ (ScopeGroup.Arrives allowance record) groups t.scopes
  schemaUrl : t.schemaUrl = r.schemaUrl.getD ""

/-! ## What is received of an answered record -/

theorem forall₂_of {α β γ : Type} {R : α → β → Prop} {S : α → γ → Prop} {f : β → γ} {xs : List α} {ys : List β}
    (h : List.Forall₂ R xs ys) (hf : ∀ x y, R x y → S x (f y)) : List.Forall₂ S xs (ys.map f) :=
  List.forall₂_map_right_iff.2 (h.imp hf)

theorem Scope.arrives (allowance : Allowance) {s s' : Courier.Scope} (h : s.Answered allowance s') :
    Arrives allowance s (of allowance s') := by
  obtain ⟨has⟩ := h
  exact ⟨rfl, rfl, .of has⟩

theorem Event.arrives (allowance : Allowance) {e e' : SpanEvent} (h : e.Answered allowance e') :
    Arrives allowance e (of allowance e') := by
  obtain ⟨has⟩ := h
  exact ⟨rfl, rfl, .of has⟩

theorem Link.arrives (allowance : Allowance) {l l' : SpanLink} (h : l.Answered allowance l') :
    Arrives allowance l (of allowance l') := by
  obtain ⟨has⟩ := h
  exact ⟨rfl, rfl, rfl, .of has⟩

theorem Span.arrives (limits : Limits) {s s' : Courier.Span} (h : s.Answered limits s') :
    Arrives limits s (of limits s') := by
  obtain ⟨has, hes, hls⟩ := h
  refine ⟨rfl, rfl, rfl, rfl, rfl, .of has, ?_, ?_, rfl⟩
  · rw [of, (Payload.take_answered hes).1]
    exact forall₂_of hes fun _ _ => Event.arrives limits.event
  · rw [of, (Payload.take_answered hls).1]
    exact forall₂_of hls fun _ _ => Link.arrives limits.link

theorem LogRecord.arrives (limits : Limits) {r r' : Courier.LogRecord} (h : r.Answered limits r') :
    Arrives limits r (of limits r') := by
  obtain ⟨hbody, has⟩ := h
  refine ⟨rfl, fun v hv => ?_, fun hnone => ?_, .of has, rfl, rfl, rfl⟩
  · rw [Option.mem_def.1 hv] at hbody
    obtain ⟨hv⟩ := hbody
    exact Value.arrives limits.log.length hv
  · rw [hnone] at hbody
    cases hbody
    rfl

theorem Exemplar.arrives (allowance : Allowance) {e e' : Courier.Exemplar} (h : e.Answered allowance e') :
    Arrives allowance e (of allowance e') := by
  obtain ⟨has⟩ := h
  exact ⟨.of has, rfl, rfl⟩

theorem NumberPoint.arrives (allowance : Allowance) {p p' : Courier.NumberPoint} (h : p.Answered allowance p') :
    Arrives allowance p (of allowance p') := by
  obtain ⟨has, hes⟩ := h
  exact ⟨.of has, forall₂_of hes fun _ _ => Exemplar.arrives allowance⟩

theorem HistogramPoint.arrives (allowance : Allowance) {p p' : Courier.HistogramPoint} (h : p.Answered allowance p') :
    Arrives allowance p (of allowance p') := by
  obtain ⟨has, hes⟩ := h
  exact ⟨.of has, forall₂_of hes fun _ _ => Exemplar.arrives allowance⟩

theorem ExponentialPoint.arrives (allowance : Allowance) {p p' : Courier.ExponentialPoint}
    (h : p.Answered allowance p') : Arrives allowance p (of allowance p') := by
  obtain ⟨has, hes⟩ := h
  exact ⟨.of has, forall₂_of hes fun _ _ => Exemplar.arrives allowance⟩

theorem SummaryPoint.arrives (allowance : Allowance) {p p' : Courier.SummaryPoint} (h : p.Answered allowance p') :
    Arrives allowance p (of allowance p') := by
  obtain ⟨has⟩ := h
  exact ⟨.of has⟩

theorem MetricData.arrives (allowance : Allowance) {d d' : Courier.MetricData} (h : d.Answered allowance d') :
    Arrives allowance d (of allowance d') := by
  cases h with
  | gauge hps => exact .gauge (forall₂_of hps fun _ _ => NumberPoint.arrives allowance)
  | sum t monotonic hps => exact .sum t monotonic (forall₂_of hps fun _ _ => NumberPoint.arrives allowance)
  | histogram t hps => exact .histogram t (forall₂_of hps fun _ _ => HistogramPoint.arrives allowance)
  | exponential t hps => exact .exponential t (forall₂_of hps fun _ _ => ExponentialPoint.arrives allowance)
  | summary hps => exact .summary (forall₂_of hps fun _ _ => SummaryPoint.arrives allowance)

theorem Metric.arrives (allowance : Allowance) {m m' : Courier.Metric} (h : m.Answered allowance m') :
    Arrives allowance m (of allowance m') := by
  obtain ⟨hdata⟩ := h
  exact ⟨rfl, rfl, rfl, _, rfl, MetricData.arrives allowance hdata⟩

variable {α ρ : Type} {allowance : Allowance} {R : α → α → Prop} {S : α → ρ → Prop} {record : α → ρ}

theorem ScopeGroup.arrives {g g' : Courier.Scope × List α} (h : GroupAnswered allowance R g g')
    (hr : ∀ x y, R x y → S x (record y)) : Arrives allowance S g (of allowance record g') := by
  obtain ⟨s', xs⟩ := g'
  obtain ⟨⟨has⟩, hxs⟩ := h
  exact ⟨⟨_, rfl, Scope.arrives allowance (.intro has)⟩, forall₂_of hxs hr, rfl⟩

/-- **What is received of an answered request is one resource, and its records arrive** if each record does. -/
theorem Request.arrives {r r' : Courier.Resource} {groups groups' : List (Courier.Scope × List α)}
    (h : r.Answered r') (hg : List.Forall₂ (GroupAnswered allowance R) groups groups')
    (hr : ∀ x y, R x y → S x (record y)) :
    ∃ t, Request.of allowance record r' groups' = [t] ∧ ResourceGroup.Arrives allowance S r groups t := by
  obtain ⟨has⟩ := h
  exact ⟨_, rfl, ⟨_, rfl, .of has⟩, forall₂_of hg fun _ _ h => ScopeGroup.arrives h hr, rfl⟩

end Received
end Courier
