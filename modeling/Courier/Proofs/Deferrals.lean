import Courier.Batch
/-!
# Deferrals - the deferred texts of a batch

All deferred texts that writing a batch may ask for, whether or not the limits leave them out, and the two things that
are assumed of them: that every request is answered alike, and that none breaks off.
-/
namespace Courier

/-- Every request is answered like the first. -/
def Deferred.Alike (d : Deferred) : Prop := ∀ earlier, d.render earlier = d.render 0

/-- No request breaks off. -/
def Deferred.Calm (d : Deferred) : Prop := ∀ earlier reason, d.render earlier ≠ .aborted reason

mutual

def Value.deferrals : Value → List Deferred
  | .bool _ | .int _ | .double _ | .string _ | .bytes _ | .array _ => []
  | .list vs => Value.deferralsOfAll vs
  | .map es => Value.deferralsOfEntries es
  | .deferred d => [d]

def Value.deferralsOfAll : List Value → List Deferred
  | [] => []
  | v :: vs => v.deferrals ++ Value.deferralsOfAll vs

def Value.deferralsOfEntries : List (String × Value) → List Deferred
  | [] => []
  | e :: es => e.2.deferrals ++ Value.deferralsOfEntries es

end

def attributeDeferrals (attributes : List Attribute) : List Deferred := attributes.flatMap fun a => a.2.deferrals

def Resource.deferrals (r : Resource) : List Deferred := attributeDeferrals r.attributes

def Scope.deferrals (s : Scope) : List Deferred := attributeDeferrals s.attributes

def SpanEvent.deferrals (e : SpanEvent) : List Deferred := attributeDeferrals e.attributes

def SpanLink.deferrals (l : SpanLink) : List Deferred := attributeDeferrals l.attributes

def Span.deferrals (s : Span) : List Deferred :=
  s.scope.deferrals ++ (attributeDeferrals s.attributes ++
    (s.events.flatMap SpanEvent.deferrals ++ s.links.flatMap SpanLink.deferrals))

def LogRecord.deferrals (r : LogRecord) : List Deferred :=
  r.scope.deferrals ++ (r.body.toList.flatMap Value.deferrals ++ attributeDeferrals r.attributes)

def Exemplar.deferrals (e : Exemplar) : List Deferred := attributeDeferrals e.attributes

def NumberPoint.deferrals (p : NumberPoint) : List Deferred :=
  attributeDeferrals p.attributes ++ p.exemplars.flatMap Exemplar.deferrals

def HistogramPoint.deferrals (p : HistogramPoint) : List Deferred :=
  attributeDeferrals p.attributes ++ p.exemplars.flatMap Exemplar.deferrals

def ExponentialPoint.deferrals (p : ExponentialPoint) : List Deferred :=
  attributeDeferrals p.attributes ++ p.exemplars.flatMap Exemplar.deferrals

def SummaryPoint.deferrals (p : SummaryPoint) : List Deferred := attributeDeferrals p.attributes

def MetricData.deferrals : MetricData → List Deferred
  | .gauge ps => ps.flatMap NumberPoint.deferrals
  | .sum ps _ _ => ps.flatMap NumberPoint.deferrals
  | .histogram ps _ => ps.flatMap HistogramPoint.deferrals
  | .exponential ps _ => ps.flatMap ExponentialPoint.deferrals
  | .summary ps => ps.flatMap SummaryPoint.deferrals

def ScopeMetrics.deferrals (s : ScopeMetrics) : List Deferred :=
  s.scope.deferrals ++ s.metrics.flatMap fun m => m.data.deferrals

def Batch.deferrals : Batch → List Deferred
  | .traces spans => spans.flatMap Span.deferrals
  | .metrics scopes => scopes.flatMap ScopeMetrics.deferrals
  | .logs records => records.flatMap LogRecord.deferrals

end Courier
