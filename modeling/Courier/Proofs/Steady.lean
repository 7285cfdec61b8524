import Courier.Batch
/-!
# Steady - deferred texts that answer every request alike

A deferred text is asked again whenever a write starts over, so what is written depends on nothing but the batch
only if its answers do not depend on how often it was asked.  `Steady` says so of a deferred text, and of whatever
holds values that each deferred text in it is steady and none breaks off.
-/
namespace Courier

/-- Every request is answered like the first, and none breaks off. -/
structure Deferred.Steady (d : Deferred) : Prop where
  alike : ∀ earlier, d.render earlier = d.render 0
  ends : ∀ reason, d.render 0 ≠ .aborted reason

/-- The text that the first request gives. -/
def Deferred.text? (d : Deferred) : Option String :=
  match d.render 0 with
  | .text s => some s
  | .failed => none
  | .aborted _ => none

/-- The deferred texts of a value are steady. -/
inductive Value.Steady : Value → Prop
  | bool (b : Bool) : Steady (.bool b)
  | int (n : Int64) : Steady (.int n)
  | double (x : Double) : Steady (.double x)
  | string (s : String) : Steady (.string s)
  | bytes (b : ByteArray) : Steady (.bytes b)
  | array (a : UniformArray) : Steady (.array a)
  | list {vs : List Value} (h : ∀ v ∈ vs, Steady v) : Steady (.list vs)
  | map {es : List (String × Value)} (h : ∀ e ∈ es, Steady e.2) : Steady (.map es)
  | deferred {d : Deferred} (h : d.Steady) : Steady (.deferred d)

/-- The deferred texts of attributes are steady. -/
def SteadyAttributes (attributes : List Attribute) : Prop := ∀ a ∈ attributes, a.2.Steady

theorem steadyAttributes_nil : SteadyAttributes [] := List.forall_mem_nil _

def Resource.Steady (r : Resource) : Prop := SteadyAttributes r.attributes

def Scope.Steady (s : Scope) : Prop := SteadyAttributes s.attributes

def SpanEvent.Steady (e : SpanEvent) : Prop := SteadyAttributes e.attributes

def SpanLink.Steady (l : SpanLink) : Prop := SteadyAttributes l.attributes

structure Span.Steady (s : Span) : Prop where
  scope : s.scope.Steady
  attributes : SteadyAttributes s.attributes
  events : ∀ e ∈ s.events, e.Steady
  links : ∀ l ∈ s.links, l.Steady

structure LogRecord.Steady (r : LogRecord) : Prop where
  scope : r.scope.Steady
  body : ∀ v ∈ r.body, v.Steady
  attributes : SteadyAttributes r.attributes

def Exemplar.Steady (e : Exemplar) : Prop := SteadyAttributes e.attributes

structure NumberPoint.Steady (p : NumberPoint) : Prop where
  attributes : SteadyAttributes p.attributes
  exemplars : ∀ e ∈ p.exemplars, e.Steady

structure HistogramPoint.Steady (p : HistogramPoint) : Prop where
  attributes : SteadyAttributes p.attributes
  exemplars : ∀ e ∈ p.exemplars, e.Steady

structure ExponentialPoint.Steady (p : ExponentialPoint) : Prop where
  attributes : SteadyAttributes p.attributes
  exemplars : ∀ e ∈ p.exemplars, e.Steady

def SummaryPoint.Steady (p : SummaryPoint) : Prop := SteadyAttributes p.attributes

def MetricData.Steady : MetricData → Prop
  | .gauge ps => ∀ p ∈ ps, p.Steady
  | .sum ps _ _ => ∀ p ∈ ps, p.Steady
  | .histogram ps _ => ∀ p ∈ ps, p.Steady
  | .exponential ps _ => ∀ p ∈ ps, p.Steady
  | .summary ps => ∀ p ∈ ps, p.Steady

structure ScopeMetrics.Steady (s : ScopeMetrics) : Prop where
  scope : s.scope.Steady
  metrics : ∀ m ∈ s.metrics, m.data.Steady

/-- The deferred texts of a batch are steady. -/
def Batch.Steady : Batch → Prop
  | .traces spans => ∀ s ∈ spans, s.Steady
  | .metrics scopes => ∀ s ∈ scopes, s.Steady
  | .logs records => ∀ r ∈ records, r.Steady

/-- Two attributes with deferred texts, of which the first gives its text and the second always fails. -/
def deferredPair : List Attribute :=
  [("a", .deferred ⟨0, fun _ => .text "x"⟩), ("b", .deferred ⟨1, fun _ => .failed⟩)]

theorem steady_deferredPair : SteadyAttributes deferredPair := by
  intro a ha
  rcases List.mem_cons.1 ha with rfl | ha
  · exact .deferred ⟨fun _ => rfl, fun _ h => by cases h⟩
  · rw [List.mem_singleton.1 ha]
    exact .deferred ⟨fun _ => rfl, fun _ h => by cases h⟩

theorem Resource.steady_empty : Resource.Steady {} := steadyAttributes_nil

theorem Scope.steady_empty : Scope.Steady {} := steadyAttributes_nil

end Courier
