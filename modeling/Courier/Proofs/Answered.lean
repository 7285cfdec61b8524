import Courier.Proofs.Received.Kept
import Mathlib.Data.List.Forall2
/-!
# Answered - a batch as its requests for texts were answered

A deferred text may be answered in another way each time, so of one batch many payloads may be written.  `Answered`
relates whatever holds values to what is left of it after a run: each text that the run asked for is fixed to what one
of its requests gives.  Attributes past a limit are not asked for anything and stay as they are.
-/
namespace Courier

/-- The text as one of its requests is answered. -/
def Deferred.fixed (d : Deferred) (earlier : Nat) : Deferred := ⟨d.id, fun _ => d.render earlier⟩

inductive Value.Answered : Value → Value → Prop
  | bool (b : Bool) : Answered (.bool b) (.bool b)
  | int (n : Int64) : Answered (.int n) (.int n)
  | double (x : Double) : Answered (.double x) (.double x)
  | string (s : String) : Answered (.string s) (.string s)
  | bytes (b : ByteArray) : Answered (.bytes b) (.bytes b)
  | array (a : UniformArray) : Answered (.array a) (.array a)
  | list {vs vs' : List Value} (h : List.Forall₂ Answered vs vs') : Answered (.list vs) (.list vs')
  | map {es es' : List (String × Value)} (keys : es'.map Prod.fst = es.map Prod.fst)
    (h : List.Forall₂ (fun e e' => Answered e.2 e'.2) es es') : Answered (.map es) (.map es')
  | deferred {d : Deferred} {earlier : Nat} (h : ∀ reason, d.render earlier ≠ .aborted reason) :
    Answered (.deferred d) (.deferred (d.fixed earlier))

/-- Attributes after some others that are kept: those that were looked at are answered, and the others come after the
limit was reached. -/
inductive AnsweredFrom (allowance : Allowance) (already : Nat) : List Attribute → List Attribute → Prop
  | intro {looked looked' skipped : List Attribute} (keys : looked'.map Prod.fst = looked.map Prod.fst)
    (values : List.Forall₂ (fun a a' => a.2.Answered a'.2) looked looked')
    (kept : Received.Attribute.keptFrom allowance already (looked' ++ skipped) =
      looked'.filterMap (Received.Attribute.of? allowance.length))
    (limit : skipped = [] ∨ allowance.admits
      (already + (looked'.filterMap (Received.Attribute.of? allowance.length)).length) = false) :
    AnsweredFrom allowance already (looked ++ skipped) (looked' ++ skipped)

namespace AnsweredFrom

open Received (Attribute.of? Attribute.keptFrom_nil Attribute.keptFrom_of_not_admits Attribute.keptFrom_cons_none
  Attribute.keptFrom_cons_some)

variable {allowance : Allowance} {already : Nat}

theorem nil : AnsweredFrom allowance already [] [] :=
  @intro allowance already [] [] [] rfl .nil (Attribute.keptFrom_nil allowance already) (.inl rfl)

theorem past (h : allowance.admits already = false) (as : List Attribute) : AnsweredFrom allowance already as as :=
  @intro allowance already [] [] as rfl .nil (Attribute.keptFrom_of_not_admits h as) (.inr h)

variable {k : String} {v v' : Value} {as as' : List Attribute}

/-- An attribute that is refused leaves as much room to the others as before. -/
theorem refused (hv : v.Answered v') (ho : Attribute.of? allowance.length (k, v') = none)
    (h : AnsweredFrom allowance already as as') : AnsweredFrom allowance already ((k, v) :: as) ((k, v') :: as') := by
  obtain ⟨keys, values, kept, limit⟩ := h
  rename_i looked looked' skipped
  refine @intro allowance already ((k, v) :: looked) ((k, v') :: looked') skipped (congrArg (k :: ·) keys)
    (.cons hv values) ?_ ?_
  · rw [List.cons_append, Attribute.keptFrom_cons_none ho, List.filterMap_cons_none ho, kept]
  · rwa [List.filterMap_cons_none ho]

theorem written {b : Received.Attribute} (hk : allowance.admits already = true) (hv : v.Answered v')
    (ho : Attribute.of? allowance.length (k, v') = some b) (h : AnsweredFrom allowance (already + 1) as as') :
    AnsweredFrom allowance already ((k, v) :: as) ((k, v') :: as') := by
  obtain ⟨keys, values, kept, limit⟩ := h
  rename_i looked looked' skipped
  refine @intro allowance already ((k, v) :: looked) ((k, v') :: looked') skipped (congrArg (k :: ·) keys)
    (.cons hv values) ?_ ?_
  · rw [List.cons_append, Attribute.keptFrom_cons_some hk ho, List.filterMap_cons_some ho, kept]
  · rwa [List.filterMap_cons_some ho, List.length_cons, ← Nat.add_assoc, Nat.add_right_comm]

theorem length_eq (h : AnsweredFrom allowance already as as') : as'.length = as.length := by
  obtain ⟨keys, -, -, -⟩ := h
  have hlength := congrArg List.length keys
  rw [List.length_map, List.length_map] at hlength
  rw [List.length_append, List.length_append, hlength]

end AnsweredFrom

/-- The attributes of one collection. -/
def AnsweredAttributes (allowance : Allowance) : List Attribute → List Attribute → Prop := AnsweredFrom allowance 0

inductive Resource.Answered (r : Resource) : Resource → Prop
  | intro {as : List Attribute} (h : AnsweredAttributes .unlimited r.attributes as) :
    Answered r { r with attributes := as }

inductive Scope.Answered (allowance : Allowance) (s : Scope) : Scope → Prop
  | intro {as : List Attribute} (h : AnsweredAttributes allowance s.attributes as) :
    Answered allowance s { s with attributes := as }

inductive SpanEvent.Answered (allowance : Allowance) (e : SpanEvent) : SpanEvent → Prop
  | intro {as : List Attribute} (h : AnsweredAttributes allowance e.attributes as) :
    Answered allowance e { e with attributes := as }

inductive SpanLink.Answered (allowance : Allowance) (l : SpanLink) : SpanLink → Prop
  | intro {as : List Attribute} (h : AnsweredAttributes allowance l.attributes as) :
    Answered allowance l { l with attributes := as }

/-- Events and links past their limits stay as they are. -/
inductive Span.Answered (limits : Limits) (s : Span) : Span → Prop
  | intro {as : List Attribute} {es : List SpanEvent} {ls : List SpanLink}
    (attributes : AnsweredAttributes limits.span s.attributes as)
    (events : List.Forall₂ (SpanEvent.Answered limits.event) (s.events.take limits.eventCount.toNat) es)
    (links : List.Forall₂ (SpanLink.Answered limits.link) (s.links.take limits.linkCount.toNat) ls) :
    Answered limits s { s with
      attributes := as
      events := es ++ s.events.drop limits.eventCount.toNat
      links := ls ++ s.links.drop limits.linkCount.toNat }

inductive LogRecord.Answered (limits : Limits) (r : LogRecord) : LogRecord → Prop
  | intro {o : Option Value} {as : List Attribute} (body : Option.Rel Value.Answered r.body o)
    (attributes : AnsweredAttributes limits.log r.attributes as) :
    Answered limits r { r with body := o, attributes := as }

inductive Exemplar.Answered (allowance : Allowance) (e : Exemplar) : Exemplar → Prop
  | intro {as : List Attribute} (h : AnsweredAttributes allowance e.attributes as) :
    Answered allowance e { e with attributes := as }

inductive NumberPoint.Answered (allowance : Allowance) (p : NumberPoint) : NumberPoint → Prop
  | intro {as : List Attribute} {es : List Exemplar} (attributes : AnsweredAttributes allowance p.attributes as)
    (exemplars : List.Forall₂ (Exemplar.Answered allowance) p.exemplars es) :
    Answered allowance p { p with attributes := as, exemplars := es }

inductive HistogramPoint.Answered (allowance : Allowance) (p : HistogramPoint) : HistogramPoint → Prop
  | intro {as : List Attribute} {es : List Exemplar} (attributes : AnsweredAttributes allowance p.attributes as)
    (exemplars : List.Forall₂ (Exemplar.Answered allowance) p.exemplars es) :
    Answered allowance p { p with attributes := as, exemplars := es }

inductive ExponentialPoint.Answered (allowance : Allowance) (p : ExponentialPoint) : ExponentialPoint → Prop
  | intro {as : List Attribute} {es : List Exemplar} (attributes : AnsweredAttributes allowance p.attributes as)
    (exemplars : List.Forall₂ (Exemplar.Answered allowance) p.exemplars es) :
    Answered allowance p { p with attributes := as, exemplars := es }

inductive SummaryPoint.Answered (allowance : Allowance) (p : SummaryPoint) : SummaryPoint → Prop
  | intro {as : List Attribute} (h : AnsweredAttributes allowance p.attributes as) :
    Answered allowance p { p with attributes := as }

inductive MetricData.Answered (allowance : Allowance) : MetricData → MetricData → Prop
  | gauge {ps ps' : List NumberPoint} (h : List.Forall₂ (NumberPoint.Answered allowance) ps ps') :
    Answered allowance (.gauge ps) (.gauge ps')
  | sum {ps ps' : List NumberPoint} (t : Temporality) (monotonic : Bool)
    (h : List.Forall₂ (NumberPoint.Answered allowance) ps ps') :
    Answered allowance (.sum ps t monotonic) (.sum ps' t monotonic)
  | histogram {ps ps' : List HistogramPoint} (t : Temporality)
    (h : List.Forall₂ (HistogramPoint.Answered allowance) ps ps') :
    Answered allowance (.histogram ps t) (.histogram ps' t)
  | exponential {ps ps' : List ExponentialPoint} (t : Temporality)
    (h : List.Forall₂ (ExponentialPoint.Answered allowance) ps ps') :
    Answered allowance (.exponential ps t) (.exponential ps' t)
  | summary {ps ps' : List SummaryPoint} (h : List.Forall₂ (SummaryPoint.Answered allowance) ps ps') :
    Answered allowance (.summary ps) (.summary ps')

inductive Metric.Answered (allowance : Allowance) (m : Metric) : Metric → Prop
  | intro {data : MetricData} (h : m.data.Answered allowance data) : Answered allowance m { m with data := data }

/-- The groups of a request, with the relation of their records. -/
def GroupAnswered {α : Type} (allowance : Allowance) (record : α → α → Prop) (g g' : Scope × List α) : Prop :=
  g.1.Answered allowance g'.1 ∧ List.Forall₂ record g.2 g'.2

end Courier
