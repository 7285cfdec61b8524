import Courier.Proofs.Batch.Texts
import Courier.Proofs.Received.Placed
/-!
# Scopes - the scopes under which the records of a batch lie

Main statement: in a request of fewer than 2^28 bytes every span and every log record lies under the name, the version
and the schema url of its own scope, with the attributes of the first record that has these too
(`Batch.scopes_kept`).  The attributes of the other ones are lost (`Batch.scopes_merged`).
-/
namespace Courier

/-- The first record whose scope has the name, the version and the schema url of this one's. -/
def Scope.firstAlike {α : Type} (scopeOf : α → Scope) (records : List α) (x : α) : Option α :=
  records.find? fun y => (scopeOf y).key == (scopeOf x).key

namespace Received

variable {α ρ : Type}

/-- A record lies under its own scope, but for the attributes if another record came first. -/
structure LiesUnder (allowance : Allowance) (scopeOf : α → Courier.Scope) (records : List α) (x : α)
    (w : ScopeGroup ρ) : Prop where
  schemaUrl : w.schemaUrl = (scopeOf x).schemaUrl.getD ""
  scope : ∃ s, w.scope = some s ∧ s.name = (scopeOf x).name ∧ s.version = (scopeOf x).version.getD "" ∧
    ∃ y ∈ Courier.Scope.firstAlike scopeOf records x, AttributesArrive allowance (scopeOf y).attributes s.attributes
  own : (∀ y ∈ Courier.Scope.firstAlike scopeOf records x, (scopeOf y).attributes = (scopeOf x).attributes) →
    ∃ s, w.scope = some s ∧ Scope.Arrives allowance (scopeOf x) s

/-- The records of a request are those given, in some order, each of them under its scope. -/
structure ScopesKept (allowance : Allowance) (scopeOf : α → Courier.Scope) (S : α → ρ → Prop) (records : List α)
    (q : Request ρ) : Prop where
  arrive : ∃ order : List α, order.Perm records ∧
    List.Forall₂ (fun x p => S x p.2 ∧ LiesUnder allowance scopeOf records x p.1) order q.placed

variable {allowance : Allowance} {scopeOf : α → Courier.Scope} {S : α → ρ → Prop} {records : List α}

theorem Placed.liesUnder {x : α} {p : ScopeGroup ρ × ρ}
    (h : Placed allowance S (Courier.Scope.group scopeOf records) x p) :
    LiesUnder allowance scopeOf records x p.1 := by
  obtain ⟨g, hg, hx, ⟨s, hs, harrives⟩, -, hurl⟩ := h.group
  obtain ⟨hfirst, hmembers⟩ := Courier.Scope.group_members scopeOf records hg
  rw [hmembers] at hx
  have hkey : (scopeOf x).key = g.1.key := beq_iff_eq.1 (List.mem_filter.1 hx).2
  obtain ⟨hname, hversion, hschema⟩ := Courier.Scope.Key.mk.inj hkey
  obtain ⟨y, hy, hscope⟩ := Option.map_eq_some_iff.1 hfirst
  -- The head of the group is what a search for its key finds.
  have halike : Courier.Scope.firstAlike scopeOf records x = some y := by
    rw [hmembers, List.head?_filter, ← hkey] at hy
    exact hy
  have hsname : s.name = (scopeOf x).name := by rw [harrives.name, hname]
  have hsversion : s.version = (scopeOf x).version.getD "" := by rw [harrives.version, hversion]
  have hattributes := harrives.attributes
  rw [← hscope] at hattributes
  exact ⟨by rw [hurl, hschema], ⟨s, hs, hsname, hsversion, y, halike, hattributes⟩,
    fun hown => ⟨s, hs, hsname, hsversion, hown y halike ▸ hattributes⟩⟩

theorem ScopesKept.of {resource : Courier.Resource} {t : ResourceGroup ρ}
    (h : ResourceGroup.Arrives allowance S resource (Courier.Scope.group scopeOf records) t) :
    ScopesKept allowance scopeOf S records [t] :=
  ⟨_, Courier.Scope.group_perm scopeOf records, h.placed.imp fun _ _ hp => ⟨hp.record, hp.liesUnder⟩⟩

end Received

namespace Batch

open Payload (putLogs)
open Received (Request.read?)

/-- **Every record lies under its scope**, with the attributes of the first record that has a scope of the same name,
version and schema url; so with its own ones if they are the same. -/
theorem scopes_kept (limits : Limits) (resource : Resource) {buffer : ByteArray} {offset finish : Nat}
    (hshort : finish < offset + 0x10000000) :
    (∀ spans, ((Batch.traces spans).write limits resource offset buffer).1 = .written finish →
      ∃ q, Request.read? Received.Span.read?
          (((Batch.traces spans).write limits resource offset buffer).2.extract offset finish).data.toList = some q ∧
        Received.ScopesKept limits.generic Span.scope (Received.Span.Arrives limits) spans q) ∧
    ∀ records, ((Batch.logs records).write limits resource offset buffer).1 = .written finish →
      ∃ q, Request.read? Received.LogRecord.read?
          (((Batch.logs records).write limits resource offset buffer).2.extract offset finish).data.toList = some q ∧
        Received.ScopesKept limits.generic LogRecord.scope (Received.LogRecord.Arrives limits) records q := by
  constructor
  · intro spans h
    obtain ⟨t, ht, harrives⟩ := spans_arrive (fun _ _ => Received.Span.arrives limits) h hshort
    exact ⟨[t], ht, .of harrives⟩
  · intro records h
    obtain ⟨t, ht, harrives⟩ := logs_arrive (fun _ _ => Received.LogRecord.arrives limits) h hshort
    exact ⟨[t], ht, .of harrives⟩

/-- Two records under one key, of which only the first has a scope with attributes. -/
def taggedRecord : LogRecord := { scope := { name := "x", attributes := [("a", .int 1)] } }

def plainRecord : LogRecord := { scope := { name := "x" } }

theorem group_taggedRecord : Scope.group LogRecord.scope [taggedRecord, plainRecord] =
    [(taggedRecord.scope, [taggedRecord, plainRecord])] := by
  rw [Scope.group_cons]
  show _ :: Scope.group _ [] = _
  rw [Scope.group_nil]
  rfl

theorem write_taggedRecord : ((Batch.logs [taggedRecord, plainRecord]).write {} {} 0
    (List.replicate 48 7).toByteArray).1 = .written 48 := by
  refine write_of_finish ?_
  rw [put, putLogs, group_taggedRecord]
  decide +kernel

theorem scopes_kept_taggedRecord : ∃ q, Request.read? Received.LogRecord.read?
      (((Batch.logs [taggedRecord, plainRecord]).write {} {} 0 (List.replicate 48 7).toByteArray).2.extract 0
        48).data.toList = some q ∧
    Received.ScopesKept (Limits.generic {}) LogRecord.scope (Received.LogRecord.Arrives {})
      [taggedRecord, plainRecord] q :=
  (scopes_kept {} {} (by decide)).2 _ write_taggedRecord

/-- The attributes of a scope can be those of another one: both records lie under the attribute of the first. -/
theorem scopes_merged : plainRecord.scope.attributes = [] ∧ ∃ resource w first second,
    Request.read? Received.LogRecord.read? (((Batch.logs [taggedRecord, plainRecord]).write {} {} 0
        (List.replicate 48 7).toByteArray).2.extract 0 48).data.toList =
      some [⟨resource, [⟨some w, [first, second], ""⟩], ""⟩] ∧ w.attributes = [("a", some (.int 1))] := by
  have hs : ∀ r ∈ [taggedRecord, plainRecord], r.Steady := by
    intro r hr
    have hscope : r.scope.Steady := by
      rcases List.mem_pair.1 hr with rfl | rfl
      · exact List.forall_mem_singleton.2 (.int 1)
      · exact steadyAttributes_nil
    rcases List.mem_pair.1 hr with rfl | rfl <;> exact ⟨hscope, (fun _ hv => nomatch hv), steadyAttributes_nil⟩
  have hdecode := Received.logs_decode {} Resource.steady_empty hs
    (by rw [List.size_toByteArray, List.length_replicate]; decide) write_taggedRecord
  rw [group_taggedRecord] at hdecode
  exact ⟨rfl, _, _, _, _, hdecode, rfl⟩

end Batch
end Courier
