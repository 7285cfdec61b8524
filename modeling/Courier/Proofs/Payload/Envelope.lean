import Courier.Proofs.Gather
import Courier.Proofs.Payload.Values
/-!
# Envelope - the parts of a request around the parts of its records

Main statement: a request is put as `requestParts`, whatever its records are, once each record is put as its own
parts (`puts_request`).
-/
namespace Courier
namespace Payload

open Wire
open Received (Attribute.kept Attribute.dropped)

def resourceParts (r : Resource) : Parts :=
  [(1, (Attribute.kept .unlimited r.attributes).map attributePiece),
    (2, countPieces (Attribute.dropped .unlimited r.dropped r.attributes))]

def scopeParts (allowance : Allowance) (s : Scope) : Parts :=
  [(1, [textPiece s.name]), (2, s.version.toList.map textPiece),
    (3, (Attribute.kept allowance s.attributes).map attributePiece),
    (4, countPieces (Attribute.dropped allowance 0 s.attributes))]

variable {α : Type}

/-- The message of a scope with its records. -/
def scopeGroupParts (allowance : Allowance) (record : α → Parts) (g : Scope × List α) : Parts :=
  [(1, [.message (encodeParts (scopeParts allowance g.1))]),
    (2, g.2.map fun x => .message (encodeParts (record x))),
    (3, (nonempty g.1.schemaUrl).toList.map textPiece)]

/-- The message of a resource with its scopes. -/
def resourceGroupParts (allowance : Allowance) (record : α → Parts) (r : Resource) (groups : List (Scope × List α)) :
    Parts :=
  [(1, [.message (encodeParts (resourceParts r))]),
    (2, groups.map fun g => .message (encodeParts (scopeGroupParts allowance record g))),
    (3, (nonempty r.schemaUrl).toList.map textPiece)]

/-- A request. -/
def requestParts (allowance : Allowance) (record : α → Parts) (r : Resource) (groups : List (Scope × List α)) :
    Parts :=
  [(1, [.message (encodeParts (resourceGroupParts allowance record r groups))])]

theorem puts_resource (field : Nat) {r : Resource} (h : r.Steady) :
    Puts (putResource field r) [(field, [.message (encodeParts (resourceParts r))])] :=
  (puts_counted .unlimited 1 2 r.dropped h).message field

theorem puts_scope (allowance : Allowance) (field : Nat) {s : Scope} (h : s.Steady) :
    Puts (putScope allowance field s) [(field, [.message (encodeParts (scopeParts allowance s))])] := by
  have hb := (puts_string 1 s.name).cons ((puts_string? 2 s.version).cons (puts_counted allowance 3 4 0 h))
  exact hb.message field

variable {allowance : Allowance} {put : Nat → α → Write Unit} {record : α → Parts}

theorem puts_scopeGroup {g : Scope × List α} (hs : g.1.Steady)
    (hr : ∀ x ∈ g.2, Puts (put 2 x) [(2, [.message (encodeParts (record x))])]) :
    Puts (putScopeGroup allowance put g) [(2, [.message (encodeParts (scopeGroupParts allowance record g))])] := by
  have hb := (puts_scope allowance 1 hs).cons ((puts_all 2 (put 2) g.2 hr).cons (puts_nonempty 3 g.1.schemaUrl))
  exact hb.message 2

/-- **A request is put as its parts.** -/
theorem puts_request {r : Resource} {groups : List (Scope × List α)} (h : r.Steady)
    (hg : ∀ g ∈ groups, g.1.Steady ∧ ∀ x ∈ g.2, Puts (put 2 x) [(2, [.message (encodeParts (record x))])]) :
    Puts (putRequest allowance put r groups) (requestParts allowance record r groups) := by
  have ha := puts_all 2 (putScopeGroup allowance put) groups fun g hm => puts_scopeGroup (hg g hm).1 (hg g hm).2
  have hb := (puts_resource 1 h).cons (ha.cons (puts_nonempty 3 r.schemaUrl))
  exact hb.message 1

theorem puts_grouped {scopeOf : α → Scope} {r : Resource} {xs : List α} (h : r.Steady)
    (hs : ∀ x ∈ xs, (scopeOf x).Steady)
    (hx : ∀ x ∈ xs, Puts (put 2 x) [(2, [.message (encodeParts (record x))])]) :
    Puts (putRequest allowance put r (Scope.group scopeOf xs))
      (requestParts allowance record r (Scope.group scopeOf xs)) := by
  refine puts_request h fun g hg => ?_
  obtain ⟨⟨x, hm, he⟩, hall⟩ := Scope.mem_group hg
  refine ⟨?_, fun y hy => hx y (hall y hy)⟩
  rw [he]
  exact hs x hm

end Payload
end Courier
