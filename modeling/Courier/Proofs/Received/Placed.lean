import Courier.Proofs.Partition
import Courier.Proofs.Received.Arrived
/-!
# Placed - where the records of a batch lie in what is received

Main statement: the records of a request that arrives are those of the batch, one for one in the order of their
groups, and each lies in the group under whose scope it was put (`ResourceGroup.Arrives.placed`).
-/
namespace Courier

/-- The groups hold each record as often as the list does. -/
theorem Scope.group_perm {α : Type} (scopeOf : α → Scope) (xs : List α) :
    ((group scopeOf xs).flatMap Prod.snd).Perm xs := by
  rw [flatMap_group]
  exact gather_perm _ xs

namespace Received

variable {α ρ : Type}

/-- The records of a request, each with its group. -/
def Request.placed (q : Request ρ) : List (ScopeGroup ρ × ρ) :=
  q.flatMap fun t => t.scopes.flatMap fun w => w.records.map fun r => (w, r)

def Request.records (q : Request ρ) : List ρ := q.placed.map Prod.snd

/-- A record arrives in a group that arrives, of those that it is in. -/
structure Placed (allowance : Allowance) (S : α → ρ → Prop) (groups : List (Courier.Scope × List α)) (x : α)
    (p : ScopeGroup ρ × ρ) : Prop where
  group : ∃ g ∈ groups, x ∈ g.2 ∧ ScopeGroup.Arrives allowance S g p.1
  record : S x p.2

variable {allowance : Allowance} {S : α → ρ → Prop} {groups : List (Courier.Scope × List α)}

theorem ScopeGroup.Arrives.placed {g : Courier.Scope × List α} {w : ScopeGroup ρ} (hg : g ∈ groups)
    (h : ScopeGroup.Arrives allowance S g w) :
    List.Forall₂ (Placed allowance S groups) g.2 (w.records.map fun r => (w, r)) := by
  have hmem := (List.forall₂_and_left g.2 w.records).2 ⟨fun _ hx => hx, h.records⟩
  exact List.forall₂_map_right_iff.2 (hmem.imp fun _ _ ⟨hx, hr⟩ => ⟨⟨g, hg, hx, h⟩, hr⟩)

/-- **Records arrive one for one**, group by group. -/
theorem ResourceGroup.Arrives.placed {resource : Courier.Resource} {t : ResourceGroup ρ}
    (h : ResourceGroup.Arrives allowance S resource groups t) :
    List.Forall₂ (Placed allowance S groups) (groups.flatMap Prod.snd) (Request.placed [t]) := by
  have hmem := (List.forall₂_and_left groups t.scopes).2 ⟨fun _ hg => hg, h.scopes⟩
  rw [Request.placed, List.flatMap_singleton]
  exact List.rel_flatMap hmem fun g w ⟨hg, hw⟩ => hw.placed hg

theorem ResourceGroup.Arrives.records {resource : Courier.Resource} {t : ResourceGroup ρ}
    (h : ResourceGroup.Arrives allowance S resource groups t) :
    List.Forall₂ S (groups.flatMap Prod.snd) (Request.records [t]) :=
  List.forall₂_map_right_iff.2 (h.placed.imp fun _ _ hp => hp.record)

end Received
end Courier
