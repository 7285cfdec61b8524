import Courier.Batch
import Courier.Proofs.Collected.Values
import Courier.Proofs.Gather
/-!
# Envelope - what a collector receives around the records of a collecting library

The resource arrives with all its attributes, and each scope with its records in their order.  Main statement: of
records that arrive one by one, those under one key arrive as one group, under the scope of the first of them
(`Grouped.of`).
-/
namespace Courier

/-- An instant arrives in nanoseconds of 64 bits since the start of 1970, and one before it as the start. -/
def Timestamp.Arrives (t : Timestamp) (n : UInt64) : Prop :=
  (n.toNat : Int) = max t.nanos 0 % 0x10000000000000000

theorem Timestamp.arrives (t : Timestamp) : t.Arrives t.wireNanos := by
  unfold Arrives wireNanos
  rw [UInt64.toNat_ofNat']
  omega

namespace Collected

variable {ρ : Type}

/-- An instant that is not known arrives as 0. -/
def OptionalTimeArrives (t : Option Timestamp) (n : UInt64) : Prop :=
  match t with
  | some t => t.Arrives n
  | none => n = 0

theorem optionalTime_arrives (t : Option Timestamp) :
    OptionalTimeArrives t ((t.map Timestamp.wireNanos).getD 0) := by
  cases t with
  | none => rfl
  | some t => exact t.arrives

structure Resource.Arrives (r : Resource) (g : Received.ResourceGroup ρ) : Prop where
  attributes : ∃ received, g.resource = some ⟨received, 0⟩ ∧ TableArrives (Value.Arrives none) r.attributes received
  schemaUrl : g.schemaUrl = r.schemaUrl.getD ""

structure Scope.Arrives (allowance : Allowance) (s : Scope) (w : Received.Scope) : Prop where
  name : w.name = s.name
  version : w.version = s.version.getD ""
  attributes : AttributesArrive Value.Arrives allowance 0 s.attributes w.attributes w.dropped

variable {α : Type}

structure GroupArrives (allowance : Allowance) (record : α → ρ → Prop) (s : Scope) (members : List α)
    (g : Received.ScopeGroup ρ) : Prop where
  scope : ∃ w, g.scope = some w ∧ s.Arrives allowance w
  schemaUrl : g.schemaUrl = s.schemaUrl.getD ""
  records : List.Forall₂ record members g.records

/-- Records under one key arrive as one group, and the groups in the order in which the keys first occur. -/
def Grouped {κ : Type} [BEq κ] (key : α → κ) (group : List α → Received.ScopeGroup ρ → Prop) (xs : List α)
    (groups : List (Received.ScopeGroup ρ)) : Prop :=
  List.Forall₂ (fun k g => group (xs.filter fun x => key x == k) g) (xs.map key).eraseDups groups

/-- What arrives is one resource with its groups. -/
def RequestArrives (r : Resource) (scopes : List (Received.ScopeGroup ρ) → Prop) (q : Received.Request ρ) : Prop :=
  ∃ g, q = [g] ∧ r.Arrives g ∧ scopes g.scopes

/-- What tells the scopes of records apart. -/
def Scope.key (s : Scope) : Courier.Scope.Key := ⟨s.name, s.version, s.schemaUrl⟩

/-- Once a batch is written, a collector reads a request of it, and that holds what `scopes` says. -/
def BatchArrives (limits : Limits) (resource : Resource) (batch : Batch) (buffer : ByteArray) (offset : Nat)
    (record? : Nat → List Wire.Field → Option ρ) (scopes : List (Received.ScopeGroup ρ) → Prop) : Prop :=
  ∀ finish, (batch.write limits resource.exported offset buffer).1 = .written finish →
    ∃ q, Received.Request.read? record?
        ((batch.write limits resource.exported offset buffer).2.extract offset finish).data.toList = some q ∧
      RequestArrives resource scopes q

theorem Resource.getD_schemaUrl (r : Resource) : r.exported.schemaUrl.getD "" = r.schemaUrl.getD "" := by
  unfold exported
  cases r.schemaUrl with
  | none => rfl
  | some s =>
    rw [Option.filter_some]
    by_cases h : s = ""
    · simp [h]
    · simp [h]

theorem Resource.steady (r : Resource) : r.exported.Steady := exportedAll_steady _

theorem Scope.steady (s : Scope) : s.exported.Steady := exportedAll_steady _

theorem Scope.arrives (allowance : Allowance) (s : Scope) :
    s.Arrives allowance (Received.Scope.of allowance s.exported) where
  name := rfl
  version := rfl
  attributes := exportedAll_arrive allowance 0 s.attributes

theorem Resource.arrives (r : Resource) (scopes : List (Received.ScopeGroup ρ)) :
    r.Arrives ⟨some (Received.Resource.of r.exported), scopes, r.exported.schemaUrl.getD ""⟩ where
  attributes := by
    obtain ⟨hkept, hcounted⟩ := exportedAll_arrive .unlimited 0 (inOrder r.attributes)
    have hlength := hkept.length_eq
    rw [Allowance.unlimited, Option.getD_none, List.take_length] at hlength
    rw [Allowance.unlimited, Counted, ← hlength, Nat.sub_self] at hcounted
    have hnone : (Received.Resource.of r.exported).dropped = 0 := UInt32.toNat_inj.1 hcounted
    refine ⟨(Received.Resource.of r.exported).attributes, by rw [← hnone], ?_⟩
    exact tableArrives (fun e _ => e.2.arrives none) ((inOrder_perm r.attributes).map _)
  schemaUrl := r.getD_schemaUrl

section Groups

variable {β : Type} {allowance : Allowance} {record : α → ρ → Prop} {made : β → ρ} {exported : α → β}

theorem GroupArrives.of (s : Scope) {members : List α} (h : ∀ x, record x (made (exported x))) :
    GroupArrives allowance record s members
      (Received.ScopeGroup.of allowance made (s.exported, members.map exported)) where
  scope := ⟨_, rfl, s.arrives allowance⟩
  schemaUrl := rfl
  records := forall₂_map_map h members

/-- **Records that arrive one by one arrive in groups.** -/
theorem Grouped.of (exported : α → β) {scopeOf : α → Scope} {exportedScopeOf : β → Courier.Scope}
    (hs : ∀ x, exportedScopeOf (exported x) = (scopeOf x).exported) (h : ∀ x, record x (made (exported x)))
    (xs : List α) :
    Grouped (fun x => (scopeOf x).key)
      (fun members g => ∃ x, members.head? = some x ∧ GroupArrives allowance record (scopeOf x) members g) xs
      ((Courier.Scope.group exportedScopeOf (xs.map exported)).map (Received.ScopeGroup.of allowance made)) := by
  have hkey : ∀ x, (exportedScopeOf (exported x)).key = (scopeOf x).key := fun x => by
    rw [hs]
    rfl
  have hg := Courier.Scope.group_groups exportedScopeOf (xs.map exported)
  simp only [List.map_map, Function.comp_def, hkey, List.filter_map] at hg
  refine List.forall₂_map_right_iff.2 (hg.imp ?_)
  rintro k g ⟨y, hy, rfl⟩
  rw [List.head?_map, Option.map_eq_some_iff] at hy
  obtain ⟨x, hx, rfl⟩ := hy
  rw [hs]
  exact ⟨x, hx, .of (scopeOf x) h⟩

end Groups

end Collected
end Courier
