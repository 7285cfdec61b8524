import Courier.Proofs.Payload.Envelope
/-!
# Envelope - requests as a collector receives them

A request has resources, with their scopes and the records of each.  Main statement: a request is read back from
the bytes of its parts, whatever its records are, once a record is read back from its own (`read?_requestParts`).

Entity references of a resource are passed over, since nothing here writes any.
-/
namespace Courier
namespace Received

open Wire Payload

structure Resource where
  attributes : List Attribute
  dropped : UInt32

structure Scope where
  name : String
  version : String
  attributes : List Attribute
  dropped : UInt32

/-- A scope with its records. -/
structure ScopeGroup (ρ : Type) where
  scope : Option Scope
  records : List ρ
  schemaUrl : String

/-- A resource with its scopes. -/
structure ResourceGroup (ρ : Type) where
  resource : Option Resource
  scopes : List (ScopeGroup ρ)
  schemaUrl : String

/-- An export request. -/
abbrev Request (ρ : Type) : Type := List (ResourceGroup ρ)

variable {ρ α : Type}

/-! ## Readers -/

def Resource.read? (levels : Nat) (fs : List Field) : Option Resource := do
  let attributes ← each? 1 (Attribute.read? levels) fs
  let dropped ← single? 2 uint32? 0 fs
  return ⟨attributes, dropped⟩

def Scope.read? (levels : Nat) (fs : List Field) : Option Scope := do
  let name ← single? 1 Reader.text? "" fs
  let version ← single? 2 Reader.text? "" fs
  let attributes ← each? 3 (Attribute.read? levels) fs
  let dropped ← single? 4 uint32? 0 fs
  return ⟨name, version, attributes, dropped⟩

def ScopeGroup.read? (levels : Nat) (record? : List Field → Option ρ) (fs : List Field) :
    Option (ScopeGroup ρ) := do
  let scope ← embedded? 1 (Scope.read? levels) fs
  let records ← each? 2 record? fs
  let schemaUrl ← single? 3 Reader.text? "" fs
  return ⟨scope, records, schemaUrl⟩

def ResourceGroup.read? (levels : Nat) (record? : List Field → Option ρ) (fs : List Field) :
    Option (ResourceGroup ρ) := do
  let resource ← embedded? 1 (Resource.read? levels) fs
  let scopes ← each? 2 (ScopeGroup.read? levels record?) fs
  let schemaUrl ← single? 3 Reader.text? "" fs
  return ⟨resource, scopes, schemaUrl⟩

/-- Reads a request of which the records are read by `record?`, to the depth that its bytes can nest. -/
def Request.read? (record? : Nat → List Field → Option ρ) (s : List UInt8) : Option (Request ρ) :=
  (fields? s).bind (each? 1 (ResourceGroup.read? (s.length + 1) (record? (s.length + 1))))

/-! ## What is received -/

/-- All attributes of a resource that do not fail. -/
def Resource.of (r : Courier.Resource) : Resource where
  attributes := Attribute.kept .unlimited r.attributes
  dropped := Attribute.dropped .unlimited r.dropped r.attributes

def Scope.of (allowance : Allowance) (s : Courier.Scope) : Scope where
  name := s.name
  version := s.version.getD ""
  attributes := Attribute.kept allowance s.attributes
  dropped := Attribute.dropped allowance 0 s.attributes

def ScopeGroup.of (allowance : Allowance) (record : α → ρ) (g : Courier.Scope × List α) : ScopeGroup ρ where
  scope := some (Scope.of allowance g.1)
  records := g.2.map record
  schemaUrl := g.1.schemaUrl.getD ""

/-- One resource, with the records of its scopes. -/
def Request.of (allowance : Allowance) (record : α → ρ) (r : Courier.Resource) (groups : List (Courier.Scope × List α)) :
    Request ρ :=
  [{ resource := some (Resource.of r)
     scopes := groups.map (ScopeGroup.of allowance record)
     schemaUrl := r.schemaUrl.getD "" }]

/-! ## Reading back -/

variable {levels : Nat} {parts : Parts}

theorem single?_text (h : Fits levels parts) (number : Nat) {s : String} (hp : piecesOf number parts = [textPiece s]) :
    single? number Reader.text? "" (fieldsOf parts) = some s :=
  single?_one h number "" hp (text?_textPiece s)

theorem single?_optionalText (h : Fits levels parts) (number : Nat) {o : Option String}
    (hp : piecesOf number parts = o.toList.map textPiece) :
    single? number Reader.text? "" (fieldsOf parts) = some (o.getD "") := by
  have hs := single?_toList h number "" hp text?_textPiece
  rwa [Option.map_id'] at hs

theorem single?_nonempty (h : Fits levels parts) (number : Nat) {o : Option String}
    (hp : piecesOf number parts = (nonempty o).toList.map textPiece) :
    single? number Reader.text? "" (fieldsOf parts) = some (o.getD "") := by
  rw [single?_optionalText h number hp]
  cases o with
  | none => rfl
  | some s =>
    rw [nonempty, Option.filter_some]
    by_cases hs : s.isEmpty = true
    · rw [hs, String.isEmpty_iff.1 hs]
      rfl
    · rw [Bool.not_eq_true] at hs
      rw [hs]
      rfl

theorem single?_count (h : Fits levels parts) (number : Nat) {n : UInt32}
    (hp : piecesOf number parts = countPieces n) : single? number uint32? 0 (fieldsOf parts) = some n := by
  rw [countPieces] at hp
  by_cases hn : n = 0
  · rw [if_pos hn] at hp
    rw [single?, formed?_fieldsOf number _ h.numbered, hp, hn]
    rfl
  · rw [if_neg hn] at hp
    exact single?_one h number 0 hp (uint32?_varint n)

theorem each?_attributes (h : Fits levels parts) (number : Nat) {attributes : List Attribute}
    (hp : piecesOf number parts = attributes.map attributePiece) :
    each? number (Attribute.read? levels) (fieldsOf parts) = some attributes := by
  have he := each?_map h number hp fun a _ => Attribute.reads levels a
  rwa [List.map_id'] at he

theorem embedded?_one {read : List Field → Option ρ} {inner : Parts} {x : ρ} (h : Fits levels parts) (number : Nat)
    (hp : piecesOf number parts = [.message (encodeParts inner)]) (hr : Reads levels read inner x) :
    embedded? number read (fieldsOf parts) = some (some x) :=
  embedded?_toList h number (o := some x) (f := fun _ => inner) (v := fun y => y) hp fun y hy => by
    rw [← Option.some.inj hy]
    exact hr

theorem Resource.reads (levels : Nat) (r : Courier.Resource) :
    Reads levels (read? levels) (resourceParts r) (of r) where
  numbered := rfl
  read hf := by
    have ha := each?_attributes hf 1 rfl
    have hd := single?_count hf 2 rfl
    rw [read?, ha, hd]
    rfl

theorem Scope.reads (levels : Nat) (allowance : Allowance) (s : Courier.Scope) :
    Reads levels (read? levels) (scopeParts allowance s) (of allowance s) where
  numbered := rfl
  read hf := by
    have hn := single?_text hf 1 rfl
    have hv := single?_optionalText hf 2 rfl
    have ha := each?_attributes hf 3 rfl
    have hd := single?_count hf 4 rfl
    rw [read?, hn, hv, ha, hd]
    rfl

variable {record? : List Field → Option ρ} {recordParts : α → Parts} {record : α → ρ}

theorem ScopeGroup.reads (allowance : Allowance) {g : Courier.Scope × List α}
    (h : ∀ x ∈ g.2, Reads levels record? (recordParts x) (record x)) :
    Reads levels (read? levels record?) (scopeGroupParts allowance recordParts g) (of allowance record g) where
  numbered := rfl
  read hf := by
    have hs := embedded?_one hf 1 rfl (Scope.reads levels allowance g.1)
    have hr := each?_map hf 2 rfl h
    have hu := single?_nonempty hf 3 rfl
    rw [read?, hs, hr, hu]
    rfl

theorem ResourceGroup.reads (allowance : Allowance) (r : Courier.Resource) {groups : List (Courier.Scope × List α)}
    (h : ∀ g ∈ groups, ∀ x ∈ g.2, Reads levels record? (recordParts x) (record x)) :
    Reads levels (read? levels record?) (resourceGroupParts allowance recordParts r groups)
      ⟨some (Resource.of r), groups.map (ScopeGroup.of allowance record), r.schemaUrl.getD ""⟩ where
  numbered := rfl
  read hf := by
    have hr := embedded?_one hf 1 rfl (Resource.reads levels r)
    have hs := each?_map hf 2 rfl fun g hg => ScopeGroup.reads allowance (h g hg)
    have hu := single?_nonempty hf 3 rfl
    rw [read?, hr, hs, hu]
    rfl

/-- **A request is read back from its bytes**, once its records are read back from theirs. -/
theorem read?_requestParts (allowance : Allowance) (r : Courier.Resource) {groups : List (Courier.Scope × List α)}
    {record? : Nat → List Field → Option ρ}
    (h : ∀ levels, ∀ g ∈ groups, ∀ x ∈ g.2, Reads levels (record? levels) (recordParts x) (record x))
    (hs : (encodeParts (requestParts allowance recordParts r groups)).length < 0x10000000) :
    Request.read? record? (encodeParts (requestParts allowance recordParts r groups)) =
      some (Request.of allowance record r groups) := by
  have hf : Fits ((encodeParts (requestParts allowance recordParts r groups)).length + 1)
      (requestParts allowance recordParts r groups) := ⟨rfl, Nat.lt_succ_self _, hs⟩
  have hp : piecesOf 1 (requestParts allowance recordParts r groups) =
      [r].map fun x => .message (encodeParts (resourceGroupParts allowance recordParts x groups)) := rfl
  have he := each?_map hf 1 hp fun x _ =>
    ResourceGroup.reads allowance x (h ((encodeParts (requestParts allowance recordParts r groups)).length + 1))
  rw [Request.read?, fields?, fields?_encodeParts _ rfl hs, Option.bind_some]
  exact he

end Received
end Courier
