import Courier.Proofs.Received.Value
import Courier.Proofs.Steady
/-!
# Kept - what a collector gets of values and attributes under limits

A deferred text counts as its text, texts lose their characters past the limit, and a value that fails is left
out, with its attribute, entry or place in a list.  `Attribute.kept` is the first attributes that do not fail, as
many as an allowance admits.  Main statements about running through attributes: one that fails leaves no trace in
what is kept (`keptFrom_cons_none`), and one that does not is kept as long as there is room (`keptFrom_cons_some`).
-/
namespace Courier
namespace Received

/-- The first characters of a text, as many as are kept. -/
def shortened (length : Option Nat) (s : String) : String :=
  match length with
  | some n => String.ofList (s.toList.take n)
  | none => s

theorem length_le_utf8ByteSize (s : String) : s.toList.length ≤ s.utf8ByteSize := by
  induction s using String.push_induction with
  | empty => exact Nat.zero_le _
  | push s c ih =>
    have := c.utf8Size_pos
    rw [String.toList_push, List.length_append, String.utf8ByteSize_push, List.length_singleton]
    omega

theorem truncate_eq (length : Option Nat) (s : String) : truncate length s = shortened length s := by
  cases length with
  | none => rfl
  | some n =>
    rw [truncate, shortened]
    by_cases h : s.utf8ByteSize ≤ n
    · have := length_le_utf8ByteSize s
      simp only [if_pos h]
      rw [List.take_of_length_le (by omega), String.ofList_toList]
    · simp only [if_neg h]

def elements (length : Option Nat) : UniformArray → List Value
  | .bools vs => vs.map .bool
  | .ints vs => vs.map .int
  | .doubles vs => vs.map .double
  | .strings vs => vs.map fun s => .string (shortened length s)

namespace Value

mutual

/-- What is received of a value, unless it fails. -/
def of? (length : Option Nat) : Courier.Value → Option Value
  | .bool b => some (.bool b)
  | .int n => some (.int n)
  | .double x => some (.double x)
  | .string s => some (.string (shortened length s))
  | .bytes b => some (.bytes b.data.toList)
  | .array a => some (.array (elements length a))
  | .list vs => some (.array (ofAll length vs))
  | .map es => some (.keyValues (ofEntries length es))
  | .deferred d => d.text?.map fun s => .string (shortened length s)

/-- What is received of the values of a list. -/
def ofAll (length : Option Nat) : List Courier.Value → List Value
  | [] => []
  | v :: vs => (of? length v).toList ++ ofAll length vs

/-- What is received of the entries of a map. -/
def ofEntries (length : Option Nat) : List (String × Courier.Value) → List (String × Option Value)
  | [] => []
  | (k, v) :: es => ((of? length v).map fun w => (k, some w)).toList ++ ofEntries length es

end

end Value

namespace Attribute

/-- What is received of an attribute, unless its value fails. -/
def of? (length : Option Nat) (a : Courier.Attribute) : Option Attribute :=
  (Value.of? length a.2).map fun v => (a.1, some v)

end Attribute

theorem filterMap_cons_toList {α β : Type} (f : α → Option β) (x : α) (xs : List α) :
    (x :: xs).filterMap f = (f x).toList ++ xs.filterMap f := by
  rw [List.filterMap_cons]
  cases f x <;> rfl

theorem Value.ofAll_eq (length : Option Nat) : ∀ vs, ofAll length vs = vs.filterMap (of? length)
  | [] => rfl
  | v :: vs => by rw [ofAll, ofAll_eq length vs, filterMap_cons_toList]

theorem Value.ofEntries_eq (length : Option Nat) : ∀ es, ofEntries length es = es.filterMap (Attribute.of? length)
  | [] => rfl
  | (k, v) :: es => by
    rw [ofEntries, ofEntries_eq length es, filterMap_cons_toList]
    rfl

namespace Attribute

/-- **The attributes that are kept**: the first of those that do not fail, as many as are allowed. -/
def kept (allowance : Allowance) (attributes : List Courier.Attribute) : List Attribute :=
  match allowance.count with
  | some n => (attributes.filterMap (of? allowance.length)).take n
  | none => attributes.filterMap (of? allowance.length)

example : kept ⟨some 1, none⟩ deferredPair = [("a", some (.string "x"))] := rfl

/-- The number of attributes left out, with those left out before. -/
def dropped (allowance : Allowance) (before : UInt32) (attributes : List Courier.Attribute) : UInt32 :=
  totalDropped (attributes.length - (kept allowance attributes).length) before

/-- The attributes that are kept after `already` others. -/
def keptFrom (allowance : Allowance) (already : Nat) (attributes : List Courier.Attribute) : List Attribute :=
  match allowance.count with
  | some n => (attributes.filterMap (of? allowance.length)).take (n - already)
  | none => attributes.filterMap (of? allowance.length)

variable {allowance : Allowance} {already : Nat}

theorem keptFrom_zero (allowance : Allowance) (attributes : List Courier.Attribute) :
    keptFrom allowance 0 attributes = kept allowance attributes := rfl

@[simp] theorem keptFrom_nil (allowance : Allowance) (already : Nat) : keptFrom allowance already [] = [] := by
  unfold keptFrom
  split
  · exact List.take_nil
  · rfl

theorem keptFrom_of_not_admits (h : allowance.admits already = false) (attributes : List Courier.Attribute) :
    keptFrom allowance already attributes = [] := by
  unfold Allowance.admits at h
  unfold keptFrom
  cases hc : allowance.count with
  | none =>
    rw [hc] at h
    cases h
  | some n =>
    rw [hc] at h
    have hn := of_decide_eq_false h
    show (attributes.filterMap _).take (n - already) = []
    rw [show n - already = 0 by omega, List.take_zero]

theorem keptFrom_cons_none {a : Courier.Attribute} (h : of? allowance.length a = none)
    (attributes : List Courier.Attribute) :
    keptFrom allowance already (a :: attributes) = keptFrom allowance already attributes := by
  unfold keptFrom
  rw [List.filterMap_cons, h]

theorem keptFrom_cons_some (hk : allowance.admits already = true) {a : Courier.Attribute} {b : Attribute}
    (h : of? allowance.length a = some b) (attributes : List Courier.Attribute) :
    keptFrom allowance already (a :: attributes) = b :: keptFrom allowance (already + 1) attributes := by
  unfold Allowance.admits at hk
  unfold keptFrom
  rw [List.filterMap_cons, h]
  cases hc : allowance.count with
  | none => rfl
  | some n =>
    simp only [hc, decide_eq_true_eq] at hk
    simp only
    rw [show n - already = n - (already + 1) + 1 by omega, List.take_succ_cons]

theorem length_keptFrom_le (allowance : Allowance) (already : Nat) (attributes : List Courier.Attribute) :
    (keptFrom allowance already attributes).length ≤ attributes.length := by
  have hf := List.length_filterMap_le (of? allowance.length) attributes
  unfold keptFrom
  split
  · rw [List.length_take]
    omega
  · exact hf

end Attribute

end Received
end Courier
