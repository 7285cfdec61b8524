import Courier.Collected.Value
import Courier.Proofs.Received.Envelope
import Mathlib.Data.List.Forall2
/-!
# Values - what a collector receives of the values of a collecting library

`Value.Arrives` and `LogValue.Arrives` say which received value a value becomes, at any depth, and only the entries
of a map come in an order of their own.  Main statements: a value arrives, and none fails (`Value.arrives`,
`LogValue.arrives`); of attributes the first ones arrive, as many as are allowed, and the others are counted
(`AttributesArrive.of`).
-/
namespace Courier
namespace Collected

open Received (shortened elements)

/-! ## Named values -/

/-- A named value arrives under its name. -/
inductive NamedArrives {α : Type} (value : α → Received.Value → Prop) : String × α → Received.Attribute → Prop
  | mk {k : String} {v : α} {w : Received.Value} (h : value v w) : NamedArrives value (k, v) (k, some w)

/-- The entries of a table arrive in any order. -/
def TableArrives {α : Type} (value : α → Received.Value → Prop) (entries : List (String × α))
    (received : List Received.Attribute) : Prop :=
  ∃ inTurn, List.Forall₂ (NamedArrives value) (lastOfEach entries) inTurn ∧ received.Perm inTurn

/-- What did not arrive is counted together with what was left out before, up to the largest count. -/
def Counted (given received : Nat) (before dropped : UInt32) : Prop :=
  dropped.toNat = min (given - received + before.toNat) 0xffffffff

/-- The first of a list arrive in their order, as many as a limit allows, and the others are counted. -/
structure FirstArrive {α ρ : Type} (arrives : α → ρ → Prop) (limit : Nat) (before : UInt32) (given : List α)
    (received : List ρ) (dropped : UInt32) : Prop where
  kept : List.Forall₂ arrives (given.take limit) received
  dropped : Counted given.length received.length before dropped

/-- The first attributes arrive, as many as are allowed. -/
def KeptArrive {α : Type} (value : Option Nat → α → Received.Value → Prop) (allowance : Allowance)
    (given : List (String × α)) (received : List Received.Attribute) : Prop :=
  List.Forall₂ (NamedArrives (value allowance.length)) (given.take (allowance.count.getD given.length)) received

/-- The first attributes arrive, and the others are counted. -/
def AttributesArrive {α : Type} (value : Option Nat → α → Received.Value → Prop) (allowance : Allowance)
    (before : UInt32) (given : List (String × α)) (received : List Received.Attribute) (dropped : UInt32) : Prop :=
  FirstArrive (NamedArrives (value allowance.length)) (allowance.count.getD given.length) before given received dropped

theorem counted_totalDropped (given received : Nat) (before : UInt32) :
    Counted given received before (totalDropped (given - received) before) := by
  unfold Counted totalDropped
  rw [UInt32.toNat_ofNat']
  exact Nat.mod_eq_of_lt (by omega)

theorem forall₂_map_map {α β ρ : Type} {R : α → ρ → Prop} {f : α → β} {g : β → ρ} (h : ∀ x, R x (g (f x)))
    (xs : List α) : List.Forall₂ R xs ((xs.map f).map g) := by
  rw [List.map_map]
  exact List.forall₂_map_right_iff.2 (List.forall₂_same.2 fun x _ => h x)

theorem FirstArrive.of {α β ρ : Type} {arrives : α → ρ → Prop} {exported : α → β} {made : β → ρ}
    (h : ∀ x, arrives x (made (exported x))) (limit : Nat) (before : UInt32) (given : List α) :
    FirstArrive arrives limit before given (((given.map exported).take limit).map made)
      (totalDropped ((given.map exported).length - limit) before) where
  kept := by
    rw [← List.map_take]
    exact forall₂_map_map h _
  dropped := by
    have hlength : given.length - (((given.map exported).take limit).map made).length =
        (given.map exported).length - limit := by
      simp only [List.length_map, List.length_take]
      omega
    rw [← hlength]
    exact counted_totalDropped _ _ before

theorem forall₂_filterMap {α β : Type} {f : α → Option β} {R : α → β → Prop} {xs : List α}
    (h : ∀ x ∈ xs, ∃ y, f x = some y ∧ R x y) : List.Forall₂ R xs (xs.filterMap f) := by
  induction xs with
  | nil => exact .nil
  | cons x xs ih =>
    obtain ⟨y, hy, hr⟩ := h x List.mem_cons_self
    rw [List.filterMap_cons_some hy]
    exact .cons hr (ih fun z hz => h z (List.mem_cons_of_mem x hz))

section Attributes

variable {α : Type} {exported : α → Courier.Value} {value : Option Nat → α → Received.Value → Prop}

theorem namedArrive {length : Option Nat} {given : List (String × α)}
    (h : ∀ e ∈ given, ∃ w, Received.Value.of? length (exported e.2) = some w ∧ value length e.2 w) :
    List.Forall₂ (NamedArrives (value length)) given
      ((given.map fun e => (e.1, exported e.2)).filterMap (Received.Attribute.of? length)) := by
  rw [List.filterMap_map]
  refine forall₂_filterMap fun e he => ?_
  obtain ⟨w, hw, hv⟩ := h e he
  refine ⟨(e.1, some w), ?_, .mk hv⟩
  rw [Function.comp_apply, Received.Attribute.of?, hw]
  rfl

theorem KeptArrive.of {allowance : Allowance} {given : List (String × α)}
    (h : ∀ e ∈ given, ∃ w, Received.Value.of? allowance.length (exported e.2) = some w ∧
      value allowance.length e.2 w) :
    KeptArrive value allowance given
      (Received.Attribute.kept allowance (given.map fun e => (e.1, exported e.2))) := by
  have hall := namedArrive h
  unfold KeptArrive Received.Attribute.kept
  cases allowance.count with
  | none =>
    rw [Option.getD_none, List.take_length]
    exact hall
  | some n => exact List.forall₂_take n hall

theorem AttributesArrive.of {allowance : Allowance} (before : UInt32) {given : List (String × α)}
    (h : ∀ e ∈ given, ∃ w, Received.Value.of? allowance.length (exported e.2) = some w ∧
      value allowance.length e.2 w) :
    AttributesArrive value allowance before given
      (Received.Attribute.kept allowance (given.map fun e => (e.1, exported e.2)))
      (Received.Attribute.dropped allowance before (given.map fun e => (e.1, exported e.2))) where
  kept := KeptArrive.of h
  dropped := by
    unfold Received.Attribute.dropped
    rw [List.length_map]
    exact counted_totalDropped _ _ before

theorem lastOfEach_map (f : α → Courier.Value) (entries : List (String × α)) :
    lastOfEach (entries.map fun e => (e.1, f e.2)) = (lastOfEach entries).map fun e => (e.1, f e.2) := by
  induction entries with
  | nil => rfl
  | cons e rest ih =>
    rw [List.map_cons, lastOfEach, lastOfEach, ih, List.any_map]
    by_cases h : (rest.any fun a => a.1 == e.1) = true
    · rw [if_pos h]
      exact if_pos h
    · rw [if_neg h]
      exact if_neg h

theorem inOrder_perm (entries : List (String × α)) : (inOrder entries).Perm (lastOfEach entries) :=
  List.mergeSort_perm _ _

theorem tableArrives {length : Option Nat} {entries : List (String × α)} {given : List Courier.Attribute}
    (h : ∀ e ∈ entries, ∃ w, Received.Value.of? length (exported e.2) = some w ∧ value length e.2 w)
    (hp : given.Perm ((lastOfEach entries).map fun e => (e.1, exported e.2))) :
    TableArrives (value length) entries (given.filterMap (Received.Attribute.of? length)) :=
  ⟨_, namedArrive fun e he => h e (mem_of_mem_lastOfEach he), hp.filterMap _⟩

end Attributes

/-! ## Values of attributes -/

namespace Value

/-- What becomes of the value of an attribute whose texts keep so many characters. -/
inductive Arrives (length : Option Nat) : Value → Received.Value → Prop
  | bool (b : Bool) : Arrives length (.bool b) (.bool b)
  | int (n : Int64) : Arrives length (.int n) (.int n)
  | double (x : Double) : Arrives length (.double x) (.double x)
  | string (s : String) : Arrives length (.string s) (.string (shortened length s))
  | array (a : UniformArray) : Arrives length (.array a) (.array (elements length a))

theorem arrives (length : Option Nat) (v : Value) :
    ∃ w, Received.Value.of? length v.exported = some w ∧ v.Arrives length w := by
  cases v with
  | bool b => exact ⟨_, rfl, .bool b⟩
  | int n => exact ⟨_, rfl, .int n⟩
  | double x => exact ⟨_, rfl, .double x⟩
  | string s => exact ⟨_, rfl, .string s⟩
  | array a => exact ⟨_, rfl, .array a⟩

theorem steady (v : Value) : v.exported.Steady := by
  cases v <;> constructor

end Value

theorem exportedAll_keptArrive (allowance : Allowance) (given : List Attribute) :
    KeptArrive Value.Arrives allowance given (Received.Attribute.kept allowance (exportedAll given)) :=
  .of fun e _ => e.2.arrives allowance.length

theorem exportedAll_arrive (allowance : Allowance) (before : UInt32) (given : List Attribute) :
    AttributesArrive Value.Arrives allowance before given (Received.Attribute.kept allowance (exportedAll given))
      (Received.Attribute.dropped allowance before (exportedAll given)) :=
  .of before fun e _ => e.2.arrives allowance.length

theorem exportedAll_steady (given : List Attribute) : SteadyAttributes (exportedAll given) := by
  intro a ha
  obtain ⟨e, -, rfl⟩ := List.mem_map.1 ha
  exact e.2.steady

/-! ## Log values -/

namespace LogValue

/-- What becomes of a log value whose texts keep so many characters. -/
inductive Arrives (length : Option Nat) : LogValue → Received.Value → Prop
  | bool (b : Bool) : Arrives length (.bool b) (.bool b)
  | int (n : Int64) : Arrives length (.int n) (.int n)
  | double (x : Double) : Arrives length (.double x) (.double x)
  | string (s : String) : Arrives length (.string s) (.string (shortened length s))
  | bytes (b : ByteArray) : Arrives length (.bytes b) (.bytes b.data.toList)
  | list {vs : List LogValue} {ws : List Received.Value} (h : List.Forall₂ (Arrives length) vs ws) :
    Arrives length (.list vs) (.array ws)
  | map {es : List (String × LogValue)} {inTurn received : List Received.Attribute}
    (h : List.Forall₂ (NamedArrives (Arrives length)) (lastOfEach es) inTurn) (hp : received.Perm inTurn) :
    Arrives length (.map es) (.keyValues received)

theorem exportedList_eq : ∀ vs : List LogValue, exportedList vs = vs.map exported
  | [] => rfl
  | v :: vs => by rw [exportedList, exportedList_eq vs, List.map_cons]

theorem exportedEntries_eq : ∀ es : List (String × LogValue),
    exportedEntries es = es.map fun e => (e.1, exported e.2)
  | [] => rfl
  | (k, v) :: es => by rw [exportedEntries, exportedEntries_eq es, List.map_cons]

mutual

theorem arrives (length : Option Nat) : ∀ v : LogValue,
    ∃ w, Received.Value.of? length v.exported = some w ∧ v.Arrives length w
  | .bool b => ⟨_, rfl, .bool b⟩
  | .int n => ⟨_, rfl, .int n⟩
  | .double x => ⟨_, rfl, .double x⟩
  | .string s => ⟨_, rfl, .string s⟩
  | .bytes b => ⟨_, rfl, .bytes b⟩
  | .list vs => by
    refine ⟨_, rfl, .list ?_⟩
    rw [Received.Value.ofAll_eq, exportedList_eq, List.filterMap_map]
    exact forall₂_filterMap (arrives_all length vs)
  | .map es => by
    refine ⟨_, rfl, ?_⟩
    rw [Received.Value.ofEntries_eq, exportedEntries_eq]
    have hgiven := inOrder_perm (es.map fun e => (e.1, exported e.2))
    rw [lastOfEach_map] at hgiven
    obtain ⟨inTurn, h, hp⟩ := tableArrives (arrives_entries length es) hgiven
    exact .map h hp

theorem arrives_all (length : Option Nat) : ∀ vs : List LogValue, ∀ v ∈ vs,
    ∃ w, Received.Value.of? length v.exported = some w ∧ v.Arrives length w
  | [], _, h => absurd h List.not_mem_nil
  | v :: vs, u, h => by
    rcases List.mem_cons.1 h with h | h
    · rw [h]
      exact arrives length v
    · exact arrives_all length vs u h

theorem arrives_entries (length : Option Nat) : ∀ es : List (String × LogValue), ∀ e ∈ es,
    ∃ w, Received.Value.of? length e.2.exported = some w ∧ e.2.Arrives length w
  | [], _, h => absurd h List.not_mem_nil
  | (k, v) :: es, e, h => by
    rcases List.mem_cons.1 h with rfl | h
    · exact arrives length v
    · exact arrives_entries length es e h

end

mutual

theorem steady : ∀ v : LogValue, v.exported.Steady
  | .bool b => .bool b
  | .int n => .int n
  | .double x => .double x
  | .string s => .string s
  | .bytes b => .bytes b
  | .list vs => .list (steady_all vs)
  | .map es => .map fun e he => steady_entries es e (mem_of_mem_lastOfEach ((inOrder_perm _).mem_iff.1 he))

theorem steady_all : ∀ vs : List LogValue, ∀ v ∈ exportedList vs, v.Steady
  | [], _, h => absurd h List.not_mem_nil
  | v :: vs, u, h => by
    rcases List.mem_cons.1 h with rfl | h
    · exact steady v
    · exact steady_all vs u h

theorem steady_entries : ∀ es : List (String × LogValue), ∀ e ∈ exportedEntries es, e.2.Steady
  | [], _, h => absurd h List.not_mem_nil
  | (k, v) :: es, e, h => by
    rcases List.mem_cons.1 h with rfl | h
    · exact steady v
    · exact steady_entries es e h

end

theorem exportedEntries_arrive (allowance : Allowance) (given : List (String × LogValue)) :
    AttributesArrive Arrives allowance 0 given (Received.Attribute.kept allowance (exportedEntries given))
      (Received.Attribute.dropped allowance 0 (exportedEntries given)) := by
  rw [exportedEntries_eq]
  exact .of 0 fun e _ => e.2.arrives allowance.length

end LogValue

end Collected
end Courier
