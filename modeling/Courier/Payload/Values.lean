import Courier.Allowance
import Courier.Wire.Field
import Courier.Wire.Schema
/-!
# Values - how values and attributes are written

A deferred text that fails takes back the value that is it, and with a value its attribute; inside lists
and maps nothing more is taken back.  An attribute past the count limit is not looked at, and one that
fails does not use the limit up.
-/
namespace Courier
namespace Payload

open Wire

/-- Writes the elements of a uniform array, each a value of its own. -/
def putUniform (length : Option Nat) : UniformArray → Write Unit
  | .bools vs => putAll (fun v => message Schema.AnyValue.values (putBool Schema.AnyValue.bool v)) vs
  | .ints vs => putAll (fun v => message Schema.AnyValue.values (putInt64 Schema.AnyValue.int v)) vs
  | .doubles vs => putAll (fun v => message Schema.AnyValue.values (putDouble Schema.AnyValue.double v)) vs
  | .strings vs =>
    putAll (fun v => message Schema.AnyValue.values (putString Schema.AnyValue.string (truncate length v))) vs

mutual

/-- Writes a value as a message, and answers whether it could be written. -/
def putValue (length : Option Nat) (field : Nat) : Value → Write Bool
  | .bool b => messageIf field do
    putBool Schema.AnyValue.bool b
    pure true
  | .int n => messageIf field do
    putInt64 Schema.AnyValue.int n
    pure true
  | .double x => messageIf field do
    putDouble Schema.AnyValue.double x
    pure true
  | .string s => messageIf field do
    putString Schema.AnyValue.string (truncate length s)
    pure true
  | .bytes b => messageIf field do
    putBytes Schema.AnyValue.bytes b
    pure true
  | .array a => messageIf field do
    message Schema.AnyValue.array (putUniform length a)
    pure true
  | .list vs => messageIf field do
    message Schema.AnyValue.array (putValues length vs)
    pure true
  | .map es => messageIf field do
    message Schema.AnyValue.keyValues (putEntries length es)
    pure true
  | .deferred d => messageIf field do
    match ← render d with
    | some s =>
      putString Schema.AnyValue.string (truncate length s)
      pure true
    | none => pure false

/-- Writes the elements of a list that can be written. -/
def putValues (length : Option Nat) : List Value → Write Unit
  | [] => pure ()
  | v :: vs => do
    let _ ← putValue length Schema.AnyValue.values v
    putValues length vs

/-- Writes the entries of a map that can be written. -/
def putEntries (length : Option Nat) : List (String × Value) → Write Unit
  | [] => pure ()
  | (k, v) :: es => do
    let _ ← messageIf Schema.AnyValue.values do
      putString Schema.KeyValue.key k
      putValue length Schema.KeyValue.value v
    putEntries length es

end

/-- Writes an attribute as a message, and answers whether its value could be written. -/
def putAttribute (length : Option Nat) (field : Nat) (a : Attribute) : Write Bool :=
  messageIf field do
    putString Schema.KeyValue.key a.1
    putValue length Schema.KeyValue.value a.2

/-- Writes the attributes that are allowed after `kept` others, and answers `dropped` and the number left
out. -/
def putAttributesFrom (allowance : Allowance) (field kept dropped : Nat) : List Attribute → Write Nat
  | [] => pure dropped
  | a :: rest => do
    let written ← if allowance.admits kept then putAttribute allowance.length field a else pure false
    if written then putAttributesFrom allowance field (kept + 1) dropped rest
    else putAttributesFrom allowance field kept (dropped + 1) rest

theorem putAttributesFrom_cons (allowance : Allowance) (field kept dropped : Nat) (a : Attribute)
    (rest : List Attribute) : putAttributesFrom allowance field kept dropped (a :: rest) = (do
      let written ← (if allowance.admits kept then putAttribute allowance.length field a else pure false)
      if written then putAttributesFrom allowance field (kept + 1) dropped rest
      else putAttributesFrom allowance field kept (dropped + 1) rest) := by
  rw [putAttributesFrom]
  split <;> rfl

/-- Past the limit nothing is written or asked for, only counted. -/
theorem putAttributesFrom_of_not_admits {allowance : Allowance} {kept : Nat} (h : allowance.admits kept = false)
    (field : Nat) : ∀ (dropped : Nat) (attributes : List Attribute),
      putAttributesFrom allowance field kept dropped attributes = pure (dropped + attributes.length)
  | _, [] => rfl
  | dropped, a :: attributes => by
    rw [putAttributesFrom_cons, h, List.length_cons, ← Nat.add_assoc, Nat.add_right_comm]
    exact putAttributesFrom_of_not_admits h field (dropped + 1) attributes

/-- Writes the attributes that are allowed, and answers how many are left out. -/
def putAttributes (allowance : Allowance) (field : Nat) (attributes : List Attribute) : Write Nat :=
  putAttributesFrom allowance field 0 0 attributes

/-- Writes the attributes that are allowed, and then the count of those left out here and before. -/
def putCounted (allowance : Allowance) (field countField : Nat) (before : UInt32)
    (attributes : List Attribute) : Write Unit := do
  let dropped ← putAttributes allowance field attributes
  putCount countField (totalDropped dropped before)

end Payload
end Courier
