import Courier.Gather
import Courier.Value
/-!
# Scope - the part of a program that made a record, and the resource it ran on

Two scopes are one for grouping when their names, versions and schema urls agree; their attributes are
not looked at, and a missing text differs from an empty one.
-/
namespace Courier

/-- The entity that telemetry comes from. -/
structure Resource where
  attributes : List Attribute := []
  /-- Attributes that were left out before the resource got here. -/
  dropped : UInt32 := 0
  schemaUrl : Option String := none
deriving Inhabited

/-- The library that made a set of records. -/
structure Scope where
  name : String := ""
  version : Option String := none
  schemaUrl : Option String := none
  attributes : List Attribute := []
deriving Inhabited

namespace Scope

/-- What tells scopes apart when records are grouped. -/
structure Key where
  name : String
  version : Option String
  schemaUrl : Option String
deriving Repr, DecidableEq

def key (s : Scope) : Key := ⟨s.name, s.version, s.schemaUrl⟩

/-- The members of a list under one key each, in the order in which the keys first occur.  A group
carries the scope of its first member. -/
def group {α : Type} (scopeOf : α → Scope) (xs : List α) : List (Scope × List α) :=
  (gather (fun x => (scopeOf x).key) xs).map fun (x, members) => (scopeOf x, members)

@[simp] theorem group_nil {α : Type} (scopeOf : α → Scope) : group scopeOf [] = [] := by
  simp [group]

/-- A group is closed by taking every member of its key out of the list at once. -/
theorem group_cons {α : Type} (scopeOf : α → Scope) (x : α) (xs : List α) :
    group scopeOf (x :: xs) =
      (scopeOf x, x :: xs.filter fun y => (scopeOf y).key == (scopeOf x).key) ::
        group scopeOf (xs.filter fun y => !(scopeOf y).key == (scopeOf x).key) := by
  simp [group, gather_cons]

end Scope
end Courier
