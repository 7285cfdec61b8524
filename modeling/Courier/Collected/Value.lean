import Courier.Scope
/-!
# Value - attributes and log values as a collecting library keeps them

Its attributes are scalars and uniform arrays; only its log values nest.  A table there has one entry for
each name and no order of its own; here its entries are taken in the order of their names, the last of
several under one name.
-/
namespace Courier
namespace Collected

inductive Value
  | bool (value : Bool)
  | int (value : Int64)
  | double (value : Double)
  | string (value : String)
  | array (values : UniformArray)
deriving Repr, DecidableEq, Inhabited

abbrev Attribute : Type := String × Value

def Value.exported : Value → Courier.Value
  | .bool v => .bool v
  | .int v => .int v
  | .double v => .double v
  | .string v => .string v
  | .array vs => .array vs

def exportedAll (attributes : List Attribute) : List Courier.Attribute :=
  attributes.map fun (k, v) => (k, v.exported)

/-! ## Tables -/

/-- The last entry of each name. -/
def lastOfEach {α : Type} : List (String × α) → List (String × α)
  | [] => []
  | e :: rest => if rest.any (·.1 == e.1) then lastOfEach rest else e :: lastOfEach rest

/-- The entries of a table in the order of their names. -/
def inOrder {α : Type} (entries : List (String × α)) : List (String × α) :=
  (lastOfEach entries).mergeSort fun a b => !decide (b.1 < a.1)

theorem mem_of_mem_lastOfEach {α : Type} {e : String × α} {entries : List (String × α)}
    (h : e ∈ lastOfEach entries) : e ∈ entries := by
  induction entries with
  | nil => exact h
  | cons a rest ih =>
    unfold lastOfEach at h
    split at h
    · exact .tail _ (ih h)
    · rcases List.mem_cons.1 h with rfl | h
      · exact .head _
      · exact .tail _ (ih h)

/-! ## Log values -/

inductive LogValue
  | bool (value : Bool)
  | int (value : Int64)
  | double (value : Double)
  | string (value : String)
  | bytes (value : ByteArray)
  | list (values : List LogValue)
  | map (entries : List (String × LogValue))
deriving Inhabited

namespace LogValue

mutual

def exported : LogValue → Courier.Value
  | .bool v => .bool v
  | .int v => .int v
  | .double v => .double v
  | .string v => .string v
  | .bytes v => .bytes v
  | .list vs => .list (exportedList vs)
  | .map es => .map (inOrder (exportedEntries es))

def exportedList : List LogValue → List Courier.Value
  | [] => []
  | v :: vs => v.exported :: exportedList vs

def exportedEntries : List (String × LogValue) → List Courier.Attribute
  | [] => []
  | (k, v) :: es => (k, v.exported) :: exportedEntries es

end

end LogValue

/-! ## Where records come from -/

structure Resource where
  /-- A table: the last of several entries under one name counts. -/
  attributes : List Attribute := []
  /-- An empty one counts as none. -/
  schemaUrl : Option String := none
deriving Repr, DecidableEq, Inhabited

def Resource.exported (r : Resource) : Courier.Resource :=
  { attributes := exportedAll (inOrder r.attributes), schemaUrl := r.schemaUrl.filter (· != "") }

structure Scope where
  name : String := ""
  version : Option String := none
  schemaUrl : Option String := none
  attributes : List Attribute := []
deriving Repr, DecidableEq, Inhabited

def Scope.exported (s : Scope) : Courier.Scope :=
  { name := s.name, version := s.version, schemaUrl := s.schemaUrl, attributes := exportedAll s.attributes }

end Collected
end Courier
