import Courier.Double
/-!
# Value - what attributes and log bodies hold

A value is a scalar, a text, raw bytes, a uniform array, a list or a map of values, or a deferred text,
which is only asked for its characters while a batch is written.
-/
namespace Courier

/-- What becomes of one request for a deferred text. -/
inductive Rendering
  | text (s : String)
  /-- There is no text, and the value is left out. -/
  | failed
  /-- The request broke off, and with it whatever was being done. -/
  | aborted (reason : String)
deriving Repr, DecidableEq, Inhabited

/-- A text that is made when it is asked for. -/
structure Deferred where
  /-- Tells it apart from the other deferred texts of a batch. -/
  id : Nat
  /-- What a request gives, by the number of earlier requests. -/
  render : Nat → Rendering
deriving Inhabited

/-- An array whose elements are of one kind. -/
inductive UniformArray
  | bools (values : List Bool)
  | ints (values : List Int64)
  | doubles (values : List Double)
  | strings (values : List String)
deriving Repr, DecidableEq, Inhabited

/-- The value of an attribute or the body of a log record. -/
inductive Value
  | bool (value : Bool)
  | int (value : Int64)
  | double (value : Double)
  | string (value : String)
  | bytes (value : ByteArray)
  | array (values : UniformArray)
  | list (values : List Value)
  | map (entries : List (String × Value))
  | deferred (text : Deferred)
deriving Inhabited

abbrev Attribute : Type := String × Value

end Courier
