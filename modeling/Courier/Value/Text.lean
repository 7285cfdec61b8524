import Courier.Value
import Courier.Double.Text
import Courier.Text.Quoted
/-!
# Text - a value as a person reads it

The text names the kind of the value and then shows its content.  A deferred text is not asked for.
-/
namespace Courier

/-- Texts in brackets, with commas between them. -/
def bracketed (items : List String) : String :=
  "[" ++ String.intercalate ", " items ++ "]"

def tagged (kind content : String) : String :=
  kind ++ "(" ++ content ++ ")"

def boolText (b : Bool) : String :=
  if b then "true" else "false"

def UniformArray.text : UniformArray → String
  | .bools vs => tagged "Bool" (bracketed (vs.map boolText))
  | .ints vs => tagged "I64" (bracketed (vs.map fun v => toString v.toInt))
  | .doubles vs => tagged "F64" (bracketed (vs.map Double.text))
  | .strings vs => tagged "String" (bracketed (vs.map Text.quoted))

namespace Value

mutual

def text : Value → String
  | .bool b => tagged "Bool" (boolText b)
  | .int n => tagged "Int" (toString n.toInt)
  | .double x => tagged "Double" x.text
  | .string s => tagged "String" (Text.quoted s)
  | .bytes b => tagged "Bytes" (bracketed (b.toList.map fun x => toString x.toNat))
  | .array a => tagged "Array" a.text
  | .list vs => tagged "List" (bracketed (texts vs))
  | .map es => tagged "Map" (bracketed (entryTexts es))
  | .deferred _ => "Object(..)"

def texts : List Value → List String
  | [] => []
  | v :: vs => v.text :: texts vs

def entryTexts : List (String × Value) → List String
  | [] => []
  | (k, v) :: es =>
    ("KeyValue \x7b key: " ++ Text.quoted k ++ ", value: " ++ v.text ++ " \x7d") :: entryTexts es

end

end Value
end Courier
