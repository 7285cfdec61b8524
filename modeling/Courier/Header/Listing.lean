import Courier.Text.Blank
import Courier.Text.Percent
/-!
# Listing - header lines in one setting

A setting lists lines as `name=value`, with commas between them.  Blanks around names and values do not
count, and a value may be percent-encoded.  What has no equals sign, no name or no value is left out.
-/
namespace Courier
namespace Header

/-- The pieces of a text between separators. -/
def pieces (separator : Char) : List Char → List (List Char)
  | [] => [[]]
  | c :: rest =>
    if c = separator then [] :: pieces separator rest
    else match pieces separator rest with
      | piece :: more => (c :: piece) :: more
      | [] => [[c]]

/-- The name and the value of one piece. -/
def pair? (piece : List Char) : Option (String × String) :=
  match piece.dropWhile (· != '=') with
  | [] => none
  | _ :: rest =>
    let name := Text.trim (piece.takeWhile (· != '='))
    let value := Text.trim rest
    if name = [] ∨ value = [] then none
    else some (String.ofList name, Percent.decodeOrKeep (String.ofList value))

/-- The pairs that a setting lists. -/
def parseList (s : String) : List (String × String) :=
  (pieces ',' s.toList).filterMap pair?

end Header
end Courier
