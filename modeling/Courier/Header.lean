/-!
# Header - named lines around a message

A name is a token in lower case.  A value is bytes, and counts as text when all of them are visible ASCII,
blanks or tabs.  A table keeps the lines in the order in which they came; lines of one name may repeat.
-/
namespace Courier
namespace Header

/-- A character that a name may hold. -/
def isTokenChar (c : Char) : Bool :=
  c.isAlphanum || "!#$%&'*+-.^_`|~".toList.contains c

def maxNameLength : Nat := 65535

/-- A name, in lower case. -/
def name? (s : String) : Option String :=
  if s.isEmpty || !s.toList.all isTokenChar || maxNameLength < s.utf8ByteSize then none else some s.toLower

/-- A byte that a value may hold. -/
def isValueByte (b : UInt8) : Bool :=
  (32 ≤ b && b != 127) || b == 9

def value? (s : String) : Option ByteArray :=
  let b := s.toUTF8
  if b.toList.all isValueByte then some b else none

/-- A byte of a value that counts as text. -/
def isTextByte (b : UInt8) : Bool :=
  (32 ≤ b && b < 127) || b == 9

/-- The text of a value, if it counts as text. -/
def text? (value : ByteArray) : Option String :=
  if value.toList.all isTextByte then String.fromUTF8? value else none

/-- Lines in the order in which they came. -/
abbrev Table : Type := List (String × ByteArray)

namespace Table

def get? (t : Table) (name : String) : Option ByteArray :=
  t.lookup name

def append (t : Table) (name : String) (value : ByteArray) : Table :=
  t ++ [(name, value)]

/-- One line in place of all lines of its name. -/
def insert (t : Table) (name : String) (value : ByteArray) : Table :=
  t.filter (·.1 != name) ++ [(name, value)]

/-- The lines of another table in place of all lines of their names. -/
def replace (t other : Table) : Table :=
  t.filter (fun line => !other.any (·.1 == line.1)) ++ other

def without (t : Table) (names : List String) : Table :=
  t.filter fun line => !names.contains line.1

/-- The pairs that make valid lines. -/
def ofPairs (pairs : List (String × String)) : Table :=
  pairs.filterMap fun (k, v) =>
    match name? k, value? v with
    | some name, some value => some (name, value)
    | _, _ => none

end Table
end Header
end Courier
