import Courier.Wire.Varint
/-!
# Reader - taking a message apart into its fields

A message is read into the list of its numbered fields; what a field means is left to its reader.  A group
is skipped, with whatever balanced content it has, down to a bounded depth.
-/
namespace Courier
namespace Wire

/-- What stands in a field. -/
inductive Content
  | varint (n : Nat)
  | fixed64 (bytes : List UInt8)
  | bytes (content : List UInt8)
  | group
  | fixed32 (bytes : List UInt8)
deriving Repr, DecidableEq, Inhabited

structure Field where
  number : Nat
  content : Content
deriving Repr, DecidableEq, Inhabited

namespace Reader

/-- How deep messages and groups may be nested. -/
def maxDepth : Nat := 100

/-- The field number and the code of the form in a key, and what follows it. -/
def key? (s : List UInt8) : Option (Nat × Nat × List UInt8) :=
  match Varint.decode? s with
  | some (k, rest) => if k < 0x100000000 ∧ 8 ≤ k then some (k / 8, k % 8, rest) else none
  | none => none

/-- The first bytes, if there are so many, and the rest. -/
def splitAt? (n : Nat) (s : List UInt8) : Option (List UInt8 × List UInt8) :=
  if n ≤ s.length then some (s.take n, s.drop n) else none

/-- The content of a field that is no group, and what follows it. -/
def scalar? (code : Nat) (s : List UInt8) : Option (Content × List UInt8) :=
  match code with
  | 0 => (Varint.decode? s).map fun (n, rest) => (.varint n, rest)
  | 1 => (splitAt? 8 s).map fun (b, rest) => (.fixed64 b, rest)
  | 2 => (Varint.decode? s).bind fun (n, rest) => (splitAt? n rest).map fun (b, rest) => (.bytes b, rest)
  | 5 => (splitAt? 4 s).map fun (b, rest) => (.fixed32 b, rest)
  | _ => none

/-- What follows the end of the group of a field.  The first argument exceeds the number of bytes. -/
def afterGroup? : Nat → Nat → Nat → List UInt8 → Option (List UInt8)
  | 0, _, _, _ => none
  | fuel + 1, depth, field, s =>
    match key? s with
    | none => none
    | some (f, code, rest) =>
      if code = 4 then if f = field then some rest else none
      else if depth = 0 then none
      else
        let next := if code = 3 then afterGroup? fuel (depth - 1) f rest else (scalar? code rest).map Prod.snd
        match next with
        | some rest => afterGroup? fuel depth field rest
        | none => none

/-- The fields of a message.  The first argument exceeds the number of bytes. -/
def fieldsWithin? : Nat → Nat → List UInt8 → Option (List Field)
  | 0, _, _ => none
  | _ + 1, _, [] => some []
  | fuel + 1, depth, s =>
    match key? s with
    | none => none
    | some (f, code, rest) =>
      let next := if code = 3 then (afterGroup? (rest.length + 1) (depth - 1) f rest).map ((.group, ·))
        else scalar? code rest
      match next with
      | some (content, rest) => (fieldsWithin? fuel depth rest).map (⟨f, content⟩ :: ·)
      | none => none

/-- The fields of a message that stands so many levels above the deepest one allowed. -/
def fields? (depth : Nat) (s : List UInt8) : Option (List Field) :=
  fieldsWithin? (s.length + 1) depth s

/-- The fields of one number have a form, each of them. -/
def formed? {α : Type} (number : Nat) (form : Content → Option α) (fs : List Field) : Option (List α) :=
  (fs.filter (·.number == number)).mapM fun f => form f.content

def varint? : Content → Option Nat
  | .varint n => some n
  | _ => none

def bytes? : Content → Option (List UInt8)
  | .bytes b => some b
  | _ => none

def text? : Content → Option String
  | .bytes b => String.fromUTF8? b.toByteArray
  | _ => none

end Reader
end Wire
end Courier
