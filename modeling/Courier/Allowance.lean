import Courier.Limits
/-!
# Allowance - what one collection of attributes may keep

An allowance is a number of attributes and a number of characters for each of their texts, either of
which may be open.  What is left out is counted, up to the largest count that the wire holds.
-/
namespace Courier

/-- How much of a collection of attributes is kept. -/
structure Allowance where
  count : Option Nat := none
  /-- The number of characters kept of every text. -/
  length : Option Nat := none
deriving Repr, DecidableEq, Inhabited

namespace Allowance

def unlimited : Allowance := {}

def ofLimits (count : UInt64) (length : Option UInt64) : Allowance :=
  ⟨some count.toNat, length.map UInt64.toNat⟩

/-- One more attribute may follow `kept` others. -/
def admits (a : Allowance) (kept : Nat) : Bool :=
  match a.count with
  | some n => kept < n
  | none => true

end Allowance

/-- The first characters of a text, as many as may be kept. -/
def truncate (length : Option Nat) (s : String) : String :=
  match length with
  | some n => if s.utf8ByteSize ≤ n then s else String.ofList (s.toList.take n)
  | none => s

/-- A count with what was counted before, no larger than 32 bits hold. -/
def totalDropped (here : Nat) (before : UInt32) : UInt32 :=
  UInt32.ofNat (min (here + before.toNat) 0xffffffff)

namespace Limits

/-- For the attributes of scopes, points and exemplars. -/
def generic (l : Limits) : Allowance := .ofLimits l.attributeCount l.valueLength

def span (l : Limits) : Allowance := .ofLimits l.spanAttributeCount l.spanValueLength

def event (l : Limits) : Allowance := .ofLimits l.eventAttributeCount l.spanValueLength

def link (l : Limits) : Allowance := .ofLimits l.linkAttributeCount l.spanValueLength

/-- For the attributes and the bodies of log records. -/
def log (l : Limits) : Allowance := .ofLimits l.logAttributeCount l.logValueLength

end Limits
end Courier
