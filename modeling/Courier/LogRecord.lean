import Courier.Span
/-!
# LogRecord - single log entries
-/
namespace Courier

structure Severity where
  /-- The number, which grows with the gravity. -/
  number : Nat
  one_le : 1 ≤ number
  le_last : number ≤ 24
deriving Repr, DecidableEq

def Severity.ofNat? (n : Nat) : Option Severity :=
  if h : 1 ≤ n ∧ n ≤ 24 then some ⟨n, h.1, h.2⟩ else none

/-- The span during which an entry was made. -/
structure LogContext where
  traceId : TraceId := .none
  spanId : SpanId := .none
  flags : Option UInt8 := none
deriving Inhabited

structure LogRecord where
  eventName : Option String := none
  time : Option Timestamp := none
  /-- When the entry was seen by the collecting side. -/
  observed : Option Timestamp := none
  severity : Option Severity := none
  severityText : Option String := none
  body : Option Value := none
  attributes : List Attribute := []
  context : Option LogContext := none
  scope : Scope := {}
deriving Inhabited

end Courier
