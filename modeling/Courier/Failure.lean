import Courier.Duration
/-!
# Failure - why an export did not go through

An export that does not succeed says why.  A fault is no answer at all: the export breaks off.
-/
namespace Courier

/-- Why an export did not go through. -/
inductive Failure
  | alreadyShutdown
  | timedOut (after : Duration)
  /-- Anything else, in words. -/
  | failed (reason : String)
deriving Repr, DecidableEq, Inhabited

def Failure.message : Failure → String
  | .alreadyShutdown => "Shutdown already invoked"
  | .timedOut after => "Operation timed out after " ++ after.text
  | .failed reason => "Operation failed: " ++ reason

/-- How an export, or a shutdown, ended. -/
abbrev Result : Type := Except Failure Unit

/-- Why an export broke off. -/
inductive Fault
  /-- The clock cannot show the deadline. -/
  | clockOverflow
  /-- A deferred text broke off. -/
  | aborted (reason : String)
deriving Repr, DecidableEq, Inhabited

def Fault.message : Fault → String
  | .clockOverflow => "overflow when adding duration to instant"
  | .aborted reason => reason

end Courier
