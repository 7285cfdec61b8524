/-!
# Status - how a remote call ended
-/
namespace Courier

/-- The outcome of a remote call in one word. -/
inductive StatusCode
  | ok | cancelled | unknown | invalidArgument | deadlineExceeded | notFound | alreadyExists
  | permissionDenied | resourceExhausted | failedPrecondition | aborted | outOfRange | unimplemented
  | internal | unavailable | dataLoss | unauthenticated
deriving Repr, DecidableEq, Inhabited

namespace StatusCode

/-- The codes in the order of their numbers. -/
def all : List StatusCode :=
  [ .ok, .cancelled, .unknown, .invalidArgument, .deadlineExceeded, .notFound, .alreadyExists,
    .permissionDenied, .resourceExhausted, .failedPrecondition, .aborted, .outOfRange, .unimplemented,
    .internal, .unavailable, .dataLoss, .unauthenticated ]

/-- The code of a number; a number without a code of its own is unknown. -/
def ofInt (n : Int) : StatusCode :=
  if 0 ≤ n then (all[n.toNat]?).getD .unknown else .unknown

def text : StatusCode → String
  | .ok => "Ok"
  | .cancelled => "Cancelled"
  | .unknown => "Unknown"
  | .invalidArgument => "InvalidArgument"
  | .deadlineExceeded => "DeadlineExceeded"
  | .notFound => "NotFound"
  | .alreadyExists => "AlreadyExists"
  | .permissionDenied => "PermissionDenied"
  | .resourceExhausted => "ResourceExhausted"
  | .failedPrecondition => "FailedPrecondition"
  | .aborted => "Aborted"
  | .outOfRange => "OutOfRange"
  | .unimplemented => "Unimplemented"
  | .internal => "Internal"
  | .unavailable => "Unavailable"
  | .dataLoss => "DataLoss"
  | .unauthenticated => "Unauthenticated"

end StatusCode

structure Status where
  code : StatusCode
  message : String := ""
  /-- Further details, as an encoded message. -/
  details : List UInt8 := []
deriving Repr, DecidableEq, Inhabited

end Courier
