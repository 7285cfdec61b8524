import Courier.Header
import Courier.Status.RetryInfo
import Courier.Timestamp
/-!
# Response - what one attempt to deliver a payload came to

A response says whether the payload was accepted and until when the attempt could have lasted.  A remote
call ends with a status unless it was accepted; a request over HTTP ends with a status code, or with an
error before there was one.
-/
namespace Courier

/-- The end of a remote call. -/
structure GrpcResponse where
  success : Bool
  deadline : Timestamp
  status : Option Status := none
deriving Inhabited

/-- The end of a request over HTTP. -/
structure HttpResponse where
  success : Bool
  deadline : Timestamp
  status : Option Nat := none
  headers : Header.Table := []
  /-- What kept a response from arriving. -/
  error : Option String := none
deriving Inhabited

inductive Response
  | grpc (response : GrpcResponse)
  | http (response : HttpResponse)
deriving Inhabited

namespace GrpcResponse

/-- The payload was accepted. -/
def accepted (deadline : Timestamp) : GrpcResponse := { success := true, deadline }

/-- The call ended with a status. -/
def ended (deadline : Timestamp) (status : Status) : GrpcResponse :=
  { success := false, deadline, status := some status }

def text (r : GrpcResponse) : String :=
  match r.status with
  | some s => "grpc status " ++ s.code.text ++ ": " ++ s.message
  | none => if r.success then "grpc ok" else "grpc call without status"

end GrpcResponse

namespace HttpResponse

def isSuccess (status : Nat) : Bool := 200 ≤ status && status < 300

def received (deadline : Timestamp) (status : Nat) (headers : Header.Table) : HttpResponse :=
  { success := isSuccess status, deadline, status := some status, headers }

def failed (deadline : Timestamp) (error : String) : HttpResponse :=
  { success := false, deadline, error := some error }

def text (r : HttpResponse) : String :=
  match r.error, r.status with
  | some e, _ => "http request failed: " ++ e
  | none, some s => "http status " ++ toString s
  | none, none => "http request without response"

end HttpResponse

namespace Response

def success : Response → Bool
  | .grpc r => r.success
  | .http r => r.success

/-- Until when the attempt could have lasted. -/
def deadline : Response → Timestamp
  | .grpc r => r.deadline
  | .http r => r.deadline

def text : Response → String
  | .grpc r => r.text
  | .http r => r.text

end Response
end Courier
