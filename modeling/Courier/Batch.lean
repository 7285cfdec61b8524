import Courier.Buffer
import Courier.Payload.Metrics
import Courier.Signal
/-!
# Batch - records of one signal, and the payload made of them
-/
namespace Courier

inductive Batch
  | traces (spans : List Span)
  | metrics (scopes : List ScopeMetrics)
  | logs (records : List LogRecord)
deriving Inhabited

namespace Batch

def signal : Batch → Signal
  | .traces _ => .traces
  | .metrics _ => .metrics
  | .logs _ => .logs

def put (limits : Limits) (resource : Resource) : Batch → Wire.Write Unit
  | .traces spans => Payload.putTraces limits resource spans
  | .metrics scopes => Payload.putMetrics limits resource scopes
  | .logs records => Payload.putLogs limits resource records

/-- Writes the request into a buffer at an offset, and answers how that ended, and the buffer. -/
def write (limits : Limits) (resource : Resource) (batch : Batch) (offset : Nat) (buffer : ByteArray) :
    Buffer.Outcome × ByteArray :=
  Buffer.fill (batch.put limits resource) offset buffer {}

def tooLargeMessage (signal : Signal) : String :=
  signal.text ++ " payload does not fit in " ++ toString Buffer.maxSize ++ " bytes"

end Batch
end Courier
