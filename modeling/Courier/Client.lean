import Courier.Clock
import Courier.Failure
import Courier.Response
/-!
# Client - what makes single attempts to deliver a payload

A client makes one attempt at a time and can be shut down.  An attempt is told when it begins and, ahead of
time, when it is called off; how it goes, and when it ends, is the client's part.
-/
namespace Courier

/-- An attempt that is asked for. -/
structure Call where
  body : ByteArray
  start : Moment
  /-- Until when the attempt may last, in wall time. -/
  deadline : Timestamp
  /-- The moment at which the attempt is called off, if it lasts that long. -/
  cut : Option Moment := none

/-- The time that an attempt has: what is left until the deadline, and no more than a limit. -/
def Call.allowance (c : Call) (clock : Clock) (limit : Duration) : Duration :=
  limit.min (c.deadline.since (clock.wall c.start))

/-- An attempt that was made. -/
structure Attempt (σ : Type) where
  /-- When it ended, unless it goes on for ever. -/
  finish : Option Moment
  reply : Except Failure Response
  /-- It ended only because it was called off. -/
  calledOff : Bool := false
  /-- It called off the whole transmission. -/
  cancels : Bool := false
  next : σ

/-- A kind of client with states of type `σ`. -/
structure Client (σ : Type) where
  attempt : Clock → σ → Call → Attempt σ
  shutdown : σ → Result × σ

/-- A client in use by an exporter. -/
structure Handler (σ : Type) where
  /-- Every transmission is called off, and no other begins. -/
  shut : Bool := false
  client : σ

namespace Handler

variable {σ : Type}

def shutdown (h : Handler σ) (kind : Client σ) : Result × Handler σ :=
  if h.shut then (.error .alreadyShutdown, h)
  else
    let (result, client) := kind.shutdown h.client
    (result, { shut := true, client })

end Handler
end Courier
