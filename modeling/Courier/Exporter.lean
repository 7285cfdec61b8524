import Courier.Batch
import Courier.Delivery
/-!
# Exporter - batches of one signal, written and delivered

An export writes its batch into a buffer that the exporter keeps from one export to the next, and delivers
what was written.  A batch that does not fit is not delivered at all.
-/
namespace Courier

structure Exporter (σ : Type) where
  transmission : Transmission
  handler : Handler σ
  limits : Limits
  resource : Resource := {}
  /-- How collectors are asked to sum up their measurements. -/
  temporality : Temporality := .cumulative
  /-- What payloads are written into. -/
  buffer : ByteArray := ByteArray.empty

namespace Exporter

variable {σ : Type}

/-- The same exporter with another resource for the batches to come. -/
def withResource (e : Exporter σ) (resource : Resource) : Exporter σ :=
  { e with resource }

def tooLarge (e : Exporter σ) : Failure :=
  .failed (Batch.tooLargeMessage e.transmission.signal)

/-- Exports a batch of a resource.  Answers what that came to, and the exporter afterwards; absent when it
goes on for ever. -/
def exportOf? (e : Exporter σ) (kind : Client σ) (around : Surroundings) (now : Moment) (resource : Resource)
    (batch : Batch) : Option (Delivery σ × Exporter σ) :=
  let (outcome, buffer) := batch.write e.limits resource 0 e.buffer
  let delivery : Option (Delivery σ) :=
    match outcome with
    | .written stop =>
      Delivery.deliver? e.transmission kind around e.handler now (buffer.extract 0 stop)
    | .tooLarge => some (.withheld (.ok (.error e.tooLarge)) kind around e.handler now)
    | .aborted reason => some (.withheld (.error (.aborted reason)) kind around e.handler now)
  delivery.map fun d => (d, { e with handler := d.handler, buffer })

/-- Exports a batch of the exporter's own resource. -/
def export? (e : Exporter σ) (kind : Client σ) (around : Surroundings) (now : Moment) (batch : Batch) :
    Option (Delivery σ × Exporter σ) :=
  e.exportOf? kind around now e.resource batch

def shutdown (e : Exporter σ) (kind : Client σ) : Result × Exporter σ :=
  let (result, handler) := e.handler.shutdown kind
  (result, { e with handler })

end Exporter
end Courier
