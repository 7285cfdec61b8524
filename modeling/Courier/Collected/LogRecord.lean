import Courier.Collected.Value
import Courier.LogRecord
/-!
# LogRecord - log entries as a collecting library keeps them

An entry may name a target, which then is its scope.
-/
namespace Courier
namespace Collected

structure LogRecord where
  eventName : Option String := none
  /-- What the entry is about, where that is not its scope. -/
  target : Option String := none
  time : Option Timestamp := none
  observed : Option Timestamp := none
  severity : Option Severity := none
  severityText : Option String := none
  body : Option LogValue := none
  attributes : List (String × LogValue) := []
  context : Option LogContext := none
  scope : Scope := {}
deriving Inhabited

namespace LogRecord

/-- The scope of an entry as it is exported: its target, with nothing but a name, or else its own. -/
def exportedScope (r : LogRecord) : Courier.Scope :=
  match r.target with
  | some name => { name }
  | none => r.scope.exported

def exported (r : LogRecord) : Courier.LogRecord :=
  { eventName := r.eventName, time := r.time, observed := r.observed, severity := r.severity,
    severityText := r.severityText, body := r.body.map LogValue.exported,
    attributes := LogValue.exportedEntries r.attributes, context := r.context, scope := r.exportedScope }

end LogRecord
end Collected
end Courier
