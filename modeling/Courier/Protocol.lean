import Courier.Environment
/-!
# Protocol - how payloads travel
-/
namespace Courier

/-- How payloads travel. -/
inductive Protocol
  | grpc
  | http
deriving Repr, DecidableEq, Inhabited

namespace Protocol

def text : Protocol → String
  | .grpc => "grpc"
  | .http => "http/protobuf"

/-- The protocol of a name, with blanks around it. -/
def ofText? (s : String) : Option Protocol :=
  [grpc, http].find? fun p => p.text == Text.trimmed s

def ofEnvironment? (env : Environment) : Option Protocol :=
  (env.text? "OTEL_EXPORTER_OTLP_PROTOCOL").bind ofText?

/-- The protocol where nothing else is said. -/
def preferred (env : Environment) : Protocol :=
  (ofEnvironment? env).getD .http

end Protocol
end Courier
