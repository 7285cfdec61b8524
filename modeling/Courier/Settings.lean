import Courier.Duration
import Courier.Header.Listing
import Courier.Protocol
import Courier.Signal
/-!
# Settings - where an exporter sends, and for how long

A setting comes from the program first, then from the variable of the signal, then from the variable for all
signals, and last from a default.  Main statement: the environment has no say in a timeout that the program
sets.
-/
namespace Courier

/-- What the program may set for either protocol. -/
structure Settings where
  endpoint : Option String := none
  protocol : Protocol
  timeout : Option Duration := none
deriving Repr, DecidableEq, Inhabited

/-- Why no exporter can be built. -/
inductive BuildError
  | noHttpClient
  | invalidUri (uri reason : String)
  | invalidConfig (name reason : String)
  | internalFailure (reason : String)
deriving Repr, DecidableEq, Inhabited

def BuildError.message : BuildError → String
  | .noHttpClient => "no http client specified"
  | .invalidUri uri reason => "invalid URI " ++ uri ++ ". Reason " ++ reason
  | .invalidConfig name reason => name ++ ": " ++ reason
  | .internalFailure reason => "Reason: " ++ reason

namespace Settings

/-- The settings that variables hold. -/
inductive Variable
  | endpoint | timeout | headers
deriving Repr, DecidableEq

def Variable.name : Variable → String
  | .endpoint => "OTEL_EXPORTER_OTLP_ENDPOINT"
  | .timeout => "OTEL_EXPORTER_OTLP_TIMEOUT"
  | .headers => "OTEL_EXPORTER_OTLP_HEADERS"

/-- The variable of a setting for one signal. -/
def Variable.nameFor : Signal → Variable → String
  | .traces, .endpoint => "OTEL_EXPORTER_OTLP_TRACES_ENDPOINT"
  | .traces, .timeout => "OTEL_EXPORTER_OTLP_TRACES_TIMEOUT"
  | .traces, .headers => "OTEL_EXPORTER_OTLP_TRACES_HEADERS"
  | .metrics, .endpoint => "OTEL_EXPORTER_OTLP_METRICS_ENDPOINT"
  | .metrics, .timeout => "OTEL_EXPORTER_OTLP_METRICS_TIMEOUT"
  | .metrics, .headers => "OTEL_EXPORTER_OTLP_METRICS_HEADERS"
  | .logs, .endpoint => "OTEL_EXPORTER_OTLP_LOGS_ENDPOINT"
  | .logs, .timeout => "OTEL_EXPORTER_OTLP_LOGS_TIMEOUT"
  | .logs, .headers => "OTEL_EXPORTER_OTLP_LOGS_HEADERS"

/-- The texts of a setting in the environment, that of the signal first. -/
def candidates (env : Environment) (signal : Signal) (v : Variable) : List String :=
  [v.nameFor signal, v.name].filterMap env.text?

/-- The endpoint that the program sets; an empty one counts as none. -/
def ownEndpoint (s : Settings) : Option String :=
  s.endpoint.filter (· != "")

/-- The time for one export where nothing else is said. -/
def defaultTimeout : Duration := .ofSeconds 10

/-- The time for one export that a variable gives, in milliseconds. -/
def timeoutIn? (env : Environment) (name : String) : Option Duration :=
  (env.number? name).map fun n => .ofMillis n.toNat

def exportTimeout (s : Settings) (env : Environment) (signal : Signal) : Duration :=
  s.timeout.getD <|
    (timeoutIn? env (Variable.timeout.nameFor signal)).getD <|
      (timeoutIn? env Variable.timeout.name).getD defaultTimeout

/-- The header lines that the environment adds: those for the signal, or else those for all signals. -/
def environmentHeaders (env : Environment) (signal : Signal) : List (String × String) :=
  match candidates env signal .headers with
  | s :: _ => Header.parseList s
  | [] => []

/-- The line that every request carries unless it is replaced. -/
def defaultHeaders : List (String × String) :=
  [("User-Agent", "OTel-OTLP-Transmission-Rust/0.31.0")]

end Settings
end Courier
