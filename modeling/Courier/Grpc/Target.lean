import Courier.Header
import Courier.Settings
import Courier.Uri
/-!
# Target - where remote calls go, and what they carry

Calls go to one method for each signal, over a channel that the program hands in or over one to an endpoint.
The endpoint's own path does not count.  Metadata of the environment replaces that of the program.
-/
namespace Courier
namespace Grpc

/-- What the program may set for remote calls. -/
structure Config where
  common : Settings := { protocol := .grpc }
  metadata : Header.Table := Header.Table.ofPairs Settings.defaultHeaders
  /-- The program hands in a channel, and no endpoint is looked for. -/
  connected : Bool := true
deriving Inhabited

/-- What a client needs to know to make calls. -/
structure Target where
  path : String
  metadata : Header.Table
  timeout : Duration
deriving Inhabited

structure Request where
  path : String
  headers : Header.Table
  body : ByteArray
deriving Inhabited

def path : Signal → String
  | .traces => "/opentelemetry.proto.collector.trace.v1.TraceService/Export"
  | .metrics => "/opentelemetry.proto.collector.metrics.v1.MetricsService/Export"
  | .logs => "/opentelemetry.proto.collector.logs.v1.LogsService/Export"

/-- The server where nothing else is said. -/
def defaultServer : String := "http://localhost:4317"

/-- Names that a call has a use of its own for. -/
def reserved : List String :=
  ["te", "content-type", "grpc-message", "grpc-message-type", "grpc-status"]

/-- Names that speak of a single connection. -/
def hopByHop : List String :=
  ["connection", "keep-alive", "proxy-connection", "transfer-encoding", "upgrade"]

/-- The names that the line `connection` lists: they speak of that connection too. -/
def namedByConnection (t : Header.Table) : List String :=
  match (t.get? "connection").bind Header.text? with
  | some s => (Header.pieces ',' s.toList).map fun piece => (String.ofList (Text.trim piece)).toLower
  | none => []

/-- The lines of a table that may travel over more than one connection. -/
def endToEnd (t : Header.Table) : Header.Table :=
  t.without (hopByHop ++ namedByConnection t)

/-- The lines of a table with only the first of one name. -/
def onlyFirst (name : String) (t : Header.Table) : Header.Table :=
  match t.get? name with
  | some value => t.insert name value
  | none => t

namespace Config

/-- Adds metadata, in place of what there is under the same names. -/
def withMetadata (c : Config) (t : Header.Table) : Config :=
  { c with metadata := c.metadata.replace t }

/-- The endpoint of a channel that the program does not hand in. -/
def endpoint (c : Config) (env : Environment) (signal : Signal) : String :=
  (c.common.ownEndpoint.toList ++ Settings.candidates env signal .endpoint).headD defaultServer

/-- The metadata that calls carry. -/
def lines (c : Config) (env : Environment) (signal : Signal) : Header.Table :=
  c.metadata.replace (Header.Table.ofPairs (Settings.environmentHeaders env signal))

/-- What a client for a signal needs to know. -/
def build (c : Config) (env : Environment) (signal : Signal) : Except BuildError Target :=
  let target : Target :=
    { path := path signal, metadata := c.lines env signal, timeout := c.common.exportTimeout env signal }
  if c.connected then .ok target
  else
    let endpoint := c.endpoint env signal
    match Uri.parse endpoint with
    | .ok _ => .ok target
    | .error e => .error (.invalidUri endpoint e.message)

end Config

def Target.request (t : Target) (body : ByteArray) : Request :=
  { path := t.path, body
    headers := endToEnd <|
      (onlyFirst "user-agent" (t.metadata.without reserved)).append "content-type" "application/grpc".toUTF8 }

end Grpc
end Courier
