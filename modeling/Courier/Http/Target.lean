import Courier.Header
import Courier.Settings
import Courier.Uri
/-!
# Target - where requests over HTTP go, and what they carry

The program's endpoint is taken as it is, and so is that of the signal's variable; the path of the signal is
added to the one of the variable for all signals.  A variable that holds no address is passed over.  Header
lines of the environment replace those of the program.
-/
namespace Courier
namespace Http

/-- What the program may set for requests over HTTP. -/
structure Config where
  common : Settings := { protocol := .http }
  /-- Header lines by their names as they were written. -/
  headers : List (String × String) := Settings.defaultHeaders
deriving Repr, DecidableEq, Inhabited

/-- What a client needs to know to make requests. -/
structure Target where
  uri : Uri
  headers : Header.Table
  timeout : Duration
deriving Inhabited

structure Request where
  method : String
  uri : Uri
  headers : Header.Table
  body : ByteArray
deriving Inhabited

def path : Signal → String
  | .traces => "/v1/traces"
  | .metrics => "/v1/metrics"
  | .logs => "/v1/logs"

/-- The server where nothing else is said. -/
def defaultServer : String := "http://localhost:4318"

/-- An endpoint with the path of a signal, and one slash between them. -/
def withPath (endpoint : String) (signal : Signal) : String :=
  if endpoint.toList.getLast? = some '/' then endpoint ++ String.ofList ((path signal).toList.drop 1)
  else endpoint ++ path signal

namespace Config

/-- Adds header lines, each in place of the one whose name is written alike. -/
def withHeaders (c : Config) (pairs : List (String × String)) : Config :=
  { c with headers := pairs.foldl (fun lines (name, value) =>
      lines.filter (·.1 != name) ++ [(name, Percent.decodeOrKeep value)]) c.headers }

/-- The address in the environment, or the default. -/
def environmentUri (env : Environment) (signal : Signal) : Except Uri.Malformed Uri :=
  let own := (env.text? (Settings.Variable.endpoint.nameFor signal)).bind Uri.parse?
  let shared := (env.text? Settings.Variable.endpoint.name).bind fun s => Uri.parse? (withPath s signal)
  match own.or shared with
  | some uri => .ok uri
  | none => Uri.parse (withPath defaultServer signal)

/-- The address that requests go to. -/
def uri (c : Config) (env : Environment) (signal : Signal) : Except BuildError Uri :=
  match c.common.ownEndpoint with
  | some endpoint => (Uri.parse endpoint).mapError fun e => .invalidUri endpoint e.message
  | none =>
    (environmentUri env signal).mapError fun e => .invalidUri (withPath defaultServer signal) e.message

/-- The header lines that requests carry beside the type of their content. -/
def lines (c : Config) (env : Environment) (signal : Signal) : Header.Table :=
  (Header.Table.ofPairs (Settings.environmentHeaders env signal)).foldl (fun t (name, value) => t.insert name value)
    (Header.Table.ofPairs c.headers)

/-- What a client for a signal needs to know. -/
def build (c : Config) (env : Environment) (signal : Signal) : Except BuildError Target :=
  (c.uri env signal).map fun uri =>
    { uri, headers := c.lines env signal, timeout := c.common.exportTimeout env signal }

end Config

/-- The request that carries a payload.  Of several lines of one name the last one counts. -/
def Target.request (t : Target) (body : ByteArray) : Request :=
  { method := "POST", uri := t.uri, body
    headers := t.headers.foldl (fun lines (name, value) => Header.Table.insert lines name value)
      [("content-type", "application/x-protobuf".toUTF8)] }

end Http
end Courier
