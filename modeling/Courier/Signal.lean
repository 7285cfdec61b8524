/-!
# Signal - the three kinds of telemetry
-/
namespace Courier

inductive Signal
  | traces | metrics | logs
deriving Repr, DecidableEq, Inhabited

def Signal.text : Signal → String
  | .traces => "traces"
  | .metrics => "metrics"
  | .logs => "logs"

end Courier
