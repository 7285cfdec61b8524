import Courier.Collected.Exponential
import Courier.Collected.Metric
import Courier.Gather
/-!
# Instrument - what is measured, and the metrics that measurements sum up to

The measurements of an instrument are summed up for each set of attributes.  An instrument without any is
left out, and so is one that is not well formed, and a scope without instruments.  Instruments of one outline
are one.  Scopes come in the order of their names, and the points of a metric in the order of the text of
their first attribute.
-/
namespace Courier
namespace Collected

/-! ## Numbers of one kind -/

/-- The kind of the numbers that an instrument takes. -/
inductive NumberKind
  | natural | integer | double
deriving Repr, DecidableEq, Inhabited

namespace NumberKind

def zero : NumberKind → Number
  | .natural => .natural 0
  | .integer => .integer 0
  | .double => .double .zero

def largest : NumberKind → Number
  | .natural => .natural (0 - 1)
  | .integer => .integer Int64.maxValue
  | .double => .double ⟨0x7fefffffffffffff⟩

def smallest : NumberKind → Number
  | .natural => .natural 0
  | .integer => .integer Int64.minValue
  | .double => .double ⟨0xffefffffffffffff⟩

end NumberKind

namespace Number

/-- The sum of two numbers of one kind; whole numbers wrap around. -/
def add : Number → Number → Number
  | .natural a, .natural b => .natural (a + b)
  | .integer a, .integer b => .integer (a + b)
  | .double a, .double b => .double (a.add b)
  | a, _ => a

/-- The first of two numbers of one kind is less than the second. -/
def lt : Number → Number → Bool
  | .natural a, .natural b => a < b
  | .integer a, .integer b => a < b
  | .double a, .double b => a.lt b
  | _, _ => false

/-- The sum of numbers of a kind. -/
def sum (kind : NumberKind) (values : List Number) : Number :=
  values.foldl add kind.zero

/-- The least of numbers of a kind, and of the largest finite one. -/
def least (kind : NumberKind) (values : List Number) : Number :=
  values.foldl (fun m v => if v.lt m then v else m) kind.largest

/-- The greatest of numbers of a kind, and of the smallest finite one. -/
def greatest (kind : NumberKind) (values : List Number) : Number :=
  values.foldl (fun m v => if m.lt v then v else m) kind.smallest

end Number

/-! ## Instruments -/

/-- A measured number with its attributes, of which the order does not count. -/
structure Measurement where
  value : Number
  attributes : List Attribute := []
deriving DecidableEq, Inhabited

/-- What becomes of measurements. -/
inductive Summary
  /-- They are added up, and never go down. -/
  | counter
  /-- They are added up. -/
  | upDownCounter
  /-- The last one counts. -/
  | gauge
  /-- They are counted between bounds. -/
  | histogram (bounds : List Double)
  /-- They are counted in buckets that grow with them. -/
  | exponential (options : ExponentialOptions)
deriving Repr, DecidableEq, Inhabited

structure Instrument where
  name : String := ""
  description : String := ""
  unit : String := ""
  scope : Scope := {}
  numbers : NumberKind
  summary : Summary
  measurements : List Measurement := []
deriving DecidableEq, Inhabited

/-- The bounds of a histogram where nothing else is said. -/
def defaultBounds : List Double :=
  [0, 5, 10, 25, 50, 75, 100, 250, 500, 750, 1000, 2500, 5000, 7500, 10000].map fun n => .ofFloat (Float.ofNat n)

def maxNameLength : Nat := 255

def maxUnitLength : Nat := 63

/-- A name begins with a letter and goes on with letters, digits and a few marks. -/
def isName (s : String) : Bool :=
  match s.toList with
  | [] => false
  | c :: rest =>
    c.isAlpha && rest.all (fun c => c.isAlphanum || "_.-/".toList.contains c) && s.utf8ByteSize ≤ maxNameLength

def isUnit (s : String) : Bool :=
  s.toList.all (·.toNat < 128) && s.utf8ByteSize ≤ maxUnitLength

/-- Bounds are finite and go up. -/
def areBounds : List Double → Bool
  | [] => true
  | x :: rest => x.isFinite && rest.head?.all x.lt && areBounds rest

/-- A summary without its bounds or options. -/
def Summary.plain : Summary → Summary
  | .histogram _ | .exponential _ => .histogram []
  | s => s

/-- The text of the first attribute, and none where there is none or it is no text. -/
def sortText : List Attribute → String
  | (_, .string s) :: _ => s
  | _ => ""

/-- The bucket of a number: it holds the numbers above the bound before it, up to its own. -/
def bucketAmong (bounds : List Double) (x : Double) : Nat :=
  (bounds.takeWhile (·.lt x)).length

/-- How many numbers fall into each bucket, and nothing where there are no bounds. -/
def bucketCounts (bounds : List Double) (values : List Double) : List UInt64 :=
  if bounds = [] then []
  else
    let places := values.map (bucketAmong bounds)
    (List.range (bounds.length + 1)).map fun i => UInt64.ofNat (places.count i)

namespace Instrument

/-- The instrument may take measurements. -/
def isWellFormed (i : Instrument) : Bool :=
  isName i.name && isUnit i.unit &&
    match i.summary with
    | .histogram bounds => areBounds bounds
    | _ => true

/-- The instrument less all that does not tell it from others: the case of its name, its bounds or options,
and what it measured. -/
def outline (i : Instrument) : Instrument :=
  { i with name := i.name.toLower, summary := i.summary.plain, measurements := [] }

/-- The instruments with those of one outline taken together, as the first of them. -/
def merged (instruments : List Instrument) : List Instrument :=
  (gather outline instruments).map fun (first, members) =>
    { first with measurements := members.flatMap (·.measurements) }

/-- The measurements that count: a histogram without bounds of its own takes finite numbers only. -/
def counted (i : Instrument) : List Measurement :=
  match i.summary with
  | .exponential _ => i.measurements.filter (·.value.toDouble.isFinite)
  | _ => i.measurements

/-- The numbers measured for each set of attributes. -/
def series (i : Instrument) : List (List Attribute × List Number) :=
  let sets := (i.counted.map fun m => (inOrder m.attributes, m.value))
  ((gather Prod.fst sets).map fun (first, members) => (first.1, members.map Prod.snd)).mergeSort
    fun a b => !decide (sortText b.1 < sortText a.1)

def histogramPoint (kind : NumberKind) (bounds : List Double) (attributes : List Attribute)
    (values : List Number) : HistogramPoint :=
  { attributes, count := UInt64.ofNat values.length, bounds
    bucketCounts := bucketCounts bounds (values.map Number.toDouble)
    min := some (Number.least kind values), max := some (Number.greatest kind values)
    sum := Number.sum kind values }

def exponentialPoint (kind : NumberKind) (o : ExponentialOptions) (attributes : List Attribute)
    (values : List Number) : ExponentialPoint :=
  let m := values.foldl (fun m v => m.add o.maxSize v.toDouble) ({ coarseness := o.coarseness } : Magnitudes)
  { attributes, count := UInt64.ofNat values.length
    min := if o.extremes then some (Number.least kind values) else none
    max := if o.extremes then some (Number.greatest kind values) else none
    sum := Number.sum kind values, scale := Int8.ofInt (-m.coarseness), zeroCount := m.zeros
    positive := m.positive.buckets, negative := m.negative.buckets }

def data (i : Instrument) (temporality : Temporality) : MetricData :=
  let points := i.series
  let reported := if temporality = .cumulative then .cumulative else Temporality.delta
  let sums := points.map fun (attributes, values) =>
    ({ attributes, value := Number.sum i.numbers values } : NumberPoint)
  match i.summary with
  | .counter => .sum sums reported true
  | .upDownCounter => .sum sums .cumulative false
  | .gauge => .gauge (points.map fun (attributes, values) =>
      { attributes, value := values.getLastD i.numbers.zero })
  | .histogram bounds =>
    .histogram (points.map fun (attributes, values) => histogramPoint i.numbers bounds attributes values) reported
  | .exponential o =>
    .exponential (points.map fun (attributes, values) => exponentialPoint i.numbers o attributes values) reported

/-- The metric of an instrument, for measurements between two instants. -/
def metric (i : Instrument) (temporality : Temporality) (start time : Timestamp) : Metric :=
  { name := i.name, description := i.description, unit := i.unit, start := some start, time
    data := i.data temporality }

/-- The metrics of instruments, for measurements between two instants. -/
def collect (temporality : Temporality) (start time : Timestamp) (instruments : List Instrument) :
    List ScopeMetrics :=
  let used := (merged (instruments.filter isWellFormed)).filter (!·.counted.isEmpty)
  ((gather Instrument.scope used).map fun (first, members) =>
      ({ scope := first.scope, metrics := members.map (·.metric temporality start time) } : ScopeMetrics)).mergeSort
    fun a b => !decide (b.scope.name < a.scope.name)

end Instrument
end Collected
end Courier
