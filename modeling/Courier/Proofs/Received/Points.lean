import Courier.Proofs.Payload.Metrics
import Courier.Proofs.Received.Envelope
/-!
# Points - the points of metrics as a collector receives them

Main statements: a point of each kind is read back from its parts (`NumberPoint.reads`, `HistogramPoint.reads`,
`ExponentialPoint.reads`, `SummaryPoint.reads`), with its numbers bit for bit.
-/
namespace Courier
namespace Received

open Wire Payload

structure Exemplar where
  attributes : List Attribute
  time : UInt64
  value : Option NumberValue
  spanId : List UInt8
  traceId : List UInt8

/-- A point of a gauge or a sum. -/
structure NumberPoint where
  attributes : List Attribute
  start : UInt64
  time : UInt64
  value : Option NumberValue
  exemplars : List Exemplar
  flags : UInt32

/-- A point of a histogram with explicit bounds. -/
structure HistogramPoint where
  attributes : List Attribute
  start : UInt64
  time : UInt64
  count : UInt64
  sum : Option Double
  bucketCounts : List UInt64
  bounds : List Double
  exemplars : List Exemplar
  flags : UInt32
  min : Option Double
  max : Option Double

structure Buckets where
  offset : Int32
  counts : List UInt64

/-- A point of a histogram with exponential bounds. -/
structure ExponentialPoint where
  attributes : List Attribute
  start : UInt64
  time : UInt64
  count : UInt64
  sum : Option Double
  scale : Int32
  zeroCount : UInt64
  positive : Option Buckets
  negative : Option Buckets
  flags : UInt32
  exemplars : List Exemplar
  min : Option Double
  max : Option Double
  zeroThreshold : Double

structure Quantile where
  quantile : Double
  value : Double

structure SummaryPoint where
  attributes : List Attribute
  start : UInt64
  time : UInt64
  count : UInt64
  sum : Double
  quantiles : List Quantile
  flags : UInt32

/-! ## Readers -/

/-- A number of either kind, by the numbers of the two fields. -/
def number? (doubleField intField field : Nat) : Option (List Content → Option NumberValue) :=
  if field = doubleField then some fun cs => (latest? double? cs).map .double
  else if field = intField then some fun cs => (latest? sfixed64? cs).map .int
  else none

def nextFixed64? (s : List UInt8) : Option (UInt64 × List UInt8) :=
  (Reader.splitAt? 8 s).map fun (b, rest) => (UInt64.ofNat (ofLittleEndian b), rest)

def nextDouble? (s : List UInt8) : Option (Double × List UInt8) :=
  (nextFixed64? s).map fun (n, rest) => (⟨n⟩, rest)

def nextVarint? (s : List UInt8) : Option (UInt64 × List UInt8) :=
  (Varint.decode? s).map fun (n, rest) => (UInt64.ofNat n, rest)

def Exemplar.read? (levels : Nat) (fs : List Field) : Option Exemplar := do
  let attributes ← each? 7 (Attribute.read? levels) fs
  let time ← single? 2 fixed64? 0 fs
  let value ← choice? (number? 3 6) fs
  let spanId ← single? 4 Reader.bytes? [] fs
  let traceId ← single? 5 Reader.bytes? [] fs
  return ⟨attributes, time, value, spanId, traceId⟩

def NumberPoint.read? (levels : Nat) (fs : List Field) : Option NumberPoint := do
  let attributes ← each? 7 (Attribute.read? levels) fs
  let start ← single? 2 fixed64? 0 fs
  let time ← single? 3 fixed64? 0 fs
  let value ← choice? (number? 4 6) fs
  let exemplars ← each? 5 (Exemplar.read? levels) fs
  let flags ← single? 8 uint32? 0 fs
  return ⟨attributes, start, time, value, exemplars, flags⟩

def HistogramPoint.read? (levels : Nat) (fs : List Field) : Option HistogramPoint := do
  let attributes ← each? 9 (Attribute.read? levels) fs
  let start ← single? 2 fixed64? 0 fs
  let time ← single? 3 fixed64? 0 fs
  let count ← single? 4 fixed64? 0 fs
  let sum ← optional? 5 double? fs
  let bucketCounts ← numbers? 6 fixed64? nextFixed64? fs
  let bounds ← numbers? 7 double? nextDouble? fs
  let exemplars ← each? 8 (Exemplar.read? levels) fs
  let flags ← single? 10 uint32? 0 fs
  let min ← optional? 11 double? fs
  let max ← optional? 12 double? fs
  return ⟨attributes, start, time, count, sum, bucketCounts, bounds, exemplars, flags, min, max⟩

def Buckets.read? (fs : List Field) : Option Buckets := do
  let offset ← single? 1 sint32? 0 fs
  let counts ← numbers? 2 uint64? nextVarint? fs
  return ⟨offset, counts⟩

def ExponentialPoint.read? (levels : Nat) (fs : List Field) : Option ExponentialPoint := do
  let attributes ← each? 1 (Attribute.read? levels) fs
  let start ← single? 2 fixed64? 0 fs
  let time ← single? 3 fixed64? 0 fs
  let count ← single? 4 fixed64? 0 fs
  let sum ← optional? 5 double? fs
  let scale ← single? 6 sint32? 0 fs
  let zeroCount ← single? 7 fixed64? 0 fs
  let positive ← embedded? 8 Buckets.read? fs
  let negative ← embedded? 9 Buckets.read? fs
  let flags ← single? 10 uint32? 0 fs
  let exemplars ← each? 11 (Exemplar.read? levels) fs
  let min ← optional? 12 double? fs
  let max ← optional? 13 double? fs
  let zeroThreshold ← single? 14 double? .zero fs
  return ⟨attributes, start, time, count, sum, scale, zeroCount, positive, negative, flags, exemplars, min, max,
    zeroThreshold⟩

def Quantile.read? (fs : List Field) : Option Quantile := do
  let quantile ← single? 1 double? .zero fs
  let value ← single? 2 double? .zero fs
  return ⟨quantile, value⟩

def SummaryPoint.read? (levels : Nat) (fs : List Field) : Option SummaryPoint := do
  let attributes ← each? 7 (Attribute.read? levels) fs
  let start ← single? 2 fixed64? 0 fs
  let time ← single? 3 fixed64? 0 fs
  let count ← single? 4 fixed64? 0 fs
  let sum ← single? 5 double? .zero fs
  let quantiles ← each? 6 Quantile.read? fs
  let flags ← single? 8 uint32? 0 fs
  return ⟨attributes, start, time, count, sum, quantiles, flags⟩

/-! ## What is received -/

def startNanos (start : Option Timestamp) : UInt64 := (start.map Timestamp.wireNanos).getD 0

def Exemplar.of (allowance : Allowance) (e : Courier.Exemplar) : Exemplar where
  attributes := Attribute.kept allowance e.attributes
  time := e.time.wireNanos
  value := some e.value
  spanId := e.spanId.toList
  traceId := e.traceId.toList

def NumberPoint.of (allowance : Allowance) (p : Courier.NumberPoint) : NumberPoint where
  attributes := Attribute.kept allowance p.attributes
  start := startNanos p.start
  time := p.time.wireNanos
  value := some p.value
  exemplars := p.exemplars.map (Exemplar.of allowance)
  flags := 0

def HistogramPoint.of (allowance : Allowance) (p : Courier.HistogramPoint) : HistogramPoint where
  attributes := Attribute.kept allowance p.attributes
  start := startNanos p.start
  time := p.time.wireNanos
  count := p.count
  sum := p.sum
  bucketCounts := p.bucketCounts
  bounds := p.bounds
  exemplars := p.exemplars.map (Exemplar.of allowance)
  flags := 0
  min := p.min
  max := p.max

def Buckets.of (b : ExponentialBuckets) : Buckets where
  offset := b.offset
  counts := b.counts

def ExponentialPoint.of (allowance : Allowance) (p : Courier.ExponentialPoint) : ExponentialPoint where
  attributes := Attribute.kept allowance p.attributes
  start := startNanos p.start
  time := p.time.wireNanos
  count := p.count
  sum := p.sum
  scale := p.scale.toInt32
  zeroCount := p.zeroCount
  positive := some (Buckets.of p.positive)
  negative := some (Buckets.of p.negative)
  flags := 0
  exemplars := p.exemplars.map (Exemplar.of allowance)
  min := p.min
  max := p.max
  zeroThreshold := p.zeroThreshold

def Quantile.of (q : QuantileValue) : Quantile where
  quantile := q.quantile
  value := q.value

def SummaryPoint.of (allowance : Allowance) (p : Courier.SummaryPoint) : SummaryPoint where
  attributes := Attribute.kept allowance p.attributes
  start := startNanos p.start
  time := p.time.wireNanos
  count := p.count
  sum := p.sum
  quantiles := p.quantiles.map Quantile.of
  flags := 0

/-! ## Reading back -/

variable {levels : Nat} {parts : Parts}

theorem choice?_number (doubleField intField : Nat) {v : NumberValue} (hne : intField ≠ doubleField)
    (hp : parts.filter (fun q => (number? doubleField intField q.1).isSome) =
      [(doubleField, doublePieces v), (intField, intPieces v)]) :
    choice? (number? doubleField intField) (fieldsOf parts) = some (some v) := by
  cases v with
  | double x =>
    have hf : fieldsOf (parts.filter fun q => (number? doubleField intField q.1).isSome) =
        [⟨doubleField, (Piece.fixed64 x.bits).content⟩] := by rw [hp]; rfl
    refine choice?_one hf (if_pos rfl) ?_
    rw [latest?_one (double?_fixed64 x)]
    rfl
  | int n =>
    have hf : fieldsOf (parts.filter fun q => (number? doubleField intField q.1).isSome) =
        [⟨intField, (Piece.fixed64 n.toUInt64).content⟩] := by rw [hp]; rfl
    refine choice?_one hf ((if_neg hne).trans (if_pos rfl)) ?_
    rw [latest?_one (sfixed64?_fixed64 n)]
    rfl

theorem single?_start (h : Fits levels parts) (number : Nat) {start : Option Timestamp}
    (hp : piecesOf number parts = startPieces start) :
    single? number fixed64? 0 (fieldsOf parts) = some (startNanos start) :=
  single?_toList h number 0 hp fun t => fixed64?_fixed64 (Timestamp.wireNanos t)

theorem optional?_double (h : Fits levels parts) (number : Nat) {o : Option Double}
    (hp : piecesOf number parts = optionalPieces o) : optional? number double? (fieldsOf parts) = some o := by
  have ho := optional?_toList h number hp double?_fixed64
  rwa [Option.map_id'] at ho

theorem nextFixed64?_littleEndian (n : UInt64) (rest : List UInt8) :
    nextFixed64? (littleEndian 8 n.toNat ++ rest) = some (n, rest) := by
  rw [nextFixed64?, splitAt?_append (length_littleEndian 8 n.toNat), Option.map_some]
  simp only [ofLittleEndian_doubleWord]

theorem nextDouble?_littleEndian (x : Double) (rest : List UInt8) :
    nextDouble? (littleEndian 8 x.bits.toNat ++ rest) = some (x, rest) := by
  rw [nextDouble?, nextFixed64?_littleEndian, Option.map_some]

theorem nextVarint?_encode (n : UInt64) (rest : List UInt8) :
    nextVarint? (Varint.encode n.toNat ++ rest) = some (n, rest) := by
  rw [nextVarint?, Varint.decode?_encode n.toNat_lt, Option.map_some]
  simp only [UInt64.ofNat_toNat]

theorem length_littleEndian_pos (n : Nat) : 0 < (littleEndian 8 n).length := by
  rw [length_littleEndian]
  decide

theorem Exemplar.reads (levels : Nat) (allowance : Allowance) (e : Courier.Exemplar) :
    Reads levels (read? levels) (exemplarParts allowance e) (of allowance e) where
  numbered := rfl
  read hf := by
    have h7 := each?_attributes hf 7 rfl
    have h2 := single?_one hf 2 0 rfl (fixed64?_fixed64 e.time.wireNanos)
    have hp : (exemplarParts allowance e).filter (fun q => (number? 3 6 q.1).isSome) =
        [(3, doublePieces e.value), (6, intPieces e.value)] := rfl
    have hv := choice?_number 3 6 (by decide) hp
    have h4 := single?_one hf 4 [] rfl (bytes?_bytes e.spanId.toList)
    have h5 := single?_one hf 5 [] rfl (bytes?_bytes e.traceId.toList)
    rw [read?, h7, h2, hv, h4, h5]
    rfl

theorem each?_exemplars (h : Fits levels parts) (number : Nat) {allowance : Allowance} {es : List Courier.Exemplar}
    (hp : piecesOf number parts = exemplarPieces allowance es) :
    each? number (Exemplar.read? levels) (fieldsOf parts) = some (es.map (Exemplar.of allowance)) :=
  each?_map h number hp fun e _ => Exemplar.reads levels allowance e

/-- **A point of a gauge or a sum is read back from its parts.** -/
theorem NumberPoint.reads (levels : Nat) (allowance : Allowance) (p : Courier.NumberPoint) :
    Reads levels (read? levels) (numberPointParts allowance p) (of allowance p) where
  numbered := rfl
  read hf := by
    have h7 := each?_attributes hf 7 rfl
    have h2 := single?_start hf 2 rfl
    have h3 := single?_one hf 3 0 rfl (fixed64?_fixed64 p.time.wireNanos)
    have hp : (numberPointParts allowance p).filter (fun q => (number? 4 6 q.1).isSome) =
        [(4, doublePieces p.value), (6, intPieces p.value)] := rfl
    have hv := choice?_number 4 6 (by decide) hp
    have h5 := each?_exemplars hf 5 rfl
    have h8 := single?_none hf 8 uint32? 0 rfl
    rw [read?, h7, h2, h3, hv, h5, h8]
    rfl

/-- **A point of a histogram is read back from its parts.** -/
theorem HistogramPoint.reads (levels : Nat) (allowance : Allowance) (p : Courier.HistogramPoint) :
    Reads levels (read? levels) (histogramPointParts allowance p) (of allowance p) where
  numbered := rfl
  read hf := by
    have h9 := each?_attributes hf 9 rfl
    have h2 := single?_start hf 2 rfl
    have h3 := single?_one hf 3 0 rfl (fixed64?_fixed64 p.time.wireNanos)
    have h4 := single?_one hf 4 0 rfl (fixed64?_fixed64 p.count)
    have h5 := optional?_double hf 5 rfl
    have h6 : numbers? 6 fixed64? nextFixed64? _ = _ :=
      numbers?_runPieces hf 6 rfl (fun n => length_littleEndian_pos _) nextFixed64?_littleEndian
    have h7 : numbers? 7 double? nextDouble? _ = _ :=
      numbers?_runPieces hf 7 rfl (fun n => length_littleEndian_pos _) nextDouble?_littleEndian
    have h8 := each?_exemplars hf 8 rfl
    have h10 := single?_none hf 10 uint32? 0 rfl
    have h11 := optional?_double hf 11 rfl
    have h12 := optional?_double hf 12 rfl
    rw [read?, h9, h2, h3, h4, h5, h6, h7, h8, h10, h11, h12]
    rfl

theorem Buckets.reads (levels : Nat) (b : ExponentialBuckets) : Reads levels read? (bucketsParts b) (of b) where
  numbered := rfl
  read hf := by
    have h1 := single?_one hf 1 0 rfl (sint32?_zigzag b.offset)
    have h2 : numbers? 2 uint64? nextVarint? _ = _ :=
      numbers?_runPieces hf 2 rfl (fun n => length_encode_pos _) nextVarint?_encode
    rw [read?, h1, h2]
    rfl

/-- **A point of an exponential histogram is read back from its parts.** -/
theorem ExponentialPoint.reads (levels : Nat) (allowance : Allowance) (p : Courier.ExponentialPoint) :
    Reads levels (read? levels) (exponentialPointParts allowance p) (of allowance p) where
  numbered := rfl
  read hf := by
    have h1 := each?_attributes hf 1 rfl
    have h2 := single?_start hf 2 rfl
    have h3 := single?_one hf 3 0 rfl (fixed64?_fixed64 p.time.wireNanos)
    have h4 := single?_one hf 4 0 rfl (fixed64?_fixed64 p.count)
    have h5 := optional?_double hf 5 rfl
    have h6 := single?_one hf 6 0 rfl (sint32?_zigzag p.scale.toInt32)
    have h7 := single?_one hf 7 0 rfl (fixed64?_fixed64 p.zeroCount)
    have h8 := embedded?_one hf 8 rfl (Buckets.reads levels p.positive)
    have h9 := embedded?_one hf 9 rfl (Buckets.reads levels p.negative)
    have h10 := single?_none hf 10 uint32? 0 rfl
    have h11 := each?_exemplars hf 11 rfl
    have h12 := optional?_double hf 12 rfl
    have h13 := optional?_double hf 13 rfl
    have h14 := single?_one hf 14 .zero rfl (double?_fixed64 p.zeroThreshold)
    rw [read?, h1, h2, h3, h4, h5, h6, h7, h8, h9, h10, h11, h12, h13, h14]
    rfl

theorem Quantile.reads (levels : Nat) (q : QuantileValue) : Reads levels read? (quantileParts q) (of q) where
  numbered := rfl
  read hf := by
    have h1 := single?_one hf 1 .zero rfl (double?_fixed64 q.quantile)
    have h2 := single?_one hf 2 .zero rfl (double?_fixed64 q.value)
    rw [read?, h1, h2]
    rfl

/-- **A point of a summary is read back from its parts.** -/
theorem SummaryPoint.reads (levels : Nat) (allowance : Allowance) (p : Courier.SummaryPoint) :
    Reads levels (read? levels) (summaryPointParts allowance p) (of allowance p) where
  numbered := rfl
  read hf := by
    have h7 := each?_attributes hf 7 rfl
    have h2 := single?_start hf 2 rfl
    have h3 := single?_one hf 3 0 rfl (fixed64?_fixed64 p.time.wireNanos)
    have h4 := single?_one hf 4 0 rfl (fixed64?_fixed64 p.count)
    have h5 := single?_one hf 5 .zero rfl (double?_fixed64 p.sum)
    have h6 := each?_map hf 6 rfl fun q _ => Quantile.reads levels q
    have h8 := single?_none hf 8 uint32? 0 rfl
    rw [read?, h7, h2, h3, h4, h5, h6, h8]
    rfl

end Received
end Courier
