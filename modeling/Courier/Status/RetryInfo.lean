import Courier.Duration
import Courier.Status
import Courier.Wire.Field
import Courier.Wire.Reader
/-!
# RetryInfo - the delay that a status asks for before the next attempt

The details of a status are a message that may hold, among others, a detail of the type `RetryInfo`.  The
first one that can be read counts, and it may hold no delay.  Details that cannot be read hold none.
-/
namespace Courier
namespace RetryInfo

open Wire

/-- Names the type of the detail. -/
def typeUrl : String := "type.googleapis.com/google.rpc.RetryInfo"

/-- The fields of a status message. -/
def codeField : Nat := 1
def messageField : Nat := 2
def detailsField : Nat := 3

/-- The fields of a detail. -/
def typeField : Nat := 1
def valueField : Nat := 2

/-- The field of the delay, and the fields of a delay. -/
def delayField : Nat := 1
def secondsField : Nat := 1
def nanosField : Nat := 2

/-- A detail that is still encoded. -/
structure Detail where
  typeUrl : String
  value : List UInt8
deriving Repr, DecidableEq, Inhabited

/-- Reads a detail, which stands one level inside its status. -/
def Detail.read? (s : List UInt8) : Option Detail := do
  let fs ← Reader.fields? (Reader.maxDepth - 1) s
  let urls ← Reader.formed? typeField Reader.text? fs
  let values ← Reader.formed? valueField Reader.bytes? fs
  return ⟨urls.getLast?.getD "", values.getLast?.getD []⟩

/-- Reads the details of a status. -/
def details? (s : List UInt8) : Option (List Detail) := do
  let fs ← Reader.fields? Reader.maxDepth s
  let _ ← Reader.formed? codeField Reader.varint? fs
  let _ ← Reader.formed? messageField Reader.text? fs
  let details ← Reader.formed? detailsField Reader.bytes? fs
  details.mapM Detail.read?

/-- The longest delay: the seconds fill 63 bits. -/
def longest : Nat := 0x7fffffffffffffff * 1000000000 + 999999999

/-- The delay of signed seconds and nanoseconds: none when the sum is negative, and no longer than the longest
one. -/
def delayOf (seconds : Int64) (nanos : Int32) : Duration :=
  ⟨min (seconds.toInt * 1000000000 + nanos.toInt).toNat longest⟩

/-- The occurrences of a delay, each field by field over those before. -/
def delay? (occurrences : List (List UInt8)) : Option (Option Duration) := do
  let fs ← occurrences.mapM (Reader.fields? (Reader.maxDepth - 1))
  let fs := fs.flatten
  let seconds ← Reader.formed? secondsField Reader.varint? fs
  let nanos ← Reader.formed? nanosField Reader.varint? fs
  if occurrences.isEmpty then return none
  return some (delayOf (UInt64.ofNat (seconds.getLast?.getD 0)).toInt64
    (UInt32.ofNat (nanos.getLast?.getD 0)).toInt32)

/-- Reads a value of the type, which may hold no delay. -/
def read? (s : List UInt8) : Option (Option Duration) := do
  let fs ← Reader.fields? Reader.maxDepth s
  let delays ← Reader.formed? delayField Reader.bytes? fs
  delay? delays

/-- The delay in the details of a status. -/
def delayIn (details : List UInt8) : Option Duration :=
  match details? details with
  | some ds => ((ds.filter (·.typeUrl == typeUrl)).findSome? fun d => read? d.value).join
  | none => none

/-- A length-delimited field with its content. -/
def delimited (field : Nat) (content : List UInt8) : List UInt8 :=
  Varint.encode (8 * field + 2) ++ Varint.encode content.length ++ content

/-- A varint field, left out when it is zero. -/
def number (field n : Nat) : List UInt8 :=
  if n = 0 then [] else Varint.encode (8 * field) ++ Varint.encode n

/-- The longest delay that is handed out. -/
def longestGiven : Nat := 315576000000 * 1000000000 + 999999999

/-- Details with one delay. -/
def encode (delay : Duration) : List UInt8 :=
  let n := min delay.nanos longestGiven
  let inner := number secondsField (n / 1000000000) ++ number nanosField (n % 1000000000)
  delimited detailsField
    (delimited typeField typeUrl.toUTF8.toList ++ delimited valueField (delimited delayField inner))

end RetryInfo
end Courier
