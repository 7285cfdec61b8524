import Courier.Metric
/-!
# Exponential - counting magnitudes in buckets that grow by powers of two

At coarseness `c` the bounds of the buckets are the powers of `2 ^ 2 ^ c`, and each bucket holds its upper
bound.  When a magnitude would make a run of buckets too long, the coarseness grows until it fits, and
neighbours are merged.  Main statement: merging loses no count.
-/
namespace Courier
namespace Collected

/-- A run of buckets, with the index of the first one. -/
structure Run where
  start : Int := 0
  counts : List UInt64 := []
deriving Repr, DecidableEq, Inhabited

namespace Run

/-- The index of a bucket after its neighbours were merged so many times. -/
def coarser (index : Int) (times : Nat) : Int :=
  index / (Nat.pow 2 times : Nat)

/-- The count of one more bucket, put in front of a merged run that begins at an index or after it. -/
def mergeInto (index : Int) (count : UInt64) : Run → Run
  | ⟨start, c :: counts⟩ => if index = start then ⟨start, (count + c) :: counts⟩ else ⟨index, count :: c :: counts⟩
  | ⟨_, []⟩ => ⟨index, [count]⟩

/-- The counts of a run that begins at an index, merged. -/
def mergeCounts (times : Nat) : Int → List UInt64 → Run
  | _, [] => {}
  | index, count :: rest => mergeInto (coarser index times) count (mergeCounts times (index + 1) rest)

/-- The run with neighbours merged so many times. -/
def merge (r : Run) (times : Nat) : Run :=
  if r.counts = [] then {} else mergeCounts times r.start r.counts

/-- The counts of all buckets together. -/
def total (counts : List UInt64) : UInt64 := counts.foldr (· + ·) 0

@[simp] theorem total_nil : total [] = 0 := rfl

@[simp] theorem total_cons (c : UInt64) (counts : List UInt64) : total (c :: counts) = c + total counts := rfl

theorem total_mergeCounts (times : Nat) (index : Int) (counts : List UInt64) :
    total (mergeCounts times index counts).counts = total counts := by
  induction counts generalizing index with
  | nil => rfl
  | cons c rest ih =>
    have hrest := ih (index + 1)
    unfold mergeCounts
    generalize mergeCounts times (index + 1) rest = r at hrest
    obtain ⟨start, counts⟩ := r
    cases counts with
    | nil => simp_all [mergeInto]
    | cons d ds =>
      simp only [mergeInto]
      split <;> simp_all [UInt64.add_assoc]

/-- Merging loses no count. -/
theorem total_merge (r : Run) (times : Nat) : total (r.merge times).counts = total r.counts := by
  unfold merge
  split
  · simp_all
  · exact total_mergeCounts times r.start r.counts

/-- The run with one more count in a bucket. -/
def add (r : Run) (index : Int) : Run :=
  if r.counts = [] then ⟨index, [1]⟩
  else if index < r.start then
    ⟨index, 1 :: List.replicate ((r.start - index).toNat - 1) 0 ++ r.counts⟩
  else
    let i := (index - r.start).toNat
    if i < r.counts.length then { r with counts := r.counts.modify i (· + 1) }
    else { r with counts := r.counts ++ List.replicate (i - r.counts.length) 0 ++ [1] }

/-- How many times neighbours have to be merged until fewer than `size` steps lie between two indices, up to
a number of times. -/
def mergesFor (size : Nat) : Nat → Int → Int → Nat
  | 0, _, _ => 0
  | most + 1, low, high =>
    if high - low < size then 0 else mergesFor size most (low / 2) (high / 2) + 1

/-- How many times neighbours have to be merged until a run with one more bucket is short enough. -/
def mergesToAdd (r : Run) (size : Nat) (most : Nat) (index : Int) : Nat :=
  if r.counts = [] then 0
  else if index ≤ r.start then mergesFor size most index (r.start + r.counts.length - 1)
  else mergesFor size most r.start index

/-- A run as a point holds it. -/
def buckets (r : Run) : ExponentialBuckets :=
  { offset := Int32.ofInt r.start, counts := r.counts }

end Run

/-- How magnitudes are counted. -/
structure ExponentialOptions where
  /-- The longest run of buckets. -/
  maxSize : Nat := 160
  /-- The coarseness to begin with. -/
  coarseness : Nat := 0
  /-- The extremes are reported. -/
  extremes : Bool := true
deriving Repr, DecidableEq, Inhabited

/-- Magnitudes that were counted. -/
structure Magnitudes where
  coarseness : Nat := 0
  zeros : UInt64 := 0
  positive : Run := {}
  negative : Run := {}
deriving Repr, DecidableEq, Inhabited

namespace Magnitudes

/-- The greatest coarseness, at which two buckets hold all magnitudes. -/
def greatestCoarseness : Nat := 10

/-- The most mergings that are looked for. -/
def mostMerges : Nat := 31

/-- The index of the bucket of a magnitude other than zero, whose sign does not count. -/
def bucketOf (x : Double) (coarseness : Nat) : Int :=
  let top := x.exponent + Nat.log2 x.significand
  let index := if x.significand = Nat.pow 2 (Nat.log2 x.significand) then top - 1 else top
  Run.coarser index coarseness

/-- Counts one more magnitude.  One that no coarseness lets in is left out. -/
def add (m : Magnitudes) (maxSize : Nat) (x : Double) : Magnitudes :=
  if x.significand = 0 then { m with zeros := m.zeros + 1 }
  else
    let side := if x.isNegative then m.negative else m.positive
    let merges := side.mergesToAdd maxSize mostMerges (bucketOf x m.coarseness)
    let coarseness := m.coarseness + merges
    if merges ≠ 0 ∧ greatestCoarseness < coarseness then m
    else
      let positive := m.positive.merge merges
      let negative := m.negative.merge merges
      let index := bucketOf x coarseness
      if x.isNegative then { m with coarseness, positive, negative := negative.add index }
      else { m with coarseness, positive := positive.add index, negative }

end Magnitudes
end Collected
end Courier
