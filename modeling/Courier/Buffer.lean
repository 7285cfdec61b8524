import Courier.Wire.Cursor
/-!
# Buffer - a buffer that grows until a write fits

A write that does not fit is started over, from the same offset, in a buffer of twice the size; an empty
buffer gets a first size, and no buffer grows past the largest one.  What earlier tries wrote stays in the
buffer, and what they asked of deferred texts stays asked.
-/
namespace Courier
namespace Buffer

open Wire

/-- The size that an empty buffer grows to. -/
def initialSize : Nat := 750000

/-- No buffer grows past this size. -/
def maxSize : Nat := 100 * 1024 * 1024

def filled (n : Nat) (b : UInt8) : ByteArray :=
  if n = 0 then ByteArray.empty
  else
    let half := filled (n / 2) b
    if n % 2 = 0 then half ++ half else (half ++ half).push b
termination_by n
decreasing_by omega

@[simp] theorem size_filled (n : Nat) (b : UInt8) : (filled n b).size = n := by
  induction n using Nat.strongRecOn with
  | _ n ih =>
    rw [filled]
    split
    · simp; omega
    · have h := ih (n / 2) (by omega)
      simp only
      split <;> simp [ByteArray.size_push, h] <;> omega

/-- The buffer cut to a size, or brought to it by zeros. -/
def resized (buffer : ByteArray) (n : Nat) : ByteArray :=
  if n ≤ buffer.size then buffer.extract 0 n else buffer ++ filled (n - buffer.size) 0

@[simp] theorem size_resized (buffer : ByteArray) (n : Nat) : (resized buffer n).size = n := by
  unfold resized
  split
  · simp [ByteArray.size_extract]; omega
  · simp; omega

def nextSize (n : Nat) : Nat :=
  min (if n = 0 then initialSize else 2 * n) maxSize

theorem lt_nextSize {n : Nat} (h : n < maxSize) : n < nextSize n := by
  unfold nextSize
  split <;> simp [initialSize, maxSize] at * <;> omega

inductive Outcome
  | written (finish : Nat)
  /-- It does not fit in the largest buffer. -/
  | tooLarge
  /-- A deferred text broke off. -/
  | aborted (reason : String)
deriving Repr, DecidableEq, Inhabited

/-- Writes at an offset into a buffer of a known size, and starts over in a larger one while it has to. -/
def fillSized (write : Write Unit) (offset size : Nat) (buffer : ByteArray) (renders : Renders) :
    Outcome × ByteArray :=
  match write ⟨buffer, offset, renders⟩ with
  | .ok _ c => (.written c.pos, c.buffer)
  | .error (.aborted reason) c => (.aborted reason, c.buffer)
  | .error .full c =>
    if _h : size < maxSize then
      fillSized write offset (nextSize size) (resized c.buffer (nextSize size)) c.renders
    else (.tooLarge, c.buffer)
termination_by maxSize - size
decreasing_by
  have := lt_nextSize _h
  omega

/-- Writes at an offset, in as large a buffer as it takes.  Answers how that ended, and the buffer. -/
def fill (write : Write Unit) (offset : Nat) (buffer : ByteArray) (renders : Renders) :
    Outcome × ByteArray :=
  fillSized write offset buffer.size buffer renders

end Buffer
end Courier
