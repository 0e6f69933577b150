import ClockManager.Word
/-!
# A bounded writer

Writes go one after the other into a buffer of fixed size. A write that does not fit in what is left
of the buffer is dropped whole and remembered as an overflow; a shorter one may still fit after it.
-/

namespace ClockManager.Word

structure Writer where
  buffer : Bytes
  length : Nat
  overflowed : Bool
  length_le : length ≤ buffer.length

namespace Writer

/-- A writer at the start of `buffer`. -/
def ofBuffer (buffer : Bytes) : Writer := ⟨buffer, 0, false, Nat.zero_le _⟩

def putBytes (w : Writer) (bytes : Bytes) : Writer :=
  if h : w.length + bytes.length ≤ w.buffer.length then
    { buffer := w.buffer.take w.length ++ bytes ++ w.buffer.drop (w.length + bytes.length)
      length := w.length + bytes.length
      overflowed := w.overflowed
      length_le := by simp; omega }
  else
    { w with overflowed := true }

def put (w : Writer) (word : UInt32) : Writer := w.putBytes (toBytes word)

/-- Two word writes, low word first; either may be dropped by itself. -/
def putPair (w : Writer) (value : UInt64) : Writer :=
  (w.put (split value).1).put (split value).2

/-- What has been written so far. -/
def written (w : Writer) : Bytes := w.buffer.take w.length

end Writer
end ClockManager.Word
