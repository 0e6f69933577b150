import ClockManager.Topology
import Mathlib.Data.List.Basic
/-!
# The bytes of the frames

A frame is written field by field into a buffer that has room for the longest one, so nothing is
dropped, and its bytes are those of its fields one after the other.
-/

namespace ClockManager

namespace Word.Writer

/-- What has been written is `bytes`, into a buffer of `capacity` bytes, and nothing was dropped. -/
structure Filled (capacity : Nat) (bytes : Bytes) (w : Writer) : Prop where
  written_eq : w.written = bytes
  length_eq : w.length = bytes.length
  length_buffer : w.buffer.length = capacity
  overflowed_eq : w.overflowed = false

variable {capacity : Nat} {bytes more : Bytes} {w : Writer}

theorem filled_ofBuffer {buffer : Bytes} (h : buffer.length = capacity) :
    (ofBuffer buffer).Filled capacity [] :=
  ⟨List.take_zero, rfl, h, rfl⟩

/-- A write that fits is appended. -/
theorem Filled.putBytes (h : w.Filled capacity bytes)
    (fits : bytes.length + more.length ≤ capacity) :
    (w.putBytes more).Filled capacity (bytes ++ more) := by
  obtain ⟨rfl, hlength, rfl, hoverflowed⟩ := h
  rw [← hlength] at fits
  unfold Writer.putBytes
  rw [dif_pos fits]
  refine ⟨?_, ?_, ?_, hoverflowed⟩
  · exact List.take_left' (by rw [List.length_append]; exact congrArg (· + _) hlength.symm)
  · simp [hlength]
  · simp
    omega

theorem Filled.put {word : UInt32} (h : w.Filled capacity bytes)
    (fits : bytes.length + size ≤ capacity) :
    (w.put word).Filled capacity (bytes ++ toBytes word) :=
  Filled.putBytes h fits

theorem Filled.putPair {value : UInt64} (h : w.Filled capacity bytes)
    (fits : bytes.length + 2 * size ≤ capacity) :
    (w.putPair value).Filled capacity (bytes ++ pairBytes value) := by
  have hlow : bytes.length + size ≤ capacity := by simp only [size] at fits ⊢; omega
  have hhigh : (bytes ++ toBytes (split value).1).length + size ≤ capacity := by
    rw [List.length_append, length_toBytes]
    simp only [size] at fits ⊢
    omega
  rw [pairBytes, ← List.append_assoc]
  exact (h.put hlow).put hhigh

end Word.Writer

namespace Frame

/-- The fields of a frame, one after the other. -/
def layout : Frame → Bytes
  | .status s => Word.toBytes s.toWord
  | .protocolVersion =>
    Word.toBytes Status.success.toWord ++ Word.toBytes ClockManager.protocolVersion
  | .protocolAttributes maxPending clockCount =>
    Word.toBytes Status.success.toWord ++
      Word.toBytes (protocolAttributesWord maxPending clockCount)
  | .messageAttributes attributes =>
    Word.toBytes Status.success.toWord ++ Word.toBytes attributes
  | .clockAttributes state name =>
    Word.toBytes Status.success.toWord ++ Word.toBytes (if state = .running then 1 else 0) ++
      nameField name
  | .rate r => Word.toBytes Status.success.toWord ++ Word.pairBytes r

@[simp] theorem length_nameField (name : String) : (nameField name).length = nameSize := by
  simp only [nameField, List.length_append, List.length_take, List.length_replicate, nameSize]
  omega

/-- The name of a device fits, and is filled up with zeros. -/
theorem nameField_eq {name : String} (h : name.utf8ByteSize < nameSize) :
    nameField name =
      name.toUTF8.data.toList ++ List.replicate (nameSize - name.utf8ByteSize) 0 := by
  have hlength : name.toUTF8.data.toList.length = name.utf8ByteSize := rfl
  have hkept : name.toUTF8.data.toList.take (nameSize - 1) = name.toUTF8.data.toList :=
    List.take_of_length_le (by omega)
  rw [nameField, hkept, hlength]

theorem filled_writer (frame : Frame) : frame.writer.Filled capacity frame.layout := by
  have hstart : (Word.Writer.ofBuffer (List.replicate capacity 0)).Filled capacity [] :=
    Word.Writer.filled_ofBuffer List.length_replicate
  have hsuccess : (Word.Writer.put (.ofBuffer (List.replicate capacity 0))
      Status.success.toWord).Filled capacity (Word.toBytes Status.success.toWord) :=
    hstart.put (by decide)
  cases frame with
  | status s => exact hstart.put (by decide)
  | protocolVersion => exact hsuccess.put (by decide)
  | protocolAttributes => exact hsuccess.put (by decide)
  | messageAttributes => exact hsuccess.put (by decide)
  | clockAttributes state name =>
    refine (hsuccess.put (by decide)).putBytes ?_
    rw [length_nameField, List.length_append, Word.length_toBytes, Word.length_toBytes]
    decide
  | rate r => exact hsuccess.putPair (by decide)

theorem bytes_eq_layout (frame : Frame) : frame.bytes = frame.layout := frame.filled_writer.written_eq

end Frame
end ClockManager
