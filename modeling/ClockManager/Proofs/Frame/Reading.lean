import ClockManager.Proofs.Platform.Advertised
import ClockManager.Proofs.Word.Writer
/-!
# Reading a frame

A frame is some words, behind which a name may follow. They all have room in the buffer, so they are
read back as they were put, and each argument of the frame comes back from the words that it went
into. A clock name is cut to 15 bytes, which is as long as the name of a device can be; so a device
name without a zero byte is what stands in its field before the first zero.
-/

namespace ClockManager

theorem Status.ofWord?_toWord (status : Status) : ofWord? status.toWord = some status := by
  cases status <;> decide

namespace Frame

variable {frame : Frame} {index : Nat} {word : UInt32} {name : String}

/-! ### Words -/

def words : Frame → List UInt32
  | .status s => [s.toWord]
  | .protocolVersion => [Status.success.toWord, ClockManager.protocolVersion]
  | .protocolAttributes maxPending clockCount =>
    [Status.success.toWord, protocolAttributesWord maxPending clockCount]
  | .messageAttributes attributes => [Status.success.toWord, attributes]
  | .clockAttributes state _ => [Status.success.toWord, if state = .running then 1 else 0]
  | .rate r => [Status.success.toWord, (Word.split r).1, (Word.split r).2]

/-- What follows the words. -/
def field : Frame → Bytes
  | .clockAttributes _ name => nameField name
  | _ => []

theorem bytes_eq (frame : Frame) :
    frame.bytes = frame.words.flatMap Word.toBytes ++ frame.field := by
  rw [bytes_eq_layout]
  cases frame <;> rfl

theorem read?_bytes (h : frame.words[index]? = some word) :
    Word.read? frame.bytes index = some word := by
  rw [bytes_eq]
  exact Word.read?_flatMap_toBytes_append h

theorem length_bytes_le (frame : Frame) : frame.bytes.length ≤ capacity := by
  rw [bytes, frame.filled_writer.written_eq, ← frame.filled_writer.length_eq,
    ← frame.filled_writer.length_buffer]
  exact frame.writer.length_le

/-! ### Names -/

/-- The name in a field: what stands before the first zero. -/
def nameOf? (field : Bytes) : Option String :=
  String.fromUTF8? ⟨(field.takeWhile (· ≠ 0)).toArray⟩

/-- A name that fits is found again, unless a zero in it ends it early. -/
theorem nameOf?_nameField (fits : name.utf8ByteSize < nameSize)
    (nonzero : 0 ∉ name.toUTF8.data.toList) : nameOf? (nameField name) = some name := by
  have hpos : 0 < nameSize - name.utf8ByteSize := Nat.sub_pos_of_lt fits
  have hname : (nameField name).takeWhile (· ≠ 0) = name.toUTF8.data.toList := by
    rw [nameField_eq fits, List.takeWhile_append_of_pos, List.takeWhile_replicate]
    · simp
    · intro byte hbyte
      have hne : byte ≠ 0 := fun h => nonzero (h ▸ hbyte)
      simpa using hne
  rw [nameOf?, hname, Array.toArray_toList]
  exact dif_pos name.isValidUTF8

theorem drop_clockAttributes (state : ClockState) (name : String) :
    (Frame.clockAttributes state name).bytes.drop 8 = nameField name := by
  rw [bytes_eq]
  exact List.drop_left' rfl

/-! ### The law -/

/-- No frame is longer than its buffer, so that nothing of it is dropped, and its arguments come
back. A rate is joined from its two words; the pending limit is read from its field, and so is a
clock count if it is below 65536. The reply for a clock has 24 bytes: one word tells whether the
clock runs, and up to 15 bytes of the name are followed by zeros only. So the name of a device comes
back in full if it has no zero byte. -/
theorem frames_read_back :
    (∀ frame : Frame, frame.writer.overflowed = false ∧
      frame.bytesChecked = .ok frame.bytes ∧ frame.bytes.length ≤ 24) ∧
    (∀ status, (Word.read? (Frame.status status).bytes 0).bind Status.ofWord? = some status) ∧
    Word.read? Frame.protocolVersion.bytes 1 = some ClockManager.protocolVersion ∧
    (∀ attributes, Word.read? (Frame.messageAttributes attributes).bytes 1 = some attributes) ∧
    (∀ rate, ∃ low high, Word.read? (Frame.rate rate).bytes 1 = some low ∧
      Word.read? (Frame.rate rate).bytes 2 = some high ∧ Word.join low high = rate) ∧
    (∀ maxPending clockCount, ∃ word,
      Word.read? (Frame.protocolAttributes maxPending clockCount).bytes 1 = some word ∧
        advertisedPending word = maxPending.toNat ∧
        (clockCount < 2 ^ 16 → advertisedCount word = clockCount)) ∧
    (∀ state name, (Frame.clockAttributes state name).bytes.length = 24 ∧
      (∃ word, Word.read? (Frame.clockAttributes state name).bytes 1 = some word ∧
        (word = 1 ↔ state = .running)) ∧
      (Frame.clockAttributes state name).bytes.drop 8 = name.toUTF8.data.toList.take 15 ++
        List.replicate (16 - min name.utf8ByteSize 15) 0) ∧
    ∀ (topology : Topology) (state : ClockState), ∀ name ∈ topology.devices,
      0 ∉ name.toUTF8.data.toList →
        nameOf? ((Frame.clockAttributes state name).bytes.drop 8) = some name := by
  refine ⟨fun frame => ⟨frame.filled_writer.overflowed_eq, frame.bytesChecked_eq,
      frame.length_bytes_le⟩,
    fun status => ?_, read?_bytes rfl, fun attributes => read?_bytes rfl,
    fun rate => ⟨_, _, read?_bytes rfl, read?_bytes rfl, Word.join_split rate⟩,
    fun maxPending clockCount => ⟨_, read?_bytes rfl,
      advertisedPending_protocolAttributesWord, fun hsmall => ?_⟩,
    fun state name => ⟨?_, ⟨_, read?_bytes rfl, ?_⟩, ?_⟩,
    fun topology state name hname nonzero => ?_⟩
  · have hword : Word.read? (Frame.status status).bytes 0 = some status.toWord := read?_bytes rfl
    rw [hword]
    exact status.ofWord?_toWord
  · rw [advertisedCount_protocolAttributesWord, Nat.mod_eq_of_lt hsmall]
  · rw [bytes_eq, List.length_append, field, length_nameField]
    rfl
  · cases state <;> decide
  · rw [drop_clockAttributes, nameField, List.length_take, Nat.min_comm]
    rfl
  · rw [drop_clockAttributes]
    exact nameOf?_nameField (topology.names_fit name hname) nonzero

/-- A name of 16 bytes loses the last one, and with it a letter. -/
theorem frames_read_back_sample :
    (∃ low high, Word.read? (Frame.rate 0x7FFFFFFFF).bytes 1 = some low ∧
      Word.read? (Frame.rate 0x7FFFFFFFF).bytes 2 = some high ∧ Word.join low high = 0x7FFFFFFFF) ∧
    (∃ word, Word.read? (Frame.protocolAttributes 2 65535).bytes 1 = some word ∧
      advertisedCount word = 65535) ∧
    (Frame.clockAttributes .running "ÄÖÜÄÖÜÄÖ").bytes.drop 8 =
      "ÄÖÜÄÖÜÄ".toUTF8.data.toList ++ [0xC3, 0] ∧
    nameOf? ((Frame.clockAttributes .stopped "GPU").bytes.drop 8) = some "GPU" := by
  obtain ⟨-, -, -, -, hrate, hattributes, hclock, hname⟩ := frames_read_back
  obtain ⟨word, hword, -, hcount⟩ := hattributes 2 65535
  refine ⟨hrate 0x7FFFFFFFF, ⟨word, hword, hcount (by decide)⟩, ?_,
    hname Bench.sampleTopology .stopped "GPU" (by decide) (by decide)⟩
  rw [(hclock .running "ÄÖÜÄÖÜÄÖ").2.2]
  decide

end Frame
end ClockManager
