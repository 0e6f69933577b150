import ClockManager.Proofs.Checked
import ClockManager.Proofs.Frame
import ClockManager.Proofs.Request
/-!
# Requests and frames without faults

The bytes of a word are taken out of a payload by their places. A frame is written through a cursor,
which is a writer that promises nothing: the sum that finds the end of a write, the copy into the
buffer and the slice that is sent in the end could all fault, and the writer must not have dropped
anything. None of this happens, whatever the payload holds, whatever the frame says and however long
the name in it is.
-/

namespace ClockManager

open Checked (sizeLimit)

namespace Word

/-! ### Reading -/

/-- A payload has no word whose end cannot be counted. The bytes of a word are taken out one by
one. -/
def readChecked (payload : Bytes) (index : Nat) : Checked (Option UInt32) :=
  if size * index + size < sizeLimit ∧ size * index + size ≤ payload.length then do
    let bytes := (payload.drop (size * index)).take size
    return ofBytes (← Checked.get bytes 0) (← Checked.get bytes 1) (← Checked.get bytes 2)
      (← Checked.get bytes 3)
  else return none

theorem readChecked_eq {payload : Bytes} {index : Nat} (h : size * index + size < sizeLimit) :
    readChecked payload index = .ok (read? payload index) := by
  have hlength : (payload.drop (size * index)).length = payload.length - size * index :=
    List.length_drop
  match hdrop : payload.drop (size * index) with
  | b₀ :: b₁ :: b₂ :: b₃ :: rest =>
    have hfits : size * index + size ≤ payload.length := by
      rw [hdrop] at hlength
      simp only [List.length_cons, size] at hlength ⊢
      omega
    rw [readChecked, read?, if_pos ⟨h, hfits⟩, hdrop]
    rfl
  | [] | [_] | [_, _] | [_, _, _] =>
    have hshort : ¬size * index + size ≤ payload.length := by
      rw [hdrop] at hlength
      simp only [List.length_cons, List.length_nil, size] at hlength ⊢
      omega
    rw [readChecked, read?, if_neg fun hfits => hshort hfits.2, hdrop]
    rfl

/-! ### Writing -/

/-- What a writer keeps in memory. -/
structure Cursor where
  buffer : Bytes
  length : Nat
  overflowed : Bool

namespace Cursor

def putBytes (cursor : Cursor) (bytes : Bytes) : Checked Cursor := do
  let stop ← Checked.add cursor.length bytes.length
  if stop ≤ cursor.buffer.length then
    let buffer ← Checked.copy cursor.buffer cursor.length stop bytes
    return { cursor with buffer, length := ← Checked.add cursor.length bytes.length }
  else return { cursor with overflowed := true }

def put (cursor : Cursor) (word : UInt32) : Checked Cursor := cursor.putBytes (toBytes word)

def putPair (cursor : Cursor) (value : UInt64) : Checked Cursor := do
  (← cursor.put (split value).1).put (split value).2

end Cursor

namespace Writer

variable {w : Writer} {bytes : Bytes} {word : UInt32} {value : UInt64}

def cursor (w : Writer) : Cursor := ⟨w.buffer, w.length, w.overflowed⟩

@[simp] theorem length_buffer_putBytes : (w.putBytes bytes).buffer.length = w.buffer.length := by
  unfold putBytes
  split
  · simp
    omega
  · rfl

@[simp] theorem length_buffer_put : (w.put word).buffer.length = w.buffer.length :=
  length_buffer_putBytes

/-- The end of a write is found without overflow if the buffer and the bytes together can be
counted. -/
theorem cursor_putBytes (h : w.buffer.length + bytes.length < sizeLimit) :
    w.cursor.putBytes bytes = .ok (w.putBytes bytes).cursor := by
  have hlength := w.length_le
  have hadd : Checked.add w.cursor.length bytes.length = .ok (w.length + bytes.length) :=
    Checked.add_of_lt (by
      show w.length + bytes.length < sizeLimit
      omega)
  rw [Cursor.putBytes, hadd, Checked.ok_bind]
  unfold putBytes
  by_cases hfits : w.length + bytes.length ≤ w.buffer.length
  · rw [dif_pos hfits]
    refine (if_pos hfits).trans ?_
    rw [cursor, Checked.copy_of_le rfl hfits]
    rfl
  · rw [dif_neg hfits]
    exact if_neg hfits

theorem cursor_put (h : w.buffer.length + size < sizeLimit) :
    w.cursor.put word = .ok (w.put word).cursor :=
  cursor_putBytes h

theorem cursor_putPair (h : w.buffer.length + size < sizeLimit) :
    w.cursor.putPair value = .ok (w.putPair value).cursor := by
  rw [Cursor.putPair, cursor_put h, Checked.ok_bind, cursor_put (by rwa [length_buffer_put])]
  rfl

end Writer
end Word

namespace Request

/-- The words that a message takes are read one after the other. -/
def decodeChecked (message : Message) (payload : Bytes) : Checked (Except DecodeError Request) :=
  let sizeError := DecodeError.payloadSize message.payloadSize payload.length
  if payload.length = message.payloadSize then do
    let words ← (List.range message.wordCount).mapM (Word.readChecked payload)
    return (ofWords? (fun index => words[index]?.join) message).elim (.error sizeError) .ok
  else return .error sizeError

def decodeRawChecked (raw : UInt32) (payload : Bytes) : Checked (Except DecodeError Request) :=
  match Message.ofRaw? raw with
  | some message => decodeChecked message payload
  | none => return .error (.unknownMessage raw)

/-- No other words are read than those that a message takes. -/
theorem ofWords?_congr {message : Message} {word? other? : Nat → Option UInt32}
    (h : ∀ index < message.wordCount, word? index = other? index) :
    ofWords? word? message = ofWords? other? message := by
  cases message <;> simp_all [ofWords?, Message.wordCount]

theorem decodeChecked_eq (message : Message) (payload : Bytes) :
    decodeChecked message payload = .ok (decode message payload) := by
  have hcount : message.wordCount ≤ 4 := by cases message <;> decide
  have hread : ∀ index ∈ List.range message.wordCount,
      Word.readChecked payload index = .ok (Word.read? payload index) := by
    intro index hindex
    apply Word.readChecked_eq
    have hlt := List.mem_range.1 hindex
    simp only [Word.size, sizeLimit, UInt64.size]
    omega
  have hwords : (List.range message.wordCount).mapM (Word.readChecked payload) =
      .ok ((List.range message.wordCount).map (Word.read? payload)) :=
    Checked.mapM_of_forall hread
  unfold decodeChecked decode
  split
  · have hsame : ofWords?
        (fun index => ((List.range message.wordCount).map (Word.read? payload))[index]?.join) message =
          ofWords? (Word.read? payload) message :=
      ofWords?_congr fun index hindex => by simp [hindex]
    rw [hwords, Checked.ok_bind, hsame]
    rfl
  · rfl

theorem decodeRawChecked_eq (raw : UInt32) (payload : Bytes) :
    decodeRawChecked raw payload = .ok (decodeRaw raw payload) := by
  unfold decodeRawChecked decodeRaw
  cases Message.ofRaw? raw with
  | none => rfl
  | some message => exact decodeChecked_eq message payload

end Request

namespace Frame

/-- A name is copied into a field of zeros as far as it leaves one of them. -/
def nameFieldChecked (name : String) : Checked Bytes := do
  let bytes := name.toUTF8.data.toList
  let length := min bytes.length (nameSize - 1)
  Checked.copy (List.replicate nameSize 0) 0 length (← Checked.slice bytes 0 length)

def fillChecked (cursor : Word.Cursor) : Frame → Checked Word.Cursor
  | .status s => cursor.put s.toWord
  | .protocolVersion => do
    (← cursor.put Status.success.toWord).put ClockManager.protocolVersion
  | .protocolAttributes maxPending clockCount => do
    (← cursor.put Status.success.toWord).put (protocolAttributesWord maxPending clockCount)
  | .messageAttributes attributes => do (← cursor.put Status.success.toWord).put attributes
  | .clockAttributes state name => do
    let field ← nameFieldChecked name
    let cursor ← cursor.put Status.success.toWord
    (← cursor.put (if state = .running then 1 else 0)).putBytes field
  | .rate r => do (← cursor.put Status.success.toWord).putPair r

/-- The bytes of a frame; that nothing of it was dropped is asserted before they are sent. -/
def bytesChecked (frame : Frame) : Checked Bytes := do
  let cursor ← fillChecked ⟨List.replicate capacity 0, 0, false⟩ frame
  Checked.ensure !cursor.overflowed
  Checked.slice cursor.buffer 0 cursor.length

theorem nameFieldChecked_eq (name : String) : nameFieldChecked name = .ok (nameField name) := by
  generalize hbytes : name.toUTF8.data.toList = bytes
  have hlength : min bytes.length (nameSize - 1) ≤ nameSize :=
    Nat.le_trans (Nat.min_le_right ..) (Nat.sub_le ..)
  have hkept : bytes.take (min bytes.length (nameSize - 1)) = bytes.take (nameSize - 1) := by
    rw [Nat.min_comm, ← List.take_eq_take_min]
  rw [nameFieldChecked, nameField, hbytes]
  rw [Checked.slice_of_le (Nat.zero_le _) (Nat.min_le_left ..), Checked.ok_bind, List.drop_zero,
    hkept, Checked.copy_of_le (by rw [List.length_take]; omega)
      (by rwa [List.length_replicate])]
  simp [Nat.min_comm]

theorem fillChecked_cursor {w : Word.Writer} (h : w.buffer.length = capacity) (frame : Frame) :
    fillChecked w.cursor frame = .ok (fill w frame).cursor := by
  have hword : capacity + Word.size < sizeLimit := by decide
  have hname : capacity + nameSize < sizeLimit := by decide
  have hput (w : Word.Writer) (h : w.buffer.length = capacity) (word : UInt32) :
      w.cursor.put word = .ok (w.put word).cursor :=
    Word.Writer.cursor_put (by rwa [h])
  cases frame with
  | status s => exact hput w h _
  | protocolVersion | protocolAttributes | messageAttributes =>
    rw [fillChecked, hput w h, Checked.ok_bind, hput _ (by simpa using h)]
    rfl
  | clockAttributes state name =>
    rw [fillChecked, nameFieldChecked_eq, Checked.ok_bind, hput w h, Checked.ok_bind,
      hput _ (by simpa using h), Checked.ok_bind, Word.Writer.cursor_putBytes (by simpa [h])]
    rfl
  | rate r =>
    rw [fillChecked, hput w h, Checked.ok_bind, Word.Writer.cursor_putPair (by simpa [h])]
    rfl

theorem bytesChecked_eq (frame : Frame) : frame.bytesChecked = .ok frame.bytes := by
  have hfill : fillChecked ⟨List.replicate capacity 0, 0, false⟩ frame = .ok frame.writer.cursor :=
    fillChecked_cursor (w := .ofBuffer (List.replicate capacity 0)) List.length_replicate frame
  have hkept : Checked.ensure (!frame.writer.cursor.overflowed) = .ok () := by
    rw [Word.Writer.cursor, frame.filled_writer.overflowed_eq]
    rfl
  rw [bytesChecked, hfill, Checked.ok_bind, hkept, Checked.ok_bind]
  exact Checked.slice_of_le (Nat.zero_le _) frame.writer.length_le

end Frame
end ClockManager
