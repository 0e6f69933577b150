import ClockManager.Proofs.Checked.Wire
/-!
# Several writes to one writer

Which of several pieces are kept, when each in turn is kept if it fits whole into the room that is
left, can be said without a buffer: `kept` and `dropped`. A writer keeps just these, one behind the
other at the front of its buffer, and it has overflowed if it had to drop one. What lies behind them
is left as it was. Where words are all that is written and none is dropped, they are read back by
their numbers.
-/

namespace ClockManager.Word

open Checked (sizeLimit)

/-! ### Reading by number -/

section Reading

variable {index : Nat} {words : List UInt32} {payload rest : Bytes}

theorem read?_isSome_iff : (read? payload index).isSome ↔ size * (index + 1) ≤ payload.length := by
  have hlength : (payload.drop (size * index)).length = payload.length - size * index :=
    List.length_drop
  have hend : size * (index + 1) = size * index + size := Nat.mul_succ ..
  rw [hend, read?]
  rcases hdrop : payload.drop (size * index) with
    _ | ⟨b₀, _ | ⟨b₁, _ | ⟨b₂, _ | ⟨b₃, rest⟩⟩⟩⟩ <;>
  · rw [hdrop] at hlength
    simp only [List.length_cons, List.length_nil, size, Option.isSome_some, Option.isSome_none,
      Bool.false_eq_true, true_iff, false_iff] at hlength ⊢
    omega

/-- No payload in memory reaches to the end of a word whose end cannot be counted. -/
theorem readChecked_eq_of_length_lt (h : payload.length < sizeLimit) (index : Nat) :
    readChecked payload index = .ok (read? payload index) := by
  by_cases hend : size * index + size < sizeLimit
  · exact readChecked_eq hend
  · have hnone : read? payload index = none := by
      rw [← Option.not_isSome_iff_eq_none, read?_isSome_iff, Nat.mul_succ]
      omega
    rw [readChecked, if_neg fun hfits => hend hfits.1, hnone]
    rfl

/-- Words are read by their numbers, whatever follows them. -/
theorem read?_flatMap_toBytes_append {word : UInt32} (h : words[index]? = some word) :
    read? (words.flatMap toBytes ++ rest) index = some word := by
  induction words generalizing index with
  | nil => cases h
  | cons first more ih =>
    rw [List.flatMap_cons, List.append_assoc]
    cases index with
    | zero =>
      rw [← Option.some.inj h]
      exact read?_toBytes first _
    | succ index =>
      rw [Nat.add_comm, read?_append_add (length_toBytes first)]
      exact ih h

end Reading

/-! ### Pieces that fit -/

/-- The pieces that are kept, when each in turn is kept if there is room left for all of it. -/
def kept (room : Nat) : List Bytes → List Bytes
  | [] => []
  | piece :: pieces =>
    if piece.length ≤ room then piece :: kept (room - piece.length) pieces else kept room pieces

/-- The other pieces. -/
def dropped (room : Nat) : List Bytes → List Bytes
  | [] => []
  | piece :: pieces =>
    if piece.length ≤ room then dropped (room - piece.length) pieces
    else piece :: dropped room pieces

theorem kept_of_dropped_eq_nil {room : Nat} {pieces : List Bytes}
    (h : dropped room pieces = []) : kept room pieces = pieces := by
  fun_induction kept room pieces with
  | case1 => rfl
  | case2 room piece pieces fits ih =>
    rw [dropped, if_pos fits] at h
    rw [ih h]
  | case3 room piece pieces exceeds ih =>
    rw [dropped, if_neg exceeds] at h
    cases h

/-! ### Writes -/

inductive Write where
  | word (value : UInt32)
  | pair (value : UInt64)
  | bytes (content : Bytes)

namespace Write

/-- What is kept or dropped as a whole: a pair is two words. -/
def pieces : Write → List Bytes
  | word value => [toBytes value]
  | pair value => [toBytes (split value).1, toBytes (split value).2]
  | bytes content => [content]

/-- The words among what is written. -/
def words : Write → List UInt32
  | word value => [value]
  | pair value => [(split value).1, (split value).2]
  | bytes _ => []

theorem flatMap_pieces_eq {writes : List Write} (h : ∀ bytes, .bytes bytes ∉ writes) :
    writes.flatMap pieces = (writes.flatMap words).map toBytes := by
  induction writes with
  | nil => rfl
  | cons write rest ih =>
    have hrest : ∀ bytes, .bytes bytes ∉ rest :=
      fun bytes hmem => h bytes (List.mem_cons_of_mem _ hmem)
    rw [List.flatMap_cons, List.flatMap_cons, List.map_append, ih hrest]
    cases write with
    | word | pair => rfl
    | bytes bytes => exact absurd List.mem_cons_self (h bytes)

end Write

namespace Writer

variable {w : Writer} {buffer piece : Bytes} {done : List Bytes} {writes : List Write}

def perform (w : Writer) : Write → Writer
  | .word word => w.put word
  | .pair value => w.putPair value
  | .bytes content => w.putBytes content

def performAll (w : Writer) (writes : List Write) : Writer := writes.foldl perform w

theorem perform_eq (w : Writer) (write : Write) :
    w.perform write = write.pieces.foldl putBytes w := by
  cases write <;> rfl

theorem performAll_eq (w : Writer) (writes : List Write) :
    w.performAll writes = (writes.flatMap Write.pieces).foldl putBytes w := by
  have hperform : perform = fun w write => write.pieces.foldl putBytes w := by
    funext w write
    exact w.perform_eq write
  rw [performAll, hperform, List.foldl_flatMap]

/-- The pieces lie at the front of the buffer, and the rest of it is as it was. -/
structure Keeps (buffer : Bytes) (done : List Bytes) (w : Writer) : Prop where
  length_eq : w.length = done.flatten.length
  length_le : w.length ≤ buffer.length
  buffer_eq : w.buffer = done.flatten ++ buffer.drop w.length

theorem keeps_ofBuffer (buffer : Bytes) : (ofBuffer buffer).Keeps buffer [] :=
  ⟨rfl, Nat.zero_le _, rfl⟩

theorem Keeps.length_buffer (h : w.Keeps buffer done) : w.buffer.length = buffer.length := by
  have hle := h.length_le
  rw [h.buffer_eq, List.length_append, List.length_drop, ← h.length_eq]
  omega

theorem Keeps.putBytes (h : w.Keeps buffer done) (fits : piece.length ≤ buffer.length - w.length) :
    (w.putBytes piece).Keeps buffer (done ++ [piece]) ∧
      (w.putBytes piece).length = w.length + piece.length ∧
      (w.putBytes piece).overflowed = w.overflowed := by
  have hle := h.length_le
  have hfits : w.length + piece.length ≤ w.buffer.length := by
    rw [h.length_buffer]
    omega
  have hfront : w.buffer.take w.length = done.flatten := by
    rw [h.buffer_eq, List.take_left' h.length_eq.symm]
  have hback : w.buffer.drop (w.length + piece.length) =
      buffer.drop (w.length + piece.length) := by
    rw [h.buffer_eq, ← List.drop_drop, List.drop_left' h.length_eq.symm, List.drop_drop]
  unfold Writer.putBytes
  rw [dif_pos hfits]
  refine ⟨⟨?_, ?_, ?_⟩, rfl, rfl⟩
  · simp [h.length_eq]
  · show w.length + piece.length ≤ buffer.length
    omega
  · show w.buffer.take w.length ++ piece ++ w.buffer.drop (w.length + piece.length) =
      (done ++ [piece]).flatten ++ buffer.drop (w.length + piece.length)
    rw [hfront, hback]
    simp

theorem Keeps.putBytes_of_lt (h : w.Keeps buffer done)
    (exceeds : buffer.length - w.length < piece.length) :
    w.putBytes piece = { w with overflowed := true } := by
  have hexceeds : ¬w.length + piece.length ≤ w.buffer.length := by
    rw [h.length_buffer]
    omega
  unfold Writer.putBytes
  rw [dif_neg hexceeds]

/-- Piece by piece the writer does what `kept` and `dropped` say of the room that it has left. -/
theorem Keeps.foldl_putBytes (h : w.Keeps buffer done) (pieces : List Bytes) :
    (pieces.foldl Writer.putBytes w).Keeps buffer
        (done ++ kept (buffer.length - w.length) pieces) ∧
      ((pieces.foldl Writer.putBytes w).overflowed = true ↔
        w.overflowed = true ∨ dropped (buffer.length - w.length) pieces ≠ []) := by
  induction pieces generalizing w done with
  | nil => simpa [kept, dropped] using h
  | cons piece pieces ih =>
    rw [List.foldl_cons, kept, dropped]
    by_cases fits : piece.length ≤ buffer.length - w.length
    · obtain ⟨hkeeps, hlength, hoverflowed⟩ := h.putBytes fits
      have hroom : buffer.length - (w.length + piece.length) =
          buffer.length - w.length - piece.length := Nat.sub_add_eq ..
      have hrest := ih hkeeps
      rw [hlength, hoverflowed, hroom, List.append_assoc, List.singleton_append] at hrest
      rw [if_pos fits, if_pos fits]
      exact hrest
    · rw [h.putBytes_of_lt (Nat.lt_of_not_le fits), if_neg fits, if_neg fits]
      have hkeeps : ({ w with overflowed := true } : Writer).Keeps buffer done :=
        ⟨h.length_eq, h.length_le, h.buffer_eq⟩
      obtain ⟨hrest, hoverflowed⟩ := ih hkeeps
      refine ⟨hrest, ?_⟩
      rw [hoverflowed]
      simp

theorem keeps_performAll (buffer : Bytes) (writes : List Write) :
    ((ofBuffer buffer).performAll writes).Keeps buffer
      (kept buffer.length (writes.flatMap Write.pieces)) := by
  rw [performAll_eq]
  exact ((keeps_ofBuffer buffer).foldl_putBytes _).1

theorem overflowed_performAll_iff : ((ofBuffer buffer).performAll writes).overflowed = true ↔
    dropped buffer.length (writes.flatMap Write.pieces) ≠ [] := by
  rw [performAll_eq, ((keeps_ofBuffer buffer).foldl_putBytes _).2]
  simp [ofBuffer]

section Words

variable (h : ∀ bytes, .bytes bytes ∉ writes)
  (complete : ((ofBuffer buffer).performAll writes).overflowed = false)
include h complete

/-- Words of which none was dropped are all in the buffer. -/
theorem read?_performAll {index : Nat} {word : UInt32}
    (hword : (writes.flatMap Write.words)[index]? = some word) :
    read? ((ofBuffer buffer).performAll writes).buffer index = some word := by
  have hdropped : dropped buffer.length (writes.flatMap Write.pieces) = [] := by
    by_contra hne
    rw [overflowed_performAll_iff.2 hne] at complete
    cases complete
  rw [(keeps_performAll buffer writes).buffer_eq, kept_of_dropped_eq_nil hdropped,
    Write.flatMap_pieces_eq h]
  exact read?_flatMap_toBytes_append hword

theorem join_performAll {front back : List Write} {value : UInt64}
    (hpair : writes = front ++ .pair value :: back) :
    ∃ low high,
      read? ((ofBuffer buffer).performAll writes).buffer (front.flatMap Write.words).length =
          some low ∧
        read? ((ofBuffer buffer).performAll writes).buffer
            ((front.flatMap Write.words).length + 1) = some high ∧
        join low high = value := by
  have hwords : writes.flatMap Write.words = front.flatMap Write.words ++
      (split value).1 :: (split value).2 :: back.flatMap Write.words := by
    rw [hpair, List.flatMap_append, List.flatMap_cons]
    rfl
  refine ⟨_, _, read?_performAll h complete ?_, read?_performAll h complete ?_,
    join_split value⟩
  · simp [hwords]
  · simp [hwords]

end Words

end Writer

/-! ### The law -/

/-- After any writes, of which a pair counts as two words: the writer's length is that of the pieces
kept, which are at the front of the buffer and do not exceed it; the bytes behind them are as
before; and it has overflowed exactly if a piece was dropped. If only words and pairs were written
and none was dropped, each word is read by its number, and the two words of a pair join to its
value. A word is read exactly if the payload reaches to its end, and in memory, where numbers have
64 bits, the same is read. -/
theorem writes_fit_and_read_back :
    (∀ (buffer : Bytes) (writes : List Write),
      let w := (Writer.ofBuffer buffer).performAll writes
      let pieces := writes.flatMap Write.pieces
      w.length = (kept buffer.length pieces).flatten.length ∧ w.length ≤ buffer.length ∧
        w.buffer.length = buffer.length ∧
        w.buffer.take w.length = (kept buffer.length pieces).flatten ∧
        w.buffer.drop w.length = buffer.drop w.length ∧
        (w.overflowed = true ↔ dropped buffer.length pieces ≠ [])) ∧
    (∀ (buffer : Bytes) (writes : List Write), (∀ bytes, .bytes bytes ∉ writes) →
      let w := (Writer.ofBuffer buffer).performAll writes
      w.overflowed = false →
        (∀ index word, (writes.flatMap Write.words)[index]? = some word →
          read? w.buffer index = some word) ∧
        ∀ front value back, writes = front ++ .pair value :: back →
          ∃ low high, read? w.buffer (front.flatMap Write.words).length = some low ∧
            read? w.buffer ((front.flatMap Write.words).length + 1) = some high ∧
            join low high = value) ∧
    ∀ (payload : Bytes) (index : Nat),
      ((read? payload index).isSome ↔ size * (index + 1) ≤ payload.length) ∧
        (payload.length < sizeLimit →
          readChecked payload index = .ok (read? payload index)) := by
  refine ⟨fun buffer writes => ?_, fun buffer writes h complete =>
    ⟨fun _ _ => Writer.read?_performAll h complete,
      fun _ _ _ => Writer.join_performAll h complete⟩,
    fun payload index => ⟨read?_isSome_iff, fun hlt => readChecked_eq_of_length_lt hlt index⟩⟩
  have hkeeps := Writer.keeps_performAll buffer writes
  refine ⟨hkeeps.length_eq, hkeeps.length_le, hkeeps.length_buffer, ?_, ?_,
    Writer.overflowed_performAll_iff⟩
  · rw [hkeeps.buffer_eq, List.take_left' hkeeps.length_eq.symm]
  · rw [hkeeps.buffer_eq, List.drop_left' hkeeps.length_eq.symm]

/-- The high word of a pair is dropped and a byte is written after the low one; a pair that fits
is read back; and no word has a number beyond all payloads. -/
theorem writes_fit_and_read_back_sample :
    ((Writer.ofBuffer (List.replicate 10 0xFF)).performAll
        [.word 1, .pair 0x300000002, .bytes [9]]).length = 9 ∧
      ((Writer.ofBuffer (List.replicate 10 0xFF)).performAll
        [.word 1, .pair 0x300000002, .bytes [9]]).overflowed = true ∧
      (∃ low high,
        read? ((Writer.ofBuffer (List.replicate 14 0xFF)).performAll
            [.word 7, .pair 0x500000006]).buffer 1 = some low ∧
          read? ((Writer.ofBuffer (List.replicate 14 0xFF)).performAll
            [.word 7, .pair 0x500000006]).buffer 2 = some high ∧
          join low high = 0x500000006) ∧
      readChecked [1, 0, 0, 0] (2 ^ 64 - 1) = .ok none := by
  obtain ⟨hfit, hback, hread⟩ := writes_fit_and_read_back
  obtain ⟨hlength, -, -, -, -, hoverflowed⟩ := hfit (List.replicate 10 0xFF)
    [.word 1, .pair 0x300000002, .bytes [9]]
  obtain ⟨-, hjoin⟩ := hback (List.replicate 14 0xFF) [.word 7, .pair 0x500000006] (by simp)
    (by decide)
  obtain ⟨hsome, hchecked⟩ := hread [1, 0, 0, 0] (2 ^ 64 - 1)
  have hnone : read? [1, 0, 0, 0] (2 ^ 64 - 1) = none := by
    rw [← Option.not_isSome_iff_eq_none, hsome]
    decide
  rw [hnone] at hchecked
  exact ⟨hlength.trans (by decide), hoverflowed.2 (by decide), hjoin [.word 7] 0x500000006 [] rfl,
    hchecked (by decide)⟩

end ClockManager.Word
