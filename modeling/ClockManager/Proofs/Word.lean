import ClockManager.Word
import Mathlib.Data.Nat.Bitwise
/-!
# Reading what was written

Words and 64-bit values come back from their bytes as they were written. A word that is put together
from fields is read as a number: a field that is moved up by some bits adds its multiple of a power
of two to fields that need no more bits than these.
-/

namespace ClockManager.Word

variable {front rest : Bytes} {index count : Nat}

/-! ### Fields of a word -/

theorem or_shiftLeft_eq_add {low high bits : Nat} (below : low < 2 ^ bits) :
    low ||| high <<< bits = low + 2 ^ bits * high := by
  rw [Nat.or_comm, ← Nat.shiftLeft_add_eq_or_of_lt below, Nat.shiftLeft_eq, Nat.mul_comm,
    Nat.add_comm]

/-- A field above another one. -/
theorem toNat_or_shiftLeft {low high shift : UInt32} (inside : shift.toNat < 32)
    (below : low.toNat < 2 ^ shift.toNat) (fits : 2 ^ shift.toNat * high.toNat < UInt32.size) :
    (low ||| high <<< shift).toNat = low.toNat + 2 ^ shift.toNat * high.toNat := by
  have hshifted : (high <<< shift).toNat = high.toNat <<< shift.toNat := by
    rw [UInt32.toNat_shiftLeft, Nat.mod_eq_of_lt inside, Nat.shiftLeft_eq, Nat.mul_comm]
    exact Nat.mod_eq_of_lt fits
  rw [UInt32.toNat_or, hshifted, or_shiftLeft_eq_add below]

theorem toNat_ofBytes (b₀ b₁ b₂ b₃ : UInt8) :
    (ofBytes b₀ b₁ b₂ b₃).toNat =
      b₀.toNat + 2 ^ 8 * b₁.toNat + 2 ^ 16 * b₂.toNat + 2 ^ 24 * b₃.toNat := by
  have h₀ := b₀.toNat_lt
  have h₁ := b₁.toNat_lt
  have h₂ := b₂.toNat_lt
  have h₃ := b₃.toNat_lt
  have hsize : UInt32.size = 2 ^ 32 := rfl
  have two : (b₀.toUInt32 ||| b₁.toUInt32 <<< 8).toNat = b₀.toNat + 2 ^ 8 * b₁.toNat := by
    apply toNat_or_shiftLeft
    · decide
    · simpa using h₀
    · simp
      omega
  have three : (b₀.toUInt32 ||| b₁.toUInt32 <<< 8 ||| b₂.toUInt32 <<< 16).toNat =
      b₀.toNat + 2 ^ 8 * b₁.toNat + 2 ^ 16 * b₂.toNat := by
    rw [← two]
    apply toNat_or_shiftLeft
    · decide
    · simp [two]
      omega
    · simp
      omega
  rw [← three]
  apply toNat_or_shiftLeft
  · decide
  · simp [three]
    omega
  · simp
    omega

/-! ### Words in a payload -/

theorem ofBytes_toBytes (word : UInt32) :
    ofBytes word.toUInt8 (word >>> 8).toUInt8 (word >>> 16).toUInt8 (word >>> 24).toUInt8 =
      word := by
  have hword := word.toNat_lt
  apply UInt32.toNat_inj.1
  rw [toNat_ofBytes]
  simp [Nat.shiftRight_eq_div_pow]
  omega

theorem toBytes_ofBytes (b₀ b₁ b₂ b₃ : UInt8) : toBytes (ofBytes b₀ b₁ b₂ b₃) = [b₀, b₁, b₂, b₃] := by
  have h₀ := b₀.toNat_lt
  have h₁ := b₁.toNat_lt
  have h₂ := b₂.toNat_lt
  have h₃ := b₃.toNat_lt
  simp only [toBytes, List.cons.injEq, and_true, ← UInt8.toNat_inj, UInt32.toNat_toUInt8,
    UInt32.toNat_shiftRight, toNat_ofBytes, UInt32.reduceToNat, Nat.reduceMod,
    Nat.shiftRight_eq_div_pow]
  omega

/-- Bytes that are as many as those of some words are the bytes of some words. -/
theorem exists_words {payload : Bytes} {count : Nat} (h : payload.length = size * count) :
    ∃ words : List UInt32, words.length = count ∧ payload = words.flatMap toBytes := by
  induction count generalizing payload with
  | zero =>
    rw [Nat.mul_zero, List.length_eq_zero_iff] at h
    exact ⟨[], rfl, h⟩
  | succ count ih =>
    match payload with
    | b₀ :: b₁ :: b₂ :: b₃ :: rest =>
      have hrest : rest.length = size * count := by
        simp only [List.length_cons, size] at h ⊢
        omega
      obtain ⟨words, hcount, hwords⟩ := ih hrest
      refine ⟨ofBytes b₀ b₁ b₂ b₃ :: words, congrArg (· + 1) hcount, ?_⟩
      rw [List.flatMap_cons, toBytes_ofBytes, ← hwords]
      rfl
    | [] | [_] | [_, _] | [_, _, _] =>
      simp only [List.length_cons, List.length_nil, size] at h
      omega

theorem read?_toBytes (word : UInt32) (rest : Bytes) :
    read? (toBytes word ++ rest) 0 = some word :=
  congrArg some (ofBytes_toBytes word)

/-- Behind as many words, the reading goes on. -/
theorem read?_append_add (h : front.length = size * count) :
    read? (front ++ rest) (count + index) = read? rest index := by
  have hdrop : (front ++ rest).drop (size * (count + index)) = rest.drop (size * index) := by
    rw [Nat.mul_add, ← h, List.drop_append]
    simp
  rw [read?, read?, hdrop]

theorem read?_nil (index : Nat) : read? [] index = none := by
  simp [read?]

/-- The words of a payload are read as they were written. -/
theorem read?_flatMap_toBytes (words : List UInt32) (index : Nat) :
    read? (words.flatMap toBytes) index = words[index]? := by
  induction words generalizing index with
  | nil => exact read?_nil index
  | cons word rest ih =>
    rw [List.flatMap_cons]
    cases index with
    | zero => exact read?_toBytes word _
    | succ index =>
      rw [Nat.add_comm, read?_append_add (length_toBytes word), ih, Nat.add_comm]
      rfl

theorem toNat_join (low high : UInt32) :
    (join low high).toNat = low.toNat + 2 ^ 32 * high.toNat := by
  have hlow := low.toNat_lt
  have hhigh := high.toNat_lt
  have hfits : high.toNat <<< 32 % 2 ^ 64 = high.toNat <<< 32 := by
    rw [Nat.shiftLeft_eq]
    omega
  simp only [join, UInt64.toNat_or, UInt64.toNat_shiftLeft, UInt32.toNat_toUInt64,
    UInt64.reduceToNat, Nat.reduceMod]
  rw [hfits, Nat.or_comm, or_shiftLeft_eq_add hlow]

/-- Two words are those of the 64-bit value that they make. -/
theorem split_join (low high : UInt32) : split (join low high) = (low, high) := by
  have hlow := low.toNat_lt
  have hhigh := high.toNat_lt
  have hjoin := toNat_join low high
  have hsplitLow : (split (join low high)).1 = low := by
    apply UInt32.toNat_inj.1
    simp only [split, UInt64.toNat_toUInt32]
    omega
  have hsplitHigh : (split (join low high)).2 = high := by
    apply UInt32.toNat_inj.1
    simp only [split, UInt64.toNat_toUInt32, UInt64.toNat_shiftRight, UInt64.reduceToNat,
      Nat.reduceMod, Nat.shiftRight_eq_div_pow]
    omega
  exact Prod.ext hsplitLow hsplitHigh

/-- The two words of a 64-bit value give it back. -/
theorem join_split (value : UInt64) : join (split value).1 (split value).2 = value := by
  have hvalue := value.toNat_lt
  apply UInt64.toNat_inj.1
  rw [toNat_join]
  simp only [split, UInt64.toNat_toUInt32, UInt64.toNat_shiftRight, UInt64.reduceToNat,
    Nat.reduceMod, Nat.shiftRight_eq_div_pow]
  omega

end ClockManager.Word
