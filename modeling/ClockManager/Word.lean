/-!
# Payload words

A payload is a sequence of bytes read as 32-bit little-endian words. A 64-bit quantity travels as
two words, the low one first.
-/

namespace ClockManager

abbrev Bytes := List UInt8

namespace Word

/-- Bytes in one word. -/
def size : Nat := 4

def toBytes (word : UInt32) : Bytes :=
  [word.toUInt8, (word >>> 8).toUInt8, (word >>> 16).toUInt8, (word >>> 24).toUInt8]

def ofBytes (b₀ b₁ b₂ b₃ : UInt8) : UInt32 :=
  b₀.toUInt32 ||| b₁.toUInt32 <<< 8 ||| b₂.toUInt32 <<< 16 ||| b₃.toUInt32 <<< 24

/-- Word number `index` of a payload, when the payload reaches that far. -/
def read? (payload : Bytes) (index : Nat) : Option UInt32 :=
  match payload.drop (size * index) with
  | b₀ :: b₁ :: b₂ :: b₃ :: _ => some (ofBytes b₀ b₁ b₂ b₃)
  | _ => none

/-- The low and the high word of a 64-bit value. -/
def split (value : UInt64) : UInt32 × UInt32 :=
  (value.toUInt32, (value >>> 32).toUInt32)

def join (low high : UInt32) : UInt64 :=
  high.toUInt64 <<< 32 ||| low.toUInt64

/-- The eight bytes of a 64-bit value, low word first. -/
def pairBytes (value : UInt64) : Bytes :=
  toBytes (split value).1 ++ toBytes (split value).2

@[simp] theorem length_toBytes (word : UInt32) : (toBytes word).length = size := rfl

@[simp] theorem length_pairBytes (value : UInt64) : (pairBytes value).length = 2 * size := rfl

end Word
end ClockManager
