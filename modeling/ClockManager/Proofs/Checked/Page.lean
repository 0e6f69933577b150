import ClockManager.Proofs.Checked
import ClockManager.Proofs.Page
/-!
# Pages without faults

The window of a page is worked out in 32-bit words: two differences, and the sum at which it ends.
No operand makes one of them wrap around, because a page starts before the rates end and holds no
more of them than are left. A page that has been described is short, so its sizes do not overflow
either.
-/

namespace ClockManager.RatePage

open Checked (sizeLimit)

variable {start count : UInt32} {page : RatePage}

/-- The indices from `start` on, up to `stop` and without it. -/
def span (start stop : UInt32) : List UInt32 :=
  (List.range' start.toNat (stop.toNat - start.toNat)).map UInt32.ofNat

def describeChecked (range : RateRange) (start : UInt32) (capacity : Nat)
    (rateAt : UInt32 → Dialogue (Except HardwareError UInt64)) :
    Guarded (Except DescribeError RatePage) :=
  match range with
  | .discrete count =>
    if count ≤ start then return .error (.outOfRange start count)
    else if capacity = 0 then return .error .insufficientSize
    else do
      let available ← Checked.subWord count start
      let returned := min available (UInt32.ofNat (min capacity countLimit))
      let remaining ← Checked.subWord available returned
      if remainingLimit < remaining then return .error (.remainingOverflow remaining)
      else do
        let stop ← Checked.addWord start returned
        match ← (readRates rateAt (span start stop) : Dialogue _) with
        | .error error => return .error (.hardware error)
        | .ok rates => return .ok ⟨.list, rates, remaining⟩
  | .linear min max step =>
    if capacity < tripletLength then return .error .insufficientSize
    else return .ok ⟨.range, [min, max, step], 0⟩

def entriesSizeChecked (page : RatePage) : Checked Nat :=
  Checked.mul page.rates.length entrySize

/-- The two words of the header are copied into eight bytes of zeros. -/
def headerChecked (page : RatePage) : Checked Bytes := do
  let header ← Checked.copy (List.replicate headerSize 0) 0 Word.size
    (Word.toBytes Status.success.toWord)
  Checked.copy header Word.size header.length (Word.toBytes page.countsWord)

/-- An end that does not wrap around bounds the window. -/
theorem span_add (h : start.toNat + count.toNat < UInt32.size) :
    span start (start + count) = window start count.toNat := by
  have hstop : (start + count).toNat = start.toNat + count.toNat := by
    rw [UInt32.toNat_add]
    exact Nat.mod_eq_of_lt h
  rw [span, window, hstop, Nat.add_sub_cancel_left, List.range'_eq_map_range, List.map_map]
  refine List.map_congr_left fun i _ => ?_
  rw [Function.comp_apply, UInt32.ofNat_add, UInt32.ofNat_toNat]

theorem describeChecked_eq (range : RateRange) (start : UInt32) (capacity : Nat)
    (rateAt : UInt32 → Dialogue (Except HardwareError UInt64)) :
    describeChecked range start capacity rateAt =
      liftM (describe range start capacity rateAt) := by
  cases range with
  | discrete count =>
    dsimp only [describeChecked, describe]
    by_cases hrange : count ≤ start
    · rw [if_pos hrange, if_pos hrange]
      rfl
    rw [if_neg hrange, if_neg hrange]
    by_cases hroom : capacity = 0
    · rw [if_pos hroom, if_pos hroom]
      rfl
    rw [if_neg hroom, if_neg hroom]
    have hstart : start ≤ count := UInt32.le_of_lt (UInt32.not_le.1 hrange)
    rw [Checked.subWord_of_le hstart, Guarded.ok_bind]
    set returned := min (count - start) (UInt32.ofNat (min capacity countLimit)) with hreturned
    have hwithin : returned ≤ count - start := by
      rw [hreturned, UInt32.le_iff_toNat_le, UInt32.toNat_min]
      exact Nat.min_le_left ..
    rw [Checked.subWord_of_le hwithin, Guarded.ok_bind]
    by_cases hremaining : remainingLimit < count - start - returned
    · rw [if_pos hremaining, if_pos hremaining]
      rfl
    rw [if_neg hremaining, if_neg hremaining]
    -- The window ends where the rates end, or before.
    have hend : start.toNat + returned.toNat < UInt32.size := by
      have hle := UInt32.le_iff_toNat_le.1 hwithin
      rw [UInt32.toNat_sub_of_le _ _ hstart] at hle
      have hcount := count.toNat_lt
      have hstart := UInt32.le_iff_toNat_le.1 hstart
      show _ < 2 ^ 32
      omega
    rw [Checked.addWord_of_lt hend, Guarded.ok_bind, span_add hend]
    refine Guarded.lift_bind fun rates => ?_
    cases rates <;> rfl
  | linear min max step =>
    dsimp only [describeChecked, describe]
    split <;> rfl

theorem headerChecked_eq (page : RatePage) : page.headerChecked = .ok page.header := rfl

theorem Fits.length_le_countLimit {capacity : Nat} (h : page.Fits capacity) :
    page.rates.length ≤ countLimit := by
  cases hformat : page.format with
  | list => exact h.counted hformat
  | range =>
    rw [h.triplet hformat]
    decide

theorem Fits.entriesSize_lt {capacity : Nat} (h : page.Fits capacity) :
    headerSize + page.entriesSize < sizeLimit := by
  have hlength := Nat.mul_le_mul_right entrySize h.length_le_countLimit
  have hsmall : headerSize + countLimit * entrySize < sizeLimit := by decide
  unfold entriesSize
  omega

theorem Fits.entriesSizeChecked_eq {capacity : Nat} (h : page.Fits capacity) :
    page.entriesSizeChecked = .ok page.entriesSize :=
  Checked.mul_of_lt (Nat.lt_of_le_of_lt (Nat.le_add_left ..) h.entriesSize_lt)

end ClockManager.RatePage
