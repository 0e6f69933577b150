import ClockManager.Clock
import ClockManager.Status
import ClockManager.Word
/-!
# Pages of a rate description

A list of rates is described page by page: each page says how many rates it holds and how many
remain after it. A linear range is one page of three entries. A page that cannot state what remains
in 16 bits is refused and never cut.
-/

namespace ClockManager

inductive DescribeError where
  | outOfRange (index count : UInt32)
  | insufficientSize
  | remainingOverflow (remaining : UInt32)
  | hardware (error : HardwareError)
  deriving DecidableEq

def DescribeError.message : DescribeError → String
  | outOfRange index count => s!"rate index {index} out of range ({count} rates)"
  | insufficientSize => "payload too small for the rate description"
  | remainingOverflow remaining =>
    s!"{remaining} rates after this page do not fit the 16-bit remaining field"
  | hardware error => s!"hal: {error.message}"

inductive RateFormat where
  | list
  | range
  deriving DecidableEq

def RateFormat.toWord : RateFormat → UInt32
  | list => 0
  | range => 1

structure RatePage where
  format : RateFormat
  rates : List UInt64
  remaining : UInt32
  deriving DecidableEq

namespace RatePage

/-- Bytes in front of the entries: the status word and the word of counts. -/
def headerSize : Nat := 2 * Word.size

/-- Bytes of one rate. -/
def entrySize : Nat := 2 * Word.size

/-- Entries that describe a linear range. -/
def tripletLength : Nat := 3

/-- The most entries a page can count in its 12 bits. -/
def countLimit : Nat := 0xFFF

def remainingLimit : UInt32 := 0xFFFF

/-- The count a page states: its entries, or one for a range. -/
def returned (page : RatePage) : UInt32 :=
  match page.format with
  | .list => UInt32.ofNat page.rates.length
  | .range => 1

/-- The rates that remain in bits 31:16, the format in bits 15:12, the count in bits 11:0. -/
def countsWord (page : RatePage) : UInt32 :=
  page.remaining <<< 16 ||| page.format.toWord <<< 12 ||| (page.returned &&& 0xFFF)

def entriesSize (page : RatePage) : Nat := page.rates.length * entrySize

def header (page : RatePage) : Bytes :=
  Word.toBytes Status.success.toWord ++ Word.toBytes page.countsWord

def entries (page : RatePage) : Bytes := page.rates.flatMap Word.pairBytes

/-- Entries that fit behind the header of a reply of `maxPayload` bytes. -/
def capacity (maxPayload : Nat) : Nat := (maxPayload - headerSize) / entrySize

/-- The `count` indices from `start` on. -/
def window (start : UInt32) (count : Nat) : List UInt32 :=
  (List.range count).map fun i => start + UInt32.ofNat i

section Describe

variable {m : Type → Type} [Monad m]

/-- Asks for the rates at `indices` in order and stops at the first that fails. -/
def readRates (rateAt : UInt32 → m (Except HardwareError UInt64)) :
    List UInt32 → m (Except HardwareError (List UInt64))
  | [] => pure (.ok [])
  | index :: rest => do
    match ← rateAt index with
    | .error error => pure (.error error)
    | .ok rate =>
      match ← readRates rateAt rest with
      | .error error => pure (.error error)
      | .ok rates => pure (.ok (rate :: rates))

/-- The page of `range` from `start` on that fits `capacity` entries. Rates are asked for only once
the page is known to be well formed. -/
def describe (range : RateRange) (start : UInt32) (capacity : Nat)
    (rateAt : UInt32 → m (Except HardwareError UInt64)) : m (Except DescribeError RatePage) :=
  match range with
  | .discrete count =>
    if count ≤ start then pure (.error (.outOfRange start count))
    else if capacity = 0 then pure (.error .insufficientSize)
    else
      let available := count - start
      let returned := min available (UInt32.ofNat (min capacity countLimit))
      let remaining := available - returned
      if remainingLimit < remaining then pure (.error (.remainingOverflow remaining))
      else do
        match ← readRates rateAt (window start returned.toNat) with
        | .error error => pure (.error (.hardware error))
        | .ok rates => pure (.ok ⟨.list, rates, remaining⟩)
  | .linear min max step =>
    if capacity < tripletLength then pure (.error .insufficientSize)
    else pure (.ok ⟨.range, [min, max, step], 0⟩)

end Describe
end RatePage
end ClockManager
