import ClockManager.Clock
/-!
# Flag words of the two setting requests

A word with any unknown bit is refused, so a flag that is added later is never silently ignored.
-/

namespace ClockManager

/-- What the flag word of a rate request asks for. -/
structure RateFlags where
  async : Bool
  rounding : Rounding
  deriving DecidableEq

namespace RateFlags

def asyncBit : UInt32 := 1

def roundUpBit : UInt32 := 4

def roundAutoBit : UInt32 := 8

/-- Rounding to the nearest rate wins over rounding up; neither bit means rounding down. -/
def ofBits? (bits : UInt32) : Option RateFlags :=
  if bits &&& ~~~(asyncBit ||| roundUpBit ||| roundAutoBit) = 0 then
    some
      { async := bits &&& asyncBit != 0
        rounding :=
          if bits &&& roundAutoBit != 0 then .nearest
          else if bits &&& roundUpBit != 0 then .up
          else .down }
  else
    none

end RateFlags

namespace ConfigAttributes

def enableBit : UInt32 := 1

/-- The state that the attribute word of a configuration request asks for. -/
def ofBits? (bits : UInt32) : Option ClockState :=
  if bits &&& ~~~enableBit = 0 then
    some (if bits &&& enableBit != 0 then .running else .stopped)
  else
    none

end ConfigAttributes
end ClockManager
