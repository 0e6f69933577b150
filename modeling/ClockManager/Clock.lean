import ClockManager.Identity
/-!
# Clocks and the hardware that drives them

What a physical clock is asked for, what it answers at once or later, and how it can fail. A call
that answers `pending` is finished by a `Completion`, which names nothing but the device.
-/

namespace ClockManager

inductive ClockState where
  | stopped
  | running
  deriving DecidableEq

/-- How the hardware rounds a rate that it cannot reach exactly. -/
inductive Rounding where
  | nearest
  | up
  | down
  deriving DecidableEq

/-- The rates a clock supports: a numbered list, or every step from `min` to `max`. -/
inductive RateRange where
  | discrete (count : UInt32)
  | linear (min max step : UInt64)
  deriving DecidableEq

inductive HardwareError where
  | unsupported
  | outOfRange
  | invalidParam
  | busy
  | hardware
  deriving DecidableEq

/-- The answer of a call that may finish later. -/
inductive Outcome (α : Type) where
  | done (value : α)
  | pending
  deriving DecidableEq

/-- What a finished call reports; `applied` ends both kinds of change. -/
inductive Value where
  | state (state : ClockState)
  | rate (rate : UInt64)
  | applied
  deriving DecidableEq

/-- The notice that a pending call on a device has finished. -/
structure Completion where
  device : DeviceId
  result : Except HardwareError Value

def ClockState.label : ClockState → String
  | .stopped => "Stopped"
  | .running => "Running"

def ClockState.flip : ClockState → ClockState
  | .stopped => .running
  | .running => .stopped

def Rounding.label : Rounding → String
  | .nearest => "Nearest"
  | .up => "Up"
  | .down => "Down"

def Value.label : Value → String
  | .state s => s!"State({s.label})"
  | .rate r => s!"Rate({r})"
  | .applied => "Applied"

def HardwareError.message : HardwareError → String
  | .unsupported => "operation not supported by the clock"
  | .outOfRange => "value out of range"
  | .invalidParam => "invalid parameter"
  | .busy => "clock busy"
  | .hardware => "hardware failure"

end ClockManager
