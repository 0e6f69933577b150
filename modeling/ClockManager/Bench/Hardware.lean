import ClockManager.Clock
/-!
# Scripted hardware

Clocks for the bench. A queue of failures is drawn on by each call that reaches a clock; a device can
be told to finish its calls later.
-/

namespace ClockManager.Bench

/-- Where the rates of a numbered list come from. -/
inductive RateSource where
  | table (rates : List UInt64)
  | formula (base step : UInt64)

structure Device where
  state : ClockState
  rate : UInt64
  range : RateRange
  rates : RateSource
  rangeError? : Option HardwareError := none

structure Hardware where
  devices : List Device
  deferred : List DeviceId := []
  /-- What befalls the next calls: a failure, or nothing. -/
  failures : List (Option HardwareError) := []

namespace RateSource

def rateAt (source : RateSource) (index : UInt32) : Except HardwareError UInt64 :=
  match source with
  | table rates => rates[index.toNat]?.elim (.error .outOfRange) .ok
  | formula base step => .ok (base + step * index.toUInt64)

end RateSource

namespace Hardware

def device? (hardware : Hardware) (device : DeviceId) : Option Device :=
  hardware.devices[device.index]?

def setDevice (hardware : Hardware) (index : Nat) (device : Device) : Hardware :=
  { hardware with devices := hardware.devices.set index device }

/-- A call that may change a clock and returns a value of it, at once unless the device defers. -/
def touch {α : Type} (hardware : Hardware) (id : DeviceId) (change : Device → α × Device) :
    Except HardwareError (Outcome α) × Hardware :=
  match hardware.device? id with
  | none => (.error .invalidParam, hardware)
  | some device =>
    let failure? := hardware.failures.head?.join
    let hardware := { hardware with failures := hardware.failures.drop 1 }
    match failure? with
    | some error => (.error error, hardware)
    | none =>
      let (value, device) := change device
      let outcome := if id ∈ hardware.deferred then .pending else .done value
      (.ok outcome, hardware.setDevice id.index device)

def rateRange (hardware : Hardware) (id : DeviceId) : Except HardwareError RateRange :=
  match hardware.device? id with
  | none => .error .invalidParam
  | some device => device.rangeError?.elim (.ok device.range) .error

def rateAt (hardware : Hardware) (id : DeviceId) (index : UInt32) : Except HardwareError UInt64 :=
  match hardware.device? id with
  | none => .error .invalidParam
  | some device => device.rates.rateAt index

end Hardware
end ClockManager.Bench
