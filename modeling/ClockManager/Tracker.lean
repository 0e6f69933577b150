import ClockManager.Clock
/-!
# Requests in flight

One slot per device. A slot that is taken is only emptied by `release`; a failed `acquire` changes
nothing.
-/

namespace ClockManager

/-- What a request in flight waits for. -/
inductive RequestKind where
  | getState
  | getRate
  | setRate
  | setState
  deriving DecidableEq

def RequestKind.label : RequestKind → String
  | getState => "GetState"
  | getRate => "GetRate"
  | setRate => "SetRate"
  | setState => "SetState"

/-- Who is to be answered: the channel, its agent, and the clock as that agent numbers it. -/
structure SlotOwner where
  service : ServiceId
  agent : AgentId
  clock : UInt32
  deriving DecidableEq

structure Slot where
  owner : SlotOwner
  kind : RequestKind
  target? : Option ClockState
  deriving DecidableEq

inductive TrackerError where
  | busy (device : DeviceId)
  | unknownDevice (device : DeviceId)
  deriving DecidableEq

def TrackerError.message : TrackerError → String
  | busy device => s!"device {device.label} has a request in flight"
  | unknownDevice device => s!"device {device.label} is not tracked"

structure Tracker where
  slots : List (Option Slot)
  deriving DecidableEq

namespace Tracker

/-- A tracker with `deviceCount` empty slots. -/
def empty (deviceCount : Nat) : Tracker := ⟨List.replicate deviceCount none⟩

def slot? (tracker : Tracker) (device : DeviceId) : Option Slot :=
  tracker.slots[device.index]?.join

def owner? (tracker : Tracker) (device : DeviceId) : Option SlotOwner :=
  (tracker.slot? device).map Slot.owner

/-- A device outside the tracker is never available. -/
def available (tracker : Tracker) (device : DeviceId) : Bool :=
  tracker.slots[device.index]? = some none

def acquire (tracker : Tracker) (device : DeviceId) (slot : Slot) : Except TrackerError Tracker :=
  match tracker.slots[device.index]? with
  | none => .error (.unknownDevice device)
  | some (some _) => .error (.busy device)
  | some none => .ok ⟨tracker.slots.set device.index (some slot)⟩

/-- What the slot held, and the tracker with the slot emptied. -/
def release (tracker : Tracker) (device : DeviceId) : Option Slot × Tracker :=
  (tracker.slot? device, ⟨tracker.slots.set device.index none⟩)

end Tracker
end ClockManager
