/-!
# Identities

Three kinds of number that must not be mixed up: the channel a message arrives on, the agent that
owns the channel, and the physical clock device.
-/

namespace ClockManager

/-- The channel a message arrives on and is answered on. -/
structure ServiceId where
  raw : UInt32
  deriving DecidableEq

/-- A configured agent; its number is its position in the topology. -/
structure AgentId where
  raw : UInt32
  deriving DecidableEq

/-- A physical clock device; its number is its position in the topology. -/
structure DeviceId where
  raw : UInt32
  deriving DecidableEq

def ServiceId.label (id : ServiceId) : String := s!"ServiceId({id.raw})"

def AgentId.label (id : AgentId) : String := s!"AgentId({id.raw})"

def DeviceId.label (id : DeviceId) : String := s!"ClockDeviceId({id.raw})"

def AgentId.index (id : AgentId) : Nat := id.raw.toNat

def DeviceId.index (id : DeviceId) : Nat := id.raw.toNat

end ClockManager
