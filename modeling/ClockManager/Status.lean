import ClockManager.Clock
/-!
# Status words

Every reply starts with a status word: zero for success, and otherwise the two's complement of a
small negative code.
-/

namespace ClockManager

inductive Status where
  | success
  | notSupported
  | invalidParameters
  | denied
  | notFound
  | outOfRange
  | busy
  | commsError
  | genericError
  | hardwareError
  | protocolError
  deriving DecidableEq

namespace Status

def all : List Status :=
  [success, notSupported, invalidParameters, denied, notFound, outOfRange, busy, commsError,
    genericError, hardwareError, protocolError]

/-- The code without its sign. -/
def code : Status → UInt32
  | success => 0
  | notSupported => 1
  | invalidParameters => 2
  | denied => 3
  | notFound => 4
  | outOfRange => 5
  | busy => 6
  | commsError => 7
  | genericError => 8
  | hardwareError => 9
  | protocolError => 10

def toWord (status : Status) : UInt32 := 0 - status.code

def ofWord? (word : UInt32) : Option Status := all.find? fun status => status.toWord == word

/-- The status that reports a hardware failure. -/
def ofHardware : HardwareError → Status
  | .unsupported => notSupported
  | .outOfRange => invalidParameters
  | .invalidParam => invalidParameters
  | .busy => genericError
  | .hardware => genericError

end Status
end ClockManager
