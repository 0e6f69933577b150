import ClockManager.Word
/-!
# Messages of the clock management protocol

Eight messages, numbered from zero. The number fixes the size of the request payload exactly.
-/

namespace ClockManager

/-- The clock management protocol, as permissions name it. -/
def protocolId : UInt8 := 0x14

/-- Version 1.0, the major number in the upper half. -/
def protocolVersion : UInt32 := 0x00010000

inductive Message where
  | protocolVersion
  | protocolAttributes
  | protocolMessageAttributes
  | clockAttributes
  | describeRates
  | rateSet
  | rateGet
  | configSet
  deriving DecidableEq

namespace Message

/-- The messages in the order of their numbers. -/
def all : List Message :=
  [protocolVersion, protocolAttributes, protocolMessageAttributes, clockAttributes, describeRates,
    rateSet, rateGet, configSet]

def raw : Message → UInt32
  | protocolVersion => 0
  | protocolAttributes => 1
  | protocolMessageAttributes => 2
  | clockAttributes => 3
  | describeRates => 4
  | rateSet => 5
  | rateGet => 6
  | configSet => 7

def ofRaw? (raw : UInt32) : Option Message := all[raw.toNat]?

/-- Bytes in the request payload. -/
def payloadSize : Message → Nat
  | protocolVersion => 0
  | protocolAttributes => 0
  | protocolMessageAttributes => Word.size
  | clockAttributes => Word.size
  | describeRates => 2 * Word.size
  | rateSet => 4 * Word.size
  | rateGet => Word.size
  | configSet => 2 * Word.size

def label : Message → String
  | protocolVersion => "ProtocolVersion"
  | protocolAttributes => "ProtocolAttributes"
  | protocolMessageAttributes => "ProtocolMessageAttributes"
  | clockAttributes => "ClockAttributes"
  | describeRates => "DescribeRates"
  | rateSet => "RateSet"
  | rateGet => "RateGet"
  | configSet => "ConfigSet"

theorem ofRaw?_raw (message : Message) : ofRaw? message.raw = some message := by
  cases message <;> rfl

end Message
end ClockManager
