import ClockManager.Message
import ClockManager.Status
/-!
# Requests

A request is a message with its fields. Flag and attribute words stay raw in it: which bits are
known is decided later, after the sender has been identified. `Request.payload` writes what
`Request.decode` reads.
-/

namespace ClockManager

inductive Request where
  | protocolVersion
  | protocolAttributes
  | protocolMessageAttributes (message : UInt32)
  | clockAttributes (clock : UInt32)
  | describeRates (clock rateIndex : UInt32)
  | rateSet (flags clock : UInt32) (rate : UInt64)
  | rateGet (clock : UInt32)
  | configSet (clock attributes : UInt32)
  deriving DecidableEq

inductive DecodeError where
  | unknownMessage (raw : UInt32)
  | payloadSize (expected actual : Nat)
  deriving DecidableEq

namespace DecodeError

def status : DecodeError → Status
  | unknownMessage _ => .notFound
  | payloadSize _ _ => .protocolError

def label : DecodeError → String
  | unknownMessage raw => s!"UnknownMessage({raw})"
  | payloadSize expected actual => s!"PayloadSize \x7b expected: {expected}, actual: {actual} \x7d"

end DecodeError

namespace Request

def message : Request → Message
  | protocolVersion => .protocolVersion
  | protocolAttributes => .protocolAttributes
  | protocolMessageAttributes _ => .protocolMessageAttributes
  | clockAttributes _ => .clockAttributes
  | describeRates _ _ => .describeRates
  | rateSet _ _ _ => .rateSet
  | rateGet _ => .rateGet
  | configSet _ _ => .configSet

/-- The clock a request is about, as the sender numbers it. -/
def clock? : Request → Option UInt32
  | protocolVersion => none
  | protocolAttributes => none
  | protocolMessageAttributes _ => none
  | clockAttributes clock => some clock
  | describeRates clock _ => some clock
  | rateSet _ clock _ => some clock
  | rateGet clock => some clock
  | configSet clock _ => some clock

/-- The fields as words, in the order they are sent. -/
def words : Request → List UInt32
  | protocolVersion => []
  | protocolAttributes => []
  | protocolMessageAttributes message => [message]
  | clockAttributes clock => [clock]
  | describeRates clock rateIndex => [clock, rateIndex]
  | rateSet flags clock rate => [flags, clock, (Word.split rate).1, (Word.split rate).2]
  | rateGet clock => [clock]
  | configSet clock attributes => [clock, attributes]

def payload (request : Request) : Bytes := request.words.flatMap Word.toBytes

/-- The request that a message makes of the first words of a payload, when there are enough. -/
def ofWords? (word? : Nat → Option UInt32) : Message → Option Request
  | .protocolVersion => some protocolVersion
  | .protocolAttributes => some protocolAttributes
  | .protocolMessageAttributes => return protocolMessageAttributes (← word? 0)
  | .clockAttributes => return clockAttributes (← word? 0)
  | .describeRates => return describeRates (← word? 0) (← word? 1)
  | .rateSet => return rateSet (← word? 0) (← word? 1) (Word.join (← word? 2) (← word? 3))
  | .rateGet => return rateGet (← word? 0)
  | .configSet => return configSet (← word? 0) (← word? 1)

/-- Reads the payload of a known message; its length must be the message's, byte for byte. -/
def decode (message : Message) (payload : Bytes) : Except DecodeError Request :=
  let sizeError := DecodeError.payloadSize message.payloadSize payload.length
  if payload.length = message.payloadSize then
    (ofWords? (Word.read? payload) message).elim (.error sizeError) .ok
  else
    .error sizeError

/-- Reads a payload under a raw message number. -/
def decodeRaw (raw : UInt32) (payload : Bytes) : Except DecodeError Request :=
  match Message.ofRaw? raw with
  | some message => decode message payload
  | none => .error (.unknownMessage raw)

end Request
end ClockManager
