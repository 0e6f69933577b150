import ClockManager.Identity
import ClockManager.Word
/-!
# What a transport takes and how it fails

A reply is handed over either as its bytes or as the length of what has been staged before.
-/

namespace ClockManager

inductive TransportError where
  | unknownService (service : ServiceId)
  | outOfBounds (offset length : Nat)
  | noMessage (service : ServiceId)
  deriving DecidableEq

def TransportError.message : TransportError → String
  | unknownService service => s!"unknown service {service.label}"
  | outOfBounds offset length => s!"payload write out of bounds (offset {offset}, len {length})"
  | noMessage service => s!"no message in flight on service {service.label}"

inductive Reply where
  | bytes (payload : Bytes)
  | staged (length : Nat)
  deriving DecidableEq

/-- The outgoing payload of a channel while it is being staged. -/
abbrev Staging := Bytes

/-- Copies `bytes` to `offset`; a gap before it, or a missing end, is filled with zeros first. -/
def Staging.write (staging : Staging) (offset : Nat) (bytes : Bytes) : Staging :=
  let extended := staging ++ List.replicate (offset + bytes.length - staging.length) 0
  extended.take offset ++ bytes ++ extended.drop (offset + bytes.length)

end ClockManager
