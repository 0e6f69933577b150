import ClockManager.Message
import ClockManager.Status
import ClockManager.Word.Writer
/-!
# Reply frames

The replies of fixed shape. Each is written by a bounded writer into a buffer that holds the longest
of them: a status word, one attribute word and a clock name.
-/

namespace ClockManager

/-- Bytes of a clock name on the wire, its closing zero included. -/
def nameSize : Nat := 16

inductive Frame where
  | status (status : Status)
  | protocolVersion
  | protocolAttributes (maxPending : UInt8) (clockCount : Nat)
  | messageAttributes (attributes : UInt32)
  | clockAttributes (state : ClockState) (name : String)
  | rate (rate : UInt64)
  deriving DecidableEq

namespace Frame

def capacity : Nat := 2 * Word.size + nameSize

/-- The pending limit in bits 23:16 and the clock count, cut to 16 bits, in bits 15:0. -/
def protocolAttributesWord (maxPending : UInt8) (clockCount : Nat) : UInt32 :=
  maxPending.toUInt32 <<< 16 ||| (UInt32.ofNat clockCount &&& 0xFFFF)

/-- A name cut to leave room for one zero byte, and filled up with zeros. -/
def nameField (name : String) : Bytes :=
  let kept := name.toUTF8.data.toList.take (nameSize - 1)
  kept ++ List.replicate (nameSize - kept.length) 0

def fill (w : Word.Writer) : Frame → Word.Writer
  | .status s => w.put s.toWord
  | .protocolVersion => (w.put Status.success.toWord).put ClockManager.protocolVersion
  | .protocolAttributes maxPending clockCount =>
    (w.put Status.success.toWord).put (protocolAttributesWord maxPending clockCount)
  | .messageAttributes attributes => (w.put Status.success.toWord).put attributes
  | .clockAttributes state name =>
    ((w.put Status.success.toWord).put (if state = .running then 1 else 0)).putBytes
      (nameField name)
  | .rate r => (w.put Status.success.toWord).putPair r

/-- The writer after a frame has been written to a cleared buffer. -/
def writer (frame : Frame) : Word.Writer := fill (.ofBuffer (List.replicate capacity 0)) frame

def bytes (frame : Frame) : Bytes := frame.writer.written

end Frame
end ClockManager
