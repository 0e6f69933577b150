import ClockManager.Work
/-!
# Settlement

How a request in flight ends: a state that the hardware has applied is committed, the slot is freed,
and the owner of the slot is answered, once and in this order.
-/

namespace ClockManager

def SlotOwner.context (owner : SlotOwner) (device : DeviceId) : PolicyContext :=
  ⟨owner.agent, owner.clock, device⟩

open Dialogue (call log)

def Slot.commit (slot : Slot) (device : DeviceId) : Dialogue Unit :=
  match slot.target? with
  | none => log (.targetLost device)
  | some state => do
    let review ← call (.reviewState .post (slot.owner.context device) state)
    match review.verdict with
    | .ok _ => return ()
    | .error error => log (.commitFailed device error)

namespace Topology

variable (topology : Topology)

/-- The frame that tells the owner of a slot how its request ended. -/
def resultFrame (device : DeviceId) (slot : Slot) (result : Except HardwareError Value) :
    Dialogue Frame :=
  match result with
  | .error error => do
    log (.failed device slot.kind error)
    return .status (.ofHardware error)
  | .ok value =>
    if value.fits slot.kind then
      match value with
      | .state s => return .clockAttributes s ((topology.deviceName? device).getD "")
      | .rate r => return .rate r
      | .applied => do
        if slot.kind = .setState then slot.commit device
        return .status .success
    else do
      log (.mismatched device slot.kind value)
      return .status .genericError

/-- Answers the owner of a slot and frees the slot. -/
def finish (tracker : Tracker) (device : DeviceId) (slot : Slot)
    (result : Except HardwareError Value) : Dialogue (Except TransportError Unit × Tracker) := do
  let frame ← topology.resultFrame device slot result
  let (released?, tracker) := tracker.release device
  if released?.isSome then log (.released device)
  return (← call (.respond slot.owner.service (.bytes frame.bytes)), tracker)

def execute (tracker : Tracker) (item : WorkItem) :
    Dialogue (Except TransportError WorkOutcome × Tracker) :=
  match tracker.slot? item.device with
  | none => do
    log (.idleItem item.device)
    return (.ok .completed, tracker)
  | some slot => do
    match ← item.work.perform item.device with
    | some result =>
      let (sent, tracker) ← topology.finish tracker item.device slot result
      return (sent.map fun () => .completed, tracker)
    | none =>
      log (.pending item.device slot.kind)
      return (.ok .pending, tracker)

end Topology
end ClockManager
