import ClockManager.Admission
import ClockManager.Settlement
/-!
# The platform

The platform answers the agents. A request about a clock is accepted in two steps: `receive` checks
it, claims the slot of the device and queues the work; `runNext` gives the oldest work to the
hardware. Hardware that answers later keeps the slot claimed until `complete` brings its result. So a
device has one request in flight at most, and every message is answered once.
-/

namespace ClockManager

structure Platform where
  topology : Topology
  tracker : Tracker
  queue : List WorkItem

inductive CompletionError where
  | unsolicited (device : DeviceId)
  | mismatch (device : DeviceId) (kind : RequestKind)
  | transport (error : TransportError)
  deriving DecidableEq

def CompletionError.message : CompletionError → String
  | unsolicited device => s!"completion for device {device.label} without a request in flight"
  | mismatch device kind =>
    s!"completion for device {device.label} does not match the {kind.label} request in flight"
  | transport error => s!"transport: {error.message}"

open Dialogue (call log)

namespace Platform

def start (topology : Topology) : Platform :=
  { topology, tracker := .empty topology.deviceCount, queue := [] }

/-- Claims the slot of a clock's device and queues the work, or says that the device is busy. -/
def enqueue (platform : Platform) (service : ServiceId) (clock : ResolvedClock) (work : Work) :
    Dialogue (Except TransportError Unit × Platform) :=
  let device := clock.record.device
  let slot := ⟨⟨service, clock.agent, clock.index⟩, work.kind, work.target?⟩
  match platform.tracker.acquire device slot with
  | .ok tracker => do
    log (.claimed device work.kind service)
    return (.ok (), { platform with tracker, queue := platform.queue ++ [⟨device, work⟩] })
  | .error (.busy _) =>
    return (← call (.respond service (.bytes (Frame.status .busy).bytes)), platform)
  | .error error => do
    log (.untracked error)
    return (← call (.respond service (.bytes (Frame.status .genericError).bytes)), platform)

def receive (platform : Platform) (service : ServiceId) (raw : UInt32) (payload : Bytes) :
    Dialogue (Except TransportError Unit × Platform) := do
  match ← platform.topology.assess service raw payload with
  | .answer reply => return (← call (.respond service reply), platform)
  | .accept clock work => platform.enqueue service clock work

/-- Gives the oldest work to the hardware; there is none when the queue is empty. -/
def runNext (platform : Platform) :
    Dialogue (Option (Except TransportError WorkOutcome) × Platform) :=
  match platform.queue with
  | [] => return (none, platform)
  | item :: queue => do
    let (result, tracker) ← platform.topology.execute platform.tracker item
    return (some result, { platform with tracker, queue })

/-- Runs `items` in order, counting them, until one cannot be answered. -/
def runItems (topology : Topology) (tracker : Tracker) (count : Nat) :
    List WorkItem → Dialogue (Except TransportError Nat × Platform)
  | [] => return (.ok count, ⟨topology, tracker, []⟩)
  | item :: queue => do
    match ← topology.execute tracker item with
    | (.ok _, tracker) => runItems topology tracker (count + 1) queue
    | (.error error, tracker) => return (.error error, ⟨topology, tracker, queue⟩)

/-- Runs all queued work and returns how much there was. An item whose answer cannot be sent ends the
run; it is finished itself, and those behind it stay queued. -/
def runQueue (platform : Platform) : Dialogue (Except TransportError Nat × Platform) :=
  runItems platform.topology platform.tracker 0 platform.queue

/-- The slot that a completion for `device` would finish: one whose work is no longer queued. -/
def awaited? (platform : Platform) (device : DeviceId) : Option Slot :=
  if platform.queue.any (·.device = device) then none else platform.tracker.slot? device

/-- Takes the result of work that the hardware left pending. -/
def complete (platform : Platform) (completion : Completion) :
    Dialogue (Except CompletionError Unit × Platform) :=
  let device := completion.device
  match platform.awaited? device with
  | none => do
    log (.unsolicited device)
    return (.error (.unsolicited device), platform)
  | some slot => do
    let (sent, tracker) ←
      platform.topology.finish platform.tracker device slot completion.result
    let platform := { platform with tracker }
    match sent, completion.result with
    | .error error, _ => return (.error (.transport error), platform)
    | .ok (), .ok value =>
      if value.fits slot.kind then return (.ok (), platform)
      else return (.error (.mismatch device slot.kind), platform)
    | .ok (), .error _ => return (.ok (), platform)

def isBusy (platform : Platform) (device : DeviceId) : Bool :=
  (platform.tracker.slot? device).isSome

end Platform
end ClockManager
