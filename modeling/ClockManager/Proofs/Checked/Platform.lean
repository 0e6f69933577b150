import ClockManager.Operation
import ClockManager.Proofs.Checked.Admission
/-!
# Operations of the platform without faults

An operation assesses a message, writes the frame that ends a request, or counts the items of the
queue while it runs them. The count is the only part that depends on the state of the platform: it
does not overflow as long as the queue is shorter than `sizeLimit`.
-/

namespace ClockManager

open Checked (sizeLimit)
open Dialogue (call log)

namespace Topology

variable (topology : Topology)

def finishChecked (tracker : Tracker) (device : DeviceId) (slot : Slot)
    (result : Except HardwareError Value) : Guarded (Except TransportError Unit × Tracker) := do
  let frame ← topology.resultFrame device slot result
  let bytes ← frame.bytesChecked
  let (released?, tracker) := tracker.release device
  if released?.isSome then log (.released device)
  return (← call (.respond slot.owner.service (.bytes bytes)), tracker)

def executeChecked (tracker : Tracker) (item : WorkItem) :
    Guarded (Except TransportError WorkOutcome × Tracker) :=
  match tracker.slot? item.device with
  | none => do
    log (.idleItem item.device)
    return (.ok .completed, tracker)
  | some slot => do
    match ← item.work.perform item.device with
    | some result =>
      let (sent, tracker) ← topology.finishChecked tracker item.device slot result
      return (sent.map fun () => .completed, tracker)
    | none =>
      log (.pending item.device slot.kind)
      return (.ok .pending, tracker)

end Topology

namespace Platform

def enqueueChecked (platform : Platform) (service : ServiceId) (clock : ResolvedClock)
    (work : Work) : Guarded (Except TransportError Unit × Platform) :=
  let device := clock.record.device
  let slot := ⟨⟨service, clock.agent, clock.index⟩, work.kind, work.target?⟩
  match platform.tracker.acquire device slot with
  | .ok tracker => do
    log (.claimed device work.kind service)
    return (.ok (), { platform with tracker, queue := platform.queue ++ [⟨device, work⟩] })
  | .error (.busy _) => do
    let bytes ← (Frame.status .busy).bytesChecked
    return (← call (.respond service (.bytes bytes)), platform)
  | .error error => do
    log (.untracked error)
    let bytes ← (Frame.status .genericError).bytesChecked
    return (← call (.respond service (.bytes bytes)), platform)

def receiveChecked (platform : Platform) (service : ServiceId) (raw : UInt32) (payload : Bytes) :
    Guarded (Except TransportError Unit × Platform) := do
  match ← platform.topology.assessChecked service raw payload with
  | .answer reply => return (← call (.respond service reply), platform)
  | .accept clock work => platform.enqueueChecked service clock work

def runNextChecked (platform : Platform) :
    Guarded (Option (Except TransportError WorkOutcome) × Platform) :=
  match platform.queue with
  | [] => return (none, platform)
  | item :: queue => do
    let (result, tracker) ← platform.topology.executeChecked platform.tracker item
    return (some result, { platform with tracker, queue })

def runItemsChecked (topology : Topology) (tracker : Tracker) (count : Nat) :
    List WorkItem → Guarded (Except TransportError Nat × Platform)
  | [] => return (.ok count, ⟨topology, tracker, []⟩)
  | item :: queue => do
    match ← topology.executeChecked tracker item with
    | (.ok _, tracker) =>
      let count ← Checked.add count 1
      runItemsChecked topology tracker count queue
    | (.error error, tracker) => return (.error error, ⟨topology, tracker, queue⟩)

def runQueueChecked (platform : Platform) : Guarded (Except TransportError Nat × Platform) :=
  runItemsChecked platform.topology platform.tracker 0 platform.queue

def completeChecked (platform : Platform) (completion : Completion) :
    Guarded (Except CompletionError Unit × Platform) :=
  let device := completion.device
  match platform.awaited? device with
  | none => do
    log (.unsolicited device)
    return (.error (.unsolicited device), platform)
  | some slot => do
    let (sent, tracker) ←
      platform.topology.finishChecked platform.tracker device slot completion.result
    let platform := { platform with tracker }
    match sent, completion.result with
    | .error error, _ => return (.error (.transport error), platform)
    | .ok (), .ok value =>
      if value.fits slot.kind then return (.ok (), platform)
      else return (.error (.mismatch device slot.kind), platform)
    | .ok (), .error _ => return (.ok (), platform)

def performChecked (platform : Platform) : Operation → Guarded (OperationResult × Platform)
  | .receive service raw payload => do
    let (result, platform) ← platform.receiveChecked service raw payload
    return (.received result, platform)
  | .runNext => do
    let (result, platform) ← platform.runNextChecked
    return (.ranNext result, platform)
  | .runQueue => do
    let (result, platform) ← platform.runQueueChecked
    return (.ranQueue result, platform)
  | .complete completion => do
    let (result, platform) ← platform.completeChecked completion
    return (.completed result, platform)

end Platform

theorem Topology.finishChecked_eq {topology : Topology} (tracker : Tracker) (device : DeviceId)
    (slot : Slot) (result : Except HardwareError Value) :
    topology.finishChecked tracker device slot result =
      liftM (topology.finish tracker device slot result) := by
  refine Guarded.lift_bind fun frame => ?_
  rw [Frame.bytesChecked_eq, Guarded.ok_bind]
  dsimp only
  cases (tracker.release device).1.isSome with
  | true => exact Guarded.lift_bind fun _ => rfl
  | false => rfl

theorem Topology.executeChecked_eq {topology : Topology} (tracker : Tracker) (item : WorkItem) :
    topology.executeChecked tracker item = liftM (topology.execute tracker item) := by
  unfold executeChecked execute
  cases tracker.slot? item.device with
  | none => rfl
  | some slot =>
    refine Guarded.lift_bind fun settled => ?_
    cases settled with
    | some result => exact Guarded.bind_of_eq (finishChecked_eq ..) fun _ => rfl
    | none => rfl

namespace Platform

variable {platform : Platform}

theorem enqueueChecked_eq (service : ServiceId) (clock : ResolvedClock) (work : Work) :
    platform.enqueueChecked service clock work = liftM (platform.enqueue service clock work) := by
  unfold enqueueChecked enqueue
  dsimp only
  rcases platform.tracker.acquire clock.record.device _ with (_ | _) | tracker
  · rw [Frame.bytesChecked_eq]
    rfl
  · rw [Frame.bytesChecked_eq]
    rfl
  · rfl

theorem receiveChecked_eq (service : ServiceId) (raw : UInt32) (payload : Bytes) :
    platform.receiveChecked service raw payload =
      liftM (platform.receive service raw payload) := by
  refine Guarded.bind_of_eq (Topology.assessChecked_eq raw payload) fun admission => ?_
  cases admission with
  | answer reply => rfl
  | accept clock work => exact enqueueChecked_eq service clock work

theorem runNextChecked_eq : platform.runNextChecked = liftM platform.runNext := by
  unfold runNextChecked runNext
  cases platform.queue with
  | nil => rfl
  | cons item queue => exact Guarded.bind_of_eq (Topology.executeChecked_eq ..) fun _ => rfl

/-- The count goes no further than there are items. -/
theorem runItemsChecked_eq {topology : Topology} {items : List WorkItem} {tracker : Tracker}
    {count : Nat} (h : count + items.length < sizeLimit) :
    runItemsChecked topology tracker count items =
      liftM (runItems topology tracker count items) := by
  induction items generalizing tracker count with
  | nil => rfl
  | cons item queue ih =>
    rw [List.length_cons] at h
    refine Guarded.bind_of_eq (Topology.executeChecked_eq ..) ?_
    rintro ⟨_ | _, tracker⟩
    · rfl
    · dsimp only
      rw [Checked.add_of_lt (by omega), Guarded.ok_bind]
      exact ih (by omega)

theorem completeChecked_eq (completion : Completion) :
    platform.completeChecked completion = liftM (platform.complete completion) := by
  unfold completeChecked complete
  dsimp only
  cases platform.awaited? completion.device with
  | none => rfl
  | some slot =>
    refine Guarded.bind_of_eq (Topology.finishChecked_eq ..) ?_
    rintro ⟨_ | _, tracker⟩
    · rfl
    · dsimp only
      cases completion.result with
      | error error => rfl
      | ok value =>
        dsimp only
        split <;> rfl

/-- No operation faults on a platform whose queue can be counted, and each is the same dialogue as
without the checks. -/
theorem performChecked_eq (h : platform.queue.length < sizeLimit) (operation : Operation) :
    platform.performChecked operation = liftM (platform.perform operation) := by
  cases operation with
  | receive service raw payload =>
    exact Guarded.bind_of_eq (receiveChecked_eq service raw payload) fun _ => rfl
  | runNext => exact Guarded.bind_of_eq runNextChecked_eq fun _ => rfl
  | runQueue =>
    exact Guarded.bind_of_eq (runItemsChecked_eq (by rwa [Nat.zero_add])) fun _ => rfl
  | complete completion => exact Guarded.bind_of_eq (completeChecked_eq completion) fun _ => rfl

end Platform
end ClockManager
