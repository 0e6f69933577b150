import ClockManager.Proofs.Tracker
import Mathlib.Logic.Function.Basic
/-!
# Slots over many calls

What a slot holds can be told from the calls that were made and their answers, without a look at the
slots. Only two kinds of call change the slot of a device: a claim that succeeded and a release that
gave something back. The last of these decides. All other calls leave the whole tracker as it was.
So, whatever devices the calls are about, a tracker of `n` slots is a partial map from the first `n`
devices to the claims on them.
-/

namespace ClockManager.Tracker

/-! ### Calls and their record -/

/-- A call that is meant to change a slot. -/
inductive Call where
  | acquire (device : DeviceId) (slot : Slot)
  | release (device : DeviceId)

/-- Whether the slot has been claimed, or what was released. -/
def Call.Answer : Call → Type
  | acquire _ _ => Except TrackerError Unit
  | release _ => Option Slot

/-- Answers a call. A claim that fails yields no new tracker, and the old one is used further. -/
def perform (tracker : Tracker) : (call : Call) → call.Answer × Tracker
  | .acquire device slot =>
    match tracker.acquire device slot with
    | .ok after => (.ok (), after)
    | .error error => (.error error, tracker)
  | .release device => tracker.release device

def performAll (tracker : Tracker) (calls : List Call) : Tracker :=
  calls.foldl (fun tracker call => (tracker.perform call).2) tracker

structure Entry where
  call : Call
  answer : call.Answer

/-- The calls with their answers, the oldest first. -/
def record (tracker : Tracker) : List Call → List Entry
  | [] => []
  | call :: calls =>
    ⟨call, (tracker.perform call).1⟩ :: (tracker.perform call).2.record calls

inductive Change where
  | claimed (slot : Slot)
  | emptied
  deriving DecidableEq

def Change.held? : Change → Option Slot
  | claimed slot => some slot
  | emptied => none

/-- The change of a device's slot that the answer tells of: a claim that succeeded or a release that
gave something back. -/
def Entry.change? (device : DeviceId) : Entry → Option Change
  | ⟨.acquire claimed slot, .ok ()⟩ => if device = claimed then some (.claimed slot) else none
  | ⟨.release released, some _⟩ => if device = released then some .emptied else none
  | _ => none

/-- The last change of a device's slot. -/
def lastChange? (device : DeviceId) (entries : List Entry) : Option Change :=
  (entries.filterMap (Entry.change? device)).getLast?

theorem lastChange?_cons (device : DeviceId) (entry : Entry) (entries : List Entry) :
    lastChange? device (entry :: entries) =
      (lastChange? device entries).or (entry.change? device) := by
  unfold lastChange?
  cases hchange : entry.change? device with
  | none => rw [List.filterMap_cons_none hchange, Option.or_none]
  | some change =>
    rw [List.filterMap_cons_some hchange, List.getLast?_cons]
    cases (entries.filterMap (Entry.change? device)).getLast? <;> rfl

/-! ### One call -/

variable {tracker after : Tracker} {device : DeviceId} {slot : Slot} {error : TrackerError}

theorem perform_of_acquire_eq_ok (h : tracker.acquire device slot = .ok after) :
    tracker.perform (.acquire device slot) = (.ok (), after) := by
  simp only [perform, h]

theorem perform_of_acquire_eq_error (h : tracker.acquire device slot = .error error) :
    tracker.perform (.acquire device slot) = (.error error, tracker) := by
  simp only [perform, h]

theorem slot?_perform (tracker : Tracker) (call : Call) (device : DeviceId) :
    (tracker.perform call).2.slot? device =
      ((Entry.mk call (tracker.perform call).1).change? device).elim (tracker.slot? device)
        Change.held? := by
  cases call with
  | acquire claimed slot =>
    cases acquired : tracker.acquire claimed slot with
    | ok after =>
      rw [perform_of_acquire_eq_ok acquired, slot?_of_acquire acquired, Entry.change?]
      split <;> rfl
    | error error =>
      rw [perform_of_acquire_eq_error acquired]
      rfl
  | release released =>
    rw [perform]
    cases held : tracker.slot? released with
    | none =>
      rw [release_of_slot?_eq_none held]
      rfl
    | some slot =>
      rw [slot?_release, release, held, Entry.change?]
      split <;> rfl

theorem length_perform (tracker : Tracker) (call : Call) :
    (tracker.perform call).2.slots.length = tracker.slots.length := by
  cases call with
  | acquire claimed slot =>
    cases acquired : tracker.acquire claimed slot with
    | ok after =>
      rw [perform_of_acquire_eq_ok acquired]
      exact length_of_acquire acquired
    | error error => rw [perform_of_acquire_eq_error acquired]
  | release released => exact length_release

/-! ### Many calls -/

/-- A slot holds what the last change left in it, or what it held at first. -/
theorem slot?_performAll (tracker : Tracker) (calls : List Call) (device : DeviceId) :
    (tracker.performAll calls).slot? device =
      (lastChange? device (tracker.record calls)).elim (tracker.slot? device) Change.held? := by
  -- Where the later calls leave a slot alone, it is as the first call left it.
  induction calls generalizing tracker with
  | nil => rfl
  | cons call calls ih =>
    have hrest := ih (tracker.perform call).2
    rw [slot?_perform] at hrest
    rw [record, lastChange?_cons]
    refine hrest.trans ?_
    cases lastChange? device ((tracker.perform call).2.record calls) <;> rfl

theorem length_performAll (tracker : Tracker) (calls : List Call) :
    (tracker.performAll calls).slots.length = tracker.slots.length := by
  induction calls generalizing tracker with
  | nil => rfl
  | cons call calls ih => exact (ih _).trans (length_perform tracker call)

theorem length_performAll_empty (deviceCount : Nat) (calls : List Call) :
    ((empty deviceCount).performAll calls).slots.length = deviceCount :=
  (length_performAll _ calls).trans (length_empty deviceCount)

theorem slot?_performAll_empty_eq_some_iff {deviceCount : Nat} {calls : List Call} :
    ((empty deviceCount).performAll calls).slot? device = some slot ↔
      lastChange? device ((empty deviceCount).record calls) = some (.claimed slot) := by
  rw [slot?_performAll, slot?_empty]
  rcases lastChange? device ((empty deviceCount).record calls) with _ | ⟨held⟩ | _ <;>
    simp [Change.held?]

/-! ### The law -/

/-- With this record, a tracker is a partial map on the devices below a bound. -/
structure BoundedMap (deviceCount : Nat) (entries : List Entry) (tracker : Tracker) : Prop where
  slot?_iff : ∀ device slot, tracker.slot? device = some slot ↔
    device.index < deviceCount ∧ lastChange? device entries = some (.claimed slot)
  owner?_iff : ∀ device owner, tracker.owner? device = some owner ↔
    ∃ slot, tracker.slot? device = some slot ∧ slot.owner = owner
  available_iff : ∀ device, tracker.available device = true ↔
    device.index < deviceCount ∧ tracker.slot? device = none
  unknownDevice_iff : ∀ device slot,
    tracker.acquire device slot = .error (.unknownDevice device) ↔ deviceCount ≤ device.index
  busy_iff : ∀ device slot,
    tracker.acquire device slot = .error (.busy device) ↔ (tracker.slot? device).isSome
  /-- These two are the only reasons to refuse a claim. -/
  acquired_iff : ∀ device slot,
    (∃ after, tracker.acquire device slot = .ok after) ↔ tracker.available device = true
  refused : ∀ device slot error, tracker.acquire device slot = .error error →
    tracker.perform (.acquire device slot) = (.error error, tracker)
  acquired : ∀ device slot after, tracker.acquire device slot = .ok after →
    after.slot? = Function.update tracker.slot? device (some slot)
  released : ∀ device, (tracker.release device).1 = tracker.slot? device ∧
    (tracker.release device).2.slot? = Function.update tracker.slot? device none
  /-- A release that gives nothing back changes nothing. -/
  unreleased : ∀ device, tracker.slot? device = none → tracker.release device = (none, tracker)

/-- Whatever calls are made on empty slots, they make the tracker a partial map on its devices. -/
theorem slots_follow_calls (deviceCount : Nat) (calls : List Call) :
    BoundedMap deviceCount ((empty deviceCount).record calls)
      ((empty deviceCount).performAll calls) where
  slot?_iff device slot := by
    rw [← slot?_performAll_empty_eq_some_iff]
    refine ⟨fun held => ⟨?_, held⟩, fun h => h.2⟩
    rw [← length_performAll_empty deviceCount calls]
    exact index_lt_of_slot? held
  owner?_iff device owner := Option.map_eq_some_iff
  available_iff device := by rw [available_iff, length_performAll_empty]
  unknownDevice_iff device slot := by
    rw [acquire_eq_unknownDevice_iff, length_performAll_empty]
  busy_iff device slot := acquire_eq_busy_iff
  acquired_iff device slot := exists_acquire_iff
  refused device slot error := perform_of_acquire_eq_error
  acquired device slot after acquired := by
    funext other
    rw [slot?_of_acquire acquired, Function.update_apply]
  released device := by
    refine ⟨rfl, ?_⟩
    funext other
    rw [slot?_release, Function.update_apply]
  unreleased device := release_of_slot?_eq_none

/-- Two claims on one device, a claim on a device that is not tracked, and a release of an idle
one. -/
def contendedCalls : List Call :=
  [.acquire ⟨1⟩ ⟨⟨⟨1⟩, ⟨1⟩, 0⟩, .setState, some .running⟩,
    .acquire ⟨1⟩ ⟨⟨⟨2⟩, ⟨2⟩, 0⟩, .getState, none⟩,
    .acquire ⟨4⟩ ⟨⟨⟨2⟩, ⟨2⟩, 1⟩, .getRate, none⟩, .release ⟨0⟩]

/-- The first claim stands. -/
theorem slots_follow_calls_sample :
    ((empty 2).performAll contendedCalls).slot? ⟨1⟩ =
        some ⟨⟨⟨1⟩, ⟨1⟩, 0⟩, .setState, some .running⟩ ∧
      ((empty 2).performAll contendedCalls).perform
          (.acquire ⟨1⟩ ⟨⟨⟨2⟩, ⟨2⟩, 0⟩, .getState, none⟩) =
        (.error (.busy ⟨1⟩), (empty 2).performAll contendedCalls) ∧
      ((empty 2).performAll contendedCalls).release ⟨4⟩ =
        (none, (empty 2).performAll contendedCalls) := by
  have law := slots_follow_calls 2 contendedCalls
  have held : ((empty 2).performAll contendedCalls).slot? ⟨1⟩ =
      some ⟨⟨⟨1⟩, ⟨1⟩, 0⟩, .setState, some .running⟩ :=
    (law.slot?_iff _ _).2 ⟨by decide, by decide⟩
  have busy := (law.busy_iff ⟨1⟩ ⟨⟨⟨2⟩, ⟨2⟩, 0⟩, .getState, none⟩).2 (by rw [held]; rfl)
  exact ⟨held, law.refused _ _ _ busy, law.unreleased _ (by decide)⟩

end ClockManager.Tracker
