import ClockManager.Tracker
/-!
# Slots as a partial map

What claiming and releasing do to the slots of all devices, and to the number of busy slots of a
given sort. Nothing outside this module looks into the list of slots.
-/

namespace ClockManager

theorem DeviceId.index_inj {left right : DeviceId} : left.index = right.index ↔ left = right := by
  constructor
  · intro h
    cases left
    cases right
    simpa [DeviceId.index, UInt32.toNat_inj] using h
  · rintro rfl
    rfl

theorem AgentId.index_inj {left right : AgentId} : left.index = right.index ↔ left = right := by
  constructor
  · intro h
    cases left
    cases right
    simpa [AgentId.index, UInt32.toNat_inj] using h
  · rintro rfl
    rfl

namespace Tracker

variable {tracker after : Tracker} {device other : DeviceId} {slot : Slot} {p : Slot → Bool}

/-- A slot is only claimed while it is empty. -/
theorem acquire_eq_ok_iff : tracker.acquire device slot = .ok after ↔
    tracker.slots[device.index]? = some none ∧
      after = ⟨tracker.slots.set device.index (some slot)⟩ := by
  unfold acquire
  split
  · simp_all
  · simp_all
  · simp_all [eq_comm]

theorem slot?_of_acquire (h : tracker.acquire device slot = .ok after) :
    after.slot? other = if other = device then some slot else tracker.slot? other := by
  obtain ⟨hidle, rfl⟩ := acquire_eq_ok_iff.1 h
  have hlt : device.index < tracker.slots.length := (List.getElem?_eq_some_iff.1 hidle).1
  by_cases heq : other = device
  · subst heq
    simp [slot?, hlt]
  · have hne : device.index ≠ other.index := fun h => heq (DeviceId.index_inj.1 h.symm)
    simp [slot?, hne, heq]

theorem slot?_eq_none_of_acquire (h : tracker.acquire device slot = .ok after) :
    tracker.slot? device = none := by
  rw [slot?, (acquire_eq_ok_iff.1 h).1]
  rfl

theorem length_of_acquire (h : tracker.acquire device slot = .ok after) :
    after.slots.length = tracker.slots.length := by
  obtain ⟨_, rfl⟩ := acquire_eq_ok_iff.1 h
  exact List.length_set

theorem slot?_eq_some_iff :
    tracker.slot? device = some slot ↔ tracker.slots[device.index]? = some (some slot) := by
  rw [slot?, Option.join_eq_some_iff]

theorem slot?_isSome_of_acquire_eq_busy {found : DeviceId}
    (h : tracker.acquire device slot = .error (.busy found)) :
    (tracker.slot? device).isSome := by
  unfold acquire at h
  split at h
  · simp at h
  · rename_i held hheld
    rw [slot?_eq_some_iff.2 hheld]
    rfl
  · simp at h

theorem length_le_of_acquire_eq_unknownDevice {found : DeviceId}
    (h : tracker.acquire device slot = .error (.unknownDevice found)) :
    tracker.slots.length ≤ device.index := by
  unfold acquire at h
  split at h
  · rename_i hnone
    exact List.getElem?_eq_none_iff.1 hnone
  · simp at h
  · simp at h

theorem acquire_eq_busy (h : (tracker.slot? device).isSome) :
    tracker.acquire device slot = .error (.busy device) := by
  obtain ⟨held, hheld⟩ := Option.isSome_iff_exists.1 h
  unfold acquire
  rw [slot?_eq_some_iff.1 hheld]

theorem acquire_eq_busy_iff :
    tracker.acquire device slot = .error (.busy device) ↔ (tracker.slot? device).isSome :=
  ⟨slot?_isSome_of_acquire_eq_busy, acquire_eq_busy⟩

theorem acquire_eq_unknownDevice_iff :
    tracker.acquire device slot = .error (.unknownDevice device) ↔
      tracker.slots.length ≤ device.index := by
  refine ⟨length_le_of_acquire_eq_unknownDevice, fun hle => ?_⟩
  rw [acquire, List.getElem?_eq_none hle]

theorem available_iff : tracker.available device = true ↔
    device.index < tracker.slots.length ∧ tracker.slot? device = none := by
  rw [available, decide_eq_true_iff, slot?]
  by_cases hlt : device.index < tracker.slots.length <;> simp [hlt]

theorem exists_acquire_iff :
    (∃ after, tracker.acquire device slot = .ok after) ↔ tracker.available device = true := by
  simp [acquire_eq_ok_iff, available]

theorem index_lt_of_slot? (h : tracker.slot? device = some slot) :
    device.index < tracker.slots.length :=
  (List.getElem?_eq_some_iff.1 (slot?_eq_some_iff.1 h)).1

theorem exists_acquire (hlt : device.index < tracker.slots.length)
    (hidle : tracker.slot? device = none) (slot : Slot) :
    ∃ after, tracker.acquire device slot = .ok after :=
  exists_acquire_iff.2 (available_iff.2 ⟨hlt, hidle⟩)

theorem slot?_release :
    (tracker.release device).2.slot? other =
      if other = device then none else tracker.slot? other := by
  by_cases heq : other = device
  · subst heq
    by_cases hlt : other.index < tracker.slots.length <;> simp [slot?, release, hlt]
  · have hne : device.index ≠ other.index := fun h => heq (DeviceId.index_inj.1 h.symm)
    simp [slot?, release, hne, heq]

/-- Nothing comes of a release where nothing is held, in the tracker or outside. -/
theorem release_of_slot?_eq_none (h : tracker.slot? device = none) :
    tracker.release device = (none, tracker) := by
  suffices hslots : tracker.slots.set device.index none = tracker.slots by
    rw [release, h, hslots]
  by_cases hlt : device.index < tracker.slots.length
  · rw [slot?, List.getElem?_eq_getElem hlt, Option.join_some] at h
    rw [← h, List.set_getElem_self]
  · exact List.set_eq_of_length_le (Nat.le_of_not_lt hlt)

theorem length_release : (tracker.release device).2.slots.length = tracker.slots.length :=
  List.length_set

theorem length_empty (deviceCount : Nat) : (empty deviceCount).slots.length = deviceCount :=
  List.length_replicate

theorem slot?_empty (deviceCount : Nat) : (empty deviceCount).slot? device = none := by
  by_cases hlt : device.index < deviceCount <;> simp [slot?, empty, hlt]

/-! ### Counting -/

/-- How many devices are busy with a request of the given sort. -/
def count (tracker : Tracker) (p : Slot → Bool) : Nat := tracker.slots.countP (·.any p)

/-- How many devices are busy. -/
def busyCount (tracker : Tracker) : Nat := tracker.count fun _ => true

theorem count_empty (deviceCount : Nat) : (empty deviceCount).count p = 0 := by
  simp [count, empty]

theorem count_of_acquire (h : tracker.acquire device slot = .ok after) :
    after.count p = tracker.count p + if p slot then 1 else 0 := by
  obtain ⟨hidle, rfl⟩ := acquire_eq_ok_iff.1 h
  obtain ⟨hlt, hnone⟩ := List.getElem?_eq_some_iff.1 hidle
  simp [count, List.countP_set hlt, hnone]

theorem count_release (h : tracker.slot? device = some slot) :
    ((tracker.release device).2.count p) + (if p slot then 1 else 0) = tracker.count p := by
  obtain ⟨hlt, hsome⟩ := List.getElem?_eq_some_iff.1 (slot?_eq_some_iff.1 h)
  have hle : (if p slot then 1 else 0) ≤ tracker.slots.countP (·.any p) := by
    split
    · refine List.countP_pos_iff.2 ⟨some slot, ?_, by simpa⟩
      exact hsome ▸ List.getElem_mem hlt
    · exact Nat.zero_le _
  simp only [count, release, List.countP_set hlt, hsome, Option.any_some, Option.any_none]
  simp only [Bool.false_eq_true, if_false]
  omega

theorem busyCount_le_length : tracker.busyCount ≤ tracker.slots.length := List.countP_le_length

/-- Distinct busy devices are no more than there are busy slots. -/
theorem length_le_busyCount {devices : List DeviceId} (hnodup : devices.Nodup)
    (hbusy : ∀ device ∈ devices, (tracker.slot? device).isSome) :
    devices.length ≤ tracker.busyCount := by
  -- Releasing the first device leaves the others busy, because they differ from it.
  induction devices generalizing tracker with
  | nil => exact Nat.zero_le _
  | cons device rest ih =>
    obtain ⟨slot, hslot⟩ := Option.isSome_iff_exists.1 (hbusy device List.mem_cons_self)
    obtain ⟨hnot, hrest⟩ := List.nodup_cons.1 hnodup
    have hbusy' : ∀ other ∈ rest, ((tracker.release device).2.slot? other).isSome := by
      intro other hother
      have hne : other ≠ device := fun h => hnot (h ▸ hother)
      rw [slot?_release, if_neg hne]
      exact hbusy other (List.mem_cons_of_mem _ hother)
    have hle := ih hrest hbusy'
    have hcount := count_release (p := fun _ => true) hslot
    simp only [busyCount, List.length_cons, if_true] at hle hcount ⊢
    omega

end Tracker
end ClockManager
