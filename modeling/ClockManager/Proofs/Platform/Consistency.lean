import ClockManager.Proofs.Bench
import ClockManager.Proofs.Platform.Step
/-!
# Queue, slots and topology

Slots are claimed when a message is accepted and freed when it is answered, which may be much later
and in another order. At every point of every run the queue and the slots still fit each other and
the topology, so the platform never comes upon work without a slot, a slot without a target or a
clock without a slot.
-/

namespace ClockManager.Platform

variable {topology : Topology} {before after platform : Platform} {events : List Event}
  {moves : List Move}

theorem Consistent.length_queue_le (h : platform.Consistent) :
    platform.queue.length ≤ platform.tracker.busyCount := by
  rw [← List.length_map]
  refine Tracker.length_le_busyCount h.queue_nodup fun device hdevice => ?_
  obtain ⟨item, hitem, rfl⟩ := List.mem_map.1 hdevice
  obtain ⟨slot, hslot, _⟩ := h.slot_of_queued item hitem
  rw [hslot]
  rfl

theorem Consistent.busyCount_le (h : platform.Consistent) :
    platform.tracker.busyCount ≤ platform.topology.deviceCount :=
  h.length_slots ▸ Tracker.busyCount_le_length

/-! ### No defects -/

/-- None of the events reports a defect. -/
def Sound (events : List Event) : Prop :=
  ∀ exchange, .exchange exchange ∈ events → exchange.query.isDefect = false

theorem sound_append {more : List Event} : Sound (events ++ more) ↔ Sound events ∧ Sound more := by
  simp only [Sound, List.mem_append]
  exact ⟨fun h => ⟨fun e he => h e (.inl he), fun e he => h e (.inr he)⟩,
    fun h e he => he.elim (h.1 e) (h.2 e)⟩

theorem sound_exchanges {history : History} :
    Sound (exchanges history) ↔ ∀ exchange ∈ history, exchange.query.isDefect = false := by
  simp [Sound, exchanges]

theorem sound_cons_completion {completion : Completion} :
    Sound (.completion completion :: events) ↔ Sound events := by
  simp [Sound]

theorem sound_singleton {exchange : Exchange} (h : exchange.query.isDefect = false) :
    Sound (exchanges [exchange]) :=
  sound_exchanges.2 fun other hother => by rwa [List.mem_singleton.1 hother]

/-- Taking a message in reports no defect, unless its last exchange does. -/
theorem sound_of_takes_assess {service : ServiceId} {raw : UInt32} {payload : Bytes}
    {consulted : History} {admission : Admission} {last : Exchange}
    (assessed : (topology.assess service raw payload).Takes consulted admission)
    (h : last.query.isDefect = false) :
    Sound (.message service raw payload :: exchanges (consulted ++ [last])) := by
  have hconsulted : Sound (exchanges consulted) := by
    refine sound_exchanges.2 fun exchange hmem => isDefect_of_isConsultation ?_
    exact Topology.consultation_of_takes_assess assessed exchange hmem
  rw [← List.singleton_append, exchanges_append, sound_append, sound_append]
  exact ⟨by simp [Sound], hconsulted, sound_singleton h⟩

theorem sound_of_touch? {exchange : Exchange} {touch : Touch}
    (h : exchange.touch? = some touch) : Sound (exchanges [exchange]) := by
  refine sound_singleton ?_
  obtain ⟨query, answer⟩ := exchange
  cases query <;> simp_all [Exchange.touch?, Query.isDefect]

theorem Step.sound (step : before.Step events after) (h : before.Consistent) : Sound events := by
  cases step with
  | answered assessed => exact sound_of_takes_assess assessed rfl
  | contended assessed => exact sound_of_takes_assess assessed rfl
  | claimed assessed => exact sound_of_takes_assess assessed rfl
  | deferred _ _ touched =>
    exact sound_append.2 ⟨sound_of_touch? touched, sound_singleton rfl⟩
  | settled _ busy touched finished =>
    refine sound_append.2 ⟨sound_of_touch? touched, sound_exchanges.2 ?_⟩
    exact finished.forall_of_asks
      (Topology.sound_finish (h.target_iff _ _ busy).2 _ _ _ _)
  | completed awaited finished =>
    rw [sound_cons_completion, sound_exchanges]
    have busy := (awaited?_eq_some_iff.1 awaited).1
    exact finished.forall_of_asks
      (Topology.sound_finish (h.target_iff _ _ busy).2 _ _ _ _)
  | unsolicited => exact sound_singleton rfl

theorem Reaches.sound (reached : before.Reaches events after) (h : before.Consistent) :
    Sound events := by
  induction reached with
  | refl => simp [Sound]
  | tail reached step ih => exact sound_append.2 ⟨ih, step.sound (reached.consistent h)⟩

/-! ### Runs -/

/-- Whoever the collaborators are, a run keeps the platform consistent, with no more work queued
than there are busy slots, and no more of these than devices; and it reports no defect. -/
theorem Runs.queue_and_slots_fit (run : (start topology).Runs moves platform) :
    platform.Consistent ∧ platform.topology = topology ∧
      platform.queue.length ≤ platform.tracker.busyCount ∧
      platform.tracker.busyCount ≤ topology.deviceCount ∧
      Sound (ClockManager.events moves) := by
  have hstart := consistent_start topology
  have reached := run.reaches hstart
  have hconsistent := reached.consistent hstart
  have htopology : platform.topology = topology := reached.topology_eq
  refine ⟨hconsistent, htopology, hconsistent.length_queue_le, ?_, reached.sound hstart⟩
  rw [← htopology]
  exact hconsistent.busyCount_le

open Bench in
/-- After the sample session both devices are busy, one of them with work that the hardware has. -/
theorem queue_and_slots_fit_sample :
    ((sampleSession.after sampleSteps).platform.queue.length = 1 ∧
      (sampleSession.after sampleSteps).platform.tracker.busyCount = 2) ∧
      (sampleSession.after sampleSteps).platform.Consistent ∧
      Sound (ClockManager.events (sampleSession.moves sampleSteps)) := by
  obtain ⟨hconsistent, _, _, _, hsound⟩ :=
    Runs.queue_and_slots_fit (sampleSession.runs_moves sampleSteps)
  exact ⟨by decide, hconsistent, hsound⟩

end ClockManager.Platform
