import ClockManager.Proofs.Admission
import ClockManager.Proofs.Settlement
import ClockManager.Proofs.Tracker
/-!
# Steps of a platform

An operation of a platform is a sequence of steps: a message is answered, turned away as busy or
claimed, an item is deferred or settled, a completion is taken or turned away. `Step` says all that
the rest of the theory needs of each, and `Runs.reaches` breaks a run into them, so that a property
of runs is proved by one case for each kind of step. Whatever is kept by steps is kept between the
items of one run of the queue as well.

The steps are only those of a platform that is `Consistent`, which they preserve. That rules out
three more branches of the operations, each of which would report a defect.
-/

namespace ClockManager

/-- The slot that is claimed for work on a clock. -/
def ResolvedClock.claim (clock : ResolvedClock) (service : ServiceId) (work : Work) : Slot :=
  ⟨⟨service, clock.agent, clock.index⟩, work.kind, work.target?⟩

theorem Work.target?_eq_some_iff {work : Work} {state : ClockState} :
    work.target? = some state ↔ work = .setState state := by
  cases work <;> simp [target?]

theorem Work.target?_isSome_iff {work : Work} : work.target?.isSome ↔ work.kind = .setState := by
  cases work <;> simp [target?, kind]

/-- The kind and the target of a request agree with its work. -/
def Slot.IsFor (slot : Slot) (work : Work) : Prop :=
  slot.kind = work.kind ∧ slot.target? = work.target?

namespace Platform

/-- How the queue, the slots and the topology belong together. -/
structure Consistent (platform : Platform) : Prop where
  /-- There is one slot for each device. -/
  length_slots : platform.tracker.slots.length = platform.topology.deviceCount
  /-- Queued items are for distinct devices. -/
  queue_nodup : (platform.queue.map WorkItem.device).Nodup
  /-- A queued item has a busy slot of its own kind and with its own target. -/
  slot_of_queued : ∀ item ∈ platform.queue, ∃ slot, platform.tracker.slot? item.device = some slot ∧
    slot.kind = item.work.kind ∧ ∀ state, slot.target? = some state ↔ item.work = .setState state
  /-- A change of state has a target, and nothing else has one. -/
  target_iff : ∀ device slot, platform.tracker.slot? device = some slot →
    (slot.target?.isSome ↔ slot.kind = .setState)
  /-- The owner of a slot means the slot's device by its clock number. -/
  owner_names : ∀ device slot, platform.tracker.slot? device = some slot →
    platform.topology.Names slot.owner.agent slot.owner.clock device

/-- What a platform can do at a time, the events that go with it, and the platform after it. -/
inductive Step (before : Platform) : List Event → Platform → Prop where
  | answered {service : ServiceId} {raw : UInt32} {payload : Bytes} {consulted : History}
      {reply : Reply} {sent : Except TransportError Unit}
      (assessed : (before.topology.assess service raw payload).Takes consulted (.answer reply)) :
      Step before
        (.message service raw payload ::
          exchanges (consulted ++ [⟨.respond service reply, sent⟩]))
        before
  | contended {service : ServiceId} {raw : UInt32} {payload : Bytes} {consulted : History}
      {clock : ResolvedClock} {work : Work} {sent : Except TransportError Unit}
      (assessed : (before.topology.assess service raw payload).Takes consulted
        (.accept clock work))
      (busy : (before.tracker.slot? clock.record.device).isSome) :
      Step before
        (.message service raw payload ::
          exchanges (consulted ++
            [⟨.respond service (.bytes (Frame.status .busy).bytes), sent⟩]))
        before
  | claimed {service : ServiceId} {raw : UInt32} {payload : Bytes} {consulted : History}
      {clock : ResolvedClock} {work : Work} {tracker : Tracker}
      (assessed : (before.topology.assess service raw payload).Takes consulted
        (.accept clock work))
      (acquired : before.tracker.acquire clock.record.device (clock.claim service work) =
        .ok tracker) :
      Step before
        (.message service raw payload ::
          exchanges (consulted ++
            [⟨.log (.claimed clock.record.device work.kind service), ()⟩]))
        { before with tracker, queue := before.queue ++ [⟨clock.record.device, work⟩] }
  | deferred {item : WorkItem} {queue : List WorkItem} {slot : Slot} {exchange : Exchange}
      (queued : before.queue = item :: queue)
      (busy : before.tracker.slot? item.device = some slot)
      (touched : exchange.touch? = some ⟨item.device, item.work, none⟩) :
      Step before (exchanges [exchange, ⟨.log (.pending item.device slot.kind), ()⟩])
        { before with queue }
  | settled {item : WorkItem} {queue : List WorkItem} {slot : Slot} {exchange : Exchange}
      {result : Except HardwareError Value} {history : History}
      {sent : Except TransportError Unit} {tracker : Tracker}
      (queued : before.queue = item :: queue)
      (busy : before.tracker.slot? item.device = some slot)
      (touched : exchange.touch? = some ⟨item.device, item.work, some result⟩)
      (finished : (before.topology.finish before.tracker item.device slot result).Takes history
        (sent, tracker)) :
      Step before (exchanges (exchange :: history)) { before with tracker, queue }
  | completed {completion : Completion} {slot : Slot} {history : History}
      {sent : Except TransportError Unit} {tracker : Tracker}
      (awaited : before.awaited? completion.device = some slot)
      (finished : (before.topology.finish before.tracker completion.device slot
        completion.result).Takes history (sent, tracker)) :
      Step before (.completion completion :: exchanges history) { before with tracker }
  | unsolicited {device : DeviceId} (unawaited : before.awaited? device = none) :
      Step before (exchanges [⟨.log (.unsolicited device), ()⟩]) before

variable {before mid after : Platform} {device other : DeviceId} {slot : Slot}

theorem awaited?_eq_some_iff :
    before.awaited? device = some slot ↔
      before.tracker.slot? device = some slot ∧ ∀ item ∈ before.queue, item.device ≠ device := by
  unfold awaited?
  split <;> simp_all

theorem awaited?_of_queue_eq_cons {item : WorkItem} {queue : List WorkItem}
    (queued : before.queue = item :: queue) (hne : item.device ≠ device) :
    awaited? { before with queue } device = before.awaited? device := by
  simp [awaited?, queued, hne]

theorem awaited?_release : awaited? { before with tracker := (before.tracker.release device).2 }
    other = if other = device then none else before.awaited? other := by
  unfold awaited?
  rw [Tracker.slot?_release]
  by_cases heq : other = device <;> simp [heq]

theorem awaited?_of_settled {item : WorkItem} {queue : List WorkItem}
    (queued : before.queue = item :: queue) :
    awaited? { before with queue, tracker := (before.tracker.release item.device).2 } other =
      if other = item.device then none else before.awaited? other := by
  unfold awaited?
  rw [Tracker.slot?_release, queued]
  by_cases heq : other = item.device
  · simp [heq]
  · have hne : item.device ≠ other := fun h => heq h.symm
    simp [heq, hne]

/-- A request that has just been accepted awaits no completion yet. -/
theorem awaited?_claim {clock : ResolvedClock} {service : ServiceId} {work : Work}
    {tracker : Tracker}
    (acquired : before.tracker.acquire clock.record.device (clock.claim service work) =
      .ok tracker) :
    awaited? { before with tracker, queue := before.queue ++ [⟨clock.record.device, work⟩] } device
      = before.awaited? device := by
  have hidle := Tracker.slot?_eq_none_of_acquire acquired
  unfold awaited?
  rw [Tracker.slot?_of_acquire acquired]
  by_cases heq : device = clock.record.device
  · subst heq
    simp [hidle]
  · have hne : clock.record.device ≠ device := fun h => heq h.symm
    simp [heq, hne]

/-! ### Consistency -/

theorem consistent_start (topology : Topology) : (Platform.start topology).Consistent where
  length_slots := Tracker.length_empty topology.deviceCount
  queue_nodup := List.nodup_nil
  slot_of_queued := nofun
  target_iff := fun device slot h => by simp [Platform.start, Tracker.slot?_empty] at h
  owner_names := fun device slot h => by simp [Platform.start, Tracker.slot?_empty] at h

/-- Taking items off the front of the queue changes nothing else. -/
theorem Consistent.of_queue_eq_cons {item : WorkItem} {queue : List WorkItem}
    (h : before.Consistent) (queued : before.queue = item :: queue) :
    Consistent { before with queue } where
  length_slots := h.length_slots
  queue_nodup := by
    have := h.queue_nodup
    rw [queued, List.map_cons, List.nodup_cons] at this
    exact this.2
  slot_of_queued := fun other hother =>
    h.slot_of_queued other (queued ▸ List.mem_cons_of_mem _ hother)
  target_iff := h.target_iff
  owner_names := h.owner_names

/-- A slot may be freed once nothing is queued for its device. -/
theorem Consistent.release (h : before.Consistent)
    (unqueued : ∀ item ∈ before.queue, item.device ≠ device) :
    Consistent { before with tracker := (before.tracker.release device).2 } := by
  have hslot : ∀ {other : DeviceId} {slot : Slot},
      (before.tracker.release device).2.slot? other = some slot →
        before.tracker.slot? other = some slot := by
    intro other slot hsome
    rw [Tracker.slot?_release] at hsome
    split at hsome
    · simp at hsome
    · exact hsome
  refine ⟨Tracker.length_release.trans h.length_slots, h.queue_nodup, ?_,
    fun other slot hsome => h.target_iff other slot (hslot hsome),
    fun other slot hsome => h.owner_names other slot (hslot hsome)⟩
  intro item hitem
  rw [Tracker.slot?_release, if_neg (unqueued item hitem)]
  exact h.slot_of_queued item hitem

theorem Consistent.claim {clock : ResolvedClock} {service : ServiceId} {work : Work}
    {tracker : Tracker} (h : before.Consistent)
    (names : before.topology.Names clock.agent clock.index clock.record.device)
    (acquired : before.tracker.acquire clock.record.device (clock.claim service work) =
      .ok tracker) :
    Consistent { before with
      tracker, queue := before.queue ++ [⟨clock.record.device, work⟩] } := by
  have hidle := Tracker.slot?_eq_none_of_acquire acquired
  have hunqueued : ∀ item ∈ before.queue, item.device ≠ clock.record.device := by
    intro item hitem heq
    obtain ⟨slot, hslot, _⟩ := h.slot_of_queued item hitem
    rw [heq, hidle] at hslot
    simp at hslot
  have hslot : ∀ {other : DeviceId} {slot : Slot}, tracker.slot? other = some slot →
      (other = clock.record.device ∧ slot = clock.claim service work) ∨
        before.tracker.slot? other = some slot := by
    intro other slot hsome
    rw [Tracker.slot?_of_acquire acquired] at hsome
    split at hsome
    · exact .inl ⟨by assumption, (Option.some.inj hsome).symm⟩
    · exact .inr hsome
  constructor
  · exact (Tracker.length_of_acquire acquired).trans h.length_slots
  · rw [List.map_append, List.map_singleton, List.nodup_append]
    refine ⟨h.queue_nodup, by simp, ?_⟩
    intro queued hqueued other hother heq
    obtain ⟨item, hitem, rfl⟩ := List.mem_map.1 hqueued
    exact hunqueued item hitem (heq.trans (List.mem_singleton.1 hother))
  · intro item hitem
    rw [Tracker.slot?_of_acquire acquired]
    rcases List.mem_append.1 hitem with hitem | hitem
    · rw [if_neg (hunqueued item hitem)]
      exact h.slot_of_queued item hitem
    · rw [List.mem_singleton.1 hitem, if_pos rfl]
      exact ⟨_, rfl, rfl, fun state => Work.target?_eq_some_iff⟩
  · intro other slot hsome
    rcases hslot hsome with ⟨_, rfl⟩ | hsome
    · exact Work.target?_isSome_iff
    · exact h.target_iff other slot hsome
  · intro other slot hsome
    rcases hslot hsome with ⟨rfl, rfl⟩ | hsome
    · exact names
    · exact h.owner_names other slot hsome

theorem Consistent.slot_isFor {item : WorkItem} {queue : List WorkItem} (h : before.Consistent)
    (queued : before.queue = item :: queue)
    {slot : Slot}
    (busy : before.tracker.slot? item.device = some slot) : slot.IsFor item.work := by
  have hmem : item ∈ before.queue := queued ▸ List.mem_cons_self
  obtain ⟨found, hfound, hkind, htarget⟩ := h.slot_of_queued item hmem
  cases busy.symm.trans hfound
  refine ⟨hkind, Option.ext fun state => ?_⟩
  rw [htarget, Work.target?_eq_some_iff]

/-- Items behind the first one are for other devices. -/
theorem Consistent.device_ne_of_queue_eq_cons {item : WorkItem} {queue : List WorkItem}
    (h : before.Consistent) (queued : before.queue = item :: queue) :
    ∀ other ∈ queue, other.device ≠ item.device := by
  have hnodup := h.queue_nodup
  rw [queued, List.map_cons, List.nodup_cons] at hnodup
  intro other hother heq
  exact hnodup.1 (heq ▸ List.mem_map_of_mem hother)

theorem Step.consistent {events : List Event} (step : before.Step events after)
    (h : before.Consistent) : after.Consistent := by
  cases step with
  | answered => exact h
  | contended => exact h
  | claimed assessed acquired =>
    obtain ⟨_, _, owner, _, _, _, hclock, _⟩ := Topology.takes_assess_accept assessed
    exact h.claim (Topology.resolveClock_eq_ok hclock).2.2 acquired
  | deferred queued => exact h.of_queue_eq_cons queued
  | settled queued _ _ finished =>
    rw [(Topology.takes_finish finished).1]
    exact (h.of_queue_eq_cons queued).release (h.device_ne_of_queue_eq_cons queued)
  | completed awaited finished =>
    rw [(Topology.takes_finish finished).1]
    exact h.release (awaited?_eq_some_iff.1 awaited).2
  | unsolicited => exact h

theorem Step.topology_eq {events : List Event} (step : before.Step events after) :
    after.topology = before.topology := by
  cases step <;> rfl

/-! ### Sequences of steps -/

/-- The platform can get from the first state to the last by steps with these events in all. -/
inductive Reaches (start : Platform) : List Event → Platform → Prop where
  | refl : Reaches start [] start
  | tail {events more : List Event} {mid after : Platform} (reached : Reaches start events mid)
      (step : mid.Step more after) : Reaches start (events ++ more) after

variable {events more : List Event}

theorem Step.reaches (step : before.Step events after) : before.Reaches events after :=
  .tail .refl step

theorem Reaches.trans (first : before.Reaches events mid) (second : mid.Reaches more after) :
    before.Reaches (events ++ more) after := by
  induction second with
  | refl => rwa [List.append_nil]
  | tail _ step ih =>
    rw [← List.append_assoc]
    exact ih.tail step

theorem Reaches.consistent (reached : before.Reaches events after) (h : before.Consistent) :
    after.Consistent := by
  induction reached with
  | refl => exact h
  | tail _ step ih => exact step.consistent ih

theorem Reaches.topology_eq (reached : before.Reaches events after) :
    after.topology = before.topology := by
  induction reached with
  | refl => rfl
  | tail _ step ih => exact step.topology_eq.trans ih

/-! ### Operations as steps -/

variable {history : History} {service : ServiceId} {raw : UInt32} {payload : Bytes}

/-- What comes of work that is to be queued, in whatever state the platform is: the slot of its
device is claimed, or it is taken, or there is none. -/
inductive Enqueued (before : Platform) (service : ServiceId) (clock : ResolvedClock) (work : Work) :
    History → Except TransportError Unit → Platform → Prop where
  | claimed {tracker : Tracker}
      (acquired : before.tracker.acquire clock.record.device (clock.claim service work) =
        .ok tracker) :
      Enqueued before service clock work
        [⟨.log (.claimed clock.record.device work.kind service), ()⟩] (.ok ())
        { before with tracker, queue := before.queue ++ [⟨clock.record.device, work⟩] }
  | contended {sent : Except TransportError Unit}
      (busy : (before.tracker.slot? clock.record.device).isSome) :
      Enqueued before service clock work
        [⟨.respond service (.bytes (Frame.status .busy).bytes), sent⟩] sent before
  | untracked {error : TrackerError} {sent : Except TransportError Unit}
      (slotless : before.tracker.slots.length ≤ clock.record.device.index) :
      Enqueued before service clock work
        [⟨.log (.untracked error), ()⟩,
          ⟨.respond service (.bytes (Frame.status .genericError).bytes), sent⟩] sent before

theorem takes_enqueue {clock : ResolvedClock} {work : Work} {result : Except TransportError Unit}
    (takes : (before.enqueue service clock work).Takes history (result, after)) :
    before.Enqueued service clock work history result after := by
  simp only [enqueue] at takes
  split at takes
  · rename_i tracker acquired
    rw [Dialogue.takes_log_bind] at takes
    obtain ⟨rest, rfl, rfl, hend⟩ := takes
    obtain ⟨rfl, rfl⟩ := Prod.mk.inj hend
    exact .claimed acquired
  · rename_i found contended
    rw [Dialogue.takes_call_bind] at takes
    obtain ⟨sent, rest, rfl, rfl, hend⟩ := takes
    obtain ⟨rfl, rfl⟩ := Prod.mk.inj hend
    exact .contended (Tracker.slot?_isSome_of_acquire_eq_busy contended)
  · rename_i error hbusy failed
    rw [Dialogue.takes_log_bind] at takes
    obtain ⟨rest, rfl, takes⟩ := takes
    rw [Dialogue.takes_call_bind] at takes
    obtain ⟨sent, rest, rfl, rfl, hend⟩ := takes
    obtain ⟨rfl, rfl⟩ := Prod.mk.inj hend
    cases error with
    | busy found => exact absurd rfl (hbusy found)
    | unknownDevice found => exact .untracked (Tracker.length_le_of_acquire_eq_unknownDevice failed)

/-- A message is assessed, and then it is answered, or its work is to be queued. -/
theorem exists_of_takes_receive {result : Except TransportError Unit}
    (takes : (before.receive service raw payload).Takes history (result, after)) :
    ∃ consulted last, history = consulted ++ last ∧
      ((∃ reply, (before.topology.assess service raw payload).Takes consulted (.answer reply) ∧
          last = [⟨.respond service reply, result⟩] ∧ after = before) ∨
        ∃ clock work,
          (before.topology.assess service raw payload).Takes consulted (.accept clock work) ∧
            before.Enqueued service clock work last result after) := by
  unfold receive at takes
  rw [Dialogue.takes_bind] at takes
  obtain ⟨consulted, last, admission, rfl, assessed, takes⟩ := takes
  refine ⟨consulted, last, rfl, ?_⟩
  cases admission with
  | answer reply =>
    rw [Dialogue.takes_call_bind] at takes
    obtain ⟨sent, rest, rfl, rfl, hend⟩ := takes
    obtain ⟨rfl, rfl⟩ := Prod.mk.inj hend
    exact .inl ⟨reply, assessed, rfl, rfl⟩
  | accept clock work => exact .inr ⟨clock, work, assessed, takes_enqueue takes⟩

/-- How a platform takes a message in: it is answered, turned away as busy, or accepted. -/
inductive Received (before : Platform) (service : ServiceId) (raw : UInt32) (payload : Bytes) :
    History → Except TransportError Unit → Platform → Prop where
  | answered {consulted : History} {reply : Reply} {sent : Except TransportError Unit}
      (assessed : (before.topology.assess service raw payload).Takes consulted (.answer reply)) :
      Received before service raw payload (consulted ++ [⟨.respond service reply, sent⟩]) sent
        before
  | contended {consulted : History} {clock : ResolvedClock} {work : Work}
      {sent : Except TransportError Unit}
      (assessed : (before.topology.assess service raw payload).Takes consulted
        (.accept clock work))
      (busy : (before.tracker.slot? clock.record.device).isSome) :
      Received before service raw payload
        (consulted ++ [⟨.respond service (.bytes (Frame.status .busy).bytes), sent⟩]) sent before
  | claimed {consulted : History} {clock : ResolvedClock} {work : Work} {tracker : Tracker}
      (assessed : (before.topology.assess service raw payload).Takes consulted
        (.accept clock work))
      (acquired : before.tracker.acquire clock.record.device (clock.claim service work) =
        .ok tracker) :
      Received before service raw payload
        (consulted ++ [⟨.log (.claimed clock.record.device work.kind service), ()⟩]) (.ok ())
        { before with tracker, queue := before.queue ++ [⟨clock.record.device, work⟩] }

theorem takes_receive {result : Except TransportError Unit} (h : before.Consistent)
    (takes : (before.receive service raw payload).Takes history (result, after)) :
    before.Received service raw payload history result after := by
  obtain ⟨consulted, last, rfl, answered | accepted⟩ := exists_of_takes_receive takes
  · obtain ⟨reply, assessed, rfl, rfl⟩ := answered
    exact .answered assessed
  · obtain ⟨clock, work, assessed, enqueued⟩ := accepted
    cases enqueued with
    | claimed acquired => exact .claimed assessed acquired
    | contended busy => exact .contended assessed busy
    | untracked slotless =>
      -- Clocks only ever stand for devices of the topology, and each of these has a slot.
      obtain ⟨_, _, owner, _, _, _, hclock, _⟩ := Topology.takes_assess_accept assessed
      have hknown := (Topology.resolveClock_eq_ok hclock).2.2.index_lt
      rw [← h.length_slots] at hknown
      exact absurd slotless (Nat.not_le_of_lt hknown)

/-- A message that has passed all checks is accepted if its device is free. -/
theorem takes_receive_of_free {consulted : History} {clock : ResolvedClock} {work : Work}
    (h : before.Consistent)
    (assessed : (before.topology.assess service raw payload).Takes consulted (.accept clock work))
    (free : before.tracker.slot? clock.record.device = none) :
    ∃ tracker, before.tracker.acquire clock.record.device (clock.claim service work) = .ok tracker ∧
      (before.receive service raw payload).Takes
        (consulted ++ [⟨.log (.claimed clock.record.device work.kind service), ()⟩])
        (.ok (), { before with
          tracker, queue := before.queue ++ [⟨clock.record.device, work⟩] }) := by
  have hlt : clock.record.device.index < before.tracker.slots.length := by
    obtain ⟨_, _, owner, _, _, _, hclock, _⟩ := Topology.takes_assess_accept assessed
    rw [h.length_slots]
    exact (Topology.resolveClock_eq_ok hclock).2.2.index_lt
  obtain ⟨tracker, acquired⟩ := Tracker.exists_acquire hlt free (clock.claim service work)
  refine ⟨tracker, acquired, Dialogue.takes_bind.2 ⟨consulted, _, _, rfl, assessed, ?_⟩⟩
  rw [ResolvedClock.claim] at acquired
  simp only [enqueue, acquired]
  exact ⟨(), [], rfl, rfl, rfl⟩

theorem Received.step {result : Except TransportError Unit}
    (h : before.Received service raw payload history result after) :
    before.Step (.message service raw payload :: exchanges history) after := by
  cases h with
  | answered assessed => exact .answered assessed
  | contended assessed busy => exact .contended assessed busy
  | claimed assessed acquired => exact .claimed assessed acquired

/-- Whatever becomes of it, a message is assessed, and then there is one exchange more. -/
theorem Received.exists_assessed {result : Except TransportError Unit}
    (h : before.Received service raw payload history result after) :
    ∃ consulted admission last, history = consulted ++ [last] ∧
      (before.topology.assess service raw payload).Takes consulted admission ∧
      ((∃ reply sent, last = ⟨.respond service reply, sent⟩) ∨
        ∃ notice, last = ⟨.log notice, ()⟩) := by
  cases h with
  | answered assessed => exact ⟨_, _, _, rfl, assessed, .inl ⟨_, _, rfl⟩⟩
  | contended assessed => exact ⟨_, _, _, rfl, assessed, .inl ⟨_, _, rfl⟩⟩
  | claimed assessed => exact ⟨_, _, _, rfl, assessed, .inr ⟨_, rfl⟩⟩

theorem execute_step {topology : Topology} {tracker left : Tracker} {item : WorkItem}
    {queue : List WorkItem} {outcome : Except TransportError WorkOutcome}
    (h : Consistent ⟨topology, tracker, item :: queue⟩)
    (takes : (topology.execute tracker item).Takes history (outcome, left)) :
    Step ⟨topology, tracker, item :: queue⟩ (exchanges history) ⟨topology, left, queue⟩ := by
  obtain ⟨slot, busy, _⟩ := h.slot_of_queued item List.mem_cons_self
  obtain ⟨exchange, rest, rfl, deferred | settled⟩ := Topology.takes_execute busy takes
  · obtain ⟨touched, rfl, _, rfl⟩ := deferred
    exact .deferred rfl busy touched
  · obtain ⟨result, sent, touched, finished, _⟩ := settled
    exact .settled rfl busy touched finished

/-- When there is work, its oldest item is run, and is no longer queued then. -/
theorem takes_runNext {item : WorkItem} {queue : List WorkItem}
    {result : Option (Except TransportError WorkOutcome)} (queued : before.queue = item :: queue)
    (takes : before.runNext.Takes history (result, after)) :
    ∃ outcome tracker, result = some outcome ∧ after = { before with tracker, queue } ∧
      (before.topology.execute before.tracker item).Takes history (outcome, tracker) := by
  unfold runNext at takes
  rw [queued] at takes
  obtain ⟨_, _, ⟨outcome, tracker⟩, rfl, hexecute, rfl, hend⟩ := Dialogue.takes_bind.1 takes
  obtain ⟨rfl, rfl⟩ := Prod.mk.inj hend
  exact ⟨outcome, tracker, rfl, rfl, by rwa [List.append_nil]⟩

theorem runNext_reaches {result : Option (Except TransportError WorkOutcome)}
    (h : before.Consistent) (takes : before.runNext.Takes history (result, after)) :
    before.Reaches (exchanges history) after := by
  obtain ⟨topology, tracker, queue⟩ := before
  cases queue with
  | nil =>
    obtain ⟨rfl, hend⟩ := takes
    obtain ⟨rfl, rfl⟩ := Prod.mk.inj hend
    exact .refl
  | cons item queue =>
    obtain ⟨outcome, left, rfl, rfl, hexecute⟩ := takes_runNext rfl takes
    exact (execute_step h hexecute).reaches

theorem runItems_reaches {topology : Topology} {queue : List WorkItem} {tracker : Tracker}
    {count : Nat} {result : Except TransportError Nat}
    (h : Consistent ⟨topology, tracker, queue⟩)
    (takes : (runItems topology tracker count queue).Takes history (result, after)) :
    Reaches ⟨topology, tracker, queue⟩ (exchanges history) after := by
  induction queue generalizing tracker count history with
  | nil =>
    obtain ⟨rfl, hend⟩ := takes
    obtain ⟨rfl, rfl⟩ := Prod.mk.inj hend
    exact .refl
  | cons item queue ih =>
    unfold runItems at takes
    rw [Dialogue.takes_bind] at takes
    obtain ⟨first, rest, ⟨outcome, left⟩, rfl, hexecute, takes⟩ := takes
    have step := execute_step h hexecute
    rw [exchanges_append]
    cases outcome with
    | ok _ => exact step.reaches.trans (ih (step.consistent h) takes)
    | error _ =>
      obtain ⟨rfl, hend⟩ := takes
      obtain ⟨rfl, rfl⟩ := Prod.mk.inj hend
      exact step.reaches.trans .refl

/-- What is said of a completion that has been taken for a slot: that the answer to the owner could
not be sent, or that the value is not of the shape that the slot waits for, or neither. -/
def verdict (completion : Completion) (slot : Slot) :
    Except TransportError Unit → Except CompletionError Unit
  | .error error => .error (.transport error)
  | .ok () =>
    match completion.result with
    | .ok value =>
      if value.fits slot.kind then .ok () else .error (.mismatch completion.device slot.kind)
    | .error _ => .ok ()

theorem verdict_ne_unsolicited (completion : Completion) (slot : Slot)
    (sent : Except TransportError Unit) (device : DeviceId) :
    verdict completion slot sent ≠ .error (.unsolicited device) := by
  unfold verdict
  split
  · nofun
  · split
    · split <;> nofun
    · nofun

/-- A completion is turned away, or the request of the slot that awaits it ends. -/
theorem takes_complete {completion : Completion} {result : Except CompletionError Unit}
    (takes : (before.complete completion).Takes history (result, after)) :
    (before.awaited? completion.device = none ∧
        history = [⟨.log (.unsolicited completion.device), ()⟩] ∧
        result = .error (.unsolicited completion.device) ∧ after = before) ∨
      ∃ slot sent tracker, before.awaited? completion.device = some slot ∧
        (before.topology.finish before.tracker completion.device slot completion.result).Takes
          history (sent, tracker) ∧
        result = verdict completion slot sent ∧ after = { before with tracker } := by
  unfold complete at takes
  dsimp only at takes
  split at takes
  · rename_i unawaited
    rw [Dialogue.takes_log_bind] at takes
    obtain ⟨rest, rfl, rfl, hend⟩ := takes
    obtain ⟨rfl, rfl⟩ := Prod.mk.inj hend
    exact .inl ⟨unawaited, rfl, rfl, rfl⟩
  · rename_i slot awaited
    rw [Dialogue.takes_bind] at takes
    obtain ⟨finishing, rest, ⟨sent, tracker⟩, rfl, finished, takes⟩ := takes
    have hend : rest = [] ∧ result = verdict completion slot sent ∧
        after = { before with tracker } := by
      dsimp only at takes
      unfold verdict
      cases sent with
      | error error =>
        obtain ⟨rfl, hend⟩ := takes
        obtain ⟨rfl, rfl⟩ := Prod.mk.inj hend
        exact ⟨rfl, rfl, rfl⟩
      | ok sent =>
        cases hvalue : completion.result with
        | error error =>
          rw [hvalue] at takes
          obtain ⟨rfl, hend⟩ := takes
          obtain ⟨rfl, rfl⟩ := Prod.mk.inj hend
          exact ⟨rfl, rfl, rfl⟩
        | ok value =>
          rw [hvalue] at takes
          dsimp only at takes ⊢
          split at takes <;> rename_i hfits
          · obtain ⟨rfl, hend⟩ := takes
            obtain ⟨rfl, rfl⟩ := Prod.mk.inj hend
            exact ⟨rfl, (if_pos hfits).symm, rfl⟩
          · obtain ⟨rfl, hend⟩ := takes
            obtain ⟨rfl, rfl⟩ := Prod.mk.inj hend
            exact ⟨rfl, (if_neg hfits).symm, rfl⟩
    obtain ⟨rfl, rfl, rfl⟩ := hend
    exact .inr ⟨slot, sent, tracker, awaited, by rwa [List.append_nil], rfl, rfl⟩

theorem complete_step {completion : Completion} {result : Except CompletionError Unit}
    (takes : (before.complete completion).Takes history (result, after)) :
    before.Step (Move.events ⟨.complete completion, history, .completed result⟩) after := by
  rcases takes_complete takes with
    ⟨unawaited, rfl, rfl, rfl⟩ | ⟨slot, sent, tracker, awaited, finished, rfl, rfl⟩
  · exact .unsolicited unawaited
  · have harrival : Move.arrival
        ⟨.complete completion, history, .completed (verdict completion slot sent)⟩ =
          [.completion completion] := by
      unfold Move.arrival
      split <;> simp_all [verdict_ne_unsolicited]
    rw [Move.events, harrival]
    exact .completed awaited finished

/-- An operation does what it is named for, and marks the result as one of such an operation. -/
theorem takes_result_iff {α : Type} {d : Dialogue (α × Platform)} {mark : α → OperationResult}
    {result : OperationResult} :
    (d >>= fun (value, left) => pure (mark value, left)).Takes history (result, after) ↔
      ∃ value, result = mark value ∧ d.Takes history (value, after) := by
  rw [Dialogue.takes_bind]
  constructor
  · rintro ⟨_, _, ⟨value, left⟩, rfl, takes, rfl, hend⟩
    obtain ⟨rfl, rfl⟩ := Prod.mk.inj hend
    exact ⟨value, rfl, by rwa [List.append_nil]⟩
  · rintro ⟨value, rfl, takes⟩
    exact ⟨history, [], _, (List.append_nil _).symm, takes, rfl, rfl⟩

theorem takes_perform_receive {result : OperationResult} (h : before.Consistent)
    (takes : (before.perform (.receive service raw payload)).Takes history (result, after)) :
    ∃ sent, before.Received service raw payload history sent after := by
  obtain ⟨sent, -, hreceive⟩ := takes_result_iff.1 takes
  exact ⟨sent, takes_receive h hreceive⟩

/-- An operation is a sequence of steps. -/
theorem perform_reaches {move : Move} (h : before.Consistent)
    (takes : (before.perform move.operation).Takes move.history (move.result, after)) :
    before.Reaches move.events after := by
  obtain ⟨operation, history, result⟩ := move
  cases operation with
  | receive service raw payload =>
    obtain ⟨sent, received⟩ := takes_perform_receive h takes
    exact received.step.reaches
  | runNext =>
    obtain ⟨ran, -, hrun⟩ := takes_result_iff.1 takes
    exact runNext_reaches h hrun
  | runQueue =>
    obtain ⟨ran, -, hrun⟩ := takes_result_iff.1 takes
    exact runItems_reaches h hrun
  | complete completion =>
    obtain ⟨completed, rfl, hcomplete⟩ := takes_result_iff.1 takes
    exact (complete_step hcomplete).reaches

/-- A run is a sequence of steps. -/
theorem Runs.reaches {start : Platform} {moves : List Move} (run : start.Runs moves after)
    (h : start.Consistent) : start.Reaches (ClockManager.events moves) after := by
  induction run with
  | nil => exact .refl
  | snoc _ takes ih =>
    rw [events_append, events_singleton]
    exact ih.trans (perform_reaches (ih.consistent h) takes)

theorem Runs.consistent {topology : Topology} {moves : List Move}
    (run : (start topology).Runs moves after) : after.Consistent :=
  (run.reaches (consistent_start topology)).consistent (consistent_start topology)

theorem Runs.topology_eq {topology : Topology} {moves : List Move}
    (run : (start topology).Runs moves after) : after.topology = topology :=
  (run.reaches (consistent_start topology)).topology_eq

end Platform
end ClockManager
