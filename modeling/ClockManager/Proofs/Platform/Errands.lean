import ClockManager.Proofs.Errand
import ClockManager.Proofs.Platform.Step
/-!
# Slots and the errands they are claimed for

A slot keeps an owner, a kind and a target, and nothing of the message that has claimed it. Yet they
are at all times what was made of the last message that has claimed the device. So whatever is done
to a device by its slot can be traced back to that message, and to what was heard about it.
-/

namespace ClockManager

/-- The message was accepted as a request about the device, and the slot was claimed for that. -/
def Errand.Fills (topology : Topology) (errand : Errand) (device : DeviceId) (slot : Slot) : Prop :=
  ∃ clock work, (topology.assess errand.service errand.raw errand.payload).Takes errand.heard
      (.accept clock work) ∧
    clock.record.device = device ∧ slot = clock.claim errand.service work

theorem Errand.Fills.service_eq {topology : Topology} {errand : Errand} {device : DeviceId}
    {slot : Slot} (h : errand.Fills topology device slot) :
    errand.service = slot.owner.service := by
  obtain ⟨clock, work, -, -, rfl⟩ := h
  rfl

namespace Platform

variable {topology : Topology} {before after : Platform} {past more : List Event}

theorem claimed?_of_takes_assess {service : ServiceId} {raw : UInt32} {payload : Bytes}
    {consulted : History} {admission : Admission}
    (assessed : (topology.assess service raw payload).Takes consulted admission) :
    ∀ event ∈ Event.message service raw payload :: exchanges consulted, event.claimed? = none := by
  intro event hmem
  rcases List.mem_cons.1 hmem with rfl | hmem
  · rfl
  · obtain ⟨exchange, hexchange, rfl⟩ := List.mem_map.1 hmem
    rcases Topology.exists_assesses_of_takes_assess assessed exchange hexchange with
      hpermission | ⟨clock?, hassesses⟩
    · exact Event.claimed?_of_isPermission hpermission
    · exact Event.claimed?_of_assesses hassesses

theorem claimed?_of_takes_finish {tracker left : Tracker} {device : DeviceId} {slot : Slot}
    {result : Except HardwareError Value} {history : History} {sent : Except TransportError Unit}
    (finished : (topology.finish tracker device slot result).Takes history (sent, left)) :
    ∀ event ∈ exchanges history, event.claimed? = none := by
  intro event hmem
  obtain ⟨exchange, hexchange, rfl⟩ := List.mem_map.1 hmem
  exact Event.claimed?_of_ends (Topology.ends_of_takes_finish finished exchange hexchange)

/-- Every busy slot is there for the message that has claimed its device last. -/
def Charged (platform : Platform) (past : List Event) : Prop :=
  ∀ device slot, platform.tracker.slot? device = some slot →
    ∃ errand : Errand, errand.Holds device past ∧ errand.Fills platform.topology device slot

theorem charged_start (topology : Topology) (past : List Event) :
    (start topology).Charged past := by
  intro device slot busy
  simp [start, Tracker.slot?_empty] at busy

/-- Events that claim nothing change nothing about that, and neither do slots that are freed. -/
theorem Charged.append (h : before.Charged past) (topology_eq : after.topology = before.topology)
    (kept : ∀ device slot, after.tracker.slot? device = some slot →
      before.tracker.slot? device = some slot)
    (unclaimed : ∀ event ∈ more, event.claimed? = none) : after.Charged (past ++ more) := by
  intro device slot busy
  obtain ⟨errand, holds, fills⟩ := h device slot (kept device slot busy)
  refine ⟨errand, holds.append fun event hmem => by simp [unclaimed event hmem], ?_⟩
  rwa [topology_eq]

theorem slot?_of_slot?_release {tracker : Tracker} {device ended : DeviceId} {slot : Slot}
    (busy : (tracker.release ended).2.slot? device = some slot) :
    tracker.slot? device = some slot := by
  rw [Tracker.slot?_release] at busy
  split at busy
  · simp at busy
  · exact busy

theorem Step.charged (step : before.Step more after) (h : before.Charged past) :
    after.Charged (past ++ more) := by
  have hanswered {service : ServiceId} {raw : UInt32} {payload : Bytes} {consulted : History}
      {admission : Admission} {reply : Reply} {sent : Except TransportError Unit}
      (assessed : (before.topology.assess service raw payload).Takes consulted admission) :
      before.Charged (past ++ .message service raw payload ::
        exchanges (consulted ++ [⟨.respond service reply, sent⟩])) := by
    refine h.append rfl (fun _ _ busy => busy) ?_
    intro event hmem
    rw [exchanges_append, ← List.cons_append] at hmem
    rcases List.mem_append.1 hmem with hmem | hmem
    · exact claimed?_of_takes_assess assessed event hmem
    · rw [List.mem_singleton.1 hmem]
      rfl
  cases step with
  | answered assessed => exact hanswered assessed
  | contended assessed => exact hanswered assessed
  | @claimed service raw payload consulted clock work tracker assessed acquired =>
    have hunclaimed := claimed?_of_takes_assess assessed
    rw [exchanges_append, ← List.cons_append, ← List.append_assoc]
    intro device slot busy
    dsimp only at busy
    rw [Tracker.slot?_of_acquire acquired] at busy
    split at busy
    · rename_i hdevice
      subst hdevice
      exact ⟨⟨service, raw, payload, consulted⟩, ⟨_, _, [], rfl, ⟨past, rfl⟩, rfl, by simp⟩,
        clock, work, assessed, rfl, (Option.some.inj busy).symm⟩
    · rename_i hne
      obtain ⟨errand, holds, fills⟩ := h device slot busy
      refine ⟨errand, (holds.append fun event hmem => ?_).append fun event hmem => ?_, fills⟩
      · simp [hunclaimed event hmem]
      · rw [List.mem_singleton.1 hmem]
        exact fun heq => hne (Option.some.inj heq).symm
  | deferred queued busy touched =>
    refine h.append rfl (fun _ _ busy => busy) ?_
    intro event hmem
    rcases List.mem_cons.1 hmem with rfl | hmem
    · exact Event.claimed?_of_touch? touched
    · rw [List.mem_singleton.1 hmem]
      rfl
  | settled queued busy touched finished =>
    refine h.append rfl (fun _ _ kept => ?_) ?_
    · rw [(Topology.takes_finish finished).1] at kept
      exact slot?_of_slot?_release kept
    · intro event hmem
      rcases List.mem_cons.1 hmem with rfl | hmem
      · exact Event.claimed?_of_touch? touched
      · exact claimed?_of_takes_finish finished event hmem
  | completed awaited finished =>
    refine h.append rfl (fun _ _ kept => ?_) ?_
    · rw [(Topology.takes_finish finished).1] at kept
      exact slot?_of_slot?_release kept
    · intro event hmem
      rcases List.mem_cons.1 hmem with rfl | hmem
      · rfl
      · exact claimed?_of_takes_finish finished event hmem
  | unsolicited =>
    refine h.append rfl (fun _ _ busy => busy) ?_
    intro event hmem
    rw [List.mem_singleton.1 hmem]
    rfl

theorem Reaches.charged (reached : before.Reaches more after) (h : before.Charged past) :
    after.Charged (past ++ more) := by
  induction reached with
  | refl => rwa [List.append_nil]
  | tail _ step ih =>
    rw [← List.append_assoc]
    exact step.charged ih

/-! ### Slots that nothing claims -/

/-- A device that nothing claims keeps its slot, or it is freed. -/
theorem Step.slot?_of_unclaimed {device : DeviceId} (step : before.Step more after)
    (unclaimed : ∀ event ∈ more, event.claimed? ≠ some device) :
    after.tracker.slot? device = before.tracker.slot? device ∨
      after.tracker.slot? device = none := by
  cases step with
  | answered => exact .inl rfl
  | contended => exact .inl rfl
  | claimed _ acquired =>
    refine .inl ?_
    rw [Tracker.slot?_of_acquire acquired, if_neg]
    rintro rfl
    exact unclaimed _ (List.mem_cons_of_mem _ (exchange_mem_exchanges.2 List.mem_concat_self)) rfl
  | deferred => exact .inl rfl
  | @settled item _ _ _ _ _ _ _ _ _ _ finished =>
    rw [(Topology.takes_finish finished).1, Tracker.slot?_release]
    by_cases heq : device = item.device
    · exact .inr (if_pos heq)
    · exact .inl (if_neg heq)
  | @completed completion _ _ _ _ _ finished =>
    rw [(Topology.takes_finish finished).1, Tracker.slot?_release]
    by_cases heq : device = completion.device
    · exact .inr (if_pos heq)
    · exact .inl (if_neg heq)
  | unsolicited => exact .inl rfl

theorem Reaches.slot?_of_unclaimed {device : DeviceId} (reached : before.Reaches more after)
    (unclaimed : ∀ event ∈ more, event.claimed? ≠ some device) :
    after.tracker.slot? device = before.tracker.slot? device ∨
      after.tracker.slot? device = none := by
  induction reached with
  | refl => exact .inl rfl
  | tail _ step ih =>
    obtain ⟨hreached, hstep⟩ := List.forall_mem_append.1 unclaimed
    rcases step.slot?_of_unclaimed hstep with heq | hnone
    · rw [heq]
      exact ih hreached
    · exact .inr hnone

end Platform
end ClockManager
