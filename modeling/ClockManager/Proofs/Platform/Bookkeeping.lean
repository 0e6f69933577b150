import ClockManager.Proofs.Platform.Commits
import ClockManager.Proofs.Report
/-!
# The tables agree with the hardware

By the tables of the sharing policy a device runs when somebody holds it, and is stopped when nobody
does. That is what the hardware has reported of it all along, because a state enters the tables when
it is applied and at no other time. The work that the hardware still has for a device is the work of
the slot that awaits a completion, so a completion is put down to the right call.
-/

namespace ClockManager

theorem Slot.IsFor.applied?_eq {slot : Slot} {work : Work} (h : slot.IsFor work)
    (result : Except HardwareError Value) : slot.applied? result = work.applied? result := by
  obtain ⟨hkind, htarget⟩ := h
  cases result with
  | error error => rfl
  | ok value =>
    cases value with
    | applied =>
      rw [applied?, hkind, htarget]
      cases work <;> rfl
    | _ => rfl

namespace Platform

variable {topology : Topology} {before after platform : Platform} {events : List Event}
  {moves : List Move} {tables : Sharing} {initial : ClockState} {device other : DeviceId}
  {report : DeviceReport} {slot : Slot}

/-! ### The tally -/

/-- What is kept about a device agrees with what is reported of it: the hardware has the work of the
slot that awaits a completion, the tables know the last state that was applied, and the states that
were applied alternate. -/
structure Tallies (tables : Sharing) (initial : ClockState) (platform : Platform)
    (device : DeviceId) (report : DeviceReport) : Prop where
  pending : ∀ slot, platform.awaited? device = some slot →
    ∃ work, report.pending? = some work ∧ slot.IsFor work
  state_eq : tables.deviceState device = report.state initial
  alternates : (report.applied ++ [initial]).IsChain (· ≠ ·)

theorem Tallies.of_awaited?_eq (h : Tallies tables initial before device report)
    (heq : after.awaited? device = before.awaited? device) :
    Tallies tables initial after device report :=
  ⟨heq ▸ h.pending, h.state_eq, h.alternates⟩

/-- What the hardware is asked to do for a slot is not what it did last. -/
theorem Tallies.ne_state {work : Work} {state : ClockState}
    (h : Tallies tables initial before device report) (backs : tables.Backs before)
    (busy : before.tracker.slot? device = some slot) (isFor : slot.IsFor work)
    (target : work.target? = some state) : state ≠ report.state initial := by
  rw [← h.state_eq]
  exact (backs device slot state busy (isFor.2.trans target)).ne_deviceState

theorem Tallies.changes {work : Work} {exchange : Exchange}
    {settled? : Option (Except HardwareError Value)}
    (h : Tallies tables initial before device report) (backs : tables.Backs before)
    (busy : before.tracker.slot? other = some slot) (isFor : slot.IsFor work)
    (touched : exchange.touch? = some ⟨other, work, settled?⟩) :
    DeviceReport.Changes device initial report (.exchange exchange) := by
  refine DeviceReport.changes_of_touch? touched fun heq state target => ?_
  subst heq
  exact h.ne_state backs busy isFor target

theorem Tallies.defer {item : WorkItem} {queue : List WorkItem}
    (h : Tallies tables initial before device report) (consistent : before.Consistent)
    (queued : before.queue = item :: queue) (busy : before.tracker.slot? item.device = some slot) :
    Tallies tables initial { before with queue } device
      (if item.device = device then report.settle item.work none else report) := by
  by_cases heq : item.device = device
  · subst heq
    have hawaited : awaited? { before with queue } item.device = some slot :=
      awaited?_eq_some_iff.2 ⟨busy, consistent.device_ne_of_queue_eq_cons queued⟩
    rw [if_pos rfl]
    refine ⟨fun found hfound => ?_, h.state_eq, h.alternates⟩
    cases hawaited.symm.trans hfound
    exact ⟨item.work, rfl, consistent.slot_isFor queued busy⟩
  · rw [if_neg heq]
    exact h.of_awaited?_eq (awaited?_of_queue_eq_cons queued heq)

theorem Tallies.settle {work : Work} (h : Tallies tables initial before device report)
    (backs : tables.Backs before) (busy : before.tracker.slot? device = some slot)
    (isFor : slot.IsFor work) (result : Except HardwareError Value)
    (freed : after.awaited? device = none) :
    Tallies (tables.commit slot.owner device (slot.applied? result)) initial after device
      (report.settle work (some result)) := by
  have hunawaited : ∀ found, after.awaited? device = some found →
      ∃ work, (none : Option Work) = some work ∧ found.IsFor work := by
    intro found hfound
    simp [freed] at hfound
  rw [DeviceReport.settle, ← isFor.applied?_eq]
  cases happlied : slot.applied? result with
  | none => exact ⟨hunawaited, h.state_eq, h.alternates⟩
  | some state =>
    have htarget := Slot.target?_of_applied? happlied
    have hready := backs device slot state busy htarget
    have hne := h.ne_state backs busy isFor (isFor.2.symm.trans htarget)
    exact ⟨hunawaited, Sharing.deviceState_put_self hready.refcount?_isSome,
      DeviceReport.isChain_cons hne h.alternates⟩

theorem Tallies.commit_of_ne (h : Tallies tables initial before other report)
    (hne : other ≠ device) (heq : after.awaited? other = before.awaited? other) (owner : SlotOwner)
    (applied? : Option ClockState) :
    Tallies (tables.commit owner device applied?) initial after other report := by
  refine { h.of_awaited?_eq heq with state_eq := ?_ }
  rw [← h.state_eq]
  cases applied? with
  | none => rfl
  | some state => exact Sharing.deviceState_put_of_ne hne

/-! ### Steps and runs -/

/-- Taking a message in touches no clock, and commits nothing. -/
theorem Tallies.takes_assess {service : ServiceId} {raw : UInt32} {payload : Bytes}
    {consulted : History} {admission : Admission} {last : Exchange}
    (h : Tallies tables initial after device report)
    (assessed : (topology.assess service raw payload).Takes consulted admission)
    (unchanged : ∀ tables : Sharing, tables.next (.exchange last) = tables)
    (untouched : last.touch? = none) :
    Tallies (tables.after (.message service raw payload :: exchanges (consulted ++ [last])))
        initial after device
        ((Event.message service raw payload :: exchanges (consulted ++ [last])).foldl
          (DeviceReport.next device) report) ∧
      Along (DeviceReport.next device) (DeviceReport.Changes device initial) report
        (.message service raw payload :: exchanges (consulted ++ [last])) := by
  have huntouched := touch?_eq_none_of_consultation_append
    (Topology.consultation_of_takes_assess assessed) untouched
  have hreport : (Event.message service raw payload :: exchanges (consulted ++ [last])).foldl
      (DeviceReport.next device) report = report := DeviceReport.foldl_of_untouched huntouched
  rw [after_of_takes_assess assessed unchanged, hreport]
  exact ⟨h, trivial, DeviceReport.changes_along huntouched⟩

theorem Step.tallies (step : before.Step events after) (consistent : before.Consistent)
    (backs : tables.Backs before) (serves : tables.Serves events)
    (h : Tallies tables initial before device report) :
    Tallies (tables.after events) initial after device
        (events.foldl (DeviceReport.next device) report) ∧
      Along (DeviceReport.next device) (DeviceReport.Changes device initial) report events := by
  cases step with
  | answered assessed => exact h.takes_assess assessed (fun _ => rfl) rfl
  | contended assessed => exact h.takes_assess assessed (fun _ => rfl) rfl
  | claimed assessed acquired =>
    exact (h.of_awaited?_eq (awaited?_claim acquired)).takes_assess assessed (fun _ => rfl) rfl
  | deferred queued busy touched =>
    have hchanges := h.changes backs busy (consistent.slot_isFor queued busy) touched
    rw [exchanges_cons, Sharing.after_cons, Sharing.next_of_touch? touched, List.foldl_cons,
      DeviceReport.next_of_touch? touched]
    exact ⟨h.defer consistent queued busy, hchanges, trivial, trivial⟩
  | @settled item queue slot _ result _ _ _ queued busy touched finished =>
    have isFor := consistent.slot_isFor queued busy
    have hchanges := h.changes backs busy isFor touched
    have huntouched := touch?_eq_none_of_takes_finish finished
    rw [backs.after_of_settled busy finished touched serves, exchanges_cons, List.foldl_cons,
      DeviceReport.foldl_of_untouched huntouched, DeviceReport.next_of_touch? touched,
      (Topology.takes_finish finished).1]
    refine ⟨?_, hchanges, DeviceReport.changes_along huntouched⟩
    by_cases heq : item.device = device
    · subst heq
      rw [if_pos rfl]
      exact h.settle backs busy isFor result (by simp [awaited?, Tracker.slot?_release])
    · have hne : device ≠ item.device := fun h => heq h.symm
      rw [if_neg heq]
      exact h.commit_of_ne hne ((awaited?_of_settled queued).trans (if_neg hne)) _ _
  | @completed completion slot _ _ _ awaited finished =>
    have busy := (awaited?_eq_some_iff.1 awaited).1
    have huntouched := touch?_eq_none_of_takes_finish finished
    rw [Sharing.after_cons_completion, backs.after_of_takes_finish busy finished serves.2,
      List.foldl_cons, DeviceReport.foldl_of_untouched huntouched,
      (Topology.takes_finish finished).1]
    refine ⟨?_, trivial, DeviceReport.changes_along huntouched⟩
    by_cases heq : completion.device = device
    · subst heq
      obtain ⟨work, hpending, isFor⟩ := h.pending slot awaited
      rw [DeviceReport.next, hpending]
      dsimp only
      rw [if_pos rfl]
      exact h.settle backs busy isFor completion.result (by rw [awaited?_release, if_pos rfl])
    · have hne : device ≠ completion.device := fun h => heq h.symm
      rw [DeviceReport.next_completion_of_ne heq]
      exact h.commit_of_ne hne (by rw [awaited?_release, if_neg hne]) _ _
  | unsolicited => exact ⟨h, trivial, trivial⟩

theorem Reaches.tallies (reached : before.Reaches events after) (consistent : before.Consistent)
    (backs : tables.Backs before) (serves : tables.Serves events)
    (h : Tallies tables initial before device report) :
    Tallies (tables.after events) initial after device
        (events.foldl (DeviceReport.next device) report) ∧
      Along (DeviceReport.next device) (DeviceReport.Changes device initial) report events := by
  induction reached with
  | refl => exact ⟨h, trivial⟩
  | tail reached step ih =>
    obtain ⟨hreached, hstep⟩ := Sharing.serves_append.1 serves
    obtain ⟨htallies, halong⟩ := ih hreached
    have hbacks := (reached.commits backs hreached).1
    obtain ⟨htallies', halong'⟩ :=
      step.tallies (reached.consistent consistent) hbacks hstep htallies
    rw [Sharing.after_append, List.foldl_append, along_append]
    exact ⟨htallies', halong, halong'⟩

theorem tallies_start (tables : Sharing) (topology : Topology) (device : DeviceId) :
    Tallies tables (tables.deviceState device) (start topology) device {} := by
  have hnone : (start topology).awaited? device = none := by
    simp [awaited?, start, Tracker.slot?_empty]
  exact ⟨fun slot hslot => by simp [hnone] at hslot, rfl, by simp⟩

/-- With the sharing policy of the topology, a device has holders exactly if the hardware has last
reported it running, or, before it has reported anything, if it had holders at the start. Every call
that sets the state of a device asks for another state than that, so the states that the hardware
reports alternate. -/
theorem Runs.counts_agree_with_hardware (run : (start topology).Runs moves platform)
    (serves : (Sharing.ofTopology topology).Serves (ClockManager.events moves))
    (device : DeviceId) :
    let initial := (Sharing.ofTopology topology).deviceState device
    (device.index < topology.deviceCount → ∃ refcount,
        ((Sharing.ofTopology topology).after (ClockManager.events moves)).refcount? device =
            some refcount ∧
          (refcount ≠ 0 ↔
            (DeviceReport.after device (ClockManager.events moves)).state initial = .running)) ∧
      (∀ past state answer later,
        ClockManager.events moves = past ++ .exchange ⟨.setState device state, answer⟩ :: later →
          state ≠ (DeviceReport.after device past).state initial) ∧
      ((DeviceReport.after device (ClockManager.events moves)).applied ++ [initial]).IsChain
        (· ≠ ·) := by
  have hstart := consistent_start topology
  obtain ⟨htallies, halong⟩ := (run.reaches hstart).tallies hstart
    (backs_start _ topology) serves (tallies_start _ topology device)
  refine ⟨fun hlt => ?_, fun past state answer later hsplit => ?_, htallies.alternates⟩
  · have hcount : device.index <
        ((Sharing.ofTopology topology).after (ClockManager.events moves)).deviceCount := by
      rwa [Sharing.deviceCount_after, Sharing.deviceCount_ofTopology]
    obtain ⟨refcount, hrefcount⟩ := Sharing.refcount?_eq_some_of_lt hcount
    refine ⟨refcount, hrefcount, ?_⟩
    rw [Sharing.ne_zero_iff_deviceState hrefcount, htallies.state_eq]
    rfl
  · exact halong.allowed_of_eq_append hsplit rfl

open Bench in
/-- In the sample session the hardware reports the GPU started, and the policy counts one holder.
The CPU had a holder at the start, and the stop that failed has not changed that. -/
theorem counts_agree_with_hardware_sample :
    (∃ refcount,
      ((Sharing.ofTopology sampleTopology).after
          (ClockManager.events (sampleSession.moves sampleSteps))).refcount? ⟨1⟩ = some refcount ∧
        refcount = 1 ∧
        (DeviceReport.after ⟨1⟩ (ClockManager.events (sampleSession.moves sampleSteps))).state
          .stopped = .running) ∧
      (DeviceReport.after ⟨1⟩ (ClockManager.events (sampleSession.moves sampleSteps))).applied =
        [.running] ∧
      (DeviceReport.after ⟨0⟩ (ClockManager.events (sampleSession.moves sampleSteps))).state
        ((Sharing.ofTopology sampleTopology).deviceState ⟨0⟩) = .running := by
  have hruns := sampleSession.runs_moves sampleSteps
  have hserves : (Sharing.ofTopology sampleTopology).Serves
      (ClockManager.events (sampleSession.moves sampleSteps)) := Session.serves_moves rfl _
  obtain ⟨refcount, hrefcount, hiff⟩ :=
    (Runs.counts_agree_with_hardware hruns hserves ⟨1⟩).1 (by decide)
  have hone : refcount = 1 := Option.some.inj (hrefcount.symm.trans (by decide))
  exact ⟨⟨refcount, hrefcount, hone, hiff.1 (by rw [hone]; decide)⟩, by decide, by decide⟩

end Platform
end ClockManager
