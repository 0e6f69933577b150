import ClockManager.Proofs.Platform.Answering
import Mathlib.Data.Fintype.EquivFin
import Mathlib.Data.Set.Finite.Basic
import Mathlib.Data.UInt
/-!
# Coming to rest

There is no timeout: a slot is freed by nothing but the end of its request. So a platform comes to
rest only if every request can be brought to its end. It takes one call for each queued item, which
leaves the queue empty, and then one completion for each device that is still busy. It does not
matter what the collaborators answer meanwhile, or what the completions say: an item leaves the
queue before its outcome is known, and a slot is freed before the answer to its owner is sent.
-/

namespace ClockManager

namespace Tracker

variable {tracker after : Tracker} {device : DeviceId} {slot : Slot} {p : Slot → Bool}

/-- No slot is busy but that of a device that has a number. -/
def Addressed (tracker : Tracker) : Prop :=
  ∀ index slot, tracker.slots[index]? = some (some slot) → ∃ device : DeviceId, device.index = index

theorem addressed_empty (deviceCount : Nat) : (empty deviceCount).Addressed := by
  intro index slot h
  simp [empty, List.getElem?_replicate] at h

theorem Addressed.acquire (h : tracker.Addressed) (acquired : tracker.acquire device slot = .ok after) :
    after.Addressed := by
  obtain ⟨-, rfl⟩ := acquire_eq_ok_iff.1 acquired
  intro index held hheld
  by_cases heq : device.index = index
  · exact ⟨device, heq⟩
  · rw [List.getElem?_set_ne heq] at hheld
    exact h index held hheld

theorem Addressed.release (h : tracker.Addressed) (device : DeviceId) :
    (tracker.release device).2.Addressed := by
  intro index held hheld
  by_cases heq : device.index = index
  · exact ⟨device, heq⟩
  · rw [Tracker.release, List.getElem?_set_ne heq] at hheld
    exact h index held hheld

theorem Addressed.count_eq_zero (h : tracker.Addressed)
    (hidle : ∀ device, tracker.slot? device = none) : tracker.count p = 0 := by
  rw [count, List.countP_eq_zero]
  intro held hmem
  cases held with
  | none => simp
  | some slot =>
    obtain ⟨index, hindex⟩ := List.mem_iff_getElem?.1 hmem
    obtain ⟨device, rfl⟩ := h index slot hindex
    have hbusy := slot?_eq_some_iff.2 hindex
    rw [hidle device] at hbusy
    cases hbusy

end Tracker

namespace Platform

variable {topology : Topology} {before mid after platform : Platform} {events : List Event}
  {moves : List Move} {history : History} {result : OperationResult}

theorem Step.addressed (step : before.Step events after) (h : before.tracker.Addressed) :
    after.tracker.Addressed := by
  cases step with
  | answered => exact h
  | contended => exact h
  | claimed _ acquired => exact h.acquire acquired
  | deferred => exact h
  | settled _ _ _ finished =>
    rw [(Topology.takes_finish finished).1]
    exact h.release _
  | completed _ finished =>
    rw [(Topology.takes_finish finished).1]
    exact h.release _
  | unsolicited => exact h

theorem Reaches.addressed (reached : before.Reaches events after) (h : before.tracker.Addressed) :
    after.tracker.Addressed := by
  induction reached with
  | refl => exact h
  | tail _ step ih => exact step.addressed ih

theorem Runs.owed_eq_zero (run : (start topology).Runs moves platform)
    (hidle : ∀ device, platform.tracker.slot? device = none) (service : ServiceId) :
    platform.owed service = 0 := by
  have reached := run.reaches (consistent_start topology)
  have haddressed := reached.addressed (Tracker.addressed_empty topology.deviceCount)
  exact haddressed.count_eq_zero hidle

/-! ### The queue -/

/-- A call that runs an item takes it off the queue, whatever comes of it; it finds none exactly
when the queue is empty. -/
theorem queue_of_takes_runNext
    (takes : (before.perform .runNext).Takes history (result, after)) :
    after.queue = before.queue.drop 1 ∧
      (before.queue ≠ [] → ∃ outcome, result = .ranNext (some outcome)) := by
  obtain ⟨ran, rfl, hrun⟩ := takes_result_iff.1 takes
  cases queued : before.queue with
  | nil =>
    unfold runNext at hrun
    rw [queued] at hrun
    obtain ⟨-, hend⟩ := hrun
    obtain ⟨-, rfl⟩ := Prod.mk.inj hend
    exact ⟨queued, fun h => absurd rfl h⟩
  | cons item queue =>
    obtain ⟨outcome, tracker, rfl, rfl, -⟩ := takes_runNext queued hrun
    exact ⟨rfl, fun _ => ⟨outcome, rfl⟩⟩

theorem Runs.queue_of_runNexts {nexts : List Move} (run : before.Runs nexts after)
    (h : ∀ move ∈ nexts, move.operation = .runNext) :
    after.queue = before.queue.drop nexts.length ∧
      (nexts.length ≤ before.queue.length →
        ∀ move ∈ nexts, ∃ outcome, move.result = .ranNext (some outcome)) := by
  induction run with
  | nil => simp
  | @snoc moves mid after move run takes ih =>
    rw [List.forall_mem_append] at h
    obtain ⟨hqueue, hresults⟩ := ih h.1
    rw [h.2 move List.mem_cons_self] at takes
    obtain ⟨hdrop, hran⟩ := queue_of_takes_runNext takes
    rw [hqueue, List.drop_drop] at hdrop
    refine ⟨by rw [hdrop, List.length_append, List.length_singleton], fun hle => ?_⟩
    rw [List.length_append, List.length_singleton] at hle
    have hleft : mid.queue ≠ [] := by
      rw [hqueue, ne_eq, List.drop_eq_nil_iff]
      omega
    rw [List.forall_mem_append]
    refine ⟨hresults (by omega), fun other hother => ?_⟩
    rw [List.mem_singleton.1 hother]
    exact hran hleft

theorem forall_runNext_of_map_eq {nexts : List Move} {count : Nat}
    (h : nexts.map Move.operation = List.replicate count .runNext) :
    nexts.length = count ∧ ∀ move ∈ nexts, move.operation = .runNext := by
  obtain ⟨hlength, hnext⟩ := List.eq_replicate_iff.1 h
  rw [List.length_map] at hlength
  exact ⟨hlength, fun move hmove => hnext _ (List.mem_map_of_mem hmove)⟩

/-! ### Completions -/

/-- A completion for a busy device of which nothing is queued frees that device and no other one,
whatever it says and whether or not the answer to the owner can be sent. -/
theorem slot?_of_takes_complete {completion : Completion}
    (unqueued : ∀ item ∈ before.queue, item.device ≠ completion.device)
    (busy : before.isBusy completion.device)
    (takes : (before.perform (.complete completion)).Takes history (result, after)) :
    after.queue = before.queue ∧
      (∀ device, after.tracker.slot? device =
        if device = completion.device then none else before.tracker.slot? device) ∧
      ∀ device, result ≠ .completed (.error (.unsolicited device)) := by
  obtain ⟨completed, rfl, hcomplete⟩ := takes_result_iff.1 takes
  obtain ⟨slot, hslot⟩ := Option.isSome_iff_exists.1 busy
  have hawaited := awaited?_eq_some_iff.2 ⟨hslot, unqueued⟩
  rcases takes_complete hcomplete with
    ⟨unawaited, -⟩ | ⟨found, sent, tracker, -, finished, rfl, rfl⟩
  · rw [hawaited] at unawaited
    cases unawaited
  · refine ⟨rfl, fun device => ?_, fun device h => ?_⟩
    · rw [(Topology.takes_finish finished).1, Tracker.slot?_release]
    · exact verdict_ne_unsolicited completion found sent device (OperationResult.completed.inj h)

theorem Runs.slot?_of_completions {completions : List Completion} {endings : List Move}
    (run : before.Runs endings after)
    (hoperations : endings.map Move.operation = completions.map .complete)
    (hqueue : before.queue = []) (hnodup : (completions.map Completion.device).Nodup)
    (hbusy : ∀ device ∈ completions.map Completion.device, before.isBusy device) :
    after.queue = [] ∧
      (∀ device, after.tracker.slot? device =
        if device ∈ completions.map Completion.device then none
        else before.tracker.slot? device) ∧
      ∀ move ∈ endings, ∀ device, move.result ≠ .completed (.error (.unsolicited device)) := by
  -- The first completion leaves the other devices busy, because they differ from its own.
  induction completions generalizing before endings with
  | nil =>
    rw [List.map_nil, List.map_eq_nil_iff] at hoperations
    subst hoperations
    obtain rfl := runs_nil.1 run
    simp [hqueue]
  | cons completion completions ih =>
    rw [List.map_cons, List.map_eq_cons_iff] at hoperations
    obtain ⟨move, more, rfl, hfirst, hmore⟩ := hoperations
    rw [← List.singleton_append] at run
    obtain ⟨mid, first, second⟩ := runs_append.1 run
    rw [runs_singleton, hfirst] at first
    rw [List.map_cons, List.nodup_cons] at hnodup
    rw [List.map_cons, List.forall_mem_cons] at hbusy
    have hunqueued : ∀ item ∈ before.queue, item.device ≠ completion.device := by simp [hqueue]
    obtain ⟨hmidQueue, hmidSlot, hresult⟩ := slot?_of_takes_complete hunqueued hbusy.1 first
    have hmidBusy : ∀ device ∈ completions.map Completion.device, mid.isBusy device := by
      intro device hmem
      have hne : device ≠ completion.device := fun heq => hnodup.1 (heq ▸ hmem)
      rw [isBusy, hmidSlot, if_neg hne]
      exact hbusy.2 device hmem
    obtain ⟨hafterQueue, hafterSlot, hresults⟩ :=
      ih second hmore (hmidQueue.trans hqueue) hnodup.2 hmidBusy
    refine ⟨hafterQueue, fun device => ?_, List.forall_mem_cons.2 ⟨hresult, hresults⟩⟩
    rw [hafterSlot, hmidSlot, List.map_cons]
    by_cases heq : device = completion.device <;> simp [heq]

/-! ### Coming to rest -/

/-- As many items are run as are queued, which leaves `drained`, and then each device that is busy
there gets one completion, which leaves `rest`. -/
structure Drains (platform : Platform) (nexts : List Move) (drained : Platform)
    (completions : List Completion) (endings : List Move) (rest : Platform) : Prop where
  nexts_operations : nexts.map Move.operation = List.replicate platform.queue.length .runNext
  runs_nexts : platform.Runs nexts drained
  nodup : (completions.map Completion.device).Nodup
  mem_iff : ∀ device, device ∈ completions.map Completion.device ↔ drained.isBusy device
  endings_operations : endings.map Move.operation = completions.map .complete
  runs_endings : drained.Runs endings rest

variable {nexts endings prior : List Move} {drained rest : Platform}
  {completions : List Completion}

theorem Drains.forall_runNext (drains : platform.Drains nexts drained completions endings rest) :
    nexts.length = platform.queue.length ∧ ∀ move ∈ nexts, move.operation = .runNext :=
  forall_runNext_of_map_eq drains.nexts_operations

theorem Drains.queue_of_prefix (drains : platform.Drains nexts drained completions endings rest)
    (hprior : prior <+: nexts) (run : platform.Runs prior mid) :
    mid.queue = platform.queue.drop prior.length := by
  have hnext := drains.forall_runNext.2
  exact (run.queue_of_runNexts fun move hmove => hnext move (hprior.subset hmove)).1

theorem Drains.queue_drained (drains : platform.Drains nexts drained completions endings rest) :
    drained.queue = [] := by
  rw [drains.queue_of_prefix (List.prefix_refl nexts) drains.runs_nexts,
    drains.forall_runNext.1, List.drop_length]

/-- While the completions come in, the busy devices are those whose completion is still to come. -/
theorem Drains.isBusy_of_prefix (drains : platform.Drains nexts drained completions endings rest)
    (hprior : prior <+: endings) (run : drained.Runs prior mid) (device : DeviceId) :
    mid.isBusy device ↔ device ∈ (completions.drop prior.length).map Completion.device := by
  have hoperations : prior.map Move.operation =
      (completions.take prior.length).map .complete := by
    have hmap := List.prefix_iff_eq_take.1 (hprior.map Move.operation)
    rwa [drains.endings_operations, List.length_map, ← List.map_take] at hmap
  have hnodup := drains.nodup
  have hmem := drains.mem_iff
  rw [← List.take_append_drop prior.length completions, List.map_append] at hnodup hmem
  obtain ⟨hnodupTaken, -, hdisjoint⟩ := List.nodup_append.1 hnodup
  obtain ⟨-, hslot, -⟩ := run.slot?_of_completions hoperations drains.queue_drained hnodupTaken
    fun other hother => (hmem other).1 (List.mem_append_left _ hother)
  rw [isBusy, hslot]
  by_cases htaken : device ∈ (completions.take prior.length).map Completion.device
  · rw [if_pos htaken]
    have hnot : device ∉ (completions.drop prior.length).map Completion.device :=
      fun hleft => hdisjoint device htaken device hleft rfl
    simp only [Option.isSome_none, Bool.false_eq_true, hnot]
  · rw [if_neg htaken, ← isBusy, ← hmem, List.mem_append, or_iff_right htaken]

/-- The platform is never stuck: whatever it is asked to do, and however the collaborators answer
as long as they do, the operations are carried out. -/
theorem exists_runs {p : Exchange → Prop} (h : ∀ query, ∃ answer, p ⟨query, answer⟩)
    (operations : List Operation) (before : Platform) :
    ∃ moves after, moves.map Move.operation = operations ∧ before.Runs moves after ∧
      ∀ move ∈ moves, ∀ made ∈ move.history, p made := by
  induction operations generalizing before with
  | nil => exact ⟨[], before, rfl, .nil, nofun⟩
  | cons operation operations ih =>
    obtain ⟨history, ⟨result, mid⟩, takes, hmade⟩ :=
      Dialogue.exists_takes h (before.perform operation)
    obtain ⟨moves, after, hoperations, run, hmoves⟩ := ih mid
    refine ⟨⟨operation, history, result⟩ :: moves, after, ?_, ?_, ?_⟩
    · rw [List.map_cons, hoperations]
    · rw [← List.singleton_append]
      exact (runs_singleton.2 takes).trans run
    · exact List.forall_mem_cons.2 ⟨hmade, hmoves⟩

/-- There are completions for exactly the devices that are busy, with results as one likes. -/
theorem exists_completions (platform : Platform)
    (results : DeviceId → Except HardwareError Value) :
    ∃ completions : List Completion, (completions.map Completion.device).Nodup ∧
      (∀ device, device ∈ completions.map Completion.device ↔ platform.isBusy device) ∧
      ∀ completion ∈ completions, completion.result = results completion.device := by
  have hfinite : Finite DeviceId :=
    Finite.of_injective (fun device => device.raw.toFin) fun left right h => by
      cases left
      cases right
      exact congrArg DeviceId.mk (UInt32.toFin_inj.1 h)
  let devices := (Set.toFinite {device | platform.isBusy device}).toFinset.toList
  have hdevices : (devices.map fun device => (⟨device, results device⟩ : Completion)).map
      Completion.device = devices := by
    rw [List.map_map]
    exact List.map_id devices
  refine ⟨devices.map fun device => ⟨device, results device⟩, ?_, fun device => ?_, ?_⟩
  · rw [hdevices]
    exact Finset.nodup_toList _
  · rw [hdevices, Finset.mem_toList, Set.Finite.mem_toFinset, Set.mem_ofPred_eq]
  · intro completion hmem
    obtain ⟨device, -, rfl⟩ := List.mem_map.1 hmem
    rfl

/-- From every state of every run a platform comes to rest. As many calls as there are queued items
empty the queue, one item each, and then one completion for each device that is still busy frees
that device and no other one; none of them is turned away. No device is busy then, nothing is
queued, and each channel has had as many answers as messages have come in on it. It makes no
difference what the completions say, or what the collaborators answer on the way; and whatever they
answer, it can be done. -/
theorem Runs.comes_to_rest (run : (start topology).Runs moves platform) :
    (∀ nexts drained completions endings rest,
      platform.Drains nexts drained completions endings rest →
        (∀ prior mid, prior <+: nexts → platform.Runs prior mid →
          mid.queue = platform.queue.drop prior.length) ∧
        (∀ move ∈ nexts, ∃ outcome, move.result = .ranNext (some outcome)) ∧
        (∀ prior mid, prior <+: endings → drained.Runs prior mid → ∀ device,
          mid.isBusy device ↔ device ∈ (completions.drop prior.length).map Completion.device) ∧
        (∀ move ∈ endings, ∀ device, move.result ≠ .completed (.error (.unsolicited device))) ∧
        rest.queue = [] ∧ (∀ device, rest.isBusy device = false) ∧
        ∀ service, (moves ++ nexts ++ endings).countP (·.isReceipt service) =
          (ClockManager.events (moves ++ nexts ++ endings)).countP
            (Event.isResponse service)) ∧
      ∀ p : Exchange → Prop, (∀ query, ∃ answer, p ⟨query, answer⟩) →
        ∀ results : DeviceId → Except HardwareError Value,
          ∃ nexts drained completions endings rest,
            platform.Drains nexts drained completions endings rest ∧
            (∀ completion ∈ completions, completion.result = results completion.device) ∧
            ∀ move ∈ nexts ++ endings, ∀ made ∈ move.history, p made := by
  constructor
  · intro nexts drained completions endings rest drains
    obtain ⟨hlength, hnext⟩ := drains.forall_runNext
    obtain ⟨-, hresults⟩ := drains.runs_nexts.queue_of_runNexts hnext
    obtain ⟨hqueue, hslot, htaken⟩ := drains.runs_endings.slot?_of_completions
      drains.endings_operations drains.queue_drained drains.nodup
      fun device => (drains.mem_iff device).1
    have hidle : ∀ device, rest.tracker.slot? device = none := by
      intro device
      rw [hslot]
      by_cases hmem : device ∈ completions.map Completion.device
      · rw [if_pos hmem]
      · rw [if_neg hmem]
        rwa [drains.mem_iff, isBusy, Option.not_isSome_iff_eq_none] at hmem
    have whole := (run.trans drains.runs_nexts).trans drains.runs_endings
    refine ⟨fun prior mid => drains.queue_of_prefix, hresults hlength.le,
      fun prior mid => drains.isBusy_of_prefix, htaken, hqueue, fun device => ?_,
      fun service => ?_⟩
    · rw [isBusy, hidle, Option.isSome_none]
    · have hbalance := (whole.reaches (consistent_start topology)).balance service
      rw [whole.owed_eq_zero hidle, countP_isMessage_events] at hbalance
      have hstart : (start topology).owed service = 0 := Tracker.count_empty _
      omega
  · intro p answerable results
    obtain ⟨nexts, drained, hnexts, runNexts, hmadeNexts⟩ :=
      exists_runs answerable (List.replicate platform.queue.length .runNext) platform
    obtain ⟨completions, hnodup, hmem, hcompletions⟩ := exists_completions drained results
    obtain ⟨endings, rest, hendings, runEndings, hmadeEndings⟩ :=
      exists_runs answerable (completions.map .complete) drained
    refine ⟨nexts, drained, completions, endings, rest,
      ⟨hnexts, runNexts, hnodup, hmem, hendings, runEndings⟩, hcompletions, ?_⟩
    exact List.forall_mem_append.2 ⟨hmadeNexts, hmadeEndings⟩

open Bench in
/-- After the sample session the CPU is to be asked for its state, and the GPU is being stopped. The
hardware fails the one, a rate comes in for the other, and both answers are lost. That was all: the
platform is at rest, and the four messages of the second channel have had their four answers. -/
theorem comes_to_rest_sample :
    let drained := (drainingSession.perform (.operate .runNext)).2
    let rest := (drained.perform (.operate (.complete ⟨⟨1⟩, .ok (.rate 5)⟩))).2
    let moves := sampleSession.moves sampleSteps ++ [drainingSession.move .runNext] ++
      [drained.move (.complete ⟨⟨1⟩, .ok (.rate 5)⟩)]
    (drainingSession.platform.queue.length = 1 ∧ drainingSession.platform.tracker.busyCount = 2 ∧
        (drainingSession.move .runNext).result = .ranNext (some (.error (.noMessage ⟨10⟩)))) ∧
      rest.platform.queue = [] ∧ (∀ device, rest.platform.isBusy device = false) ∧
      4 = (ClockManager.events moves).countP (Event.isResponse ⟨11⟩) := by
  intro drained rest moves
  have run : (start sampleTopology).Runs (sampleSession.moves sampleSteps)
      drainingSession.platform := sampleSession.runs_moves sampleSteps
  have hslots : drained.platform.tracker.slots =
      [none, some ⟨⟨⟨11⟩, ⟨1⟩, 0⟩, .setState, some .stopped⟩] := rfl
  have drains : drainingSession.platform.Drains [drainingSession.move .runNext] drained.platform
      [⟨⟨1⟩, .ok (.rate 5)⟩] [drained.move (.complete ⟨⟨1⟩, .ok (.rate 5)⟩)] rest.platform := by
    refine ⟨rfl, drainingSession.runs_move _, by decide, fun device => ?_, rfl,
      drained.runs_move _⟩
    rw [List.map_singleton, List.mem_singleton, ← DeviceId.index_inj, isBusy, Tracker.slot?, hslots]
    rcases device.index with _ | _ | index
    · decide
    · decide
    · simp [DeviceId.index]
  obtain ⟨hdrains, -⟩ := run.comes_to_rest
  obtain ⟨-, -, -, -, hqueue, hidle, hbalance⟩ := hdrains _ _ _ _ _ drains
  exact ⟨⟨rfl, by decide, rfl⟩, hqueue, hidle, hbalance ⟨11⟩⟩

end Platform
end ClockManager
