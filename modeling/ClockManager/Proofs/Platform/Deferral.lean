import ClockManager.Proofs.Platform.Commits
import ClockManager.Proofs.Report
/-!
# Ending at once and ending later

It makes no difference to a request whether the hardware ends it at once or leaves it pending and
ends it with the same result later on, whatever the platform does in between: the same answer goes
to the same channel, the slot is free after it, and the sharing policy has come to the same entries
for the device.

The reason is that nobody else touches what the request depends on. The slot keeps its owner, kind
and target until the completion is taken, and while it is taken no step changes the entries that the
policy has for its device.
-/

namespace ClockManager

namespace Sharing

variable {tables other third : Sharing} {device elsewhere : DeviceId}

/-- Both have the same entries for a device. -/
structure SameOn (device : DeviceId) (tables other : Sharing) : Prop where
  refcount?_eq : tables.refcount? device = other.refcount? device
  state?_eq : ∀ agent, tables.state? agent device = other.state? agent device

theorem SameOn.refl (device : DeviceId) (tables : Sharing) : SameOn device tables tables :=
  ⟨rfl, fun _ => rfl⟩

theorem SameOn.symm (h : SameOn device tables other) : SameOn device other tables :=
  ⟨h.refcount?_eq.symm, fun agent => (h.state?_eq agent).symm⟩

theorem SameOn.trans (first : SameOn device tables other) (second : SameOn device other third) :
    SameOn device tables third :=
  ⟨first.refcount?_eq.trans second.refcount?_eq,
    fun agent => (first.state?_eq agent).trans (second.state?_eq agent)⟩

theorem SameOn.commit (h : SameOn device tables other) (owner : SlotOwner)
    (applied? : Option ClockState) :
    SameOn device (tables.commit owner device applied?) (other.commit owner device applied?) := by
  cases applied? with
  | none => exact h
  | some state =>
    constructor
    · rw [Sharing.commit, Sharing.commit, refcount?_put, refcount?_put, h.refcount?_eq]
    · intro agent
      rw [Sharing.commit, Sharing.commit, state?_put, state?_put, h.state?_eq]

theorem sameOn_commit_of_ne (h : device ≠ elsewhere) (owner : SlotOwner)
    (applied? : Option ClockState) :
    SameOn device tables (tables.commit owner elsewhere applied?) := by
  cases applied? with
  | none => exact .refl device tables
  | some state => exact ⟨(refcount?_put_of_ne h).symm, fun agent => (state?_put_of_ne h).symm⟩

end Sharing

theorem exists_complete_of_mem_events {moves : List Move} {completion : Completion}
    (h : .completion completion ∈ events moves) :
    ∃ move ∈ moves, move.operation = .complete completion := by
  obtain ⟨move, hmove, hmem⟩ := List.mem_flatMap.1 h
  refine ⟨move, hmove, ?_⟩
  rcases List.mem_append.1 hmem with hmem | hmem
  · unfold Move.arrival at hmem
    split at hmem <;> simp_all
  · simp [exchanges] at hmem

@[simp] theorem events_runNext (history : History) (result : OperationResult) :
    Move.events ⟨.runNext, history, result⟩ = exchanges history := rfl

/-! ### What the call on the hardware settled -/

/-- There is a call on a clock in the history, and this is what it settled. -/
def Settles (history : History) (settled? : Option (Except HardwareError Value)) : Prop :=
  ∃ exchange ∈ history, ∃ touch, exchange.touch? = some touch ∧ touch.settled? = settled?

theorem settles_cons {exchange : Exchange} {rest : History} {touch : Touch}
    {settled? : Option (Except HardwareError Value)} (touched : exchange.touch? = some touch)
    (untouched : ∀ other ∈ rest, other.touch? = none) :
    Settles (exchange :: rest) settled? ↔ touch.settled? = settled? := by
  constructor
  · rintro ⟨other, hmem, found, hfound, rfl⟩
    rcases List.mem_cons.1 hmem with rfl | hmem
    · cases touched.symm.trans hfound
      rfl
    · simp [untouched other hmem] at hfound
  · rintro rfl
    exact ⟨exchange, List.mem_cons_self, touch, touched, rfl⟩

namespace Platform

variable {topology : Topology} {before mid after platform : Platform} {events : List Event}
  {history : History} {tables : Sharing} {device : DeviceId} {slot : Slot} {item : WorkItem}
  {queue : List WorkItem} {result : OperationResult} {value : Except HardwareError Value}

/-! ### The end of a request -/

/-- The request of a slot ends in `value`: its owner is answered, the slot is freed, and what has
been applied is committed. -/
structure Concludes (topology : Topology) (tables : Sharing) (device : DeviceId) (slot : Slot)
    (value : Except HardwareError Value) (history : History) (after : Platform) : Prop where
  answers : replies history =
    [(slot.owner.service, .bytes (topology.endFrame device slot value).bytes)]
  frees : after.tracker.slot? device = none
  commits : tables.after (exchanges history) =
    tables.commit slot.owner device (slot.applied? value)

theorem concludes_of_takes_finish {tracker left : Tracker} {sent : Except TransportError Unit}
    (backs : tables.Backs before) (busy : before.tracker.slot? device = some slot)
    (finished : (topology.finish tracker device slot value).Takes history (sent, left))
    (serves : tables.Serves (exchanges history)) (left_eq : after.tracker = left) :
    Concludes topology tables device slot value history after where
  answers := Topology.replies_of_takes_finish finished
  frees := by rw [left_eq, (Topology.takes_finish finished).1, Tracker.slot?_release, if_pos rfl]
  commits := backs.after_of_takes_finish busy finished serves

theorem Concludes.cons_of_touch? {exchange : Exchange} {touch : Touch}
    (h : Concludes topology tables device slot value history after)
    (touched : exchange.touch? = some touch) :
    Concludes topology tables device slot value (exchange :: history) after where
  answers := (replies_cons_of_touch? touched).trans h.answers
  frees := h.frees
  commits := by
    rw [exchanges_cons, Sharing.after_cons, Sharing.next_of_touch? touched]
    exact h.commits

theorem runNext_concludes (queued : before.queue = item :: queue)
    (busy : before.tracker.slot? item.device = some slot) (backs : tables.Backs before)
    (takes : (before.perform .runNext).Takes history (result, after))
    (settles : Settles history (some value)) (serves : tables.Serves (exchanges history)) :
    Concludes before.topology tables item.device slot value history after := by
  obtain ⟨ran, -, hrun⟩ := takes_result_iff.1 takes
  obtain ⟨outcome, tracker, -, rfl, hexecute⟩ := takes_runNext queued hrun
  obtain ⟨exchange, rest, rfl, deferred | settled⟩ := Topology.takes_execute busy hexecute
  · obtain ⟨touched, rfl, -⟩ := deferred
    rw [settles_cons touched fun other hmem => by rw [List.mem_singleton.1 hmem]; rfl] at settles
    simp at settles
  · obtain ⟨found, sent, touched, finished, -⟩ := settled
    rw [settles_cons touched (touch?_eq_none_of_takes_finish finished)] at settles
    cases settles
    rw [exchanges_cons, Sharing.serves_cons, Sharing.next_of_touch? touched] at serves
    refine Concludes.cons_of_touch? ?_ touched
    exact concludes_of_takes_finish backs busy finished serves.2 rfl

theorem complete_concludes (awaited : before.awaited? device = some slot)
    (backs : tables.Backs before)
    (takes : (before.perform (.complete ⟨device, value⟩)).Takes history (result, after))
    (serves : tables.Serves (exchanges history)) :
    Concludes before.topology tables device slot value history after := by
  obtain ⟨completed, -, hcomplete⟩ := takes_result_iff.1 takes
  have busy := (awaited?_eq_some_iff.1 awaited).1
  rcases takes_complete hcomplete with
    ⟨unawaited, -⟩ | ⟨found, sent, tracker, hfound, finished, -, rfl⟩
  · rw [awaited] at unawaited
    simp at unawaited
  · cases awaited.symm.trans hfound
    exact concludes_of_takes_finish backs busy finished serves rfl

/-! ### What stays as it is in between -/

theorem runNext_defers (queued : before.queue = item :: queue)
    (busy : before.tracker.slot? item.device = some slot)
    (takes : (before.perform .runNext).Takes history (result, after))
    (settles : Settles history none) :
    before.Step (exchanges history) after ∧ after = { before with queue } := by
  obtain ⟨ran, -, hrun⟩ := takes_result_iff.1 takes
  obtain ⟨outcome, tracker, -, rfl, hexecute⟩ := takes_runNext queued hrun
  obtain ⟨exchange, rest, rfl, deferred | settled⟩ := Topology.takes_execute busy hexecute
  · obtain ⟨touched, rfl, -, rfl⟩ := deferred
    exact ⟨.deferred queued busy touched, rfl⟩
  · obtain ⟨found, sent, touched, finished, -⟩ := settled
    rw [settles_cons touched (touch?_eq_none_of_takes_finish finished)] at settles
    simp at settles

/-- A step leaves the tables alone, or it commits the end of a request and frees its slot. -/
theorem Step.tables_after (step : before.Step events after) (backs : tables.Backs before)
    (serves : tables.Serves events) :
    tables.after events = tables ∨ ∃ device slot applied?,
      before.tracker.slot? device = some slot ∧ after.tracker.slot? device = none ∧
        tables.after events = tables.commit slot.owner device applied? := by
  cases step with
  | answered assessed => exact .inl (after_of_takes_assess assessed fun _ => rfl)
  | contended assessed => exact .inl (after_of_takes_assess assessed fun _ => rfl)
  | claimed assessed => exact .inl (after_of_takes_assess assessed fun _ => rfl)
  | deferred _ _ touched =>
    rw [exchanges_cons, Sharing.after_cons, Sharing.next_of_touch? touched]
    exact .inl rfl
  | @settled item _ slot _ result _ _ _ _ busy touched finished =>
    have hafter := backs.after_of_settled busy finished touched serves
    refine .inr ⟨item.device, slot, slot.applied? result, busy, ?_, hafter⟩
    rw [(Topology.takes_finish finished).1, Tracker.slot?_release, if_pos rfl]
  | @completed completion slot _ _ _ awaited finished =>
    have busy := (awaited?_eq_some_iff.1 awaited).1
    have hafter := backs.after_of_takes_finish busy finished serves.2
    refine .inr ⟨completion.device, slot, slot.applied? completion.result, busy, ?_, hafter⟩
    rw [(Topology.takes_finish finished).1, Tracker.slot?_release, if_pos rfl]
  | unsolicited => exact .inl rfl

theorem Step.sameOn (step : before.Step events after) (backs : tables.Backs before)
    (serves : tables.Serves events) (kept : after.tracker.slot? device = some slot) :
    Sharing.SameOn device tables (tables.after events) := by
  rcases step.tables_after backs serves with heq | ⟨ended, slot, applied?, -, hfree, heq⟩
  · rw [heq]
    exact .refl device tables
  · rw [heq]
    refine Sharing.sameOn_commit_of_ne ?_ slot.owner applied?
    rintro rfl
    simp [hfree] at kept

theorem Step.awaited?_kept (step : before.Step events after)
    (awaited : before.awaited? device = some slot)
    (uncompleted : ∀ completion, .completion completion ∈ events → completion.device ≠ device) :
    after.awaited? device = some slot := by
  have hunqueued := (awaited?_eq_some_iff.1 awaited).2
  cases step with
  | answered => exact awaited
  | contended => exact awaited
  | claimed _ acquired => exact (awaited?_claim acquired).trans awaited
  | @deferred item queue _ _ queued =>
    have hne := hunqueued item (queued ▸ List.mem_cons_self)
    exact (awaited?_of_queue_eq_cons queued hne).trans awaited
  | @settled item queue _ _ _ _ _ _ queued _ _ finished =>
    have hne := hunqueued item (queued ▸ List.mem_cons_self)
    rw [(Topology.takes_finish finished).1, awaited?_of_settled queued, if_neg hne.symm]
    exact awaited
  | @completed completion _ _ _ _ _ finished =>
    have hne := uncompleted completion List.mem_cons_self
    rw [(Topology.takes_finish finished).1, awaited?_release, if_neg hne.symm]
    exact awaited
  | unsolicited => exact awaited

/-- Until a completion is taken for its device, a slot that awaits one goes on to do so, and the
tables keep their entries for the device. -/
theorem Reaches.kept (reached : before.Reaches events after) (backs : tables.Backs before)
    (serves : tables.Serves events) (awaited : before.awaited? device = some slot)
    (uncompleted : ∀ completion, .completion completion ∈ events → completion.device ≠ device) :
    after.awaited? device = some slot ∧ Sharing.SameOn device tables (tables.after events) := by
  induction reached with
  | refl => exact ⟨awaited, .refl device tables⟩
  | tail reached step ih =>
    obtain ⟨hreached, hstep⟩ := Sharing.serves_append.1 serves
    obtain ⟨hawaited, hsame⟩ := ih hreached fun c hc => uncompleted c (List.mem_append_left _ hc)
    have hawaited' := step.awaited?_kept hawaited fun c hc =>
      uncompleted c (List.mem_append_right _ hc)
    have hbacks := (reached.commits backs hreached).1
    have hsame' := step.sameOn hbacks hstep (awaited?_eq_some_iff.1 hawaited').1
    rw [Sharing.after_append]
    exact ⟨hawaited', hsame.trans hsame'⟩

/-! ### The two ways -/

/-- A request that the hardware leaves pending ends with the completion that is taken for it, in
tables that have kept their entries for its device. -/
theorem deferred_concludes {askHistory endHistory : History} {askResult endResult : OperationResult}
    {moves : List Move} (consistent : before.Consistent) (queued : before.queue = item :: queue)
    (busy : before.tracker.slot? item.device = some slot) (backs : tables.Backs before)
    (run : before.Runs (⟨.runNext, askHistory, askResult⟩ :: moves ++
      [⟨.complete ⟨item.device, value⟩, endHistory, endResult⟩]) after)
    (defers : Settles askHistory none)
    (others : ∀ move ∈ moves, ∀ completion, move.operation = .complete completion →
      completion.device ≠ item.device)
    (serves : tables.Serves (ClockManager.events (⟨.runNext, askHistory, askResult⟩ :: moves ++
      [⟨.complete ⟨item.device, value⟩, endHistory, endResult⟩]))) :
    ∃ kept, Sharing.SameOn item.device tables kept ∧
      Concludes before.topology kept item.device slot value endHistory after ∧
      tables.after (ClockManager.events (⟨.runNext, askHistory, askResult⟩ :: moves ++
          [⟨.complete ⟨item.device, value⟩, endHistory, endResult⟩])) =
        kept.commit slot.owner item.device (slot.applied? value) := by
  obtain ⟨last, run, completes⟩ := runs_append_singleton.1 run
  obtain ⟨mid, ask, meanwhile⟩ := runs_append.1 (List.singleton_append ▸ run)
  obtain ⟨step, rfl⟩ := runNext_defers queued busy (runs_singleton.1 ask) defers
  rw [← List.singleton_append, events_append, events_append, events_singleton, events_runNext,
    events_singleton] at serves ⊢
  rw [Sharing.serves_append, Sharing.serves_append] at serves
  rw [Sharing.after_append]
  obtain ⟨⟨hask, hmeanwhile⟩, hend⟩ := serves
  have backs' := (step.commits backs hask).1
  have reached := meanwhile.reaches (step.consistent consistent)
  have awaited : awaited? { before with queue } item.device = some slot :=
    awaited?_eq_some_iff.2 ⟨busy, consistent.device_ne_of_queue_eq_cons queued⟩
  obtain ⟨awaited', hkept⟩ := reached.kept backs' hmeanwhile awaited fun c hc => by
    obtain ⟨move, hmove, hoperation⟩ := exists_complete_of_mem_events hc
    exact others move hmove c hoperation
  have hsame := (step.sameOn backs hask busy).trans hkept
  have hbacks := (reached.commits backs' hmeanwhile).1
  rw [← Sharing.after_append] at hsame hbacks
  rw [Move.events, Sharing.serves_append, Sharing.after_arrival] at hend
  rw [Move.events, Sharing.after_append, Sharing.after_arrival]
  have concludes := complete_concludes awaited' hbacks completes hend.2
  rw [reached.topology_eq] at concludes
  exact ⟨_, hsame, concludes, concludes.commits⟩

/-- Let the oldest request end at once in `value`; or let the hardware leave it pending, let
anything happen but a completion for its device, and then let a completion bring `value`. Both ways
the request gets the same answer on the same channel, its slot is free after that, and the tables of
the sharing policy have the same entries for the device. -/
theorem Runs.deferral_ends_alike {nowHistory askHistory endHistory : History}
    {nowResult askResult endResult : OperationResult} {between : List Move}
    {settled completed : Platform}
    (run : (start topology).Runs moves platform) (queued : platform.queue = item :: queue)
    (now : platform.Runs [⟨.runNext, nowHistory, nowResult⟩] settled)
    (ends : Settles nowHistory (some value))
    (later : platform.Runs (⟨.runNext, askHistory, askResult⟩ :: between ++
      [⟨.complete ⟨item.device, value⟩, endHistory, endResult⟩]) completed)
    (defers : Settles askHistory none)
    (others : ∀ move ∈ between, ∀ completion, move.operation = .complete completion →
      completion.device ≠ item.device)
    (servesNow : (Sharing.ofTopology topology).Serves
      (ClockManager.events (moves ++ [⟨.runNext, nowHistory, nowResult⟩])))
    (servesLater : (Sharing.ofTopology topology).Serves
      (ClockManager.events (moves ++ (⟨.runNext, askHistory, askResult⟩ :: between ++
        [⟨.complete ⟨item.device, value⟩, endHistory, endResult⟩])))) :
    (∃ slot, platform.tracker.slot? item.device = some slot ∧
        replies nowHistory = [(slot.owner.service,
          .bytes (topology.endFrame item.device slot value).bytes)] ∧
        replies endHistory = replies nowHistory) ∧
      settled.tracker.slot? item.device = none ∧ completed.tracker.slot? item.device = none ∧
      Sharing.SameOn item.device
        ((Sharing.ofTopology topology).after
          (ClockManager.events (moves ++ [⟨.runNext, nowHistory, nowResult⟩])))
        ((Sharing.ofTopology topology).after
          (ClockManager.events (moves ++ (⟨.runNext, askHistory, askResult⟩ :: between ++
            [⟨.complete ⟨item.device, value⟩, endHistory, endResult⟩])))) := by
  have consistent := run.consistent
  obtain ⟨slot, busy, -⟩ := consistent.slot_of_queued item (queued ▸ List.mem_cons_self)
  rw [events_append, Sharing.serves_append] at servesNow servesLater
  obtain ⟨hmoves, hnow⟩ := servesNow
  have backs := run.backs hmoves
  rw [events_append, events_append, Sharing.after_append, Sharing.after_append]
  generalize (Sharing.ofTopology topology).after (ClockManager.events moves) = tables at *
  rw [events_singleton, events_runNext] at hnow ⊢
  have atOnce := runNext_concludes queued busy backs (runs_singleton.1 now) ends hnow
  obtain ⟨kept, hsame, inTheEnd, hlater⟩ :=
    deferred_concludes consistent queued busy backs later defers others servesLater.2
  rw [run.topology_eq] at atOnce inTheEnd
  refine ⟨⟨slot, busy, atOnce.answers, inTheEnd.answers.trans atOnce.answers.symm⟩, atOnce.frees,
    inTheEnd.frees, ?_⟩
  rw [atOnce.commits, hlater]
  exact hsame.commit slot.owner (slot.applied? value)

open Bench in
/-- The GPU is started, at once or after a while in which other requests come in. -/
theorem deferral_ends_alike_sample :
    (promptSession.after [.operate .runNext]).platform.tracker.slot? ⟨1⟩ = none ∧
      ((pendingSession.after busySteps).perform
        (.operate (.complete ⟨⟨1⟩, .ok .applied⟩))).2.platform.tracker.slot? ⟨1⟩ = none ∧
      replies ((pendingSession.after busySteps).move (.complete ⟨⟨1⟩, .ok .applied⟩)).history =
        replies (promptSession.move .runNext).history := by
  have hqueue : startingSession.platform.queue = [⟨⟨1⟩, .setState .running⟩] := by decide
  have ends : Settles (promptSession.move .runNext).history (some (.ok .applied)) :=
    ⟨_, List.mem_cons_self, _, rfl, rfl⟩
  have defers : Settles (startingSession.move .runNext).history none :=
    ⟨_, List.mem_cons_self, _, rfl, rfl⟩
  have hothers : ∀ move ∈ pendingSession.moves busySteps, ∀ completion,
      move.operation = .complete completion → completion.device ≠ ⟨1⟩ := by
    intro move hmove completion hcompletion
    have hnone : (pendingSession.moves busySteps).all
        (fun move => move.operation matches .receive _ _ _ | .runNext) := by decide
    have hmatches := List.all_eq_true.1 hnone move hmove
    rw [hcompletion] at hmatches
    simp at hmatches
  have hlater := ((startingSession.runs_move .runNext).trans
    (pendingSession.runs_moves busySteps)).trans
      ((pendingSession.after busySteps).runs_move (.complete ⟨⟨1⟩, .ok .applied⟩))
  obtain ⟨⟨slot, -, -, hreply⟩, hsettled, hcompleted, -⟩ :=
    Runs.deferral_ends_alike (sampleSession.runs_moves [send 11 (.configSet 0 1)]) hqueue
      (promptSession.runs_moves [.operate .runNext]) ends hlater defers hothers
      (Session.serves_moves rfl
        [send 11 (.configSet 0 1), .change [.deferred []], .operate .runNext])
      (Session.serves_moves rfl (send 11 (.configSet 0 1) :: .operate .runNext :: busySteps ++
        [.operate (.complete ⟨⟨1⟩, .ok .applied⟩)]))
  exact ⟨hsettled, hcompleted, hreply⟩

end Platform
end ClockManager
