import ClockManager.Proofs.Bench
import ClockManager.Proofs.Platform.Step
/-!
# Running the queue

The queue is run by asking again and again for the next item, until there is none or an answer
cannot be sent. Nothing that happens on the way queues new work, so this ends after at most as many
turns as there are items, and it is the recursion over the items that `Platform.runQueue` is.

An item is finished with before the run can stop at it: its slot has been freed and a state that was
applied has been committed by the time the answer is sent. So if it is this answer that cannot be
sent, then the items behind it are all that is left, with their slots as they were.
-/

namespace ClockManager

/-! ### Answers that cannot be sent -/

def Exchange.unsent? : Exchange → Option TransportError
  | ⟨.respond _ _, .error error⟩ => some error
  | _ => none

def unsent (history : History) : List TransportError := history.filterMap Exchange.unsent?

section Unsent

variable {history first second : History} {exchange : Exchange}

theorem unsent_append : unsent (first ++ second) = unsent first ++ unsent second :=
  List.filterMap_append

theorem unsent_spoken : unsent (spoken history) = unsent history := by
  rw [unsent, spoken, List.filterMap_filter]
  congr 1
  funext exchange
  obtain ⟨query, answer⟩ := exchange
  cases query <;> rfl

theorem unsent_cons_of_touch? {touch : Touch} (h : exchange.touch? = some touch) :
    unsent (exchange :: history) = unsent history := by
  obtain ⟨query, answer⟩ := exchange
  cases query <;> first | rfl | simp [Exchange.touch?] at h

theorem unsent_of_commits {owner : SlotOwner} {device : DeviceId} {states : List ClockState}
    (h : history.map Exchange.query = owner.commits device states) : unsent history = [] := by
  rw [unsent, List.filterMap_eq_nil_iff]
  intro exchange hmem
  obtain ⟨state, review, rfl⟩ := SlotOwner.exists_review_of_mem h exchange hmem
  rfl

end Unsent

/-! ### Turns -/

/-- One turn of a run of the queue: the item, what passed, and what came of it. -/
structure Turn where
  item : WorkItem
  history : History
  outcome : Except TransportError WorkOutcome

namespace Turn

def move (turn : Turn) : Move := ⟨.runNext, turn.history, .ranNext (some turn.outcome)⟩

/-- How an item fares that has this slot: the hardware leaves the call pending, or the request
ends, with a commit if a state has been applied and with one answer to the owner of the slot. -/
inductive Fares (topology : Topology) (slot : Slot) : Turn → Prop
  | deferred {item : WorkItem} {call : Exchange}
      (touched : call.touch? = some ⟨item.device, item.work, none⟩) :
      Fares topology slot
        ⟨item, [call, ⟨.log (.pending item.device slot.kind), ()⟩], .ok .pending⟩
  | settled {item : WorkItem} {call : Exchange} {result : Except HardwareError Value}
      {rest commits : History} {sent : Except TransportError Unit}
      (touched : call.touch? = some ⟨item.device, item.work, some result⟩)
      (spoken_eq : spoken rest = commits ++ [⟨.respond slot.owner.service
        (.bytes (topology.endFrame item.device slot result).bytes), sent⟩])
      (commits_eq : commits.map Exchange.query =
        slot.owner.commits item.device (slot.applied? result).toList) :
      Fares topology slot ⟨item, call :: rest, sent.map fun () => .completed⟩

theorem Fares.unsent_eq {topology : Topology} {slot : Slot} {turn : Turn}
    (h : turn.Fares topology slot) :
    unsent turn.history = match turn.outcome with
      | .ok _ => []
      | .error error => [error] := by
  cases h with
  | deferred touched => exact unsent_cons_of_touch? touched
  | @settled _ _ _ _ _ sent touched spoken_eq commits_eq =>
    rw [unsent_cons_of_touch? touched, ← unsent_spoken, spoken_eq, unsent_append,
      unsent_of_commits commits_eq]
    cases sent <;> rfl

end Turn

namespace Platform

variable {before after : Platform} {topology : Topology} {tracker : Tracker}
  {queue : List WorkItem} {count : Nat} {history : History} {turns : List Turn}
  {result : Except TransportError Nat}

/-! ### The loop -/

/-- Asks for the next item until there is none, counting them, or until one cannot be answered;
gives up after as many turns as `limit` says. -/
def loop (platform : Platform) (limit count : Nat) :
    Dialogue (Option (Except TransportError Nat × Platform)) :=
  match limit with
  | 0 => return none
  | limit + 1 => do
    match ← platform.runNext with
    | (none, platform) => return some (.ok count, platform)
    | (some (.error error), platform) => return some (.error error, platform)
    | (some (.ok _), platform) => platform.loop limit (count + 1)

theorem loop_eq_runItems {limit : Nat} (h : queue.length < limit) :
    loop ⟨topology, tracker, queue⟩ limit count =
      some <$> runItems topology tracker count queue := by
  induction queue generalizing tracker count limit with
  | nil =>
    obtain ⟨limit, rfl⟩ := Nat.exists_eq_succ_of_ne_zero (Nat.ne_of_gt h)
    rfl
  | cons item queue ih =>
    obtain ⟨limit, rfl⟩ := Nat.exists_eq_succ_of_ne_zero (Nat.ne_of_gt (Nat.zero_lt_of_lt h))
    have hrest : queue.length < limit := Nat.lt_of_succ_lt_succ h
    -- Both sides take the first item first, so it is enough to compare what follows it.
    refine (Dialogue.bind_bind _ _ _).trans (.trans ?_ (Dialogue.bind_bind _ _ _).symm)
    refine congrArg _ (funext ?_)
    rintro ⟨outcome, left⟩
    cases outcome with
    | ok _ => exact ih hrest
    | error _ => rfl

/-! ### The turns of a run -/

/-- The queue has been run in these turns, one item each, from the front. -/
structure TakesTurns (before : Platform) (turns : List Turn) (history : History)
    (after : Platform) : Prop where
  /-- They do what as many operations do, each of which runs the next item. -/
  runs : before.Runs (turns.map Turn.move) after
  history_eq : history = turns.flatMap Turn.history
  items_eq : turns.map Turn.item = before.queue.take turns.length
  queue_eq : after.queue = before.queue.drop turns.length
  fares : ∀ turn ∈ turns, ∃ slot, before.tracker.slot? turn.item.device = some slot ∧
    turn.Fares before.topology slot
  freed : ∀ turn ∈ turns, turn.outcome ≠ .ok .pending →
    after.tracker.slot? turn.item.device = none
  kept : ∀ device, (∀ turn ∈ turns, turn.item.device = device → turn.outcome = .ok .pending) →
    after.tracker.slot? device = before.tracker.slot? device

theorem takesTurns_nil (before : Platform) : before.TakesTurns [] [] before where
  runs := .nil
  history_eq := rfl
  items_eq := rfl
  queue_eq := rfl
  fares := nofun
  freed := nofun
  kept _ _ := rfl

theorem takesTurns_execute {item : WorkItem} {outcome : Except TransportError WorkOutcome}
    {left : Tracker} (h : Consistent ⟨topology, tracker, item :: queue⟩)
    (takes : (topology.execute tracker item).Takes history (outcome, left)) :
    TakesTurns ⟨topology, tracker, item :: queue⟩ [⟨item, history, outcome⟩] history
      ⟨topology, left, queue⟩ := by
  obtain ⟨slot, busy, -⟩ := h.slot_of_queued item List.mem_cons_self
  have hslots : Turn.Fares topology slot ⟨item, history, outcome⟩ ∧
      ∀ device, left.slot? device =
        if device = item.device ∧ outcome ≠ .ok .pending then none else tracker.slot? device := by
    obtain ⟨call, rest, rfl, deferred | settled⟩ := Topology.takes_execute busy takes
    · obtain ⟨touched, rfl, rfl, rfl⟩ := deferred
      exact ⟨.deferred touched, fun device => by simp⟩
    · obtain ⟨ended, sent, touched, finished, rfl⟩ := settled
      obtain ⟨rfl, commits, hspoken, hcommits⟩ := Topology.takes_finish finished
      refine ⟨.settled touched hspoken hcommits, fun device => ?_⟩
      rw [Tracker.slot?_release]
      cases sent <;> simp [Except.map]
  obtain ⟨fares, hslot⟩ := hslots
  have hnext : (perform ⟨topology, tracker, item :: queue⟩ .runNext).Takes history
      (.ranNext (some outcome), ⟨topology, left, queue⟩) :=
    takes_result_iff.2 ⟨some outcome, rfl,
      Dialogue.takes_bind.2 ⟨history, [], _, (List.append_nil _).symm, takes, rfl, rfl⟩⟩
  refine ⟨runs_singleton.2 hnext, by simp, rfl, rfl, ?_, ?_, ?_⟩
  · exact List.forall_mem_singleton.2 ⟨slot, busy, fares⟩
  · refine List.forall_mem_singleton.2 fun settled => ?_
    exact (hslot item.device).trans (if_pos ⟨rfl, settled⟩)
  · intro device hpending
    refine (hslot device).trans (if_neg ?_)
    rintro ⟨rfl, settled⟩
    exact settled (hpending _ List.mem_cons_self rfl)

/-- What is run later was not touched by what was run before, since it is for other devices. -/
theorem TakesTurns.cons {item : WorkItem} {turn : Turn} {mid : Platform} {later : History}
    (h : before.Consistent) (queued : before.queue = item :: queue)
    (first : before.TakesTurns [turn] history mid) (rest : mid.TakesTurns turns later after) :
    before.TakesTurns (turn :: turns) (history ++ later) after := by
  have htopology : mid.topology = before.topology :=
    (first.runs.reaches h).topology_eq
  have hitem : turn.item = item := by
    have heq := first.items_eq
    rw [queued] at heq
    exact (List.cons.inj heq).1
  have hqueue : mid.queue = queue := by
    have heq := first.queue_eq
    rwa [queued] at heq
  have hlater : ∀ other ∈ turns, other.item.device ≠ turn.item.device := by
    intro other hmem
    have hqueued : other.item ∈ queue := by
      rw [← hqueue]
      have htaken : other.item ∈ mid.queue.take turns.length :=
        rest.items_eq ▸ List.mem_map_of_mem hmem
      exact List.mem_of_mem_take htaken
    rw [hitem]
    exact h.device_ne_of_queue_eq_cons queued _ hqueued
  have hslot : ∀ device, device ≠ turn.item.device →
      mid.tracker.slot? device = before.tracker.slot? device := by
    intro device hne
    refine first.kept device (List.forall_mem_singleton.2 fun heq => ?_)
    exact absurd heq.symm hne
  refine ⟨first.runs.trans rest.runs, ?_, ?_, ?_, ?_, ?_, ?_⟩
  · rw [List.flatMap_cons, ← rest.history_eq, first.history_eq, List.flatMap_singleton]
  · rw [List.map_cons, rest.items_eq, hitem, hqueue, queued]
    rfl
  · rw [rest.queue_eq, hqueue, queued]
    rfl
  · refine List.forall_mem_cons.2 ⟨first.fares _ List.mem_cons_self, fun other hmem => ?_⟩
    obtain ⟨slot, busy, fares⟩ := rest.fares other hmem
    exact ⟨slot, (hslot _ (hlater other hmem)).symm.trans busy, htopology ▸ fares⟩
  · refine List.forall_mem_cons.2 ⟨fun settled => ?_, rest.freed⟩
    have hfreed := first.freed _ List.mem_cons_self settled
    rw [rest.kept _ fun other hmem heq => absurd heq (hlater other hmem), hfreed]
  · intro device hpending
    obtain ⟨hfirst, hrest⟩ := List.forall_mem_cons.1 hpending
    rw [rest.kept device hrest]
    exact first.kept device (List.forall_mem_singleton.2 hfirst)

/-- A run of the queue is a sequence of turns. Either all items have had theirs, and all answers
were sent, or the last one that had its turn could not be answered. -/
theorem exists_takesTurns (h : Consistent ⟨topology, tracker, queue⟩)
    (takes : (runItems topology tracker count queue).Takes history (result, after)) :
    ∃ turns, TakesTurns ⟨topology, tracker, queue⟩ turns history after ∧
      ((result = .ok (count + queue.length) ∧ turns.length = queue.length ∧
          ∀ turn ∈ turns, ∃ outcome, turn.outcome = .ok outcome) ∨
        ∃ earlier last error, turns = earlier ++ [last] ∧ last.outcome = .error error ∧
          result = .error error ∧ ∀ turn ∈ earlier, ∃ outcome, turn.outcome = .ok outcome) := by
  induction queue generalizing tracker count history with
  | nil =>
    obtain ⟨rfl, hend⟩ := takes
    obtain ⟨rfl, rfl⟩ := Prod.mk.inj hend
    exact ⟨[], takesTurns_nil _, .inl ⟨rfl, rfl, nofun⟩⟩
  | cons item queue ih =>
    unfold runItems at takes
    obtain ⟨executed, rest, ⟨outcome, left⟩, rfl, hexecute, takes⟩ := Dialogue.takes_bind.1 takes
    have first := takesTurns_execute h hexecute
    cases outcome with
    | error error =>
      obtain ⟨rfl, hend⟩ := takes
      obtain ⟨rfl, rfl⟩ := Prod.mk.inj hend
      rw [List.append_nil]
      exact ⟨_, first, .inr ⟨[], _, error, rfl, rfl, rfl, nofun⟩⟩
    | ok outcome =>
      have hleft := (execute_step h hexecute).consistent h
      obtain ⟨turns, later, ended⟩ := ih hleft takes
      refine ⟨_ :: turns, first.cons h rfl later, ?_⟩
      rcases ended with ⟨rfl, hlength, hok⟩ | ⟨earlier, last, error, rfl, herror, rfl, hok⟩
      · refine .inl ⟨?_, ?_, List.forall_mem_cons.2 ⟨⟨outcome, rfl⟩, hok⟩⟩
        · rw [List.length_cons, Nat.add_right_comm, Nat.add_assoc]
        · rw [List.length_cons, List.length_cons, hlength]
      · exact .inr ⟨_ :: earlier, last, error, rfl, herror, rfl,
          List.forall_mem_cons.2 ⟨⟨outcome, rfl⟩, hok⟩⟩

theorem TakesTurns.head?_eq (taken : before.TakesTurns turns history after)
    (h : turns.length = before.queue.length ∨ turns ≠ []) :
    turns.head?.map Turn.item = before.queue.head? := by
  rw [← List.head?_map, taken.items_eq, List.head?_take]
  split
  · rename_i hnone
    obtain rfl := List.length_eq_zero_iff.1 hnone
    rcases h with hall | hsome
    · rw [List.length_eq_zero_iff.1 hall.symm]
      rfl
    · exact absurd rfl hsome
  · rfl

theorem unsent_flatMap_of_ok
    (fares : ∀ turn ∈ turns, ∃ slot, before.tracker.slot? turn.item.device = some slot ∧
      turn.Fares before.topology slot)
    (sent : ∀ turn ∈ turns, ∃ outcome, turn.outcome = .ok outcome) :
    unsent (turns.flatMap Turn.history) = [] := by
  rw [unsent, List.filterMap_flatMap, List.flatMap_eq_nil_iff]
  intro turn hmem
  obtain ⟨slot, -, hfares⟩ := fares turn hmem
  obtain ⟨outcome, houtcome⟩ := sent turn hmem
  have heq := hfares.unsent_eq
  rwa [houtcome] at heq

theorem TakesTurns.slot?_of_mem_queue (h : before.Consistent)
    (taken : before.TakesTurns turns history after) {item : WorkItem} (hmem : item ∈ after.queue) :
    ∃ slot, before.tracker.slot? item.device = some slot ∧
      after.tracker.slot? item.device = some slot := by
  have hqueue := taken.queue_eq
  have hsplit := List.take_append_drop turns.length before.queue
  rw [← taken.items_eq, ← hqueue] at hsplit
  have hnodup := h.queue_nodup
  rw [← hsplit, List.map_append, List.nodup_append] at hnodup
  obtain ⟨slot, busy, -⟩ := h.slot_of_queued item (hsplit ▸ List.mem_append_right _ hmem)
  refine ⟨slot, busy, (taken.kept item.device fun turn hturn heq => ?_).trans busy⟩
  have hturned : turn.item.device ∈ (turns.map Turn.item).map WorkItem.device :=
    List.mem_map_of_mem (List.mem_map_of_mem hturn)
  exact absurd heq (hnodup.2.2 _ hturned _ (List.mem_map_of_mem hmem))

/-- The turn of the item in place `k` has been the last one, because its answer could not be sent.
That item is done with; those behind it are still queued, with their slots as they were, and are
what the next run of the queue begins with. -/
structure StopsAt (before : Platform) (turns : List Turn) (history : History)
    (result : Except TransportError Nat) (after : Platform) (k : Nat) (turn : Turn)
    (error : TransportError) : Prop where
  last : turns[k]? = some turn ∧ turns.length = k + 1
  item_eq : before.queue[k]? = some turn.item
  unsent_last : unsent turn.history = [error]
  unsent_eq : unsent history = [error]
  result_eq : result = .error error
  freed : after.tracker.slot? turn.item.device = none
  queue_eq : after.queue = before.queue.drop (k + 1)
  busy : ∀ item ∈ after.queue, ∃ slot, before.tracker.slot? item.device = some slot ∧
    after.tracker.slot? item.device = some slot
  goes_on : ∀ later ending rest, after.runQueue.Takes later (ending, rest) →
    ∃ more, after.TakesTurns more later rest ∧
      more.head?.map Turn.item = before.queue[k + 1]?

theorem TakesTurns.stopsAt {earlier : List Turn} {last : Turn} {error : TransportError}
    (h : before.Consistent) (taken : before.TakesTurns (earlier ++ [last]) history after)
    (failed : last.outcome = .error error) (hresult : result = .error error)
    (sent : ∀ turn ∈ earlier, ∃ outcome, turn.outcome = .ok outcome) :
    before.StopsAt (earlier ++ [last]) history result after earlier.length last error := by
  have hlast : last ∈ earlier ++ [last] := List.mem_concat_self
  have hplace : (earlier ++ [last])[earlier.length]? = some last := List.getElem?_concat_length
  have hlength : (earlier ++ [last]).length = earlier.length + 1 := List.length_append
  have hunsent : unsent last.history = [error] := by
    obtain ⟨slot, -, fares⟩ := taken.fares last hlast
    rw [fares.unsent_eq, failed]
  have hqueue : after.queue = before.queue.drop (earlier.length + 1) :=
    hlength ▸ taken.queue_eq
  refine ⟨⟨hplace, hlength⟩, ?_, hunsent, ?_, hresult, ?_, hqueue,
    fun item hmem => taken.slot?_of_mem_queue h hmem, ?_⟩
  · have hitem := congrArg (·[earlier.length]?) taken.items_eq
    rw [List.getElem?_map, hplace, List.getElem?_take_of_lt (by omega)] at hitem
    exact hitem.symm
  · have hearlier : unsent (earlier.flatMap Turn.history) = [] :=
      unsent_flatMap_of_ok (fun turn hmem => taken.fares turn (List.mem_append_left _ hmem)) sent
    rw [taken.history_eq, List.flatMap_append, unsent_append, hearlier, List.flatMap_singleton,
      hunsent, List.nil_append]
  · exact taken.freed last hlast (by rw [failed]; nofun)
  · intro later ending rest takes
    obtain ⟨more, hmore, ended⟩ := exists_takesTurns ((taken.runs.reaches h).consistent h) takes
    refine ⟨more, hmore, (hmore.head?_eq ?_).trans ?_⟩
    · rcases ended with ⟨-, hall, -⟩ | ⟨_, _, _, rfl, -⟩
      · exact .inl hall
      · exact .inr (List.concat_ne_nil _ _)
    · rw [hqueue, List.head?_drop]

variable {moves : List Move} {platform : Platform}

/-- A run of the queue comes to an end: it is the loop that asks for the next item, which never
gives up if it may take one turn more than there are items. Whatever the collaborators answer, the
items have their turns in the order of the queue, each as if it were run alone. If all answers can
be sent, then the queue is empty at the end, and the result is how many items there were. Otherwise
the run stops at the first answer that cannot be sent, and the next run goes on behind it. -/
theorem Runs.queue_run_in_order (run : (start topology).Runs moves platform) :
    (∀ limit, platform.queue.length < limit →
        platform.loop limit 0 = some <$> platform.runQueue) ∧
      ∀ history result after, platform.runQueue.Takes history (result, after) →
        ∃ turns, platform.TakesTurns turns history after ∧
          ((unsent history = [] ∧ result = .ok platform.queue.length ∧ after.queue = []) ∨
            ∃ k turn error, platform.StopsAt turns history result after k turn error) := by
  have consistent := run.consistent
  refine ⟨fun limit => loop_eq_runItems, fun history result after takes => ?_⟩
  obtain ⟨turns, taken, ended⟩ := exists_takesTurns consistent takes
  refine ⟨turns, taken, ?_⟩
  rcases ended with ⟨rfl, hlength, sent⟩ | ⟨earlier, last, error, rfl, failed, hresult, sent⟩
  · refine .inl ⟨?_, by rw [Nat.zero_add], ?_⟩
    · rw [taken.history_eq]
      exact unsent_flatMap_of_ok taken.fares sent
    · rw [taken.queue_eq, hlength, List.drop_length]
  · exact .inr ⟨earlier.length, last, error, taken.stopsAt consistent failed hresult sent⟩

section Sample

open Bench

/-- The CPU is to be stopped and the GPU to be asked for its state, and one answer will be lost. -/
def losingSession : Session :=
  ((sampleSession.after [send 10 (.configSet 0 0), send 11 (.clockAttributes 0)]).perform
    (.change [.failRespond 1])).2

/-- The run stops behind the CPU, which is free then, and leaves the request for the GPU queued. -/
theorem queue_run_in_order_sample :
    let path := losingSession.platform.runQueue.trace World.answer losingSession.world
    ∃ turn : Turn, path.2.1.1 = .error (.noMessage ⟨10⟩) ∧ turn.item = ⟨⟨0⟩, .setState .stopped⟩ ∧
      path.2.1.2.tracker.slot? turn.item.device = none ∧
      ∀ item ∈ path.2.1.2.queue, item = ⟨⟨1⟩, .getState⟩ ∧
        ∃ slot, path.2.1.2.tracker.slot? item.device = some slot := by
  intro path
  have run : (start sampleTopology).Runs _ losingSession.platform :=
    sampleSession.runs_moves [send 10 (.configSet 0 0), send 11 (.clockAttributes 0)]
  have hqueue : path.2.1.2.queue = [⟨⟨1⟩, .getState⟩] := rfl
  obtain ⟨-, hruns⟩ := run.queue_run_in_order
  obtain ⟨turns, -, ⟨hsent, -⟩ | ⟨k, turn, error, stops⟩⟩ :=
    hruns path.1 path.2.1.1 path.2.1.2 (Dialogue.takes_trace World.answer _ _)
  · exact absurd hsent (by decide)
  · have hk : k = 0 := by
      have hlength := congrArg List.length stops.queue_eq
      rw [hqueue, List.length_drop] at hlength
      have hbefore : losingSession.platform.queue.length = 2 := rfl
      rw [hbefore, List.length_singleton] at hlength
      omega
    subst hk
    refine ⟨turn, rfl, (Option.some.inj stops.item_eq).symm, stops.freed, fun item hmem => ?_⟩
    obtain ⟨slot, -, busy⟩ := stops.busy item hmem
    rw [hqueue] at hmem
    exact ⟨List.mem_singleton.1 hmem, slot, busy⟩

end Sample

end Platform
end ClockManager
