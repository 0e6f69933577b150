import ClockManager.Proofs.Lockstep
/-!
# Devices do not interfere

All devices share one queue and one set of tables. Still, what is kept of one device, its
`Projection`, is all that its requests depend on, and each operation changes what is kept of one
device at most.

The second half compares two platforms of one topology. What one of them can do for a device, the
other one can do as well if it keeps the same of that device, whatever it keeps of the others; and
with collaborators that answer alike there is only one thing that it can do.
-/

namespace ClockManager

/-- What is kept of one device: its slot, the work that is queued for it, and the entries that the
sharing policy has for it. -/
structure Projection where
  slot? : Option Slot
  queued : List WorkItem
  refcount? : Option UInt32
  state? : AgentId → Option ClockState

namespace Topology

/-- Whatever clock the message means, it stands for the device. -/
def MeansOnly (topology : Topology) (device : DeviceId) (raw : UInt32) (payload : Bytes)
    (history : History) : Prop :=
  ∀ request index service owner clock, Request.decodeRaw raw payload = .ok request →
    request.clock? = some index → ⟨.agentOf service, owner⟩ ∈ history →
      topology.resolveClock owner index = .ok clock → clock.record.device = device

theorem device_of_takes_assess {topology : Topology} {device : DeviceId} {service : ServiceId}
    {raw : UInt32} {payload : Bytes} {consulted more : History} {clock : ResolvedClock}
    {work : Work} (means : topology.MeansOnly device raw payload (consulted ++ more))
    (assessed : (topology.assess service raw payload).Takes consulted (.accept clock work)) :
    clock.record.device = device := by
  obtain ⟨request, permission, owner, reviews, decoded, -, hclock, hpasses, rfl⟩ :=
    takes_assess_accept assessed
  have named : request.clock? = some clock.index := by cases hpasses <;> rfl
  exact means request clock.index service owner clock decoded named (by simp) hclock

/-- The policy has no part in permissions. -/
theorem reviewsOnly_of_takes_permitted {request : Request} {service : ServiceId}
    {permission : History} {granted : Bool} (device : DeviceId)
    (takes : (request.permitted service).Takes permission granted) :
    ReviewsOnly device permission := by
  rintro ⟨query, answer⟩ hmem
  have hquery := takes.forall_of_asks (request.asks_permitted service) _ hmem
  cases query <;> simp_all [Query.isPermission, Query.reviewed?]

/-- The policy is asked about the device that the message is accepted for. -/
theorem reviewsOnly_of_takes_assess_accept {topology : Topology} {service : ServiceId}
    {raw : UInt32} {payload : Bytes} {consulted : History} {clock : ResolvedClock} {work : Work}
    (assessed : (topology.assess service raw payload).Takes consulted (.accept clock work)) :
    ReviewsOnly clock.record.device consulted := by
  obtain ⟨request, permission, owner, reviews, -, granted, -, passes, rfl⟩ :=
    takes_assess_accept assessed
  have hreviews : ReviewsOnly clock.record.device (⟨.agentOf service, owner⟩ :: reviews) := by
    cases passes <;> simp [ReviewsOnly, Query.reviewed?, ResolvedClock.context]
  exact reviewsOnly_append.2 ⟨reviewsOnly_of_takes_permitted _ granted, hreviews⟩

/-- The policy is asked about the device that the message means. -/
theorem reviewsOnly_of_takes_assess {topology : Topology} {device : DeviceId} {service : ServiceId}
    {raw : UInt32} {payload : Bytes} {consulted more : History} {admission : Admission}
    (means : topology.MeansOnly device raw payload (consulted ++ more))
    (assessed : (topology.assess service raw payload).Takes consulted admission) :
    ReviewsOnly device consulted := by
  have hnotice (notice : Notice) : ReviewsOnly device [⟨.log notice, ()⟩] := by
    simp [ReviewsOnly, Query.reviewed?]
  cases takes_assess assessed with
  | rejected => exact hnotice _
  | denied _ refused =>
    exact reviewsOnly_append.2 ⟨reviewsOnly_of_takes_permitted device refused, hnotice _⟩
  | @permitted request permission rest _ decoded granted assessed =>
    refine reviewsOnly_append.2 ⟨reviewsOnly_of_takes_permitted device granted, ?_⟩
    have unscoped (h : ∀ exchange ∈ rest, exchange.query.Assesses none) : ReviewsOnly device rest :=
      reviewsOnly_of_assesses h (by simp)
    rcases scoped_assessRequest assessed with hnone | ⟨index, named, hnone | hscoped⟩
    · exact unscoped hnone
    · exact unscoped hnone
    · obtain ⟨owner, tail, rfl, htail⟩ := hscoped
      rw [← List.singleton_append]
      refine reviewsOnly_append.2 ⟨?_, ?_⟩
      · simp [ReviewsOnly, Query.reviewed?]
      · refine reviewsOnly_of_assesses htail fun context hcontext => ?_
        obtain ⟨clock, hclock, rfl⟩ := context?_eq_some_iff.1 hcontext
        exact means request index service owner clock decoded named (by simp) hclock

end Topology

/-- The slots of both are busy or idle alike, so what is done for one can be done for the other. -/
theorem Topology.finish_mirrored {topology : Topology} {tracker other left : Tracker}
    {device : DeviceId} {slot : Slot} {result : Except HardwareError Value} {history : History}
    {sent : Except TransportError Unit}
    (busy : (tracker.slot? device).isSome = (other.slot? device).isSome)
    (takes : (topology.finish tracker device slot result).Takes history (sent, left)) :
    (topology.finish other device slot result).Takes history (sent, (other.release device).2) := by
  unfold finish at takes ⊢
  rw [Dialogue.takes_bind] at takes ⊢
  obtain ⟨first, rest, frame, rfl, hframe, takes⟩ := takes
  refine ⟨first, rest, frame, rfl, hframe, ?_⟩
  dsimp only at takes ⊢
  split at takes
  · rename_i hbusy
    have hother : (other.release device).1.isSome := busy.symm.trans hbusy
    rw [if_pos hother]
    obtain ⟨last, rfl, hrespond⟩ := Dialogue.takes_log_bind.1 takes
    obtain ⟨answer, tail, rfl, rfl, hend⟩ := Dialogue.takes_call_bind.1 hrespond
    obtain ⟨rfl, -⟩ := Prod.mk.inj hend
    exact Dialogue.takes_log_bind.2 ⟨_, rfl, answer, [], rfl, rfl, rfl⟩
  · rename_i hidle
    have hother : ¬ (other.release device).1.isSome := fun h => hidle (busy.trans h)
    rw [if_neg hother]
    obtain ⟨answer, tail, rfl, rfl, hend⟩ := Dialogue.takes_call_bind.1 takes
    obtain ⟨rfl, -⟩ := Prod.mk.inj hend
    exact ⟨answer, [], rfl, rfl, rfl⟩

theorem Topology.execute_mirrored {topology : Topology} {tracker other left : Tracker}
    {item : WorkItem} {history : History} {outcome : Except TransportError WorkOutcome}
    (same : tracker.slot? item.device = other.slot? item.device)
    (takes : (topology.execute tracker item).Takes history (outcome, left)) :
    ∃ kept, (topology.execute other item).Takes history (outcome, kept) ∧
      left.slot? item.device = kept.slot? item.device := by
  unfold execute at takes ⊢
  rw [same] at takes
  cases hslot : other.slot? item.device with
  | none =>
    rw [hslot] at takes
    obtain ⟨rest, rfl, rfl, hend⟩ := Dialogue.takes_log_bind.1 takes
    obtain ⟨rfl, rfl⟩ := Prod.mk.inj hend
    exact ⟨other, Dialogue.takes_log_bind.2 ⟨[], rfl, rfl, rfl⟩, same⟩
  | some slot =>
    rw [hslot] at takes
    obtain ⟨called, rest, settled?, rfl, hcall, takes⟩ := Dialogue.takes_bind.1 takes
    cases settled? with
    | none =>
      obtain ⟨last, rfl, rfl, hend⟩ := Dialogue.takes_log_bind.1 takes
      obtain ⟨rfl, rfl⟩ := Prod.mk.inj hend
      exact ⟨other, Dialogue.takes_bind.2 ⟨called, _, none, rfl, hcall,
        Dialogue.takes_log_bind.2 ⟨[], rfl, rfl, rfl⟩⟩, same⟩
    | some result =>
      obtain ⟨finished, last, ⟨sent, freed⟩, rfl, hfinish, rfl, hend⟩ := Dialogue.takes_bind.1 takes
      obtain ⟨rfl, rfl⟩ := Prod.mk.inj hend
      have hother : (topology.finish other item.device slot result).Takes finished
          (sent, (other.release item.device).2) := finish_mirrored (by rw [same]) hfinish
      refine ⟨(other.release item.device).2, Dialogue.takes_bind.2 ⟨called, _, some result, rfl,
        hcall, Dialogue.takes_bind.2 ⟨finished, [], _, rfl, hother, rfl, rfl⟩⟩, ?_⟩
      rw [(takes_finish hfinish).1, Tracker.slot?_release, Tracker.slot?_release, if_pos rfl,
        if_pos rfl]

namespace Platform

variable {topology : Topology} {before after other left platform : Platform} {events : List Event}
  {tables kept : Sharing} {device elsewhere : DeviceId} {history : History} {moves : List Move}

def projection (platform : Platform) (tables : Sharing) (device : DeviceId) : Projection where
  slot? := platform.tracker.slot? device
  queued := platform.queue.filter (·.device = device)
  refcount? := tables.refcount? device
  state? agent := tables.state? agent device

/-- Both platforms keep the same of a device. -/
structure SameAt (device : DeviceId) (platform other : Platform) : Prop where
  topology_eq : platform.topology = other.topology
  slot?_eq : platform.tracker.slot? device = other.tracker.slot? device
  queued_eq : platform.queue.filter (·.device = device) = other.queue.filter (·.device = device)

theorem SameAt.projection_eq (h : SameAt device platform other)
    (htables : Sharing.SameOn device tables kept) :
    platform.projection tables device = other.projection kept device := by
  rw [projection, projection, h.slot?_eq, h.queued_eq, htables.refcount?_eq,
    funext htables.state?_eq]

theorem sameAt_of_projection_eq (htopology : platform.topology = other.topology)
    (h : platform.projection tables device = other.projection kept device) :
    SameAt device platform other ∧ Sharing.SameOn device tables kept := by
  obtain ⟨hslot, hqueued, hrefcount, hstate⟩ := Projection.mk.inj h
  exact ⟨⟨htopology, hslot, hqueued⟩, hrefcount, congrFun hstate⟩

/-! ### One device at a time -/

theorem filter_of_queue_eq_cons {item : WorkItem} {queue : List WorkItem}
    (queued : platform.queue = item :: queue) (h : elsewhere ≠ item.device) :
    queue.filter (·.device = elsewhere) = platform.queue.filter (·.device = elsewhere) := by
  rw [queued, List.filter_cons_of_neg (by simpa using h.symm)]

/-- When a request ends, the policy is asked about its device alone. -/
theorem reviewsOnly_of_takes_finish {tracker freed : Tracker} {slot : Slot}
    {result : Except HardwareError Value} {sent : Except TransportError Unit}
    (finished : (topology.finish tracker device slot result).Takes history (sent, freed)) :
    ReviewsOnly device history :=
  reviewsOnly_of_ends (Topology.ends_of_takes_finish finished)

theorem sameOn_of_takes_finish {tracker freed : Tracker} {slot : Slot}
    {result : Except HardwareError Value} {sent : Except TransportError Unit}
    (finished : (topology.finish tracker device slot result).Takes history (sent, freed))
    (h : elsewhere ≠ device) :
    Sharing.SameOn elsewhere (tables.after (exchanges history)) tables :=
  (Sharing.sameOn_after_of_ne h (reviewsOnly_of_takes_finish finished)).symm

/-- A step changes what is kept of one device at most. -/
theorem Step.projection_eq (step : before.Step events after) (tables : Sharing) :
    ∃ device, ∀ elsewhere ≠ device,
      after.projection (tables.after events) elsewhere = before.projection tables elsewhere := by
  cases step with
  | answered assessed =>
    exact ⟨⟨0⟩, fun _ _ => by rw [after_of_takes_assess assessed fun _ => rfl]⟩
  | contended assessed =>
    exact ⟨⟨0⟩, fun _ _ => by rw [after_of_takes_assess assessed fun _ => rfl]⟩
  | @claimed _ _ _ _ clock work _ assessed acquired =>
    refine ⟨clock.record.device, fun elsewhere hne => SameAt.projection_eq ⟨rfl, ?_, ?_⟩ ?_⟩
    · exact (Tracker.slot?_of_acquire acquired).trans (if_neg hne)
    · simp [hne.symm]
    · rw [after_of_takes_assess assessed fun _ => rfl]
      exact .refl elsewhere tables
  | @deferred item _ _ _ queued _ touched =>
    refine ⟨item.device, fun elsewhere hne => SameAt.projection_eq ⟨rfl, rfl, ?_⟩ ?_⟩
    · exact filter_of_queue_eq_cons queued hne
    · rw [exchanges_cons, Sharing.after_cons, Sharing.next_of_touch? touched]
      exact .refl elsewhere tables
  | @settled item _ _ _ _ _ _ _ queued _ touched finished =>
    refine ⟨item.device, fun elsewhere hne => SameAt.projection_eq ⟨rfl, ?_, ?_⟩ ?_⟩
    · rw [(Topology.takes_finish finished).1, Tracker.slot?_release, if_neg hne]
    · exact filter_of_queue_eq_cons queued hne
    · rw [exchanges_cons, Sharing.after_cons, Sharing.next_of_touch? touched]
      exact sameOn_of_takes_finish finished hne
  | @completed completion _ _ _ _ _ finished =>
    refine ⟨completion.device, fun elsewhere hne => SameAt.projection_eq ⟨rfl, ?_, rfl⟩ ?_⟩
    · rw [(Topology.takes_finish finished).1, Tracker.slot?_release, if_neg hne]
    · exact sameOn_of_takes_finish finished hne
  | unsolicited => exact ⟨⟨0⟩, fun _ _ => rfl⟩

/-! ### What one does, the other can do -/

section Mirrored

variable {service : ServiceId} {raw : UInt32} {payload : Bytes} {sent : Except TransportError Unit}

theorem receive_mirrored (consistent : other.Consistent) (same : SameAt device before other)
    (received : before.Received service raw payload history sent after)
    (means : before.topology.MeansOnly device raw payload history) :
    ∃ left, (other.receive service raw payload).Takes history (sent, left) ∧
      SameAt device after left := by
  cases received with
  | answered assessed =>
    rw [same.topology_eq] at assessed
    exact ⟨other, Dialogue.takes_bind.2 ⟨_, _, _, rfl, assessed, sent, [], rfl, rfl, rfl⟩, same⟩
  | @contended consulted clock work _ assessed busy =>
    obtain rfl := Topology.device_of_takes_assess means assessed
    rw [same.topology_eq] at assessed
    have hbusy : other.tracker.acquire clock.record.device (clock.claim service work) =
        .error (.busy clock.record.device) := Tracker.acquire_eq_busy (same.slot?_eq ▸ busy)
    refine ⟨other, Dialogue.takes_bind.2 ⟨consulted, _, _, rfl, assessed, ?_⟩, same⟩
    rw [ResolvedClock.claim] at hbusy
    simp only [enqueue, hbusy]
    exact ⟨sent, [], rfl, rfl, rfl⟩
  | @claimed consulted clock work tracker assessed acquired =>
    obtain rfl := Topology.device_of_takes_assess means assessed
    have hidle := Tracker.slot?_eq_none_of_acquire acquired
    rw [same.slot?_eq] at hidle
    rw [same.topology_eq] at assessed
    obtain ⟨left, hleft, takes⟩ := takes_receive_of_free consistent assessed hidle
    refine ⟨_, takes, same.topology_eq, ?_, ?_⟩
    · dsimp only
      rw [Tracker.slot?_of_acquire acquired, Tracker.slot?_of_acquire hleft, if_pos rfl, if_pos rfl]
    · rw [List.filter_append, List.filter_append, same.queued_eq]

theorem runNext_mirrored {item found : WorkItem} {queue rest : List WorkItem}
    {result : Option (Except TransportError WorkOutcome)} (same : SameAt device before other)
    (queued : before.queue = item :: queue) (hitem : item.device = device)
    (queuedOther : other.queue = found :: rest) (hfound : found.device = device)
    (takes : before.runNext.Takes history (result, after)) :
    ∃ left, other.runNext.Takes history (result, left) ∧ SameAt device after left := by
  have hqueued := same.queued_eq
  rw [queued, queuedOther, List.filter_cons_of_pos (by simpa using hitem),
    List.filter_cons_of_pos (by simpa using hfound)] at hqueued
  obtain ⟨rfl, hrest⟩ := List.cons.inj hqueued
  subst hitem
  obtain ⟨outcome, tracker, rfl, rfl, hexecute⟩ := takes_runNext queued takes
  obtain ⟨left, hother, hslot⟩ := Topology.execute_mirrored same.slot?_eq hexecute
  rw [same.topology_eq] at hother
  refine ⟨{ other with tracker := left, queue := rest }, ?_, same.topology_eq, hslot, hrest⟩
  unfold runNext
  rw [queuedOther]
  exact Dialogue.takes_bind.2 ⟨history, [], _, (List.append_nil _).symm, hother, rfl, rfl⟩

theorem SameAt.awaited?_eq (same : SameAt device before other) :
    before.awaited? device = other.awaited? device := by
  have hqueued : (∀ item ∈ before.queue, item.device ≠ device) ↔
      ∀ item ∈ other.queue, item.device ≠ device := by
    have hfilter := congrArg (· = []) same.queued_eq
    simpa [List.filter_eq_nil_iff] using hfilter
  refine Option.ext fun slot => ?_
  rw [awaited?_eq_some_iff, awaited?_eq_some_iff, same.slot?_eq, hqueued]

theorem complete_of_awaited {completion : Completion} {slot : Slot} {tracker : Tracker}
    (awaited : before.awaited? completion.device = some slot)
    (finished : (before.topology.finish before.tracker completion.device slot
      completion.result).Takes history (sent, tracker)) :
    (before.complete completion).Takes history
      (verdict completion slot sent, { before with tracker }) := by
  unfold complete
  dsimp only
  rw [awaited]
  refine Dialogue.takes_bind.2 ⟨history, [], _, (List.append_nil _).symm, finished, ?_⟩
  unfold verdict
  cases sent with
  | error error => exact ⟨rfl, rfl⟩
  | ok sent =>
    cases hresult : completion.result with
    | error error => exact ⟨rfl, rfl⟩
    | ok value =>
      dsimp only
      split <;> exact ⟨rfl, rfl⟩

theorem complete_mirrored {completion : Completion} {result : Except CompletionError Unit}
    (same : SameAt completion.device before other)
    (takes : (before.complete completion).Takes history (result, after)) :
    ∃ left, (other.complete completion).Takes history (result, left) ∧
      SameAt completion.device after left := by
  rcases takes_complete takes with
    ⟨unawaited, rfl, rfl, rfl⟩ | ⟨slot, sent, tracker, awaited, finished, rfl, rfl⟩
  · rw [same.awaited?_eq] at unawaited
    refine ⟨other, ?_, same⟩
    unfold complete
    dsimp only
    rw [unawaited]
    exact Dialogue.takes_log_bind.2 ⟨[], rfl, rfl, rfl⟩
  · have hother : (other.topology.finish other.tracker completion.device slot
        completion.result).Takes history (sent, (other.tracker.release completion.device).2) := by
      rw [← same.topology_eq]
      exact Topology.finish_mirrored (by rw [same.slot?_eq]) finished
    refine ⟨_, complete_of_awaited (same.awaited?_eq ▸ awaited) hother, same.topology_eq, ?_,
      same.queued_eq⟩
    rw [(Topology.takes_finish finished).1, Tracker.slot?_release, Tracker.slot?_release,
      if_pos rfl, if_pos rfl]

/-- The operation is for the device: a message that means it, work for it that is the oldest in the
queue, or a completion for it. -/
def Targets (platform : Platform) (device : DeviceId) (history : History) : Operation → Prop
  | .receive _ raw payload => platform.topology.MeansOnly device raw payload history
  | .runNext => platform.queue.head?.map WorkItem.device = some device
  | .runQueue => False
  | .complete completion => completion.device = device

theorem perform_mirrored {operation : Operation} {result : OperationResult} {more : History}
    (consistent : before.Consistent) (consistentOther : other.Consistent)
    (same : SameAt device before other)
    (takes : (before.perform operation).Takes history (result, after))
    (targets : before.Targets device history operation)
    (targetsOther : other.Targets device more operation) :
    ∃ left, (other.perform operation).Takes history (result, left) ∧ SameAt device after left := by
  cases operation with
  | receive service raw payload =>
    obtain ⟨sent, rfl, hreceive⟩ := takes_result_iff.1 takes
    obtain ⟨left, hother, hsame⟩ :=
      receive_mirrored consistentOther same (takes_receive consistent hreceive) targets
    exact ⟨left, takes_result_iff.2 ⟨sent, rfl, hother⟩, hsame⟩
  | runNext =>
    obtain ⟨ran, rfl, hrun⟩ := takes_result_iff.1 takes
    obtain ⟨item, hhead, hitem⟩ := Option.map_eq_some_iff.1 targets
    obtain ⟨found, hheadOther, hfound⟩ := Option.map_eq_some_iff.1 targetsOther
    obtain ⟨queue, queued⟩ := List.head?_eq_some_iff.1 hhead
    obtain ⟨rest, queuedOther⟩ := List.head?_eq_some_iff.1 hheadOther
    obtain ⟨left, hother, hsame⟩ := runNext_mirrored same queued hitem queuedOther hfound hrun
    exact ⟨left, takes_result_iff.2 ⟨ran, rfl, hother⟩, hsame⟩
  | runQueue => exact absurd targets id
  | complete completion =>
    obtain ⟨completed, rfl, hcomplete⟩ := takes_result_iff.1 takes
    obtain rfl : completion.device = device := targets
    obtain ⟨left, hother, hsame⟩ := complete_mirrored same hcomplete
    exact ⟨left, takes_result_iff.2 ⟨completed, rfl, hother⟩, hsame⟩

end Mirrored

/-! ### The policy is asked about the device alone -/

theorem reviewsOnly_of_touch? {exchange : Exchange} {touch : Touch} {rest : History}
    (touched : exchange.touch? = some touch) (h : ReviewsOnly device rest) :
    ReviewsOnly device (exchange :: rest) := by
  refine List.forall_mem_cons.2 ⟨?_, h⟩
  obtain ⟨query, answer⟩ := exchange
  cases query <;> simp_all [Exchange.touch?, Query.reviewed?]

theorem reviewsOnly_of_takes_perform {operation : Operation} {result : OperationResult}
    (consistent : before.Consistent)
    (takes : (before.perform operation).Takes history (result, after))
    (targets : before.Targets device history operation) : ReviewsOnly device history := by
  cases operation with
  | receive service raw payload =>
    obtain ⟨sent, received⟩ := takes_perform_receive consistent takes
    obtain ⟨consulted, admission, last, rfl, assessed, hlast⟩ := received.exists_assessed
    refine reviewsOnly_append.2 ⟨Topology.reviewsOnly_of_takes_assess targets assessed, ?_⟩
    rcases hlast with ⟨reply, sent, rfl⟩ | ⟨notice, rfl⟩ <;>
      simp [ReviewsOnly, Query.reviewed?]
  | runNext =>
    obtain ⟨ran, -, hrun⟩ := takes_result_iff.1 takes
    obtain ⟨item, hhead, rfl⟩ := Option.map_eq_some_iff.1 targets
    obtain ⟨queue, queued⟩ := List.head?_eq_some_iff.1 hhead
    obtain ⟨slot, busy, -⟩ := consistent.slot_of_queued item (queued ▸ List.mem_cons_self)
    obtain ⟨outcome, tracker, -, -, hexecute⟩ := takes_runNext queued hrun
    obtain ⟨exchange, rest, rfl, deferred | settled⟩ := Topology.takes_execute busy hexecute
    · obtain ⟨touched, rfl, -⟩ := deferred
      exact reviewsOnly_of_touch? touched (by simp [ReviewsOnly, Query.reviewed?])
    · obtain ⟨found, sent, touched, finished, -⟩ := settled
      exact reviewsOnly_of_touch? touched (reviewsOnly_of_takes_finish finished)
  | runQueue => exact absurd targets id
  | complete completion =>
    obtain ⟨completed, -, hcomplete⟩ := takes_result_iff.1 takes
    obtain rfl : completion.device = device := targets
    rcases takes_complete hcomplete with
      ⟨-, rfl, -⟩ | ⟨slot, sent, tracker, -, finished, -⟩
    · simp [ReviewsOnly, Query.reviewed?]
    · exact reviewsOnly_of_takes_finish finished

/-! ### In a run -/

/-- An operation that is not a run of the whole queue changes what is kept of one device at most. -/
theorem perform_projection_eq {operation : Operation} {result : OperationResult}
    (consistent : before.Consistent) (single : operation ≠ .runQueue)
    (takes : (before.perform operation).Takes history (result, after)) (tables : Sharing) :
    ∃ device, ∀ elsewhere ≠ device, after.projection (tables.after (exchanges history)) elsewhere =
      before.projection tables elsewhere := by
  cases operation with
  | receive service raw payload =>
    obtain ⟨sent, received⟩ := takes_perform_receive consistent takes
    exact received.step.projection_eq tables
  | runNext =>
    obtain ⟨ran, -, hrun⟩ := takes_result_iff.1 takes
    obtain ⟨topology, tracker, queue⟩ := before
    cases queue with
    | nil =>
      obtain ⟨rfl, hend⟩ := hrun
      obtain ⟨-, rfl⟩ := Prod.mk.inj hend
      exact ⟨⟨0⟩, fun _ _ => rfl⟩
    | cons item queue =>
      obtain ⟨outcome, left, -, rfl, hexecute⟩ := takes_runNext rfl hrun
      exact (execute_step consistent hexecute).projection_eq tables
  | runQueue => exact absurd rfl single
  | complete completion =>
    obtain ⟨completed, -, hcomplete⟩ := takes_result_iff.1 takes
    have hdevice := (complete_step hcomplete).projection_eq tables
    rwa [Move.events, Sharing.after_append, Sharing.after_arrival] at hdevice

/-- A longer run is served if its last move is, after the others. -/
theorem serves_concat {move : Move} : tables.Serves (ClockManager.events (moves ++ [move])) ↔
    tables.Serves (ClockManager.events moves) ∧
      (tables.after (ClockManager.events moves)).Serves (exchanges move.history) := by
  rw [events_append, events_singleton, Sharing.serves_append, Move.events, Sharing.serves_append,
    Sharing.after_arrival, and_iff_right (Sharing.serves_arrival move)]

theorem after_concat {move : Move} : tables.after (ClockManager.events (moves ++ [move])) =
    (tables.after (ClockManager.events moves)).after (exchanges move.history) := by
  rw [events_append, events_singleton, Sharing.after_append, Move.events, Sharing.after_append,
    Sharing.after_arrival]

/-- With the sharing policy, an operation other than a run of the whole queue changes what is kept
of one device at most. And let another run of the same topology lead to a platform that keeps the
same of a device. If the same operation is for that device on both platforms, and the collaborators
answer it by one strategy, then the same is asked and answered, the operation has the same result,
and the same is kept of the device after it, whatever is kept of other devices. -/
theorem Runs.devices_do_not_interfere {operation : Operation} {result : OperationResult}
    (run : (start topology).Runs moves platform) (single : operation ≠ .runQueue)
    (takes : (platform.perform operation).Takes history (result, after))
    (serves : (Sharing.ofTopology topology).Serves
      (ClockManager.events (moves ++ [⟨operation, history, result⟩]))) :
    (∃ device, ∀ elsewhere ≠ device,
      after.projection ((Sharing.ofTopology topology).after
          (ClockManager.events (moves ++ [⟨operation, history, result⟩]))) elsewhere =
        platform.projection ((Sharing.ofTopology topology).after
          (ClockManager.events moves)) elsewhere) ∧
      ∀ otherMoves other otherHistory otherResult left device (strategy : Strategy),
        (start topology).Runs otherMoves other →
          (other.perform operation).Takes otherHistory (otherResult, left) →
            (Sharing.ofTopology topology).Serves
              (ClockManager.events (otherMoves ++ [⟨operation, otherHistory, otherResult⟩])) →
            platform.projection ((Sharing.ofTopology topology).after
                (ClockManager.events moves)) device =
              other.projection ((Sharing.ofTopology topology).after
                (ClockManager.events otherMoves)) device →
            platform.Targets device history operation →
            other.Targets device otherHistory operation →
            strategy.Answers history → strategy.Answers otherHistory →
              history = otherHistory ∧ result = otherResult ∧
                after.projection ((Sharing.ofTopology topology).after
                    (ClockManager.events (moves ++ [⟨operation, history, result⟩]))) device =
                  left.projection ((Sharing.ofTopology topology).after (ClockManager.events
                    (otherMoves ++ [⟨operation, otherHistory, otherResult⟩]))) device := by
  have hserves := (serves_concat.1 serves).2
  constructor
  · rw [after_concat]
    exact perform_projection_eq run.consistent single takes _
  · intro otherMoves other otherHistory otherResult left device strategy runOther takesOther
      servesOther heq targets targetsOther answers answersOther
    obtain ⟨same, hsame⟩ :=
      sameAt_of_projection_eq (run.topology_eq.trans runOther.topology_eq.symm) heq
    obtain ⟨found, mirrored, hfound⟩ :=
      perform_mirrored run.consistent runOther.consistent same takes targets targetsOther
    have only := reviewsOnly_of_takes_perform run.consistent takes targets
    have hconcur := hsame.concur only answers answersOther hserves
      (serves_concat.1 servesOther).2
    obtain ⟨rfl, hend⟩ := mirrored.unique takesOther hconcur
    obtain ⟨rfl, rfl⟩ := Prod.mk.inj hend
    rw [after_concat, after_concat]
    exact ⟨rfl, rfl, hfound.projection_eq (hsame.after only)⟩

open Bench in
/-- The start of the GPU is pending. Whether or not the CPU is stopped in the meantime, the
completion for the GPU is taken in the same way. -/
theorem devices_do_not_interfere_sample :
    let opening := [send 11 (.configSet 0 1), .operate .runNext]
    let pending := sampleSession.after opening
    let other := sampleSession.after (opening ++ busySteps)
    let completion := Operation.complete ⟨⟨1⟩, .ok .applied⟩
    (((Sharing.ofTopology sampleTopology).after
          (ClockManager.events (sampleSession.moves opening))).refcount? ⟨0⟩ = some 1 ∧
        ((Sharing.ofTopology sampleTopology).after (ClockManager.events
          (sampleSession.moves (opening ++ busySteps)))).refcount? ⟨0⟩ = some 0) ∧
      (pending.move completion).history = (other.move completion).history ∧
        (pending.move completion).result = (other.move completion).result := by
  intro opening pending other completion
  have hserves (steps : List Bench.Step) : (Sharing.ofTopology sampleTopology).Serves
      (ClockManager.events (sampleSession.moves steps ++
        [(sampleSession.after steps).move completion])) := by
    have h : (Sharing.ofTopology sampleTopology).Serves
        (ClockManager.events (sampleSession.moves (steps ++ [.operate completion]))) :=
      Session.serves_moves rfl _
    rwa [Session.moves_append] at h
  have htakes (session : Session) := Dialogue.takes_trace World.answer
    (session.platform.perform completion) session.world
  have hstates (steps : List Bench.Step) (row : List ClockState) (h : ((Sharing.ofTopology
      sampleTopology).after (ClockManager.events (sampleSession.moves steps))).states =
        [row, [.stopped, .stopped]]) (hrow : row[1]? = some .stopped) (agent : AgentId) :
      ((Sharing.ofTopology sampleTopology).after
        (ClockManager.events (sampleSession.moves steps))).state? agent ⟨1⟩ =
          if agent.index < 2 then some .stopped else none := by
    unfold Sharing.state?
    rw [h]
    generalize agent.index = place
    match place with
    | 0 => exact hrow
    | 1 => rfl
    | place + 2 => simp
  have hprojection : pending.platform.projection
      ((Sharing.ofTopology sampleTopology).after
        (ClockManager.events (sampleSession.moves opening))) ⟨1⟩ =
      other.platform.projection ((Sharing.ofTopology sampleTopology).after
        (ClockManager.events (sampleSession.moves (opening ++ busySteps)))) ⟨1⟩ := by
    refine SameAt.projection_eq ⟨rfl, by decide, by decide⟩ ⟨by decide, fun agent => ?_⟩
    rw [hstates opening [.running, .stopped] (by decide) rfl,
      hstates (opening ++ busySteps) [.stopped, .stopped] (by decide) rfl]
  have hanswers (history : History) (h : history =
      [⟨.reviewState .post ⟨⟨1⟩, 0, ⟨1⟩⟩ .running, ⟨.ok .proceed, .running⟩⟩,
        ⟨.log (.released ⟨1⟩), ()⟩,
        ⟨.respond ⟨11⟩ (.bytes (Frame.status .success).bytes), .ok ()⟩]) :
      pending.world.strategy.Answers history := by
    refine World.strategy_answers fun exchange hmem silent => ?_
    rw [h] at hmem
    simp only [List.mem_cons, List.not_mem_nil, or_false] at hmem
    rcases hmem with rfl | rfl | rfl
    · simp [Exchange.isReview] at silent
    · rfl
    · rfl
  obtain ⟨-, hmirrored⟩ := Runs.devices_do_not_interfere (sampleSession.runs_moves opening)
    (by simp [completion]) (htakes pending) (hserves opening)
  obtain ⟨hhistory, hresult, -⟩ := hmirrored _ _ _ _ _ ⟨1⟩ pending.world.strategy
    (sampleSession.runs_moves (opening ++ busySteps)) (htakes other) (hserves _) hprojection rfl rfl
    (hanswers _ rfl) (hanswers _ rfl)
  exact ⟨by decide, hhistory, hresult⟩

end Platform
end ClockManager
