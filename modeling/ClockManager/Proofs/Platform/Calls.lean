import ClockManager.Proofs.Bench
import ClockManager.Proofs.Platform.Step
import ClockManager.Proofs.Report
/-!
# The calls on the hardware

The hardware is asked to do what the accepted messages ask for, in the order in which they were
accepted: no call is lost, made twice, moved in front of another, or changed on its way through the
queue. What has not been called yet is what is queued. And a device that has left work pending is
left alone until a completion has been taken for it.

Both statements are about what can be seen from outside. A message is accepted if it is not answered
at once; what it asks for is read off the message, the agent that the transport has named and the
reviews of the policy.
-/

namespace ClockManager

/-! ### What an accepted message asks for -/

def Exchange.isReview (exchange : Exchange) : Bool :=
  match exchange.query with
  | .reviewRate _ _ _ => true
  | .reviewState _ _ _ => true
  | _ => false

/-- What the policy was asked, with what it said. -/
def reviews (history : History) : History := history.filter Exchange.isReview

theorem reviews_append (first second : History) :
    reviews (first ++ second) = reviews first ++ reviews second :=
  List.filter_append ..

namespace Move

/-- The message that the move takes in asks for the item: by its clock number, the agent that the
transport has named last means the device of the item, and its work is what the reviews of the
policy have left of the request. -/
inductive Orders (topology : Topology) : Move → WorkItem → Prop where
  | intro {service : ServiceId} {raw : UInt32} {payload : Bytes} {history : History}
      {result : OperationResult} {request : Request} {owner : Except TransportError AgentId}
      {clock : ResolvedClock} {work : Work}
      (decoded : Request.decodeRaw raw payload = .ok request)
      (named : owner? history = some owner)
      (resolved : topology.resolveClock owner clock.index = .ok clock)
      (passed : request.Passes clock (reviews history) work) :
      Orders topology ⟨.receive service raw payload, history, result⟩ ⟨clock.record.device, work⟩

end Move

section Orders

variable {topology : Topology} {service : ServiceId} {raw : UInt32} {payload : Bytes}
  {request : Request} {history permission consulted : History} {clock : ResolvedClock} {work : Work}

theorem reviews_of_permission (h : ∀ exchange ∈ permission, exchange.query.isPermission = true) :
    reviews permission = [] := by
  rw [reviews, List.filter_eq_nil_iff]
  intro exchange hmem
  have hquery := h exchange hmem
  obtain ⟨query, answer⟩ := exchange
  cases query <;> simp_all [Query.isPermission, Exchange.isReview]

theorem Request.Passes.reviews_eq (h : request.Passes clock history work) :
    reviews history = history := by
  cases h <;> rfl

/-- A message that has been accepted asks for the work that it has become. -/
theorem orders_of_takes_assess {notice : Notice} {result : OperationResult}
    (assessed : (topology.assess service raw payload).Takes consulted (.accept clock work)) :
    Move.Orders topology ⟨.receive service raw payload, consulted ++ [⟨.log notice, ()⟩], result⟩
      ⟨clock.record.device, work⟩ := by
  obtain ⟨request, permission, owner, passed, hdecoded, hpermitted, hclock, hpasses, rfl⟩ :=
    Topology.takes_assess_accept assessed
  have hpermission := hpermitted.forall_of_asks (request.asks_permitted service)
  have hreviews : reviews (permission ++ ⟨.agentOf service, owner⟩ :: passed ++
      [⟨.log notice, ()⟩]) = passed := by
    have hcons : reviews (⟨.agentOf service, owner⟩ :: passed) = reviews passed := rfl
    have hlast : reviews [⟨.log notice, ()⟩] = [] := rfl
    rw [reviews_append, reviews_append, reviews_of_permission hpermission, hcons,
      hpasses.reviews_eq, hlast, List.nil_append, List.append_nil]
  exact .intro hdecoded (hpasses.owner?_eq _ _ _ _) hclock (by rwa [hreviews])

end Orders

namespace Platform

variable {topology : Topology} {before after platform : Platform} {events : List Event}
  {moves : List Move} {device : DeviceId} {report : DeviceReport}

/-! ### Calls in the order of the messages -/

/-- Without a message, the calls are those that the queue holds first. -/
theorem Step.calls_append_queue (step : before.Step events after)
    (quiet : ∀ service raw payload, .message service raw payload ∉ events) :
    calls events ++ after.queue = before.queue := by
  cases step with
  | answered => exact absurd List.mem_cons_self (quiet _ _ _)
  | contended => exact absurd List.mem_cons_self (quiet _ _ _)
  | claimed => exact absurd List.mem_cons_self (quiet _ _ _)
  | deferred queued _ touched =>
    rw [exchanges_cons, calls_cons_of_touch? touched, queued]
    rfl
  | settled queued _ touched finished =>
    rw [exchanges_cons, calls_cons_of_touch? touched, queued,
      calls_exchanges_of_untouched (touch?_eq_none_of_takes_finish finished)]
    rfl
  | completed _ finished =>
    rw [calls_cons_completion,
      calls_exchanges_of_untouched (touch?_eq_none_of_takes_finish finished)]
    rfl
  | unsolicited => rfl

theorem Reaches.calls_append_queue (reached : before.Reaches events after)
    (quiet : ∀ service raw payload, .message service raw payload ∉ events) :
    calls events ++ after.queue = before.queue := by
  induction reached with
  | refl => rfl
  | tail _ step ih =>
    have hmore := step.calls_append_queue fun s r p h => quiet s r p (List.mem_append_right _ h)
    have hevents := ih fun s r p h => quiet s r p (List.mem_append_left _ h)
    rw [calls_append, List.append_assoc, hmore, hevents]

theorem calls_of_takes_assess {service : ServiceId} {raw : UInt32} {payload : Bytes}
    {consulted : History} {admission : Admission} {last : Exchange}
    (assessed : (topology.assess service raw payload).Takes consulted admission)
    (untouched : last.touch? = none) :
    calls (.message service raw payload :: exchanges (consulted ++ [last])) = [] := by
  rw [calls_cons_message]
  exact calls_exchanges_of_untouched (touch?_eq_none_of_consultation_append
    (Topology.consultation_of_takes_assess assessed) untouched)

/-- Taking a message in puts what it asks for at the end of the queue, if it is accepted. -/
theorem Received.calls {service : ServiceId} {raw : UInt32} {payload : Bytes} {history : History}
    {sent : Except TransportError Unit}
    (received : before.Received service raw payload history sent after) (result : OperationResult) :
    ∃ ordered, List.Forall₂ (Move.Orders before.topology)
        ([⟨.receive service raw payload, history, result⟩].filter Move.isAccepted) ordered ∧
      calls (.message service raw payload :: exchanges history) ++ after.queue =
        before.queue ++ ordered := by
  cases received with
  | answered assessed =>
    rw [List.filter_cons_of_neg (by simp [Move.isAccepted_eq_false]),
      calls_of_takes_assess assessed rfl]
    exact ⟨[], .nil, (List.append_nil _).symm⟩
  | contended assessed =>
    rw [List.filter_cons_of_neg (by simp [Move.isAccepted_eq_false]),
      calls_of_takes_assess assessed rfl]
    exact ⟨[], .nil, (List.append_nil _).symm⟩
  | @claimed consulted clock work _ assessed =>
    have hconsulted := Topology.consultation_of_takes_assess assessed
    rw [List.filter_cons_of_pos (Move.isAccepted_of_consultation hconsulted),
      calls_of_takes_assess assessed rfl]
    exact ⟨[⟨clock.record.device, work⟩], .cons (orders_of_takes_assess assessed) .nil, rfl⟩

/-- The calls of a move and the queue after it are the queue before it and what the move's message
asks for, if it takes one in and accepts it. -/
theorem perform_calls {move : Move} (h : before.Consistent)
    (takes : (before.perform move.operation).Takes move.history (move.result, after)) :
    ∃ ordered, List.Forall₂ (Move.Orders before.topology) ([move].filter Move.isAccepted) ordered ∧
      calls move.events ++ after.queue = before.queue ++ ordered := by
  have reached := perform_reaches h takes
  obtain ⟨operation, history, result⟩ := move
  cases operation with
  | receive service raw payload =>
    obtain ⟨sent, received⟩ := takes_perform_receive h takes
    exact received.calls _
  | _ =>
    refine ⟨[], .nil, ?_⟩
    rw [List.append_nil]
    exact reached.calls_append_queue (Move.not_message_mem_events nofun)

theorem Runs.calls (run : (start topology).Runs moves platform) :
    List.Forall₂ (Move.Orders topology) (moves.filter Move.isAccepted)
      (ClockManager.calls (ClockManager.events moves) ++ platform.queue) := by
  induction run with
  | nil => exact .nil
  | snoc run takes ih =>
    obtain ⟨ordered, hordered, hcalls⟩ := perform_calls run.consistent takes
    rw [run.topology_eq] at hordered
    rw [List.filter_append, events_append, events_singleton, calls_append, List.append_assoc,
      hcalls, ← List.append_assoc]
    exact List.rel_append ih hordered

/-! ### No call on a device that has work pending -/

/-- The event is no call on the device while the device has work pending. -/
def LeavesAlone (device : DeviceId) (report : DeviceReport) : Event → Prop
  | .exchange exchange =>
    ∀ touch, exchange.touch? = some touch → touch.device = device → report.pending? = none
  | _ => True

theorem leavesAlone_of_untouched {exchange : Exchange} (h : exchange.touch? = none) :
    LeavesAlone device report (.exchange exchange) := by
  intro touch htouch
  simp [h] at htouch

/-- By the report on it, a device has work pending exactly if its slot awaits a completion. -/
def Awaits (platform : Platform) (device : DeviceId) (report : DeviceReport) : Prop :=
  report.pending?.isSome ↔ (platform.awaited? device).isSome

theorem awaits_start (topology : Topology) (device : DeviceId) :
    (start topology).Awaits device {} := by
  simp [Awaits, awaited?, start, Tracker.slot?_empty]

/-- While work for a device is queued, nothing is pending there. -/
theorem Awaits.pending?_eq_none {item : WorkItem} {queue : List WorkItem}
    (h : before.Awaits device report) (queued : before.queue = item :: queue)
    (heq : item.device = device) : report.pending? = none := by
  have hnone : before.awaited? device = none := by simp [awaited?, queued, heq]
  rw [Awaits, hnone] at h
  simpa using h

theorem Awaits.takes_assess {service : ServiceId} {raw : UInt32} {payload : Bytes}
    {consulted : History} {admission : Admission} {last : Exchange}
    (h : after.Awaits device report)
    (assessed : (topology.assess service raw payload).Takes consulted admission)
    (untouched : last.touch? = none) :
    after.Awaits device
        ((Event.message service raw payload :: exchanges (consulted ++ [last])).foldl
          (DeviceReport.next device) report) ∧
      Along (DeviceReport.next device) (LeavesAlone device) report
        (.message service raw payload :: exchanges (consulted ++ [last])) := by
  have huntouched := touch?_eq_none_of_consultation_append
    (Topology.consultation_of_takes_assess assessed) untouched
  have hreport : (Event.message service raw payload :: exchanges (consulted ++ [last])).foldl
      (DeviceReport.next device) report = report := DeviceReport.foldl_of_untouched huntouched
  rw [hreport]
  exact ⟨h, trivial, DeviceReport.along_of_untouched huntouched fun _ => leavesAlone_of_untouched⟩

theorem Step.awaits (step : before.Step events after) (consistent : before.Consistent)
    (h : before.Awaits device report) :
    after.Awaits device (events.foldl (DeviceReport.next device) report) ∧
      Along (DeviceReport.next device) (LeavesAlone device) report events := by
  cases step with
  | answered assessed => exact h.takes_assess assessed rfl
  | contended assessed => exact h.takes_assess assessed rfl
  | claimed assessed acquired =>
    refine Awaits.takes_assess ?_ assessed rfl
    rw [Awaits, awaited?_claim acquired]
    exact h
  | @deferred item queue slot exchange queued busy touched =>
    rw [exchanges_cons, List.foldl_cons, DeviceReport.next_of_touch? touched]
    have halone : LeavesAlone device report (.exchange exchange) := by
      intro touch htouch heq
      cases touched.symm.trans htouch
      exact h.pending?_eq_none queued heq
    refine ⟨?_, halone, leavesAlone_of_untouched rfl, trivial⟩
    by_cases heq : item.device = device
    · subst heq
      have hawaited : awaited? { before with queue } item.device = some slot :=
        awaited?_eq_some_iff.2 ⟨busy, consistent.device_ne_of_queue_eq_cons queued⟩
      rw [if_pos rfl, Awaits, hawaited]
      exact Iff.rfl
    · rw [if_neg heq, Awaits]
      exact h.trans (by rw [awaited?_of_queue_eq_cons queued heq])
  | @settled item queue slot exchange result _ _ _ queued _ touched finished =>
    have huntouched := touch?_eq_none_of_takes_finish finished
    have halone : LeavesAlone device report (.exchange exchange) := by
      intro touch htouch heq
      cases touched.symm.trans htouch
      exact h.pending?_eq_none queued heq
    rw [exchanges_cons, List.foldl_cons, DeviceReport.foldl_of_untouched huntouched,
      DeviceReport.next_of_touch? touched, (Topology.takes_finish finished).1]
    refine ⟨?_, halone, DeviceReport.along_of_untouched huntouched
      fun _ => leavesAlone_of_untouched⟩
    rw [Awaits, awaited?_of_settled queued]
    by_cases heq : item.device = device
    · subst heq
      rw [if_pos rfl, if_pos rfl]
      simp [DeviceReport.settle]
    · rw [if_neg heq, if_neg fun h => heq h.symm]
      exact h
  | @completed completion slot _ _ _ awaited finished =>
    have huntouched := touch?_eq_none_of_takes_finish finished
    rw [List.foldl_cons, DeviceReport.foldl_of_untouched huntouched,
      (Topology.takes_finish finished).1]
    refine ⟨?_, trivial, DeviceReport.along_of_untouched huntouched
      fun _ => leavesAlone_of_untouched⟩
    rw [Awaits, awaited?_release]
    by_cases heq : completion.device = device
    · subst heq
      obtain ⟨work, hpending⟩ := Option.isSome_iff_exists.1 (h.2 (by rw [awaited]; rfl))
      rw [if_pos rfl, DeviceReport.next, hpending]
      simp [DeviceReport.settle]
    · rw [if_neg fun h => heq h.symm, DeviceReport.next_completion_of_ne heq]
      exact h
  | unsolicited => exact ⟨h, leavesAlone_of_untouched rfl, trivial⟩

theorem Reaches.awaits (reached : before.Reaches events after) (consistent : before.Consistent)
    (h : before.Awaits device report) :
    after.Awaits device (events.foldl (DeviceReport.next device) report) ∧
      Along (DeviceReport.next device) (LeavesAlone device) report events := by
  induction reached with
  | refl => exact ⟨h, trivial⟩
  | tail reached step ih =>
    obtain ⟨hawaits, halong⟩ := ih
    obtain ⟨hawaits', halong'⟩ := step.awaits (reached.consistent consistent) hawaits
    rw [List.foldl_append, along_append]
    exact ⟨hawaits', halong, halong'⟩

/-- Work stays pending until a completion is taken for the device. -/
theorem pending?_foldl {work : Work} (alone : Along (DeviceReport.next device) (LeavesAlone device)
    report events) (pending : report.pending? = some work)
    (uncompleted : ∀ completion, .completion completion ∈ events → completion.device ≠ device) :
    (events.foldl (DeviceReport.next device) report).pending? = some work := by
  induction events generalizing report with
  | nil => exact pending
  | cons event rest ih =>
    obtain ⟨hevent, hrest⟩ := alone
    have hkept : DeviceReport.next device report event = report := by
      cases event with
      | message => rfl
      | completion completion =>
        exact DeviceReport.next_completion_of_ne (uncompleted completion List.mem_cons_self)
      | exchange exchange =>
        cases htouch : exchange.touch? with
        | none => exact DeviceReport.next_of_touch?_eq_none htouch
        | some touch =>
          rw [DeviceReport.next_of_touch? htouch, if_neg]
          intro heq
          simp [hevent touch htouch heq] at pending
    rw [List.foldl_cons]
    rw [hkept] at hrest ⊢
    exact ih hrest pending fun c hc => uncompleted c (List.mem_cons_of_mem _ hc)

/-- Whoever the collaborators are, the calls on the hardware and after them the queued items are
what the accepted messages ask for, one by one. And between a call that the hardware left pending
and the next call on the same device, a completion has been taken for that device. -/
theorem Runs.calls_follow_messages (run : (start topology).Runs moves platform) :
    List.Forall₂ (Move.Orders topology) (moves.filter Move.isAccepted)
        (ClockManager.calls (ClockManager.events moves) ++ platform.queue) ∧
      ∀ past first between second later device work touch,
        ClockManager.events moves =
            past ++ .exchange first :: (between ++ .exchange second :: later) →
          first.touch? = some ⟨device, work, none⟩ → second.touch? = some touch →
            touch.device = device →
              ∃ completion, .completion completion ∈ between ∧ completion.device = device := by
  refine ⟨run.calls, ?_⟩
  intro past first between second later device work touch hsplit hfirst hsecond hdevice
  have hstart := consistent_start topology
  have halong := ((run.reaches hstart).awaits hstart (awaits_start topology device)).2
  rw [hsplit, along_append] at halong
  obtain ⟨-, -, hafter⟩ := halong
  obtain ⟨hbetween, hcall, -⟩ := along_append.1 hafter
  have hidle := hcall touch hsecond hdevice
  have hpending : ((DeviceReport.after device past).next device (.exchange first)).pending? =
      some work := by
    rw [DeviceReport.next_of_touch? hfirst, if_pos rfl]
    rfl
  by_contra huncompleted
  push Not at huncompleted
  rw [pending?_foldl hbetween hpending huncompleted] at hidle
  simp at hidle

open Bench in
/-- In the sample session four messages are accepted. Three of them have become calls, and the last
one is queued. The GPU is not called a second time before its start has been completed. -/
theorem calls_follow_messages_sample :
    List.Forall₂ (Move.Orders sampleTopology)
        ((sampleSession.moves sampleSteps).filter Move.isAccepted)
        ([⟨⟨1⟩, .setState .running⟩, ⟨⟨0⟩, .setState .stopped⟩, ⟨⟨1⟩, .setState .stopped⟩] ++
          [⟨⟨0⟩, .getState⟩]) ∧
      ∃ completion, .completion completion ∈
          ((ClockManager.events (sampleSession.moves sampleSteps)).drop 7).take 27 ∧
        completion.device = ⟨1⟩ := by
  have hcalls : ClockManager.calls (ClockManager.events (sampleSession.moves sampleSteps)) =
      [⟨⟨1⟩, .setState .running⟩, ⟨⟨0⟩, .setState .stopped⟩, ⟨⟨1⟩, .setState .stopped⟩] := by decide
  have hqueue : (sampleSession.after sampleSteps).platform.queue = [⟨⟨0⟩, .getState⟩] := by decide
  obtain ⟨horders, hbetween⟩ := Runs.calls_follow_messages (sampleSession.runs_moves sampleSteps)
  rw [hcalls, hqueue] at horders
  refine ⟨horders, ?_⟩
  exact hbetween ((ClockManager.events (sampleSession.moves sampleSteps)).take 6)
    ⟨.setState ⟨1⟩ .running, .ok .pending⟩ _ ⟨.setState ⟨1⟩ .stopped, .ok .pending⟩
    ((ClockManager.events (sampleSession.moves sampleSteps)).drop 35) ⟨1⟩ _ _ rfl rfl rfl rfl

end Platform
end ClockManager
