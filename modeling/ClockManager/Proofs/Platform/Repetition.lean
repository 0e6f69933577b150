import ClockManager.Proofs.Commit
import ClockManager.Proofs.Platform.Contention
import ClockManager.Proofs.Platform.Draining
import ClockManager.Proofs.Platform.Failure
import ClockManager.Proofs.Platform.Stickiness
import ClockManager.Proofs.Request
import ClockManager.Proofs.Sharing.Repetition
/-!
# Asking again, and taking back

An agent that has got a state for its device may ask for it again: it is told at once that the
device is as it wants it, and nothing changes. And an agent that starts a device and stops it again
leaves the tables as they were, whoever else holds the device. Either request may have needed the
hardware or not: what it enters in the tables is what the review of its commit would enter, which
is nothing if the request was taken as satisfied.

Only a stop can be rejected by the policy, and only if the agents that start the device enabled are
too many to be counted.
-/

namespace ClockManager

/-! ### What becomes of the request -/

namespace Topology

variable {topology : Topology} {service : ServiceId} {agent : AgentId} {clock : ResolvedClock}
  {index bits : UInt32} {state : ClockState} {history later : History} {tables : Sharing}
  {admission : Admission} {decision : Decision}

theorem takes_assess_configSet
    (resolved : topology.resolveClock (.ok agent) index = .ok clock)
    (known : ConfigAttributes.ofBits? bits = some state)
    (vouched : Vouched agent (history ++ later))
    (serves : tables.Serves (exchanges (history ++ later)))
    (decided : (tables.review .pre clock.context state).verdict = .ok decision)
    (takes : (topology.assess service Message.configSet.raw
      (Request.configSet index bits).payload).Takes history admission) :
    admission = if decision = .proceed then .accept clock (.setState state)
      else .status .success := by
  replace vouched := (vouched_append.1 vouched).1
  rw [exchanges_append, Sharing.serves_append] at serves
  obtain ⟨permission, rest, rfl, hpermission, hrest⟩ :=
    takes_assess_of_vouched (Request.decodeRaw_payload (.configSet index bits)) vouched takes
  have hconsulted := hpermission.forall_of_asks (Request.consults_permitted _ service)
  rw [exchanges_append, Sharing.serves_append, Sharing.after_of_consultation hconsulted] at serves
  exact takes_assessConfigSet_of_resolved resolved (vouched_append.1 vouched).2 serves.1.2 known
    decided hrest

/-- What is heard of a request that passes all checks but the policy's. -/
def rejection (service : ServiceId) (clock : ResolvedClock) (state : ClockState)
    (error : PolicyError) : History :=
  [⟨.agentOf service, .ok clock.agent⟩,
    ⟨.allowsResource clock.agent protocolId Message.configSet.raw clock.index, true⟩,
    ⟨.agentOf service, .ok clock.agent⟩,
    ⟨.reviewState .pre clock.context state, ⟨.error error, state⟩⟩,
    ⟨.log (.configSetRejected error), ()⟩]

theorem takes_assess_rejection {error : PolicyError}
    (resolved : topology.resolveClock (.ok clock.agent) clock.index = .ok clock)
    (known : ConfigAttributes.ofBits? bits = some state) :
    (topology.assess service Message.configSet.raw
      (Request.configSet clock.index bits).payload).Takes
        (rejection service clock state error) (.status .genericError) := by
  have decoded : Request.decodeRaw Message.configSet.raw
      (Request.configSet clock.index bits).payload = .ok (.configSet clock.index bits) :=
    Request.decodeRaw_payload (.configSet clock.index bits)
  have rejected : (topology.assessConfigSet service clock.index bits).Takes
      ((rejection service clock state error).drop 2) (.status .genericError) := by
    unfold assessConfigSet
    rw [known]
    dsimp only
    rw [Dialogue.takes_call_bind]
    refine ⟨.ok clock.agent, _, rfl, ?_⟩
    rw [resolved]
    exact ⟨_, _, rfl, (), [], rfl, rfl, rfl⟩
  unfold assess
  rw [decoded]
  exact Dialogue.takes_bind.2 ⟨[_, _], _, true, rfl, ⟨_, _, rfl, true, [], rfl, rfl, rfl⟩, rejected⟩

end Topology

namespace Platform

variable {topology : Topology} {before mid after : Platform} {events more : List Event}
  {tables : Sharing} {service : ServiceId} {clock : ResolvedClock} {bits : UInt32}
  {state : ClockState} {history : History} {sent : Except TransportError Unit}
  {decision : Decision} {device : DeviceId} {slot : Slot}

def setState (service : ServiceId) (index bits : UInt32) : Operation :=
  .receive service Message.configSet.raw (Request.configSet index bits).payload

section Received

variable (received : before.Received service Message.configSet.raw
    (Request.configSet clock.index bits).payload history sent after)
  (resolved : before.topology.resolveClock (.ok clock.agent) clock.index = .ok clock)
  (known : ConfigAttributes.ofBits? bits = some state) (vouched : Vouched clock.agent history)
  (serves : tables.Serves (exchanges history))
include received resolved known vouched serves

theorem Received.satisfied
    (decided : (tables.review .pre clock.context state).verdict = .ok .skip) :
    after = before ∧ ∃ consulted, Consultation consulted ∧
      (∀ exchange ∈ consulted, exchange.query.isHardware = false) ∧
      history = consulted ++
        [⟨.respond service (.bytes (Frame.status .success).bytes), sent⟩] := by
  cases received with
  | @answered consulted reply _ assessed =>
    have hadmission : Admission.answer reply = .status .success :=
      Topology.takes_assess_configSet resolved known vouched serves decided assessed
    obtain ⟨rfl⟩ := Admission.answer.inj hadmission
    refine ⟨rfl, consulted, Topology.consultation_of_takes_assess assessed, ?_, rfl⟩
    refine Topology.isHardware_eq_false_of_takes_assess
      (Request.decodeRaw_payload (.configSet clock.index bits)) ?_ (vouched_append.1 vouched).1
      assessed
    rw [Request.isOrderly, known]
    rfl
  | contended assessed =>
    have hadmission :=
      Topology.takes_assess_configSet resolved known vouched serves decided assessed
    exact absurd hadmission.symm Admission.status_ne_accept
  | claimed assessed =>
    have hadmission :=
      Topology.takes_assess_configSet resolved known vouched serves decided assessed
    exact absurd hadmission.symm Admission.status_ne_accept

theorem Received.accepted (idle : before.tracker.slot? clock.record.device = none)
    (decided : (tables.review .pre clock.context state).verdict = .ok .proceed) :
    after.tracker.slot? clock.record.device = some (clock.claim service (.setState state)) ∧
      ∃ consulted, history = consulted ++
        [⟨.log (.claimed clock.record.device .setState service), ()⟩] := by
  cases received with
  | answered assessed =>
    cases Topology.takes_assess_configSet resolved known vouched serves decided assessed
  | contended assessed busy =>
    cases Topology.takes_assess_configSet resolved known vouched serves decided assessed
    rw [idle] at busy
    cases busy
  | @claimed consulted _ _ tracker assessed acquired =>
    cases Topology.takes_assess_configSet resolved known vouched serves decided assessed
    refine ⟨?_, consulted, rfl⟩
    rw [Tracker.slot?_of_acquire acquired, if_pos rfl]

end Received

/-! ### Until the device is idle again -/

/-- The tables keep their entries for a device that is idle until it is claimed. -/
theorem Reaches.sameOn_of_idle (reached : before.Reaches events after)
    (backs : tables.Backs before) (serves : tables.Serves events)
    (idle : before.tracker.slot? device = none)
    (unclaimed : ∀ event ∈ events, event.claimed? ≠ some device) :
    Sharing.SameOn device tables (tables.after events) := by
  induction reached with
  | refl => exact .refl device tables
  | tail reached step ih =>
    obtain ⟨hreached, hstep⟩ := Sharing.serves_append.1 serves
    obtain ⟨hunclaimed, -⟩ := List.forall_mem_append.1 unclaimed
    have hsame := ih hreached hunclaimed
    rw [Sharing.after_append]
    rcases step.ends (reached.commits backs hreached).1 hstep with none | ⟨other, _, result, one⟩
    · rwa [none.tables_eq]
    · have hne : device ≠ other := by
        rintro rfl
        have hidle := reached.slot?_of_unclaimed hunclaimed
        rw [idle, or_self, one.busy] at hidle
        cases hidle
      rw [one.tables_eq]
      exact hsame.trans (Sharing.sameOn_commit_of_ne hne _ _)

/-- A request has ended in a success among the events, and its owner has been told. -/
def TellsSuccess (device : DeviceId) (service : ServiceId) (events : List Event) : Prop :=
  ∃ earlier ending since sent later,
    events = earlier ++ ending :: exchanges since ++
      .exchange ⟨.respond service (.bytes (Frame.status .success).bytes), sent⟩ :: later ∧
    ending.ending? = some (device, .ok .applied) ∧
    ∀ made ∈ since, (Event.exchange made).ending? = none

theorem exists_closing_eq (service : ServiceId) (device : DeviceId) (review : StateReview)
    (sent : Except TransportError Unit) :
    ∃ notices, closing service device review sent =
      notices ++ [⟨.respond service (.bytes (Frame.status .success).bytes), sent⟩] := by
  unfold closing
  rw [List.append_cons _ _ [_]]
  exact ⟨_, rfl⟩

theorem tellsSuccess_of_takes_finish {tracker left : Tracker} {ending : Event}
    (busy : tracker.slot? device = some slot) (target : slot.applied? (.ok .applied) = some state)
    (finished : (topology.finish tracker device slot (.ok .applied)).Takes history (sent, left))
    (ends : ending.ending? = some (device, .ok .applied)) :
    TellsSuccess device slot.owner.service (ending :: exchanges history) := by
  have hunended := unended_of_takes_finish finished
  obtain ⟨review, hhistory⟩ := Topology.takes_finish_of_applied? busy target finished
  obtain ⟨notices, hclosing⟩ := exists_closing_eq slot.owner.service device review sent
  rw [hclosing, ← List.cons_append] at hhistory
  subst hhistory
  refine ⟨[], ending, ⟨.reviewState .post (slot.owner.context device) state, review⟩ :: notices,
    sent, [], ?_, ends, fun made hmem => ?_⟩
  · rw [exchanges_append]
    rfl
  · exact hunended _ (exchange_mem_exchanges.2 (List.mem_append_left _ hmem))

theorem Step.tellsSuccess (step : before.Step events after)
    (busy : before.tracker.slot? device = some slot)
    (target : slot.applied? (.ok .applied) = some state)
    (free : after.tracker.slot? device = none)
    (succeeds : ∀ event ∈ events, ∀ result, event.ending? = some (device, result) →
      result = .ok .applied) :
    TellsSuccess device slot.owner.service events := by
  have hstays (h : after.tracker.slot? device = before.tracker.slot? device) :
      TellsSuccess device slot.owner.service events := by
    rw [free, busy] at h
    cases h
  cases step with
  | answered => exact hstays rfl
  | contended => exact hstays rfl
  | claimed _ acquired =>
    rw [Tracker.slot?_of_acquire acquired] at free
    split at free
    · cases free
    · cases busy.symm.trans free
  | deferred => exact hstays rfl
  | @settled item _ _ exchange result _ _ _ _ found touched finished =>
    rw [(Topology.takes_finish finished).1, Tracker.slot?_release] at free
    split at free
    · rename_i heq
      subst heq
      have hending : (Event.exchange exchange).ending? = some (item.device, result) := by
        rw [Event.ending?, touched]
        rfl
      cases succeeds _ List.mem_cons_self _ hending
      cases busy.symm.trans found
      exact tellsSuccess_of_takes_finish busy target finished hending
    · cases busy.symm.trans free
  | @completed completion _ _ _ _ awaited finished =>
    rw [(Topology.takes_finish finished).1, Tracker.slot?_release] at free
    split at free
    · rename_i heq
      subst heq
      have hresult := succeeds _ List.mem_cons_self _ rfl
      rw [hresult] at finished
      cases busy.symm.trans (awaited?_eq_some_iff.1 awaited).1
      refine tellsSuccess_of_takes_finish busy target finished ?_
      rw [Event.ending?, hresult]
    · cases busy.symm.trans free
  | unsolicited => exact hstays rfl

theorem TellsSuccess.append (h : TellsSuccess device service events) (more : List Event) :
    TellsSuccess device service (events ++ more) := by
  obtain ⟨earlier, ending, since, sent, later, rfl, ends, unended⟩ := h
  exact ⟨earlier, ending, since, sent, later ++ more, by simp, ends, unended⟩

theorem TellsSuccess.prepend (h : TellsSuccess device service more) (events : List Event) :
    TellsSuccess device service (events ++ more) := by
  obtain ⟨earlier, ending, since, sent, later, rfl, ends, unended⟩ := h
  exact ⟨events ++ earlier, ending, since, sent, later, by simp, ends, unended⟩

theorem Reaches.tellsSuccess (reached : before.Reaches events after)
    (busy : before.tracker.slot? device = some slot)
    (target : slot.applied? (.ok .applied) = some state)
    (unclaimed : ∀ event ∈ events, event.claimed? ≠ some device)
    (free : after.tracker.slot? device = none)
    (succeeds : ∀ event ∈ events, ∀ result, event.ending? = some (device, result) →
      result = .ok .applied) :
    TellsSuccess device slot.owner.service events := by
  induction reached with
  | refl =>
    rw [busy] at free
    cases free
  | tail reached step ih =>
    rw [List.forall_mem_append] at unclaimed succeeds
    rcases reached.slot?_of_unclaimed unclaimed.1 with heq | hfree
    · exact (step.tellsSuccess (heq.trans busy) target free succeeds.2).prepend _
    · exact (ih unclaimed.1 hfree succeeds.1).append _

end Platform

/-! ### A request and its success -/

/-- The message that a move takes in, with what is heard of it before it is answered or accepted. -/
def Move.errand? (move : Move) : Option Errand :=
  match move.operation with
  | .receive service raw payload => some ⟨service, raw, payload, move.history.dropLast⟩
  | _ => none

/-- Among the events after `past` the message of a move is answered with a status. -/
def Move.IsTold (move : Move) (status : Status) (past events : List Event) : Prop :=
  ∃ errand before sent later ended?, move.errand? = some errand ∧
    events = before ++
      .exchange ⟨.respond errand.service (.bytes (Frame.status status).bytes), sent⟩ :: later ∧
    errand.Awaits (past ++ before) ended?

section IsTold

variable {service : ServiceId} {raw : UInt32} {payload : Bytes} {consulted : History}
  {result : OperationResult} {kind : RequestKind} {device : DeviceId} {status : Status}

theorem Move.errand?_receive (last : Exchange) :
    Move.errand? ⟨.receive service raw payload, consulted ++ [last], result⟩ =
      some ⟨service, raw, payload, consulted⟩ := by
  rw [errand?, List.dropLast_concat]

theorem isTold_of_answered (hconsulted : Consultation consulted)
    (sent : Except TransportError Unit) (past more : List Event) :
    let last : Exchange := ⟨.respond service (.bytes (Frame.status status).bytes), sent⟩
    Move.IsTold ⟨.receive service raw payload, consulted ++ [last], result⟩ status past
      (.message service raw payload :: exchanges (consulted ++ [last]) ++ more) := by
  intro last
  refine ⟨⟨service, raw, payload, consulted⟩,
    .message service raw payload :: exchanges consulted, sent, more, none,
    Move.errand?_receive last, ?_, ?_⟩
  · rw [exchanges_append, List.cons_append, List.cons_append, List.append_assoc]
    rfl
  · exact .atOnce (Errand.isLatest_append service raw payload consulted past) fun exchange hmem =>
      Event.ending?_of_isConsultation (hconsulted exchange hmem)

theorem isTold_of_claimed {more : List Event} (told : Platform.TellsSuccess device service more)
    (unclaimed : ∀ event ∈ more, event.claimed? ≠ some device) (past : List Event) :
    let last : Exchange := ⟨.log (.claimed device kind service), ()⟩
    Move.IsTold ⟨.receive service raw payload, consulted ++ [last], result⟩ .success past
      (.message service raw payload :: exchanges (consulted ++ [last]) ++ more) := by
  intro last
  obtain ⟨earlier, ending, since, sent, later, rfl, ends, unended⟩ := told
  let message := Event.message service raw payload :: exchanges consulted
  refine ⟨⟨service, raw, payload, consulted⟩,
    message ++ .exchange last :: earlier ++ ending :: exchanges since, sent, later,
    some (device, .ok .applied), Move.errand?_receive last, ?_, ?_⟩
  · rw [exchanges_append]
    simp [message, exchanges]
  · rw [← List.append_assoc]
    refine .ended ⟨past ++ message, .exchange last, earlier, by simp, ?_, rfl, ?_⟩ ends unended
    · exact Errand.isLatest_append service raw payload consulted past
    · exact fun event hmem => unclaimed event (by simp [hmem])

end IsTold

namespace Platform

variable {topology : Topology} {before mid after platform : Platform} {tables : Sharing}
  {service : ServiceId} {clock : ResolvedClock} {bits : UInt32} {state : ClockState}
  {message : Move} {rest past : List Move} {decision : Decision}

/-- An agent asks for a state of a clock whose device is idle. -/
structure Asks (before : Platform) (service : ServiceId) (clock : ResolvedClock) (bits : UInt32)
    (state : ClockState) (message : Move) : Prop where
  resolved : before.topology.resolveClock (.ok clock.agent) clock.index = .ok clock
  known : ConfigAttributes.ofBits? bits = some state
  idle : before.tracker.slot? clock.record.device = none
  receives : message.operation = setState service clock.index bits
  vouched : Vouched clock.agent message.history

/-- From such a message on until the device is idle again nothing else claims it, and the hardware
succeeds whenever a call on it ends. Anything may happen to other devices meanwhile. -/
structure CarriesOut (before : Platform) (tables : Sharing) (service : ServiceId)
    (clock : ResolvedClock) (bits : UInt32) (state : ClockState) (message : Move)
    (rest : List Move) (after : Platform) : Prop where
  asks : before.Asks service clock bits state message
  run : before.Runs (message :: rest) after
  serves : tables.Serves (ClockManager.events (message :: rest))
  unclaimed : ∀ event ∈ ClockManager.events rest, event.claimed? ≠ some clock.record.device
  succeeds : ∀ event ∈ ClockManager.events rest, ∀ result,
    event.ending? = some (clock.record.device, result) → result = .ok .applied
  idle_after : after.tracker.slot? clock.record.device = none

/-- A request that was let through and has succeeded is committed once, for the agent that has made
it. -/
theorem Reaches.sameOn_of_succeeded {events : List Event} {tables : Sharing}
    (reached : before.Reaches events after) (backs : tables.Backs before)
    (serves : tables.Serves events)
    (busy : before.tracker.slot? clock.record.device = some (clock.claim service (.setState state)))
    (unclaimed : ∀ event ∈ events, event.claimed? ≠ some clock.record.device)
    (told : TellsSuccess clock.record.device service events)
    (ready : tables.Ready clock.agent clock.record.device state) :
    Sharing.SameOn clock.record.device (tables.review .post clock.context state).sharing
      (tables.after events) := by
  obtain ⟨earlier, ending, since, sent, later, rfl, ends, -⟩ := told
  obtain ⟨-, same⟩ := reached.ended backs serves unclaimed busy ⟨ending, by simp, ends⟩
  rw [Sharing.review_post ready]
  exact same

/-- The message is answered with success, and what is entered for the device by then is what the
review of the commit enters. -/
theorem CarriesOut.told_and_entered
    (h : before.CarriesOut tables service clock bits state message rest after)
    (consistent : before.Consistent) (backs : tables.Backs before)
    (decided : (tables.review .pre clock.context state).verdict = .ok decision)
    (past : List Event) :
    message.IsTold .success past (ClockManager.events (message :: rest)) ∧
      Sharing.SameOn clock.record.device (tables.review .post clock.context state).sharing
        (tables.after (ClockManager.events (message :: rest))) := by
  obtain ⟨⟨resolved, known, idle, receives, vouched⟩, run, serves, unclaimed, succeeds,
    idleAfter⟩ := h
  obtain ⟨operation, history, result⟩ := message
  obtain rfl : operation = setState service clock.index bits := receives
  rw [← List.singleton_append] at run
  obtain ⟨accepted, first, second⟩ := runs_append.1 run
  obtain ⟨sent, received⟩ := takes_perform_receive consistent (runs_singleton.1 first)
  have reached := second.reaches (received.step.consistent consistent)
  have hevents :
      ClockManager.events (⟨setState service clock.index bits, history, result⟩ :: rest) =
      .message service Message.configSet.raw (Request.configSet clock.index bits).payload ::
        exchanges history ++ ClockManager.events rest := rfl
  rw [hevents] at serves ⊢
  obtain ⟨servesFirst, servesRest⟩ := Sharing.serves_append.1 serves
  have hbacks := (received.step.reaches.commits backs servesFirst).1
  rw [Sharing.after_append]
  rw [received.tables_after] at servesRest hbacks ⊢
  cases decision with
  | skip =>
    -- The message is answered at once, and nothing is entered for the device later.
    obtain ⟨rfl, consulted, hconsulted, -, rfl⟩ :=
      received.satisfied resolved known vouched servesFirst.2 decided
    rw [Sharing.review_sharing_of_skip decided]
    exact ⟨isTold_of_answered hconsulted sent past _,
      reached.sameOn_of_idle hbacks servesRest idle unclaimed⟩
  | proceed =>
    -- The device is claimed, and some step frees it again.
    obtain ⟨busy, consulted, rfl⟩ :=
      received.accepted resolved known vouched servesFirst.2 idle decided
    have told := reached.tellsSuccess busy rfl unclaimed idleAfter succeeds
    exact ⟨isTold_of_claimed told unclaimed past, reached.sameOn_of_succeeded hbacks servesRest
      busy unclaimed told (Sharing.review_eq_proceed_iff.1 decided)⟩

/-! ### Until a request has ended -/

/-- As many items are run as are queued, and if the device is busy after that, the hardware has been
slow and completes the request of the device. Whenever it is done with it, it reports success. -/
structure RunsOut (platform : Platform) (device : DeviceId) (nexts : List Move) (drained : Platform)
    (endings : List Move) (rest : Platform) : Prop where
  nexts_operations : nexts.map Move.operation = List.replicate platform.queue.length .runNext
  runs_nexts : platform.Runs nexts drained
  succeeds : ∀ event ∈ ClockManager.events nexts, ∀ result,
    event.ending? = some (device, result) → result = .ok .applied
  endings_operations : endings.map Move.operation =
    if drained.isBusy device then [.complete ⟨device, .ok .applied⟩] else []
  runs_endings : drained.Runs endings rest

section RunsOut

variable {device : DeviceId} {nexts endings : List Move} {move : Move} {accepted : Platform}

theorem RunsOut.forall_complete (h : platform.RunsOut device nexts mid endings after) :
    ∀ move ∈ endings, move.operation = .complete ⟨device, .ok .applied⟩ := by
  intro move hmove
  have hmem := List.mem_map_of_mem (f := Move.operation) hmove
  rw [h.endings_operations] at hmem
  split at hmem
  · exact List.mem_singleton.1 hmem
  · cases hmem

theorem RunsOut.slot?_eq_none (h : platform.RunsOut device nexts mid endings after) :
    after.tracker.slot? device = none := by
  obtain ⟨hlength, hnext⟩ := forall_runNext_of_map_eq h.nexts_operations
  have hdrained : mid.queue = [] := by
    rw [(h.runs_nexts.queue_of_runNexts hnext).1, hlength, List.drop_length]
  have hendings := h.endings_operations
  split at hendings
  · rename_i busy
    let completions : List Completion := [⟨device, .ok .applied⟩]
    have hoperations : endings.map Move.operation = completions.map .complete := hendings
    have hfreed := (h.runs_endings.slot?_of_completions hoperations hdrained
      (List.nodup_singleton _) (by simpa [completions] using busy)).2.1 device
    simpa [completions] using hfreed
  · rename_i idle
    rw [List.map_eq_nil_iff.1 hendings] at h
    obtain rfl := runs_nil.1 h.runs_endings
    rwa [isBusy, Bool.not_eq_true, Option.isSome_eq_false_iff, Option.isNone_iff_eq_none] at idle

theorem result_eq_of_takes_complete {completion : Completion} {result : Except HardwareError Value}
    (takes : (before.perform move.operation).Takes move.history (move.result, after))
    (completes : move.operation = .complete completion) :
    ∀ event ∈ move.events, event.ending? = some (device, result) → result = completion.result := by
  obtain ⟨operation, history, moved⟩ := move
  obtain rfl : operation = .complete completion := completes
  obtain ⟨completed, rfl, hcomplete⟩ := takes_result_iff.1 takes
  have hunended : ∀ event ∈ exchanges history, event.ending? = none := by
    rcases takes_complete hcomplete with ⟨-, rfl, -, -⟩ | ⟨_, _, _, -, finished, -, -⟩
    · exact List.forall_mem_singleton.2 rfl
    · exact unended_of_takes_finish finished
  intro event hevent hending
  rcases List.mem_append.1 hevent with harrival | hexchange
  · unfold Move.arrival at harrival
    split at harrival <;> simp_all [Event.ending?]
  · rw [hunended event hexchange] at hending
    cases hending

theorem Runs.result_eq_of_complete {completion : Completion} (run : before.Runs endings after)
    (completes : ∀ move ∈ endings, move.operation = .complete completion) :
    ∀ event ∈ ClockManager.events endings, ∀ result,
      event.ending? = some (device, result) → result = completion.result := by
  induction run with
  | nil => exact nofun
  | snoc _ takes ih =>
    obtain ⟨hmoves, hlast⟩ := List.forall_mem_append.1 completes
    rw [events_append, events_singleton]
    exact List.forall_mem_append.2 ⟨ih hmoves, fun event hevent result hending =>
      result_eq_of_takes_complete takes (hlast _ List.mem_cons_self) event hevent hending⟩

theorem RunsOut.not_message_mem_events (h : platform.RunsOut device nexts mid endings after)
    (service : ServiceId) (raw : UInt32) (payload : Bytes) :
    .message service raw payload ∉ ClockManager.events (nexts ++ endings) := by
  intro hmem
  obtain ⟨move, hmove, hevent⟩ := List.mem_flatMap.1 hmem
  refine Move.not_message_mem_events (fun _ _ _ hreceive => ?_) service raw payload hevent
  rcases List.mem_append.1 hmove with hmove | hmove
  · have hnext := (forall_runNext_of_map_eq h.nexts_operations).2 move hmove
    cases hnext.symm.trans hreceive
  · cases (h.forall_complete move hmove).symm.trans hreceive

theorem Asks.carriesOut (asks : before.Asks service clock bits state message)
    (consistent : before.Consistent) (accepts : before.Runs [message] accepted)
    (runsOut : accepted.RunsOut clock.record.device nexts mid endings after)
    (serves : tables.Serves (ClockManager.events (message :: (nexts ++ endings)))) :
    before.CarriesOut tables service clock bits state message (nexts ++ endings) after where
  asks := asks
  run := accepts.trans (runsOut.runs_nexts.trans runsOut.runs_endings)
  serves := serves
  unclaimed event hevent := by
    have reached := (runsOut.runs_nexts.trans runsOut.runs_endings).reaches
      ((accepts.reaches consistent).consistent consistent)
    rw [reached.unclaimed runsOut.not_message_mem_events event hevent]
    exact nofun
  succeeds := by
    rw [events_append]
    exact List.forall_mem_append.2 ⟨runsOut.succeeds,
      runsOut.runs_endings.result_eq_of_complete runsOut.forall_complete⟩
  idle_after := runsOut.slot?_eq_none

end RunsOut

/-! ### Again, and undone -/

/-- Whoever asks for this again is told at once that it is so. The hardware is left alone, and so
are the slots, the queue and the tables. -/
def IsSettled (platform : Platform) (tables : Sharing) (service : ServiceId)
    (clock : ResolvedClock) (bits : UInt32) : Prop :=
  ∀ again last, again.operation = setState service clock.index bits →
    Vouched clock.agent again.history → platform.Runs [again] last → tables.Serves again.events →
      replies again.history = [(service, .bytes (Frame.status .success).bytes)] ∧
      (∀ exchange ∈ again.history, exchange.query.isHardware = false) ∧
      last = platform ∧ tables.after again.events = tables

theorem isSettled_of_skip (consistent : platform.Consistent)
    (resolved : platform.topology.resolveClock (.ok clock.agent) clock.index = .ok clock)
    (known : ConfigAttributes.ofBits? bits = some state)
    (decided : (tables.review .pre clock.context state).verdict = .ok .skip) :
    platform.IsSettled tables service clock bits := by
  rintro ⟨operation, history, result⟩ last rfl vouched run serves
  obtain ⟨sent, received⟩ := takes_perform_receive consistent (runs_singleton.1 run)
  have htables : tables.after (Event.message _ _ _ :: exchanges history) = tables :=
    received.tables_after
  obtain ⟨rfl, consulted, hconsulted, soft, rfl⟩ :=
    received.satisfied resolved known vouched serves.2 decided
  refine ⟨?_, ?_, rfl, htables⟩
  · rw [replies_append, replies_of_consultation hconsulted]
    rfl
  · exact List.forall_mem_append.2 ⟨soft, List.forall_mem_singleton.2 rfl⟩

/-- The policy does not refuse a request for an agent's clock, as long as its holders can be
counted. -/
theorem exists_decision_of_resolved {index : UInt32} {agent : AgentId} (events : List Event)
    (resolved : topology.resolveClock (.ok agent) index = .ok clock)
    (countable : state = .stopped →
      (Sharing.starters topology clock.record.device).ncard < UInt32.size) :
    ∃ decision, (((Sharing.ofTopology topology).after events).review .pre clock.context
      state).verdict = .ok decision := by
  obtain ⟨held, hheld⟩ := exists_state?_of_resolved resolved events
  obtain ⟨refcount, counted⟩ := Sharing.refcount?_eq_some_of_lt (Sharing.index_lt_of_cell? hheld)
  refine Sharing.exists_decision hheld counted ?_
  rintro hstopped rfl
  exact (Sharing.countsExactly_after (countable hstopped) events).ne_zero hheld counted

section Run

variable (run : (start topology).Runs past platform)
  (serves : (Sharing.ofTopology topology).Serves (ClockManager.events past))
  (tables_eq : tables = (Sharing.ofTopology topology).after (ClockManager.events past))
include run serves tables_eq

theorem CarriesOut.told_and_settled
    (h : platform.CarriesOut tables service clock bits state message rest after)
    (countable : state = .stopped →
      (Sharing.starters topology clock.record.device).ncard < UInt32.size) :
    message.IsTold .success (ClockManager.events past) (ClockManager.events (message :: rest)) ∧
      after.IsSettled (tables.after (ClockManager.events (message :: rest))) service clock
        bits := by
  have resolved := run.topology_eq ▸ h.asks.resolved
  obtain ⟨decision, decided⟩ : ∃ decision,
      (tables.review .pre clock.context state).verdict = .ok decision :=
    tables_eq ▸ exists_decision_of_resolved (ClockManager.events past) resolved countable
  obtain ⟨told, entered⟩ := h.told_and_entered run.consistent (tables_eq ▸ run.backs serves)
    decided (ClockManager.events past)
  have runAfter := run.trans h.run
  refine ⟨told, isSettled_of_skip runAfter.consistent ?_ h.asks.known ?_⟩
  · exact runAfter.topology_eq ▸ resolved
  · rw [← (entered.review .pre state).1]
    exact Sharing.review_again decided

theorem CarriesOut.undone {later : ServiceId} {same : ResolvedClock} {zeros : UInt32} {undo : Move}
    {others : List Move}
    (starts : platform.CarriesOut tables service clock bits .running message rest mid)
    (stops : mid.CarriesOut (tables.after (ClockManager.events (message :: rest))) later same zeros
      .stopped undo others after)
    (sameAgent : same.context.agent = clock.context.agent)
    (sameDevice : same.context.device = clock.context.device)
    (stopped : tables.state? clock.context.agent clock.context.device = some .stopped) :
    message.IsTold .success (ClockManager.events past) (ClockManager.events (message :: rest)) ∧
      undo.IsTold .success (ClockManager.events (past ++ message :: rest))
        (ClockManager.events (undo :: others)) ∧
      Sharing.SameOn clock.record.device tables
        (tables.after (ClockManager.events (message :: rest ++ undo :: others))) := by
  have backs : tables.Backs platform := tables_eq ▸ run.backs serves
  have backsMid := ((starts.run.reaches run.consistent).commits backs starts.serves).1
  obtain ⟨decision, decided⟩ : ∃ decision,
      (tables.review .pre clock.context .running).verdict = .ok decision :=
    tables_eq ▸ exists_decision_of_resolved (ClockManager.events past)
      (run.topology_eq ▸ starts.asks.resolved) nofun
  obtain ⟨told, started⟩ := starts.told_and_entered run.consistent backs decided
    (ClockManager.events past)
  obtain ⟨undoing, undoes⟩ :=
    Sharing.exists_decision_of_started started stopped sameAgent sameDevice
  obtain ⟨toldUndo, ended⟩ := stops.told_and_entered (run.trans starts.run).consistent backsMid
    undoes (ClockManager.events (past ++ message :: rest))
  refine ⟨told, toldUndo, ?_⟩
  rw [events_append, Sharing.after_append]
  have hdevice : same.record.device = clock.record.device := sameDevice
  rw [hdevice] at ended
  exact Sharing.sameOn_of_started_and_stopped started stopped sameAgent sameDevice ended

end Run

/-! ### A request that the policy rejects -/

def rejected (service : ServiceId) (clock : ResolvedClock) (bits : UInt32) (state : ClockState)
    (error : PolicyError) : Move where
  operation := setState service clock.index bits
  history := Topology.rejection service clock state error ++
    [⟨.respond service (.bytes (Frame.status .genericError).bytes), .ok ()⟩]
  result := .received (.ok ())

section Rejected

variable {error : PolicyError}

theorem vouched_rejected :
    Vouched clock.agent (rejected service clock bits state error).history := by
  constructor
  · simp [rejected, Topology.rejection, owners, Exchange.owner?]
  · simp [rejected, Topology.rejection, Exchange.isDenial]

theorem runs_rejected
    (resolved : platform.topology.resolveClock (.ok clock.agent) clock.index = .ok clock)
    (known : ConfigAttributes.ofBits? bits = some state) :
    platform.Runs [rejected service clock bits state error] platform := by
  refine runs_singleton.2 (takes_result_iff.2 ⟨.ok (), rfl, ?_⟩)
  exact Dialogue.takes_bind.2
    ⟨_, [_], _, rfl, Topology.takes_assess_rejection resolved known, .ok (), [], rfl, rfl, rfl⟩

theorem serves_rejected
    (decided : (tables.review .pre clock.context state).verdict = .error error) :
    tables.Serves (ClockManager.events [rejected service clock bits state error]) := by
  refine ⟨trivial, trivial, trivial, trivial, ?_, trivial, trivial, trivial⟩
  rw [← decided]
  rfl

theorem after_rejected :
    tables.after (ClockManager.events [rejected service clock bits state error]) = tables :=
  Sharing.review_pre

theorem carriesOut_rejected
    (resolved : platform.topology.resolveClock (.ok clock.agent) clock.index = .ok clock)
    (known : ConfigAttributes.ofBits? bits = some state)
    (idle : platform.tracker.slot? clock.record.device = none)
    (decided : (tables.review .pre clock.context state).verdict = .error error) :
    platform.CarriesOut tables service clock bits state
      (rejected service clock bits state error) [] platform where
  asks := ⟨resolved, known, idle, rfl, vouched_rejected⟩
  run := runs_rejected resolved known
  serves := serves_rejected decided
  unclaimed := nofun
  succeeds := nofun
  idle_after := idle

/-- A request that is rejected is rejected again if it is made again. -/
theorem not_isSettled_of_rejected
    (resolved : platform.topology.resolveClock (.ok clock.agent) clock.index = .ok clock)
    (known : ConfigAttributes.ofBits? bits = some state)
    (decided : (tables.review .pre clock.context state).verdict = .error error) :
    ¬ platform.IsSettled tables service clock bits := by
  intro settled
  obtain ⟨answered, -⟩ := settled (rejected service clock bits state error) platform rfl
    vouched_rejected (runs_rejected resolved known) (serves_rejected decided)
  cases congrArg List.head? answered

end Rejected

/-! ### Runs -/

section Sample

open Bench

/-- The GPU is started, which takes a while, and the CPU is stopped in the meantime. -/
theorem carriesOut_sample :
    sampleSession.platform.CarriesOut (Sharing.ofTopology sampleTopology) ⟨11⟩
      ⟨⟨1⟩, 0, ⟨⟨1⟩, false⟩⟩ 1 .running
      (sampleSession.move (.receive ⟨11⟩ 7 (Request.configSet 0 1).payload))
      (startingSession.moves startingSteps) runningSession.platform := by
  have hmeanwhile : (ClockManager.events (startingSession.moves startingSteps)).all fun event =>
      event.claimed? ≠ some ⟨1⟩ ∧ event.ending?.all fun ended =>
        ended.1 = ⟨1⟩ → ended.2 = .ok .applied := by decide
  refine
    { asks := ⟨rfl, rfl, rfl, rfl, ⟨by decide, by decide⟩⟩
      run := sampleSession.runs_moves (send 11 (.configSet 0 1) :: startingSteps)
      serves := Session.serves_moves rfl (send 11 (.configSet 0 1) :: startingSteps)
      unclaimed := fun event hevent => ?_
      succeeds := fun event hevent result hending => ?_
      idle_after := rfl }
  · have hmade := List.all_eq_true.1 hmeanwhile event hevent
    exact (of_decide_eq_true hmade).1
  · have hmade := List.all_eq_true.1 hmeanwhile event hevent
    simpa [hending] using (of_decide_eq_true hmade).2

end Sample

end Platform
end ClockManager
