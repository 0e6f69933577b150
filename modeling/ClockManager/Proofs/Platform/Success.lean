import ClockManager.Proofs.Commit
import ClockManager.Proofs.Platform.Bookkeeping
import ClockManager.Proofs.Platform.Calls
import ClockManager.Proofs.Platform.Errands
/-!
# Commits follow successes

Whatever the policy is, it is told of a state exactly when the hardware reports the state applied:
one commit for each success, in the same order. The commit names the agent, the clock and the device
for which the policy let the request through, and the state that it left then, which is the one that
the hardware was asked for. What the policy says of a commit is logged, and changes nothing else.

Admission, call, completion and commit are tied together by the slot alone, which outlives each of
them. `Standing` is what the events say of a slot at any point between.
-/

namespace ClockManager

/-! ### From the message to the success -/

/-- What the policy was asked about an accepted request for a state: once, if it may proceed. -/
theorem Errand.Fills.admitted {topology : Topology} {errand : Errand} {device : DeviceId}
    {slot : Slot} {state : ClockState} (h : errand.Fills topology device slot)
    (target : slot.target? = some state) :
    ∃ (asked : ClockState) (review : StateReview),
      reviews errand.heard = [⟨.reviewState .pre (slot.owner.context device) asked, review⟩] ∧
        review.verdict = .ok .proceed ∧ review.state = state := by
  obtain ⟨clock, work, assessed, rfl, rfl⟩ := h
  obtain ⟨request, permission, owner, passed, -, hpermitted, -, hpasses, hheard⟩ :=
    Topology.takes_assess_accept assessed
  have hpermission := reviews_of_permission
    (hpermitted.forall_of_asks (request.asks_permitted errand.service))
  have hreviews : reviews errand.heard = passed := by
    have hcons : reviews (⟨.agentOf errand.service, owner⟩ :: passed) = reviews passed := rfl
    rw [hheard, reviews_append, hpermission, hcons, hpasses.reviews_eq, List.nil_append]
  rw [hreviews]
  obtain rfl := Work.target?_eq_some_iff.1 target
  cases hpasses with
  | configSet known proceeds => exact ⟨_, _, rfl, proceeds, rfl⟩

/-- With this event the hardware reports that it has done what the message asks for, and has brought
the device to the state. -/
structure Errand.Succeeds (errand : Errand) (past : List Event) (ending : Event)
    (context : PolicyContext) (state : ClockState) : Prop where
  /-- The message is the last one to have claimed the slot of the device. -/
  holds : errand.Holds context.device past
  /-- The policy was asked about it once, and left this state when it let it through. -/
  admitted : ∃ (asked : ClockState) (review : StateReview),
    reviews errand.heard = [⟨.reviewState .pre context asked, review⟩] ∧
      review.verdict = .ok .proceed ∧ review.state = state
  /-- Since the slot was claimed, there is one call on the device, which sets this state. -/
  brings : Brings context.device state (sinceClaim context.device (past ++ [ending]))
  reports : ending.success? past = some (context.device, state)

namespace Platform

variable {topology : Topology} {before after platform : Platform} {past more : List Event}
  {moves : List Move} {device : DeviceId} {slot : Slot} {history : History}

theorem not_concerns_of_takes_assess {service : ServiceId} {raw : UInt32} {payload : Bytes}
    {consulted : History} {admission : Admission}
    (assessed : (topology.assess service raw payload).Takes consulted admission)
    (device : DeviceId) :
    ∀ event ∈ Event.message service raw payload :: exchanges consulted,
      ¬ event.Concerns device := by
  intro event hmem
  refine not_concerns_of_none (claimed?_of_takes_assess assessed event hmem) ?_ device
  rcases List.mem_cons.1 hmem with rfl | hmem
  · rfl
  · obtain ⟨made, hmade, rfl⟩ := List.mem_map.1 hmem
    exact device?_of_touch?_eq_none (touch?_eq_none_of_consultation
      (Topology.consultation_of_takes_assess assessed) made hmade)

theorem not_concerns_of_takes_assess_append {service : ServiceId} {raw : UInt32} {payload : Bytes}
    {consulted : History} {admission : Admission} {last : Exchange}
    (assessed : (topology.assess service raw payload).Takes consulted admission)
    (unconcerned : ¬ (Event.exchange last).Concerns device) :
    ∀ event ∈ Event.message service raw payload :: exchanges (consulted ++ [last]),
      ¬ event.Concerns device := by
  rw [exchanges_append, ← List.cons_append]
  exact List.forall_mem_append.2
    ⟨not_concerns_of_takes_assess assessed device, List.forall_mem_singleton.2 unconcerned⟩

section Finish

variable {tracker left : Tracker} {result : Except HardwareError Value}
  {sent : Except TransportError Unit}
  (finished : (topology.finish tracker device slot result).Takes history (sent, left))
include finished

theorem device?_of_takes_finish : ∀ event ∈ exchanges history, event.device? = none := by
  intro event hmem
  obtain ⟨made, hmade, rfl⟩ := List.mem_map.1 hmem
  exact device?_of_touch?_eq_none (touch?_eq_none_of_takes_finish finished made hmade)

theorem not_concerns_of_takes_finish (other : DeviceId) :
    ∀ event ∈ exchanges history, ¬ event.Concerns other := by
  intro event hmem
  exact not_concerns_of_none (claimed?_of_takes_finish finished event hmem)
    (device?_of_takes_finish finished event hmem) other

end Finish

/-! ### How far a request has got -/

/-- How far the request of a slot has got: its work is queued, and nothing has been done to the
device for it; or the hardware has left the one call for it pending, and still has its work. -/
inductive Standing (platform : Platform) (device : DeviceId) (slot : Slot) (past : List Event) :
    Prop where
  | queued {item : WorkItem} (mem : item ∈ platform.queue) (about : item.device = device)
      (untouched : sinceClaim device past = [])
  | pending {call : Exchange} {work : Work} (awaited : platform.awaited? device = some slot)
      (isFor : slot.IsFor work) (left : call.touch? = some ⟨device, work, none⟩)
      (called : sinceClaim device past = [.exchange call])
      (kept : (DeviceReport.after device past).pending? = some work)

/-- The events tell of every busy slot how far its request has got. -/
def Pursued (platform : Platform) (past : List Event) : Prop :=
  ∀ device slot, platform.tracker.slot? device = some slot → platform.Standing device slot past

theorem pursued_start (topology : Topology) (past : List Event) :
    (start topology).Pursued past := by
  intro device slot busy
  simp [start, Tracker.slot?_empty] at busy

theorem Standing.append (h : before.Standing device slot past)
    (unconcerned : ∀ event ∈ more, ¬ event.Concerns device)
    (queued : ∀ item ∈ before.queue, item.device = device → item ∈ after.queue)
    (awaited : before.awaited? device = some slot → after.awaited? device = some slot) :
    after.Standing device slot (past ++ more) := by
  cases h with
  | queued mem about untouched =>
    refine .queued (queued _ mem about) about ?_
    rwa [sinceClaim_append_of_unconcerned unconcerned]
  | pending hawaited isFor left called kept =>
    refine .pending (awaited hawaited) isFor left ?_ ?_
    · rwa [sinceClaim_append_of_unconcerned unconcerned]
    · rwa [DeviceReport.after_append_of_unconcerned unconcerned]

/-- Nothing has been done yet for work that is still queued. -/
theorem Standing.untouched_of_queued {item : WorkItem} {queue : List WorkItem}
    (h : before.Standing item.device slot past) (queued : before.queue = item :: queue) :
    sinceClaim item.device past = [] := by
  cases h with
  | queued _ _ untouched => exact untouched
  | pending awaited =>
    have hunqueued := (awaited?_eq_some_iff.1 awaited).2 item (queued ▸ List.mem_cons_self)
    exact absurd rfl hunqueued

theorem Standing.called_of_awaited (h : before.Standing device slot past)
    (awaited : before.awaited? device = some slot) :
    ∃ call work, slot.IsFor work ∧ call.touch? = some ⟨device, work, none⟩ ∧
      sinceClaim device past = [.exchange call] ∧
        (DeviceReport.after device past).pending? = some work := by
  cases h with
  | queued mem about => exact absurd about ((awaited?_eq_some_iff.1 awaited).2 _ mem)
  | pending _ isFor left called kept => exact ⟨_, _, isFor, left, called, kept⟩

/-- An item that is not at the front of the queue stays in it. -/
theorem mem_of_queue_eq_cons {item other : WorkItem} {queue : List WorkItem}
    (queued : before.queue = item :: queue) (hne : item.device ≠ device) :
    other ∈ before.queue → other.device = device → other ∈ queue := by
  intro mem about
  rw [queued] at mem
  rcases List.mem_cons.1 mem with rfl | mem
  · exact absurd about hne
  · exact mem

theorem Pursued.answered {service : ServiceId} {raw : UInt32} {payload : Bytes}
    {consulted : History} {admission : Admission} {reply : Reply}
    {sent : Except TransportError Unit} (h : before.Pursued past)
    (assessed : (topology.assess service raw payload).Takes consulted admission) :
    before.Pursued (past ++ .message service raw payload ::
      exchanges (consulted ++ [⟨.respond service reply, sent⟩])) := by
  intro device slot busy
  have unconcerned : ¬ (Event.exchange ⟨.respond service reply, sent⟩).Concerns device :=
    not_concerns_of_none rfl rfl device
  exact (h device slot busy).append (not_concerns_of_takes_assess_append assessed unconcerned)
    (fun _ mem _ => mem) id

/-- A claim starts the record of its device anew, and puts the work into the queue. -/
theorem Pursued.claim {service : ServiceId} {raw : UInt32} {payload : Bytes}
    {consulted : History} {clock : ResolvedClock} {work : Work} {tracker : Tracker}
    (h : before.Pursued past)
    (assessed : (topology.assess service raw payload).Takes consulted (.accept clock work))
    (acquired : before.tracker.acquire clock.record.device (clock.claim service work) =
      .ok tracker) :
    Pursued { before with tracker, queue := before.queue ++ [⟨clock.record.device, work⟩] }
      (past ++ .message service raw payload :: exchanges
        (consulted ++ [⟨.log (.claimed clock.record.device work.kind service), ()⟩])) := by
  intro device slot busy
  dsimp only at busy
  rw [Tracker.slot?_of_acquire acquired] at busy
  split at busy
  · rename_i hdevice
    subst hdevice
    rw [exchanges_append, ← List.cons_append, ← List.append_assoc]
    exact .queued (List.mem_append_right _ (List.mem_singleton_self _)) rfl
      (sinceClaim_concat_of_claimed? rfl)
  · rename_i hne
    have unclaimed : ¬ (Event.exchange
        ⟨.log (.claimed clock.record.device work.kind service), ()⟩).Concerns device := by
      rintro (hclaimed | habout)
      · exact hne (Option.some.inj hclaimed).symm
      · cases habout
    exact (h device slot busy).append (not_concerns_of_takes_assess_append assessed unclaimed)
      (fun _ mem _ => List.mem_append_left _ mem)
      fun awaited => (awaited?_claim acquired).trans awaited

/-- The hardware leaves the first call for a request pending. -/
theorem Pursued.defer {item : WorkItem} {queue : List WorkItem} {call : Exchange}
    {kind : RequestKind} (h : before.Pursued past) (consistent : before.Consistent)
    (queued : before.queue = item :: queue)
    (touched : call.touch? = some ⟨item.device, item.work, none⟩) :
    Pursued { before with queue }
      (past ++ exchanges [call, ⟨.log (.pending item.device kind), ()⟩]) := by
  have hlogged (device : DeviceId) :
      ∀ event ∈ exchanges [⟨.log (.pending item.device kind), ()⟩], ¬ event.Concerns device :=
    List.forall_mem_singleton.2 (not_concerns_of_none rfl rfl device)
  intro device slot busy
  rw [exchanges_cons]
  by_cases heq : item.device = device
  · subst heq
    have huntouched := (h _ _ busy).untouched_of_queued queued
    rw [List.append_cons]
    refine .pending (awaited?_eq_some_iff.2 ⟨busy, consistent.device_ne_of_queue_eq_cons queued⟩)
      (consistent.slot_isFor queued busy) touched ?_ ?_
    · rw [sinceClaim_append_of_unconcerned (hlogged item.device),
        sinceClaim_concat_of_touch? touched, huntouched, List.nil_append]
    · rw [DeviceReport.after_append_of_unconcerned (hlogged item.device), DeviceReport.after,
        List.foldl_concat, DeviceReport.next_of_touch? touched, if_pos rfl]
      rfl
  · exact (h device slot busy).append
      (List.forall_mem_cons.2 ⟨not_concerns_of_touch? touched heq, hlogged device⟩)
      (fun _ => mem_of_queue_eq_cons queued heq)
      fun awaited => (awaited?_of_queue_eq_cons queued heq).trans awaited

/-- The end of a request is no concern of other devices. -/
theorem Pursued.release {ended : DeviceId} {queue : List WorkItem} (h : before.Pursued past)
    (unconcerned : ∀ device, device ≠ ended → ∀ event ∈ more, ¬ event.Concerns device)
    (queued : ∀ device, device ≠ ended →
      ∀ item ∈ before.queue, item.device = device → item ∈ queue)
    (awaited : ∀ device, device ≠ ended → awaited?
      { before with queue, tracker := (before.tracker.release ended).2 } device =
        before.awaited? device) :
    Pursued { before with queue, tracker := (before.tracker.release ended).2 } (past ++ more) := by
  intro device slot busy
  dsimp only at busy
  rw [Tracker.slot?_release] at busy
  split at busy
  · simp at busy
  · rename_i hne
    exact (h device slot busy).append (unconcerned device hne) (queued device hne)
      (awaited device hne).trans

theorem Step.pursued (step : before.Step more after) (consistent : before.Consistent)
    (h : before.Pursued past) : after.Pursued (past ++ more) := by
  cases step with
  | answered assessed => exact h.answered assessed
  | contended assessed => exact h.answered assessed
  | claimed assessed acquired => exact h.claim assessed acquired
  | deferred queued _ touched => exact h.defer consistent queued touched
  | settled queued _ touched finished =>
    rw [(Topology.takes_finish finished).1]
    refine h.release (fun device hne => ?_) (fun device hne item => ?_) fun device hne => ?_
    · exact List.forall_mem_cons.2 ⟨not_concerns_of_touch? touched hne.symm,
        not_concerns_of_takes_finish finished device⟩
    · exact mem_of_queue_eq_cons queued hne.symm
    · rw [awaited?_of_settled queued, if_neg hne]
  | @completed completion _ _ _ _ _ finished =>
    rw [(Topology.takes_finish finished).1]
    refine h.release (fun device hne => ?_) (fun _ _ _ mem _ => mem) fun device hne => ?_
    · refine List.forall_mem_cons.2 ⟨?_, not_concerns_of_takes_finish finished device⟩
      rintro (hclaimed | habout)
      · cases hclaimed
      · exact hne (Option.some.inj habout).symm
    · rw [awaited?_release, if_neg hne]
  | unsolicited =>
    intro device slot busy
    exact (h device slot busy).append
      (List.forall_mem_singleton.2 (not_concerns_of_none rfl rfl device)) (fun _ mem _ => mem) id

theorem Reaches.pursued (reached : before.Reaches more after) (consistent : before.Consistent)
    (h : before.Pursued past) : after.Pursued (past ++ more) := by
  induction reached with
  | refl => rwa [List.append_nil]
  | tail reached step ih =>
    rw [← List.append_assoc]
    exact step.pursued (reached.consistent consistent) ih

/-! ### Commits and successes of a step -/

/-- What a step does about commits and successes: there is neither, or the hardware reports that it
has done what a message asks for, and this is committed, answered and over. -/
inductive Acknowledges (past : List Event) (after : Platform) : List Event → Prop where
  | silent {more : List Event} (uncommitted : commits more = [])
      (unsuccessful : successes past more = []) : Acknowledges past after more
  | closes {errand : Errand} {ending : Event} {context : PolicyContext} {state : ClockState}
      {review : StateReview} {sent : Except TransportError Unit}
      (succeeds : errand.Succeeds past ending context state)
      (freed : after.tracker.slot? context.device = none) :
      Acknowledges past after (ending :: exchanges
        (⟨.reviewState .post context state, review⟩ ::
          closing errand.service context.device review sent))

theorem acknowledges_of_takes_assess {service : ServiceId} {raw : UInt32} {payload : Bytes}
    {consulted : History} {admission : Admission} {last : Exchange}
    (assessed : (topology.assess service raw payload).Takes consulted admission)
    (untouched : last.touch? = none) (uncommitted : (Event.exchange last).commit? = none) :
    Acknowledges past after
      (.message service raw payload :: exchanges (consulted ++ [last])) := by
  have hconsulted := Topology.consultation_of_takes_assess assessed
  have huntouched := touch?_eq_none_of_consultation_append hconsulted untouched
  have huncommitted : ∀ made ∈ consulted ++ [last], (Event.exchange made).commit? = none :=
    List.forall_mem_append.2
      ⟨fun made hmade => Event.commit?_of_isConsultation (hconsulted made hmade),
        List.forall_mem_singleton.2 uncommitted⟩
  refine .silent (commits_eq_nil_iff.2 ?_) (successes_of_device?_eq_none ?_)
  · exact List.forall_mem_cons.2 ⟨rfl, List.forall_mem_map.2 huncommitted⟩
  · exact List.forall_mem_cons.2 ⟨rfl, List.forall_mem_map.2 fun made hmade =>
      device?_of_touch?_eq_none (huntouched made hmade)⟩

/-- A request ends in a success, or it ends in something else. -/
theorem Charged.acknowledges {result : Except HardwareError Value}
    {sent : Except TransportError Unit} {ending : Event} {work : Work}
    (h : before.Charged past) (busy : before.tracker.slot? device = some slot)
    (isFor : slot.IsFor work) (about : ending.device? = some device)
    (success : ending.success? past = (work.applied? result).map (device, ·))
    (brings : ∀ state, work = .setState state → result = .ok .applied →
      Brings device state (sinceClaim device (past ++ [ending])))
    (finished : (before.topology.finish before.tracker device slot result).Takes history
      (sent, after.tracker)) :
    Acknowledges past after (ending :: exchanges history) := by
  rw [← isFor.applied?_eq] at success
  cases happlied : slot.applied? result with
  | none =>
    rw [happlied, Option.map_none] at success
    refine .silent ?_ ?_
    · rw [commits_cons_of_none (Event.commit?_of_device? about),
        Topology.commits_of_takes_finish happlied finished]
    · rw [successes, success, successes_of_device?_eq_none (device?_of_takes_finish finished)]
      rfl
  | some state =>
    obtain ⟨review, rfl⟩ := Topology.takes_finish_of_applied? busy happlied finished
    obtain ⟨errand, holds, fills⟩ := h device slot busy
    rw [← fills.service_eq]
    rw [happlied, Option.map_some] at success
    have htarget := Slot.target?_of_applied? happlied
    rw [isFor.applied?_eq, Work.applied?_eq_some_iff] at happlied
    refine .closes ⟨holds, fills.admitted htarget, brings state happlied.1 happlied.2, success⟩ ?_
    rw [(Topology.takes_finish finished).1]
    exact Tracker.slot?_release.trans (if_pos rfl)

theorem Step.acknowledges (step : before.Step more after) (consistent : before.Consistent)
    (charged : before.Charged past) (pursued : before.Pursued past) :
    Acknowledges past after more := by
  cases step with
  | answered assessed => exact acknowledges_of_takes_assess assessed rfl rfl
  | contended assessed => exact acknowledges_of_takes_assess assessed rfl rfl
  | claimed assessed => exact acknowledges_of_takes_assess assessed rfl rfl
  | @deferred item _ _ call queued busy touched =>
    have habout : (Event.exchange call).device? = some item.device := by
      rw [Event.device?, touched]
      rfl
    refine .silent ?_ ?_
    · rw [exchanges_cons, commits_cons_of_none (Event.commit?_of_device? habout)]
      rfl
    · rw [exchanges_cons, successes, Event.success?, touched]
      rfl
  | @settled item queue slot call result _ _ _ queued busy touched finished =>
    have huntouched := (pursued _ _ busy).untouched_of_queued queued
    refine charged.acknowledges busy
      (consistent.slot_isFor queued busy) ?_ ?_ (fun state hwork hresult => ?_) finished
    · rw [Event.device?, touched]
      rfl
    · rw [Event.success?, touched]
      rfl
    · rw [sinceClaim_concat_of_touch? touched, huntouched, List.nil_append]
      rw [hwork, hresult] at touched
      obtain ⟨answer, rfl, hsettled⟩ := Exchange.eq_of_touch?_setState touched
      obtain ⟨⟨⟩, rfl, -⟩ := settle_eq_some_ok_iff.1 hsettled
      exact .atOnce
  | @completed completion slot _ _ _ awaited finished =>
    have busy := (awaited?_eq_some_iff.1 awaited).1
    obtain ⟨call, work, isFor, left, hcalled, hkept⟩ := (pursued _ _ busy).called_of_awaited awaited
    refine charged.acknowledges busy isFor rfl ?_
      (fun state hwork hresult => ?_) finished
    · rw [Event.success?, hkept]
      rfl
    · rw [sinceClaim_concat_of_device? rfl rfl, hcalled]
      rw [hwork] at left
      obtain ⟨answer, rfl, hsettled⟩ := Exchange.eq_of_touch?_setState left
      obtain rfl := settle_eq_none_iff.1 hsettled
      obtain ⟨device, result⟩ := completion
      obtain rfl := hresult
      exact .later
  | unsolicited => exact .silent rfl rfl

theorem commit?_of_mem_closing {service : ServiceId} {review : StateReview}
    {sent : Except TransportError Unit} :
    ∀ event ∈ exchanges (closing service device review sent), event.commit? = none := by
  unfold closing
  cases review.verdict <;> simp [Event.commit?]

theorem device?_of_mem_closing {service : ServiceId} {review : StateReview}
    {sent : Except TransportError Unit} :
    ∀ event ∈ exchanges (closing service device review sent), event.device? = none := by
  unfold closing
  cases review.verdict <;> simp [Event.device?, Exchange.touch?]

theorem Acknowledges.commits_eq (h : Acknowledges past after more) :
    ClockManager.commits more = successes past more := by
  cases h with
  | silent uncommitted unsuccessful => rw [uncommitted, unsuccessful]
  | @closes errand ending context state review sent succeeds freed =>
    have hcommit : (Event.exchange ⟨.reviewState .post context state, review⟩).commit? =
        some (context.device, state) := rfl
    have hclosing : ClockManager.commits (exchanges
        (closing errand.service context.device review sent)) = [] :=
      commits_eq_nil_iff.2 commit?_of_mem_closing
    have hquiet : ∀ event ∈ exchanges (⟨.reviewState .post context state, review⟩ ::
        closing errand.service context.device review sent), event.device? = none :=
      List.forall_mem_cons.2 ⟨rfl, device?_of_mem_closing⟩
    rw [successes, successes_of_device?_eq_none hquiet, succeeds.reports, exchanges_cons,
      commits_cons_of_none (Event.commit?_of_success? succeeds.reports),
      commits_cons_of_some hcommit, hclosing]
    rfl

/-- Where there is a commit in a step, the step reports a success just before it, and closes the
request after it. -/
theorem Acknowledges.of_commit {front back : List Event} {context : PolicyContext}
    {state : ClockState} {review : StateReview} (h : Acknowledges past after more)
    (split : more = front ++ .exchange ⟨.reviewState .post context state, review⟩ :: back) :
    ∃ (errand : Errand) (ending : Event) (sent : Except TransportError Unit), front = [ending] ∧
      errand.Succeeds past ending context state ∧
        back = exchanges (closing errand.service context.device review sent) ∧
          after.tracker.slot? context.device = none := by
  have hcommit : (Event.exchange ⟨.reviewState .post context state, review⟩).commit? =
      some (context.device, state) := rfl
  cases h with
  | silent uncommitted =>
    have hnone := commits_eq_nil_iff.1 uncommitted _
      (split ▸ List.mem_append_right front List.mem_cons_self)
    cases hcommit.symm.trans hnone
  | @closes errand ending ended _ said sent succeeds freed =>
    cases front with
    | nil =>
      obtain ⟨rfl, -⟩ := List.cons.inj split
      cases hcommit.symm.trans (Event.commit?_of_success? succeeds.reports)
    | cons first front =>
      obtain ⟨rfl, hrest⟩ := List.cons.inj split
      cases front with
      | nil =>
        obtain ⟨heq, rfl⟩ := List.cons.inj hrest
        cases heq
        exact ⟨errand, ending, sent, rfl, succeeds, rfl, freed⟩
      | cons second front =>
        obtain ⟨-, hclosing⟩ := List.cons.inj hrest
        have hmem : Event.exchange ⟨.reviewState .post context state, review⟩ ∈
            exchanges (closing errand.service ended.device said sent) := by
          rw [exchanges, hclosing]
          exact List.mem_append_right front List.mem_cons_self
        cases hcommit.symm.trans (commit?_of_mem_closing _ hmem)

/-- A slot that is free stays free until it is claimed. -/
theorem Step.slot?_eq_none (step : before.Step more after)
    (free : before.tracker.slot? device = none)
    (unclaimed : ∀ event ∈ more, event.claimed? ≠ some device) :
    after.tracker.slot? device = none := by
  rcases step.slot?_of_unclaimed unclaimed with heq | hnone
  · exact heq.trans free
  · exact hnone

/-! ### Runs -/

theorem Reaches.commits_eq (reached : before.Reaches more after) (consistent : before.Consistent)
    (charged : before.Charged past) (pursued : before.Pursued past) :
    ClockManager.commits more = successes past more := by
  induction reached with
  | refl => rfl
  | tail reached step ih =>
    have hstep := step.acknowledges (reached.consistent consistent) (reached.charged charged)
      (reached.pursued consistent pursued)
    rw [commits_append, successes_append, ih, hstep.commits_eq]

/-- A commit follows a success, and is followed by the end of the request. Then the slot is free
until it is claimed again. -/
theorem Reaches.of_commit {front back : List Event} {context : PolicyContext} {state : ClockState}
    {review : StateReview} (reached : before.Reaches more after) (consistent : before.Consistent)
    (charged : before.Charged past) (pursued : before.Pursued past)
    (split : more = front ++ .exchange ⟨.reviewState .post context state, review⟩ :: back) :
    (∃ (errand : Errand) (earlier : List Event) (ending : Event)
        (sent : Except TransportError Unit) (rest : List Event), front = earlier ++ [ending] ∧
      errand.Succeeds (past ++ earlier) ending context state ∧
        back = exchanges (closing errand.service context.device review sent) ++ rest) ∧
      ((∀ event ∈ back, event.claimed? ≠ some context.device) →
        after.tracker.slot? context.device = none) := by
  induction reached generalizing back with
  | refl => simp at split
  | @tail events more _ _ reached step ih =>
    have hstep := step.acknowledges (reached.consistent consistent) (reached.charged charged)
      (reached.pursued consistent pursued)
    rcases List.append_eq_append_iff.1 split with ⟨between, rfl, hmore⟩ | ⟨between, rfl, hback⟩
    · obtain ⟨errand, ending, sent, rfl, succeeds, rfl, freed⟩ := hstep.of_commit hmore
      exact ⟨⟨errand, events, ending, sent, [], rfl, succeeds, (List.append_nil _).symm⟩,
        fun _ => freed⟩
    · cases between with
      | nil =>
        have hfirst : more = [] ++ .exchange ⟨.reviewState .post context state, review⟩ :: back :=
          hback.symm
        obtain ⟨_, _, _, hnil, -⟩ := hstep.of_commit hfirst
        cases hnil
      | cons first between =>
        obtain ⟨rfl, rfl⟩ := List.cons.inj hback
        obtain ⟨⟨errand, earlier, ending, sent, rest, rfl, succeeds, rfl⟩, hfree⟩ := ih rfl
        refine ⟨⟨errand, earlier, ending, sent, rest ++ more, rfl, succeeds,
          List.append_assoc ..⟩, fun unclaimed => ?_⟩
        obtain ⟨hbetween, hmore⟩ := List.forall_mem_append.1 unclaimed
        exact step.slot?_eq_none (hfree hbetween) hmore

/-- Whatever the policy is, its commits are the successes that the hardware reports, in the same
order. Each commit directly follows a success of a message that holds the device; it names the
agent, the clock and the device for which the policy has let the message through, and the state that
the policy left and the hardware was asked for. After it the slot is freed and the message is
answered with success, whatever the policy says of the commit, and the slot stays free until it is
claimed again. -/
theorem Runs.commits_follow_successes (run : (start topology).Runs moves platform) :
    ClockManager.commits (ClockManager.events moves) = successes [] (ClockManager.events moves) ∧
      ∀ past context state (review : StateReview) later,
        ClockManager.events moves =
            past ++ .exchange ⟨.reviewState .post context state, review⟩ :: later →
          (∃ (errand : Errand) (earlier : List Event) (ending : Event)
              (sent : Except TransportError Unit) (rest : List Event), past = earlier ++ [ending] ∧
            errand.Succeeds earlier ending context state ∧
              later = exchanges (closing errand.service context.device review sent) ++ rest) ∧
            ((∀ event ∈ later, event.claimed? ≠ some context.device) →
              platform.tracker.slot? context.device = none) := by
  have hstart := consistent_start topology
  have reached := run.reaches hstart
  have hcharged := charged_start topology []
  have hpursued := pursued_start topology []
  refine ⟨reached.commits_eq hstart hcharged hpursued, ?_⟩
  intro past context state review later split
  exact reached.of_commit hstart hcharged hpursued split

open Bench in
/-- A policy has turned a stop of the GPU into a start, and rejects the commit when the start has
been completed. The message is answered with success, and the GPU is free. -/
theorem commits_follow_successes_sample :
    let events := ClockManager.events (contrarySession.moves contrarySteps)
    ClockManager.commits events = [(⟨1⟩, .running)] ∧
      (∃ errand : Errand, errand.Succeeds (events.take 8) (.completion ⟨⟨1⟩, .ok .applied⟩)
          ⟨⟨1⟩, 0, ⟨1⟩⟩ .running ∧
        ∃ sent rest, events.drop 10 =
          exchanges (closing errand.service ⟨1⟩ ⟨.error .rejected, .running⟩ sent) ++ rest) ∧
      (contrarySession.after contrarySteps).platform.tracker.slot? ⟨1⟩ = none := by
  intro events
  obtain ⟨hcommits, hpost⟩ := (contrarySession.runs_moves contrarySteps).commits_follow_successes
  have hsplit : events = events.take 9 ++ .exchange
      ⟨.reviewState .post ⟨⟨1⟩, 0, ⟨1⟩⟩ .running, ⟨.error .rejected, .running⟩⟩ ::
        events.drop 10 := rfl
  have hlast : events.take 9 = events.take 8 ++ [.completion ⟨⟨1⟩, .ok .applied⟩] := rfl
  obtain ⟨⟨errand, earlier, ending, sent, rest, hpast, succeeds, hlater⟩, hfree⟩ :=
    hpost _ _ _ _ _ hsplit
  obtain ⟨rfl, hending⟩ := List.append_inj' (hlast.symm.trans hpast) rfl
  obtain rfl := (List.cons.inj hending).1
  exact ⟨hcommits, ⟨errand, succeeds, sent, rest, hlater⟩, hfree (by dsimp only [events]; decide)⟩

end Platform
end ClockManager
