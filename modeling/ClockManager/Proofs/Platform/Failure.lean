import ClockManager.Proofs.Platform.Replies
import ClockManager.Proofs.Platform.Separation
/-!
# Failed requests leave no trace

A request that fails gives back all that it took: its slot, its place in the queue, and no entry of
the sharing policy has changed for its device. So the same message is accepted again.

It may take a while until the request fails, and other requests come and go in the meantime. They
cannot touch what is kept of the device, because steps that end the request of another device commit
nothing for this one, and steps that end no request commit nothing at all.
-/

namespace ClockManager

/-- The request of a slot comes to nothing by this result: the hardware has failed, or the value is
not of the shape that the slot waits for. -/
def Slot.isFailedBy (slot : Slot) : Except HardwareError Value → Bool
  | .error _ => true
  | .ok value => !value.fits slot.kind

theorem Slot.applied?_of_isFailedBy {slot : Slot} {result : Except HardwareError Value}
    (h : slot.isFailedBy result) : slot.applied? result = none := by
  cases result with
  | error error => rfl
  | ok value =>
    cases value with
    | state s => rfl
    | rate r => rfl
    | applied =>
      have hkind : slot.kind ≠ .setState := by
        intro hkind
        rw [isFailedBy, hkind] at h
        cases h
      rw [applied?, if_neg hkind]

namespace Platform

variable {topology : Topology} {before mid after platform : Platform} {events more : List Event}
  {tables : Sharing} {device : DeviceId} {slot : Slot} {result : Except HardwareError Value}

/-! ### What a step ends -/

/-- No request ends. Slots that are busy stay so, and others only change when they are claimed. -/
structure EndsNone (tables : Sharing) (before : Platform) (events : List Event)
    (after : Platform) : Prop where
  unended : ∀ event ∈ events, event.ending? = none
  tables_eq : tables.after events = tables
  stays : ∀ device slot, before.tracker.slot? device = some slot →
    after.tracker.slot? device = some slot
  unclaimed : ∀ device, (∀ event ∈ events, event.claimed? ≠ some device) →
    after.tracker.slot? device = before.tracker.slot? device

/-- The request of one device ends in `result`. Its slot is freed, no other one changes, and the
tables change by what is committed for it. -/
structure EndsOne (tables : Sharing) (before : Platform) (events : List Event) (after : Platform)
    (device : DeviceId) (slot : Slot) (result : Except HardwareError Value) : Prop where
  busy : before.tracker.slot? device = some slot
  ends : ∃ event ∈ events, event.ending? = some (device, result)
  alone : ∀ event ∈ events, ∀ ended ∈ event.ending?, ended = (device, result)
  frees : ∀ other, after.tracker.slot? other =
    if other = device then none else before.tracker.slot? other
  tables_eq : tables.after events = tables.commit slot.owner device (slot.applied? result)

theorem unended_of_takes_assess {service : ServiceId} {raw : UInt32} {payload : Bytes}
    {consulted : History} {admission : Admission} {last : Exchange}
    (assessed : (topology.assess service raw payload).Takes consulted admission)
    (h : (Event.exchange last).ending? = none) :
    ∀ event ∈ .message service raw payload :: exchanges (consulted ++ [last]),
      event.ending? = none := by
  rw [List.forall_mem_cons]
  refine ⟨rfl, fun event hmem => ?_⟩
  obtain ⟨exchange, hexchange, rfl⟩ := List.mem_map.1 hmem
  rcases List.mem_append.1 hexchange with hconsulted | hlast
  · exact Event.ending?_of_isConsultation
      (Topology.consultation_of_takes_assess assessed exchange hconsulted)
  · rwa [List.mem_singleton.1 hlast]

theorem unended_of_takes_finish {tracker left : Tracker} {history : History}
    {sent : Except TransportError Unit}
    (finished : (topology.finish tracker device slot result).Takes history (sent, left)) :
    ∀ event ∈ exchanges history, event.ending? = none := by
  intro event hmem
  obtain ⟨exchange, hexchange, rfl⟩ := List.mem_map.1 hmem
  exact Event.ending?_of_ends (Topology.ends_of_takes_finish finished exchange hexchange)

theorem endsNone_of_takes_assess {service : ServiceId} {raw : UInt32} {payload : Bytes}
    {consulted : History} {admission : Admission} {last : Exchange}
    (assessed : (before.topology.assess service raw payload).Takes consulted admission)
    (unended : (Event.exchange last).ending? = none)
    (next_eq : ∀ tables : Sharing, tables.next (.exchange last) = tables)
    (stays : ∀ device slot, before.tracker.slot? device = some slot →
      after.tracker.slot? device = some slot)
    (unclaimed : ∀ device, (Event.exchange last).claimed? ≠ some device →
      after.tracker.slot? device = before.tracker.slot? device) :
    EndsNone tables before (.message service raw payload :: exchanges (consulted ++ [last]))
      after where
  unended := unended_of_takes_assess assessed unended
  tables_eq := after_of_takes_assess assessed next_eq
  stays := stays
  unclaimed := fun device h => unclaimed device
    (h _ (List.mem_cons_of_mem _ (exchange_mem_exchanges.2 (List.mem_concat_self))))

theorem Step.ends (step : before.Step events after) (backs : tables.Backs before)
    (serves : tables.Serves events) :
    EndsNone tables before events after ∨
      ∃ device slot result, EndsOne tables before events after device slot result := by
  cases step with
  | answered assessed =>
    exact .inl (endsNone_of_takes_assess assessed rfl (fun _ => rfl) (fun _ _ busy => busy)
      fun _ _ => rfl)
  | contended assessed =>
    exact .inl (endsNone_of_takes_assess assessed rfl (fun _ => rfl) (fun _ _ busy => busy)
      fun _ _ => rfl)
  | claimed assessed acquired =>
    refine .inl (endsNone_of_takes_assess assessed rfl (fun _ => rfl) (fun device slot busy => ?_)
      fun device unclaimed => ?_)
    · rw [Tracker.slot?_of_acquire acquired, if_neg]
      · exact busy
      · rintro rfl
        rw [Tracker.slot?_eq_none_of_acquire acquired] at busy
        cases busy
    · rw [Tracker.slot?_of_acquire acquired, if_neg]
      rintro rfl
      exact unclaimed rfl
  | deferred queued _ touched =>
    refine .inl ⟨?_, ?_, fun _ _ busy => busy, fun _ _ => rfl⟩
    · rw [exchanges_cons, List.forall_mem_cons, Event.ending?, touched]
      exact ⟨rfl, by simp [exchanges, Event.ending?, Exchange.touch?]⟩
    · rw [exchanges_cons, Sharing.after_cons, Sharing.next_of_touch? touched]
      rfl
  | @settled item queue slot exchange result history sent tracker queued busy touched finished =>
    have hending : (Event.exchange exchange).ending? = some (item.device, result) := by
      rw [Event.ending?, touched]
      rfl
    refine .inr ⟨item.device, slot, result, busy, ⟨_, List.mem_cons_self, hending⟩, ?_, ?_,
      backs.after_of_settled busy finished touched serves⟩
    · rw [exchanges_cons, List.forall_mem_cons]
      refine ⟨fun ended hended => ?_, fun event hmem ended hended => ?_⟩
      · rw [hending] at hended
        exact (Option.mem_some.1 hended).symm
      · rw [unended_of_takes_finish finished event hmem] at hended
        cases hended
    · intro other
      rw [(Topology.takes_finish finished).1, Tracker.slot?_release]
  | @completed completion slot history sent tracker awaited finished =>
    have busy := (awaited?_eq_some_iff.1 awaited).1
    refine .inr ⟨completion.device, slot, completion.result, busy,
      ⟨_, List.mem_cons_self, rfl⟩, ?_, ?_, backs.after_of_takes_finish busy finished serves.2⟩
    · rw [List.forall_mem_cons]
      refine ⟨fun ended hended => (Option.mem_some.1 hended).symm,
        fun event hmem ended hended => ?_⟩
      rw [unended_of_takes_finish finished event hmem] at hended
      cases hended
    · intro other
      rw [(Topology.takes_finish finished).1, Tracker.slot?_release]
  | unsolicited =>
    refine .inl ⟨?_, rfl, fun _ _ busy => busy, fun _ _ => rfl⟩
    simp [exchanges, Event.ending?, Exchange.touch?]

/-! ### A request in flight, and its end -/

/-- A request that does not end keeps its slot, and the tables keep their entries for its device,
whatever else comes in or ends. -/
theorem Reaches.unended (reached : before.Reaches events after) (backs : tables.Backs before)
    (serves : tables.Serves events) (busy : before.tracker.slot? device = some slot)
    (unended : ∀ event ∈ events, ∀ result, event.ending? ≠ some (device, result)) :
    after.tracker.slot? device = some slot ∧
      Sharing.SameOn device tables (tables.after events) := by
  induction reached with
  | refl => exact ⟨busy, .refl device tables⟩
  | tail reached step ih =>
    obtain ⟨hreached, hstep⟩ := Sharing.serves_append.1 serves
    rw [List.forall_mem_append] at unended
    obtain ⟨hbusy, hsame⟩ := ih hreached unended.1
    rw [Sharing.after_append]
    have hbacks := (reached.commits backs hreached).1
    rcases step.ends hbacks hstep with none | ⟨other, otherSlot, result, one⟩
    · rw [none.tables_eq]
      exact ⟨none.stays device slot hbusy, hsame⟩
    · have hne : device ≠ other := by
        rintro rfl
        obtain ⟨event, hevent, hending⟩ := one.ends
        exact unended.2 event hevent result hending
      rw [one.frees, if_neg hne, one.tables_eq]
      exact ⟨hbusy, hsame.trans (Sharing.sameOn_commit_of_ne hne _ _)⟩

/-- What has become of the request of a slot while its device is not claimed anew. -/
inductive Fate (tables : Sharing) (device : DeviceId) (slot : Slot) (events : List Event)
    (after : Platform) : Prop where
  | inFlight (busy : after.tracker.slot? device = some slot)
      (unended : ∀ event ∈ events, ∀ result, event.ending? ≠ some (device, result))
      (same : Sharing.SameOn device tables (tables.after events))
  | ended (result : Except HardwareError Value) (free : after.tracker.slot? device = none)
      (alone : ∀ event ∈ events, ∀ other, event.ending? = some (device, other) → other = result)
      (same : Sharing.SameOn device (tables.commit slot.owner device (slot.applied? result))
        (tables.after events))

theorem Step.fate (step : before.Step more after) (backs : (tables.after events).Backs before)
    (serves : (tables.after events).Serves more)
    (unclaimed : ∀ event ∈ more, event.claimed? ≠ some device)
    (fate : Fate tables device slot events before) :
    Fate tables device slot (events ++ more) after := by
  rcases step.ends backs serves with none | ⟨other, otherSlot, result, one⟩
  · -- The step ends nothing, so everything stays.
    have hnone : ∀ event ∈ more, ∀ ended, event.ending? ≠ some ended := by
      intro event hevent ended
      rw [none.unended event hevent]
      exact nofun
    cases fate with
    | inFlight busy unended same =>
      refine .inFlight (none.stays device slot busy) ?_ ?_
      · exact List.forall_mem_append.2 ⟨unended, fun event hevent result => hnone event hevent _⟩
      · rwa [Sharing.after_append, none.tables_eq]
    | ended found free alone same =>
      refine .ended found ((none.unclaimed device unclaimed).trans free) ?_ ?_
      · refine List.forall_mem_append.2 ⟨alone, fun event hevent result hending => ?_⟩
        exact absurd hending (hnone event hevent _)
      · rwa [Sharing.after_append, none.tables_eq]
  · cases fate with
    | inFlight busy unended same =>
      by_cases heq : device = other
      · -- This is the end of the request itself.
        subst heq
        cases busy.symm.trans one.busy
        refine .ended result ?_ ?_ ?_
        · rw [one.frees, if_pos rfl]
        · refine List.forall_mem_append.2 ⟨fun event hevent found hending => ?_,
            fun event hevent found hending => ?_⟩
          · exact absurd hending (unended event hevent found)
          · exact (Prod.mk.inj (one.alone event hevent _ hending)).2
        · rw [Sharing.after_append, one.tables_eq]
          exact same.commit slot.owner (slot.applied? result)
      · refine .inFlight ?_ ?_ ?_
        · rw [one.frees, if_neg heq]
          exact busy
        · refine List.forall_mem_append.2 ⟨unended, fun event hevent found hending => ?_⟩
          exact heq (Prod.mk.inj (one.alone event hevent _ hending)).1
        · rw [Sharing.after_append, one.tables_eq]
          exact same.trans (Sharing.sameOn_commit_of_ne heq _ _)
    | ended found free alone same =>
      have hne : device ≠ other := by
        rintro rfl
        cases free.symm.trans one.busy
      refine .ended found ?_ ?_ ?_
      · rw [one.frees, if_neg hne]
        exact free
      · refine List.forall_mem_append.2 ⟨alone, fun event hevent result hending => ?_⟩
        exact absurd (Prod.mk.inj (one.alone event hevent _ hending)).1 hne
      · rw [Sharing.after_append, one.tables_eq]
        exact same.trans (Sharing.sameOn_commit_of_ne hne _ _)

theorem Reaches.fate (reached : before.Reaches events after) (backs : tables.Backs before)
    (serves : tables.Serves events)
    (unclaimed : ∀ event ∈ events, event.claimed? ≠ some device)
    (busy : before.tracker.slot? device = some slot) : Fate tables device slot events after := by
  induction reached with
  | refl => exact .inFlight busy (fun _ hevent => nomatch hevent) (.refl device tables)
  | tail reached step ih =>
    obtain ⟨hreached, hstep⟩ := Sharing.serves_append.1 serves
    obtain ⟨hunclaimed, hmore⟩ := List.forall_mem_append.1 unclaimed
    exact step.fate (reached.commits backs hreached).1 hstep hmore (ih hreached hunclaimed)

/-- Without a claim a request ends once at most, so the end that is seen is the only one. -/
theorem Reaches.ended (reached : before.Reaches events after) (backs : tables.Backs before)
    (serves : tables.Serves events)
    (unclaimed : ∀ event ∈ events, event.claimed? ≠ some device)
    (busy : before.tracker.slot? device = some slot)
    (ends : ∃ event ∈ events, event.ending? = some (device, result)) :
    after.tracker.slot? device = none ∧ Sharing.SameOn device
      (tables.commit slot.owner device (slot.applied? result)) (tables.after events) := by
  obtain ⟨event, hevent, hending⟩ := ends
  cases reached.fate backs serves unclaimed busy with
  | inFlight busy unended => exact absurd hending (unended event hevent result)
  | ended found free alone same =>
    obtain rfl := alone event hevent result hending
    exact ⟨free, same⟩

theorem Step.unclaimed (step : before.Step events after)
    (silent : ∀ service raw payload, .message service raw payload ∉ events) :
    ∀ event ∈ events, event.claimed? = none := by
  cases step with
  | answered => exact absurd List.mem_cons_self (silent _ _ _)
  | contended => exact absurd List.mem_cons_self (silent _ _ _)
  | claimed => exact absurd List.mem_cons_self (silent _ _ _)
  | deferred _ _ touched =>
    rw [exchanges_cons, List.forall_mem_cons]
    exact ⟨Event.claimed?_of_touch? touched, by simp [exchanges, Event.claimed?, Notice.claimed?]⟩
  | settled _ _ touched finished =>
    rw [exchanges_cons, List.forall_mem_cons]
    exact ⟨Event.claimed?_of_touch? touched, claimed?_of_takes_finish finished⟩
  | completed _ finished =>
    exact List.forall_mem_cons.2 ⟨rfl, claimed?_of_takes_finish finished⟩
  | unsolicited => simp [exchanges, Event.claimed?, Notice.claimed?]

theorem Reaches.unclaimed (reached : before.Reaches events after)
    (silent : ∀ service raw payload, .message service raw payload ∉ events) :
    ∀ event ∈ events, event.claimed? = none := by
  induction reached with
  | refl => exact nofun
  | tail _ step ih =>
    simp only [List.mem_append, not_or] at silent
    exact List.forall_mem_append.2 ⟨ih fun service raw payload => (silent service raw payload).1,
      step.unclaimed fun service raw payload => (silent service raw payload).2⟩

theorem Reaches.failed (meanwhile : before.Reaches events mid) (concludes : mid.Reaches more after)
    (backs : tables.Backs before) (serves : tables.Serves (events ++ more))
    (busy : before.tracker.slot? device = some slot)
    (unended : ∀ event ∈ events, ∀ result, event.ending? ≠ some (device, result))
    (silent : ∀ service raw payload, .message service raw payload ∉ more)
    (ends : ∃ event ∈ more, event.ending? = some (device, result))
    (failed : slot.isFailedBy result) :
    after.tracker.slot? device = none ∧
      Sharing.SameOn device tables (tables.after (events ++ more)) := by
  obtain ⟨hmeanwhile, hconcludes⟩ := Sharing.serves_append.1 serves
  obtain ⟨hbusy, hkept⟩ := meanwhile.unended backs hmeanwhile busy unended
  have hbacks := (meanwhile.commits backs hmeanwhile).1
  have hunclaimed : ∀ event ∈ more, event.claimed? ≠ some device := fun event hmem => by
    simp [concludes.unclaimed silent event hmem]
  obtain ⟨hfree, hended⟩ := concludes.ended hbacks hconcludes hunclaimed hbusy ends
  rw [Slot.applied?_of_isFailedBy failed] at hended
  rw [Sharing.after_append]
  exact ⟨hfree, hkept.trans hended⟩

/-! ### The same message again -/

variable {service : ServiceId} {raw : UInt32} {payload : Bytes} {history : History}
  {sent : Except TransportError Unit} {accepted : Platform} {move : Move} {kept : Sharing}

theorem Received.exists_claim (received : before.Received service raw payload history sent after)
    (free : before.tracker.slot? device = none) (busy : after.tracker.slot? device = some slot) :
    ∃ consulted clock work,
      history = consulted ++ [⟨.log (.claimed clock.record.device work.kind service), ()⟩] ∧
      sent = .ok () ∧ clock.record.device = device ∧ slot = clock.claim service work ∧
      (before.topology.assess service raw payload).Takes consulted (.accept clock work) ∧
      after.queue = before.queue ++ [⟨clock.record.device, work⟩] := by
  cases received with
  | answered => cases free.symm.trans busy
  | contended => cases free.symm.trans busy
  | @claimed consulted clock work tracker assessed acquired =>
    rw [Tracker.slot?_of_acquire acquired] at busy
    split at busy
    · rename_i heq
      exact ⟨consulted, clock, work, rfl, rfl, heq.symm, (Option.some.inj busy).symm, assessed, rfl⟩
    · cases free.symm.trans busy

/-- Once its device is free again, and the tables have the same entries for it, a message that was
accepted can be taken in by the same words; and these are the only ones, if whoever is asked answers
as before. -/
theorem accepted_again (consistent : after.Consistent) (htopology : after.topology = before.topology)
    (received : before.Received service raw payload history sent accepted)
    (free : before.tracker.slot? device = none) (busy : accepted.tracker.slot? device = some slot)
    (freed : after.tracker.slot? device = none) (same : Sharing.SameOn device tables kept)
    (serves : tables.Serves (exchanges history)) :
    ∃ work again, accepted.queue = before.queue ++ [⟨device, work⟩] ∧
      again.queue = after.queue ++ [⟨device, work⟩] ∧ again.tracker.slot? device = some slot ∧
      (after.receive service raw payload).Takes history (sent, again) ∧
      kept.Serves (exchanges history) ∧
      ∀ strategy : Strategy, strategy.Answers history →
        ∀ retried result other, (after.receive service raw payload).Takes retried (result, other) →
          kept.Serves (exchanges retried) → strategy.Answers retried →
            retried = history ∧ result = sent ∧ other = again := by
  obtain ⟨consulted, clock, work, rfl, rfl, rfl, rfl, assessed, hqueue⟩ :=
    received.exists_claim free busy
  have only : ReviewsOnly clock.record.device
      (consulted ++ [⟨.log (.claimed clock.record.device work.kind service), ()⟩]) :=
    reviewsOnly_append.2 ⟨Topology.reviewsOnly_of_takes_assess_accept assessed,
      by simp [ReviewsOnly, Query.reviewed?]⟩
  rw [← htopology] at assessed
  obtain ⟨tracker, acquired, takes⟩ := takes_receive_of_free consistent assessed freed
  refine ⟨work, _, hqueue, rfl, ?_, takes, same.serves only serves, ?_⟩
  · rw [Tracker.slot?_of_acquire acquired, if_pos rfl]
  · intro strategy answers retried result other takesRetried servesRetried answersRetried
    have concur := same.concur only answers answersRetried serves servesRetried
    obtain ⟨hhistory, hend⟩ := takes.unique takesRetried concur
    obtain ⟨hresult, hother⟩ := Prod.mk.inj hend
    exact ⟨hhistory.symm, hresult.symm, hother.symm⟩

theorem not_receive_of_ending? (consistent : before.Consistent)
    (takes : (before.perform move.operation).Takes move.history (move.result, after))
    (ends : ∃ event ∈ move.events, event.ending? = some (device, result)) :
    ∀ service raw payload, move.operation ≠ .receive service raw payload := by
  obtain ⟨event, hevent, hending⟩ := ends
  obtain ⟨operation, history, moved⟩ := move
  rintro service raw payload rfl
  obtain ⟨sent, received⟩ := takes_perform_receive consistent takes
  obtain ⟨consulted, admission, last, rfl, assessed, hlast⟩ := received.exists_assessed
  have hunended : (Event.exchange last).ending? = none := by
    rcases hlast with ⟨reply, sent, rfl⟩ | ⟨notice, rfl⟩ <;> rfl
  rw [unended_of_takes_assess assessed hunended event hevent] at hending
  cases hending

/-! ### In a run -/

variable {past between : List Move} {message ending : Move} {waiting : Platform}

/-- Let a message be accepted for an idle device, let anything happen but the end of its request,
and let the request end then in a failure of the hardware or in a value of the wrong shape, at once
or by a completion. After that the slot of the device is free, nothing is queued for it, and the
sharing policy has the same entries for it as before the message. So the message can come in again
just as before, and is accepted again; and if the transport and the permissions answer as they did,
it cannot come to anything else. -/
theorem Runs.failed_request_leaves_no_trace (run : (start topology).Runs past platform)
    (free : platform.tracker.slot? device = none)
    (receives : message.operation = .receive service raw payload)
    (accepts : platform.Runs [message] accepted)
    (busy : accepted.tracker.slot? device = some slot) (meanwhile : accepted.Runs between waiting)
    (unended : ∀ event ∈ ClockManager.events between, ∀ result,
      event.ending? ≠ some (device, result))
    (concludes : waiting.Runs [ending] after)
    (fails : ∃ event ∈ ending.events, ∃ result,
      event.ending? = some (device, result) ∧ slot.isFailedBy result)
    (serves : (Sharing.ofTopology topology).Serves
      (ClockManager.events (past ++ [message] ++ between ++ [ending]))) :
    (after.tracker.slot? device = none ∧ (∀ item ∈ after.queue, item.device ≠ device) ∧
        Sharing.SameOn device
          ((Sharing.ofTopology topology).after (ClockManager.events past))
          ((Sharing.ofTopology topology).after
            (ClockManager.events (past ++ [message] ++ between ++ [ending])))) ∧
      ∃ work again, accepted.queue = platform.queue ++ [⟨device, work⟩] ∧
        again.queue = after.queue ++ [⟨device, work⟩] ∧
        again.tracker.slot? device = some slot ∧ after.Runs [message] again ∧
        (Sharing.ofTopology topology).Serves
          (ClockManager.events (past ++ [message] ++ between ++ [ending] ++ [message])) ∧
        ∀ (strategy : Strategy) retry other, strategy.Answers message.history →
          retry.operation = message.operation → after.Runs [retry] other →
            (Sharing.ofTopology topology).Serves
              (ClockManager.events (past ++ [message] ++ between ++ [ending] ++ [retry])) →
            strategy.Answers retry.history → retry = message ∧ other = again := by
  have runAccepted := run.trans accepts
  have runWaiting := runAccepted.trans meanwhile
  have runAfter := runWaiting.trans concludes
  obtain ⟨operation, history, result⟩ := message
  obtain rfl : operation = .receive service raw payload := receives
  obtain ⟨sent, rfl, takes⟩ := takes_result_iff.1 (runs_singleton.1 accepts)
  have received := takes_receive run.consistent takes
  obtain ⟨event, hevent, found, hending, hfailed⟩ := fails
  have takesEnding := runs_singleton.1 concludes
  have silent := Move.not_message_mem_events
    (not_receive_of_ending? runWaiting.consistent takesEnding ⟨event, hevent, hending⟩)
  have reachesEnding := perform_reaches runWaiting.consistent takesEnding
  -- The message itself enters nothing in the tables.
  have hmessage : (Sharing.ofTopology topology).after (ClockManager.events
      (past ++ [⟨.receive service raw payload, history, .received sent⟩])) =
        (Sharing.ofTopology topology).after (ClockManager.events past) := by
    rw [events_append, events_singleton, Sharing.after_append]
    exact received.tables_after
  have htables : (Sharing.ofTopology topology).after (ClockManager.events
      (past ++ [⟨.receive service raw payload, history, .received sent⟩] ++ between ++
        [ending])) = ((Sharing.ofTopology topology).after (ClockManager.events past)).after
          (ClockManager.events between ++ ending.events) := by
    rw [List.append_assoc _ between, events_append _ (between ++ [ending]), Sharing.after_append,
      hmessage, events_append, events_singleton]
  have servesParts := serves
  rw [List.append_assoc _ between, events_append _ (between ++ [ending]), Sharing.serves_append,
    hmessage, events_append between, events_singleton] at servesParts
  obtain ⟨servesAccepted, servesRest⟩ := servesParts
  have backs := runAccepted.backs servesAccepted
  rw [hmessage] at backs
  obtain ⟨freed, same⟩ := (meanwhile.reaches runAccepted.consistent).failed reachesEnding backs
    servesRest busy unended silent ⟨event, hevent, hending⟩ hfailed
  rw [← htables] at same
  refine ⟨⟨freed, fun item hitem heq => ?_, same⟩, ?_⟩
  · obtain ⟨held, hheld, -⟩ := runAfter.consistent.slot_of_queued item hitem
    rw [heq, freed] at hheld
    cases hheld
  have htopology := runAfter.topology_eq.trans run.topology_eq.symm
  obtain ⟨work, again, hqueue, hqueueAgain, hslot, takesAgain, servesAgain, hunique⟩ :=
    accepted_again runAfter.consistent htopology received free busy freed same
      (serves_concat.1 servesAccepted).2
  refine ⟨work, again, hqueue, hqueueAgain, hslot, ?_, serves_concat.2 ⟨serves, servesAgain⟩, ?_⟩
  · exact runs_singleton.2 (takes_result_iff.2 ⟨sent, rfl, takesAgain⟩)
  · rintro strategy ⟨operation, retried, result⟩ other answers rfl runRetry servesRetry
      answersRetry
    obtain ⟨resent, rfl, takesRetry⟩ := takes_result_iff.1 (runs_singleton.1 runRetry)
    obtain ⟨rfl, rfl, rfl⟩ := hunique strategy answers retried resent other takesRetry
      (serves_concat.1 servesRetry).2 answersRetry
    exact ⟨rfl, rfl⟩

open Bench in
/-- The GPU is to be started, which takes a while and fails then. In the meantime the CPU is stopped,
and the GPU is asked to stop, which needs no hardware. When the start is asked for again, it is
accepted by the same words. -/
theorem failed_request_leaves_no_trace_sample :
    let start := Operation.receive ⟨11⟩ 7 (Request.configSet 0 1).payload
    let message := sampleSession.move start
    let retry := failedSession.move start
    (failedSession.platform.tracker.slot? ⟨1⟩ = none ∧ failedSession.platform.queue = []) ∧
      retry = message ∧
      (failedSession.perform (.operate start)).2.platform.tracker.slot? ⟨1⟩ =
        some ⟨⟨⟨11⟩, ⟨1⟩, 0⟩, .setState, some .running⟩ := by
  intro start message retry
  let opening := startingSession.moves (.operate .runNext :: busySteps)
  let ending := (pendingSession.after busySteps).move (.complete ⟨⟨1⟩, .error .hardware⟩)
  have hbusy : startingSession.platform.tracker.slot? ⟨1⟩ =
      some ⟨⟨⟨11⟩, ⟨1⟩, 0⟩, .setState, some .running⟩ := rfl
  have hunended : ∀ event ∈ ClockManager.events opening, ∀ result,
      event.ending? ≠ some (⟨1⟩, result) := by
    have hothers : (ClockManager.events opening).all
        (fun event => event.ending?.all (·.1 ≠ ⟨1⟩)) := by decide
    intro event hevent result hending
    have hother := List.all_eq_true.1 hothers event hevent
    simp [hending] at hother
  let steps := send 11 (.configSet 0 1) :: .operate .runNext :: busySteps ++
    [.operate (.complete ⟨⟨1⟩, .error .hardware⟩)]
  have hserves : (Sharing.ofTopology sampleTopology).Serves
      (ClockManager.events ([] ++ [message] ++ opening ++ [ending])) :=
    Session.serves_moves rfl steps
  have hservesRetry : (Sharing.ofTopology sampleTopology).Serves
      (ClockManager.events ([] ++ [message] ++ opening ++ [ending] ++ [retry])) :=
    Session.serves_moves rfl (steps ++ [send 11 (.configSet 0 1)])
  have hhistory : message.history = [⟨.agentOf ⟨11⟩, .ok ⟨1⟩⟩, ⟨.allowsResource ⟨1⟩ 20 7 0, true⟩,
      ⟨.agentOf ⟨11⟩, .ok ⟨1⟩⟩,
      ⟨.reviewState .pre ⟨⟨1⟩, 0, ⟨1⟩⟩ .running, ⟨.ok .proceed, .running⟩⟩,
      ⟨.log (.claimed ⟨1⟩ .setState ⟨11⟩), ()⟩] := rfl
  have hanswers : failedSession.world.strategy.Answers message.history := by
    refine World.strategy_answers ?_
    rw [hhistory]
    simp only [List.forall_mem_cons, List.not_mem_nil, false_imp_iff, implies_true, and_true]
    exact ⟨fun _ => rfl, fun _ => rfl, fun _ => rfl, nofun, fun _ => rfl⟩
  obtain ⟨⟨hfree, -, -⟩, work, again, -, -, hslot, -, -, hunique⟩ :=
    Runs.failed_request_leaves_no_trace .nil rfl rfl (sampleSession.runs_move start) hbusy
      (startingSession.runs_moves (.operate .runNext :: busySteps)) hunended
      ((pendingSession.after busySteps).runs_move (.complete ⟨⟨1⟩, .error .hardware⟩))
      ⟨.completion ⟨⟨1⟩, .error .hardware⟩, List.mem_cons_self, _, rfl, rfl⟩ hserves
  obtain ⟨hretry, hagain⟩ := hunique failedSession.world.strategy retry _ hanswers rfl
    (failedSession.runs_move start) hservesRetry hanswers
  rw [← hagain] at hslot
  exact ⟨⟨hfree, by decide⟩, hretry, hslot⟩

end Platform
end ClockManager
