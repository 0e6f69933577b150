import ClockManager.Proofs.Errand
import ClockManager.Proofs.Report
/-!
# Commits and successes

A commit is what the policy is told once a state has been applied; a success is what the hardware
reports of a call that sets a state, at once or by the completion of a call that it left pending.
Both are read off the events, each without the other, so that they can be compared. When a request
ends in a success, `Topology.takes_finish_of_applied?` leaves nothing open between its commit and
its answer but a notice.
-/

namespace ClockManager

/-! ### Commits -/

/-- The device that a state is committed for, and the state. -/
def Event.commit? : Event → Option (DeviceId × ClockState)
  | exchange ⟨.reviewState .post context state, _⟩ => some (context.device, state)
  | _ => none

/-- The states that are committed, commit by commit. -/
def commits (events : List Event) : List (DeviceId × ClockState) := events.filterMap Event.commit?

section Commits

variable {device : DeviceId} {event : Event} {events more : List Event} {history : History}

theorem commits_append : commits (events ++ more) = commits events ++ commits more :=
  List.filterMap_append

theorem commits_cons_of_none (h : event.commit? = none) :
    commits (event :: events) = commits events :=
  List.filterMap_cons_none h

theorem commits_cons_of_some {committed : DeviceId × ClockState}
    (h : event.commit? = some committed) :
    commits (event :: events) = committed :: commits events :=
  List.filterMap_cons_some h

theorem commits_eq_nil_iff : commits events = [] ↔ ∀ event ∈ events, event.commit? = none :=
  List.filterMap_eq_nil_iff

theorem Event.commit?_of_device? (h : event.device? = some device) : event.commit? = none := by
  cases event with
  | exchange exchange =>
    obtain ⟨query, answer⟩ := exchange
    cases query <;> simp_all [Event.device?, Exchange.touch?, Event.commit?]
  | _ => rfl

theorem Event.commit?_of_isConsultation {made : Exchange} (h : made.query.isConsultation) :
    (exchange made).commit? = none := by
  obtain ⟨query, answer⟩ := made
  cases query with
  | reviewState phase => cases phase <;> simp_all [Query.isConsultation, Event.commit?]
  | _ => rfl

end Commits

/-! ### Successes -/

/-- The device that the event reports to have been brought to a state, and the state: a call that
sets the state has succeeded at once, or a completion ends such a call, which was left pending. -/
def Event.success? (past : List Event) : Event → Option (DeviceId × ClockState)
  | message _ _ _ => none
  | completion taken =>
    (DeviceReport.after taken.device past).pending?.bind fun work =>
      (work.applied? taken.result).map (taken.device, ·)
  | exchange made =>
    made.touch?.bind fun touch => touch.settled?.bind fun result =>
      (touch.work.applied? result).map (touch.device, ·)

/-- The states that the hardware reports to be applied in the events after `past`, in order. -/
def successes (past : List Event) : List Event → List (DeviceId × ClockState)
  | [] => []
  | event :: rest => (event.success? past).toList ++ successes (past ++ [event]) rest

section Successes

variable {past events more : List Event} {event : Event}

theorem successes_append :
    successes past (events ++ more) = successes past events ++ successes (past ++ events) more := by
  induction events generalizing past with
  | nil => rw [List.append_nil]; rfl
  | cons event rest ih =>
    rw [List.cons_append, successes, successes, ih, List.append_assoc, List.append_assoc,
      List.singleton_append]

/-- What is about no device reports no success. -/
theorem Event.success?_of_device?_eq_none (h : event.device? = none) :
    event.success? past = none := by
  cases event with
  | message => rfl
  | completion => simp [Event.device?] at h
  | exchange exchange =>
    rw [Event.success?, Option.map_eq_none_iff.1 h]
    rfl

/-- An event that reports a success is a call or a completion, and no commit. -/
theorem Event.commit?_of_success? {success : DeviceId × ClockState}
    (h : event.success? past = some success) : event.commit? = none := by
  cases hdevice : event.device? with
  | none => simp [Event.success?_of_device?_eq_none hdevice] at h
  | some device => exact Event.commit?_of_device? hdevice

theorem successes_of_device?_eq_none (h : ∀ event ∈ events, event.device? = none) :
    successes past events = [] := by
  induction events generalizing past with
  | nil => rfl
  | cons event rest ih =>
    obtain ⟨hevent, hrest⟩ := List.forall_mem_cons.1 h
    rw [successes, Event.success?_of_device?_eq_none hevent, ih hrest]
    rfl

end Successes

/-! ### Since a device was claimed -/

/-- The event is a call on the device or a completion for it, or claims its slot. -/
def Event.Concerns (device : DeviceId) (event : Event) : Prop :=
  event.claimed? = some device ∨ event.device? = some device

/-- A claim starts a new record of a device, and what is about the device goes on with it. -/
def Event.record (device : DeviceId) (seen : List Event) (event : Event) : List Event :=
  if event.claimed? = some device then []
  else if event.device? = some device then seen ++ [event]
  else seen

/-- The calls on a device and the completions taken for it since its slot was last claimed. -/
def sinceClaim (device : DeviceId) (events : List Event) : List Event :=
  events.foldl (Event.record device) []

section Concerns

variable {device : DeviceId} {past more : List Event} {event : Event}

theorem not_concerns_of_none (unclaimed : event.claimed? = none) (elsewhere : event.device? = none)
    (device : DeviceId) : ¬ event.Concerns device := by
  simp [Event.Concerns, unclaimed, elsewhere]

theorem device?_of_touch?_eq_none {made : Exchange} (h : made.touch? = none) :
    (Event.exchange made).device? = none := by
  rw [Event.device?, h]
  rfl

theorem sinceClaim_append_of_unconcerned (h : ∀ event ∈ more, ¬ event.Concerns device) :
    sinceClaim device (past ++ more) = sinceClaim device past := by
  induction more generalizing past with
  | nil => rw [List.append_nil]
  | cons event rest ih =>
    obtain ⟨hevent, hrest⟩ := List.forall_mem_cons.1 h
    obtain ⟨hunclaimed, helsewhere⟩ := not_or.1 hevent
    rw [List.append_cons, ih hrest, sinceClaim, List.foldl_concat, Event.record,
      if_neg hunclaimed, if_neg helsewhere]
    rfl

theorem sinceClaim_concat_of_claimed? (h : event.claimed? = some device) :
    sinceClaim device (past ++ [event]) = [] := by
  rw [sinceClaim, List.foldl_concat, Event.record, if_pos h]

theorem sinceClaim_concat_of_device? (unclaimed : event.claimed? = none)
    (h : event.device? = some device) :
    sinceClaim device (past ++ [event]) = sinceClaim device past ++ [event] := by
  rw [sinceClaim, List.foldl_concat, Event.record, if_neg (by simp [unclaimed]), if_pos h]
  rfl

/-- A call on a device goes on the record of the device. -/
theorem sinceClaim_concat_of_touch? {call : Exchange} {work : Work}
    {settled? : Option (Except HardwareError Value)}
    (touched : call.touch? = some ⟨device, work, settled?⟩) :
    sinceClaim device (past ++ [.exchange call]) = sinceClaim device past ++ [.exchange call] := by
  refine sinceClaim_concat_of_device? (Event.claimed?_of_touch? touched) ?_
  rw [Event.device?, touched]
  rfl

theorem not_concerns_of_touch? {call : Exchange} {touch : Touch}
    (touched : call.touch? = some touch) (h : touch.device ≠ device) :
    ¬ (Event.exchange call).Concerns device := by
  simp [Event.Concerns, Event.claimed?_of_touch? touched, Event.device?, touched, h]

theorem DeviceReport.after_append_of_unconcerned (h : ∀ event ∈ more, ¬ event.Concerns device) :
    DeviceReport.after device (past ++ more) = DeviceReport.after device past := by
  induction more generalizing past with
  | nil => rw [List.append_nil]
  | cons event rest ih =>
    obtain ⟨hevent, hrest⟩ := List.forall_mem_cons.1 h
    rw [List.append_cons, ih hrest, DeviceReport.after, List.foldl_concat,
      DeviceReport.next_of_device?_ne (not_or.1 hevent).2]
    rfl

end Concerns

/-- These events bring a device to a state: one call that sets the state, and its success. -/
inductive Brings (device : DeviceId) (state : ClockState) : List Event → Prop where
  | atOnce : Brings device state [.exchange ⟨.setState device state, .ok (.done ())⟩]
  | later :
    Brings device state
      [.exchange ⟨.setState device state, .ok .pending⟩, .completion ⟨device, .ok .applied⟩]

theorem settle_eq_none_iff {α : Type} {wrap : α → Value}
    {answer : Except HardwareError (Outcome α)} :
    settle wrap answer = none ↔ answer = .ok .pending := by
  cases answer with
  | error error => simp [settle]
  | ok outcome => cases outcome <;> simp [settle]

theorem settle_eq_some_ok_iff {α : Type} {wrap : α → Value}
    {answer : Except HardwareError (Outcome α)} {value : Value} :
    settle wrap answer = some (.ok value) ↔
      ∃ done, answer = .ok (.done done) ∧ wrap done = value := by
  cases answer with
  | error error => simp [settle]
  | ok outcome => cases outcome <;> simp [settle]

/-- A call for this work sets the state. -/
theorem Exchange.eq_of_touch?_setState {exchange : Exchange} {device : DeviceId}
    {state : ClockState} {settled? : Option (Except HardwareError Value)}
    (h : exchange.touch? = some ⟨device, .setState state, settled?⟩) :
    ∃ answer, exchange = ⟨.setState device state, answer⟩ ∧
      settle (fun _ => .applied) answer = settled? := by
  obtain ⟨query, answer⟩ := exchange
  cases query with
  | setState found asked =>
    simp only [Exchange.touch?, Option.some.injEq, Touch.mk.injEq, Work.setState.injEq] at h
    obtain ⟨rfl, rfl, hsettled⟩ := h
    exact ⟨answer, rfl, hsettled⟩
  | _ => simp [Exchange.touch?] at h

theorem Work.applied?_eq_some_iff {work : Work} {result : Except HardwareError Value}
    {state : ClockState} :
    work.applied? result = some state ↔ work = .setState state ∧ result = .ok .applied := by
  unfold Work.applied?
  split
  · cases work <;> simp [Work.target?]
  · simp_all

/-! ### The end of a request in a success -/

/-- What follows a commit: a notice if the policy has rejected it, the notice that the slot is free,
and the answer that the request has succeeded. -/
def closing (service : ServiceId) (device : DeviceId) (review : StateReview)
    (sent : Except TransportError Unit) : History :=
  (match review.verdict with
    | .ok _ => []
    | .error error => [⟨.log (.commitFailed device error), ()⟩]) ++
  [⟨.log (.released device), ()⟩, ⟨.respond service (.bytes (Frame.status .success).bytes), sent⟩]

theorem Slot.applied?_eq_some_iff {slot : Slot} {result : Except HardwareError Value}
    {state : ClockState} :
    slot.applied? result = some state ↔
      result = .ok .applied ∧ slot.kind = .setState ∧ slot.target? = some state := by
  unfold Slot.applied?
  split <;> simp_all

namespace Topology

variable {topology : Topology} {tracker left : Tracker} {device : DeviceId} {slot : Slot}
  {result : Except HardwareError Value} {history : History} {sent : Except TransportError Unit}

/-- When the request of a busy slot ends in a success, the state is committed, and then the same
happens whatever the policy says of it. -/
theorem takes_finish_of_applied? {state : ClockState} (busy : tracker.slot? device = some slot)
    (applied : slot.applied? result = some state)
    (takes : (topology.finish tracker device slot result).Takes history (sent, left)) :
    ∃ review, history = ⟨.reviewState .post (slot.owner.context device) state, review⟩ ::
      closing slot.owner.service device review sent := by
  obtain ⟨rfl, hkind, htarget⟩ := Slot.applied?_eq_some_iff.1 applied
  have hfits : Value.applied.fits slot.kind = true := by rw [hkind]; rfl
  unfold finish resultFrame at takes
  dsimp only at takes
  rw [if_pos hfits, if_pos hkind, Dialogue.takes_bind] at takes
  obtain ⟨_, closed, frame, rfl, hframe, takes⟩ := takes
  obtain ⟨committed, _, _, rfl, hcommit, rfl, rfl⟩ := Dialogue.takes_bind.1 hframe
  have hreleased : (tracker.release device).1 = some slot := busy
  rw [hreleased, Option.isSome_some, if_pos rfl, Dialogue.takes_log_bind] at takes
  obtain ⟨_, rfl, takes⟩ := takes
  obtain ⟨_, _, rfl, rfl, hend⟩ := Dialogue.takes_call_bind.1 takes
  obtain ⟨rfl, -⟩ := Prod.mk.inj hend
  unfold Slot.commit at hcommit
  rw [htarget] at hcommit
  obtain ⟨review, rest, rfl, hrest⟩ := Dialogue.takes_call_bind.1 hcommit
  refine ⟨review, ?_⟩
  unfold closing
  cases hverdict : review.verdict with
  | ok decision =>
    rw [hverdict] at hrest
    obtain ⟨rfl, -⟩ := hrest
    rfl
  | error error =>
    rw [hverdict] at hrest
    rw [Dialogue.takes_log.1 hrest]
    rfl

/-- When it does not, nothing is committed. -/
theorem commits_of_takes_finish (unapplied : slot.applied? result = none)
    (takes : (topology.finish tracker device slot result).Takes history (sent, left)) :
    commits (exchanges history) = [] := by
  obtain ⟨-, spokenCommits, hspoken, hcommits⟩ := takes_finish takes
  rw [unapplied] at hcommits
  rw [List.map_eq_nil_iff.1 hcommits, List.nil_append] at hspoken
  rw [commits_eq_nil_iff]
  intro event hmem
  obtain ⟨⟨query, answer⟩, hexchange, rfl⟩ := List.mem_map.1 hmem
  cases query with
  | reviewState phase context state =>
    have hspeech : ⟨.reviewState phase context state, answer⟩ ∈ spoken history :=
      List.mem_filter.2 ⟨hexchange, rfl⟩
    rw [hspoken, List.mem_singleton] at hspeech
    cases hspeech
  | _ => rfl

end Topology
end ClockManager
