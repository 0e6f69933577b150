import ClockManager.Proofs.Event
import ClockManager.Proofs.Settlement
import Mathlib.Data.List.Chain
/-!
# What the hardware has reported

A device as it looks from outside, through the calls made on it and the completions taken for it:
the states it was brought to, and the work that is still pending. Nothing that the platform or the
policy keeps enters into a report, so that what they keep can be compared with it. Whether work is
pending by a report can also be read off the last event about the device, which is `LeftPending`.
-/

namespace ClockManager

/-- The state that the work has brought about when it ends in `result`. -/
def Work.applied? (work : Work) (result : Except HardwareError Value) : Option ClockState :=
  match result with
  | .ok .applied => work.target?
  | _ => none

/-! ### The last call on a device -/

/-- The device that a call is made on, or that a completion is taken for. -/
def Event.device? : Event → Option DeviceId
  | message _ _ _ => none
  | completion taken => some taken.device
  | exchange made => made.touch?.map Touch.device

/-- The event is a call that the hardware has left pending. -/
def Event.isDeferral : Event → Bool
  | exchange made => made.touch?.any (·.settled?.isNone)
  | _ => false

/-- The last call on the device was left pending, and no completion has been taken for it since. -/
def LeftPending (device : DeviceId) (events : List Event) : Prop :=
  ∃ past event later, events = past ++ event :: later ∧ event.device? = some device ∧
    event.isDeferral ∧ ∀ other ∈ later, other.device? ≠ some device

section LeftPending

variable {device : DeviceId} {events : List Event} {event : Event}

theorem leftPending_nil : ¬ LeftPending device [] := by
  rintro ⟨past, event, later, hsplit, -⟩
  simp at hsplit

theorem leftPending_append_of_eq (h : event.device? = some device) :
    LeftPending device (events ++ [event]) ↔ event.isDeferral := by
  constructor
  · rintro ⟨past, found, later, hsplit, -, hdeferral, hlater⟩
    rcases List.eq_nil_or_concat later with rfl | ⟨init, last, rfl⟩
    · obtain ⟨-, hlast⟩ := List.append_inj' hsplit rfl
      cases hlast
      exact hdeferral
    · rw [List.concat_eq_append, ← List.cons_append, ← List.append_assoc] at hsplit
      obtain ⟨-, hlast⟩ := List.append_inj' hsplit rfl
      cases hlast
      exact absurd h (hlater event (by simp))
  · intro hdeferral
    exact ⟨events, event, [], rfl, h, hdeferral, by simp⟩

theorem leftPending_append_of_ne (h : event.device? ≠ some device) :
    LeftPending device (events ++ [event]) ↔ LeftPending device events := by
  constructor
  · rintro ⟨past, found, later, hsplit, hfound, hdeferral, hlater⟩
    rcases List.eq_nil_or_concat later with rfl | ⟨init, last, rfl⟩
    · obtain ⟨-, hlast⟩ := List.append_inj' hsplit rfl
      cases hlast
      exact absurd hfound h
    · rw [List.concat_eq_append, ← List.cons_append, ← List.append_assoc] at hsplit
      obtain ⟨hevents, -⟩ := List.append_inj' hsplit rfl
      exact ⟨past, found, init, hevents, hfound, hdeferral, fun other hother =>
        hlater other (by simp [hother])⟩
  · rintro ⟨past, found, later, rfl, hfound, hdeferral, hlater⟩
    refine ⟨past, found, later ++ [event], by simp, hfound, hdeferral, ?_⟩
    intro other hother
    rcases List.mem_append.1 hother with hother | hother
    · exact hlater other hother
    · rwa [List.mem_singleton.1 hother]

end LeftPending

structure DeviceReport where
  /-- The states that the device was brought to, the last one first. -/
  applied : List ClockState := []
  pending? : Option Work := none

namespace DeviceReport

variable {device : DeviceId} {report : DeviceReport} {initial : ClockState} {events : List Event}
  {history : History}

/-- The state that the device was last brought to. -/
def state (report : DeviceReport) (initial : ClockState) : ClockState :=
  report.applied.headD initial

/-- The report once a call has left its work pending, or the work has ended in a result. -/
def settle (report : DeviceReport) (work : Work) :
    Option (Except HardwareError Value) → DeviceReport
  | none => { report with pending? := some work }
  | some result => { applied := (work.applied? result).toList ++ report.applied }

def next (device : DeviceId) (report : DeviceReport) : Event → DeviceReport
  | .message _ _ _ => report
  | .completion completion =>
    match report.pending? with
    | none => report
    | some work =>
      if completion.device = device then report.settle work (some completion.result) else report
  | .exchange exchange =>
    match exchange.touch? with
    | none => report
    | some touch =>
      if touch.device = device then report.settle touch.work touch.settled? else report

/-- The report on a device after these events. -/
def after (device : DeviceId) (events : List Event) : DeviceReport := events.foldl (next device) {}

/-- If the event is a call that sets the device's state, then it asks for another state than the
last one. -/
def Changes (device : DeviceId) (initial : ClockState) (report : DeviceReport) : Event → Prop
  | .exchange ⟨.setState touched state, _⟩ => touched = device → state ≠ report.state initial
  | _ => True

theorem next_of_touch?_eq_none {exchange : Exchange} (h : exchange.touch? = none) :
    next device report (.exchange exchange) = report := by
  rw [next, h]

theorem changes_of_touch?_eq_none {exchange : Exchange} (h : exchange.touch? = none) :
    Changes device initial report (.exchange exchange) := by
  obtain ⟨query, answer⟩ := exchange
  cases query <;> simp_all [Exchange.touch?, Changes]

theorem next_of_touch? {exchange : Exchange} {touched : DeviceId} {work : Work}
    {settled? : Option (Except HardwareError Value)}
    (h : exchange.touch? = some ⟨touched, work, settled?⟩) :
    next device report (.exchange exchange) =
      if touched = device then report.settle work settled? else report := by
  rw [next, h]

theorem changes_of_touch? {exchange : Exchange} {touched : DeviceId} {work : Work}
    {settled? : Option (Except HardwareError Value)}
    (h : exchange.touch? = some ⟨touched, work, settled?⟩)
    (changes : touched = device → ∀ state, work.target? = some state →
      state ≠ report.state initial) :
    Changes device initial report (.exchange exchange) := by
  obtain ⟨query, answer⟩ := exchange
  cases query with
  | setState found state =>
    simp only [Exchange.touch?, Option.some.injEq, Touch.mk.injEq] at h
    obtain ⟨rfl, rfl, _⟩ := h
    exact fun heq => changes heq state rfl
  | _ => trivial

theorem next_completion_of_ne {completion : Completion} (h : completion.device ≠ device) :
    next device report (.completion completion) = report := by
  rw [next]
  split
  · rfl
  · exact if_neg h

theorem next_of_device?_ne {event : Event} (h : event.device? ≠ some device) :
    next device report event = report := by
  cases event with
  | message => rfl
  | completion completion => exact next_completion_of_ne fun heq => h (congrArg some heq)
  | exchange exchange =>
    cases htouch : exchange.touch? with
    | none => exact next_of_touch?_eq_none htouch
    | some touch =>
      have hne : touch.device ≠ device := fun heq =>
        h (by rw [Event.device?, htouch, Option.map_some, heq])
      rw [next_of_touch? htouch, if_neg hne]

/-- Another state than the last one goes on with the alternation. -/
theorem isChain_cons {state : ClockState} (hne : state ≠ report.state initial)
    (h : (report.applied ++ [initial]).IsChain (· ≠ ·)) :
    (state :: report.applied ++ [initial]).IsChain (· ≠ ·) := by
  unfold DeviceReport.state at hne
  cases happlied : report.applied with
  | nil => simpa [happlied] using hne
  | cons last earlier =>
    rw [happlied] at h hne
    exact List.isChain_cons_cons.2 ⟨hne, h⟩

/-! ### Work left pending -/

/-- By the report on it, a device has work pending exactly if the last event that was about it left
work pending. -/
theorem pending?_isSome_iff :
    (after device events).pending?.isSome ↔ LeftPending device events := by
  -- The last event alone decides if it is about the device; otherwise the events before it do.
  induction events using List.reverseRecOn with
  | nil => simp [after, leftPending_nil]
  | append_singleton events event ih =>
    rw [after, List.foldl_append, List.foldl_cons, List.foldl_nil, ← after]
    by_cases habout : event.device? = some device
    · rw [leftPending_append_of_eq habout]
      cases event with
      | message => simp [Event.device?] at habout
      | completion completion =>
        have hdevice : completion.device = device := Option.some.inj habout
        rw [next]
        split
        · rename_i hnone
          simp [hnone, Event.isDeferral]
        · rw [if_pos hdevice]
          simp [settle, Event.isDeferral]
      | exchange exchange =>
        obtain ⟨touch, htouch, hdevice⟩ := Option.map_eq_some_iff.1 habout
        rw [next, htouch]
        dsimp only
        rw [if_pos hdevice, Event.isDeferral, htouch]
        cases hsettled : touch.settled? <;> simp [settle, hsettled]
    · rw [leftPending_append_of_ne habout, ← ih, next_of_device?_ne habout]

/-! ### Exchanges that touch no clock -/

theorem foldl_of_untouched (h : ∀ exchange ∈ history, exchange.touch? = none) :
    (exchanges history).foldl (next device) report = report :=
  foldl_of_ignored fun exchange hmem => next_of_touch?_eq_none (h exchange hmem)

theorem along_of_untouched {allowed : DeviceReport → Event → Prop}
    (h : ∀ exchange ∈ history, exchange.touch? = none)
    (ok : ∀ exchange : Exchange, exchange.touch? = none → allowed report (.exchange exchange)) :
    Along (next device) allowed report (exchanges history) :=
  along_of_ignored (fun exchange hmem => next_of_touch?_eq_none (h exchange hmem))
    fun exchange hmem => ok exchange (h exchange hmem)

theorem changes_along (h : ∀ exchange ∈ history, exchange.touch? = none) :
    Along (next device) (Changes device initial) report (exchanges history) :=
  along_of_untouched h fun _ => changes_of_touch?_eq_none

end DeviceReport

theorem touch?_eq_none_of_consultation {history : History} (h : Consultation history) :
    ∀ exchange ∈ history, exchange.touch? = none :=
  fun exchange hmem => touch?_eq_none_of_isConsultation (h exchange hmem)

theorem touch?_eq_none_of_consultation_append {consulted : History} {last : Exchange}
    (h : Consultation consulted) (untouched : last.touch? = none) :
    ∀ exchange ∈ consulted ++ [last], exchange.touch? = none := by
  intro exchange hmem
  rcases List.mem_append.1 hmem with hmem | hmem
  · exact touch?_eq_none_of_consultation h exchange hmem
  · rwa [List.mem_singleton.1 hmem]

/-- No clock is touched while a request ends. -/
theorem touch?_eq_none_of_takes_finish {topology : Topology} {tracker left : Tracker}
    {device : DeviceId} {slot : Slot} {result : Except HardwareError Value} {history : History}
    {sent : Except TransportError Unit}
    (takes : (topology.finish tracker device slot result).Takes history (sent, left)) :
    ∀ exchange ∈ history, exchange.touch? = none := by
  obtain ⟨_, commits, hspoken, hcommits⟩ := Topology.takes_finish takes
  intro exchange hmem
  by_cases hnotice : exchange.isNotice
  · obtain ⟨query, answer⟩ := exchange
    cases query <;> simp_all [Exchange.isNotice, Exchange.touch?]
  · have hmem' : exchange ∈ spoken history :=
      List.mem_filter.2 ⟨hmem, by simpa using hnotice⟩
    rw [hspoken] at hmem'
    rcases List.mem_append.1 hmem' with hmem' | hmem'
    · obtain ⟨state, review, rfl⟩ := SlotOwner.exists_review_of_mem hcommits exchange hmem'
      rfl
    · rw [List.mem_singleton.1 hmem']
      rfl

end ClockManager
