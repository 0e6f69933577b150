import ClockManager.Proofs.Bench
import ClockManager.Proofs.Platform.Step
import Mathlib.Logic.Basic
/-!
# Answered or accepted

A message that comes in is answered at once, and then nothing is changed; or it is not answered yet,
and then its work is queued for one device that was free before. Whatever state the platform is in,
even one that no run leads to, no message is lost, answered twice, or answered and queued as well.

`Answers` and `Accepts` are the two ways. Refusals are made on many paths, but always by the last
exchange, which is all that `answers_concat` asks of them.
-/

namespace ClockManager

/-- The exchange touches no clock and has the policy commit nothing. -/
def Exchange.IsTentative (exchange : Exchange) : Prop :=
  exchange.touch? = none ∧ ∀ context state, exchange.query ≠ .reviewState .post context state

theorem Exchange.isTentative_of_isConsultation {exchange : Exchange}
    (h : exchange.query.isConsultation) : exchange.IsTentative := by
  refine ⟨touch?_eq_none_of_isConsultation h, ?_⟩
  intro context state hquery
  simp [hquery, Query.isConsultation] at h

theorem Sharing.after_of_isTentative {history : History}
    (h : ∀ exchange ∈ history, exchange.IsTentative) (tables : Sharing) :
    tables.after (exchanges history) = tables := by
  apply foldl_of_ignored
  intro exchange hmem
  obtain ⟨-, hpost⟩ := h exchange hmem
  obtain ⟨query, answer⟩ := exchange
  cases query with
  | reviewState phase context state =>
    cases phase with
    | pre => exact review_pre
    | post => exact absurd rfl (hpost context state)
  | _ => rfl

namespace Platform

variable {before after platform : Platform} {service : ServiceId} {raw : UInt32} {payload : Bytes}
  {history consulted : History} {sent : Except TransportError Unit} {reply : Reply}

/-- The message is answered at once, and nothing is changed. -/
structure Answers (before : Platform) (service : ServiceId) (reply : Reply) (history : History)
    (sent : Except TransportError Unit) (after : Platform) : Prop where
  /-- There is one answer, on the channel of the message. -/
  replies_eq : replies history = [(service, reply)]
  /-- An error is returned if and only if the answer could not be sent. -/
  failed_iff : ∀ error, sent = .error error ↔ ⟨.respond service reply, .error error⟩ ∈ history
  unchanged : after = before

/-- The message is not answered yet, and its work is queued for a device that was free. -/
structure Accepts (before : Platform) (service : ServiceId) (device : DeviceId) (history : History)
    (sent : Except TransportError Unit) (after : Platform) : Prop where
  unanswered : replies history = []
  sent_eq : sent = .ok ()
  idle : before.tracker.slots[device.index]? = some none
  /-- The slot is the sender's, for the clock by which it means the device; no other slot changes,
  and there is one item more. -/
  claimed : ∃ slot work, slot.owner.service = service ∧
    owner? history = some (.ok slot.owner.agent) ∧
    before.topology.Names slot.owner.agent slot.owner.clock device ∧ slot.IsFor work ∧
    after = { before with
      tracker := ⟨before.tracker.slots.set device.index (some slot)⟩
      queue := before.queue ++ [⟨device, work⟩] }

theorem Answers.not_accepts {device : DeviceId}
    (h : before.Answers service reply history sent after) :
    ¬ before.Accepts service device history sent after := by
  intro accepted
  have hnil := accepted.unanswered
  simp [h.replies_eq] at hnil

theorem Accepts.device_unique {device other : DeviceId}
    (h : before.Accepts service device history sent after)
    (hother : before.Accepts service other history sent after) : device = other := by
  obtain ⟨_, _, -, -, -, -, rfl⟩ := h.claimed
  obtain ⟨_, _, -, -, -, -, heq⟩ := hother.claimed
  have hqueue := List.append_cancel_left (congrArg Platform.queue heq)
  exact congrArg WorkItem.device (List.singleton_inj.1 hqueue)

theorem answers_concat (quiet : replies consulted = []) :
    before.Answers service reply (consulted ++ [⟨.respond service reply, sent⟩]) sent before := by
  refine ⟨?_, ?_, rfl⟩
  · rw [replies_append, quiet]
    rfl
  · intro error
    have unsent : ⟨.respond service reply, .error error⟩ ∉ consulted := by
      intro hmem
      have hnone := List.filterMap_eq_nil_iff.1 quiet _ hmem
      simp [Exchange.reply?] at hnone
    constructor
    · rintro rfl
      exact List.mem_append_right _ (List.mem_singleton_self _)
    · intro hmem
      cases List.mem_singleton.1 ((List.mem_append.1 hmem).resolve_left unsent)
      rfl

theorem accepts_of_acquire {clock : ResolvedClock} {work : Work} {tracker : Tracker}
    (assessed : (before.topology.assess service raw payload).Takes consulted (.accept clock work))
    (acquired : before.tracker.acquire clock.record.device (clock.claim service work) =
      .ok tracker) :
    before.Accepts service clock.record.device
      (consulted ++ [⟨.log (.claimed clock.record.device work.kind service), ()⟩]) (.ok ())
      { before with tracker, queue := before.queue ++ [⟨clock.record.device, work⟩] } := by
  obtain ⟨hidle, rfl⟩ := Tracker.acquire_eq_ok_iff.1 acquired
  refine ⟨?_, rfl, hidle, clock.claim service work, work, rfl, ?_, ?_, ⟨rfl, rfl⟩, rfl⟩
  · rw [replies_append, replies_of_consultation (Topology.consultation_of_takes_assess assessed)]
    rfl
  all_goals
    obtain ⟨_, permission, owner, _, _, _, hclock, passed, rfl⟩ :=
      Topology.takes_assess_accept assessed
    obtain ⟨-, rfl, hnames⟩ := Topology.resolveClock_eq_ok hclock
  · exact passed.owner?_eq permission service _ _
  · exact hnames

theorem Enqueued.either {clock : ResolvedClock} {work : Work} {last : History}
    (assessed : (before.topology.assess service raw payload).Takes consulted (.accept clock work))
    (enqueued : before.Enqueued service clock work last sent after) :
    (∃ reply, before.Answers service reply (consulted ++ last) sent after) ∨
      ∃ device, before.Accepts service device (consulted ++ last) sent after := by
  have quiet := replies_of_consultation (Topology.consultation_of_takes_assess assessed)
  cases enqueued with
  | claimed acquired => exact .inr ⟨_, accepts_of_acquire assessed acquired⟩
  | contended busy => exact .inl ⟨_, answers_concat quiet⟩
  | untracked slotless =>
    rw [← List.singleton_append, ← List.append_assoc]
    refine .inl ⟨_, answers_concat ?_⟩
    rw [replies_append, quiet]
    rfl

theorem isTentative_of_takes_receive
    (takes : (before.receive service raw payload).Takes history (sent, after)) :
    ∀ exchange ∈ history, exchange.IsTentative := by
  obtain ⟨consulted, last, rfl, hlast⟩ := exists_of_takes_receive takes
  have respond {reply : Reply} {sent : Except TransportError Unit} :
      Exchange.IsTentative ⟨.respond service reply, sent⟩ := ⟨rfl, nofun⟩
  have log {notice : Notice} : Exchange.IsTentative ⟨.log notice, ()⟩ := ⟨rfl, nofun⟩
  have consults {admission : Admission}
      (assessed : (before.topology.assess service raw payload).Takes consulted admission) :
      ∀ exchange ∈ consulted, exchange.IsTentative := fun exchange hmem =>
    Exchange.isTentative_of_isConsultation
      (Topology.consultation_of_takes_assess assessed exchange hmem)
  rw [List.forall_mem_append]
  rcases hlast with ⟨reply, assessed, rfl, -⟩ | ⟨clock, work, assessed, enqueued⟩
  · exact ⟨consults assessed, by simp [respond]⟩
  · refine ⟨consults assessed, ?_⟩
    cases enqueued with
    | claimed => simp [log]
    | contended => simp [respond]
    | untracked => simp [respond, log]

/-- A message that comes in is either answered or accepted, whatever state the platform is in and
whatever its collaborators do. Either way no clock has been touched and no policy has been made to
commit anything, so that the tables of the sharing policy are as they were. -/
theorem answers_or_accepts
    (takes : (platform.receive service raw payload).Takes history (sent, after)) :
    Xor (∃ reply, platform.Answers service reply history sent after)
        (∃ device, platform.Accepts service device history sent after) ∧
      (∀ exchange ∈ history, exchange.IsTentative) ∧
      ∀ tables : Sharing, tables.after (exchanges history) = tables := by
  have tentative := isTentative_of_takes_receive takes
  refine ⟨?_, tentative, Sharing.after_of_isTentative tentative⟩
  have either : (∃ reply, platform.Answers service reply history sent after) ∨
      ∃ device, platform.Accepts service device history sent after := by
    obtain ⟨consulted, last, rfl, hlast⟩ := exists_of_takes_receive takes
    rcases hlast with ⟨reply, assessed, rfl, rfl⟩ | ⟨clock, work, assessed, enqueued⟩
    · have quiet := replies_of_consultation (Topology.consultation_of_takes_assess assessed)
      exact .inl ⟨reply, answers_concat quiet⟩
    · exact enqueued.either assessed
  rcases either with ⟨reply, answered⟩ | accepted
  · refine .inl ⟨⟨reply, answered⟩, ?_⟩
    rintro ⟨device, accepted⟩
    exact answered.not_accepts accepted
  · refine .inr ⟨accepted, ?_⟩
    rintro ⟨reply, answered⟩
    obtain ⟨device, accepted⟩ := accepted
    exact answered.not_accepts accepted

open Bench in
/-- A platform that has lost all its slots answers that something is wrong; one that has just started
accepts the same message. -/
theorem answers_or_accepts_sample :
    let received (platform : Platform) :=
      (platform.receive ⟨11⟩ 3 (Request.clockAttributes 0).payload).trace World.answer
        sampleSession.world
    let slotless : Platform := ⟨sampleTopology, ⟨[]⟩, []⟩
    let started := Platform.start sampleTopology
    slotless.Answers ⟨11⟩ (.bytes (Frame.status .genericError).bytes) (received slotless).1
        (received slotless).2.1.1 slotless ∧
      ∃ device, started.Accepts ⟨11⟩ device (received started).1 (.ok ())
        (received started).2.1.2 := by
  intro received slotless started
  have takes (platform : Platform) :
      (platform.receive ⟨11⟩ 3 (Request.clockAttributes 0).payload).Takes (received platform).1
        ((received platform).2.1.1, (received platform).2.1.2) := Dialogue.takes_trace ..
  constructor
  · obtain ⟨⟨⟨reply, answered⟩, -⟩ | ⟨⟨device, accepted⟩, -⟩, -⟩ :=
      answers_or_accepts (takes slotless)
    · have hreply : replies (received slotless).1 =
          [(⟨11⟩, .bytes (Frame.status .genericError).bytes)] := rfl
      cases answered.replies_eq.symm.trans hreply
      exact answered
    · exact absurd accepted.idle nofun
  · obtain ⟨⟨⟨reply, answered⟩, -⟩ | ⟨accepted, -⟩, -⟩ := answers_or_accepts (takes started)
    · exact absurd answered.replies_eq nofun
    · exact accepted

end Platform
end ClockManager
