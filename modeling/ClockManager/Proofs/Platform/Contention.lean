import ClockManager.Proofs.Platform.Commits
import ClockManager.Proofs.Sharing.Holders
/-!
# Requests for a device whose state is being changed

While a change of state is in flight, every well-formed request about the clock is answered at once,
and nothing comes of it. A request that would need the hardware is answered as busy. But the policy
is asked before the slot, and it speaks for the tables as they were committed last: a request for a
state that the tables take as satisfied is answered with success.
-/

namespace ClockManager

/-! ### What the policy says -/

namespace Sharing

variable {tables : Sharing} {owner : AgentId} {context : PolicyContext} {state target : ClockState}

/-- What the policy says while an owner's change of the device is in flight: it lets the same change
through again, for the same agent if it is a stop, and takes any other one as satisfied. -/
def Insists (tables : Sharing) (context : PolicyContext) (owner : AgentId) (target : ClockState) :
    Prop :=
  ∀ state, (tables.review .pre context state).verdict =
    .ok (if state = target ∧ (state = .running ∨ context.agent = owner) then .proceed else .skip)

theorem Ready.insists (ready : tables.Ready owner context.device target)
    (counts : tables.Counts context.device) (bounded : tables.states.length ≤ UInt32.size)
    (known : ∃ held, tables.state? context.agent context.device = some held) :
    tables.Insists context owner target := by
  obtain ⟨held, hheld⟩ := known
  intro state
  cases target with
  | running =>
    have hstopped : held = .stopped := by
      have hne := ready.no_runner counts bounded context.agent
      rw [hheld] at hne
      cases held with
      | stopped => rfl
      | running => exact absurd rfl hne
    subst hstopped
    cases state <;> simp [review, hheld, ready.2, proceed]
  | stopped =>
    have hsole := ready.sole_runner counts bounded context.agent
    rw [hheld] at hsole
    by_cases heq : context.agent = owner
    · have hrunning : held = .running := Option.some.inj (hsole.2 heq)
      subst hrunning heq
      cases state <;> simp [review, hheld, ready.2, proceed]
    · have hstopped : held = .stopped := by
        cases held with
        | stopped => rfl
        | running => exact absurd (hsole.1 rfl) heq
      subst hstopped
      cases state <;> simp [review, hheld, ready.2, suppress, heq]

end Sharing

/-! ### What becomes of a request -/

/-- Well-formed requests that read a clock or set it. -/
def Request.isOrderly : Request → Bool
  | clockAttributes _ => true
  | rateGet _ => true
  | rateSet bits _ _ => (RateFlags.ofBits? bits).any (!·.async)
  | configSet _ bits => (ConfigAttributes.ofBits? bits).isSome
  | _ => false

/-- What an agent's request is answered while the change of a slot is in flight. A request for a
state is taken as satisfied unless it is for the same change; and a stop is the same for its owner
only. -/
def Slot.answerTo (slot : Slot) (agent : AgentId) : Request → Status
  | .configSet _ bits =>
    if ConfigAttributes.ofBits? bits = slot.target? ∧
        (slot.target? = some .running ∨ agent = slot.owner.agent) then .busy
    else .success
  | _ => .busy

def Exchange.isDenial : Exchange → Bool
  | ⟨.allowsProtocol _ _, answer⟩ => !answer
  | ⟨.allowsResource _ _ _ _, answer⟩ => !answer
  | _ => false

/-- Nothing is held against an agent's message: whenever the transport is asked for the sender it
names the agent, and no permission is denied. -/
structure Vouched (agent : AgentId) (history : History) : Prop where
  sender : ∀ owner ∈ owners history, owner = .ok agent
  allowed : ∀ exchange ∈ history, exchange.isDenial = false

/-- The queries that reach the hardware. -/
def Query.isHardware : Query → Bool
  | getState _ => true
  | getRate _ => true
  | setRate _ _ _ => true
  | setState _ _ => true
  | rateRange _ => true
  | rateAt _ _ => true
  | _ => false

theorem isHardware_eq_false_of_isPermission {query : Query} (h : query.isPermission) :
    query.isHardware = false := by
  cases query <;> simp_all [Query.isPermission, Query.isHardware]

theorem isHardware_eq_false_of_isInquiry {query : Query} (h : query.isInquiry) :
    query.isHardware = false := by
  cases query <;> simp_all [Query.isInquiry, Query.isHardware]

section Request

variable {topology : Topology} {service : ServiceId} {raw : UInt32} {payload : Bytes}
  {request : Request} {index : UInt32} {agent : AgentId} {clock : ResolvedClock} {slot : Slot}
  {target : ClockState} {first second history : History} {admission : Admission} {tables : Sharing}

theorem vouched_append :
    Vouched agent (first ++ second) ↔ Vouched agent first ∧ Vouched agent second := by
  constructor
  · rintro ⟨hsender, hallowed⟩
    simp only [owners_append, List.forall_mem_append] at hsender hallowed
    exact ⟨⟨hsender.1, hallowed.1⟩, ⟨hsender.2, hallowed.2⟩⟩
  · rintro ⟨⟨hsender, hallowed⟩, ⟨hsender', hallowed'⟩⟩
    refine ⟨?_, ?_⟩
    · rw [owners_append]
      exact List.forall_mem_append.2 ⟨hsender, hsender'⟩
    · exact List.forall_mem_append.2 ⟨hallowed, hallowed'⟩

theorem Vouched.eq_ok {owner : Except TransportError AgentId}
    (h : Vouched agent (⟨.agentOf service, owner⟩ :: history)) : owner = .ok agent :=
  h.sender owner List.mem_cons_self

theorem Request.eq_true_of_takes_permitted {granted : Bool} (vouched : Vouched agent history)
    (takes : (request.permitted service).Takes history granted) : granted = true := by
  unfold Request.permitted at takes
  rw [Dialogue.takes_call_bind] at takes
  obtain ⟨owner, rest, rfl, takes⟩ := takes
  cases vouched.eq_ok
  dsimp only at takes
  split at takes <;>
  · obtain ⟨answer, rest, rfl, rfl, rfl⟩ := takes
    have hanswer : (!answer) = false :=
      vouched.allowed _ (List.mem_cons_of_mem _ List.mem_cons_self)
    exact (Bool.not_eq_false' answer).mp hanswer

namespace Topology

theorem takes_assess_of_vouched (decoded : Request.decodeRaw raw payload = .ok request)
    (vouched : Vouched agent history)
    (takes : (topology.assess service raw payload).Takes history admission) :
    ∃ permission rest, history = permission ++ rest ∧
      (request.permitted service).Takes permission true ∧
      (topology.assessRequest service request).Takes rest admission := by
  unfold assess at takes
  rw [decoded] at takes
  dsimp only at takes
  obtain ⟨permission, rest, granted, rfl, hpermission, takes⟩ := Dialogue.takes_bind.1 takes
  have hgranted := Request.eq_true_of_takes_permitted (vouched_append.1 vouched).1 hpermission
  subst hgranted
  exact ⟨permission, rest, rfl, hpermission, takes⟩

theorem inquires_assessRequest (orderly : request.isOrderly) :
    (topology.assessRequest service request).Inquires := by
  cases request with
  | clockAttributes clock => exact inquires_assessRead _ _
  | rateGet clock => exact inquires_assessRead _ _
  | rateSet flags clock rate => exact inquires_assessRateSet _ _ _
  | configSet clock attributes => exact inquires_assessConfigSet _ _
  | _ => simp [Request.isOrderly] at orderly

theorem isHardware_eq_false_of_takes_assess (decoded : Request.decodeRaw raw payload = .ok request)
    (orderly : request.isOrderly) (vouched : Vouched agent history)
    (takes : (topology.assess service raw payload).Takes history admission) :
    ∀ exchange ∈ history, exchange.query.isHardware = false := by
  obtain ⟨permission, rest, rfl, hpermission, hrest⟩ :=
    takes_assess_of_vouched decoded vouched takes
  have hpermission := hpermission.forall_of_asks (request.asks_permitted service)
  have hrest := hrest.forall_of_asks (inquires_assessRequest orderly)
  intro exchange hmem
  rcases List.mem_append.1 hmem with hmem | hmem
  · exact isHardware_eq_false_of_isPermission (hpermission exchange hmem)
  · exact isHardware_eq_false_of_isInquiry (hrest exchange hmem)

section Resolved

variable (resolved : topology.resolveClock (.ok agent) index = .ok clock)
  (vouched : Vouched agent history)
include resolved vouched

theorem takes_assessRead_of_resolved {work : Work}
    (takes : (topology.assessRead service index work).Takes history admission) :
    admission = .accept clock work := by
  unfold assessRead at takes
  rw [Dialogue.takes_call_bind] at takes
  obtain ⟨owner, rest, rfl, takes⟩ := takes
  cases vouched.eq_ok
  rw [resolved] at takes
  exact (Dialogue.takes_pure.1 takes).2.symm

variable (serves : tables.Serves (exchanges history))
include serves

theorem takes_assessRateSet_of_resolved {bits : UInt32} {rate : UInt64} {flags : RateFlags}
    (known : RateFlags.ofBits? bits = some flags) (atOnce : flags.async = false)
    (takes : (topology.assessRateSet service bits index rate).Takes history admission) :
    admission = .accept clock (.setRate rate flags.rounding) := by
  unfold assessRateSet at takes
  rw [known] at takes
  dsimp only at takes
  rw [Dialogue.takes_call_bind] at takes
  obtain ⟨owner, rest, rfl, takes⟩ := takes
  cases vouched.eq_ok
  rw [resolved] at takes
  dsimp only at takes
  rw [atOnce, if_neg Bool.false_ne_true, Dialogue.takes_call_bind] at takes
  obtain ⟨review, rest, rfl, takes⟩ := takes
  have hreview : review = tables.reviewRate rate flags.rounding := serves.2.1
  subst hreview
  exact (Dialogue.takes_pure.1 takes).2.symm

theorem takes_assessConfigSet_of_resolved {bits : UInt32} {state : ClockState}
    {decision : Decision} (known : ConfigAttributes.ofBits? bits = some state)
    (decided : (tables.review .pre clock.context state).verdict = .ok decision)
    (takes : (topology.assessConfigSet service index bits).Takes history admission) :
    admission = if decision = .proceed then .accept clock (.setState state)
      else .status .success := by
  unfold assessConfigSet at takes
  rw [known] at takes
  dsimp only at takes
  rw [Dialogue.takes_call_bind] at takes
  obtain ⟨owner, rest, rfl, takes⟩ := takes
  cases vouched.eq_ok
  rw [resolved] at takes
  dsimp only at takes
  rw [Dialogue.takes_call_bind] at takes
  obtain ⟨review, rest, rfl, takes⟩ := takes
  have hreview : review = ⟨(tables.review .pre clock.context state).verdict, state⟩ := serves.2.1
  subst hreview
  dsimp only at takes
  rw [decided] at takes
  cases decision with
  | proceed => exact (Dialogue.takes_pure.1 takes).2.symm
  | skip => exact (Dialogue.takes_pure.1 takes).2.symm

variable (toward : slot.target? = some target) (orderly : request.isOrderly)
  (about : request.clock? = some index)
  (insists : request.message = .configSet →
    tables.Insists clock.context slot.owner.agent target)
include toward orderly about insists

theorem takes_assessRequest_of_insists
    (takes : (topology.assessRequest service request).Takes history admission) :
    (slot.answerTo agent request = .busy ∧ ∃ work, admission = .accept clock work) ∨
      admission = .status (slot.answerTo agent request) := by
  cases request with
  | clockAttributes found =>
    cases about
    exact .inl ⟨rfl, _, takes_assessRead_of_resolved resolved vouched takes⟩
  | rateGet found =>
    cases about
    exact .inl ⟨rfl, _, takes_assessRead_of_resolved resolved vouched takes⟩
  | rateSet bits found rate =>
    cases about
    rw [Request.isOrderly] at orderly
    cases known : RateFlags.ofBits? bits with
    | none => simp [known] at orderly
    | some flags =>
      have atOnce : flags.async = false := by simpa [known] using orderly
      exact .inl ⟨rfl, _,
        takes_assessRateSet_of_resolved resolved vouched serves known atOnce takes⟩
  | configSet found bits =>
    cases about
    obtain ⟨state, known⟩ := Option.isSome_iff_exists.1 orderly
    have hagent : Except.ok agent = Except.ok clock.context.agent :=
      (resolveClock_eq_ok resolved).2.1
    cases hagent
    have hadmission := takes_assessConfigSet_of_resolved resolved vouched serves known
      (insists rfl state) takes
    rw [Slot.answerTo, known, toward]
    by_cases hsame : state = target ∧
        (state = .running ∨ clock.context.agent = slot.owner.agent)
    · rw [if_pos (if_pos hsame)] at hadmission
      obtain ⟨rfl, hsame⟩ := hsame
      rw [if_pos ⟨rfl, by simpa using hsame⟩]
      exact .inl ⟨rfl, _, hadmission⟩
    · have hother : ¬ (some state = some target ∧
          (some target = some .running ∨ clock.context.agent = slot.owner.agent)) := by
        rintro ⟨heq, hagent⟩
        cases heq
        exact hsame ⟨rfl, by simpa using hagent⟩
      rw [if_neg (by rw [if_neg hsame]; decide)] at hadmission
      rw [if_neg hother]
      exact .inr hadmission
  | _ => simp [Request.isOrderly] at orderly

theorem takes_assess_of_insists (decoded : Request.decodeRaw raw payload = .ok request)
    (takes : (topology.assess service raw payload).Takes history admission) :
    (slot.answerTo agent request = .busy ∧ ∃ work, admission = .accept clock work) ∨
      admission = .status (slot.answerTo agent request) := by
  obtain ⟨permission, rest, rfl, hpermission, hrest⟩ :=
    takes_assess_of_vouched decoded vouched takes
  have hconsulted := hpermission.forall_of_asks (request.consults_permitted service)
  rw [exchanges_append, Sharing.serves_append, Sharing.after_of_consultation hconsulted] at serves
  exact takes_assessRequest_of_insists resolved (vouched_append.1 vouched).2 serves.2 toward orderly
    about insists hrest

end Resolved

end Topology

end Request

namespace Platform

variable {topology : Topology} {before after platform : Platform} {moves : List Move}
  {tables : Sharing} {device : DeviceId} {slot : Slot} {service : ServiceId} {raw : UInt32}
  {payload : Bytes} {history : History} {sent : Except TransportError Unit} {agent : AgentId}
  {clock : ResolvedClock} {status : Status}

/-- A message that needs a slot in use, or that is answered at once, leaves the platform alone. -/
theorem Received.answers_with
    (received : before.Received service raw payload history sent after)
    (busy : (before.tracker.slot? clock.record.device).isSome)
    (assessed : ∀ consulted admission, consulted <+: history →
      (before.topology.assess service raw payload).Takes consulted admission →
        (status = .busy ∧ ∃ work, admission = .accept clock work) ∨ admission = .status status) :
    replies history = [(service, .bytes (Frame.status status).bytes)] ∧ after = before := by
  have hreplies {consulted : History} {admission : Admission} {reply : Reply}
      {sent : Except TransportError Unit}
      (takes : (before.topology.assess service raw payload).Takes consulted admission) :
      replies (consulted ++ [⟨.respond service reply, sent⟩]) = [(service, reply)] := by
    rw [replies_append, replies_of_consultation (Topology.consultation_of_takes_assess takes)]
    rfl
  cases received with
  | answered takes =>
    rcases assessed _ _ (List.prefix_append _ _) takes with ⟨-, work, heq⟩ | heq
    · cases heq
    · cases heq
      exact ⟨hreplies takes, rfl⟩
  | contended takes =>
    rcases assessed _ _ (List.prefix_append _ _) takes with ⟨rfl, -⟩ | heq
    · exact ⟨hreplies takes, rfl⟩
    · exact absurd heq.symm Admission.status_ne_accept
  | claimed takes acquired =>
    rcases assessed _ _ (List.prefix_append _ _) takes with ⟨-, work, heq⟩ | heq
    · cases heq
      rw [Tracker.slot?_eq_none_of_acquire acquired] at busy
      simp at busy
    · exact absurd heq.symm Admission.status_ne_accept

theorem Received.answers_of_insists {request : Request} {index : UInt32} {target : ClockState}
    (received : before.Received service raw payload history sent after)
    (busy : before.tracker.slot? clock.record.device = some slot)
    (toward : slot.target? = some target)
    (decoded : Request.decodeRaw raw payload = .ok request) (orderly : request.isOrderly)
    (about : request.clock? = some index)
    (resolved : before.topology.resolveClock (.ok agent) index = .ok clock)
    (vouched : Vouched agent history) (serves : tables.Serves (exchanges history))
    (insists : request.message = .configSet →
      tables.Insists clock.context slot.owner.agent target) :
    replies history = [(service, .bytes (Frame.status (slot.answerTo agent request)).bytes)] ∧
      (∀ exchange ∈ history, exchange.query.isHardware = false) ∧ after = before := by
  have hassessed (consulted : History) (admission : Admission) (h : consulted <+: history)
      (takes : (before.topology.assess service raw payload).Takes consulted admission) :
      (slot.answerTo agent request = .busy ∧ ∃ work, admission = .accept clock work) ∨
        admission = .status (slot.answerTo agent request) := by
    obtain ⟨rest, rfl⟩ := h
    rw [exchanges_append, Sharing.serves_append] at serves
    exact Topology.takes_assess_of_insists resolved (vouched_append.1 vouched).1 serves.1 toward
      orderly about insists decoded takes
  have hanswers := received.answers_with (by rw [busy]; rfl) hassessed
  refine ⟨hanswers.1, ?_, hanswers.2⟩
  obtain ⟨consulted, admission, last, rfl, assessed, hlast⟩ := received.exists_assessed
  intro exchange hmem
  rcases List.mem_append.1 hmem with hmem | hmem
  · exact Topology.isHardware_eq_false_of_takes_assess decoded orderly
      (vouched_append.1 vouched).1 assessed exchange hmem
  · rw [List.mem_singleton.1 hmem]
    rcases hlast with ⟨reply, sent, rfl⟩ | ⟨notice, rfl⟩ <;> rfl

/-- An agent's clock has an entry in the tables. -/
theorem exists_state?_of_resolved {index : UInt32}
    (resolved : topology.resolveClock (.ok agent) index = .ok clock) (events : List Event) :
    ∃ held, ((Sharing.ofTopology topology).after events).state? clock.agent clock.record.device =
      some held := by
  obtain ⟨-, -, names⟩ := Topology.resolveClock_eq_ok resolved
  have hagent : clock.agent.index <
      ((Sharing.ofTopology topology).after events).states.length := by
    obtain ⟨view, record, hview, -⟩ := names
    rw [Sharing.length_states_after_ofTopology]
    exact (List.getElem?_eq_some_iff.1 hview).1
  have hdevice : clock.record.device.index <
      ((Sharing.ofTopology topology).after events).deviceCount := by
    rw [Sharing.deviceCount_after, Sharing.deviceCount_ofTopology]
    exact names.index_lt
  exact Sharing.exists_cell?_eq_some hagent hdevice

/-- An orderly request comes in while the state of its clock's device is being changed, after a run
with the sharing policy. The transport knows its sender, and no permission is denied. -/
structure DuringChange (topology : Topology) (moves : List Move) (platform : Platform) (move : Move)
    (after : Platform) (service : ServiceId) (request : Request) (agent : AgentId)
    (clock : ResolvedClock) (slot : Slot) : Prop where
  run : (start topology).Runs moves platform
  busy : platform.tracker.slot? clock.record.device = some slot
  changes : slot.kind = .setState
  takes : platform.Runs [move] after
  receives : ∃ raw payload, move.operation = .receive service raw payload ∧
    Request.decodeRaw raw payload = .ok request
  orderly : request.isOrderly
  about : ∃ index, request.clock? = some index ∧
    topology.resolveClock (.ok agent) index = .ok clock
  vouched : Vouched agent move.history
  serves : (Sharing.ofTopology topology).Serves (ClockManager.events (moves ++ [move]))

section Sample

open Bench

/-- The second agent may ask for any state of the GPU while the GPU is being started for it. -/
theorem duringChange_sample {bits : UInt32} (h : bits = 0 ∨ bits = 1) :
    DuringChange sampleTopology (sampleSession.moves [send 11 (.configSet 0 1)])
      startingSession.platform
      (startingSession.move (.receive ⟨11⟩ 7 (Request.configSet 0 bits).payload))
      (startingSession.perform (send 11 (.configSet 0 bits))).2.platform ⟨11⟩ (.configSet 0 bits)
      ⟨1⟩ ⟨⟨1⟩, 0, ⟨⟨1⟩, false⟩⟩ ⟨⟨⟨11⟩, ⟨1⟩, 0⟩, .setState, some .running⟩ where
  run := sampleSession.runs_moves _
  busy := rfl
  changes := rfl
  takes := startingSession.runs_move _
  receives := ⟨7, (Request.configSet 0 bits).payload, rfl, by rcases h with rfl | rfl <;> rfl⟩
  orderly := by rcases h with rfl | rfl <;> rfl
  about := ⟨0, rfl, rfl⟩
  vouched := by rcases h with rfl | rfl <;> exact ⟨by decide, by decide⟩
  serves := Session.serves_moves rfl [send 11 (.configSet 0 1), send 11 (.configSet 0 bits)]

end Sample

end Platform

end ClockManager
