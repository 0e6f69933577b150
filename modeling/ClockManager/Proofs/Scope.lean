import ClockManager.Proofs.Admission
import ClockManager.Proofs.Settlement
/-!
# What is asked about a clock

While a message is assessed, the policy and the hardware are asked about one clock at most: the one
that the sender means by the clock number of the message, and only once the sender has permission.
When a request ends, only the policy is asked, about the clock of the owner of the slot. Neither
claims a slot, which the log would show.
-/

namespace ClockManager

open Dialogue (call log asks_pure asks_call_bind)

/-- The device that a notice reports as claimed. -/
def Notice.claimed? : Notice → Option DeviceId
  | claimed device _ _ => some device
  | _ => none

/-- The queries by which a permitted request is assessed, when this is the clock that it is about.
Without a clock there is no question about one. -/
def Query.Assesses (clock? : Option PolicyContext) : Query → Prop
  | reviewRate context _ _ => clock? = some context
  | reviewState .pre context _ => clock? = some context
  | rateRange device => clock?.map PolicyContext.device = some device
  | rateAt device _ => clock?.map PolicyContext.device = some device
  | agentOf _ => True
  | maxPayload _ => True
  | stage _ _ _ => True
  | log notice => notice.claimed? = none
  | _ => False

/-- The queries by which a request of an owner on a device ends. -/
def Query.Ends (owner : SlotOwner) (device : DeviceId) : Query → Prop
  | reviewState .post context _ => context = owner.context device
  | respond service _ => service = owner.service
  | log notice => notice.claimed? = none
  | _ => False

/-! ### While a message is assessed -/

/-- Every query of the dialogue assesses a request about this clock. -/
abbrev Dialogue.StaysWith {α : Type} (clock? : Option PolicyContext) (d : Dialogue α) : Prop :=
  d.Asks (·.Assesses clock?)

theorem RatePage.staysWith_stage (clock? : Option PolicyContext) (page : RatePage)
    (service : ServiceId) : (page.stage service).StaysWith clock? := by
  have failed (error : TransportError) : (stagingFailed error).StaysWith clock? :=
    asks_call_bind rfl fun _ => asks_pure _
  refine asks_call_bind trivial fun staged => ?_
  cases staged with
  | error error => exact failed error
  | ok _ =>
    refine asks_call_bind trivial fun staged => ?_
    cases staged with
    | error error => exact failed error
    | ok _ => exact asks_pure _

namespace Topology

variable {topology : Topology} {service : ServiceId} {index : UInt32}
  {owner : Except TransportError AgentId} {history : History} {admission : Admission}

/-- The clock that the sender means by a number, as the policy is told of it. -/
def context? (topology : Topology) (owner : Except TransportError AgentId) (index : UInt32) :
    Option PolicyContext :=
  (topology.resolveClock owner index).toOption.map ResolvedClock.context

theorem context?_of_ok {clock : ResolvedClock} (h : topology.resolveClock owner index = .ok clock) :
    topology.context? owner index = some clock.context := by
  rw [context?, h]
  rfl

theorem context?_eq_some_iff {context : PolicyContext} :
    topology.context? owner index = some context ↔
      ∃ clock, topology.resolveClock owner index = .ok clock ∧ clock.context = context := by
  unfold context?
  cases topology.resolveClock owner index <;> simp [Except.toOption]

/-- Once the transport has named the sender, a request for a clock number stays with the clock that
the sender means by it. -/
def Scoped (topology : Topology) (service : ServiceId) (index : UInt32) (history : History) :
    Prop :=
  (∀ exchange ∈ history, exchange.query.Assesses none) ∨
    ∃ owner rest, history = ⟨.agentOf service, owner⟩ :: rest ∧
      ∀ exchange ∈ rest, exchange.query.Assesses (topology.context? owner index)

theorem scoped_of_asks {next : (Query.agentOf service).Answer → Dialogue Admission}
    (takes : (call (.agentOf service) >>= next).Takes history admission)
    (asks : ∀ owner, (next owner).StaysWith (topology.context? owner index)) :
    topology.Scoped service index history := by
  rw [Dialogue.takes_call_bind] at takes
  obtain ⟨owner, rest, rfl, takes⟩ := takes
  exact .inr ⟨owner, rest, rfl, takes.forall_of_asks (asks owner)⟩

theorem scoped_assessRead {work : Work}
    (takes : (topology.assessRead service index work).Takes history admission) :
    topology.Scoped service index history := by
  refine scoped_of_asks takes fun owner => ?_
  split
  · exact asks_pure _
  · exact asks_call_bind rfl fun _ => asks_pure _

theorem scoped_assessRateSet {bits : UInt32} {rate : UInt64}
    (takes : (topology.assessRateSet service bits index rate).Takes history admission) :
    topology.Scoped service index history := by
  unfold assessRateSet at takes
  split at takes
  · obtain ⟨rfl, -⟩ := takes
    exact .inl (by simp)
  refine scoped_of_asks takes fun owner => ?_
  split
  · exact asks_pure _
  rename_i clock hclock
  split
  · exact asks_pure _
  refine asks_call_bind (context?_of_ok hclock) fun review => ?_
  split
  · exact asks_pure _
  · exact asks_pure _
  · exact asks_call_bind rfl fun _ => asks_pure _

theorem scoped_assessConfigSet {bits : UInt32}
    (takes : (topology.assessConfigSet service index bits).Takes history admission) :
    topology.Scoped service index history := by
  unfold assessConfigSet at takes
  split at takes
  · obtain ⟨rfl, -⟩ := takes
    exact .inl (by simp)
  refine scoped_of_asks takes fun owner => ?_
  split
  · exact asks_pure _
  rename_i clock hclock
  refine asks_call_bind (context?_of_ok hclock) fun review => ?_
  split
  · exact asks_pure _
  · exact asks_pure _
  · exact asks_call_bind rfl fun _ => asks_pure _

theorem scoped_assessDescribeRates {rateIndex : UInt32}
    (takes : (topology.assessDescribeRates service index rateIndex).Takes history admission) :
    topology.Scoped service index history := by
  refine scoped_of_asks takes fun owner => ?_
  split
  · exact asks_pure _
  rename_i clock hclock
  have hdevice : (topology.context? owner index).map PolicyContext.device =
      some clock.record.device := by
    rw [context?_of_ok hclock]
    rfl
  refine asks_call_bind trivial fun maxPayload => ?_
  split
  · exact asks_pure _
  refine asks_call_bind hdevice fun range => ?_
  split
  · exact asks_call_bind rfl fun _ => asks_pure _
  refine (RatePage.asks_describe (fun _ => Dialogue.asks_call hdevice) _ _ _).bind fun page => ?_
  split
  · exact RatePage.staysWith_stage _ _ _
  · exact asks_pure _
  · exact asks_call_bind rfl fun _ => asks_pure _

theorem staysWith_assessProtocolAttributes :
    (topology.assessProtocolAttributes service).StaysWith none := by
  refine asks_call_bind trivial fun owner => ?_
  split
  · exact asks_pure _
  · exact asks_call_bind rfl fun _ => asks_pure _

/-- A request that names no clock asks about none. -/
theorem scoped_assessRequest {request : Request}
    (takes : (topology.assessRequest service request).Takes history admission) :
    (∀ exchange ∈ history, exchange.query.Assesses none) ∨
      ∃ index, request.clock? = some index ∧ topology.Scoped service index history := by
  cases request with
  | protocolVersion => exact .inl (takes.forall_of_asks (asks_pure _))
  | protocolAttributes => exact .inl (takes.forall_of_asks staysWith_assessProtocolAttributes)
  | protocolMessageAttributes => exact .inl (takes.forall_of_asks (asks_pure _))
  | clockAttributes index => exact .inr ⟨index, rfl, scoped_assessRead takes⟩
  | describeRates index => exact .inr ⟨index, rfl, scoped_assessDescribeRates takes⟩
  | rateSet bits index => exact .inr ⟨index, rfl, scoped_assessRateSet takes⟩
  | rateGet index => exact .inr ⟨index, rfl, scoped_assessRead takes⟩
  | configSet index => exact .inr ⟨index, rfl, scoped_assessConfigSet takes⟩

theorem Scoped.exists_assesses (h : topology.Scoped service index history) :
    ∀ exchange ∈ history, ∃ clock?, exchange.query.Assesses clock? := by
  rcases h with unscoped | ⟨owner, rest, rfl, hrest⟩
  · exact fun exchange hmem => ⟨none, unscoped exchange hmem⟩
  · intro exchange hmem
    rcases List.mem_cons.1 hmem with rfl | hmem
    · exact ⟨none, trivial⟩
    · exact ⟨_, hrest exchange hmem⟩

/-- Whatever is asked about a message, either it is asked whether the sender has permission, or the
request itself is assessed. -/
theorem exists_assesses_of_takes_assess {raw : UInt32} {payload : Bytes}
    (takes : (topology.assess service raw payload).Takes history admission) :
    ∀ exchange ∈ history, exchange.query.isPermission ∨
      ∃ clock?, exchange.query.Assesses clock? := by
  have permission {request : Request} {asked : History} {granted : Bool}
      (takes : (request.permitted service).Takes asked granted) :
      ∀ exchange ∈ asked, exchange.query.isPermission :=
    takes.forall_of_asks (request.asks_permitted service)
  intro exchange hmem
  cases takes_assess takes with
  | rejected =>
    rw [List.mem_singleton.1 hmem]
    exact .inr ⟨none, rfl⟩
  | denied _ refused =>
    rcases List.mem_append.1 hmem with hmem | hmem
    · exact .inl (permission refused exchange hmem)
    · rw [List.mem_singleton.1 hmem]
      exact .inr ⟨none, rfl⟩
  | permitted _ granted assessed =>
    rcases List.mem_append.1 hmem with hmem | hmem
    · exact .inl (permission granted exchange hmem)
    · rcases scoped_assessRequest assessed with unscoped | ⟨index, -, hscoped⟩
      · exact .inr ⟨none, unscoped exchange hmem⟩
      · exact .inr (hscoped.exists_assesses exchange hmem)

end Topology

/-! ### When a request ends -/

theorem Slot.asks_commit (slot : Slot) (device : DeviceId) :
    (slot.commit device).Asks (·.Ends slot.owner device) := by
  unfold commit
  split
  · exact Dialogue.asks_call rfl
  · refine asks_call_bind rfl fun review => ?_
    split
    · exact asks_pure _
    · exact Dialogue.asks_call rfl

theorem Topology.asks_resultFrame (topology : Topology) (device : DeviceId) (slot : Slot)
    (result : Except HardwareError Value) :
    (topology.resultFrame device slot result).Asks (·.Ends slot.owner device) := by
  unfold resultFrame
  split
  · exact asks_call_bind rfl fun _ => asks_pure _
  split
  · split
    · exact asks_pure _
    · exact asks_pure _
    · split
      · exact (slot.asks_commit device).bind fun _ => asks_pure _
      · exact asks_pure _
  · exact asks_call_bind rfl fun _ => asks_pure _

theorem Topology.asks_finish (topology : Topology) (tracker : Tracker) (device : DeviceId)
    (slot : Slot) (result : Except HardwareError Value) :
    (topology.finish tracker device slot result).Asks (·.Ends slot.owner device) := by
  refine (topology.asks_resultFrame device slot result).bind fun frame => ?_
  dsimp only
  split
  · exact asks_call_bind rfl fun _ => asks_call_bind rfl fun _ => asks_pure _
  · exact asks_call_bind rfl fun _ => asks_pure _

theorem Topology.ends_of_takes_finish {topology : Topology} {tracker after : Tracker}
    {device : DeviceId} {slot : Slot} {result : Except HardwareError Value} {history : History}
    {sent : Except TransportError Unit}
    (takes : (topology.finish tracker device slot result).Takes history (sent, after)) :
    ∀ exchange ∈ history, exchange.query.Ends slot.owner device :=
  takes.forall_of_asks (topology.asks_finish tracker device slot result)

end ClockManager
