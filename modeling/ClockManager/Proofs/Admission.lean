import ClockManager.Proofs.Event
import ClockManager.Admission
/-!
# What becomes of a message

`Topology.assess` only consults, whatever the message is. `takes_assess` tells its three ways apart,
and when it accepts, `takes_assess_accept` says all that must have been found on the way.
-/

namespace ClockManager

open Dialogue (call log asks_pure)

/-! ### Consultation -/

/-- Every query of the dialogue is a consultation. -/
abbrev Dialogue.Consults {α : Type} (d : Dialogue α) : Prop := d.Asks (·.isConsultation = true)

theorem consults_call {query : Query} (h : query.isConsultation = true) : (call query).Consults :=
  Dialogue.asks_call h

theorem consults_log {notice : Notice} (h : notice.isDefect = false) : (log notice).Consults :=
  Dialogue.asks_call (by rw [Query.isConsultation, h]; rfl)

/-- The queries by which the platform finds out whether a request is permitted. -/
def Query.isPermission : Query → Bool
  | agentOf _ => true
  | allowsProtocol _ _ => true
  | allowsResource _ _ _ _ => true
  | _ => false

/-- The queries by which the platform finds out about a request itself: who has sent it, and what
the policy makes of it. -/
def Query.isInquiry : Query → Bool
  | agentOf _ => true
  | reviewRate _ _ _ => true
  | reviewState .pre _ _ => true
  | log notice => !notice.isDefect
  | _ => false

/-- Every query of the dialogue is an inquiry. -/
abbrev Dialogue.Inquires {α : Type} (d : Dialogue α) : Prop := d.Asks (·.isInquiry = true)

theorem Dialogue.Inquires.consults {α : Type} {d : Dialogue α} (h : d.Inquires) : d.Consults := by
  refine h.imp fun query hquery => ?_
  cases query with
  | reviewState phase => cases phase <;> simp_all [Query.isInquiry, Query.isConsultation]
  | _ => simp_all [Query.isInquiry, Query.isConsultation]

theorem inquires_call {query : Query} (h : query.isInquiry = true) : (call query).Inquires :=
  Dialogue.asks_call h

theorem inquires_log {notice : Notice} (h : notice.isDefect = false) : (log notice).Inquires :=
  Dialogue.asks_call (by rw [Query.isInquiry, h]; rfl)

theorem Request.asks_permitted (request : Request) (service : ServiceId) :
    (request.permitted service).Asks (·.isPermission = true) := by
  have ask {query : Query} (h : query.isPermission = true) :
      (call query).Asks (·.isPermission = true) := Dialogue.asks_call h
  refine (ask rfl).bind fun owner => ?_
  match owner, request.clock? with
  | .error _, _ => exact asks_pure _
  | .ok _, none => exact ask rfl
  | .ok _, some _ => exact ask rfl

theorem Request.consults_permitted (request : Request) (service : ServiceId) :
    (request.permitted service).Consults := by
  refine (request.asks_permitted service).imp fun query h => ?_
  cases query <;> simp_all [Query.isPermission, Query.isConsultation]

namespace RatePage

theorem asks_readRates {p : Query → Prop}
    {rateAt : UInt32 → Dialogue (Except HardwareError UInt64)} (h : ∀ index, (rateAt index).Asks p)
    (indices : List UInt32) : (readRates rateAt indices).Asks p := by
  induction indices with
  | nil => exact asks_pure _
  | cons index rest ih =>
    refine (h index).bind fun rate => ?_
    cases rate with
    | error _ => exact asks_pure _
    | ok rate =>
      refine ih.bind fun rates => ?_
      cases rates <;> exact asks_pure _

theorem asks_describe {p : Query → Prop}
    {rateAt : UInt32 → Dialogue (Except HardwareError UInt64)} (h : ∀ index, (rateAt index).Asks p)
    (range : RateRange) (start : UInt32) (capacity : Nat) :
    (describe range start capacity rateAt).Asks p := by
  cases range with
  | discrete count =>
    dsimp only [describe]
    split
    · exact asks_pure _
    split
    · exact asks_pure _
    split
    · exact asks_pure _
    refine (asks_readRates h _).bind fun rates => ?_
    cases rates <;> exact asks_pure _
  | linear min max step =>
    dsimp only [describe]
    split <;> exact asks_pure _

theorem consults_stagingFailed (error : TransportError) : (stagingFailed error).Consults :=
  (consults_log rfl).bind fun _ => asks_pure _

theorem consults_stage (page : RatePage) (service : ServiceId) :
    (page.stage service).Consults := by
  refine (consults_call rfl).bind fun staged => ?_
  cases staged with
  | error error => exact consults_stagingFailed error
  | ok _ =>
    refine (consults_call rfl).bind fun staged => ?_
    cases staged with
    | error error => exact consults_stagingFailed error
    | ok _ => exact asks_pure _

end RatePage

namespace Topology

variable {topology : Topology} {service : ServiceId}

theorem consults_assessProtocolAttributes :
    (topology.assessProtocolAttributes service).Consults := by
  refine (consults_call rfl).bind fun owner => ?_
  split
  · exact asks_pure _
  · exact (consults_log rfl).bind fun _ => asks_pure _

theorem inquires_assessRead (index : UInt32) (work : Work) :
    (topology.assessRead service index work).Inquires := by
  refine (inquires_call rfl).bind fun owner => ?_
  split
  · exact asks_pure _
  · exact (inquires_log rfl).bind fun _ => asks_pure _

theorem inquires_assessRateSet (bits index : UInt32) (rate : UInt64) :
    (topology.assessRateSet service bits index rate).Inquires := by
  unfold assessRateSet
  split
  · exact asks_pure _
  refine (inquires_call rfl).bind fun owner => ?_
  split
  · exact asks_pure _
  split
  · exact asks_pure _
  refine (inquires_call rfl).bind fun review => ?_
  split
  · exact asks_pure _
  · exact asks_pure _
  · exact (inquires_log rfl).bind fun _ => asks_pure _

theorem inquires_assessConfigSet (index bits : UInt32) :
    (topology.assessConfigSet service index bits).Inquires := by
  unfold assessConfigSet
  split
  · exact asks_pure _
  refine (inquires_call rfl).bind fun owner => ?_
  split
  · exact asks_pure _
  refine (inquires_call rfl).bind fun review => ?_
  split
  · exact asks_pure _
  · exact asks_pure _
  · exact (inquires_log rfl).bind fun _ => asks_pure _

theorem consults_assessDescribeRates (index rateIndex : UInt32) :
    (topology.assessDescribeRates service index rateIndex).Consults := by
  refine (consults_call rfl).bind fun owner => ?_
  split
  · exact asks_pure _
  refine (consults_call rfl).bind fun maxPayload => ?_
  split
  · exact asks_pure _
  refine (consults_call rfl).bind fun range => ?_
  split
  · exact (consults_log rfl).bind fun _ => asks_pure _
  refine (RatePage.asks_describe (fun _ => consults_call rfl) _ _ _).bind fun page => ?_
  split
  · exact RatePage.consults_stage _ _
  · exact asks_pure _
  · exact (consults_log rfl).bind fun _ => asks_pure _

/-- Nothing but consultation stands between a message and the decision about it. -/
theorem consults_assess (raw : UInt32) (payload : Bytes) :
    (topology.assess service raw payload).Consults := by
  unfold assess
  split
  · exact (consults_log rfl).bind fun _ => asks_pure _
  rename_i request _
  refine (request.consults_permitted service).bind fun permitted => ?_
  split
  · cases request with
    | protocolVersion => exact asks_pure _
    | protocolAttributes => exact consults_assessProtocolAttributes
    | protocolMessageAttributes message => exact asks_pure _
    | clockAttributes clock => exact (inquires_assessRead _ _).consults
    | describeRates clock rateIndex => exact consults_assessDescribeRates _ _
    | rateSet flags clock rate => exact (inquires_assessRateSet _ _ _).consults
    | rateGet clock => exact (inquires_assessRead _ _).consults
    | configSet clock attributes => exact (inquires_assessConfigSet _ _).consults
  · exact (consults_log rfl).bind fun _ => asks_pure _

theorem consultation_of_takes_assess {raw : UInt32} {payload : Bytes} {history : History}
    {admission : Admission}
    (takes : (topology.assess service raw payload).Takes history admission) :
    Consultation history :=
  takes.forall_of_asks (consults_assess raw payload)

end Topology

/-! ### From a message to its request -/

/-- The exchange in which an agent is allowed or refused the request. -/
def Request.asked (request : Request) (agent : AgentId) (granted : Bool) : Exchange :=
  match request.clock? with
  | none => ⟨.allowsProtocol agent protocolId, granted⟩
  | some index => ⟨.allowsResource agent protocolId request.message.raw index, granted⟩

theorem Request.takes_permitted {request : Request} {service : ServiceId} {permission : History}
    {granted : Bool} (takes : (request.permitted service).Takes permission granted) :
    (∃ error, permission = [⟨.agentOf service, .error error⟩] ∧ granted = false) ∨
      ∃ agent, permission = [⟨.agentOf service, .ok agent⟩, request.asked agent granted] := by
  unfold permitted at takes
  rw [Dialogue.takes_call_bind] at takes
  obtain ⟨owner, rest, rfl, takes⟩ := takes
  cases owner with
  | error error =>
    obtain ⟨rfl, rfl⟩ := takes
    exact .inl ⟨error, rfl, rfl⟩
  | ok agent =>
    refine .inr ⟨agent, ?_⟩
    cases hclock : request.clock? with
    | none =>
      rw [hclock] at takes
      rw [Dialogue.takes_call.1 takes, asked, hclock]
    | some index =>
      rw [hclock] at takes
      rw [Dialogue.takes_call.1 takes, asked, hclock]

/-- How a message is assessed: it is no request, or the sender may not make the request, or the
request itself is assessed. -/
inductive Topology.Assessed (topology : Topology) (service : ServiceId) (raw : UInt32)
    (payload : Bytes) : History → Admission → Prop where
  | rejected {error : DecodeError} (undecoded : Request.decodeRaw raw payload = .error error) :
      Assessed topology service raw payload [⟨.log (.rejected raw service error), ()⟩]
        (.status error.status)
  | denied {request : Request} {permission : History}
      (decoded : Request.decodeRaw raw payload = .ok request)
      (refused : (request.permitted service).Takes permission false) :
      Assessed topology service raw payload
        (permission ++ [⟨.log (.denied request.message service), ()⟩]) (.status .denied)
  | permitted {request : Request} {permission rest : History} {admission : Admission}
      (decoded : Request.decodeRaw raw payload = .ok request)
      (granted : (request.permitted service).Takes permission true)
      (assessed : (topology.assessRequest service request).Takes rest admission) :
      Assessed topology service raw payload (permission ++ rest) admission

theorem Topology.takes_assess {topology : Topology} {service : ServiceId} {raw : UInt32}
    {payload : Bytes} {history : History} {admission : Admission}
    (takes : (topology.assess service raw payload).Takes history admission) :
    topology.Assessed service raw payload history admission := by
  unfold assess at takes
  split at takes
  · rename_i error hundecoded
    rw [Dialogue.takes_log_bind] at takes
    obtain ⟨rest, rfl, rfl, rfl⟩ := takes
    exact .rejected hundecoded
  · rename_i request hdecoded
    rw [Dialogue.takes_bind] at takes
    obtain ⟨permission, rest, granted, rfl, hpermitted, takes⟩ := takes
    cases granted with
    | true => exact .permitted hdecoded hpermitted takes
    | false =>
      obtain ⟨last, rfl, rfl, rfl⟩ := Dialogue.takes_log_bind.1 takes
      exact .denied hdecoded hpermitted

/-! ### Pages -/

/-- The queries by which something is staged. -/
def Query.isStage : Query → Bool
  | stage _ _ _ => true
  | _ => false

/-- How a page is staged: the writes that are made, up to one that fails, and what is answered. -/
inductive RatePage.Written (page : RatePage) (service : ServiceId) : History → Admission → Prop where
  | entriesFailed {error : TransportError} :
      Written page service
        [⟨.stage service headerSize page.entries, .error error⟩, ⟨.log (.stagingFailed error), ()⟩]
        (.status .genericError)
  | headerFailed {error : TransportError} :
      Written page service
        [⟨.stage service headerSize page.entries, .ok ()⟩,
          ⟨.stage service 0 page.header, .error error⟩, ⟨.log (.stagingFailed error), ()⟩]
        (.status .genericError)
  | complete :
      Written page service
        [⟨.stage service headerSize page.entries, .ok ()⟩, ⟨.stage service 0 page.header, .ok ()⟩]
        (.answer (.staged (headerSize + page.entriesSize)))

theorem RatePage.takes_stage {page : RatePage} {service : ServiceId} {history : History}
    {admission : Admission} (takes : (page.stage service).Takes history admission) :
    page.Written service history admission := by
  unfold stage stagingFailed at takes
  rw [Dialogue.takes_call_bind] at takes
  obtain ⟨entries, rest, rfl, takes⟩ := takes
  cases entries with
  | error error =>
    obtain ⟨rest, rfl, rfl, rfl⟩ := Dialogue.takes_log_bind.1 takes
    exact .entriesFailed
  | ok _ =>
    dsimp only at takes
    rw [Dialogue.takes_call_bind] at takes
    obtain ⟨header, rest, rfl, takes⟩ := takes
    cases header with
    | error error =>
      obtain ⟨rest, rfl, rfl, rfl⟩ := Dialogue.takes_log_bind.1 takes
      exact .headerFailed
    | ok _ =>
      obtain ⟨rfl, rfl⟩ := takes
      exact .complete

/-! ### Acceptance -/

@[simp] theorem Admission.frame_ne_accept {frame : Frame} {clock : ResolvedClock} {work : Work} :
    Admission.frame frame ≠ .accept clock work := nofun

@[simp] theorem Admission.status_ne_accept {status : Status} {clock : ResolvedClock} {work : Work} :
    Admission.status status ≠ .accept clock work := nofun

theorem Admission.messageAttributes_ne_accept {message : UInt32} {clock : ResolvedClock}
    {work : Work} : Admission.messageAttributes message ≠ .accept clock work := by
  unfold messageAttributes
  split <;> simp

/-- The agent's clock of that number stands for the device. -/
def Topology.Names (topology : Topology) (agent : AgentId) (index : UInt32) (device : DeviceId) :
    Prop :=
  ∃ view record, topology.agent? agent = some view ∧ view.clock? index = some record ∧
    record.device = device

theorem Topology.Names.index_lt {topology : Topology} {agent : AgentId} {index : UInt32}
    {device : DeviceId} (h : topology.Names agent index device) :
    device.index < topology.deviceCount := by
  obtain ⟨view, record, hview, hrecord, rfl⟩ := h
  exact topology.devices_known view (List.mem_of_getElem? hview) record
    (List.mem_of_getElem? hrecord)

/-- The reviews that a request about `clock` has passed, and the work it has become by them. -/
inductive Request.Passes (clock : ResolvedClock) : Request → History → Work → Prop where
  | clockAttributes : Passes clock (.clockAttributes clock.index) [] .getState
  | rateGet : Passes clock (.rateGet clock.index) [] .getRate
  | rateSet {bits : UInt32} {rate : UInt64} {flags : RateFlags} {review : RateReview}
      (known : RateFlags.ofBits? bits = some flags) (atOnce : flags.async = false)
      (proceeds : review.verdict = .ok .proceed) :
      Passes clock (.rateSet bits clock.index rate)
        [⟨.reviewRate clock.context rate flags.rounding, review⟩]
        (.setRate review.rate review.rounding)
  | configSet {bits : UInt32} {state : ClockState} {review : StateReview}
      (known : ConfigAttributes.ofBits? bits = some state)
      (proceeds : review.verdict = .ok .proceed) :
      Passes clock (.configSet clock.index bits) [⟨.reviewState .pre clock.context state, review⟩]
        (.setState review.state)

theorem Request.Passes.owners_eq_nil {request : Request} {clock : ResolvedClock} {reviews : History}
    {work : Work} (h : request.Passes clock reviews work) : owners reviews = [] := by
  cases h <;> rfl

/-- The transport is last asked about the sender just before the reviews. -/
theorem Request.Passes.owner?_eq {request : Request} {clock : ResolvedClock} {reviews : History}
    {work : Work} (h : request.Passes clock reviews work) (permission : History)
    (service : ServiceId) (owner : Except TransportError AgentId) (notice : Notice) :
    owner? (permission ++ ⟨.agentOf service, owner⟩ :: reviews ++ [⟨.log notice, ()⟩]) =
      some owner := by
  have hrest : owners (reviews ++ [⟨.log notice, ()⟩]) = [] := by
    rw [owners_append, h.owners_eq_nil]
    rfl
  rw [List.append_assoc]
  exact owner?_of_owners_eq_nil hrest permission service owner

namespace Topology

variable {topology : Topology} {service : ServiceId} {history : History} {clock : ResolvedClock}
  {work : Work}

theorem resolveClock_eq_ok {owner : Except TransportError AgentId} {index : UInt32}
    (h : topology.resolveClock owner index = .ok clock) :
    clock.index = index ∧ owner = .ok clock.agent ∧
      topology.Names clock.agent clock.index clock.record.device := by
  unfold resolveClock resolveAgent at h
  split at h
  · simp at h
  · rename_i agent view hview
    split at hview
    · simp at hview
    · split at hview
      · simp at hview
      · split at h
        · simp at h
        · simp only [Except.ok.injEq, Prod.mk.injEq] at hview h
          obtain ⟨rfl, rfl⟩ := hview
          subst h
          exact ⟨rfl, rfl, _, _, by assumption, by assumption, rfl⟩

theorem takes_assessRead_accept {index : UInt32} {read : Work}
    (takes : (topology.assessRead service index read).Takes history (.accept clock work)) :
    ∃ owner, history = [⟨.agentOf service, owner⟩] ∧
      topology.resolveClock owner index = .ok clock ∧ work = read := by
  unfold assessRead at takes
  rw [Dialogue.takes_call_bind] at takes
  obtain ⟨owner, rest, rfl, takes⟩ := takes
  split at takes
  · rename_i hclock
    rw [Dialogue.takes_pure, Admission.accept.injEq] at takes
    obtain ⟨rfl, rfl, rfl⟩ := takes
    exact ⟨owner, rfl, hclock, rfl⟩
  · simp at takes

theorem takes_assessRateSet_accept {bits index : UInt32} {rate : UInt64}
    (takes : (topology.assessRateSet service bits index rate).Takes history
      (.accept clock work)) :
    ∃ owner reviews, history = ⟨.agentOf service, owner⟩ :: reviews ∧
      topology.resolveClock owner index = .ok clock ∧
      Request.Passes clock (.rateSet bits clock.index rate) reviews work := by
  unfold assessRateSet at takes
  split at takes
  · simp at takes
  rename_i flags hflags
  rw [Dialogue.takes_call_bind] at takes
  obtain ⟨owner, rest, rfl, takes⟩ := takes
  split at takes
  · simp at takes
  rename_i found hclock
  split at takes
  · simp at takes
  rename_i hasync
  rw [Dialogue.takes_call_bind] at takes
  obtain ⟨review, rest, rfl, takes⟩ := takes
  split at takes
  · rename_i hverdict
    rw [Dialogue.takes_pure, Admission.accept.injEq] at takes
    obtain ⟨rfl, rfl, rfl⟩ := takes
    exact ⟨owner, _, rfl, hclock, .rateSet hflags (by simpa using hasync) hverdict⟩
  · simp at takes
  · simp at takes

theorem takes_assessConfigSet_accept {bits index : UInt32}
    (takes : (topology.assessConfigSet service index bits).Takes history (.accept clock work)) :
    ∃ owner reviews, history = ⟨.agentOf service, owner⟩ :: reviews ∧
      topology.resolveClock owner index = .ok clock ∧
      Request.Passes clock (.configSet clock.index bits) reviews work := by
  unfold assessConfigSet at takes
  split at takes
  · simp at takes
  rename_i state hstate
  rw [Dialogue.takes_call_bind] at takes
  obtain ⟨owner, rest, rfl, takes⟩ := takes
  split at takes
  · simp at takes
  rename_i found hclock
  rw [Dialogue.takes_call_bind] at takes
  obtain ⟨review, rest, rfl, takes⟩ := takes
  split at takes
  · rename_i hverdict
    rw [Dialogue.takes_pure, Admission.accept.injEq] at takes
    obtain ⟨rfl, rfl, rfl⟩ := takes
    exact ⟨owner, _, rfl, hclock, .configSet hstate hverdict⟩
  · simp at takes
  · simp at takes

theorem not_takes_assessProtocolAttributes_accept :
    ¬ (topology.assessProtocolAttributes service).Takes history (.accept clock work) := by
  unfold assessProtocolAttributes
  intro takes
  rw [Dialogue.takes_call_bind] at takes
  obtain ⟨owner, rest, rfl, takes⟩ := takes
  split at takes <;> simp at takes

/-- How a request for a page goes: it is refused before anything is staged, or the hardware describes
the page of the device that the sender means, and the page is staged. -/
inductive Paged (topology : Topology) (service : ServiceId) (index start : UInt32) :
    History → Admission → Prop where
  | refused {asked : History} {status : Status}
      (unstaged : ∀ exchange ∈ asked, exchange.query.isStage = false) (failed : status ≠ .success) :
      Paged topology service index start asked (.status status)
  | described {agent : AgentId} {device : DeviceId} {maxPayload : Nat} {range : RateRange}
      {reads writes : History} {page : RatePage} {admission : Admission}
      (names : topology.Names agent index device)
      (described : (RatePage.describe range start (RatePage.capacity maxPayload)
        fun index => Dialogue.call (.rateAt device index)).Takes reads (.ok page))
      (written : page.Written service writes admission) :
      Paged topology service index start
        (⟨.agentOf service, .ok agent⟩ :: ⟨.maxPayload service, .ok maxPayload⟩ ::
          ⟨.rateRange device, .ok range⟩ :: (reads ++ writes))
        admission

theorem takes_assessDescribeRates {index start : UInt32} {admission : Admission}
    (takes : (topology.assessDescribeRates service index start).Takes history admission) :
    topology.Paged service index start history admission := by
  unfold assessDescribeRates at takes
  rw [Dialogue.takes_call_bind] at takes
  obtain ⟨owner, rest, rfl, takes⟩ := takes
  split at takes
  · obtain ⟨rfl, rfl⟩ := takes
    exact .refused (by simp [Query.isStage]) nofun
  rename_i clock hclock
  obtain ⟨rfl, rfl, names⟩ := resolveClock_eq_ok hclock
  rw [Dialogue.takes_call_bind] at takes
  obtain ⟨limit, rest, rfl, takes⟩ := takes
  split at takes
  · obtain ⟨rfl, rfl⟩ := takes
    exact .refused (by simp [Query.isStage]) nofun
  rename_i maxPayload
  rw [Dialogue.takes_call_bind] at takes
  obtain ⟨range, rest, rfl, takes⟩ := takes
  split at takes
  · obtain ⟨rest, rfl, rfl, rfl⟩ := Dialogue.takes_log_bind.1 takes
    exact .refused (by simp [Query.isStage]) nofun
  rename_i range
  rw [Dialogue.takes_bind] at takes
  obtain ⟨reads, rest, described?, rfl, described, takes⟩ := takes
  have ask (index : UInt32) :
      (call (.rateAt clock.record.device index)).Asks (·.isStage = false) := Dialogue.asks_call rfl
  have hreads : ∀ exchange ∈ reads, exchange.query.isStage = false :=
    described.forall_of_asks (RatePage.asks_describe ask _ _ _)
  split at takes
  · exact .described names described (RatePage.takes_stage takes)
  · obtain ⟨rfl, rfl⟩ := takes
    refine .refused ?_ nofun
    simpa [Query.isStage] using hreads
  · obtain ⟨rest, rfl, rfl, rfl⟩ := Dialogue.takes_log_bind.1 takes
    refine .refused ?_ nofun
    simpa [Query.isStage, or_imp, forall_and] using hreads

theorem not_takes_assessDescribeRates_accept {index rateIndex : UInt32} :
    ¬ (topology.assessDescribeRates service index rateIndex).Takes history
      (.accept clock work) := by
  intro takes
  generalize hadmission : Admission.accept clock work = admission at takes
  cases takes_assessDescribeRates takes with
  | refused => cases hadmission
  | described _ _ written =>
    cases written <;> cases hadmission

/-- A message that becomes work is well formed, its sender has permission, its clock number is one
of the sender's, and it has passed the reviews of its kind of request. -/
theorem takes_assess_accept {raw : UInt32} {payload : Bytes}
    (takes : (topology.assess service raw payload).Takes history (.accept clock work)) :
    ∃ request permission owner reviews, Request.decodeRaw raw payload = .ok request ∧
      (request.permitted service).Takes permission true ∧
      topology.resolveClock owner clock.index = .ok clock ∧
      request.Passes clock reviews work ∧
      history = permission ++ ⟨.agentOf service, owner⟩ :: reviews := by
  cases takes_assess takes with
  | @permitted request permission rest _ hrequest hpermitted htail =>
    refine ⟨request, permission, ?_⟩
    cases request with
    | protocolVersion => simp [assessRequest] at htail
    | protocolAttributes => exact absurd htail not_takes_assessProtocolAttributes_accept
    | protocolMessageAttributes message =>
      exact absurd htail.2 Admission.messageAttributes_ne_accept
    | clockAttributes index =>
      obtain ⟨owner, rfl, hclock, rfl⟩ := takes_assessRead_accept htail
      obtain ⟨rfl, _⟩ := resolveClock_eq_ok hclock
      exact ⟨owner, [], hrequest, hpermitted, hclock, .clockAttributes, rfl⟩
    | describeRates index rateIndex =>
      exact absurd htail not_takes_assessDescribeRates_accept
    | rateSet bits index rate =>
      obtain ⟨owner, reviews, rfl, hclock, hpasses⟩ := takes_assessRateSet_accept htail
      obtain ⟨rfl, _⟩ := resolveClock_eq_ok hclock
      exact ⟨owner, reviews, hrequest, hpermitted, hclock, hpasses, rfl⟩
    | rateGet index =>
      obtain ⟨owner, rfl, hclock, rfl⟩ := takes_assessRead_accept htail
      obtain ⟨rfl, _⟩ := resolveClock_eq_ok hclock
      exact ⟨owner, [], hrequest, hpermitted, hclock, .rateGet, rfl⟩
    | configSet index bits =>
      obtain ⟨owner, reviews, rfl, hclock, hpasses⟩ := takes_assessConfigSet_accept htail
      obtain ⟨rfl, _⟩ := resolveClock_eq_ok hclock
      exact ⟨owner, reviews, hrequest, hpermitted, hclock, hpasses, rfl⟩

end Topology
end ClockManager
