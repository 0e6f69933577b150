import ClockManager.Proofs.Bench
import ClockManager.Proofs.Platform.Errands
import ClockManager.Proofs.Request
/-!
# Nothing without permission

The policy and the hardware are only troubled for messages whose senders have permission, and only
about what the senders name: each question to the policy, each slot that is claimed and each call on
the hardware can be traced back to a message whose channel belongs to a known agent, that the agent
was allowed to send about this clock, and whose clock number means this device among the clocks of
that agent. The permission is asked for when the message comes in, and the effects may come much
later; what connects them is the slot, which `Charged` ties to the message.

This needs a transport that always names the same agent for a channel, since it is asked twice.
-/

namespace ClockManager

/-! ### What needs permission -/

/-- The queries that need permission: questions to the policy, all that is asked of the hardware,
and the notice of a slot that has been claimed. -/
def Query.isPrivileged : Query → Bool
  | reviewRate _ _ _ => true
  | reviewState _ _ _ => true
  | getState _ => true
  | getRate _ => true
  | setRate _ _ _ => true
  | setState _ _ => true
  | rateRange _ => true
  | rateAt _ _ => true
  | log notice => notice.claimed?.isSome
  | _ => false

/-- If the query is about a clock or a device, then it is about this clock and its device. -/
def Query.IsAbout (context : PolicyContext) : Query → Prop
  | reviewRate about _ _ => about = context
  | reviewState _ about _ => about = context
  | getState device => device = context.device
  | getRate device => device = context.device
  | setRate device _ _ => device = context.device
  | setState device _ => device = context.device
  | rateRange device => device = context.device
  | rateAt device _ => device = context.device
  | log notice => ∀ device ∈ notice.claimed?, device = context.device
  | _ => True

/-- The device whose slot has brought the query about. Other queries are made while a message is
assessed. -/
def Query.held? : Query → Option DeviceId
  | reviewState .post context _ => some context.device
  | getState device => some device
  | getRate device => some device
  | setRate device _ _ => some device
  | setState device _ => some device
  | _ => none

theorem Query.not_isPrivileged_of_isPermission {query : Query} (h : query.isPermission) :
    query.isPrivileged = false := by
  cases query <;> simp_all [isPermission, isPrivileged]

theorem Query.Assesses.exists_isAbout {query : Query} {clock? : Option PolicyContext}
    (h : query.Assesses clock?) (privileged : query.isPrivileged) :
    query.held? = none ∧ ∃ context, clock? = some context ∧ query.IsAbout context := by
  cases query with
  | reviewRate context => exact ⟨rfl, context, h, rfl⟩
  | reviewState phase context =>
    cases phase with
    | pre => exact ⟨rfl, context, h, rfl⟩
    | post => exact absurd h id
  | rateRange device =>
    obtain ⟨context, hclock, hdevice⟩ := Option.map_eq_some_iff.1 h
    exact ⟨rfl, context, hclock, hdevice.symm⟩
  | rateAt device index =>
    obtain ⟨context, hclock, hdevice⟩ := Option.map_eq_some_iff.1 h
    exact ⟨rfl, context, hclock, hdevice.symm⟩
  | log notice =>
    have hnone : notice.claimed? = none := h
    simp [isPrivileged, hnone] at privileged
  | _ => simp_all [Assesses, isPrivileged]

theorem Query.Ends.isAbout {query : Query} {owner : SlotOwner} {device : DeviceId}
    (h : query.Ends owner device) (privileged : query.isPrivileged) :
    query.held? = some device ∧ query.IsAbout (owner.context device) := by
  cases query with
  | reviewState phase context =>
    cases phase with
    | pre => exact absurd h id
    | post =>
      have hcontext : context = owner.context device := h
      rw [hcontext]
      exact ⟨rfl, rfl⟩
  | log notice =>
    have hnone : notice.claimed? = none := h
    simp [isPrivileged, hnone] at privileged
  | _ => simp_all [Ends, isPrivileged]

theorem Exchange.isAbout_of_touch? {exchange : Exchange} {touch : Touch}
    (h : exchange.touch? = some touch) :
    exchange.query.held? = some touch.device ∧
      ∀ context : PolicyContext, context.device = touch.device →
        exchange.query.IsAbout context := by
  obtain ⟨device, work, settled?⟩ := touch
  obtain ⟨query, answer⟩ := exchange
  cases query <;>
    simp only [touch?, Option.some.injEq, Touch.mk.injEq, reduceCtorEq] at h <;>
  · obtain ⟨rfl, -⟩ := h
    exact ⟨rfl, fun context hdevice => hdevice.symm⟩

namespace Errand

/-- The errand that a query is made for. -/
def Bears (errand : Errand) (past : List Event) (query : Query) : Prop :=
  match query.held? with
  | some device => errand.Holds device past
  | none => errand.IsLatest past

theorem Bears.unique {errand other : Errand} {past : List Event} {query : Query}
    (h : errand.Bears past query) (hother : other.Bears past query) : errand = other := by
  unfold Bears at h hother
  cases hheld : query.held? with
  | none =>
    rw [hheld] at h hother
    exact h.unique hother
  | some device =>
    rw [hheld] at h hother
    exact h.unique hother

/-- The message is about the clock: its channel belongs to the agent, it names the clock by the
agent's number, the agent was allowed to send it about that clock, and the number is one of the
agent's clocks and stands for the device. -/
structure Entitled (topology : Topology) (agents : ServiceId → Except TransportError AgentId)
    (errand : Errand) (context : PolicyContext) : Prop where
  sender : agents errand.service = .ok context.agent
  named : ∃ request, Request.decodeRaw errand.raw errand.payload = .ok request ∧
    request.clock? = some context.clock
  allowed : ⟨.allowsResource context.agent protocolId errand.raw context.clock, true⟩ ∈ errand.heard
  stands : topology.Names context.agent context.clock context.device

end Errand

/-- The transport has always said the same of whom a channel belongs to. -/
def Steady (agents : ServiceId → Except TransportError AgentId) (events : List Event) : Prop :=
  ∀ service owner, .exchange ⟨.agentOf service, owner⟩ ∈ events → owner = agents service

/-- If the event has the transport say whom a channel belongs to, then it says this. -/
def Event.isSteady (agents : ServiceId → Except TransportError AgentId) : Event → Bool
  | exchange ⟨.agentOf service, answer⟩ => matching (agents service) answer
  | _ => true
where
  matching (expected found : Except TransportError AgentId) : Bool := found = expected

theorem all_isSteady_iff {agents : ServiceId → Except TransportError AgentId}
    {events : List Event} : events.all (Event.isSteady agents) ↔ Steady agents events := by
  rw [List.all_eq_true]
  constructor
  · intro h service owner hmem
    simpa [Event.isSteady, Event.isSteady.matching] using h _ hmem
  · intro h event hmem
    unfold Event.isSteady
    split
    · simpa [Event.isSteady.matching] using h _ _ hmem
    · rfl

instance (agents : ServiceId → Except TransportError AgentId) (events : List Event) :
    Decidable (Steady agents events) :=
  decidable_of_iff _ all_isSteady_iff

theorem steady_append {agents : ServiceId → Except TransportError AgentId}
    {events more : List Event} :
    Steady agents (events ++ more) ↔ Steady agents events ∧ Steady agents more := by
  simp only [Steady, List.mem_append, or_imp, forall_and]

theorem steady_exchanges {agents : ServiceId → Except TransportError AgentId} {history : History} :
    Steady agents (exchanges history) ↔
      ∀ service owner, ⟨.agentOf service, owner⟩ ∈ history → owner = agents service := by
  simp [Steady, exchanges]

/-! ### From a message to its request -/

/-- The three messages with the lowest numbers are those that name no clock. -/
theorem Request.clock?_eq_none_iff {raw : UInt32} {payload : Bytes} {request : Request}
    (h : Request.decodeRaw raw payload = .ok request) : request.clock? = none ↔ raw ≤ 2 := by
  rw [← message_raw_of_decodeRaw h]
  cases request <;> simp [clock?, message, Message.raw]

/-- The exchange is a request for permission that was refused. -/
def Exchange.isRefusal : Exchange → Bool
  | ⟨.allowsProtocol _ _, granted⟩ => !granted
  | ⟨.allowsResource _ _ _ _, granted⟩ => !granted
  | _ => false

theorem Exchange.isRefusal_of_assesses {exchange : Exchange} {clock? : Option PolicyContext}
    (h : exchange.query.Assesses clock?) : exchange.isRefusal = false := by
  obtain ⟨query, answer⟩ := exchange
  cases query <;> simp_all [Query.Assesses, isRefusal]

theorem Request.isRefusal_asked (request : Request) (agent : AgentId) (granted : Bool) :
    (request.asked agent granted).isRefusal = !granted := by
  unfold asked
  split <;> rfl

/-! ### While a message is assessed -/

section Assessment

variable {topology : Topology} {agents : ServiceId → Except TransportError AgentId}
  {service : ServiceId} {raw : UInt32} {payload : Bytes} {request : Request}
  {permission consulted heard : History} {admission : Admission}

/-- Who has permission is an agent that the transport has named, and that was allowed. -/
theorem Request.exists_asked (granted : (request.permitted service).Takes permission true)
    (steady : Steady agents (exchanges permission)) :
    ∃ agent, agents service = .ok agent ∧ request.asked agent true ∈ permission := by
  rcases takes_permitted granted with ⟨error, -, hfalse⟩ | ⟨agent, rfl⟩
  · simp at hfalse
  · refine ⟨agent, ?_, by simp⟩
    exact (steady_exchanges.1 steady service (.ok agent) (by simp)).symm

theorem Topology.entitled {index : UInt32} {context : PolicyContext}
    (decoded : Request.decodeRaw raw payload = .ok request)
    (named : request.clock? = some index)
    (granted : (request.permitted service).Takes permission true)
    (steady : Steady agents (exchanges permission))
    (resolved : topology.context? (agents service) index = some context)
    (hheard : ∀ exchange ∈ permission, exchange ∈ heard) :
    Errand.Entitled topology agents ⟨service, raw, payload, heard⟩ context := by
  obtain ⟨agent, hagent, hasked⟩ := Request.exists_asked granted steady
  obtain ⟨clock, hclock, rfl⟩ := context?_eq_some_iff.1 resolved
  obtain ⟨rfl, howner, hnames⟩ := resolveClock_eq_ok hclock
  cases hagent.symm.trans howner
  refine ⟨hagent, ⟨request, decoded, named⟩, hheard _ ?_, hnames⟩
  rw [Request.asked, named] at hasked
  rw [← Request.message_raw_of_decodeRaw decoded]
  exact hasked

/-- Nothing privileged is asked about a message before its sender has been found to have permission,
and then it is about the clock that the message names. -/
theorem Topology.entitled_of_takes_assess {exchange : Exchange} {later : History}
    (assessed : (topology.assess service raw payload).Takes consulted admission)
    (steady : Steady agents (exchanges consulted)) (split : consulted = heard ++ exchange :: later)
    (privileged : exchange.query.isPrivileged) :
    exchange.query.held? = none ∧ ∃ context,
      Errand.Entitled topology agents ⟨service, raw, payload, heard⟩ context ∧
        exchange.query.IsAbout context := by
  have notPermission {asked : Request} {permission : History} {granted : Bool}
      (takes : (asked.permitted service).Takes permission granted) : exchange ∉ permission := by
    intro hmem
    have hquery := takes.forall_of_asks (asked.asks_permitted service) exchange hmem
    rw [Query.not_isPrivileged_of_isPermission hquery] at privileged
    simp at privileged
  have hmem : exchange ∈ consulted := by simp [split]
  cases takes_assess assessed with
  | rejected =>
    rw [List.mem_singleton.1 hmem] at privileged
    simp [Query.isPrivileged, Notice.claimed?] at privileged
  | denied _ refused =>
    rcases List.mem_append.1 hmem with hmem | hmem
    · exact absurd hmem (notPermission refused)
    · rw [List.mem_singleton.1 hmem] at privileged
      simp [Query.isPrivileged, Notice.claimed?] at privileged
  | @permitted request permission rest _ decoded granted assessed =>
    rw [exchanges_append, steady_append] at steady
    -- The exchange comes after the permission was asked for.
    obtain ⟨before, rfl, rfl⟩ : ∃ before, heard = permission ++ before ∧
        rest = before ++ exchange :: later := by
      rcases List.append_eq_append_iff.1 split with
        ⟨before, hheard, hrest⟩ | ⟨after, hpermission, htail⟩
      · exact ⟨before, hheard, hrest⟩
      · cases after with
        | nil => exact ⟨[], by simpa using hpermission.symm, by simpa using htail.symm⟩
        | cons first after =>
          obtain ⟨rfl, -⟩ := List.cons.inj htail
          exact absurd (by simp [hpermission]) (notPermission granted)
    have hrest : exchange ∈ before ++ exchange :: later := by simp
    have unasked (h : exchange.query.Assesses none) : False := by
      obtain ⟨-, context, hnone, -⟩ := h.exists_isAbout privileged
      simp at hnone
    rcases scoped_assessRequest assessed with unscoped | ⟨index, named, unscoped | hscoped⟩
    · exact (unasked (unscoped exchange hrest)).elim
    · exact (unasked (unscoped exchange hrest)).elim
    · obtain ⟨owner, tail, hcons, htail⟩ := hscoped
      rw [hcons] at hrest steady
      obtain rfl : owner = agents service :=
        steady_exchanges.1 steady.2 service owner List.mem_cons_self
      rcases List.mem_cons.1 hrest with rfl | hrest
      · simp [Query.isPrivileged] at privileged
      · obtain ⟨hheld, context, hcontext, habout⟩ :=
          (htail exchange hrest).exists_isAbout privileged
        exact ⟨hheld, context, entitled decoded named granted steady.1 hcontext
          fun _ hmem => List.mem_append_left _ hmem, habout⟩

theorem Errand.Fills.entitled {errand : Errand} {device : DeviceId} {slot : Slot}
    (h : errand.Fills topology device slot) (steady : Steady agents (exchanges errand.heard)) :
    errand.Entitled topology agents (slot.owner.context device) ∧
      slot.owner.service = errand.service := by
  obtain ⟨clock, work, assessed, rfl, rfl⟩ := h
  refine ⟨?_, rfl⟩
  obtain ⟨request, permission, owner, reviews, decoded, granted, hclock, hpasses, hheard⟩ :=
    Topology.takes_assess_accept assessed
  rw [hheard, exchanges_append, steady_append] at steady
  obtain rfl : owner = agents errand.service :=
    steady_exchanges.1 steady.2 errand.service owner List.mem_cons_self
  have named : request.clock? = some clock.index := by cases hpasses <;> rfl
  exact Topology.entitled decoded named granted steady.1 (Topology.context?_of_ok hclock)
    fun _ hmem => by rw [hheard]; exact List.mem_append_left _ hmem

/-- A request without permission comes to nothing else than that it is denied. -/
theorem Topology.denied_of_takes_assess
    (assessed : (topology.assess service raw payload).Takes consulted admission)
    (decoded : Request.decodeRaw raw payload = .ok request)
    (steady : Steady agents (exchanges consulted))
    (refused : (∃ error, agents service = .error error) ∨
      ∃ exchange ∈ consulted, exchange.isRefusal) :
    admission = .status .denied ∧ ∃ permission notice,
      consulted = permission ++ [⟨.log notice, ()⟩] ∧
        ∀ exchange ∈ permission, exchange.query.isPermission := by
  cases takes_assess assessed with
  | rejected undecoded =>
    rw [decoded] at undecoded
    simp at undecoded
  | @denied asked permission _ takes =>
    exact ⟨rfl, permission, _, rfl, takes.forall_of_asks (asked.asks_permitted service)⟩
  | @permitted asked permission rest _ _ granted assessed =>
    exfalso
    rw [exchanges_append, steady_append] at steady
    rcases refused with ⟨error, herror⟩ | ⟨exchange, hmem, hrefusal⟩
    · obtain ⟨agent, hagent, -⟩ := Request.exists_asked granted steady.1
      simp [hagent] at herror
    · rcases List.mem_append.1 hmem with hmem | hmem
      · rcases Request.takes_permitted granted with ⟨_, _, hfalse⟩ | ⟨agent, rfl⟩
        · simp at hfalse
        · simp only [List.mem_cons, List.not_mem_nil, or_false] at hmem
          rcases hmem with rfl | rfl
          · simp [Exchange.isRefusal] at hrefusal
          · simp [Request.isRefusal_asked] at hrefusal
      · have hassesses : ∃ clock?, exchange.query.Assesses clock? := by
          rcases scoped_assessRequest assessed with unscoped | ⟨index, -, hscoped⟩
          · exact ⟨none, unscoped exchange hmem⟩
          · exact hscoped.exists_assesses exchange hmem
        obtain ⟨clock?, hassesses⟩ := hassesses
        simp [Exchange.isRefusal_of_assesses hassesses] at hrefusal

/-- A message without a clock is answered as no request at all, or denied, or its sender was allowed
to use the protocol. -/
theorem Topology.allowed_of_takes_assess
    (assessed : (topology.assess service raw payload).Takes consulted admission)
    (steady : Steady agents (exchanges consulted)) (unclocked : raw ≤ 2) :
    ∃ reply, admission = .answer reply ∧
      ((∃ error, Request.decodeRaw raw payload = .error error ∧
          reply = .bytes (Frame.status error.status).bytes) ∨
        reply = .bytes (Frame.status .denied).bytes ∨
        ∃ agent, agents service = .ok agent ∧
          ⟨.allowsProtocol agent protocolId, true⟩ ∈ consulted) := by
  cases admission with
  | accept clock work =>
    obtain ⟨request, _, _, _, decoded, _, _, hpasses, _⟩ := takes_assess_accept assessed
    have hnone := (Request.clock?_eq_none_iff decoded).2 unclocked
    cases hpasses <;> simp [Request.clock?] at hnone
  | answer reply =>
    refine ⟨reply, rfl, ?_⟩
    cases takes_assess assessed with
    | rejected undecoded => exact .inl ⟨_, undecoded, rfl⟩
    | denied => exact .inr (.inl rfl)
    | @permitted request permission rest _ decoded granted =>
      rw [exchanges_append, steady_append] at steady
      obtain ⟨agent, hagent, hasked⟩ := Request.exists_asked granted steady.1
      rw [Request.asked, (Request.clock?_eq_none_iff decoded).2 unclocked] at hasked
      exact .inr (.inr ⟨agent, hagent, List.mem_append_left _ hasked⟩)

end Assessment

namespace Platform

variable {topology : Topology} {agents : ServiceId → Except TransportError AgentId}
  {before after platform : Platform} {past more : List Event} {moves : List Move}
  {device : DeviceId} {slot : Slot} {history : History}

/-! ### In a run -/

/-- If the event needs permission, then it is on behalf of a message that is entitled to it. -/
def Heeds (topology : Topology) (agents : ServiceId → Except TransportError AgentId)
    (past : List Event) (event : Event) : Prop :=
  ∀ exchange, event = .exchange exchange → exchange.query.isPrivileged →
    ∃ errand : Errand, errand.Bears past exchange.query ∧ ∃ context,
      errand.Entitled topology agents context ∧ exchange.query.IsAbout context

theorem heeds_of_not_isPrivileged {exchange : Exchange} (h : exchange.query.isPrivileged = false) :
    Heeds topology agents past (.exchange exchange) := by
  rintro _ ⟨⟩ privileged
  simp [h] at privileged

/-- The holder of a device is entitled to what its slot says. -/
theorem Charged.entitled (h : before.Charged past) (steady : Steady agents past)
    (busy : before.tracker.slot? device = some slot) :
    ∃ errand : Errand, errand.Holds device past ∧
      errand.Entitled before.topology agents (slot.owner.context device) ∧
        slot.owner.service = errand.service := by
  obtain ⟨errand, holds, fills⟩ := h device slot busy
  have heard : Steady agents (exchanges errand.heard) := steady_exchanges.2
    fun service owner hmem => steady service owner (holds.mem_of_mem_heard hmem)
  exact ⟨errand, holds, fills.entitled heard⟩

theorem heeds_of_touch? {exchange : Exchange} {touch : Touch} (h : before.Charged past)
    (steady : Steady agents past) (busy : before.tracker.slot? touch.device = some slot)
    (touched : exchange.touch? = some touch) :
    Heeds before.topology agents past (.exchange exchange) := by
  obtain ⟨hheld, habout⟩ := Exchange.isAbout_of_touch? touched
  rintro _ ⟨⟩ -
  obtain ⟨errand, holds, entitled, -⟩ := h.entitled steady busy
  exact ⟨errand, by rwa [Errand.Bears, hheld], _, entitled, habout _ rfl⟩

/-- The end of a request is on behalf of the message that holds the device. -/
theorem heeds_of_takes_finish {tracker left : Tracker} {result : Except HardwareError Value}
    {sent : Except TransportError Unit} (h : before.Charged past) (steady : Steady agents past)
    (busy : before.tracker.slot? device = some slot)
    (unclaimed : ∀ event ∈ more, event.claimed? = none)
    (finished : (before.topology.finish tracker device slot result).Takes history (sent, left)) :
    Throughout (Heeds before.topology agents) (past ++ more) (exchanges history) := by
  obtain ⟨errand, holds, entitled, -⟩ := h.entitled steady busy
  rw [throughout_iff]
  rintro earlier _ later split exchange rfl privileged
  have hmem : exchange ∈ history := exchange_mem_exchanges.1 (by simp [split])
  have hends := Topology.ends_of_takes_finish finished exchange hmem
  obtain ⟨hheld, habout⟩ := hends.isAbout privileged
  refine ⟨errand, ?_, _, entitled, habout⟩
  rw [Errand.Bears, hheld, List.append_assoc]
  refine holds.append fun event hmem => ?_
  have hnone : event.claimed? = none := by
    rcases List.mem_append.1 hmem with hmem | hmem
    · exact unclaimed event hmem
    · exact claimed?_of_takes_finish finished event (by simp [split, hmem])
  simp [hnone]

/-- What is asked about a message is on its own behalf. -/
theorem heeds_of_takes_assess {service : ServiceId} {raw : UInt32} {payload : Bytes}
    {consulted : History} {admission : Admission} {last : Exchange}
    (assessed : (topology.assess service raw payload).Takes consulted admission)
    (steady : Steady agents (exchanges consulted))
    (hlast : Heeds topology agents
      (past ++ .message service raw payload :: exchanges consulted) (.exchange last)) :
    Throughout (Heeds topology agents) past
      (.message service raw payload :: exchanges (consulted ++ [last])) := by
  rw [exchanges_append, ← List.cons_append, throughout_append]
  refine ⟨⟨nofun, ?_⟩, hlast, trivial⟩
  rw [← Throughout, throughout_iff]
  rintro earlier _ later split exchange rfl privileged
  obtain ⟨heard, tail, rfl, rfl⟩ := exists_of_exchanges_eq split
  obtain ⟨hheld, context, entitled, habout⟩ :=
    Topology.entitled_of_takes_assess assessed steady rfl privileged
  refine ⟨_, ?_, context, entitled, habout⟩
  rw [Errand.Bears, hheld, List.append_assoc]
  exact Errand.isLatest_append service raw payload heard past

theorem Step.heeds (step : before.Step more after) (h : before.Charged past)
    (steady : Steady agents (past ++ more)) :
    Throughout (Heeds before.topology agents) past more := by
  obtain ⟨hpast, hmore⟩ := steady_append.1 steady
  have hconsulted {service : ServiceId} {raw : UInt32} {payload : Bytes} {consulted : History}
      {last : Exchange} (h : Steady agents
        (.message service raw payload :: exchanges (consulted ++ [last]))) :
      Steady agents (exchanges consulted) := by
    rw [exchanges_append, ← List.cons_append, ← List.singleton_append, steady_append,
      steady_append] at h
    exact h.1.2
  cases step with
  | answered assessed =>
    exact heeds_of_takes_assess assessed (hconsulted hmore) (heeds_of_not_isPrivileged rfl)
  | contended assessed =>
    exact heeds_of_takes_assess assessed (hconsulted hmore) (heeds_of_not_isPrivileged rfl)
  | @claimed service raw payload consulted clock work tracker assessed acquired =>
    refine heeds_of_takes_assess assessed (hconsulted hmore) ?_
    rintro _ ⟨⟩ -
    have fills : Errand.Fills before.topology ⟨service, raw, payload, consulted⟩
        clock.record.device (clock.claim service work) := ⟨clock, work, assessed, rfl, rfl⟩
    refine ⟨_, Errand.isLatest_append service raw payload consulted past, _,
      (fills.entitled (hconsulted hmore)).1, ?_⟩
    simp [Query.IsAbout, Notice.claimed?, SlotOwner.context]
  | deferred queued busy touched =>
    exact ⟨heeds_of_touch? h hpast busy touched, heeds_of_not_isPrivileged rfl, trivial⟩
  | @settled item _ slot exchange _ _ _ _ queued busy touched finished =>
    refine ⟨heeds_of_touch? h hpast busy touched, ?_⟩
    refine heeds_of_takes_finish h hpast busy (fun event hmem => ?_) finished
    rw [List.mem_singleton.1 hmem]
    exact Event.claimed?_of_touch? touched
  | completed awaited finished =>
    refine ⟨nofun, ?_⟩
    refine heeds_of_takes_finish h hpast (awaited?_eq_some_iff.1 awaited).1
      (fun event hmem => ?_) finished
    rw [List.mem_singleton.1 hmem]
    rfl
  | unsolicited => exact ⟨heeds_of_not_isPrivileged rfl, trivial⟩

theorem Reaches.heeds (reached : before.Reaches more after) (h : before.Charged past)
    (steady : Steady agents (past ++ more)) :
    Throughout (Heeds before.topology agents) past more := by
  induction reached with
  | refl => exact trivial
  | tail reached step ih =>
    rw [← List.append_assoc] at steady
    have hstep := step.heeds (reached.charged h) steady
    rw [reached.topology_eq] at hstep
    exact throughout_append.2 ⟨ih (steady_append.1 steady).1, hstep⟩

/-! ### Messages that are refused -/

section Received

variable {service : ServiceId} {raw : UInt32} {payload : Bytes} {sent : Except TransportError Unit}

theorem Received.denied {request : Request}
    (received : before.Received service raw payload history sent after)
    (decoded : Request.decodeRaw raw payload = .ok request)
    (steady : Steady agents (exchanges history))
    (refused : (∃ error, agents service = .error error) ∨
      ∃ exchange ∈ history, exchange.isRefusal) :
    after = before ∧ ∃ permission, (∀ exchange ∈ permission, exchange.query.isPermission) ∧
      spoken history =
        permission ++ [⟨.respond service (.bytes (Frame.status .denied).bytes), sent⟩] := by
  have hassessed {consulted : History} {admission : Admission} {last : Exchange}
      (assessed : (before.topology.assess service raw payload).Takes consulted admission)
      (hlast : last.isRefusal = false) (heq : history = consulted ++ [last]) :
      admission = .status .denied ∧ ∃ permission notice,
        consulted = permission ++ [⟨.log notice, ()⟩] ∧
          ∀ exchange ∈ permission, exchange.query.isPermission := by
    rw [heq, exchanges_append, steady_append] at steady
    refine Topology.denied_of_takes_assess assessed decoded steady.1 (refused.imp_right ?_)
    rintro ⟨exchange, hmem, hrefusal⟩
    rw [heq] at hmem
    rcases List.mem_append.1 hmem with hmem | hmem
    · exact ⟨exchange, hmem, hrefusal⟩
    · rw [List.mem_singleton.1 hmem, hlast] at hrefusal
      simp at hrefusal
  cases received with
  | answered assessed =>
    obtain ⟨hadmission, permission, notice, rfl, hpermission⟩ := hassessed assessed rfl rfl
    obtain ⟨rfl⟩ := Admission.answer.inj hadmission
    refine ⟨rfl, spoken permission, fun exchange hmem => ?_, ?_⟩
    · exact hpermission exchange (List.mem_filter.1 hmem).1
    · rw [spoken_append, spoken_append]
      simp [spoken, Exchange.isNotice]
  | contended assessed =>
    exact absurd (hassessed assessed rfl rfl).1.symm Admission.status_ne_accept
  | claimed assessed =>
    exact absurd (hassessed assessed rfl rfl).1.symm Admission.status_ne_accept

theorem Received.allowed (received : before.Received service raw payload history sent after)
    (steady : Steady agents (exchanges history)) (unclocked : raw ≤ 2) :
    ∃ reply, replies history = [(service, reply)] ∧
      ((∃ error, Request.decodeRaw raw payload = .error error ∧
          reply = .bytes (Frame.status error.status).bytes) ∨
        reply = .bytes (Frame.status .denied).bytes ∨
        ∃ agent, agents service = .ok agent ∧
          ⟨.allowsProtocol agent protocolId, true⟩ ∈ history) := by
  have hassessed {consulted : History} {admission : Admission} {last : Exchange}
      (assessed : (before.topology.assess service raw payload).Takes consulted admission)
      (heq : history = consulted ++ [last]) := by
    rw [heq, exchanges_append, steady_append] at steady
    exact Topology.allowed_of_takes_assess assessed steady.1 unclocked
  cases received with
  | @answered consulted reply _ assessed =>
    obtain ⟨_, ⟨rfl⟩, hreply⟩ := hassessed assessed rfl
    refine ⟨reply, ?_, hreply.imp_right (Or.imp_right ?_)⟩
    · rw [replies_append, replies_of_consultation (Topology.consultation_of_takes_assess assessed)]
      rfl
    · rintro ⟨agent, hagent, hmem⟩
      exact ⟨agent, hagent, List.mem_append_left _ hmem⟩
  | contended assessed =>
    obtain ⟨reply, hadmission, -⟩ := hassessed assessed rfl
    simp at hadmission
  | claimed assessed =>
    obtain ⟨reply, hadmission, -⟩ := hassessed assessed rfl
    simp at hadmission

end Received

/-- With a transport that always names the same agent for a channel: in every run, whatever needs
permission is on behalf of one message, which is entitled to it, and is about the clock that the
message names; and what a slot says of its owner is what the message that holds the device is
entitled to. If a message is received after that and names no clock, then it is answered as no
request at all or denied, or its sender was allowed to use the protocol. A request from an unknown
agent, or one that was refused, comes to nothing but one answer that it is denied. -/
theorem Runs.confined_by_permission (run : (start topology).Runs moves platform)
    (steady : Steady agents (ClockManager.events moves)) :
    (∀ past exchange later,
        ClockManager.events moves = past ++ .exchange exchange :: later →
          exchange.query.isPrivileged →
            (∃ errand : Errand, errand.Bears past exchange.query) ∧
              ∀ errand : Errand, errand.Bears past exchange.query → ∃ context,
                errand.Entitled topology agents context ∧ exchange.query.IsAbout context) ∧
      (∀ device slot, platform.tracker.slot? device = some slot →
        (∃ errand : Errand, errand.Holds device (ClockManager.events moves)) ∧
          ∀ errand : Errand, errand.Holds device (ClockManager.events moves) →
            errand.Entitled topology agents (slot.owner.context device) ∧
              slot.owner.service = errand.service) ∧
      ∀ service raw payload history sent after,
        (platform.receive service raw payload).Takes history (sent, after) →
          Steady agents (exchanges history) →
            (raw ≤ 2 → ∃ reply, replies history = [(service, reply)] ∧
              ((∃ error, Request.decodeRaw raw payload = .error error ∧
                  reply = .bytes (Frame.status error.status).bytes) ∨
                reply = .bytes (Frame.status .denied).bytes ∨
                ∃ agent, agents service = .ok agent ∧
                  ⟨.allowsProtocol agent protocolId, true⟩ ∈ history)) ∧
            ∀ request, Request.decodeRaw raw payload = .ok request →
              ((∃ error, agents service = .error error) ∨
                ∃ exchange ∈ history, exchange.isRefusal) →
              after = platform ∧
                ∃ permission, (∀ exchange ∈ permission, exchange.query.isPermission) ∧
                  spoken history = permission ++
                    [⟨.respond service (.bytes (Frame.status .denied).bytes), sent⟩] := by
  have hstart := consistent_start topology
  have reached := run.reaches hstart
  have hcharged := charged_start topology []
  refine ⟨?_, ?_, ?_⟩
  · intro past exchange later split privileged
    obtain ⟨errand, hbears, hentitled⟩ :=
      throughout_iff.1 (reached.heeds hcharged steady) past _ later split exchange rfl privileged
    refine ⟨⟨errand, hbears⟩, fun other hother => ?_⟩
    rw [hother.unique hbears]
    exact hentitled
  · intro device slot busy
    obtain ⟨errand, holds, hentitled⟩ := (reached.charged hcharged).entitled steady busy
    rw [run.topology_eq] at hentitled
    refine ⟨⟨errand, holds⟩, fun other hother => ?_⟩
    rw [hother.unique holds]
    exact hentitled
  · intro service raw payload history sent after takes hsteady
    have received := takes_receive run.consistent takes
    exact ⟨received.allowed hsteady, fun request decoded => received.denied decoded hsteady⟩

open Bench in
/-- The call that starts the GPU is on behalf of the first message of the sample session. After that
session a message from a channel that belongs to nobody is denied. -/
theorem confined_by_permission_sample :
    let errand : Errand := ⟨⟨11⟩, 7, (Request.configSet 0 1).payload,
      (sampleSession.move (.receive ⟨11⟩ 7 (Request.configSet 0 1).payload)).history.dropLast⟩
    let path := ((sampleSession.after sampleSteps).platform.receive ⟨12⟩ 7
      (Request.configSet 0 1).payload).trace World.answer (sampleSession.after sampleSteps).world
    (∃ context, errand.Entitled sampleTopology sampleSession.world.transport.owner context ∧
        context.device = ⟨1⟩) ∧
      path.2.1.2 = (sampleSession.after sampleSteps).platform ∧
      (spoken path.1).getLast? =
        some ⟨.respond ⟨12⟩ (.bytes (Frame.status .denied).bytes), path.2.1.1⟩ := by
  intro errand path
  obtain ⟨hheeds, -, hreceives⟩ := Runs.confined_by_permission
    (sampleSession.runs_moves sampleSteps)
    (by decide : Steady sampleSession.world.transport.owner _)
  obtain ⟨-, hbears⟩ := hheeds
    ((ClockManager.events (sampleSession.moves sampleSteps)).take 6)
    ⟨.setState ⟨1⟩ .running, .ok .pending⟩
    ((ClockManager.events (sampleSession.moves sampleSteps)).drop 7) rfl rfl
  obtain ⟨context, hentitled, habout⟩ := hbears errand
    ⟨(ClockManager.events (sampleSession.moves sampleSteps)).take 5, _, [], rfl, ⟨[], rfl⟩, rfl,
      by simp⟩
  obtain ⟨-, hdenied⟩ := hreceives ⟨12⟩ 7 (Request.configSet 0 1).payload path.1 _ _
    (Dialogue.takes_trace World.answer _ _) (by decide)
  obtain ⟨hafter, permission, -, hspoken⟩ := hdenied (.configSet 0 1) rfl (.inl ⟨_, rfl⟩)
  have hlast := (congrArg List.getLast? hspoken).trans List.getLast?_concat
  exact ⟨⟨context, hentitled, habout.symm⟩, hafter, hlast⟩

end Platform
end ClockManager
