import ClockManager.Lookup
import Mathlib.Data.List.Basic
/-!
# Which topologies there are

Parts make a topology if they are sound. If they are not, there is a first fault in them, and this
is the one that is reported: `FirstFault` says what it is in terms of the parts alone, with all that
comes before it in order. In the same way `Resolution` says what becomes of a clock number.
-/

namespace ClockManager

theorem exists_first {α : Type} {p : α → Prop} [DecidablePred p] {list : List α}
    (h : ∃ entry ∈ list, p entry) :
    ∃ front entry back, list = front ++ entry :: back ∧ p entry ∧ ∀ other ∈ front, ¬p other := by
  obtain ⟨entry, hfound⟩ := Option.isSome_iff_exists.1
    (List.find?_isSome.2 (by simpa using h) : (list.find? (p ·)).isSome)
  obtain ⟨hentry, front, back, hlist, hfront⟩ := List.find?_eq_some_iff_append.1 hfound
  exact ⟨front, entry, back, hlist, by simpa using hentry, by simpa using hfront⟩

namespace Topology

variable {maxPending : UInt8} {devices : List String} {agents : List AgentView}
  {error : TopologyError} {topology : Topology}

/-! ### Parts -/

/-- There are agents and devices, each name leaves room for a zero byte, and each clock is on a
device. -/
structure Sound (devices : List String) (agents : List AgentView) : Prop where
  agents_ne : agents ≠ []
  devices_ne : devices ≠ []
  names_fit : ∀ name ∈ devices, name.utf8ByteSize ≤ 15
  devices_known : ∀ view ∈ agents, ∀ clock ∈ view.clocks, clock.device.index < devices.length

/-- The error names the first fault: the agents are looked at before the devices, the devices before
their names, and last the clocks, agent by agent in the order of each view. -/
inductive FirstFault (devices : List String) (agents : List AgentView) : TopologyError → Prop where
  | noAgents (empty : agents = []) : FirstFault devices agents .noAgents
  | noDevices (agents_ne : agents ≠ []) (empty : devices = []) :
      FirstFault devices agents .noDevices
  | nameTooLong {front back : List String} {name : String} (agents_ne : agents ≠ [])
      (devices_eq : devices = front ++ name :: back)
      (names_fit : ∀ other ∈ front, other.utf8ByteSize ≤ 15) (long : 15 < name.utf8ByteSize) :
      FirstFault devices agents (.nameTooLong name)
  | unknownDevice {views others : List AgentView} {view : AgentView}
      {clocks more : List ClockRecord} {clock : ClockRecord} (devices_ne : devices ≠ [])
      (names_fit : ∀ name ∈ devices, name.utf8ByteSize ≤ 15)
      (agents_eq : agents = views ++ view :: others)
      (views_known : ∀ other ∈ views, ∀ clock ∈ other.clocks, clock.device.index < devices.length)
      (clocks_eq : view.clocks = clocks ++ clock :: more)
      (clocks_known : ∀ other ∈ clocks, other.device.index < devices.length)
      (unknown : devices.length ≤ clock.device.index) :
      FirstFault devices agents (.unknownDevice view.name clocks.length clock.device)

/-! ### The checks one by one -/

theorem find?_name_eq_none (h : ∀ name ∈ devices, name.utf8ByteSize ≤ 15) :
    (devices.find? fun name => nameSize ≤ name.utf8ByteSize) = none := by
  rw [List.find?_eq_none]
  intro name hname
  have hfits := h name hname
  have hshort : ¬nameSize ≤ name.utf8ByteSize := by
    rw [nameSize]
    omega
  simpa using hshort

theorem danglingClock?_eq_none {view : AgentView} {deviceCount : Nat}
    (h : ∀ clock ∈ view.clocks, clock.device.index < deviceCount) :
    danglingClock? deviceCount view = none := by
  rw [danglingClock?, List.find?_eq_none]
  intro entry hentry
  have hknown := h entry.1 (List.fst_mem_of_mem_zipIdx hentry)
  simpa using hknown

theorem danglingError?_eq_none {deviceCount : Nat}
    (h : ∀ view ∈ agents, ∀ clock ∈ view.clocks, clock.device.index < deviceCount) :
    danglingError? deviceCount agents = none := by
  rw [danglingError?, List.findSome?_eq_none_iff]
  intro view hview
  rw [danglingClock?_eq_none (h view hview)]
  rfl

/-- The position of a dangling clock is the number of clocks before it. -/
theorem danglingClock?_eq_some {view : AgentView} {deviceCount : Nat}
    {clocks more : List ClockRecord} {clock : ClockRecord}
    (clocks_eq : view.clocks = clocks ++ clock :: more)
    (known : ∀ other ∈ clocks, other.device.index < deviceCount)
    (unknown : deviceCount ≤ clock.device.index) :
    danglingClock? deviceCount view = some (clock, clocks.length) := by
  have hfront : danglingClock? deviceCount ⟨view.name, clocks⟩ = none :=
    danglingClock?_eq_none known
  rw [danglingClock?] at hfront ⊢
  rw [clocks_eq, List.zipIdx_append, List.find?_append, hfront, Option.none_or, List.zipIdx_cons,
    List.find?_cons_of_pos (by simpa using unknown), Nat.zero_add]

section Checks

variable (agents_ne : agents ≠ []) (devices_ne : devices ≠ [])
include agents_ne devices_ne

theorem ofParts_of_find?_name {name : String}
    (h : (devices.find? fun name => nameSize ≤ name.utf8ByteSize) = some name) :
    ofParts maxPending devices agents = .error (.nameTooLong name) := by
  unfold ofParts
  rw [dif_neg agents_ne, dif_neg devices_ne]
  split
  · rename_i found hfound
    rw [h] at hfound
    rw [Option.some.inj hfound]
  · rename_i hnone
    rw [h] at hnone
    cases hnone

variable (names_fit : ∀ name ∈ devices, name.utf8ByteSize ≤ 15)
include names_fit

theorem ofParts_of_danglingError? (h : danglingError? devices.length agents = some error) :
    ofParts maxPending devices agents = .error error := by
  unfold ofParts
  rw [dif_neg agents_ne, dif_neg devices_ne]
  split
  · rename_i name hname
    rw [find?_name_eq_none names_fit] at hname
    cases hname
  · split
    · rename_i found hfound
      rw [h] at hfound
      rw [Option.some.inj hfound]
    · rename_i hnone
      rw [h] at hnone
      cases hnone

end Checks

/-! ### Success and failure -/

/-- Sound parts make a topology, which has these parts. -/
theorem Sound.exists_ofParts (sound : Sound devices agents) (maxPending : UInt8) :
    ∃ topology, ofParts maxPending devices agents = .ok topology ∧
      topology.maxPending = maxPending ∧ topology.devices = devices ∧
      topology.agents = agents := by
  unfold ofParts
  rw [dif_neg sound.agents_ne, dif_neg sound.devices_ne]
  split
  · rename_i name hname
    rw [find?_name_eq_none sound.names_fit] at hname
    cases hname
  · split
    · rename_i error herror
      rw [danglingError?_eq_none sound.devices_known] at herror
      cases herror
    · exact ⟨_, rfl, rfl, rfl, rfl⟩

theorem FirstFault.ofParts_eq (fault : FirstFault devices agents error) (maxPending : UInt8) :
    ofParts maxPending devices agents = .error error := by
  cases fault with
  | noAgents empty => rw [ofParts, dif_pos empty]
  | noDevices agents_ne empty => rw [ofParts, dif_neg agents_ne, dif_pos empty]
  | @nameTooLong front back name agents_ne devices_eq names_fit long =>
    have hlong : nameSize ≤ name.utf8ByteSize := long
    refine ofParts_of_find?_name agents_ne ?_ ?_
    · simp [devices_eq]
    · rw [devices_eq, List.find?_append, find?_name_eq_none names_fit, Option.none_or,
        List.find?_cons_of_pos (by simpa using hlong)]
  | @unknownDevice views others view clocks more clock devices_ne names_fit agents_eq views_known
      clocks_eq clocks_known unknown =>
    refine ofParts_of_danglingError? ?_ devices_ne names_fit ?_
    · simp [agents_eq]
    · have hviews := danglingError?_eq_none views_known
      rw [danglingError?] at hviews ⊢
      rw [agents_eq, List.findSome?_append, hviews, Option.none_or, List.findSome?_cons,
        danglingClock?_eq_some clocks_eq clocks_known unknown]
      rfl

/-- Parts that are not sound have a first fault. -/
theorem sound_or_exists_firstFault (devices : List String) (agents : List AgentView) :
    Sound devices agents ∨ ∃ error, FirstFault devices agents error := by
  by_cases agents_ne : agents = []
  · exact .inr ⟨_, .noAgents agents_ne⟩
  by_cases devices_ne : devices = []
  · exact .inr ⟨_, .noDevices agents_ne devices_ne⟩
  by_cases hlong : ∃ name ∈ devices, 15 < name.utf8ByteSize
  · obtain ⟨front, name, back, heq, hname, hfront⟩ := exists_first hlong
    exact .inr ⟨_, .nameTooLong agents_ne heq (fun other h => Nat.not_lt.1 (hfront other h)) hname⟩
  have names_fit : ∀ name ∈ devices, name.utf8ByteSize ≤ 15 :=
    fun name hname => Nat.not_lt.1 fun h => hlong ⟨name, hname, h⟩
  by_cases hdangling : ∃ view ∈ agents, ∃ clock ∈ view.clocks, devices.length ≤ clock.device.index
  · obtain ⟨views, view, others, hagents, hview, hviews⟩ := exists_first hdangling
    obtain ⟨clocks, clock, more, hclocks, hclock, hbefore⟩ := exists_first hview
    refine .inr ⟨_, .unknownDevice devices_ne names_fit hagents (fun other h found hfound => ?_)
      hclocks (fun other h => Nat.not_le.1 (hbefore other h)) hclock⟩
    exact Nat.not_le.1 fun hle => hviews other h ⟨found, hfound, hle⟩
  · refine .inl ⟨agents_ne, devices_ne, names_fit, fun view hview clock hclock => ?_⟩
    exact Nat.not_le.1 fun hle => hdangling ⟨view, hview, clock, hclock, hle⟩

theorem exists_ofParts_iff :
    (∃ topology, ofParts maxPending devices agents = .ok topology) ↔ Sound devices agents := by
  constructor
  · rintro ⟨topology, h⟩
    rcases sound_or_exists_firstFault devices agents with sound | ⟨error, fault⟩
    · exact sound
    · rw [fault.ofParts_eq maxPending] at h
      cases h
  · intro sound
    obtain ⟨topology, h, -⟩ := sound.exists_ofParts maxPending
    exact ⟨topology, h⟩

theorem ofParts_eq_error_iff :
    ofParts maxPending devices agents = .error error ↔ FirstFault devices agents error := by
  constructor
  · intro h
    rcases sound_or_exists_firstFault devices agents with sound | ⟨found, fault⟩
    · obtain ⟨topology, hok, -⟩ := sound.exists_ofParts maxPending
      rw [hok] at h
      cases h
    · rw [fault.ofParts_eq maxPending] at h
      rwa [← Except.error.inj h]
  · intro fault
    exact fault.ofParts_eq maxPending

/-! ### Clock numbers -/

/-- What becomes of a clock number, given whom the transport names as the owner of the channel: an
error of the transport is passed on, an agent has to have a view, and the number has to be a
position in it. -/
inductive Resolution (topology : Topology) (index : UInt32) :
    Except TransportError AgentId → Except LookupError ResolvedClock → Prop where
  | notFound (error : TransportError) :
      Resolution topology index (.error error) (.error (.notFound error))
  | invalidParam {agent : AgentId} (unknown : topology.agentCount ≤ agent.index) :
      Resolution topology index (.ok agent) (.error (.invalidParam agent))
  | outOfRange {agent : AgentId} {view : AgentView}
      (known : topology.agents[agent.index]? = some view)
      (outside : view.clocks.length ≤ index.toNat) :
      Resolution topology index (.ok agent) (.error (.outOfRange index view.clocks.length))
  | found {agent : AgentId} {view : AgentView} {record : ClockRecord}
      (known : topology.agents[agent.index]? = some view)
      (inside : view.clocks[index.toNat]? = some record) :
      Resolution topology index (.ok agent) (.ok ⟨agent, index, record⟩)

theorem resolution_resolveClock (topology : Topology) (index : UInt32)
    (owner : Except TransportError AgentId) :
    Resolution topology index owner (topology.resolveClock owner index) := by
  cases owner with
  | error error => exact .notFound error
  | ok agent =>
    unfold resolveClock resolveAgent
    dsimp only
    cases hview : topology.agent? agent with
    | none => exact .invalidParam (List.getElem?_eq_none_iff.1 hview)
    | some view =>
      dsimp only
      cases hclock : view.clock? index with
      | none => exact .outOfRange hview (List.getElem?_eq_none_iff.1 hclock)
      | some record => exact .found hview hclock

theorem resolveClock_eq_iff {index : UInt32} {owner : Except TransportError AgentId}
    {result : Except LookupError ResolvedClock} :
    topology.resolveClock owner index = result ↔ Resolution topology index owner result := by
  constructor
  · rintro rfl
    exact resolution_resolveClock topology index owner
  · intro h
    cases h with
    | notFound error => rfl
    | invalidParam unknown =>
      rw [resolveClock, resolveAgent, agent?, List.getElem?_eq_none unknown]
    | outOfRange known outside =>
      rw [resolveClock, resolveAgent, agent?, known]
      dsimp only
      rw [AgentView.clock?, List.getElem?_eq_none outside, AgentView.clockCount]
    | found known inside =>
      rw [resolveClock, resolveAgent, agent?, known]
      dsimp only
      rw [AgentView.clock?, inside]

/-- A clock is found exactly for a number that is a position in the view of an agent that there
is. -/
theorem exists_resolveClock_iff {index : UInt32} {owner : Except TransportError AgentId} :
    (∃ clock, topology.resolveClock owner index = .ok clock) ↔
      ∃ agent, owner = .ok agent ∧ ∃ inside : agent.index < topology.agents.length,
        index.toNat < topology.agents[agent.index].clocks.length := by
  constructor
  · rintro ⟨clock, h⟩
    cases resolveClock_eq_iff.1 h with
    | @found agent view record known inside =>
      obtain ⟨hagent, rfl⟩ := List.getElem?_eq_some_iff.1 known
      exact ⟨agent, rfl, hagent, (List.getElem?_eq_some_iff.1 inside).1⟩
  · rintro ⟨agent, rfl, hagent, hindex⟩
    exact ⟨_, resolveClock_eq_iff.2 (.found (List.getElem?_eq_getElem hagent)
      (List.getElem?_eq_getElem hindex))⟩

end Topology
end ClockManager
