import ClockManager.Notice
/-!
# Shared devices

Several agents may use one physical device. The sharing policy keeps, for each agent and device, the
last state that the agent set, and for each device how many agents hold it running. Only the first
holder's start and the last holder's stop reach the hardware; what an agent asks in between is taken
as satisfied.
-/

namespace ClockManager

structure Sharing where
  deviceCount : Nat
  /-- A row for each agent, with a state for each device. -/
  states : List (List ClockState)
  /-- For each device, the agents that hold it running. -/
  refcounts : List UInt32
  length_row : ∀ row ∈ states, row.length = deviceCount
  length_refcounts : refcounts.length = deviceCount

namespace Sharing

def refcount? (sharing : Sharing) (device : DeviceId) : Option UInt32 :=
  sharing.refcounts[device.index]?

def state? (sharing : Sharing) (agent : AgentId) (device : DeviceId) : Option ClockState :=
  sharing.states[agent.index]?.bind fun row => row[device.index]?

theorem length_row_modify {states : List (List ClockState)} {n : Nat}
    (h : ∀ row ∈ states, row.length = n) (agent device : Nat) (state : ClockState) :
    ∀ row ∈ states.modify agent (·.set device state), row.length = n := by
  intro row hrow
  obtain ⟨i, hi, rfl⟩ := List.mem_iff_getElem.1 hrow
  rw [List.length_modify] at hi
  have := h states[i] (List.getElem_mem hi)
  rw [List.getElem_modify]
  split <;> simpa

/-- The tables with one state and one count replaced; places outside them are left out. -/
def put (sharing : Sharing) (agent device : Nat) (state : ClockState) (refcount : UInt32) :
    Sharing :=
  { deviceCount := sharing.deviceCount
    states := sharing.states.modify agent (·.set device state)
    refcounts := sharing.refcounts.set device refcount
    length_row := length_row_modify sharing.length_row agent device state
    length_refcounts := by rw [List.length_set]; exact sharing.length_refcounts }

/-- Nobody holds anything. -/
def idle (agentCount deviceCount : Nat) : Sharing :=
  { deviceCount
    states := List.replicate agentCount (List.replicate deviceCount .stopped)
    refcounts := List.replicate deviceCount 0
    length_row := fun row hrow => by rw [List.eq_of_mem_replicate hrow, List.length_replicate]
    length_refcounts := List.length_replicate }

/-- Counts agent number `agent` as a holder of a device, once however often it lists the device. -/
def hold (sharing : Sharing) (agent : Nat) (device : DeviceId) : Sharing :=
  match sharing.states[agent]?.bind (·[device.index]?), sharing.refcount? device with
  | some .stopped, some refcount => sharing.put agent device.index .running (refcount + 1)
  | _, _ => sharing

/-- The tables at start: an agent holds the devices that its view starts enabled. -/
def ofTopology (topology : Topology) : Sharing :=
  topology.agents.zipIdx.foldl
    (fun sharing (view, agent) =>
      (view.clocks.filter ClockRecord.startsEnabled).foldl
        (fun sharing clock => sharing.hold agent clock.device) sharing)
    (idle topology.agentCount topology.deviceCount)

/-- Sharing is about states alone: a rate is let through as it is. -/
def reviewRate (_ : Sharing) (rate : UInt64) (rounding : Rounding) : RateReview :=
  ⟨.ok .proceed, rate, rounding⟩

/-- What the policy says, the tables after that, and what it reports. -/
structure Review where
  verdict : Verdict
  sharing : Sharing
  notice? : Option Notice := none

/-- Lets a transition through; it enters the tables once the hardware has made it. -/
def proceed (sharing : Sharing) (phase : Phase) (context : PolicyContext) (state : ClockState)
    (refcount : UInt32) : Review :=
  { verdict := .ok .proceed
    sharing :=
      match phase with
      | .pre => sharing
      | .post => sharing.put context.agent.index context.device.index state refcount }

/-- Other agents hold the device, so a request is satisfied as it is; the hardware must not have
been asked. -/
def suppress (sharing : Sharing) (phase : Phase) (invalid : PolicyError) (notice : Notice) :
    Review :=
  match phase with
  | .pre => { verdict := .ok .skip, sharing, notice? := some notice }
  | .post => { verdict := .error invalid, sharing, notice? := some (.invalidTransition invalid) }

def review (sharing : Sharing) (phase : Phase) (context : PolicyContext) (state : ClockState) :
    Review :=
  match sharing.state? context.agent context.device, sharing.refcount? context.device with
  | some held, some refcount =>
    let invalid := PolicyError.invalidState context.agent context.device state refcount
    if held = state then { verdict := .ok .skip, sharing }
    else
      match state with
      | .running =>
        if refcount = 0 then sharing.proceed phase context .running (refcount + 1)
        else sharing.suppress phase invalid (.shared context.agent context.device refcount)
      | .stopped =>
        if refcount = 0 then
          { verdict := .error invalid, sharing, notice? := some (.invalidStop context) }
        else if refcount = 1 then sharing.proceed phase context .stopped (refcount - 1)
        else sharing.suppress phase invalid (.stopSuppressed context.agent context.device refcount)
  | _, _ => { verdict := .error (.invalidParam context.agent context.device), sharing }

end Sharing
end ClockManager
