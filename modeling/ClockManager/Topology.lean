import ClockManager.Clock
import ClockManager.Frame
import ClockManager.Text.Quoted
/-!
# Clock topology

Which physical devices there are and, for each agent, the clocks it sees. The position of a clock in
an agent's view is the number that agent uses for it. A `Topology` can only be had through
`Topology.ofParts`, so what it promises holds wherever one is at hand.
-/

namespace ClockManager

/-- One physical device as an agent sees it. -/
structure ClockRecord where
  device : DeviceId
  startsEnabled : Bool
  deriving DecidableEq

structure AgentView where
  name : String
  clocks : List ClockRecord
  deriving DecidableEq

inductive TopologyError where
  | noAgents
  | noDevices
  | unknownDevice (agent : String) (index : Nat) (device : DeviceId)
  | nameTooLong (name : String)
  deriving DecidableEq

def TopologyError.message : TopologyError → String
  | noAgents => "agent table is empty"
  | noDevices => "device table is empty"
  | unknownDevice agent index device =>
    s!"agent {agent} clock {index} references unknown device {device.raw}"
  | nameTooLong name => s!"device name {Text.quoted name} does not fit in {nameSize} bytes"

structure Topology where
  maxPending : UInt8
  devices : List String
  agents : List AgentView
  agents_ne : agents ≠ []
  devices_ne : devices ≠ []
  names_fit : ∀ name ∈ devices, name.utf8ByteSize < nameSize
  devices_known : ∀ view ∈ agents, ∀ clock ∈ view.clocks, clock.device.index < devices.length

namespace Topology

/-- The first clock of a view, with its position, whose device is not among `deviceCount` many. -/
def danglingClock? (deviceCount : Nat) (view : AgentView) : Option (ClockRecord × Nat) :=
  view.clocks.zipIdx.find? fun (clock, _) => deviceCount ≤ clock.device.index

/-- The complaint about the first dangling clock of the first agent that has one. -/
def danglingError? (deviceCount : Nat) (agents : List AgentView) : Option TopologyError :=
  agents.findSome? fun view =>
    (danglingClock? deviceCount view).map fun (clock, index) =>
      .unknownDevice view.name index clock.device

theorem devices_known_of_danglingError?_eq_none {deviceCount : Nat} {agents : List AgentView}
    (h : danglingError? deviceCount agents = none) :
    ∀ view ∈ agents, ∀ clock ∈ view.clocks, clock.device.index < deviceCount := by
  intro view hview clock hclock
  simp only [danglingError?, danglingClock?, List.findSome?_eq_none_iff, Option.map_eq_none_iff,
    List.find?_eq_none] at h
  obtain ⟨index, hindex⟩ := List.mem_iff_getElem?.1 hclock
  have := h view hview (clock, index) (List.mem_zipIdx_iff_getElem?.2 hindex)
  simpa using this

/-- Checks the parts in order: agents, devices, device names, and last the devices of the clocks. -/
def ofParts (maxPending : UInt8) (devices : List String) (agents : List AgentView) :
    Except TopologyError Topology :=
  if hagents : agents = [] then .error .noAgents
  else if hdevices : devices = [] then .error .noDevices
  else
    match hname : devices.find? fun name => nameSize ≤ name.utf8ByteSize with
    | some name => .error (.nameTooLong name)
    | none =>
      match hclock : danglingError? devices.length agents with
      | some error => .error error
      | none =>
        .ok
          { maxPending, devices, agents
            agents_ne := hagents
            devices_ne := hdevices
            names_fit := by simpa using hname
            devices_known := devices_known_of_danglingError?_eq_none hclock }

def agentCount (topology : Topology) : Nat := topology.agents.length

def deviceCount (topology : Topology) : Nat := topology.devices.length

def agent? (topology : Topology) (agent : AgentId) : Option AgentView :=
  topology.agents[agent.index]?

def deviceName? (topology : Topology) (device : DeviceId) : Option String :=
  topology.devices[device.index]?

end Topology

def AgentView.clockCount (view : AgentView) : Nat := view.clocks.length

def AgentView.clock? (view : AgentView) (index : UInt32) : Option ClockRecord :=
  view.clocks[index.toNat]?

end ClockManager
