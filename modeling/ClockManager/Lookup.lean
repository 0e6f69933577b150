import ClockManager.Topology
import ClockManager.Transport
/-!
# From a channel to a clock

The transport says which agent owns a channel; the topology says which device that agent means by a
clock number. Three failures can arise, in the order in which the steps are taken.
-/

namespace ClockManager

inductive LookupError where
  | notFound (error : TransportError)
  | invalidParam (agent : AgentId)
  | outOfRange (index : UInt32) (count : Nat)
  deriving DecidableEq

def LookupError.message : LookupError → String
  | notFound error => s!"agent unresolved: {error.message}"
  | invalidParam agent => s!"agent {agent.label} is not configured"
  | outOfRange index count => s!"clock {index} out of range ({count} clocks)"

/-- A clock found for one request. -/
structure ResolvedClock where
  agent : AgentId
  index : UInt32
  record : ClockRecord
  deriving DecidableEq

namespace Topology

/-- The view of the agent that the transport named. -/
def resolveAgent (topology : Topology) (owner : Except TransportError AgentId) :
    Except LookupError (AgentId × AgentView) :=
  match owner with
  | .error error => .error (.notFound error)
  | .ok agent =>
    match topology.agent? agent with
    | none => .error (.invalidParam agent)
    | some view => .ok (agent, view)

/-- Clock number `index` of the agent that the transport named. -/
def resolveClock (topology : Topology) (owner : Except TransportError AgentId) (index : UInt32) :
    Except LookupError ResolvedClock :=
  match topology.resolveAgent owner with
  | .error error => .error error
  | .ok (agent, view) =>
    match view.clock? index with
    | none => .error (.outOfRange index view.clockCount)
    | some record => .ok { agent, index, record }

end Topology
end ClockManager
