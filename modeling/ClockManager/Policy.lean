import ClockManager.Clock
/-!
# Policies

A policy is asked before a rate or a state is set, and may refuse the request, take it as already
satisfied, or change it. For a state it is asked again after the hardware has applied it, which is
when it may commit what it keeps.
-/

namespace ClockManager

/-- When a policy is asked, seen from the hardware call. -/
inductive Phase where
  | pre
  | post
  deriving DecidableEq

def Phase.label : Phase → String
  | pre => "Pre"
  | post => "Post"

inductive Decision where
  | proceed
  | skip
  deriving DecidableEq

/-- Whose request a policy is asked about. -/
structure PolicyContext where
  agent : AgentId
  clock : UInt32
  device : DeviceId
  deriving DecidableEq

inductive PolicyError where
  | invalidState (agent : AgentId) (device : DeviceId) (requested : ClockState) (refcount : UInt32)
  | invalidParam (agent : AgentId) (device : DeviceId)
  | rejected
  deriving DecidableEq

def PolicyError.message : PolicyError → String
  | invalidState agent device requested refcount =>
    s!"invalid {requested.label} transition for agent {agent.label} on device {device.label}"
      ++ s!" (refcount {refcount})"
  | invalidParam agent device =>
    s!"agent {agent.label} / device {device.label} outside the policy tables"
  | rejected => "request rejected by policy"

abbrev Verdict := Except PolicyError Decision

/-- What a policy makes of a rate: its verdict, and the rate and rounding it leaves. -/
structure RateReview where
  verdict : Verdict
  rate : UInt64
  rounding : Rounding

/-- What a policy makes of a state: its verdict, and the state it leaves. -/
structure StateReview where
  verdict : Verdict
  state : ClockState

end ClockManager
