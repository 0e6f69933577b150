import ClockManager.Bench.Guard
import ClockManager.Bench.Hardware
import ClockManager.Bench.Transport
import ClockManager.Platform
/-!
# The bench

All collaborators of a platform, scripted, and a record of what was asked of them. The calls and the
log are two lists, each in order.
-/

namespace ClockManager.Bench

structure World where
  transport : Transport
  hardware : Hardware
  /-- Without denials everything is allowed and permission checks leave no trace. -/
  denials? : Option Denials := none
  policy : Policy
  calls : Array String := #[]
  log : Array LogRecord := #[]

namespace World

def note (world : World) (call : String) : World :=
  { world with calls := world.calls.push call }

def noteAll (world : World) (calls : List String) : World :=
  { world with calls := world.calls ++ calls }

def report (world : World) (notice : Notice) : World :=
  { world with log := world.log.push notice.record }

def touch {α : Type} (world : World) (call : String) (device : DeviceId)
    (change : Device → α × Device) : Except HardwareError (Outcome α) × World :=
  let (answer, hardware) := world.hardware.touch device change
  (answer, { world.note call with hardware })

def allowsProtocol (world : World) (agent : AgentId) (protocol : UInt8) : Bool × World :=
  match world.denials? with
  | none => (true, world)
  | some denials =>
    (denials.allowsProtocol agent, world.note s!"perm protocol {agent.raw} {protocol}")

def allowsResource (world : World) (agent : AgentId) (protocol : UInt8)
    (message resource : UInt32) : Bool × World :=
  match world.denials? with
  | none => (true, world)
  | some denials =>
    (denials.allowsResource agent message resource,
      world.note s!"perm resource {agent.raw} {protocol} {message} {resource}")

def contextText (context : PolicyContext) : String :=
  s!"{context.agent.raw} {context.clock} {context.device.raw}"

def reviewRate (world : World) (context : PolicyContext) (rate : UInt64) (rounding : Rounding) :
    RateReview × World :=
  match world.policy with
  | .sharing tables => (tables.reviewRate rate rounding, world)
  | .scripted script =>
    (script.reviewRate rate rounding,
      world.note s!"policy rate_set {contextText context} {rate} {rounding.label}")

def reviewState (world : World) (phase : Phase) (context : PolicyContext) (state : ClockState) :
    StateReview × World :=
  match world.policy with
  | .sharing tables =>
    let review := tables.review phase context state
    let world := { world with policy := .sharing review.sharing }
    (⟨review.verdict, state⟩, review.notice?.elim world world.report)
  | .scripted script =>
    (script.reviewState phase context.clock state,
      world.note s!"policy config_set {phase.label} {contextText context} {state.label}")

/-- How the bench answers the platform. -/
def answer : Dialogue.Answerer World
  | .agentOf service, world =>
    let (owner, transport) := world.transport.agentOf service
    (owner, { world with transport })
  | .maxPayload service, world => (world.transport.payloadLimit service, world)
  | .stage service offset bytes, world =>
    let (result, transport, calls) := world.transport.stage service offset bytes
    (result, { world.noteAll calls with transport })
  | .respond service reply, world =>
    let (result, transport, calls) := world.transport.respond service reply
    (result, { world.noteAll calls with transport })
  | .allowsProtocol agent protocol, world => world.allowsProtocol agent protocol
  | .allowsResource agent protocol message resource, world =>
    world.allowsResource agent protocol message resource
  | .reviewRate context rate rounding, world => world.reviewRate context rate rounding
  | .reviewState phase context state, world => world.reviewState phase context state
  | .getState device, world =>
    world.touch s!"hal get_state {device.raw}" device fun clock => (clock.state, clock)
  | .getRate device, world =>
    world.touch s!"hal get_rate {device.raw}" device fun clock => (clock.rate, clock)
  | .setRate device rate rounding, world =>
    world.touch s!"hal set_rate {device.raw} {rate} {rounding.label}" device fun clock =>
      ((), { clock with rate })
  | .setState device state, world =>
    world.touch s!"hal set_state {device.raw} {state.label}" device fun clock =>
      ((), { clock with state })
  | .rateRange device, world =>
    (world.hardware.rateRange device, world.note s!"hal get_info {device.raw}")
  | .rateAt device index, world => (world.hardware.rateAt device index, world)
  | .log notice, world => ((), world.report notice)

end World
end ClockManager.Bench
