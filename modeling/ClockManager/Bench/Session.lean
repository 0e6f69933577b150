import ClockManager.Bench.World
import ClockManager.Operation
/-!
# Sessions

A session is a platform on the bench. Its steps are the platform's four operations and changes to the
collaborators.
-/

namespace ClockManager.Bench

inductive Change where
  | deferred (devices : List DeviceId)
  | failures (failures : List (Option HardwareError))
  | device (index : Nat) (device : Device)
  | failRespond (count : Nat)
  | failWrite (count : Nat)
  | failMaxPayload (fail : Bool)
  | maxPayload (size : Nat)
  | writeLimit (size : Nat)
  | agentBudget (budget? : Option Nat)
  | bind (service : ServiceId) (agent? : Option AgentId)

namespace World

/-- A new payload size also moves the limit for staged writes. -/
def change (world : World) : Change → World
  | .deferred devices => { world with hardware := { world.hardware with deferred := devices } }
  | .failures failures => { world with hardware := { world.hardware with failures } }
  | .device index device => { world with hardware := world.hardware.setDevice index device }
  | .failRespond count =>
    { world with transport := { world.transport with failRespond := count } }
  | .failWrite count => { world with transport := { world.transport with failWrite := count } }
  | .failMaxPayload fail =>
    { world with transport := { world.transport with failMaxPayload := fail } }
  | .maxPayload size =>
    { world with transport := { world.transport with maxPayload := size, writeLimit := size } }
  | .writeLimit size => { world with transport := { world.transport with writeLimit := size } }
  | .agentBudget budget? =>
    { world with transport := { world.transport with agentBudget? := budget? } }
  | .bind service agent? => { world with transport := world.transport.bind service agent? }

end World

inductive Step where
  | operate (operation : Operation)
  | change (changes : List Change)

structure Session where
  platform : Platform
  world : World

namespace Session

/-- Takes a step; only an operation of the platform has a result. -/
def perform (session : Session) : Step → Option OperationResult × Session
  | .operate operation =>
    let ((result, platform), world) :=
      (session.platform.perform operation).run World.answer session.world
    (some result, { platform, world })
  | .change changes =>
    (none, { session with world := changes.foldl World.change session.world })

/-- Forgets the recorded calls and log. -/
def clearRecord (session : Session) : Session :=
  { session with world := { session.world with calls := #[], log := #[] } }

end Session
end ClockManager.Bench
