import ClockManager.Platform
/-!
# Operations

The four things that happen to a platform, as data.
-/

namespace ClockManager

inductive Operation where
  | receive (service : ServiceId) (raw : UInt32) (payload : Bytes)
  | runNext
  | runQueue
  | complete (completion : Completion)

inductive OperationResult where
  | received (result : Except TransportError Unit)
  | ranNext (result : Option (Except TransportError WorkOutcome))
  | ranQueue (result : Except TransportError Nat)
  | completed (result : Except CompletionError Unit)

def Platform.perform (platform : Platform) : Operation → Dialogue (OperationResult × Platform)
  | .receive service raw payload => do
    let (result, platform) ← platform.receive service raw payload
    return (.received result, platform)
  | .runNext => do
    let (result, platform) ← platform.runNext
    return (.ranNext result, platform)
  | .runQueue => do
    let (result, platform) ← platform.runQueue
    return (.ranQueue result, platform)
  | .complete completion => do
    let (result, platform) ← platform.complete completion
    return (.completed result, platform)

end ClockManager
