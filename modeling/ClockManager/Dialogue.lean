import ClockManager.Notice
/-!
# Dialogues

The platform is written against collaborators that it does not control: the transport, the
permissions, the policy, the hardware and the log. A `Query` is one call to one of them, and its type
of answers is all that is known of what comes back. A `Dialogue` is a computation that asks queries
and goes on from the answers; it means nothing by itself until `Dialogue.run` is told how to answer.
-/

namespace ClockManager

inductive Query where
  | agentOf (service : ServiceId)
  | maxPayload (service : ServiceId)
  | stage (service : ServiceId) (offset : Nat) (bytes : Bytes)
  | respond (service : ServiceId) (reply : Reply)
  | allowsProtocol (agent : AgentId) (protocol : UInt8)
  | allowsResource (agent : AgentId) (protocol : UInt8) (message resource : UInt32)
  | reviewRate (context : PolicyContext) (rate : UInt64) (rounding : Rounding)
  | reviewState (phase : Phase) (context : PolicyContext) (state : ClockState)
  | getState (device : DeviceId)
  | getRate (device : DeviceId)
  | setRate (device : DeviceId) (rate : UInt64) (rounding : Rounding)
  | setState (device : DeviceId) (state : ClockState)
  | rateRange (device : DeviceId)
  | rateAt (device : DeviceId) (index : UInt32)
  | log (notice : Notice)
  deriving DecidableEq

def Query.Answer : Query → Type
  | agentOf _ => Except TransportError AgentId
  | maxPayload _ => Except TransportError Nat
  | stage _ _ _ => Except TransportError Unit
  | respond _ _ => Except TransportError Unit
  | allowsProtocol _ _ => Bool
  | allowsResource _ _ _ _ => Bool
  | reviewRate _ _ _ => RateReview
  | reviewState _ _ _ => StateReview
  | getState _ => Except HardwareError (Outcome ClockState)
  | getRate _ => Except HardwareError (Outcome UInt64)
  | setRate _ _ _ => Except HardwareError (Outcome Unit)
  | setState _ _ => Except HardwareError (Outcome Unit)
  | rateRange _ => Except HardwareError RateRange
  | rateAt _ _ => Except HardwareError UInt64
  | log _ => Unit

inductive Dialogue (α : Type) : Type where
  | done (value : α)
  | ask (query : Query) (next : query.Answer → Dialogue α)

namespace Dialogue

def bind {α β : Type} : Dialogue α → (α → Dialogue β) → Dialogue β
  | done value, next => next value
  | ask query rest, next => ask query fun answer => bind (rest answer) next

instance : Monad Dialogue where
  pure := done
  bind := bind

/-- Asks one query and returns its answer. -/
def call (query : Query) : Dialogue query.Answer := ask query done

def log (notice : Notice) : Dialogue Unit := call (.log notice)

/-- Collaborators with a state: each query gets an answer that its type allows. -/
abbrev Answerer (σ : Type) := (query : Query) → σ → query.Answer × σ

/-- Holds the dialogue with `answerer`. -/
def run {σ α : Type} (answerer : Answerer σ) : Dialogue α → σ → α × σ
  | done value, state => (value, state)
  | ask query next, state =>
    let (answer, state) := answerer query state
    run answerer (next answer) state

end Dialogue
end ClockManager
