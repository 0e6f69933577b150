import ClockManager.Dialogue
import ClockManager.Policy.Sharing
/-!
# Scripted permissions and policies

A permission script lists what is denied. A policy script decides by rate or by clock number; in its
place the bench can hold the sharing policy.
-/

namespace ClockManager.Bench

/-- One denied resource; without a message, all messages are meant. -/
structure DeniedResource where
  agent : AgentId
  message? : Option UInt32
  clock : UInt32

structure Denials where
  protocol : List AgentId := []
  resources : List DeniedResource := []

namespace Denials

def allowsProtocol (denials : Denials) (agent : AgentId) : Bool := agent ∉ denials.protocol

def allowsResource (denials : Denials) (agent : AgentId) (message clock : UInt32) : Bool :=
  !denials.resources.any fun denied =>
    denied.agent = agent && denied.clock = clock
      && (denied.message?.all (· = message))

end Denials

/-- What a rule says about a rate. -/
inductive RateRule where
  | skip
  | reject
  deriving DecidableEq

structure PolicyScript where
  rateRules : List (UInt64 × RateRule) := []
  rateFactor : UInt64 := 1
  rounding? : Option Rounding := none
  skip : List UInt32 := []
  rejectPre : List UInt32 := []
  rejectPost : List UInt32 := []
  invert : List UInt32 := []

namespace PolicyScript

def reviewRate (script : PolicyScript) (rate : UInt64) (rounding : Rounding) : RateReview :=
  match script.rateRules.lookup rate with
  | some .skip => ⟨.ok .skip, rate, rounding⟩
  | some .reject => ⟨.error .rejected, rate, rounding⟩
  | none => ⟨.ok .proceed, rate * script.rateFactor, script.rounding?.getD rounding⟩

def reviewState (script : PolicyScript) (phase : Phase) (clock : UInt32) (state : ClockState) :
    StateReview :=
  let rejected :=
    match phase with
    | .pre => script.rejectPre
    | .post => script.rejectPost
  if clock ∈ rejected then ⟨.error .rejected, state⟩
  else if clock ∈ script.skip then ⟨.ok .skip, state⟩
  else ⟨.ok .proceed, if clock ∈ script.invert then state.flip else state⟩

end PolicyScript

inductive Policy where
  | sharing (tables : Sharing)
  | scripted (script : PolicyScript)

end ClockManager.Bench
