import ClockManager.Request.Flags
import ClockManager.Work
/-!
# Admission

What is to become of a message: it is answered now, or it becomes work for the clock it is about.
The checks stand in the order in which a failing one decides. Nothing here changes what is in flight.
-/

namespace ClockManager

inductive Admission where
  | answer (reply : Reply)
  | accept (clock : ResolvedClock) (work : Work)
  deriving DecidableEq

def Admission.frame (frame : Frame) : Admission := .answer (.bytes frame.bytes)

def Admission.status (status : Status) : Admission := .frame (.status status)

def ResolvedClock.context (clock : ResolvedClock) : PolicyContext :=
  ⟨clock.agent, clock.index, clock.record.device⟩

/-- Every known message has the attribute word zero. -/
def Admission.messageAttributes (message : UInt32) : Admission :=
  match Message.ofRaw? message with
  | some _ => .frame (.messageAttributes 0)
  | none => .status .notFound

open Dialogue (call log)

/-- Whether the sender may make the request: an agent that cannot be resolved may do nothing. -/
def Request.permitted (request : Request) (service : ServiceId) : Dialogue Bool := do
  match ← call (.agentOf service) with
  | .error _ => return false
  | .ok agent =>
    match request.clock? with
    | none => call (.allowsProtocol agent protocolId)
    | some clock => call (.allowsResource agent protocolId request.message.raw clock)

def RatePage.stagingFailed (error : TransportError) : Dialogue Admission := do
  log (.stagingFailed error)
  return .status .genericError

/-- Stages the entries of a page and then its header, which lies in front of them. -/
def RatePage.stage (page : RatePage) (service : ServiceId) : Dialogue Admission := do
  match ← call (.stage service headerSize page.entries) with
  | .error error => stagingFailed error
  | .ok () =>
    match ← call (.stage service 0 page.header) with
    | .error error => stagingFailed error
    | .ok () => return .answer (.staged (headerSize + page.entriesSize))

namespace Topology

variable (topology : Topology)

def assessProtocolAttributes (service : ServiceId) : Dialogue Admission := do
  match topology.resolveAgent (← call (.agentOf service)) with
  | .ok (_, view) => return .frame (.protocolAttributes topology.maxPending view.clockCount)
  | .error error =>
    log (.agentUnresolved service error)
    return .status .genericError

/-- A request that reads from the hardware needs nothing but its clock. -/
def assessRead (service : ServiceId) (clock : UInt32) (work : Work) : Dialogue Admission := do
  match topology.resolveClock (← call (.agentOf service)) clock with
  | .ok clock => return .accept clock work
  | .error error =>
    log (.clockUnresolved clock service error)
    return .status .notFound

def assessRateSet (service : ServiceId) (flags clock : UInt32) (rate : UInt64) :
    Dialogue Admission :=
  match RateFlags.ofBits? flags with
  | none => return .status .invalidParameters
  | some flags => do
    match topology.resolveClock (← call (.agentOf service)) clock with
    | .error _ => return .status .notFound
    | .ok clock =>
      if flags.async then return .status .notSupported
      else
        let review ← call (.reviewRate clock.context rate flags.rounding)
        match review.verdict with
        | .ok .proceed => return .accept clock (.setRate review.rate review.rounding)
        | .ok .skip => return .status .success
        | .error error =>
          log (.rateSetRejected error)
          return .status .genericError

def assessConfigSet (service : ServiceId) (clock attributes : UInt32) : Dialogue Admission :=
  match ConfigAttributes.ofBits? attributes with
  | none => return .status .invalidParameters
  | some state => do
    match topology.resolveClock (← call (.agentOf service)) clock with
    | .error _ => return .status .notFound
    | .ok clock =>
      let review ← call (.reviewState .pre clock.context state)
      match review.verdict with
      | .ok .proceed => return .accept clock (.setState review.state)
      | .ok .skip => return .status .success
      | .error error =>
        log (.configSetRejected error)
        return .status .genericError

def assessDescribeRates (service : ServiceId) (clock rateIndex : UInt32) :
    Dialogue Admission := do
  match topology.resolveClock (← call (.agentOf service)) clock with
  | .error _ => return .status .notFound
  | .ok clock =>
    let device := clock.record.device
    match ← call (.maxPayload service) with
    | .error _ => return .status .genericError
    | .ok maxPayload =>
      match ← call (.rateRange device) with
      | .error error =>
        log (.rangeUnavailable device error)
        return .status .genericError
      | .ok range =>
        match ← RatePage.describe range rateIndex (RatePage.capacity maxPayload)
            fun index => call (.rateAt device index) with
        | .ok page => page.stage service
        | .error (.outOfRange _ _) => return .status .outOfRange
        | .error error =>
          log (.describeFailed device error)
          return .status .genericError

def assessRequest (service : ServiceId) : Request → Dialogue Admission
  | .protocolVersion => return .frame .protocolVersion
  | .protocolAttributes => topology.assessProtocolAttributes service
  | .protocolMessageAttributes message => return .messageAttributes message
  | .clockAttributes clock => topology.assessRead service clock .getState
  | .describeRates clock rateIndex => topology.assessDescribeRates service clock rateIndex
  | .rateSet flags clock rate => topology.assessRateSet service flags clock rate
  | .rateGet clock => topology.assessRead service clock .getRate
  | .configSet clock attributes => topology.assessConfigSet service clock attributes

def assess (service : ServiceId) (raw : UInt32) (payload : Bytes) : Dialogue Admission :=
  match Request.decodeRaw raw payload with
  | .error error => do
    log (.rejected raw service error)
    return .status error.status
  | .ok request => do
    if ← request.permitted service then topology.assessRequest service request
    else
      log (.denied request.message service)
      return .status .denied

end Topology
end ClockManager
