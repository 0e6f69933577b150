import ClockManager.Proofs.Checked.Page
import ClockManager.Proofs.Checked.Wire
/-!
# Admission without faults

What a message asks of the machine besides its collaborators: it is decoded, a page is described and
staged for it, or a frame is written in answer. With each of these done by checked operations the
message is still assessed in the same dialogue, to the same end.
-/

namespace ClockManager

open Dialogue (call log)

namespace Admission

def frameChecked (frame : Frame) : Checked Admission := do
  return .answer (.bytes (← frame.bytesChecked))

def statusChecked (status : Status) : Checked Admission := frameChecked (.status status)

def messageAttributesChecked (message : UInt32) : Checked Admission :=
  match Message.ofRaw? message with
  | some _ => frameChecked (.messageAttributes 0)
  | none => statusChecked .notFound

theorem frameChecked_eq (frame : Frame) : frameChecked frame = .ok (.frame frame) := by
  rw [frameChecked, Frame.bytesChecked_eq]
  rfl

theorem lift_frameChecked (frame : Frame) : (liftM (frameChecked frame) : Guarded Admission) =
    liftM (pure (.frame frame) : Dialogue Admission) := by
  rw [frameChecked_eq]
  rfl

theorem lift_statusChecked (status : Status) : (liftM (statusChecked status) : Guarded Admission) =
    liftM (pure (.status status) : Dialogue Admission) :=
  lift_frameChecked (.status status)

theorem lift_messageAttributesChecked (message : UInt32) :
    (liftM (messageAttributesChecked message) : Guarded Admission) =
      liftM (pure (.messageAttributes message) : Dialogue Admission) := by
  unfold messageAttributesChecked messageAttributes
  cases Message.ofRaw? message with
  | some _ => exact lift_frameChecked _
  | none => exact lift_statusChecked _

end Admission

namespace RatePage

def stagingFailedChecked (error : TransportError) : Guarded Admission := do
  log (.stagingFailed error)
  Admission.statusChecked .genericError

/-- Room for the entries is made before they are staged. -/
def stageChecked (page : RatePage) (service : ServiceId) : Guarded Admission := do
  let _ ← page.entriesSizeChecked
  let header ← page.headerChecked
  match ← call (.stage service headerSize page.entries) with
  | .error error => stagingFailedChecked error
  | .ok () =>
    match ← call (.stage service 0 header) with
    | .error error => stagingFailedChecked error
    | .ok () =>
      let entriesSize ← page.entriesSizeChecked
      let length ← Checked.add headerSize entriesSize
      return .answer (.staged length)

theorem stagingFailedChecked_eq (error : TransportError) :
    stagingFailedChecked error = liftM (stagingFailed error) :=
  Guarded.lift_bind fun _ => Admission.lift_statusChecked _

theorem Fits.stageChecked_eq {page : RatePage} {capacity : Nat} (h : page.Fits capacity)
    (service : ServiceId) : page.stageChecked service = liftM (page.stage service) := by
  rw [stageChecked, h.entriesSizeChecked_eq, Guarded.ok_bind, headerChecked_eq, Guarded.ok_bind]
  refine Guarded.lift_bind fun entriesStaged => ?_
  cases entriesStaged with
  | error error => exact stagingFailedChecked_eq error
  | ok =>
    refine Guarded.lift_bind fun headerStaged => ?_
    cases headerStaged with
    | error error => exact stagingFailedChecked_eq error
    | ok =>
      dsimp only
      rw [Guarded.ok_bind, Checked.add_of_lt h.entriesSize_lt]
      rfl

end RatePage

namespace Topology

variable (topology : Topology)

def assessProtocolAttributesChecked (service : ServiceId) : Guarded Admission := do
  match topology.resolveAgent (← call (.agentOf service)) with
  | .ok (_, view) =>
    Admission.frameChecked (.protocolAttributes topology.maxPending view.clockCount)
  | .error error =>
    log (.agentUnresolved service error)
    Admission.statusChecked .genericError

def assessReadChecked (service : ServiceId) (clock : UInt32) (work : Work) :
    Guarded Admission := do
  match topology.resolveClock (← call (.agentOf service)) clock with
  | .ok clock => return .accept clock work
  | .error error =>
    log (.clockUnresolved clock service error)
    Admission.statusChecked .notFound

def assessRateSetChecked (service : ServiceId) (flags clock : UInt32) (rate : UInt64) :
    Guarded Admission :=
  match RateFlags.ofBits? flags with
  | none => Admission.statusChecked .invalidParameters
  | some flags => do
    match topology.resolveClock (← call (.agentOf service)) clock with
    | .error _ => Admission.statusChecked .notFound
    | .ok clock =>
      if flags.async then Admission.statusChecked .notSupported
      else
        let review ← call (.reviewRate clock.context rate flags.rounding)
        match review.verdict with
        | .ok .proceed => return .accept clock (.setRate review.rate review.rounding)
        | .ok .skip => Admission.statusChecked .success
        | .error error =>
          log (.rateSetRejected error)
          Admission.statusChecked .genericError

def assessConfigSetChecked (service : ServiceId) (clock attributes : UInt32) :
    Guarded Admission :=
  match ConfigAttributes.ofBits? attributes with
  | none => Admission.statusChecked .invalidParameters
  | some state => do
    match topology.resolveClock (← call (.agentOf service)) clock with
    | .error _ => Admission.statusChecked .notFound
    | .ok clock =>
      let review ← call (.reviewState .pre clock.context state)
      match review.verdict with
      | .ok .proceed => return .accept clock (.setState review.state)
      | .ok .skip => Admission.statusChecked .success
      | .error error =>
        log (.configSetRejected error)
        Admission.statusChecked .genericError

def assessDescribeRatesChecked (service : ServiceId) (clock rateIndex : UInt32) :
    Guarded Admission := do
  match topology.resolveClock (← call (.agentOf service)) clock with
  | .error _ => Admission.statusChecked .notFound
  | .ok clock =>
    let device := clock.record.device
    match ← call (.maxPayload service) with
    | .error _ => Admission.statusChecked .genericError
    | .ok maxPayload =>
      match ← call (.rateRange device) with
      | .error error =>
        log (.rangeUnavailable device error)
        Admission.statusChecked .genericError
      | .ok range =>
        match ← RatePage.describeChecked range rateIndex (RatePage.capacity maxPayload)
            fun index => call (.rateAt device index) with
        | .ok page => page.stageChecked service
        | .error (.outOfRange _ _) => Admission.statusChecked .outOfRange
        | .error error =>
          log (.describeFailed device error)
          Admission.statusChecked .genericError

def assessRequestChecked (service : ServiceId) : Request → Guarded Admission
  | .protocolVersion => Admission.frameChecked .protocolVersion
  | .protocolAttributes => topology.assessProtocolAttributesChecked service
  | .protocolMessageAttributes message => Admission.messageAttributesChecked message
  | .clockAttributes clock => topology.assessReadChecked service clock .getState
  | .describeRates clock rateIndex => topology.assessDescribeRatesChecked service clock rateIndex
  | .rateSet flags clock rate => topology.assessRateSetChecked service flags clock rate
  | .rateGet clock => topology.assessReadChecked service clock .getRate
  | .configSet clock attributes => topology.assessConfigSetChecked service clock attributes

def assessChecked (service : ServiceId) (raw : UInt32) (payload : Bytes) : Guarded Admission := do
  match ← Request.decodeRawChecked raw payload with
  | .error error =>
    log (.rejected raw service error)
    Admission.statusChecked error.status
  | .ok request =>
    if ← request.permitted service then topology.assessRequestChecked service request
    else
      log (.denied request.message service)
      Admission.statusChecked .denied

variable {topology} {service : ServiceId} {clock : UInt32}

open Admission (lift_frameChecked lift_statusChecked lift_messageAttributesChecked)

theorem assessProtocolAttributesChecked_eq :
    topology.assessProtocolAttributesChecked service =
      liftM (topology.assessProtocolAttributes service) := by
  refine Guarded.lift_bind fun owner => ?_
  cases topology.resolveAgent owner with
  | ok found => exact lift_frameChecked _
  | error error => exact Guarded.lift_bind fun _ => lift_statusChecked _

theorem assessReadChecked_eq {work : Work} :
    topology.assessReadChecked service clock work =
      liftM (topology.assessRead service clock work) := by
  refine Guarded.lift_bind fun owner => ?_
  cases topology.resolveClock owner clock with
  | ok found => rfl
  | error error => exact Guarded.lift_bind fun _ => lift_statusChecked _

theorem assessRateSetChecked_eq {flags : UInt32} {rate : UInt64} :
    topology.assessRateSetChecked service flags clock rate =
      liftM (topology.assessRateSet service flags clock rate) := by
  unfold assessRateSetChecked assessRateSet
  cases RateFlags.ofBits? flags with
  | none => exact lift_statusChecked _
  | some flags =>
    refine Guarded.lift_bind fun owner => ?_
    cases topology.resolveClock owner clock with
    | error error => exact lift_statusChecked _
    | ok found =>
      dsimp only
      cases flags.async with
      | true => exact lift_statusChecked _
      | false =>
        refine Guarded.lift_bind fun review => ?_
        rcases review with ⟨_ | _ | _, rate, rounding⟩
        · exact Guarded.lift_bind fun _ => lift_statusChecked _
        · rfl
        · exact lift_statusChecked _

theorem assessConfigSetChecked_eq {attributes : UInt32} :
    topology.assessConfigSetChecked service clock attributes =
      liftM (topology.assessConfigSet service clock attributes) := by
  unfold assessConfigSetChecked assessConfigSet
  cases ConfigAttributes.ofBits? attributes with
  | none => exact lift_statusChecked _
  | some state =>
    refine Guarded.lift_bind fun owner => ?_
    cases topology.resolveClock owner clock with
    | error error => exact lift_statusChecked _
    | ok found =>
      refine Guarded.lift_bind fun review => ?_
      rcases review with ⟨_ | _ | _, state⟩
      · exact Guarded.lift_bind fun _ => lift_statusChecked _
      · rfl
      · exact lift_statusChecked _

theorem assessDescribeRatesChecked_eq {rateIndex : UInt32} :
    topology.assessDescribeRatesChecked service clock rateIndex =
      liftM (topology.assessDescribeRates service clock rateIndex) := by
  refine Guarded.lift_bind fun owner => ?_
  cases topology.resolveClock owner clock with
  | error error => exact lift_statusChecked _
  | ok found =>
    refine Guarded.lift_bind fun stated => ?_
    cases stated with
    | error error => exact lift_statusChecked _
    | ok maxPayload =>
      refine Guarded.lift_bind fun range => ?_
      cases range with
      | error error => exact Guarded.lift_bind fun _ => lift_statusChecked _
      | ok range =>
        -- Only a page that has been described is staged, so its sizes are small.
        refine Guarded.bind_of_takes (RatePage.describeChecked_eq _ _ _ _)
          fun history described takes => ?_
        rcases described with (_ | _ | _ | _) | page
        · exact lift_statusChecked _
        · exact Guarded.lift_bind fun _ => lift_statusChecked _
        · exact Guarded.lift_bind fun _ => lift_statusChecked _
        · exact Guarded.lift_bind fun _ => lift_statusChecked _
        · exact (RatePage.fits_of_takes_describe takes).stageChecked_eq service

theorem assessRequestChecked_eq (request : Request) :
    topology.assessRequestChecked service request =
      liftM (topology.assessRequest service request) := by
  cases request with
  | protocolVersion => exact lift_frameChecked _
  | protocolAttributes => exact assessProtocolAttributesChecked_eq
  | protocolMessageAttributes => exact lift_messageAttributesChecked _
  | clockAttributes | rateGet => exact assessReadChecked_eq
  | describeRates => exact assessDescribeRatesChecked_eq
  | rateSet => exact assessRateSetChecked_eq
  | configSet => exact assessConfigSetChecked_eq

theorem assessChecked_eq (raw : UInt32) (payload : Bytes) :
    topology.assessChecked service raw payload =
      liftM (topology.assess service raw payload) := by
  unfold assessChecked assess
  rw [Request.decodeRawChecked_eq, Guarded.ok_bind]
  cases Request.decodeRaw raw payload with
  | error error => exact Guarded.lift_bind fun _ => lift_statusChecked _
  | ok request =>
    refine Guarded.lift_bind fun permitted => ?_
    cases permitted with
    | true => exact assessRequestChecked_eq request
    | false => exact Guarded.lift_bind fun _ => lift_statusChecked _

end Topology
end ClockManager
