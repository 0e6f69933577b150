import ClockManager.Log
import ClockManager.Lookup
import ClockManager.Policy
import ClockManager.Rate.Page
import ClockManager.Request
import ClockManager.Tracker
/-!
# Notices

What the platform reports in its log while it works. A notice never influences what is answered.
-/

namespace ClockManager

inductive Notice where
  | rejected (raw : UInt32) (service : ServiceId) (error : DecodeError)
  | denied (message : Message) (service : ServiceId)
  | agentUnresolved (service : ServiceId) (error : LookupError)
  | clockUnresolved (clock : UInt32) (service : ServiceId) (error : LookupError)
  | rateSetRejected (error : PolicyError)
  | configSetRejected (error : PolicyError)
  | rangeUnavailable (device : DeviceId) (error : HardwareError)
  | describeFailed (device : DeviceId) (error : DescribeError)
  | stagingFailed (error : TransportError)
  | untracked (error : TrackerError)
  | claimed (device : DeviceId) (kind : RequestKind) (service : ServiceId)
  | released (device : DeviceId)
  | idleItem (device : DeviceId)
  | pending (device : DeviceId) (kind : RequestKind)
  | failed (device : DeviceId) (kind : RequestKind) (error : HardwareError)
  | mismatched (device : DeviceId) (kind : RequestKind) (value : Value)
  | unsolicited (device : DeviceId)
  | targetLost (device : DeviceId)
  | commitFailed (device : DeviceId) (error : PolicyError)
  | invalidTransition (error : PolicyError)
  | invalidStop (context : PolicyContext)
  | shared (agent : AgentId) (device : DeviceId) (refcount : UInt32)
  | stopSuppressed (agent : AgentId) (device : DeviceId) (refcount : UInt32)
  deriving DecidableEq

namespace Notice

def level : Notice → LogLevel
  | untracked _ => .warn
  | idleItem _ => .warn
  | mismatched _ _ _ => .warn
  | unsolicited _ => .warn
  | targetLost _ => .warn
  | commitFailed _ _ => .warn
  | invalidTransition _ => .warn
  | invalidStop _ => .warn
  | _ => .debug

def text : Notice → String
  | rejected raw service error => s!"reject message {raw} from {service.label}: {error.label}"
  | denied message service => s!"{message.label} denied for {service.label}"
  | agentUnresolved service error =>
    s!"protocol attributes for {service.label}: {error.message}"
  | clockUnresolved clock service error =>
    s!"clock {clock} for {service.label}: {error.message}"
  | rateSetRejected error => s!"rate set rejected: {error.message}"
  | configSetRejected error => s!"config set rejected: {error.message}"
  | rangeUnavailable device error => s!"get_info({device.raw}) failed: {error.message}"
  | describeFailed device error => s!"describe rates for device {device.raw}: {error.message}"
  | stagingFailed error => s!"staging describe rates failed: {error.message}"
  | untracked error => error.message
  | claimed device kind service =>
    s!"device {device.raw} busy ({kind.label} for {service.label})"
  | released device => s!"device {device.raw} available"
  | idleItem device => s!"work item for idle device {device.raw}"
  | pending device kind => s!"device {device.raw} {kind.label} pending"
  | failed device kind error => s!"device {device.raw} {kind.label} failed: {error.message}"
  | mismatched device kind value =>
    s!"device {device.raw} completed {value.label} for a {kind.label} request"
  | unsolicited device => s!"unsolicited completion for device {device.raw}"
  | targetLost device => s!"set-state slot for device {device.raw} lost its target"
  | commitFailed device error => s!"post-commit for device {device.raw}: {error.message}"
  | invalidTransition error => error.message
  | invalidStop context =>
    s!"invalid STOP request agent {context.agent.raw} clock {context.clock}"
      ++ s!" device {context.device.raw}"
  | shared agent device refcount =>
    s!"agent {agent.raw} shares running device {device.raw} (refcount {refcount})"
  | stopSuppressed agent device refcount =>
    s!"agent {agent.raw} stop of shared device {device.raw} suppressed (refcount {refcount})"

def record (notice : Notice) : LogRecord := .own notice.level notice.text

end Notice
end ClockManager
