import ClockManager.Dialogue
/-!
# Work for the hardware

What a request about a clock asks of the hardware, and what an answer of the hardware settles.
-/

namespace ClockManager

/-- What the hardware is to be asked. -/
inductive Work where
  | getState
  | getRate
  | setRate (rate : UInt64) (rounding : Rounding)
  | setState (state : ClockState)
  deriving DecidableEq

def Work.kind : Work → RequestKind
  | getState => .getState
  | getRate => .getRate
  | setRate _ _ => .setRate
  | setState _ => .setState

/-- The state that the work is to bring about. -/
def Work.target? : Work → Option ClockState
  | setState s => some s
  | _ => none

structure WorkItem where
  device : DeviceId
  work : Work
  deriving DecidableEq

inductive WorkOutcome where
  | completed
  | pending
  deriving DecidableEq

/-- Whether a value is of the shape that a kind of request ends in. -/
def Value.fits : Value → RequestKind → Bool
  | .state _, .getState => true
  | .rate _, .getRate => true
  | .applied, .setRate => true
  | .applied, .setState => true
  | _, _ => false

/-- What a hardware answer settles: nothing yet while it is pending. -/
def settle {α : Type} (wrap : α → Value) :
    Except HardwareError (Outcome α) → Option (Except HardwareError Value)
  | .ok (.done value) => some (.ok (wrap value))
  | .ok .pending => none
  | .error error => some (.error error)

def Work.perform (device : DeviceId) : Work → Dialogue (Option (Except HardwareError Value))
  | getState => return settle .state (← Dialogue.call (.getState device))
  | getRate => return settle .rate (← Dialogue.call (.getRate device))
  | setRate rate rounding =>
    return settle (fun _ => .applied) (← Dialogue.call (.setRate device rate rounding))
  | setState s => return settle (fun _ => .applied) (← Dialogue.call (.setState device s))

end ClockManager
