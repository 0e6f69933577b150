/-!
# Log records
-/

namespace ClockManager

inductive LogLevel where
  | error
  | warn
  | info
  | debug
  deriving DecidableEq

def LogLevel.label : LogLevel → String
  | error => "ERROR"
  | warn => "WARN"
  | info => "INFO"
  | debug => "DEBUG"

structure LogRecord where
  level : LogLevel
  text : String
  deriving DecidableEq

/-- The name under which the program reports. -/
def programName : String := "scmi-clock"

namespace LogRecord

/-- A record of the program's own. -/
def own (level : LogLevel) (text : String) : LogRecord := ⟨level, s!"{programName}: {text}"⟩

def line (record : LogRecord) : String := s!"{record.level.label} {record.text}"

end LogRecord
end ClockManager
