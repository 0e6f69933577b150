import ClockManager.Log
import ClockManager.Topology.Document
/-!
# The command line

The program checks a topology file and shows what each agent sees.
-/

namespace ClockManager

inductive Command where
  | help
  | check (path : String)
  | unknown (args : List String)
  deriving DecidableEq

/-- What a command prints, and what it logs. -/
structure Report where
  output : String
  log : List LogRecord
  deriving DecidableEq

namespace Command

def helpText : String :=
  s!"{programName} validates SCMI clock topologies. Usage: {programName} [--help]"
    ++ " | check <config.toml>"

/-- No argument asks for help, and so does `--help` wherever it stands. -/
def ofArgs (args : List String) : Command :=
  if args.isEmpty || args.contains "--help" then .help
  else
    match args with
    | ["check", path] => .check path
    | _ => .unknown args

/-- One clock of a view: its number, its device and whether it starts enabled. -/
def clockText (topology : Topology) (clock : ClockRecord) (index : Nat) : String :=
  let name := (topology.deviceName? clock.device).getD "?"
  let state := if clock.startsEnabled then "on" else "off"
  s!" [{index}]={name}({state})"

def agentText (topology : Topology) (view : AgentView) (agent : Nat) : String :=
  let clocks := view.clocks.zipIdx.map fun (clock, index) => clockText topology clock index
  s!"\nagent {agent} {view.name}:" ++ String.join clocks

def summary (topology : Topology) : String :=
  let agents := topology.agents.zipIdx.map fun (view, agent) => agentText topology view agent
  s!"ok: {topology.deviceCount} devices, {topology.agentCount} agents"
    ++ s!", max_pending_transactions={topology.maxPending}" ++ String.join agents

def checkReport (path : String) : Except LoadError Topology → Report
  | .error error => ⟨s!"invalid: {error.message}", [.own .error error.message]⟩
  | .ok topology => ⟨summary topology, [.own .info s!"loaded {path}"]⟩

/-- Carries out a command; only a check reads the file. -/
def execute {m : Type → Type} [Monad m] (readFile : String → m (Except String String)) :
    Command → m Report
  | help => return ⟨helpText, []⟩
  | check path => return checkReport path (Topology.load path (← readFile path))
  | unknown args => return ⟨s!"unknown arguments {Text.quotedList args}\n{helpText}", []⟩

end Command
end ClockManager
