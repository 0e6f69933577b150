import ClockManager.Toml.Document
import ClockManager.Topology
/-!
# Topology documents

A topology is written as a TOML document with a pending limit, a list of devices and a list of
agents. Every record in it may be a table, whose keys must all be known, or an array that gives the
fields by position and may go on behind the last. Lists, the limit and the flag of a clock may be
missing.
-/

namespace ClockManager

/-- How a well-formed document fails to describe a topology. -/
inductive ShapeError where
  | unknownKey (key : String)
  | missingKey (key : String)
  | wrongType (key : String)
  deriving DecidableEq

def ShapeError.message : ShapeError → String
  | unknownKey key => s!"unknown key {key}"
  | missingKey key => s!"missing key {key}"
  | wrongType key => s!"value of {key} has the wrong type or is out of range"

inductive LoadError where
  | read (path reason : String)
  | malformed (fault : Toml.Fault)
  | misshapen (error : ShapeError)
  | invalid (error : TopologyError)
  deriving DecidableEq

/-- What every complaint about the text of a document starts with. -/
def LoadError.parseLabel : String := "failed to parse clock config: "

def LoadError.message : LoadError → String
  | read path reason => s!"failed to read clock config {path}: {reason}"
  | malformed fault => parseLabel ++ fault.message
  | misshapen error => parseLabel ++ error.message
  | invalid error => error.message

namespace TopologyDocument

abbrev Shaped := Except ShapeError

/-- The fields of a record by name. -/
def fields (key : String) (names : List String) : Toml.Value → Shaped Toml.Entries
  | .table _ entries =>
    match entries.find? fun (name, _) => name ∉ names with
    | some (name, _) => .error (.unknownKey name)
    | none => .ok entries
  | .array elements => .ok (names.zip elements)
  | .tables elements => .ok (names.zip (elements.map (.table .header)))
  | _ => .error (.wrongType key)

def required {α : Type} (entries : Toml.Entries) (key : String) (read : Toml.Value → Shaped α) :
    Shaped α :=
  match entries.lookup key with
  | some value => read value
  | none => .error (.missingKey key)

def optional {α : Type} (entries : Toml.Entries) (key : String) (default : α)
    (read : Toml.Value → Shaped α) : Shaped α :=
  match entries.lookup key with
  | some value => read value
  | none => .ok default

def text (key : String) : Toml.Value → Shaped String
  | .string s => .ok s
  | _ => .error (.wrongType key)

def flag (key : String) : Toml.Value → Shaped Bool
  | .boolean b => .ok b
  | _ => .error (.wrongType key)

/-- A whole number from zero up to `limit`. -/
def natural (key : String) (limit : Nat) : Toml.Value → Shaped Nat
  | .integer n => if 0 ≤ n ∧ n.toNat ≤ limit then .ok n.toNat else .error (.wrongType key)
  | _ => .error (.wrongType key)

def list {α : Type} (key : String) (read : Toml.Value → Shaped α) : Toml.Value → Shaped (List α)
  | .array elements => elements.mapM read
  | .tables elements => (elements.map (.table .header)).mapM read
  | _ => .error (.wrongType key)

def device (value : Toml.Value) : Shaped String := do
  let entries ← fields "devices" ["name"] value
  required entries "name" (text "name")

def clock (value : Toml.Value) : Shaped ClockRecord := do
  let entries ← fields "clocks" ["device", "starts_enabled"] value
  let device ← required entries "device" (natural "device" (Nat.pow 2 32 - 1))
  let startsEnabled ← optional entries "starts_enabled" false (flag "starts_enabled")
  return ⟨⟨UInt32.ofNat device⟩, startsEnabled⟩

def agent (value : Toml.Value) : Shaped AgentView := do
  let entries ← fields "agents" ["name", "clocks"] value
  let name ← required entries "name" (text "name")
  let clocks ← optional entries "clocks" [] (list "clocks" clock)
  return ⟨name, clocks⟩

/-- The parts of a topology that a root table gives. -/
def parts (root : Toml.Entries) : Shaped (UInt8 × List String × List AgentView) := do
  let entries ← fields "" ["max_pending_transactions", "devices", "agents"] (.table .header root)
  let maxPending ← optional entries "max_pending_transactions" 0
    (natural "max_pending_transactions" 255)
  let devices ← optional entries "devices" [] (list "devices" device)
  let agents ← optional entries "agents" [] (list "agents" agent)
  return (UInt8.ofNat maxPending, devices, agents)

end TopologyDocument

namespace Topology

/-- The topology that the text of a document describes. -/
def ofDocument (document : String) : Except LoadError Topology :=
  match Toml.parse document with
  | .error fault => .error (.malformed fault)
  | .ok root =>
    match TopologyDocument.parts root with
    | .error error => .error (.misshapen error)
    | .ok (maxPending, devices, agents) =>
      (ofParts maxPending devices agents).mapError .invalid

/-- The topology in a file of which the contents, or why there are none, are given. -/
def load (path : String) (contents : Except String String) : Except LoadError Topology :=
  match contents with
  | .error reason => .error (.read path reason)
  | .ok document => ofDocument document

end Topology
end ClockManager
