import ClockManager.Toml.Value
/-!
# Building tables

Lines add to a tree of tables from the root down. A key is defined once. A header may complete a table
that was only implied by other headers, and a dotted key may go on with a table that a dotted key
began; nothing else is added to twice.
-/

namespace ClockManager.Toml

namespace Entries

def find? (entries : Entries) (key : String) : Option Value := entries.lookup key

def put (entries : Entries) (key : String) (value : Value) : Entries :=
  if (entries.lookup key).isSome then
    entries.map fun (k, old) => if k = key then (k, value) else (k, old)
  else entries ++ [(key, value)]

/-- Whether a dotted key may lead through a table of this origin. -/
def openToKeys : Origin → Bool
  | .implied => true
  | .dotted => true
  | .header => false
  | .inline => false

/-- Edits the table at the end of `path`. Tables missing on the way arise with the origin `via`, which
says whether a header or a dotted key leads there; of an array of tables, the last one is meant. -/
def editAt (via : Origin) (edit : Origin → Entries → Except Fault Entries) :
    List String → Origin → Entries → Except Fault Entries
  | [], origin, entries => edit origin entries
  | key :: path, _, entries =>
    match entries.find? key with
    | none => do
      let child ← editAt via edit path via []
      return entries.put key (.table via child)
    | some (.table origin child) =>
      if origin = .inline then .error (.notATable key)
      else if via = .dotted && !openToKeys origin then .error (.duplicateKey key)
      else do
        let child ← editAt via edit path origin child
        return entries.put key (.table origin child)
    | some (.tables elements) => do
      let last ← editAt via edit path .header (elements.getLastD [])
      return entries.put key (.tables (elements.dropLast ++ [last]))
    | some _ => .error (.notATable key)

def define (path : List String) (key : String) (value : Value) (origin : Origin)
    (entries : Entries) : Except Fault Entries :=
  editAt .dotted
    (fun reached entries =>
      if decide (reached = .dotted) == path.isEmpty then .error (.duplicateKey key)
      else if (entries.find? key).isSome then .error (.duplicateKey key)
      else .ok (entries.put key value))
    path origin entries

def openTable (path : List String) (key : String) : Entries → Except Fault Entries :=
  editAt .implied
    (fun _ entries =>
      match entries.find? key with
      | none => .ok (entries.put key (.table .header []))
      | some (.table .implied child) => .ok (entries.put key (.table .header child))
      | some _ => .error (.duplicateKey key))
    path .header

/-- Opens one more table in the array of tables that a header names. -/
def appendTable (path : List String) (key : String) : Entries → Except Fault Entries :=
  editAt .implied
    (fun _ entries =>
      match entries.find? key with
      | none => .ok (entries.put key (.tables [[]]))
      | some (.tables elements) => .ok (entries.put key (.tables (elements ++ [[]])))
      | some _ => .error (.duplicateKey key))
    path .header

end Entries
end ClockManager.Toml
