import ClockManager.Toml.Moment
import ClockManager.Toml.Table
import ClockManager.Toml.Text
/-!
# Documents

A document is a sequence of lines that define keys or open tables. `parse` gives the entries of its
root table.
-/

namespace ClockManager.Toml

/-- Neither values nor dotted keys may be nested this deep. -/
def depthLimit : Nat := 80

/-! ### Keys -/

def isBareKeyChar (c : Char) : Bool := c.isAlphanum || c = '_' || c = '-'

def simpleKey : Scan String
  | '"' :: rest => lineString ('"' :: rest)
  | '\x27' :: rest => lineString ('\x27' :: rest)
  | input =>
    match input.takeWhile isBareKeyChar with
    | [] => unexpected input
    | key => .ok (String.ofList key, input.dropWhile isBareKeyChar)

/-- The parts of a key between dots; each dot needs at least one more character. -/
def keyParts : Nat → Scan (List String)
  | 0, _ => .error .tooDeep
  | fuel + 1, input => do
    let (part, rest) ← simpleKey (skipBlank input)
    match skipBlank rest with
    | '.' :: rest => do
      let (parts, rest) ← keyParts fuel rest
      return (part :: parts, rest)
    | rest => return ([part], rest)

/-- A key as the tables it leads through and the name it ends in. -/
def dottedKey (input : Input) : Except Fault ((List String × String) × Input) := do
  let (parts, rest) ← keyParts (input.length + 1) input
  if depthLimit ≤ parts.length then .error .tooDeep
  else return ((parts.dropLast, parts.getLastD ""), rest)

/-! ### Values -/

/-- The elements of an array from behind its bracket, or from behind a comma. -/
def elements (value : Scan Value) : Nat → Scan (List Value)
  | 0, _ => .error .unterminated
  | fuel + 1, input =>
    match skipLines false input with
    | ']' :: rest => .ok ([], rest)
    | start => do
      let (first, rest) ← value start
      match skipLines false rest with
      | ',' :: rest => do
        let (others, rest) ← elements value fuel rest
        return (first :: others, rest)
      | ']' :: rest => return ([first], rest)
      | rest => unexpected rest

def keyValue (value : Scan Value) (input : Input) :
    Except Fault ((List String × String × Value) × Input) := do
  let ((path, key), rest) ← dottedKey input
  match rest with
  | '=' :: rest => do
    let (value, rest) ← value (skipBlank rest)
    return ((path, key, value), rest)
  | rest => unexpected rest

/-- The entries of a table written in place, from a key on. -/
def inlineEntries (value : Scan Value) : Nat → Entries → Scan Entries
  | 0, _, _ => .error .unterminated
  | fuel + 1, entries, input => do
    let ((path, key, value'), rest) ← keyValue value input
    let entries ← entries.define path key value' .inline
    match skipBlank rest with
    | ',' :: rest => inlineEntries value fuel entries rest
    | '}' :: rest => return (entries, rest)
    | rest => unexpected rest

def inlineTable (value : Scan Value) (input : Input) : Except Fault (Entries × Input) :=
  match skipBlank input with
  | '}' :: rest => .ok ([], rest)
  | _ => inlineEntries value (input.length + 1) [] input

/-- A value; arrays and tables in it may be nested to the given depth. -/
def value : Nat → Scan Value
  | depth, '[' :: rest =>
    match depth with
    | 0 => .error .tooDeep
    | depth + 1 =>
      (elements (value depth) (rest.length + 1) rest).map fun (es, rest) => (.array es, rest)
  | depth, '{' :: rest =>
    match depth with
    | 0 => .error .tooDeep
    | depth + 1 =>
      (inlineTable (value depth) rest).map fun (es, rest) => (.table .inline es, rest)
  | _, 't' :: 'r' :: 'u' :: 'e' :: rest => .ok (.boolean true, rest)
  | _, 'f' :: 'a' :: 'l' :: 's' :: 'e' :: rest => .ok (.boolean false, rest)
  | _, '"' :: rest => (anyString ('"' :: rest)).map fun (text, rest) => (.string text, rest)
  | _, '\x27' :: rest => (anyString ('\x27' :: rest)).map fun (text, rest) => (.string text, rest)
  | _, input => (moment? input).elim (number input) .ok

/-! ### Lines -/

/-- The root table so far, and the path of the table that the next keys belong to. -/
structure Draft where
  root : Entries
  current : List String

namespace Draft

def define (draft : Draft) (path : List String) (key : String) (value : Value) :
    Except Fault Draft := do
  let root ← Entries.editAt .implied
    (fun origin entries => entries.define path key value origin) draft.current .header draft.root
  return { draft with root }

def openTable (draft : Draft) (path : List String) (key : String) : Except Fault Draft := do
  let root ← Entries.openTable path key draft.root
  return ⟨root, path ++ [key]⟩

def appendTable (draft : Draft) (path : List String) (key : String) : Except Fault Draft := do
  let root ← Entries.appendTable path key draft.root
  return ⟨root, path ++ [key]⟩

def line (draft : Draft) : Input → Except Fault (Draft × Input)
  | '[' :: '[' :: rest => do
    let ((path, key), rest) ← dottedKey rest
    match rest with
    | ']' :: ']' :: rest => return (← draft.appendTable path key, ← lineEnd rest)
    | rest => unexpected rest
  | '[' :: rest => do
    let ((path, key), rest) ← dottedKey rest
    match rest with
    | ']' :: rest => return (← draft.openTable path key, ← lineEnd rest)
    | rest => unexpected rest
  | input => do
    let ((path, key, value), rest) ← keyValue (value (depthLimit - 1)) input
    return (← draft.define path key value, ← lineEnd rest)

/-- All lines; each takes at least one character. -/
def lines : Nat → Draft → Input → Except Fault Entries
  | 0, _, _ => .error .unterminated
  | fuel + 1, draft, input =>
    match skipLines false input with
    | [] => .ok draft.root
    | start => do
      let (draft, rest) ← draft.line start
      lines fuel draft rest

end Draft

/-- The root table of a document; a byte order mark in front of it is not part of it. -/
def parse (document : String) : Except Fault Entries :=
  let input :=
    match document.toList with
    | '\ufeff' :: rest => rest
    | input => input
  let input := unifyLineEnds input
  Draft.lines (input.length + 1) ⟨[], []⟩ input

end ClockManager.Toml
