/-!
# Values of a TOML document

A table remembers how it came about, because that decides whether a later line may still add to it.
An array of tables that was written with headers is kept apart from an array written in place for the
same reason.
-/

namespace ClockManager.Toml

/-- How a table came about: under a header of its own, as the parent of such a header, from a dotted
key, or written in place. -/
inductive Origin where
  | header
  | implied
  | dotted
  | inline
  deriving DecidableEq

inductive Value where
  | string (text : String)
  | integer (value : Int)
  | float (text : String)
  | boolean (value : Bool)
  | moment (text : String)
  | array (elements : List Value)
  | table (origin : Origin) (entries : List (String × Value))
  | tables (elements : List (List (String × Value)))

abbrev Entries := List (String × Value)

inductive Fault where
  | unexpected (found : Option Char)
  | unterminated
  | invalidEscape
  | outOfRange (text : String)
  | duplicateKey (key : String)
  | notATable (key : String)
  | tooDeep
  deriving DecidableEq

def Fault.message : Fault → String
  | unexpected (some found) => s!"unexpected character U+{String.ofList (Nat.toDigits 16 found.toNat)}"
  | unexpected none => "unexpected end of the document"
  | unterminated => "a string, array or table is not closed"
  | invalidEscape => "invalid escape in a string"
  | outOfRange text => s!"number {text} is out of range"
  | duplicateKey key => s!"key {key} is defined twice"
  | notATable key => s!"key {key} does not name a table"
  | tooDeep => "nested too deeply"

abbrev Input := List Char

/-- Reads something from the front of the input and leaves the rest. -/
abbrev Scan (α : Type) := Input → Except Fault (α × Input)

def unexpected {α : Type} (input : Input) : Except Fault α := .error (.unexpected input.head?)

end ClockManager.Toml
