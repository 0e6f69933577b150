import ClockManager.Toml.Blank
/-!
# Strings

A basic string has escapes, a literal string has none; either may run over several lines when three
quotes open it. Up to two quotes may stand directly before the three that close such a string.
-/

namespace ClockManager.Toml

/-- Where the reading of a basic string stands: in plain text, behind a backslash, in the digits of an
escape, or in the blanks behind a backslash that joins lines. -/
inductive TextMode where
  | plain
  | escaped
  | digits (left value : Nat)
  | joining (lineEnded : Bool)
  deriving DecidableEq

def hexValue? (c : Char) : Option Nat :=
  if '0' ≤ c && c ≤ '9' then some (c.toNat - '0'.toNat)
  else if 'a' ≤ c && c ≤ 'f' then some (c.toNat - 'a'.toNat + 10)
  else if 'A' ≤ c && c ≤ 'F' then some (c.toNat - 'A'.toNat + 10)
  else none

/-- The character with this code point; surrogates are none. -/
def charOf? (code : Nat) : Option Char :=
  if code.isValidChar then some (Char.ofNat code) else none

def shortEscape? : Char → Option Char
  | 'b' => some '\x08'
  | 't' => some '\t'
  | 'n' => some '\n'
  | 'f' => some '\x0c'
  | 'r' => some '\r'
  | '"' => some '"'
  | '\\' => some '\\'
  | _ => none

namespace TextMode

def stepPlain? (multiline : Bool) (c : Char) : Option (List Char × TextMode) :=
  if c = '\\' then some ([], escaped)
  else if isText c || (multiline && c = '\n') then some ([c], plain)
  else none

/-- What one character adds to the text, and how reading goes on. -/
def step? (multiline : Bool) (c : Char) : TextMode → Option (List Char × TextMode)
  | plain => stepPlain? multiline c
  | escaped =>
    if c = 'u' then some ([], digits 4 0)
    else if c = 'U' then some ([], digits 8 0)
    else if multiline && isBlank c then some ([], joining false)
    else if multiline && c = '\n' then some ([], joining true)
    else (shortEscape? c).map fun c => ([c], plain)
  | digits left value =>
    (hexValue? c).bind fun digit =>
      let value := value * 16 + digit
      if left = 1 then (charOf? value).map fun c => ([c], plain)
      else some ([], digits (left - 1) value)
  | joining lineEnded =>
    if isBlank c then some ([], joining lineEnded)
    else if c = '\n' then some ([], joining true)
    else if lineEnded then stepPlain? multiline c
    else none

/-- Whether a quote met here is one that may close the string. -/
def closable : TextMode → Bool
  | plain => true
  | joining lineEnded => lineEnded
  | _ => false

end TextMode

/-- What follows a closing quote and, in a string of several lines, the quotes before it that belong
to the text; none when the quote at the front does not close the string. -/
def closing? (quote : Char) (multiline : Bool) (input : Input) : Option (List Char × Input) :=
  let count := (input.takeWhile (· = quote)).length
  if multiline then
    if count < 3 then none
    else
      let inner := min (count - 3) 2
      some (List.replicate inner quote, input.drop (inner + 3))
  else if count = 0 then none
  else some ([], input.drop 1)

def basicText (multiline : Bool) (mode : TextMode) : Scan (List Char)
  | [] => .error .unterminated
  | c :: rest =>
    if c = '"' && mode.closable then
      match closing? '"' multiline (c :: rest) with
      | some closed => .ok closed
      | none => (basicText multiline .plain rest).map fun (text, rest) => (c :: text, rest)
    else
      match mode.step? multiline c with
      | none => .error .invalidEscape
      | some (added, mode) =>
        (basicText multiline mode rest).map fun (text, rest) => (added ++ text, rest)

def literalText (multiline : Bool) : Scan (List Char)
  | [] => .error .unterminated
  | c :: rest =>
    match closing? '\x27' multiline (c :: rest) with
    | some closed => .ok closed
    | none =>
      if isText c || (multiline && c = '\n') then
        (literalText multiline rest).map fun (text, rest) => (c :: text, rest)
      else unexpected (c :: rest)

/-- A line end directly behind the opening quotes is not part of the text. -/
def dropFirstLineEnd : Input → Input
  | '\n' :: rest => rest
  | input => input

def toText (scanned : List Char × Input) : String × Input := (String.ofList scanned.1, scanned.2)

def lineString : Scan String
  | '"' :: rest => (basicText false .plain rest).map toText
  | '\x27' :: rest => (literalText false rest).map toText
  | input => unexpected input

def anyString : Scan String
  | '"' :: '"' :: '"' :: rest => (basicText true .plain (dropFirstLineEnd rest)).map toText
  | '\x27' :: '\x27' :: '\x27' :: rest => (literalText true (dropFirstLineEnd rest)).map toText
  | input => lineString input

end ClockManager.Toml
