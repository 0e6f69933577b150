import ClockManager.Toml.Value
/-!
# Blanks, comments and line ends

A line ends in a line feed; a carriage return is allowed in front of it and nowhere else, so a
document is read with these removed.
-/

namespace ClockManager.Toml

/-- Drops each carriage return that stands before a line feed. -/
def unifyLineEnds : Input → Input
  | '\r' :: '\n' :: rest => '\n' :: unifyLineEnds rest
  | c :: rest => c :: unifyLineEnds rest
  | [] => []

def isBlank (c : Char) : Bool := c = ' ' || c = '\t'

/-- The tab and every character that is not a control character of seven bits. -/
def isText (c : Char) : Bool := c = '\t' || (' ' ≤ c && c ≠ '\x7f')

def skipBlank (input : Input) : Input := input.dropWhile isBlank

def skipComment : Input → Input
  | '#' :: rest => rest.dropWhile isText
  | input => input

/-- The start of the next line: only blanks and a comment may come before it. -/
def lineEnd (input : Input) : Except Fault Input :=
  match skipComment (skipBlank input) with
  | [] => .ok []
  | '\n' :: rest => .ok rest
  | rest => unexpected rest

/-- Drops blanks, line ends and comments. A comment that no line end closes leaves nothing, or a
character that starts nothing. -/
def skipLines (inComment : Bool) : Input → Input
  | [] => []
  | c :: rest =>
    if c = '\n' then skipLines false rest
    else if inComment then
      if isText c then skipLines true rest else c :: rest
    else if isBlank c then skipLines false rest
    else if c = '#' then skipLines true rest
    else c :: rest

end ClockManager.Toml
