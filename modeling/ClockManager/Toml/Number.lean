import ClockManager.Toml.Blank
/-!
# Numbers

Single underscores may stand between digits. A decimal number may be signed but has no leading zero;
a number in base 16, 8 or 2 has neither sign nor limit on zeros. An integer has 64 bits with a sign.
-/

namespace ClockManager.Toml

def isDigit (c : Char) : Bool := '0' ≤ c && c ≤ '9'

def digitValue (c : Char) : Nat :=
  if isDigit c then c.toNat - '0'.toNat
  else if 'a' ≤ c then c.toNat - 'a'.toNat + 10
  else c.toNat - 'A'.toNat + 10

def isDigitOf (base : Nat) (c : Char) : Bool :=
  (isDigit c || ('a' ≤ c && c ≤ 'f') || ('A' ≤ c && c ≤ 'F')) && digitValue c < base

/-- The digits that go on a number, without the underscores between them. -/
def moreDigits (ok : Char → Bool) : Input → List Char × Input
  | '_' :: c :: rest =>
    if ok c then
      let (digits, rest) := moreDigits ok rest
      (c :: digits, rest)
    else ([], '_' :: c :: rest)
  | c :: rest =>
    if ok c then
      let (digits, rest) := moreDigits ok rest
      (c :: digits, rest)
    else ([], c :: rest)
  | [] => ([], [])

def digits? (ok : Char → Bool) : Input → Option (List Char × Input)
  | c :: rest =>
    if ok c then
      let (digits, rest) := moreDigits ok rest
      some (c :: digits, rest)
    else none
  | [] => none

def natOfDigits (base : Nat) (digits : List Char) : Nat :=
  digits.foldl (fun n c => n * base + digitValue c) 0

/-- A sign, if there is one: whether it is a minus. -/
def sign : Input → Bool × Input
  | '-' :: rest => (true, rest)
  | '+' :: rest => (false, rest)
  | input => (false, input)

/-- The digits of a decimal whole number: a zero by itself, or digits that start with another. -/
def wholeDigits? : Input → Option (List Char × Input)
  | '0' :: rest => some (['0'], rest)
  | input => digits? isDigit input

/-- The digits behind a decimal point, when there is one. -/
def fraction? : Input → Option (List Char × Input)
  | '.' :: rest => digits? isDigit rest
  | _ => none

/-- The power of ten behind an `e`, when there is one. -/
def exponent? : Input → Option (Int × Input)
  | c :: rest =>
    if c = 'e' || c = 'E' then
      let (negative, rest) := sign rest
      (digits? isDigit rest).map fun (digits, rest) =>
        let n := Int.ofNat (natOfDigits 10 digits)
        (if negative then -n else n, rest)
    else none
  | [] => none

/-- The digits, the power of ten they are scaled by, and the rest, of a number that has a fraction or
an exponent or both. -/
def scientific? (input : Input) : Option (List Char × Int × Input) := do
  let (whole, rest) ← wholeDigits? input
  match fraction? rest with
  | some (fraction, rest) =>
    let (exponent, rest) := (exponent? rest).getD (0, rest)
    return (whole ++ fraction, exponent - fraction.length, rest)
  | none =>
    let (exponent, rest) ← exponent? rest
    return (whole, exponent, rest)

/-- Whether digits scaled by a power of ten round to infinity among the 64-bit floating numbers. The
bound is half a unit above the largest of them; beyond 400 digits either way it need not be computed. -/
def overflows (digits : List Char) (exponent : Int) : Bool :=
  let mantissa := natOfDigits 10 digits
  let magnitude := (Nat.toDigits 10 mantissa).length + exponent
  if mantissa = 0 || magnitude < 300 then false
  else if 400 < magnitude then true
  else
    let bound := (Nat.pow 2 54 - 1) * Nat.pow 2 970
    if 0 ≤ exponent then bound ≤ mantissa * Nat.pow 10 exponent.toNat
    else bound * Nat.pow 10 (-exponent).toNat ≤ mantissa

/-- A number written in base 16, 8 or 2, behind the letter that says so. -/
def based (base : Nat) (input : Input) : Except Fault (Value × Input) :=
  match digits? (isDigitOf base) input with
  | none => unexpected input
  | some (digits, rest) =>
    let n := natOfDigits base digits
    if n < Nat.pow 2 63 then .ok (.integer n, rest)
    else .error (.outOfRange (String.ofList digits))

def decimal (input : Input) : Except Fault (Value × Input) :=
  let (negative, unsigned) := sign input
  let signText := if negative then "-" else ""
  match unsigned with
  | 'i' :: 'n' :: 'f' :: rest => .ok (.float (signText ++ "inf"), rest)
  | 'n' :: 'a' :: 'n' :: rest => .ok (.float (signText ++ "nan"), rest)
  | _ =>
    match scientific? unsigned with
    | some (digits, exponent, rest) =>
      let text := signText ++ String.ofList digits ++ "e" ++ toString exponent
      if !negative && overflows digits exponent then .error (.outOfRange text)
      else .ok (.float text, rest)
    | none =>
      match wholeDigits? unsigned with
      | none => unexpected unsigned
      | some (digits, rest) =>
        let n := natOfDigits 10 digits
        if n < Nat.pow 2 63 then .ok (.integer (if negative then -n else n), rest)
        else if negative && n = Nat.pow 2 63 then .ok (.integer (-n), rest)
        else .error (.outOfRange (signText ++ String.ofList digits))

def number : Scan Value
  | '0' :: 'x' :: rest => based 16 rest
  | '0' :: 'o' :: rest => based 8 rest
  | '0' :: 'b' :: rest => based 2 rest
  | input => decimal input

end ClockManager.Toml
