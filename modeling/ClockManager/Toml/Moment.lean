import ClockManager.Toml.Number
/-!
# Dates and times

A date, a time of day, or a date with a time and perhaps an offset. They are checked against the
calendar and kept as text.
-/

namespace ClockManager.Toml

/-- A number of exactly `count` digits. -/
def fixedDigits? (count : Nat) (input : Input) : Option (Nat × Input) :=
  let digits := input.take count
  if digits.length = count && digits.all isDigit then
    some (natOfDigits 10 digits, input.drop count)
  else none

/-- Such a number, when it lies within bounds. -/
def bounded? (count low high : Nat) (input : Input) : Option (Nat × Input) :=
  (fixedDigits? count input).filter fun (n, _) => low ≤ n && n ≤ high

def mark? (ok : Char → Bool) : Input → Option Input
  | c :: rest => if ok c then some rest else none
  | [] => none

def isLeapYear (year : Nat) : Bool := year % 4 = 0 && (year % 100 ≠ 0 || year % 400 = 0)

def daysIn (year month : Nat) : Nat :=
  if month = 2 then if isLeapYear year then 29 else 28
  else if month ∈ [4, 6, 9, 11] then 30
  else 31

/-- What follows a date. -/
def afterDate? (input : Input) : Option Input := do
  let (year, rest) ← fixedDigits? 4 input
  let rest ← mark? (· = '-') rest
  let (month, rest) ← bounded? 2 1 12 rest
  let rest ← mark? (· = '-') rest
  let (_, rest) ← bounded? 2 1 (daysIn year month) rest
  return rest

/-- What follows a time of day; its seconds may have a fraction. -/
def afterTime? (input : Input) : Option Input := do
  let (_, rest) ← bounded? 2 0 23 input
  let rest ← mark? (· = ':') rest
  let (_, rest) ← bounded? 2 0 59 rest
  let rest ← mark? (· = ':') rest
  let (_, rest) ← bounded? 2 0 60 rest
  match rest with
  | '.' :: c :: rest' => return if isDigit c then rest'.dropWhile isDigit else rest
  | _ => return rest

def afterOffset? (input : Input) : Option Input :=
  match mark? (fun c => c = 'Z' || c = 'z') input with
  | some rest => some rest
  | none => do
    let rest ← mark? (fun c => c = '+' || c = '-') input
    let (_, rest) ← bounded? 2 0 23 rest
    let rest ← mark? (· = ':') rest
    let (_, rest) ← bounded? 2 0 59 rest
    return rest

/-- What follows the time that may stand behind a date. -/
def afterTimeOfDate? (input : Input) : Option Input := do
  let rest ← mark? (fun c => c = 'T' || c = 't' || c = ' ') input
  let rest ← afterTime? rest
  return (afterOffset? rest).getD rest

def afterMoment? (input : Input) : Option Input :=
  match afterDate? input with
  | some rest => some ((afterTimeOfDate? rest).getD rest)
  | none => afterTime? input

def moment? (input : Input) : Option (Value × Input) :=
  (afterMoment? input).map fun rest =>
    (.moment (String.ofList (input.take (input.length - rest.length))), rest)

end ClockManager.Toml
