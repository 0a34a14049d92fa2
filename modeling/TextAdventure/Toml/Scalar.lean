import TextAdventure.Toml.Value
/-!
# TOML numbers, dates and times

The values that are written without quotes and brackets.  Each is one run of characters; a date and
a time can be joined by a blank instead of the letter T.
-/

namespace TextAdventure.Toml

/-- A character of a value without quotes and brackets. -/
def isScalarChar (c : Char) : Bool :=
  c.isAlphanum || c == '+' || c == '-' || c == '_' || c == '.' || c == ':'

/-! ## Numbers -/

/-- The digits of a number without the underscores that may stand between them. -/
def digitRun (isDigit : Char → Bool) : List Char → Option (List Char)
  | [] => none
  | [c] => if isDigit c then some [c] else none
  | c :: '_' :: rest => if isDigit c then (digitRun isDigit rest).map (c :: ·) else none
  | c :: rest => if isDigit c then (digitRun isDigit rest).map (c :: ·) else none

/-- Decimal digits that do not begin with a needless zero. -/
def decimalRun (cs : List Char) : Option (List Char) := do
  let digits ← digitRun Char.isDigit cs
  if digits.length > 1 && digits.head? == some '0' then none else some digits

/-- The value of a digit in bases up to 16. -/
def digitValue (c : Char) : Nat :=
  if c.isDigit then c.toNat - '0'.toNat else c.toLower.toNat - 'a'.toNat + 10

/-- The number that digits stand for. -/
def numberOf (base : Nat) (digits : List Char) : Nat :=
  digits.foldl (fun value c => value * base + digitValue c) 0

/-- The sign before a number, and the rest. -/
def splitSign : List Char → Bool × List Char
  | '-' :: rest => (true, rest)
  | '+' :: rest => (false, rest)
  | cs => (false, cs)

/-- A digit of a base. -/
def isDigitOf (base : Nat) (c : Char) : Bool :=
  (c.isDigit || ('a' ≤ c.toLower && c.toLower ≤ 'f')) && digitValue c < base

/-- A number that has a place among the integers of 64 bits. -/
def integerInRange (value : Int) : Option Int :=
  if -0x8000000000000000 ≤ value ∧ value < 0x8000000000000000 then some value else none

/-- An integer: decimal with an optional sign, or in another base without one. -/
def integer? (cs : List Char) : Option Int :=
  let inBase := fun (base : Nat) (rest : List Char) =>
    (digitRun (isDigitOf base) rest).bind fun digits => integerInRange (numberOf base digits)
  match cs with
  | '0' :: 'x' :: rest => inBase 16 rest
  | '0' :: 'o' :: rest => inBase 8 rest
  | '0' :: 'b' :: rest => inBase 2 rest
  | _ => do
    let (negative, rest) := splitSign cs
    let magnitude := numberOf 10 (← decimalRun rest)
    integerInRange (if negative then -(magnitude : Int) else magnitude)

/-- The decimal number `digits · 10 ^ exponent` is so large that it rounds to infinity. -/
def overflows (digits : Nat) (exponent : Int) : Bool :=
  let limit := Nat.pow 2 1024 - Nat.pow 2 970
  if digits = 0 then false
  else if 400 < exponent then true
  else if 0 ≤ exponent then limit ≤ digits * Nat.pow 10 exponent.toNat
  else
    -- a number with no more than 308 digits before the point is small enough
    let places := (-exponent).toNat
    let length := (toString digits).length
    if length ≤ places + 308 then false else limit * Nat.pow 10 places ≤ digits

/-- The exponent of a float, from after its letter on. -/
def exponent? (cs : List Char) : Option Int := do
  let (negative, rest) := splitSign cs
  let magnitude := numberOf 10 (← digitRun Char.isDigit rest)
  return if negative then -(magnitude : Int) else magnitude

/-- The digits after the point, if there is one. -/
def fraction? : List Char → Option (List Char)
  | [] => some []
  | _ :: digits => digitRun Char.isDigit digits

/-- The exponent after its letter, 0 if there is none. -/
def scale? : List Char → Option Int
  | [] => some 0
  | _ :: written => exponent? written

/-- The digits of a float without its sign, and the power of ten that they count. -/
def floatParts? (cs : List Char) : Option (Nat × Int) := do
  let mantissa := cs.takeWhile fun c => c != 'e' && c != 'E'
  let whole := mantissa.takeWhile (· != '.')
  let wholeDigits ← decimalRun whole
  let fraction ← fraction? (mantissa.drop whole.length)
  let exponent ← scale? (cs.drop mantissa.length)
  return (numberOf 10 (wholeDigits ++ fraction), exponent - fraction.length)

/-- A float: an integer with a fraction, an exponent or both, or one of the two special values.  A
positive one must not round to infinity. -/
def isFloat (cs : List Char) : Bool :=
  let (negative, rest) := splitSign cs
  if rest == "inf".toList || rest == "nan".toList then true
  else if rest.all fun c => c != '.' && c != 'e' && c != 'E' then false
  else
    match floatParts? rest with
    | none => false
    | some (digits, exponent) => negative || !overflows digits exponent

/-! ## Dates and times -/

/-- Two digits. -/
def twoDigits? (a b : Char) : Option Nat :=
  if a.isDigit && b.isDigit then some (numberOf 10 [a, b]) else none

/-- How many days a month has. -/
def daysInMonth (year month : Nat) : Nat :=
  if month = 2 then
    if year % 4 = 0 && (year % 100 != 0 || year % 400 = 0) then 29 else 28
  else if month = 4 || month = 6 || month = 9 || month = 11 then 30
  else 31

/-- A date before the rest of a text. -/
def date? : List Char → Option (List Char)
  | a :: b :: c :: d :: '-' :: e :: f :: '-' :: g :: h :: rest => do
    let year := (← twoDigits? a b) * 100 + (← twoDigits? c d)
    let month ← twoDigits? e f
    let day ← twoDigits? g h
    if 1 ≤ month && month ≤ 12 && 1 ≤ day && day ≤ daysInMonth year month then some rest else none
  | _ => none

/-- A fraction of a second, if there is one, before the rest of a text. -/
def secondFraction? : List Char → Option (List Char)
  | '.' :: rest =>
    if (rest.takeWhile Char.isDigit).isEmpty then none else some (rest.dropWhile Char.isDigit)
  | rest => some rest

/-- A time of day before the rest of a text. -/
def time? : List Char → Option (List Char)
  | a :: b :: ':' :: c :: d :: ':' :: e :: f :: rest => do
    let hour ← twoDigits? a b
    let minute ← twoDigits? c d
    let second ← twoDigits? e f
    if hour ≤ 23 && minute ≤ 59 && second ≤ 60 then secondFraction? rest else none
  | _ => none

/-- An offset from universal time, or none: the end of a date with a time. -/
def isOffset : List Char → Bool
  | [] => true
  | ['Z'] => true
  | ['z'] => true
  | [sign, a, b, ':', c, d] =>
    (sign == '+' || sign == '-') &&
      ((twoDigits? a b).any (· ≤ 23) && (twoDigits? c d).any (· ≤ 59))
  | _ => false

/-- A time of day that ends a date with a time. -/
def isTimeOfDate (cs : List Char) : Bool := (time? cs).any isOffset

/-- A date, a time or both. -/
def isDateTime (cs : List Char) : Bool :=
  match date? cs with
  | some [] => true
  | some (c :: rest) => (c == 'T' || c == 't') && isTimeOfDate rest
  | none => time? cs == some []

/-! ## Scalars -/

/-- The value of a run of characters. -/
def scalarOf (cs : List Char) : Option Value :=
  if cs == "true".toList then some (.boolean true)
  else if cs == "false".toList then some (.boolean false)
  else if isDateTime cs then some (.dateTime (String.ofList cs))
  else if isFloat cs then some (.float (String.ofList cs))
  else (integer? cs).map .integer

/-- The time that a blank joins to a date. -/
def joinedTime (rest : List Char) : Option (List Char × List Char) :=
  match rest with
  | ' ' :: more =>
    let time := more.takeWhile isScalarChar
    if isTimeOfDate time then some (time, more.dropWhile isScalarChar) else none
  | _ => none

/-- A value without quotes and brackets. -/
def scalarValue (cs : List Char) : Option (Value × List Char) := do
  let run := cs.takeWhile isScalarChar
  let rest := cs.dropWhile isScalarChar
  match if date? run == some [] then joinedTime rest else none with
  | some (time, rest) => return (.dateTime (String.ofList (run ++ ' ' :: time)), rest)
  | none => return (← scalarOf run, rest)

end TextAdventure.Toml
