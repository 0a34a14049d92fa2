/-!
# Columns

How numbers and words are set in reports: padded to a width counted in characters, addresses in
hexadecimal, lists in brackets.
-/

namespace TextAdventure.Text

/-- Blanks that fill a text up to a width. -/
def fill (width : Nat) (text : String) : String :=
  String.ofList (List.replicate (width - text.length) ' ')

/-- A text at the left of a column. -/
def padRight (width : Nat) (text : String) : String := text ++ fill width text

/-- A text at the right of a column. -/
def padLeft (width : Nat) (text : String) : String := fill width text ++ text

/-- Blanks that set a line in by a number of columns. -/
def indent (columns : Nat) : String := String.ofList (List.replicate columns ' ')

/-- An address: `0x` and at least four hexadecimal digits. -/
def hexAddress (address : Nat) : String :=
  let digits := Nat.toDigits 16 address
  "0x" ++ String.ofList (List.replicate (4 - digits.length) '0' ++ digits)

/-- Items in brackets, separated by commas. -/
def bracketed (items : List String) : String := "[" ++ ", ".intercalate items ++ "]"

/-- Numbers in brackets, separated by commas. -/
def numberList (numbers : List Nat) : String := bracketed (numbers.map toString)

end TextAdventure.Text
