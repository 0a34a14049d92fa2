import TextAdventure.Text.Blank
import TextAdventure.Text.LowerCase
/-!
# Tokens of a player's line

A line falls into words, numbers, quoted texts and single punctuation characters.  A run of letters,
digits, hyphens, apostrophes and underscores is a number if it reads as one of 64 bits and else a
word, whose case does not matter.  A quoted text ends at the next quote or with the line.
-/

namespace TextAdventure

/-- A piece of a player's line. -/
inductive Token where
  | word (text : String)
  | integer (value : Int)
  | quoted (text : String)
  | punctuation (c : Char)
deriving DecidableEq, Repr

namespace Token

/-- The character belongs to a word. -/
def isWordChar (c : Char) : Bool :=
  Text.isAlphanumeric c || c == '-' || c == '\'' || c == '_'

/-- The number of a run of digits. -/
def digits? (cs : List Char) : Option Nat :=
  if cs ≠ [] ∧ cs.all Char.isDigit then
    some (cs.foldl (fun value c => value * 10 + (c.toNat - '0'.toNat)) 0)
  else none

/-- The number that a word spells, if it fits into 64 bits: digits, perhaps after a minus sign. -/
def integer? : List Char → Option Int
  | '-' :: cs =>
    (digits? cs).bind fun n => if n ≤ 0x8000000000000000 then some (-(n : Int)) else none
  | cs => (digits? cs).bind fun n => if n < 0x8000000000000000 then some (n : Int) else none

/-- The token of a run of word characters. -/
def ofWord (cs : List Char) : Token :=
  match integer? cs with
  | some value => .integer value
  | none => .word (Text.lowerCase (String.ofList cs))

/-- The tokens of a line. -/
def ofChars : List Char → List Token
  | [] => []
  | c :: rest =>
    if Text.isBlank c then ofChars rest
    else if c == '"' then
      .quoted (String.ofList (rest.takeWhile (· != '"'))) ::
        ofChars ((rest.dropWhile (· != '"')).drop 1)
    else if isWordChar c then
      ofWord (c :: rest.takeWhile isWordChar) :: ofChars (rest.dropWhile isWordChar)
    else .punctuation c :: ofChars rest
termination_by cs => cs.length
decreasing_by
  all_goals simp only [List.length_cons, List.length_drop]
  · omega
  · have := (List.dropWhile_sublist (l := rest) (· != '"')).length_le
    omega
  · have := (List.dropWhile_sublist (l := rest) isWordChar).length_le
    omega
  · omega

end Token

end TextAdventure
