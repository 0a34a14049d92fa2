import TextAdventure.Dictionary
import TextAdventure.Literal
/-!
# The words of a player's line

A line that has been scanned is a list of dictionary words and literals.  Here are the questions
that the reading of a command asks about the word at a place; past the end there is a word of no
class, without code and text.
-/

namespace TextAdventure

/-- A word of the player. -/
inductive PlayerWord where
  /-- A word of the dictionary, with its place there. -/
  | known (entry : Nat) (text : String)
  /-- A literal, with the number that it has in the world. -/
  | value (literal : Literal) (id : InstanceId)
deriving DecidableEq, Repr

/-- The words of a line, together with the dictionary that they come from. -/
structure Words where
  words : List PlayerWord
  dictionary : Dictionary

namespace Words

/-- How many words there are. -/
def size (words : Words) : Nat := words.words.length

/-- The word at a place. -/
def word? (words : Words) (index : Nat) : Option PlayerWord := words.words[index]?

/-- There is no word at the place. -/
def isEnd (words : Words) (index : Nat) : Bool := words.size ≤ index

/-- The place in the dictionary of the word at a place. -/
def entryIndex? (words : Words) (index : Nat) : Option Nat :=
  match words.word? index with
  | some (.known entry _) => some entry
  | _ => none

/-- The dictionary entry of the word at a place. -/
def entry? (words : Words) (index : Nat) : Option DictionaryEntry :=
  (words.entryIndex? index).bind words.dictionary.entry?

/-- The classes of the word at a place. -/
def classes (words : Words) (index : Nat) : WordClasses :=
  match words.word? index with
  | some (.value _ _) => .literal
  | some (.known _ _) => ((words.entry? index).map (·.classes)).getD .none
  | none => .none

/-- The word at a place has a class. -/
def is (words : Words) (index : Nat) (cls : WordClasses) : Bool :=
  (words.classes index).contains cls

/-- The code of the word at a place; literals have none. -/
def code? (words : Words) (index : Nat) : Option WordCode := (words.entry? index).map (·.code)

/-- The word at a place as the player typed it. -/
def text (words : Words) (index : Nat) : String :=
  match words.word? index with
  | some (.known _ text) => text
  | some (.value literal _) => literal.typed
  | none => ""

/-- The words from `first` to `last` inclusive, separated by blanks. -/
def spanText (words : Words) (first last : Nat) : String :=
  let last := min (last + 1) words.size
  " ".intercalate ((List.range' first (last - first)).map words.text)

/-- The command ends at the place. -/
def isEndOfCommand (words : Words) (index : Nat) : Bool :=
  words.isEnd index || words.is index .conjunction

/-- The classes of words that can begin a reference to an instance. -/
def referenceClasses : WordClasses :=
  .noun ||| .adjective ||| .all ||| .literal ||| .it ||| .them ||| .pronoun

/-- A reference to an instance can begin at the place. -/
def isReference (words : Words) (index : Nat) : Bool :=
  (words.classes index).intersects referenceClasses

theorem classes_of_isEnd {words : Words} {index : Nat} (ended : words.isEnd index = true) :
    words.classes index = .none := by
  have absent : words.word? index = Option.none :=
    List.getElem?_eq_none (of_decide_eq_true ended)
  simp [classes, absent]

theorem not_isEnd_of_is {words : Words} {index : Nat} {cls : WordClasses}
    (has : words.is index cls = true) : words.isEnd index = false := by
  cases ended : words.isEnd index with
  | false => rfl
  | true =>
    rw [is, classes_of_isEnd ended, WordClasses.none_contains] at has
    cases has

end Words

end TextAdventure
