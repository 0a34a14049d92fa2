import TextAdventure.Dictionary.WordClasses
import TextAdventure.Identifier
import TextAdventure.Text.Columns
/-!
# The dictionary

The words that a story understands.  A word is found by its spelling; of several entries with one
spelling, and in every other search, the first counts.
-/

namespace TextAdventure

/-- A word and what it can stand for. -/
structure DictionaryEntry where
  word : String
  code : WordCode
  classes : WordClasses
  /-- The instances that the word can describe as an adjective. -/
  adjectiveOf : List InstanceId := []
  /-- The instances that the word can name as a noun. -/
  nounOf : List InstanceId := []
  /-- The instances that the word can stand for as a pronoun. -/
  pronounFor : List InstanceId := []
deriving DecidableEq, Repr

/-- The words of a story in order. -/
structure Dictionary where
  entries : List DictionaryEntry := []
deriving DecidableEq, Repr

namespace Dictionary

/-- How many words there are. -/
def size (dictionary : Dictionary) : Nat := dictionary.entries.length

/-- The entry at a place, counted from 0. -/
def entry? (dictionary : Dictionary) (index : Nat) : Option DictionaryEntry :=
  dictionary.entries[index]?

/-- The place of the entry with a spelling. -/
def lookup (dictionary : Dictionary) (word : String) : Option Nat :=
  dictionary.entries.findIdx? (·.word == word)

/-- The spelling of a code among the words of some of the given classes. -/
def wordForCode (dictionary : Dictionary) (code : WordCode) (classes : WordClasses) :
    Option String :=
  (dictionary.entries.find? fun e => e.code == code && e.classes.intersects classes).map (·.word)

/-- The word for everything, for messages that quote one. -/
def allWord (dictionary : Dictionary) : Option String :=
  (dictionary.entries.find? (·.classes.contains .all)).map (·.word)

/-- The code of the pronoun that stands for an instance. -/
def pronounFor (dictionary : Dictionary) (id : InstanceId) : Option WordCode :=
  ((dictionary.entries.filter (·.classes.contains .pronoun)).find?
    (·.pronounFor.contains id)).map (·.code)

/-! ## Listing -/

/-- A named list of instances, nothing for an empty one. -/
def describeReferences (what : String) (references : List InstanceId) : String :=
  if references.isEmpty then "" else what ++ Text.numberList references

/-- The line of an entry in the listing. -/
def describeEntry (index : Nat) (e : DictionaryEntry) : String :=
  "  [" ++ Text.padLeft 3 (toString index) ++ "] " ++ Text.padRight 16 e.word ++ " code " ++
    Text.padLeft 4 (toString e.code) ++ "  " ++ e.classes.describe ++
    describeReferences "  noun of " e.nounOf ++
    describeReferences "  adjective of " e.adjectiveOf ++
    describeReferences "  pronoun for " e.pronounFor ++ "\n"

/-- The listing of all words. -/
def describe (dictionary : Dictionary) : String :=
  "Dictionary: " ++ toString dictionary.size ++ " words\n" ++
    String.join (dictionary.entries.mapIdx describeEntry)

end Dictionary

end TextAdventure
