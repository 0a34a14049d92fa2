import TextAdventure.Identifier
import TextAdventure.Literal
/-!
# Messages

What the player can be told about a command that fails.  Each kind of message has a template with
the places `$1`, `$2`, … for what the message is about.
-/

namespace TextAdventure

/-- The kinds of message. -/
inductive MessageKind where
  | what
  | whatWord
  | unknownWord
  | multiple
  | noun
  | afterBut
  | butAll
  | notMuch
  | whichOneStart
  | whichOneComma
  | whichOneOr
  | whichPronounStart
  | whichPronounFirst
  | noSuch
  | noWay
  | cannot
deriving DecidableEq, Repr

namespace MessageKind

/-- All kinds. -/
def kinds : List MessageKind :=
  [.what, .whatWord, .unknownWord, .multiple, .noun, .afterBut, .butAll, .notMuch, .whichOneStart,
   .whichOneComma, .whichOneOr, .whichPronounStart, .whichPronounFirst, .noSuch, .noWay, .cannot]

/-- The name of a kind in a configuration. -/
def name : MessageKind → String
  | .what => "what"
  | .whatWord => "what_word"
  | .unknownWord => "unknown_word"
  | .multiple => "multiple"
  | .noun => "noun"
  | .afterBut => "after_but"
  | .butAll => "but_all"
  | .notMuch => "not_much"
  | .whichOneStart => "which_one_start"
  | .whichOneComma => "which_one_comma"
  | .whichOneOr => "which_one_or"
  | .whichPronounStart => "which_pronoun_start"
  | .whichPronounFirst => "which_pronoun_first"
  | .noSuch => "no_such"
  | .noWay => "no_way"
  | .cannot => "cant0"

/-- The kind with a name. -/
def ofName (name : String) : Option MessageKind := kinds.find? (·.name == name)

/-- The template that is used unless another is configured. -/
def template : MessageKind → String
  | .what => "I don't understand."
  | .whatWord => "I don't know what you mean by '$1'."
  | .unknownWord => "I don't know the word '$1'."
  | .multiple => "You can't refer to multiple objects with that verb."
  | .noun => "You must supply a noun."
  | .afterBut => "You must give at least one object after '$1'."
  | .butAll => "You can only use '$1' AFTER '$2'."
  | .notMuch => "That doesn't leave much to choose from!"
  | .whichOneStart => "I don't know if you mean the $1"
  | .whichOneComma => ", the $1"
  | .whichOneOr => " or the $1."
  | .whichPronounStart => "I'm not sure what you mean by '$1',"
  | .whichPronounFirst => " it could be the $1"
  | .noSuch => "I can't see any $1 here."
  | .noWay => "You can't go that way."
  | .cannot => "You can't do that."

theorem mem_kinds (kind : MessageKind) : kind ∈ kinds := by
  cases kind <;> decide

theorem ofName_name (kind : MessageKind) : ofName kind.name = some kind := by
  cases kind <;> decide

end MessageKind

/-- What a message is about. -/
inductive MessageParameter where
  | ofInstance (id : InstanceId)
  | ofLiteral (value : Literal)
  /-- The player's own words. -/
  | words (text : String)
deriving DecidableEq, Repr

/-- The templates that differ from the usual ones. -/
structure Templates where
  overrides : List (MessageKind × String) := []
deriving DecidableEq, Repr

namespace Templates

/-- The templates with these overrides, a later one of a kind replacing an earlier one. -/
def ofOverrides (overrides : List (MessageKind × String)) : Templates :=
  ⟨overrides.foldl (fun table entry => put entry.1 entry.2 table) []⟩

/-- The template of a kind. -/
def template (templates : Templates) (kind : MessageKind) : String :=
  (templates.overrides.lookup kind).getD kind.template

end Templates

end TextAdventure
