import TextAdventure.Message
import TextAdventure.Text.Substitution
/-!
# The transcript

What is said to the player is kept as a list of utterances; a narrator, who knows the templates and
the names of the instances, turns it into text.  Each utterance is set off from the text before it
by a blank, unless a line has just ended or the utterance begins with a blank, a comma or a full
stop; a paragraph leaves an empty line.  Text is a value here, so that writing it cannot fail.
-/

namespace TextAdventure

/-- Something that is said to the player. -/
inductive Utterance where
  | message (kind : MessageKind) (parameters : List MessageParameter)
  | print (text : String)
  /-- The name of a target, shown before what happens to it. -/
  | marker (parameter : MessageParameter)
  /-- What follows begins a new paragraph. -/
  | paragraph
deriving DecidableEq, Repr

/-- Who tells the player what has been said. -/
structure Narrator where
  templates : Templates := {}
  /-- The names of the instances, from the first one on. -/
  names : List String := []
deriving DecidableEq, Repr

namespace Narrator

/-- What a message is about, in words. -/
def name (narrator : Narrator) : MessageParameter → String
  | .ofInstance id => (entryAt narrator.names id).getD s!"#{id}"
  | .ofLiteral value => value.told
  | .words text => text

/-- The place in a template for the parameter with a number. -/
def placeholder (number : Nat) : String := "$" ++ toString number

/-- A template with its places filled in.  The highest numbers come first, so that `$1` does not
take the front of `$10`. -/
def fillIn (narrator : Narrator) (template : String) (parameters : List MessageParameter) :
    String :=
  (parameters.zipIdx 1).foldr
    (fun entry text => Text.replaceAll (placeholder entry.2) (narrator.name entry.1) text) template

/-- Text put after other text, with a blank between them where one is due. -/
def append (before added : String) : String :=
  let opened := before == "" || before.toList.getLast? == some '\n'
  let attached := match added.toList.head? with
    | some c => c == ',' || c == '.' || c == ' '
    | none => false
  if opened || attached then before ++ added else before ++ " " ++ added

/-- A text after which a paragraph can begin. -/
def closeParagraph (text : String) : String :=
  match text.toList.reverse with
  | [] => text
  | '\n' :: '\n' :: _ => text
  | '\n' :: _ => text ++ "\n"
  | _ => text ++ "\n\n"

/-- A text with one more utterance. -/
def tell (narrator : Narrator) (text : String) : Utterance → String
  | .message kind parameters =>
    append text (narrator.fillIn (narrator.templates.template kind) parameters)
  | .print added => append text added
  | .marker parameter => append text ("(" ++ narrator.name parameter ++ ")")
  | .paragraph => closeParagraph text

/-- The text of a sequence of utterances. -/
def render (narrator : Narrator) (utterances : List Utterance) : String :=
  utterances.foldl narrator.tell ""

end Narrator

end TextAdventure
