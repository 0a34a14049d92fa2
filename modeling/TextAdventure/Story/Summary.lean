import TextAdventure.Story.Basic
import TextAdventure.Unvisited
/-!
# The summary of a story

Counts, and the grammar of every verb drawn as a tree.  A table that lies on the way from the root
to itself is not entered again but shown as an ellipsis, so the drawing is finite for every graph;
a table that two branches share is drawn in both.
-/

namespace TextAdventure

/-- A restriction as it is shown at the end of a form. -/
def Restriction.describe (story : Story) (restriction : Restriction) : String :=
  s!" #{restriction.parameter} isa " ++ story.describeRequirement restriction.requirement

/-- The line of an element, without what follows it. -/
def Element.describe (story : Story) : Element → String
  | .word code _ => "'" ++ (story.dictionary.wordForCode code .preposition).getD "?" ++ "'"
  | .parameter flags _ =>
    "(parameter" ++ (if flags.multiple then " *" else "") ++
      (if flags.omnipotent then " !" else "") ++ ")"
  | .finish form restrictions =>
    s!"<syntax {form}>" ++ String.join (restrictions.map (·.describe story))

/-- The table that an element leads to. -/
def Element.next? : Element → Option Nat
  | .word _ next => some next
  | .parameter _ next => some next
  | .finish _ _ => none

namespace Story

/-- The lines of an element table and of those below it.  `path` holds the tables above it, and
`depth` says how far the lines are set in. -/
def describeTable (story : Story) (path : List Nat) (depth table : Nat) : String :=
  if _ : path.contains table then Text.indent (depth * 2) ++ "...\n"
  else
    match _ : story.tables[table]? with
    | none => ""
    | some elements =>
      String.join <| elements.map fun element =>
        Text.indent (depth * 2) ++ element.describe story ++ "\n" ++
          match element.next? with
          | none => ""
          | some next => story.describeTable (table :: path) (depth + 1) next
termination_by unvisited story.tables.length path
decreasing_by
  exact unvisited_cons_lt
    (List.getElem?_eq_some_iff.mp ‹story.tables[table]? = some elements›).1 ‹_›

/-- The lines of a verb's grammar. -/
def describeGrammar (story : Story) (root : GrammarRoot) : String :=
  "  " ++ (story.dictionary.wordForCode root.verb .verb).getD "?" ++ s!" ({root.verb}):\n" ++
    story.describeTable [] 2 root.table

/-- The summary of a story. -/
def describe (story : Story) : String :=
  s!"{story.classes.length} classes, {story.instances.length} instances, hero: " ++
    story.instanceName story.hero ++ "\nSyntax trees:\n" ++
    String.join (story.grammars.map story.describeGrammar)

end Story

end TextAdventure
