import TextAdventure.Attempt
import TextAdventure.PlayerLine.Words
import TextAdventure.Story.Basic
/-!
# References and positions

A reference is a run of the player's words that stands for an instance, first unsettled and later
settled.  A position collects the references in one parameter slot of a command form.
-/

namespace TextAdventure

/-- How the player referred to something. -/
inductive ReferenceKind where
  /-- By adjectives and a noun, or as a member of all or them. -/
  | plain
  | literal (value : Literal)
  /-- By a pronoun of the previous command. -/
  | pronoun
  /-- By the word for the targets of the previous command. -/
  | them
deriving DecidableEq, Repr

/-- A reference to an instance. -/
structure Reference where
  kind : ReferenceKind := .plain
  /-- The first word of the reference. -/
  first : Nat
  /-- The last word of the reference. -/
  last : Nat
  /-- The instance that it has been settled to, 0 until then. -/
  id : InstanceId := 0
  /-- The instances that it could stand for. -/
  candidates : List InstanceId := []
deriving DecidableEq, Repr

namespace Reference

/-- A reference that is settled from the start, such as a member of all. -/
def settled (word : Nat) (id : InstanceId) : Reference :=
  { first := word, last := word, id, candidates := [id] }

/-- The words of a reference. -/
def phrase (reference : Reference) (words : Words) : String :=
  words.spanText reference.first reference.last

/-- How a reference is shown: its instance, or what it could be. -/
def describe (reference : Reference) : String :=
  if reference.id = 0 then "?" ++ Text.numberList reference.candidates
  else toString reference.id

end Reference

/-- The references in a parameter slot. -/
structure Position where
  references : List Reference := []
  /-- The references after "all except". -/
  exceptions : List Reference := []
  /-- The slot was filled by an all word. -/
  all : Bool := false
  /-- The slot was filled by a them word. -/
  them : Bool := false
  /-- The slot stands for several instances. -/
  multiple : Bool := false
  /-- Some restriction has been applied to the slot. -/
  checked : Bool := false
  flags : SlotFlags := {}
deriving DecidableEq, Repr

namespace Position

/-- The instances of the references that are settled. -/
def instances (position : Position) : List InstanceId :=
  (position.references.map (·.id)).filter (· != 0)

/-- The position without the references that have no instance. -/
def compress (position : Position) : Position :=
  { position with references := position.references.filter (·.id != 0) }

/-- The instance of the first reference, 0 if there is none. -/
def firstInstance (position : Position) : InstanceId :=
  ((position.references.head?).map (·.id)).getD 0

/-- How a position is shown. -/
def describe (position : Position) : String :=
  Text.bracketed (position.references.map (·.describe)) ++
    (if position.all then " all" else "") ++
    (if position.them then " them" else "") ++
    (if position.multiple then " multiple" else "") ++
    (if position.exceptions.isEmpty then ""
      else " except " ++ Text.numberList (position.exceptions.map (·.id)))

end Position

end TextAdventure
