import TextAdventure.Dictionary
import TextAdventure.Image.Header
/-!
# Stories

What a story consists of: a hierarchy of classes, instances with places, attributes and exits, a
dictionary, the bodies of its verbs and the grammar of its commands.

The grammar of a verb is a graph.  Its nodes are element tables, named by their place in the story;
an edge is a word or a parameter, and a table may close a command form.  Nothing here excludes
classes that are their own ancestors, grammars that run in circles or numbers that name nothing:
every reading of the tables has an answer for these too.
-/

namespace TextAdventure

/-- When the body of a verb runs, compared with those of other scopes. -/
inductive Qualifier where
  /-- In the outward-in pass. -/
  | default
  /-- When all others have run. -/
  | after
  /-- Before the others. -/
  | before
  /-- Before the others, and none of them runs then. -/
  | only
deriving DecidableEq, Repr

namespace Qualifier

/-- The qualifier that a word of an image stands for. -/
def ofWord (word : UInt32) : Except LoadError Qualifier :=
  if word = 0 then .ok .default
  else if word = 1 then .ok .after
  else if word = 2 then .ok .before
  else if word = 3 then .ok .only
  else .error (.unknownQualifier word.toNat)

/-- The keyword of a qualifier. -/
def keyword : Qualifier → String
  | .default => "DEFAULT"
  | .after => "AFTER"
  | .before => "BEFORE"
  | .only => "ONLY"

end Qualifier

/-- A condition on a verb or an exit. -/
structure Check where
  /-- The expression that must hold; without one the check always fails. -/
  condition : Option CodeAddress
  /-- The statements that tell the player why it failed. -/
  statements : Option CodeAddress
deriving DecidableEq, Repr

/-- What a verb does in one scope. -/
structure VerbBody where
  /-- The parameter that the body belongs to; 0 fits any scope. -/
  parameter : Nat := 0
  qualifier : Qualifier := .default
  checks : List Check := []
  action : Option CodeAddress := none
deriving DecidableEq, Repr

/-- The bodies of a verb in one scope. -/
structure Verb where
  code : WordCode
  bodies : List VerbBody
deriving DecidableEq, Repr

/-- A class. -/
structure StoryClass where
  code : ClassId
  name : String
  parent : ClassId
  verbs : List Verb := []
deriving DecidableEq, Repr

/-- A way out of a location. -/
structure Exit where
  direction : WordCode
  checks : List Check
  action : Option CodeAddress
  target : InstanceId
deriving DecidableEq, Repr

/-- The attributes of an instance, in the order in which they were first set. -/
abbrev Attributes : Type := List (AttributeId × Int)

/-- An instance as the story begins. -/
structure StoryInstance where
  code : InstanceId
  name : String
  parent : ClassId
  /-- Where the instance is; 0 is nowhere. -/
  location : InstanceId
  /-- The number of its container properties; 0 if it holds nothing. -/
  container : Nat := 0
  attributes : Attributes := []
  verbs : List Verb := []
  exits : List Exit := []
deriving DecidableEq, Repr

/-- What a restriction demands of a parameter. -/
inductive Requirement where
  | ofClass (id : ClassId)
  | container
  | integer
  | string
deriving DecidableEq, Repr

/-- The requirement that a word of an image stands for: the three demands that are no class have
negative numbers. -/
def Requirement.ofWord (word : UInt32) : Requirement :=
  if word = 0xFFFFFFFE then .container
  else if word = 0xFFFFFFFD then .integer
  else if word = 0xFFFFFFFC then .string
  else .ofClass word.toNat

/-- A demand on one parameter of a command form. -/
structure Restriction where
  /-- The number of the parameter, counted from 1. -/
  parameter : Nat
  requirement : Requirement
  /-- The statements to run, instead of the general refusal, when the demand is not met. -/
  statements : Option CodeAddress
deriving DecidableEq, Repr

/-- What a parameter slot of a command form allows. -/
structure SlotFlags where
  /-- Several instances at once. -/
  multiple : Bool := false
  /-- Instances that the hero cannot perceive. -/
  omnipotent : Bool := false
deriving DecidableEq, Repr

namespace SlotFlags

/-- The flags in the lowest two bits of a number. -/
def ofBits (bits : Nat) : SlotFlags := ⟨bits.testBit 0, bits.testBit 1⟩

/-- The flags as a number. -/
def bits (flags : SlotFlags) : Nat := flags.multiple.toNat + 2 * flags.omnipotent.toNat

end SlotFlags

/-- An entry of an element table. -/
inductive Element where
  /-- An edge along a word. -/
  | word (code : WordCode) (next : Nat)
  /-- An edge along a parameter. -/
  | parameter (flags : SlotFlags) (next : Nat)
  /-- The end of a command form, with the number of the form and its restrictions. -/
  | finish (form : Nat) (restrictions : List Restriction)
deriving DecidableEq, Repr

/-- Where the grammar of a verb begins. -/
structure GrammarRoot where
  verb : WordCode
  table : Nat
deriving DecidableEq, Repr

/-- Which verb a command form calls, and with which parameters. -/
structure ParameterMap where
  form : Nat
  verb : WordCode
  /-- For each parameter of the verb the position in the form, from 1, that it comes from. -/
  sources : List Nat
deriving DecidableEq, Repr

/-- A story. -/
structure Story where
  predefined : PredefinedClasses := {}
  hero : InstanceId := 0
  /-- The attribute that makes a container hide what it holds. -/
  opaqueAttribute : AttributeId := 0
  classes : List StoryClass := []
  instances : List StoryInstance := []
  dictionary : Dictionary := {}
  grammars : List GrammarRoot := []
  tables : List (List Element) := []
  parameterMaps : List ParameterMap := []
  globalVerbs : List Verb := []
  /-- The words of the image, which the compiled code is part of. -/
  code : List UInt32 := []
deriving DecidableEq, Repr

namespace Story

/-- The highest number of an ordinary instance. -/
def instanceMax (story : Story) : InstanceId := story.instances.length

/-- The class with a number. -/
def class? (story : Story) (id : ClassId) : Option StoryClass := entryAt story.classes id

/-- The instance with a number. -/
def instance? (story : Story) (id : InstanceId) : Option StoryInstance :=
  entryAt story.instances id

/-- The name of an instance. -/
def instanceName (story : Story) (id : InstanceId) : String :=
  ((story.instance? id).map (·.name)).getD "<nothing>"

/-- The name of a class. -/
def className (story : Story) (id : ClassId) : String :=
  ((story.class? id).map (·.name)).getD "<none>"

/-- A requirement in words. -/
def describeRequirement (story : Story) : Requirement → String
  | .ofClass id => story.className id
  | .container => "Container"
  | .integer => "Integer"
  | .string => "String"

/-- The parent of a class, 0 if it has none. -/
def parentOf (story : Story) (id : ClassId) : ClassId :=
  ((story.class? id).map (·.parent)).getD 0

/-- A class and at most `bound` classes in all on the way up from it. -/
def lineage (story : Story) : Nat → ClassId → List ClassId
  | 0, _ => []
  | bound + 1, id => if id = 0 then [] else id :: story.lineage bound (story.parentOf id)

/-- The ancestors of a class from the root down to the class itself.  A story of `n` classes has no
longer way without a repetition than `n` classes and one number that names none. -/
def classChain (story : Story) (id : ClassId) : List ClassId :=
  (story.lineage (story.classes.length + 1) id).reverse

/-- The grammar of a verb. -/
def grammar? (story : Story) (verb : WordCode) : Option GrammarRoot :=
  story.grammars.find? (·.verb == verb)

/-- The entries of an element table. -/
def elements (story : Story) (table : Nat) : List Element := (story.tables[table]?).getD []

/-- The parameter map of a command form. -/
def parameterMap? (story : Story) (form : Nat) : Option ParameterMap :=
  story.parameterMaps.find? (·.form == form)

end Story

end TextAdventure
