import TextAdventure.World
/-!
# The alternatives of a verb

A verb can have a body in every scope that a command touches: for all commands, for the current
location and for each parameter; in the scopes of an instance for each of its classes, from the root
down, and for the instance itself.  Each of these contributes at most one body, its first one that
fits the parameter.
-/

namespace TextAdventure

/-- Where a body was found. -/
inductive Scope where
  | global
  | location
  /-- For a parameter, counted from 1. -/
  | parameter (number : Nat)
deriving DecidableEq, Repr

/-- The parameter that bodies in a scope can be bound to. -/
def Scope.number? : Scope → Option Nat
  | .parameter number => some number
  | _ => none

/-- A body of a verb together with where it was found. -/
structure Alternative where
  body : VerbBody
  scope : Scope
  /-- The instance that the body runs for, 0 for none. -/
  owner : InstanceId := 0
  /-- The class that the body was inherited from, 0 if it is the instance's own. -/
  cls : ClassId := 0
  /-- The body has had its turn. -/
  done : Bool := false
deriving DecidableEq, Repr

/-- How an alternative is named in the log. -/
def Alternative.describe (alternative : Alternative) : String :=
  (match alternative.scope with
    | .global => "GLOBAL"
    | .location => "in LOCATION"
    | .parameter number => s!"in parameter #{number}") ++
  (if alternative.cls = 0 then "" else s!", inherited from class {alternative.cls}")

/-- The body fits a scope: it belongs to no parameter, or to the one of the scope. -/
def VerbBody.fits (body : VerbBody) (scope : Scope) : Bool :=
  body.parameter == 0 || scope.number? == some body.parameter

/-- The body of a verb in a verb table that fits a scope. -/
def bodyFor (verbs : List Verb) (verb : WordCode) (scope : Scope) : Option VerbBody :=
  (verbs.find? (·.code == verb)).bind fun entry => entry.bodies.find? (·.fits scope)

variable {story : Story}

/-- The class where the search for the bodies of an instance or a literal begins. -/
def World.verbClass (world : World story) (id : InstanceId) : ClassId :=
  match world.literal? id with
  | some _ =>
    if world.isA id story.predefined.integer then story.predefined.integer
    else story.predefined.string
  | none => ((story.instance? id).map (·.parent)).getD 0

/-- The alternatives that an instance inherits, from the root class down. -/
def World.inheritedAlternatives (world : World story) (verb : WordCode) (scope : Scope)
    (id : InstanceId) : List Alternative :=
  (story.classChain (world.verbClass id)).filterMap fun cls =>
    ((story.class? cls).bind fun c => bodyFor c.verbs verb scope).map fun body =>
      { body, scope, owner := id, cls }

/-- The alternative that an instance has of its own; literals have none. -/
def World.ownAlternative (world : World story) (verb : WordCode) (scope : Scope)
    (id : InstanceId) : List Alternative :=
  if (world.literal? id).isSome then []
  else
    (((story.instance? id).bind fun i => bodyFor i.verbs verb scope).map fun body =>
      ({ body, scope, owner := id } : Alternative)).toList

/-- The alternatives in the scope of an instance, from the outside in. -/
def World.alternativesOf (world : World story) (verb : WordCode) (scope : Scope)
    (id : InstanceId) : List Alternative :=
  world.inheritedAlternatives verb scope id ++ world.ownAlternative verb scope id

/-- The alternative that every command has. -/
def Story.globalAlternative (story : Story) (verb : WordCode) : List Alternative :=
  ((bodyFor story.globalVerbs verb .global).map fun body =>
    ({ body, scope := .global } : Alternative)).toList

/-- All alternatives of a verb, from the outermost scope to the innermost one. -/
def World.alternatives (world : World story) (verb : WordCode) (parameters : List InstanceId) :
    List Alternative :=
  story.globalAlternative verb ++ world.alternativesOf verb .location world.here ++
    (parameters.zipIdx 1).flatMap fun entry =>
      world.alternativesOf verb (.parameter entry.2) entry.1

end TextAdventure
