import TextAdventure.Command.Multiple
/-!
# Restrictions

Every restriction of the matched form is applied to its parameter in turn.  A single instance that
does not meet one ends the command; one of several is dropped, with a word to the player unless it
was swept up by all.  A parameter without restrictions must be an object.

An instance is dropped by clearing its reference; the cleared references go when all is done.
-/

namespace TextAdventure

variable {story : Story} {σ : Type}

/-- An instance or literal meets a requirement. -/
def World.meets (world : World story) (requirement : Requirement) (id : InstanceId) : Bool :=
  match requirement with
  | .ofClass cls => world.isA id cls
  | .container => world.isContainer id
  | .integer => world.isA id story.predefined.integer
  | .string => world.isA id story.predefined.string

/-- The instance or literal exists and is an object. -/
def World.isObject (world : World story) (id : InstanceId) : Bool :=
  world.isInstance id && world.isA id story.predefined.object

namespace Restriction

/-- Notes that a restriction is not met, if sections are traced. -/
def trace (setting : Setting story σ) (restriction : Restriction) : Play story σ Unit :=
  Play.traceSection setting
    (s!"SYNTAX parameter #{restriction.parameter} Is Not of class " ++
      story.describeRequirement restriction.requirement)

/-- Tells the player that a restriction is not met, in its own way or else in general terms. -/
def refuse (setting : Setting story σ) (context : Context) (restriction : Restriction) :
    Play story σ Unit := do
  restriction.trace setting
  match restriction.statements with
  | none => Play.say [.message .cannot []]
  | some statements =>
    match ← Play.execute setting statements context with
    | .ok () => pure ()
    | .error failure =>
      Play.note [.warning
        s!"Restriction for parameter #{restriction.parameter}: {failure.message}"]

/-- Tells the player, in a paragraph of its own, that one of several instances does not meet a
restriction. -/
def refuseMember (setting : Setting story σ) (context : Context) (restriction : Restriction)
    (id : InstanceId) : Play story σ Unit := do
  Play.say [.marker ((← Play.world).messageParameter id)]
  restriction.refuse setting
    { context with parameters := context.parameters.set (restriction.parameter - 1) id }
  Play.say [.paragraph]

/-- Drops an instance of several that does not meet a restriction. -/
def dropMember (setting : Setting story σ) (context : Context) (silent : Bool)
    (restriction : Restriction) (reference : Reference) : Play story σ Reference := do
  if reference.id = 0 || (← Play.world).meets restriction.requirement reference.id then
    return reference
  else
    Play.onlyIf (!silent) (restriction.refuseMember setting context reference.id)
    return { reference with id := 0 }

/-- Drops all instances of several that do not meet a restriction. -/
def dropMembers (setting : Setting story σ) (context : Context) (silent : Bool)
    (restriction : Restriction) : List Reference → Play story σ (List Reference)
  | [] => return []
  | reference :: rest => do
    let reference ← restriction.dropMember setting context silent reference
    let rest ← restriction.dropMembers setting context silent rest
    return reference :: rest

/-- Ends a command because of its single instance in a slot. -/
def reject (setting : Setting story σ) (context : Context) (restriction : Restriction) :
    Play story σ CommandError := do
  if restriction.statements.isSome then
    restriction.refuse setting context
    return .restricted restriction.parameter true
  else
    restriction.trace setting
    return .restricted restriction.parameter false

/-- Applies a restriction to the position that it is about. -/
def applyTo (setting : Setting story σ) (context : Context) (restriction : Restriction)
    (position : Position) : Play story σ (Attempt CommandError Position) := do
  if position.multiple then
    let references ← restriction.dropMembers setting context position.all position.references
    return .success { position with references, checked := true }
  else if (← Play.world).meets restriction.requirement position.firstInstance then
    return .success { position with checked := true }
  else return .failure position (← restriction.reject setting context)

end Restriction

/-- Applies the restrictions of a form in turn.  One on a parameter that does not exist is passed
over. -/
def applyRestrictions (setting : Setting story σ) (context : Context) (positions : List Position) :
    List Restriction → Play story σ (Attempt CommandError (List Position))
  | [] => return .success positions
  | restriction :: rest => do
    match entryAt positions restriction.parameter with
    | none =>
      Play.note [.warning s!"Restriction for missing parameter #{restriction.parameter}"]
      applyRestrictions setting context positions rest
    | some position =>
      let ⟨position, fault⟩ ← restriction.applyTo setting context position
      let positions := positions.set (restriction.parameter - 1) position
      match fault with
      | some fault => return .failure positions fault
      | none => applyRestrictions setting context positions rest

/-- Makes sure that a position without restrictions holds objects only; `number` counts from 1. -/
def Position.requireObject (world : World story) (number : Nat) (position : Position) :
    Attempt CommandError Position :=
  if position.checked then .success position
  else if position.multiple then
    .success { position with
      references := position.references.map fun r =>
        if r.id != 0 && !world.isObject r.id then { r with id := 0 } else r }
  else if world.isObject position.firstInstance then .success position
  else .failure position (.notAnObject number)

/-- Makes sure that the positions without restrictions hold objects only. -/
def requireObjects (world : World story) (positions : List Position) :
    Attempt CommandError (List Position) :=
  (Attempt.each (fun entry => (entry.1.requireObject world entry.2).map (·, entry.2))
    (positions.zipIdx 1)).map (·.map (·.1))

/-- Applies the restrictions of a form to the positions of a command. -/
def restrictPositions (setting : Setting story σ) (verb : WordCode)
    (restrictions : List Restriction) (positions : List Position) :
    Play story σ (Attempt CommandError (List Position)) := do
  let unchecked := positions.map fun position => { position with checked := false }
  let context : Context := { verb, parameters := parameterVector unchecked }
  let restricted ← applyRestrictions setting context unchecked restrictions
  let world ← Play.world
  return (restricted.andThen (requireObjects world)).andThen fun positions =>
    .success (positions.map Position.compress)

end TextAdventure
