import TextAdventure.Verb.Dispatch
/-!
# Movement

A direction takes the hero through the first exit of the current location that lies that way.  Its
checks must hold and its action runs before the move; if the action has moved the hero itself, or
something else has, the hero stays there.
-/

namespace TextAdventure

variable {story : Story} {σ : Type}

/-- The exit of a location in a direction. -/
def Story.exit? (story : Story) (location : InstanceId) (direction : WordCode) : Option Exit :=
  (story.instance? location).bind fun i => i.exits.find? (·.direction == direction)

/-- Notes a section of an exit, if sections are traced. -/
def traceExit (setting : Setting story σ) (direction : WordCode) (location : InstanceId)
    (what : String) : Play story σ Unit :=
  Play.traceSection setting
    s!"EXIT {direction} from {story.instanceName location}({location}), {what}"

/-- The checks of an exit hold. -/
def Exit.checksPass (setting : Setting story σ) (location : InstanceId) (exit : Exit) :
    Play story σ Bool := do
  if exit.checks.isEmpty then return true
  else
    traceExit setting exit.direction location "Checking"
    match ← TextAdventure.checksPass setting { owner := location } true exit.checks with
    | .ok passed => return passed
    | .error failure =>
      Play.note [.warning
        s!"Exit check from {story.instanceName location}: {failure.message}"]
      return false

/-- Runs the action of an exit; whether it fails makes no difference. -/
def Exit.perform (setting : Setting story σ) (location : InstanceId) (exit : Exit) :
    Play story σ Unit := do
  match exit.action with
  | none => pure ()
  | some action =>
    traceExit setting exit.direction location "Executing"
    let _ ← Play.execute setting action { owner := location }

/-- Moves the hero through an exit, unless he has left already. -/
def Exit.move (setting : Setting story σ) (location : InstanceId) (exit : Exit) :
    Play story σ Unit := do
  if (← Play.world).here = location then
    traceExit setting exit.direction location "Moving"
    modify fun scene => { scene with world := scene.world.locate story.hero exit.target }

/-- Passes through an exit, if its checks hold. -/
def Exit.pass (setting : Setting story σ) (location : InstanceId) (exit : Exit) :
    Play story σ Unit := do
  if ← exit.checksPass setting location then
    exit.perform setting location
    exit.move setting location
  else return ()

/-- Goes in a direction. -/
def go (setting : Setting story σ) (direction : WordCode) :
    Play story σ (Except CommandError Unit) := do
  let location := (← Play.world).here
  match story.exit? location direction with
  | none => return .error .noWay
  | some exit =>
    exit.pass setting location
    return .ok ()

end TextAdventure
