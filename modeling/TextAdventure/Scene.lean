import TextAdventure.Interpreter
/-!
# The scene

The scene is what a command changes: the world, the state of the interpreter, what is said to the
player and what is logged.  The setting is what stays as it is: the interpreter and what is traced.
A `Play` is a step that changes the scene.
-/

namespace TextAdventure

/-- What is traced in the log. -/
structure Tracing where
  /-- The checks and bodies of verbs, exits and restrictions. -/
  sections : Bool := false
  /-- The positions of a command after each stage of its reading. -/
  parsing : Bool := false
deriving DecidableEq, Repr

/-- How the commands of a story are run. -/
structure Setting (story : Story) (σ : Type) where
  interpreter : Interpreter story σ
  tracing : Tracing := {}

/-- What a command changes. -/
structure Scene (story : Story) (σ : Type) where
  world : World story
  /-- The state of the interpreter. -/
  state : σ
  /-- What has been said to the player. -/
  transcript : List Utterance := []
  log : List LogRecord := []

/-- A step in the course of a command. -/
abbrev Play (story : Story) (σ α : Type) : Type := StateM (Scene story σ) α

namespace Play

variable {story : Story} {σ α : Type}

/-- The world as it is. -/
def world : Play story σ (World story) := do return (← get).world

/-- Says something to the player. -/
def say (utterances : List Utterance) : Play story σ Unit :=
  modify fun scene => { scene with transcript := scene.transcript ++ utterances }

/-- Writes to the log. -/
def note (records : List LogRecord) : Play story σ Unit :=
  modify fun scene => { scene with log := scene.log ++ records }

/-- Lets an outcome take effect. -/
def enact (outcome : Scene story σ → Outcome story σ α) : Play story σ (Except RuntimeFailure α) :=
  modifyGet fun scene =>
    let outcome := outcome scene
    (outcome.result,
      { world := outcome.world
        state := outcome.state
        transcript := scene.transcript ++ outcome.said
        log := scene.log ++ outcome.logged })

/-- Evaluates a condition. -/
def evaluate (setting : Setting story σ) (condition : CodeAddress) (context : Context) :
    Play story σ (Except RuntimeFailure Bool) :=
  enact fun scene => setting.interpreter.evaluate condition context scene.world scene.state

/-- Runs statements. -/
def execute (setting : Setting story σ) (statements : CodeAddress) (context : Context) :
    Play story σ (Except RuntimeFailure Unit) :=
  enact fun scene => setting.interpreter.execute statements context scene.world scene.state

/-- A step that is left out unless a condition holds. -/
def onlyIf (condition : Bool) (step : Play story σ Unit) : Play story σ Unit :=
  if condition then step else pure ()

/-- Notes a section that is about to run, if sections are traced. -/
def traceSection (setting : Setting story σ) (title : String) : Play story σ Unit :=
  onlyIf setting.tracing.sections (note [.info s!"<{title}:>"])

/-! ## How steps run -/

variable {β : Type}

@[simp] theorem run_pure (value : α) (scene : Scene story σ) :
    (pure value : Play story σ α).run scene = (value, scene) := rfl

@[simp] theorem run_bind (step : Play story σ α) (next : α → Play story σ β)
    (scene : Scene story σ) :
    (step >>= next).run scene = (next (step.run scene).1).run (step.run scene).2 := rfl

@[simp] theorem run_map (f : α → β) (step : Play story σ α) (scene : Scene story σ) :
    (f <$> step).run scene = (f (step.run scene).1, (step.run scene).2) := rfl

theorem run_onlyIf (condition : Bool) (step : Play story σ Unit) (scene : Scene story σ) :
    (onlyIf condition step).run scene = if condition then step.run scene else ((), scene) := by
  cases condition <;> rfl

@[simp] theorem run_world (scene : Scene story σ) :
    (world : Play story σ (World story)).run scene = (scene.world, scene) := rfl

@[simp] theorem run_say (utterances : List Utterance) (scene : Scene story σ) :
    (say utterances : Play story σ Unit).run scene =
      ((), { scene with transcript := scene.transcript ++ utterances }) := rfl

@[simp] theorem run_note (records : List LogRecord) (scene : Scene story σ) :
    (note records : Play story σ Unit).run scene =
      ((), { scene with log := scene.log ++ records }) := rfl

end Play

end TextAdventure
