import TextAdventure.Command
import TextAdventure.Config
import TextAdventure.Interpreter.Tracing
import TextAdventure.Text.Blank
/-!
# Playing a story

A story is played line by line.  What one line leaves behind, the world, the memory and the state of
the interpreter, is there for the next.
-/

namespace TextAdventure

/-- The names of a story's instances, and the templates, for telling the player. -/
def Narrator.ofStory (story : Story) (templates : Templates) : Narrator :=
  ⟨templates, story.instances.map (·.name)⟩

/-- A story that is being played. -/
structure Session (story : Story) (σ : Type) where
  setting : Setting story σ
  narrator : Narrator
  scene : Scene story σ
  memory : Memory := {}

namespace Session

variable {story : Story} {σ : Type}

/-- Begins to play a story. -/
def start (setting : Setting story σ) (templates : Templates) (state : σ) : Session story σ where
  setting := setting
  narrator := Narrator.ofStory story templates
  scene := { world := World.initial story, state }

/-- Runs a line and gives the text that the player is told. -/
def enter (session : Session story σ) (line : String) : String × Session story σ :=
  let (memory, scene) := (interpretLine session.setting session.memory line).run session.scene
  (session.narrator.render scene.transcript,
    { session with memory, scene := { scene with transcript := [] } })

/-- What is printed for a line: the text without blanks at its end, if there is any, and the next
prompt. -/
def respond (session : Session story σ) (line : String) : String × Session story σ :=
  let (text, session) := session.enter line
  ((if text == "" then "" else Text.trimEnd text ++ "\n") ++ "\n> ", session)

/-- Begins to play a story with the tracing interpreter. -/
def tracing (story : Story) (config : Config) : Session story Trail :=
  start { interpreter := .tracing story, tracing := config.tracing } config.templates {}

end Session

end TextAdventure
