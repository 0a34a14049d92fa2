import TextAdventure.LogRecord
import TextAdventure.Transcript
import TextAdventure.World
/-!
# Interpreters of compiled code

The conditions of checks and the bodies of verbs, exits and restrictions are compiled code.  How it
runs is not laid down here: an interpreter is any pair of functions that see the code's address, the
context of the command, the world and a state of their own.  It can change the world and that state
and can say and log things, but it sees nothing of what has been said and logged before.
-/

namespace TextAdventure

/-- Why compiled code did not run to its end. -/
inductive RuntimeFailure where
  /-- A statement failed. -/
  | failed
  | error (text : String)
deriving DecidableEq, Repr

/-- The failure in words. -/
def RuntimeFailure.message : RuntimeFailure → String
  | .failed => "statement body failed"
  | .error text => "runtime error: " ++ text

/-- What compiled code can see of the command that it runs for. -/
structure Context where
  verb : WordCode := 0
  /-- The parameters of the verb; 0 in a slot with several targets, while none of them is due. -/
  parameters : List InstanceId := []
  /-- The instance that the code was found for, 0 for none. -/
  owner : InstanceId := 0
deriving DecidableEq, Repr

/-- What comes of running compiled code. -/
structure Outcome (story : Story) (σ α : Type) where
  result : Except RuntimeFailure α
  world : World story
  state : σ
  said : List Utterance := []
  logged : List LogRecord := []

/-- A way to run the compiled code of a story. -/
structure Interpreter (story : Story) (σ : Type) where
  /-- Evaluates the condition of a check. -/
  evaluate : CodeAddress → Context → World story → σ → Outcome story σ Bool
  /-- Runs statements. -/
  execute : CodeAddress → Context → World story → σ → Outcome story σ Unit

end TextAdventure
