import TextAdventure.Interpreter
/-!
# The scripted interpreter

It stands in for compiled code: a script says which conditions hold, what bodies print and move and
which of them fail.  What was evaluated and executed is recorded.
-/

namespace TextAdventure

/-- What compiled code is supposed to do. -/
structure Script where
  /-- The values of conditions; one that is not listed holds. -/
  conditions : List (CodeAddress × Bool) := []
  /-- The bodies that fail. -/
  failing : List CodeAddress := []
  /-- What bodies print. -/
  prints : List (CodeAddress × String) := []
  /-- The instance that a body moves, and where to. -/
  moves : List (CodeAddress × InstanceId × InstanceId) := []
  /-- The errors that code ends with. -/
  errors : List (CodeAddress × String) := []
deriving DecidableEq, Repr

/-- A body that was executed, and what it could see. -/
structure Execution where
  statements : CodeAddress
  parameters : List InstanceId
  owner : InstanceId
deriving DecidableEq, Repr

/-- What the scripted interpreter records. -/
structure Recording where
  /-- The conditions that were evaluated, in order. -/
  evaluated : List CodeAddress := []
  executed : List Execution := []
deriving DecidableEq, Repr

/-- The remark that there is no instance to move, if there is none. -/
def World.locateRemarks (story : Story) (id : InstanceId) : List LogRecord :=
  if (story.instance? id).isSome then [] else [.warning s!"Cannot locate unknown instance {id}"]

/-- The remark that there is no instance to change, if there is none. -/
def World.attributeRemarks (story : Story) (id : InstanceId) (attr : AttributeId) :
    List LogRecord :=
  if (story.instance? id).isSome then []
  else [.warning s!"Setting attribute {attr} of unknown instance {id}"]

namespace Script

/-- The value of a condition. -/
def holds (script : Script) (condition : CodeAddress) : Bool :=
  (script.conditions.lookup condition).getD true

/-- What a body prints. -/
def printed (script : Script) (statements : CodeAddress) : List Utterance :=
  match script.prints.lookup statements with
  | some text => [.print text]
  | none => []

/-- The result of code that does not fail of itself. -/
def resultOf {α : Type} (script : Script) (address : CodeAddress) (value : α) :
    Except RuntimeFailure α :=
  match script.errors.lookup address with
  | some text => .error (.error text)
  | none => .ok value

/-- The world after a body has moved something. -/
def moved {story : Story} (script : Script) (statements : CodeAddress) (world : World story) :
    World story × List LogRecord :=
  match script.moves.lookup statements with
  | some (id, destination) => (world.locate id destination, World.locateRemarks story id)
  | none => (world, [])

end Script

/-- The interpreter that follows a script. -/
def Interpreter.scripted (story : Story) (script : Script) : Interpreter story Recording where
  evaluate condition _ world recording :=
    { result := script.resultOf condition (script.holds condition)
      world
      state := { recording with evaluated := recording.evaluated ++ [condition] } }
  execute statements context world recording :=
    let (world, logged) := script.moved statements world
    { result :=
        if script.failing.contains statements then .error .failed
        else script.resultOf statements ()
      world
      state := { recording with
        executed := recording.executed ++ [⟨statements, context.parameters, context.owner⟩] }
      said := script.printed statements
      logged }

end TextAdventure
