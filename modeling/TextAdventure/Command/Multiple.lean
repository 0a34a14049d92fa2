import TextAdventure.Reference.Settling
import TextAdventure.Verb.Dispatch
/-!
# Several targets

At most one position of a command may stand for several instances.  All is cut down to the instances
that the hero can perceive and that the verb could be applied to; its exceptions are taken away
after that.  Any other list only loses the references that have no instance.
-/

namespace TextAdventure

/-- The parameters of a verb: the first instance of every position, 0 for a position that stands for
several. -/
def parameterVector (positions : List Position) : List InstanceId :=
  positions.map fun position => if position.multiple then 0 else position.firstInstance

/-- The places of the positions that stand for several instances. -/
def multiplePlaces (positions : List Position) : List Nat :=
  (positions.zipIdx.filter fun entry => entry.1.multiple).map (·.2)

/-- The place of the only position that stands for several instances, if there is one. -/
def multiplePosition (positions : List Position) : Except CommandError (Option Nat) :=
  match multiplePlaces positions with
  | [] => .ok none
  | [index] => .ok (some index)
  | _ => .error .multipleNotAllowed

variable {story : Story} {σ : Type}

/-- The hero can perceive an instance and the verb could be applied to it. -/
def feasible (setting : Setting story σ) (verb : WordCode) (parameters : List InstanceId)
    (slot : Nat) (id : InstanceId) : Play story σ Bool := do
  if (← Play.world).reachable id then possible setting verb (parameters.set slot id)
  else return false

/-- The instances in a slot that the verb could be applied to. -/
def feasibleInstances (setting : Setting story σ) (verb : WordCode) (parameters : List InstanceId)
    (slot : Nat) : List InstanceId → Play story σ (List InstanceId)
  | [] => return []
  | id :: rest => do
    let fits ← feasible setting verb parameters slot id
    let others ← feasibleInstances setting verb parameters slot rest
    return if fits then id :: others else others

namespace Position

/-- The position with just those references that a test of their instances admits. -/
def keep (admits : InstanceId → Bool) (position : Position) : Position :=
  { position with references := position.references.filter fun r => admits r.id }

/-- All without what the verb cannot be applied to, and then without the exceptions. -/
def narrowAll (words : Words) (kept : List InstanceId) (position : Position) :
    Attempt CommandError Position :=
  let allWord := ((position.references.head?).map (·.first)).getD 0
  let narrowed := position.keep kept.contains
  if narrowed.references.isEmpty then .failure narrowed (.noSuch (words.text allWord))
  else
    let excepted := position.exceptions.map (·.id)
    let left := narrowed.keep fun id => !excepted.contains id
    if left.references.isEmpty then .failure left .notMuch else .success left

/-- A list of references without those that have no instance. -/
def narrowList (position : Position) : Attempt CommandError Position :=
  let left := position.compress
  if left.references.isEmpty then .failure left .nothingLeft else .success left

/-- The position at an index of a command, cut down to the references that the command is about. -/
def narrow (setting : Setting story σ) (words : Words) (verb : WordCode)
    (positions : List Position) (index : Nat) (position : Position) :
    Play story σ (Attempt CommandError Position) := do
  if position.all then
    let kept ← feasibleInstances setting verb (parameterVector positions) index position.instances
    return position.narrowAll words kept
  else return position.narrowList

end Position

/-- Settles the position that stands for several instances; the place of this position comes with
the others if all goes well. -/
def settleMultiple (setting : Setting story σ) (words : Words) (verb : WordCode)
    (positions : List Position) :
    Play story σ (Attempt CommandError (List Position × Option Nat)) := do
  match multiplePosition positions with
  | .error fault => return .failure (positions, none) fault
  | .ok none => return .success (positions, none)
  | .ok (some index) =>
    match positions[index]? with
    | none => return .success (positions, none)
    | some position =>
      let narrowed ← position.narrow setting words verb positions index
      return narrowed.map fun position => (positions.set index position, some index)

end TextAdventure
