import TextAdventure.Transcript
/-!
# Why a command is given up

Each cause carries all that is needed to tell the player about it.
-/

namespace TextAdventure

/-- The kinds of cause. -/
inductive ErrorKind where
  | formMismatch
  | ambiguity
  | referenceFailure
  | restrictionFailure
  | infeasibility
  | multiplicityViolation
deriving DecidableEq, Repr

/-- Why the current command of the player is given up. -/
inductive CommandError where
  | notUnderstood
  | unknownWord (word : String)
  | nounExpected
  /-- An except word without an all word before it. -/
  | butAfterAll (except all : String)
  | nothingAfterExcept (word : String)
  | multipleNotAllowed
  /-- Nothing that the words name can be perceived. -/
  | noSuch (phrase : String)
  /-- A pronoun that stands for nothing. -/
  | whatWord (word : String)
  | whichOne (candidates : List MessageParameter)
  | whichPronoun (pronoun : String) (candidates : List InstanceId)
  /-- The exceptions leave nothing. -/
  | notMuch
  /-- No target is left, and the player knows why. -/
  | nothingLeft
  /-- A parameter does not meet a restriction; `handled` if the restriction has said so itself. -/
  | restricted (parameter : Nat) (handled : Bool)
  | notAnObject (parameter : Nat)
  /-- The verb does nothing here. -/
  | infeasible
  | noWay
deriving DecidableEq, Repr

namespace CommandError

/-- The cause in a few words. -/
def message : CommandError → String
  | .notUnderstood => "input not understood"
  | .unknownWord word => s!"unknown word '{word}'"
  | .nounExpected => "expected a noun"
  | .butAfterAll except all => s!"'{except}' used without a preceding '{all}'"
  | .nothingAfterExcept word => s!"nothing after '{word}'"
  | .multipleNotAllowed => "multiple objects not allowed"
  | .noSuch phrase => s!"no such thing: '{phrase}'"
  | .whatWord word => s!"nothing known as '{word}'"
  | .whichOne _ => "ambiguous reference"
  | .whichPronoun pronoun _ => s!"ambiguous pronoun '{pronoun}'"
  | .notMuch => "nothing left after exceptions"
  | .nothingLeft => "no objects left"
  | .restricted parameter _ => s!"parameter {parameter} fails its restriction"
  | .notAnObject parameter => s!"parameter {parameter} is not an object"
  | .infeasible => "no executable alternative"
  | .noWay => "no exit that way"

/-- The kind of a cause. -/
def kind : CommandError → ErrorKind
  | .notUnderstood | .unknownWord _ | .nounExpected | .butAfterAll _ _ => .formMismatch
  | .whichOne _ | .whichPronoun _ _ => .ambiguity
  | .noSuch _ | .whatWord _ => .referenceFailure
  | .restricted _ _ | .notAnObject _ => .restrictionFailure
  | .infeasible | .noWay => .infeasibility
  | .nothingAfterExcept _ | .multipleNotAllowed | .notMuch | .nothingLeft => .multiplicityViolation

/-- The candidates after the first one: commas between them and an "or" before the last. -/
def listRest : List MessageParameter → List Utterance
  | [] => []
  | [last] => [.message .whichOneOr [last]]
  | candidate :: rest => .message .whichOneComma [candidate] :: listRest rest

/-- The list of candidates, begun by a message of kind `opening`. -/
def listCandidates (opening : MessageKind) : List MessageParameter → List Utterance
  | [] => []
  | candidate :: rest => .message opening [candidate] :: listRest rest

/-- What the player is told. -/
def report : CommandError → List Utterance
  | .notUnderstood => [.message .what []]
  | .unknownWord word => [.message .unknownWord [.words word]]
  | .nounExpected => [.message .noun []]
  | .butAfterAll except all => [.message .butAll [.words except, .words all]]
  | .nothingAfterExcept word => [.message .afterBut [.words word]]
  | .multipleNotAllowed => [.message .multiple []]
  | .noSuch phrase => [.message .noSuch [.words phrase]]
  | .whatWord word => [.message .whatWord [.words word]]
  | .whichOne candidates => listCandidates .whichOneStart candidates
  | .whichPronoun pronoun candidates =>
    .message .whichPronounStart [.words pronoun] ::
      listCandidates .whichPronounFirst (candidates.map .ofInstance)
  | .notMuch => [.message .notMuch []]
  | .nothingLeft => []
  | .restricted _ handled => if handled then [] else [.message .cannot []]
  | .notAnObject _ => [.message .cannot []]
  | .infeasible => [.message .cannot []]
  | .noWay => [.message .noWay []]

end CommandError

end TextAdventure
