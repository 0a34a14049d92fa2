import TextAdventure.CommandError
import TextAdventure.Scene
import TextAdventure.Verb.Alternative
/-!
# Dispatching a verb

All checks of all alternatives come first, from the outside in, and the first that fails ends the
command.  Then the bodies run in three passes: those marked BEFORE and ONLY from the inside out,
where an ONLY ends the command; all but those marked AFTER from the outside in; and what is left
from the inside out.  No body runs twice, and one that fails ends the command.
-/

namespace TextAdventure

/-- How a dispatched verb ended. -/
inductive Dispatch where
  /-- Every pass ran, or an ONLY body ended them. -/
  | completed
  /-- A check failed and no body ran. -/
  | checkFailed
  /-- A body failed. -/
  | failed
deriving DecidableEq, Repr

variable {story : Story} {σ : Type}

/-! ## Checks -/

/-- The result of running statements, if there are any. -/
def Play.executeAny (setting : Setting story σ) (statements : Option CodeAddress)
    (context : Context) : Play story σ (Except RuntimeFailure Unit) :=
  match statements with
  | none => return .ok ()
  | some address => Play.execute setting address context

/-- The value of a check's condition. -/
def Check.holds (setting : Setting story σ) (context : Context) (check : Check) :
    Play story σ (Except RuntimeFailure Bool) :=
  match check.condition with
  | none => return .ok false
  | some condition => Play.evaluate setting condition context

/-- Goes through checks up to the first one that does not hold, whose statements are run if the
player is to be told. -/
def checksPass (setting : Setting story σ) (context : Context) (telling : Bool) :
    List Check → Play story σ (Except RuntimeFailure Bool)
  | [] => return .ok true
  | check :: rest => do
    match ← check.holds setting context with
    | .error failure => return .error failure
    | .ok true => checksPass setting context telling rest
    | .ok false =>
      match ← Play.executeAny setting (if telling then check.statements else none) context with
      | .error failure => return .error failure
      | .ok () => return .ok false

/-- The context in which the code of an alternative runs. -/
def Alternative.context (verb : WordCode) (parameters : List InstanceId)
    (alternative : Alternative) : Context :=
  { verb, parameters, owner := alternative.owner }

/-- The checks of one alternative hold. -/
def Alternative.checksPass (setting : Setting story σ) (verb : WordCode)
    (parameters : List InstanceId) (telling : Bool) (alternative : Alternative) :
    Play story σ Bool := do
  Play.onlyIf telling
    (Play.traceSection setting s!"VERB {verb}, {alternative.describe}, CHECK")
  match ← TextAdventure.checksPass setting (alternative.context verb parameters) telling
      alternative.body.checks with
  | .ok passed => return passed
  | .error failure =>
    Play.onlyIf telling
      (Play.note [.warning s!"CHECK {alternative.describe}: {failure.message}"])
    return false

/-- The checks of all alternatives hold. -/
def allChecksPass (setting : Setting story σ) (verb : WordCode) (parameters : List InstanceId)
    (telling : Bool) : List Alternative → Play story σ Bool
  | [] => return true
  | alternative :: rest => do
    if alternative.body.checks.isEmpty then allChecksPass setting verb parameters telling rest
    else if ← alternative.checksPass setting verb parameters telling then
      allChecksPass setting verb parameters telling rest
    else return false

/-- Some alternative does something. -/
def anyAction (alternatives : List Alternative) : Bool :=
  alternatives.any (·.body.action.isSome)

/-- The verb would do something for these parameters.  Nothing is executed and nothing said. -/
def possible (setting : Setting story σ) (verb : WordCode) (parameters : List InstanceId) :
    Play story σ Bool := do
  let alternatives := (← Play.world).alternatives verb parameters
  let passed ← allChecksPass setting verb parameters false alternatives
  return passed && anyAction alternatives

/-! ## Passes -/

/-- The heading of a body in the log. -/
def Alternative.title (verb : WordCode) (alternative : Alternative) : String :=
  s!"VERB {verb}, {alternative.describe}, DOES" ++
    match alternative.body.qualifier with
    | .default => ""
    | qualifier => s!" ({qualifier.keyword})"

/-- Runs the body of an alternative, unless it has had its turn; false if it fails. -/
def Alternative.perform (setting : Setting story σ) (verb : WordCode)
    (parameters : List InstanceId) (alternative : Alternative) : Play story σ Bool :=
  if alternative.done then return true
  else
    match alternative.body.action with
    | none => return true
    | some action => do
      Play.traceSection setting (alternative.title verb)
      match ← Play.execute setting action (alternative.context verb parameters) with
      | .ok () => return true
      | .error _ => return false

/-- A way through the alternatives. -/
structure Pass where
  /-- The alternatives that have their turn. -/
  selects : VerbBody → Bool
  /-- After such an alternative the command is complete. -/
  ends : VerbBody → Bool

/-- First the bodies that come before the others, up to one that excludes them. -/
def Pass.before : Pass where
  selects body := body.qualifier == .before || body.qualifier == .only
  ends body := body.qualifier == .only

/-- Then all that do not come after the others. -/
def Pass.main : Pass where
  selects body := body.qualifier != .after
  ends _ := false

/-- At last all that are left. -/
def Pass.after : Pass where
  selects _ := true
  ends _ := false

/-- Goes through alternatives in the given order.  The second part of the answer says how the
command ended, if it did; the first part is the alternatives with those marked that have had their
turn. -/
def Pass.run (setting : Setting story σ) (verb : WordCode) (parameters : List InstanceId)
    (pass : Pass) : List Alternative → Play story σ (List Alternative × Option Dispatch)
  | [] => return ([], none)
  | alternative :: rest => do
    if pass.selects alternative.body then
      let performed ← alternative.perform setting verb parameters
      let alternative := { alternative with done := true }
      if !performed then return (alternative :: rest, some .failed)
      else if pass.ends alternative.body then return (alternative :: rest, some .completed)
      else
        let (rest, ending) ← pass.run setting verb parameters rest
        return (alternative :: rest, ending)
    else
      let (rest, ending) ← pass.run setting verb parameters rest
      return (alternative :: rest, ending)

/-- Runs the bodies of alternatives that are given from the outside in. -/
def performAll (setting : Setting story σ) (verb : WordCode) (parameters : List InstanceId)
    (alternatives : List Alternative) : Play story σ Dispatch := do
  match ← Pass.before.run setting verb parameters alternatives.reverse with
  | (_, some ending) => return ending
  | (left, none) =>
    match ← Pass.main.run setting verb parameters left.reverse with
    | (_, some ending) => return ending
    | (left, none) =>
      let (_, ending) ← Pass.after.run setting verb parameters left.reverse
      return ending.getD .completed

/-- Runs a verb with single parameters. -/
def dispatch (setting : Setting story σ) (verb : WordCode) (parameters : List InstanceId) :
    Play story σ (Except CommandError Dispatch) := do
  let alternatives := (← Play.world).alternatives verb parameters
  if ← allChecksPass setting verb parameters true alternatives then
    if anyAction alternatives then
      return .ok (← performAll setting verb parameters alternatives)
    else return .error .infeasible
  else return .ok .checkFailed

/-! ## Several targets -/

/-- How a command ends after one more target: the last trouble counts. -/
def Dispatch.afterTarget (dispatch : Dispatch) (later : Dispatch) : Dispatch :=
  match later with
  | .completed => dispatch
  | other => other

/-- Runs a verb for one target in a slot, announced by its name.  If the verb cannot be applied to
it, the player is told so. -/
def dispatchTarget (setting : Setting story σ) (verb : WordCode) (parameters : List InstanceId)
    (slot : Nat) (ending : Dispatch) (target : InstanceId) : Play story σ Dispatch := do
  Play.say [.marker ((← Play.world).messageParameter target)]
  match ← dispatch setting verb (parameters.set slot target) with
  | .ok dispatched => return ending.afterTarget dispatched
  | .error error =>
    Play.say error.report
    return ending

/-- Runs a verb for each target in a slot, with a paragraph between them. -/
def dispatchEach (setting : Setting story σ) (verb : WordCode) (parameters : List InstanceId)
    (slot : Nat) (ending : Dispatch) : List InstanceId → Play story σ Dispatch
  | [] => return ending
  | target :: rest => do
    let ending ← dispatchTarget setting verb parameters slot ending target
    Play.onlyIf (!rest.isEmpty) (Play.say [.paragraph])
    dispatchEach setting verb parameters slot ending rest

/-- Runs a verb, for every target if one of its slots has several. -/
def dispatchTargets (setting : Setting story σ) (verb : WordCode) (parameters : List InstanceId) :
    Option (Nat × List InstanceId) → Play story σ (Except CommandError Dispatch)
  | none => dispatch setting verb parameters
  | some (_, []) => dispatch setting verb parameters
  | some (slot, [target]) => dispatch setting verb (parameters.set slot target)
  | some (slot, target :: targets) =>
    if slot < parameters.length then
      .ok <$> dispatchEach setting verb parameters slot .completed (target :: targets)
    else dispatch setting verb parameters

end TextAdventure
