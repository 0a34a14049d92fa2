import TextAdventure.Command.Movement
import TextAdventure.Command.Restrictions
import TextAdventure.FormMatch
import TextAdventure.PlayerLine.Scan
/-!
# Commands

A line can hold several commands joined by conjunctions.  Each is read, settled and dispatched
before the next one is looked at, and what goes wrong with one ends the line.

Reading a command gives the place where it ends; it always lies behind the place where it began, so
a line is read in finitely many steps.
-/

namespace TextAdventure

/-- A command that is ready to be dispatched. -/
structure ParsedCommand where
  verb : WordCode
  /-- The instance for each parameter, 0 for a slot with several targets. -/
  parameters : List InstanceId
  /-- The slot with several targets, counted from 0, and its targets. -/
  multiple : Option (Nat × List InstanceId) := none
deriving DecidableEq, Repr

/-- The targets of a command that has several. -/
def ParsedCommand.targets (command : ParsedCommand) : List InstanceId :=
  (command.multiple.map (·.2)).getD []

variable {story : Story} {σ : Type}

/-- Notes the positions of a command after a stage, if parsing is traced. -/
def tracePositions (setting : Setting story σ) (stage : String) (positions : List Position) :
    Play story σ Unit :=
  Play.onlyIf setting.tracing.parsing
    (Play.note ((positions.zipIdx 1).map fun entry =>
      .info s!"<PARSE {stage} #{entry.2}: {entry.1.describe}>"))

/-- The command that settled positions amount to.  A position with several targets must have kept
one. -/
def ParsedCommand.ofPositions (verb : WordCode) (positions : List Position)
    (multiple : Option Nat) : Except CommandError ParsedCommand :=
  let parameters := parameterVector positions
  match multiple with
  | none => .ok { verb, parameters }
  | some index =>
    match ((positions[index]?).map (·.instances)).getD [] with
    | [] => .error .nothingLeft
    | targets => .ok { verb, parameters, multiple := some (index, targets) }

/-- Settles a command whose form is known. -/
def settleCommand (setting : Setting story σ) (memory : Memory) (words : Words)
    (found : FormMatch) : Play story σ (Except CommandError ParsedCommand) := do
  Play.note found.remarks
  tracePositions setting "matched" found.positions
  match settlePositions (← Play.world) words memory found.positions with
  | ⟨_, some fault⟩ => return .error fault
  | ⟨positions, none⟩ =>
    tracePositions setting "resolved" positions
    match ← settleMultiple setting words found.verb positions with
    | ⟨_, some fault⟩ => return .error fault
    | ⟨(positions, multiple), none⟩ =>
      match ← restrictPositions setting found.verb found.restrictions positions with
      | ⟨_, some fault⟩ => return .error fault
      | ⟨positions, none⟩ =>
        tracePositions setting "restricted" positions
        return ParsedCommand.ofPositions found.verb positions multiple

/-- A command with the place after it and after the conjunction that follows it. -/
def finishCommand (words : Words) (last : Nat) :
    Except CommandError ParsedCommand → Except Stop (ParsedCommand × Nat)
  | .error fault => .error ⟨fault, last⟩
  | .ok command =>
    if words.isEnd last then .ok (command, last)
    else if words.is last .conjunction then .ok (command, last + 1)
    else .error ⟨.notUnderstood, last⟩

/-- Reads and settles the command that begins with the verb at the cursor. -/
def parseCommand (setting : Setting story σ) (memory : Memory) (words : Words) (cursor : Nat) :
    Play story σ (Except Stop (ParsedCommand × Nat)) :=
  match words.code? cursor with
  | none => return .error ⟨.notUnderstood, cursor⟩
  | some verbWord =>
    match story.matchForm words memory verbWord (cursor + 1) with
    | .error stop => return .error stop
    | .ok (found, last) => do
      let settled ← settleCommand setting memory words found
      return finishCommand words last settled

/-- Runs the movement that begins with the direction at the cursor. -/
def runMovement (setting : Setting story σ) (words : Words) (cursor : Nat) :
    Play story σ (Except Stop (Option Dispatch × Nat)) :=
  let next := cursor + 1
  if words.isEndOfCommand next then do
    match ← go setting ((words.code? cursor).getD 0) with
    | .error fault => return .error ⟨fault, next⟩
    | .ok () => return .ok (none, if words.isEnd next then next else next + 1)
  else return .error ⟨.notUnderstood, next⟩

/-- Runs the command at the cursor.  The answer is what is remembered after it and, if it was not
given up, how its verb ended (a movement has none) and the place where the next command begins. -/
def runCommand (setting : Setting story σ) (words : Words) (memory : Memory) (cursor : Nat) :
    Play story σ (Memory × Except Stop (Option Dispatch × Nat)) := do
  if words.is cursor .verb then
    match ← parseCommand setting memory words cursor with
    | .error stop => return (memory, .error stop)
    | .ok (command, next) =>
      let memory := Memory.ofCommand words.dictionary command.parameters command.targets
      match ← dispatchTargets setting command.verb command.parameters command.multiple with
      | .error fault => return (memory, .error ⟨fault, next⟩)
      | .ok ending => return (memory, .ok (some ending, next))
  else if words.is cursor .direction then
    return ({}, ← runMovement setting words cursor)
  else return ({}, .error ⟨.notUnderstood, cursor⟩)

/-! ## Every command advances -/

theorem le_of_finishCommand {words : Words} {last next : Nat} {command : ParsedCommand}
    {settled : Except CommandError ParsedCommand}
    (finished : finishCommand words last settled = .ok (command, next)) : last ≤ next := by
  unfold finishCommand at finished
  split at finished
  · cases finished
  · split at finished
    · cases finished; exact Nat.le_refl _
    · split at finished
      · cases finished; exact Nat.le_succ _
      · cases finished

theorem lt_of_parseCommand {setting : Setting story σ} {memory : Memory} {words : Words}
    {cursor next : Nat} {command : ParsedCommand} {scene : Scene story σ}
    (parsed : ((parseCommand setting memory words cursor).run scene).1 = .ok (command, next)) :
    cursor < next := by
  unfold parseCommand at parsed
  split at parsed
  · cases parsed
  · split at parsed
    · cases parsed
    · next matched =>
      simp only [Play.run_bind, Play.run_pure] at parsed
      exact Nat.lt_of_lt_of_le (Story.le_of_matchForm matched) (le_of_finishCommand parsed)

theorem lt_of_runMovement {setting : Setting story σ} {words : Words}
    {cursor next : Nat} {ending : Option Dispatch} {scene : Scene story σ}
    (moved : ((runMovement setting words cursor).run scene).1 = .ok (ending, next)) :
    cursor < next := by
  unfold runMovement at moved
  simp only at moved
  split at moved
  · -- a movement ends after the direction or after the conjunction behind it
    simp only [Play.run_bind] at moved
    split at moved
    · cases moved
    · cases moved
      split <;> omega
  · cases moved

theorem lt_of_runCommand {setting : Setting story σ} {words : Words} {memory : Memory}
    {cursor next : Nat} {ending : Option Dispatch} {scene : Scene story σ}
    (ran : ((runCommand setting words memory cursor).run scene).1.2 = .ok (ending, next)) :
    cursor < next := by
  unfold runCommand at ran
  split at ran
  · -- a verb command ends where its reading ends, whatever its dispatch does
    simp only [Play.run_bind] at ran
    split at ran
    · cases ran
    · next parsed =>
      simp only [Play.run_bind] at ran
      split at ran
      · cases ran
      · cases ran
        exact lt_of_parseCommand parsed
  · split at ran
    · exact lt_of_runMovement ran
    · cases ran

/-! ## Lines -/

/-- Runs the commands of a line from the cursor on and gives what is remembered after them. -/
def runWords (setting : Setting story σ) (words : Words) (memory : Memory) (cursor : Nat) :
    Play story σ Memory := fun scene =>
  if _ : words.isEnd cursor = true then (memory, scene)
  else
    let parted := if cursor = 0 then scene else ((Play.say [.paragraph]).run scene).2
    let ran := (runCommand setting words memory cursor).run parted
    match _ : ran.1.2 with
    | .error stop => (ran.1.1, ((Play.say stop.error.report).run ran.2).2)
    | .ok (_, next) => runWords setting words ran.1.1 next ran.2
termination_by words.size - cursor
decreasing_by
  have := lt_of_runCommand ‹ran.1.2 = .ok (_, next)›
  have unended := ‹¬ words.isEnd cursor = true›
  simp only [Words.isEnd, decide_eq_true_eq, Nat.not_le] at unended
  omega

/-- Scans and runs a line of the player and gives what is remembered after it. -/
def interpretLine (setting : Setting story σ) (memory : Memory) (line : String) :
    Play story σ Memory := do
  let (scanned, world) := scan (← Play.world).clearLiterals line
  modify fun scene => { scene with world }
  match scanned with
  | .error fault =>
    Play.say fault.report
    return memory
  | .ok words => runWords setting ⟨words, story.dictionary⟩ memory 0

end TextAdventure
