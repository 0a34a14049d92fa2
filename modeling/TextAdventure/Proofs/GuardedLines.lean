import TextAdventure.Proofs.GuardedStages
/-!
# Lines without a false step

The stages of a command with every access checked and the loops of a line with their steps counted
make up a run that could break at any access and at the end of any loop.  It never does
(`interpretLine_never_breaks`).
-/

namespace TextAdventure

variable {story : Story} {σ : Type}

namespace Guarded

open GuardedPlay

/-! ## Commands -/

section Commands

variable {setting : Setting story σ} {memory : Memory} {words : Words}

/-- The command that settled positions amount to. -/
def ofPositions (verb : WordCode) (positions : List Position) (multiple : Option Nat) :
    Option (Except CommandError ParsedCommand) :=
  let parameters := parameterVector positions
  match multiple with
  | none => some (.ok { verb, parameters })
  | some index => do
    let position ← positions[index]?
    match position.instances with
    | [] => return .error .nothingLeft
    | targets => return .ok { verb, parameters, multiple := some (index, targets) }

theorem ofPositions_eq {verb : WordCode} {positions : List Position} {multiple : Option Nat}
    (inRange : ∀ index, multiple = some index → index < positions.length) :
    ofPositions verb positions multiple =
      some (ParsedCommand.ofPositions verb positions multiple) := by
  unfold ofPositions ParsedCommand.ofPositions
  cases multiple with
  | none => rfl
  | some index =>
    obtain ⟨position, there⟩ : ∃ position, positions[index]? = some position :=
      ⟨_, List.getElem?_eq_getElem (inRange index rfl)⟩
    dsimp only
    rw [there]
    show (match position.instances with | [] => _ | targets => _) =
      some (match position.instances with | [] => _ | targets => _)
    cases position.instances <;> rfl

/-- Settles a command whose form is known. -/
def settleCommand (setting : Setting story σ) (memory : Memory) (words : Words)
    (found : FormMatch) : GuardedPlay story σ (Except CommandError ParsedCommand) := do
  sure (Play.note found.remarks)
  sure (tracePositions setting "matched" found.positions)
  let world ← sure Play.world
  match ← check (settlePositions world words memory found.positions) with
  | ⟨_, some fault⟩ => return .error fault
  | ⟨positions, none⟩ => do
    sure (tracePositions setting "resolved" positions)
    match ← settleMultiple setting words found.verb positions with
    | ⟨_, some fault⟩ => return .error fault
    | ⟨(positions, multiple), none⟩ => do
      match ← restrictPositions setting found.verb found.restrictions positions with
      | ⟨_, some fault⟩ => return .error fault
      | ⟨positions, none⟩ => do
        sure (tracePositions setting "restricted" positions)
        check (ofPositions found.verb positions multiple)

/-- The position with several targets is still there when they have been restricted. -/
theorem multiple_lt_of_restricted {verb : WordCode} {restrictions : List Restriction}
    {positions narrowed left : List Position} {multiple : Option Nat}
    {scene scene' : Scene story σ}
    (settled : ((TextAdventure.settleMultiple setting words verb positions).run scene).1 =
      .success (narrowed, multiple))
    (restricted : ((TextAdventure.restrictPositions setting verb restrictions narrowed).run
      scene').1 = .success left) :
    ∀ index, multiple = some index → index < left.length := by
  rintro index rfl
  obtain ⟨-, length, -⟩ := restrictPositions_eq_success (W := fun _ => True)
    (fun _ _ _ _ _ _ _ _ _ _ => trivial) trivial restricted
  rw [length]
  rcases settleMultiple_cases settled with ⟨-, -, none⟩ | ⟨_, _, _, -, there, -, rfl, same⟩
  · cases none
  · cases same
    rw [List.length_set]
    exact (List.getElem?_eq_some_iff.mp there).1

theorem settleCommand_eq (found : FormMatch) :
    settleCommand setting memory words found =
      sure (TextAdventure.settleCommand setting memory words found) := by
  unfold settleCommand TextAdventure.settleCommand
  refine sure_bind_eq fun _ => sure_bind_eq fun _ => sure_bind_eq fun scene => ?_
  rw [settlePositions_eq, check_some, pure_bind, Play.run_world]
  rcases TextAdventure.settlePositions scene.world words memory found.positions with
    ⟨positions, _ | fault⟩
  · refine sure_bind_eq fun _ => ?_
    rw [settleMultiple_eq]
    refine sure_bind_eq fun scene => ?_
    cases settled : ((TextAdventure.settleMultiple setting words found.verb positions).run
      scene).1 with
    | mk narrowed fault =>
      cases fault with
      | some fault => rfl
      | none =>
        obtain ⟨narrowed, multiple⟩ := narrowed
        dsimp only
        rw [restrictPositions_eq]
        refine sure_bind_eq fun scene' => ?_
        cases restricted : ((TextAdventure.restrictPositions setting found.verb
          found.restrictions narrowed).run scene').1 with
        | mk left fault =>
          cases fault with
          | some fault => rfl
          | none =>
            refine sure_bind_eq fun _ => ?_
            rw [ofPositions_eq (multiple_lt_of_restricted settled restricted), check_some]
            rfl
  · rfl

/-- Reads and settles the command that begins with the verb at the cursor. -/
def parseCommand (setting : Setting story σ) (memory : Memory) (words : Words) (cursor : Nat) :
    GuardedPlay story σ (Except Stop (ParsedCommand × Nat)) :=
  match words.code? cursor with
  | none => return .error ⟨.notUnderstood, cursor⟩
  | some verbWord => do
    match ← check (matchForm story words memory verbWord (cursor + 1)) with
    | .error stop => return .error stop
    | .ok (found, last) => do
      let settled ← settleCommand setting memory words found
      return finishCommand words last settled

theorem parseCommand_eq (cursor : Nat) :
    parseCommand setting memory words cursor =
      sure (TextAdventure.parseCommand setting memory words cursor) := by
  unfold parseCommand TextAdventure.parseCommand
  cases words.code? cursor with
  | none => rfl
  | some verbWord =>
    dsimp only
    rw [matchForm_eq, check_some, pure_bind]
    rcases story.matchForm words memory verbWord (cursor + 1) with stop | ⟨found, last⟩
    · rfl
    · dsimp only
      rw [settleCommand_eq]
      exact sure_bind_eq fun _ => rfl

/-- Runs the command at the cursor. -/
def runCommand (setting : Setting story σ) (words : Words) (memory : Memory) (cursor : Nat) :
    GuardedPlay story σ (Memory × Except Stop (Option Dispatch × Nat)) := do
  if words.is cursor .verb then
    match ← parseCommand setting memory words cursor with
    | .error stop => return (memory, .error stop)
    | .ok (command, next) =>
      let memory := Memory.ofCommand words.dictionary command.parameters command.targets
      match ← dispatchTargets setting command.verb command.parameters command.multiple with
      | .error fault => return (memory, .error ⟨fault, next⟩)
      | .ok ending => return (memory, .ok (some ending, next))
  else if words.is cursor .direction then do
    let moved ← sure (runMovement setting words cursor)
    return ({}, moved)
  else return ({}, .error ⟨.notUnderstood, cursor⟩)

theorem runCommand_eq (cursor : Nat) :
    runCommand setting words memory cursor =
      sure (TextAdventure.runCommand setting words memory cursor) := by
  unfold runCommand TextAdventure.runCommand
  split
  · rw [parseCommand_eq]
    refine sure_bind_eq fun scene => ?_
    rcases ((TextAdventure.parseCommand setting memory words cursor).run scene).1 with
      stop | ⟨command, next⟩
    · rfl
    · dsimp only
      rw [dispatchTargets_eq]
      refine sure_bind_eq fun scene => ?_
      cases ((TextAdventure.dispatchTargets setting command.verb command.parameters
        command.multiple).run scene).1 <;> rfl
  · split
    · exact sure_bind_eq fun _ => rfl
    · rfl

theorem le_size_of_finishCommand {last next : Nat} {command : ParsedCommand}
    {settled : Except CommandError ParsedCommand} (le : last ≤ words.size)
    (finished : finishCommand words last settled = .ok (command, next)) : next ≤ words.size := by
  cases settled with
  | error fault => cases finished
  | ok found =>
    unfold finishCommand at finished
    dsimp only at finished
    split at finished
    · cases finished
      exact le
    · split at finished
      · next joined =>
        cases finished
        exact Words.lt_size_of_is joined
      · cases finished

theorem le_size_of_parseCommand {cursor next : Nat} {command : ParsedCommand}
    {scene : Scene story σ} (inRange : cursor < words.size)
    (parsed : ((TextAdventure.parseCommand setting memory words cursor).run scene).1 =
      .ok (command, next)) : next ≤ words.size := by
  unfold TextAdventure.parseCommand at parsed
  split at parsed
  · cases parsed
  · split at parsed
    · cases parsed
    · next matched =>
      rw [Play.run_bind, Play.run_pure] at parsed
      exact le_size_of_finishCommand (Story.le_size_of_matchForm matched inRange) parsed

theorem le_size_of_runMovement {cursor next : Nat} {ending : Option Dispatch}
    {scene : Scene story σ} (inRange : cursor < words.size)
    (moved : ((runMovement setting words cursor).run scene).1 = .ok (ending, next)) :
    next ≤ words.size := by
  unfold runMovement at moved
  dsimp only at moved
  split at moved
  · rw [Play.run_bind] at moved
    split at moved
    · cases moved
    · cases moved
      split
      · exact inRange
      · next unended => exact Words.isEnd_eq_false_iff.mp (Bool.eq_false_iff.mpr unended)
  · cases moved

/-- A command that is run takes at least one of the words that are there. -/
theorem runCommand_advances {cursor next : Nat} {ending : Option Dispatch}
    {scene : Scene story σ}
    (ran : ((TextAdventure.runCommand setting words memory cursor).run scene).1.2 =
      .ok (ending, next)) : cursor < next ∧ next ≤ words.size := by
  refine ⟨lt_of_runCommand ran, ?_⟩
  unfold TextAdventure.runCommand at ran
  split at ran
  · next isVerb =>
    rw [Play.run_bind] at ran
    split at ran
    · cases ran
    · next parsed =>
      rw [Play.run_bind] at ran
      split at ran
      · cases ran
      · cases ran
        exact le_size_of_parseCommand (Words.lt_size_of_is isVerb) parsed
  · split at ran
    · next isDirection => exact le_size_of_runMovement (Words.lt_size_of_is isDirection) ran
    · cases ran

/-! ## Lines -/

/-- Runs the commands of a line from the cursor on, a number of them at most. -/
def runWords (setting : Setting story σ) (words : Words) :
    Nat → Memory → Nat → GuardedPlay story σ Memory
  | 0, _, _ => broken
  | steps + 1, memory, cursor =>
    if words.isEnd cursor then pure memory
    else do
      sure (Play.onlyIf (0 < cursor) (Play.say [.paragraph]))
      match ← runCommand setting words memory cursor with
      | (memory, .error stop) => do
        sure (Play.say stop.error.report)
        return memory
      | (memory, .ok (_, next)) => runWords setting words steps memory next

theorem runWords_eq {steps cursor : Nat} (enough : words.size - cursor < steps) :
    runWords setting words steps memory cursor =
      sure (TextAdventure.runWords setting words memory cursor) := by
  induction steps generalizing memory cursor with
  | zero => exact absurd enough (Nat.not_lt_zero _)
  | succ steps ih =>
    funext scene
    show _ = some (TextAdventure.runWords setting words memory cursor scene)
    unfold runWords
    cases ended : words.isEnd cursor with
    | true =>
      rw [if_pos rfl, runWords_of_isEnd ended]
      rfl
    | false =>
      have parted : ((Play.onlyIf (0 < cursor) (Play.say [.paragraph])).run scene).2 =
          scene.before cursor := by
        rw [Play.run_onlyIf]
        unfold Scene.before
        cases cursor <;> rfl
      rw [if_neg Bool.false_ne_true, runWords_of_unended ended, sure_bind_run, parted,
        runCommand_eq, sure_bind_run]
      unfold runFrom
      cases ran : (TextAdventure.runCommand setting words memory cursor).run
        (scene.before cursor) with
      | mk result after =>
        obtain ⟨memory', stop | ⟨ending, next⟩⟩ := result
        · rfl
        · -- the command has taken words, so the steps that are left are enough
          obtain ⟨advanced, inRange⟩ := runCommand_advances (congrArg (·.1.2) ran)
          dsimp only
          rw [ih (by omega)]
          rfl

/-- The words of a line. -/
def scan (world : World story) (line : String) :
    Option (Except CommandError (List PlayerWord) × World story) := do
  let tokens ← tokens (line.toList.length + 1) line.toList
  return scanTokens world tokens

theorem scan_eq (world : World story) (line : String) :
    scan world line = some (TextAdventure.scan world line) := by
  unfold scan
  rw [tokens_eq (Nat.lt_succ_self _)]
  rfl

/-- Scans and runs a line of the player. -/
def interpretLine (setting : Setting story σ) (memory : Memory) (line : String) :
    GuardedPlay story σ Memory := do
  let world ← sure Play.world
  let (scanned, world) ← check (scan world.clearLiterals line)
  sure (modify fun scene => { scene with world })
  match scanned with
  | .error fault => do
    sure (Play.say fault.report)
    return memory
  | .ok found => runWords setting ⟨found, story.dictionary⟩ (found.length + 1) memory 0

theorem interpretLine_eq (line : String) :
    interpretLine setting memory line =
      sure (TextAdventure.interpretLine setting memory line) := by
  unfold interpretLine TextAdventure.interpretLine
  refine sure_bind_eq fun scene => ?_
  rw [scan_eq, check_some, pure_bind, Play.run_world]
  dsimp only
  refine sure_bind_eq fun _ => ?_
  cases (TextAdventure.scan scene.world.clearLiterals line).1 with
  | error fault => rfl
  | ok found => exact runWords_eq (Nat.lt_succ_self _)

end Commands

end Guarded

/-! ## Ways that are cut off -/

/-- The way up from a class is cut off behind as many steps as there are classes, and one more. -/
theorem Story.length_classChain_le (story : Story) (cls : ClassId) :
    (story.classChain cls).length ≤ story.classes.length + 1 := by
  have cut : ∀ bound cls, (story.lineage bound cls).length ≤ bound := by
    intro bound
    induction bound with
    | zero =>
      intro cls
      exact Nat.le_refl _
    | succ bound ih =>
      intro cls
      unfold Story.lineage
      split
      · exact Nat.zero_le _
      · exact Nat.succ_le_succ (ih _)
  unfold Story.classChain
  rw [List.length_reverse]
  exact cut _ cls

/-- So is the way out of an instance. -/
theorem World.length_surroundings_le (world : World story) (id : InstanceId) :
    (world.surroundings id).length ≤ story.instances.length + 1 := by
  have cut : ∀ bound id, (world.placesAround bound id).length ≤ bound := by
    intro bound
    induction bound with
    | zero =>
      intro id
      exact Nat.le_refl _
    | succ bound ih =>
      intro id
      unfold World.placesAround
      dsimp only
      split
      · exact Nat.zero_le _
      · exact Nat.succ_le_succ (ih _)
  exact cut _ id

/-! ## The whole line -/

/-- **A line is read and run to its end without a false step.**  Whatever the story, the memory, the
line and the interpreter are, no stage accesses an index that is out of range and no loop runs
longer than it is given: the run with all accesses checked and all steps counted does what the run
without checks does.  The reading of a form goes on only further along the line, a position and a
command take at least one word and none that is not there, and the ways up the classes and out of
the places are cut off even if they lead in circles. -/
theorem interpretLine_never_breaks (setting : Setting story σ) (memory : Memory) :
    (∀ line, Guarded.interpretLine setting memory line =
      .sure (interpretLine setting memory line)) ∧
    (∀ words state next, Guarded.look story words memory state = some (.onward next) →
      state.cursor < next.cursor ∧ next.cursor ≤ words.size) ∧
    (∀ (words : Words) flags cursor found next,
      words.position memory flags cursor = .ok (found, next) →
        cursor < next ∧ next ≤ words.size) ∧
    (∀ words cursor scene ending next,
      ((runCommand setting words memory cursor).run scene).1.2 = .ok (ending, next) →
        cursor < next ∧ next ≤ words.size) ∧
    (∀ cls, (story.classChain cls).length ≤ story.classes.length + 1) ∧
    (∀ (world : World story) id,
      (world.surroundings id).length ≤ story.instances.length + 1) := by
  refine ⟨Guarded.interpretLine_eq, ?_, ?_, ?_, story.length_classChain_le,
    World.length_surroundings_le⟩
  · intro words state next looked
    exact Guarded.look_onward looked
  · intro words flags cursor found next read
    exact Guarded.position_advances read
  · intro words cursor scene ending next ran
    exact Guarded.runCommand_advances ran

/-- A hall where everything leads in circles: the hero is in the hall and the hall in the hero, two
classes inherit from each other and a third one from none that there is, and a reference and a
preposition can follow each other without an end. -/
def Story.hall : Story where
  predefined := { thing := 2, object := 1 }
  hero := 1
  classes := [
    { code := 1, name := "object", parent := 2 },
    { code := 2, name := "thing", parent := 1 },
    { code := 3, name := "mirror", parent := 9 }]
  instances := [
    { code := 1, name := "hero", parent := 3, location := 2 },
    { code := 2, name := "hall", parent := 3, location := 1 },
    { code := 3, name := "ball", parent := 1, location := 2 }]
  dictionary := { entries := [
    { word := "push", code := 1, classes := .verb },
    { word := "past", code := 2, classes := .preposition },
    { word := "ball", code := 3, classes := .noun, nounOf := [3] }] }
  grammars := [{ verb := 1, table := 0 }]
  tables := [[.parameter {} 1], [.word 2 0, .finish 1 []]]
  globalVerbs := [{ code := 1, bodies := [{ action := some 100 }] }]

/-- Push ball past ball: the second look at the first table is at the last word. -/
theorem interpretLine_never_breaks_hall :
    let setting : Setting .hall Recording := ⟨.scripted _ {}, {}⟩
    let scene : Scene .hall Recording := { world := .initial _, state := {} }
    let words : Words :=
      ⟨[.known 0 "push", .known 2 "ball", .known 1 "past", .known 2 "ball"],
        Story.hall.dictionary⟩
    let ball : Position := { references := [{ first := 1, last := 1 }] }
    (Guarded.look .hall words {} ⟨1, 2, [ball]⟩ = some (.onward ⟨0, 3, [ball]⟩) ∧
      2 < 3 ∧ 3 ≤ words.size) ∧
    (words.position {} {} 1 = .ok (ball, 2) ∧ 1 < 2 ∧ 2 ≤ words.size) ∧
    (((runCommand setting words {} 0).run scene).1.2 = .ok (some .completed, 4) ∧
      0 < 4 ∧ 4 ≤ words.size) := by
  intro setting scene words ball
  obtain ⟨-, looks, positions, commands, -, -⟩ := interpretLine_never_breaks setting {}
  have looked : Guarded.look .hall words {} ⟨1, 2, [ball]⟩ =
      some (.onward ⟨0, 3, [ball]⟩) := by decide +kernel
  have read : words.position {} {} 1 = .ok (ball, 2) := eq_ok_of_toOption (by decide +kernel)
  have ran : ((runCommand setting words {} 0).run scene).1.2 = .ok (some .completed, 4) :=
    eq_ok_of_toOption (by decide +kernel)
  exact ⟨⟨looked, looks words _ _ looked⟩, ⟨read, positions words _ _ _ _ read⟩,
    ⟨ran, commands words _ scene _ _ ran⟩⟩

end TextAdventure
