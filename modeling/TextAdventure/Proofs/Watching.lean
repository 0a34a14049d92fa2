import TextAdventure.Proofs.Lines
import TextAdventure.Proofs.Validity
/-!
# The worlds that code is shown

The watched interpreter does what the interpreter under it does and keeps every world that it is
shown.  Forgetting these worlds gives back the run without them, so they are the worlds in which
code has run.  If no code creates literals or forgets any, a line has the same literals from its
scan to its end: in every world that code is shown, and where each of its commands begins
(`watches_interpretLine`, `CommandBegins.literals_eq`).
-/

namespace TextAdventure

variable {story : Story} {σ : Type}

/-- No code creates literals or forgets any, be it a condition or statements. -/
structure Interpreter.LeavesLiterals (interpreter : Interpreter story σ) : Prop where
  evaluate : ∀ condition context world state,
    (interpreter.evaluate condition context world state).world.literals = world.literals
  execute : interpreter.KeepsLiterals

/-- The interpreter that does what another one does and keeps the worlds that it is shown. -/
def Interpreter.watched (interpreter : Interpreter story σ) :
    Interpreter story (σ × List (World story)) where
  evaluate condition context world state :=
    let outcome := interpreter.evaluate condition context world state.1
    { result := outcome.result
      world := outcome.world
      state := (outcome.state, state.2 ++ [world])
      said := outcome.said
      logged := outcome.logged }
  execute statements context world state :=
    let outcome := interpreter.execute statements context world state.1
    { result := outcome.result
      world := outcome.world
      state := (outcome.state, state.2 ++ [world])
      said := outcome.said
      logged := outcome.logged }

/-- The setting with a watch on its interpreter. -/
def Setting.watched (setting : Setting story σ) : Setting story (σ × List (World story)) where
  interpreter := setting.interpreter.watched
  tracing := setting.tracing

namespace Scene

/-- The scene before any code has run. -/
def watched (scene : Scene story σ) : Scene story (σ × List (World story)) where
  world := scene.world
  state := (scene.state, [])
  transcript := scene.transcript
  log := scene.log

/-- The scene without the worlds that have been kept. -/
def unwatched (scene : Scene story (σ × List (World story))) : Scene story σ where
  world := scene.world
  state := scene.state.1
  transcript := scene.transcript
  log := scene.log

/-- The worlds that code has been shown. -/
def seen (scene : Scene story (σ × List (World story))) : List (World story) := scene.state.2

end Scene

/-! ## Literals that stay -/

/-- The second scene is the first one with a watch.  The world has these literals, and so had all
worlds that code has been shown. -/
structure Watches (literals : List Literal) (scene : Scene story σ)
    (noted : Scene story (σ × List (World story))) : Prop where
  same : noted.unwatched = scene
  now : scene.world.literals = literals
  before : ∀ world ∈ noted.seen, world.literals = literals

section Watches

variable {setting : Setting story σ} {literals : List Literal} {scene : Scene story σ}

theorem watches_watched (now : scene.world.literals = literals) :
    Watches literals scene scene.watched :=
  ⟨rfl, now, List.forall_mem_nil _⟩

/-- One more world is shown, and the literals are still there. -/
theorem Watches.enacted {noted : Scene story (σ × List (World story))} {after : Scene story σ}
    {noted' : Scene story (σ × List (World story))} (watches : Watches literals scene noted)
    (same : noted'.unwatched = after) (kept : after.world.literals = scene.world.literals)
    (shown : noted'.seen = noted.seen ++ [scene.world]) : Watches literals after noted' := by
  refine ⟨same, kept.trans watches.now, ?_⟩
  rw [shown, List.forall_mem_append]
  exact ⟨watches.before, List.forall_mem_singleton.mpr watches.now⟩

theorem stepsAlike_watched (leaves : setting.interpreter.LeavesLiterals)
    (literals : List Literal) : StepsAlike (Watches literals) setting setting.watched := by
  have acts : ActsAlike (Watches literals) setting setting.watched := by
    refine ⟨?_, ?_, ?_, ?_⟩
    · intro statements context s t watches
      obtain rfl := watches.same
      exact ⟨rfl, watches.enacted rfl (leaves.execute ..) rfl⟩
    · rintro utterances _ t ⟨rfl, now, before⟩
      exact ⟨rfl, rfl, now, before⟩
    · rintro records _ t ⟨rfl, now, before⟩
      exact ⟨rfl, rfl, now, before⟩
    · intro title
      refine Play.Alike.onlyIf _ fun _ => ?_
      rintro _ t ⟨rfl, now, before⟩
      exact ⟨rfl, rfl, now, before⟩
  refine ⟨⟨?_, ?_⟩, acts, tracePositions_alike rfl acts, ?_⟩
  · rintro _ t ⟨rfl, -, -⟩
    rfl
  · intro condition context s t watches
    obtain rfl := watches.same
    exact ⟨rfl, watches.enacted rfl (leaves.evaluate ..) rfl⟩
  · rintro _ t ⟨rfl, now, before⟩ id destination
    exact ⟨rfl, now, before⟩

end Watches

/-! ## Lines -/

section Lines

variable {setting : Setting story σ} {memory : Memory} {line : String} {scene : Scene story σ}
  {scanned : List PlayerWord}

/-- A line that scans is run from the world that the scan leaves. -/
theorem interpretLine_run (scans : (scan scene.world.clearLiterals line).1 = .ok scanned) :
    (interpretLine setting memory line).run scene =
      (runWords setting ⟨scanned, story.dictionary⟩ memory 0).run
        { scene with world := (scan scene.world.clearLiterals line).2 } := by
  unfold interpretLine
  simp only [Play.run_bind, Play.run_world]
  generalize scan scene.world.clearLiterals line = scan at scans ⊢
  obtain ⟨result, world⟩ := scan
  cases scans
  rfl

/-- The literals that a line has after its scan it has to its end. -/
theorem watches_interpretLine (leaves : setting.interpreter.LeavesLiterals)
    (scans : (scan scene.world.clearLiterals line).1 = .ok scanned) :
    let noted := (interpretLine setting.watched memory line).run scene.watched
    ((interpretLine setting memory line).run scene).1 = noted.1 ∧
      Watches (scan scene.world.clearLiterals line).2.literals
        ((interpretLine setting memory line).run scene).2 noted.2 := by
  intro noted
  have noted_eq : noted = _ := interpretLine_run scans
  rw [noted_eq, interpretLine_run scans]
  exact (stepsAlike_watched leaves _).runWords ⟨scanned, story.dictionary⟩ memory 0 _ _
    (watches_watched rfl)

/-- A command that is not given up begins with a word. -/
theorem unended_of_runCommand {words : Words} {cursor next : Nat} {ending : Option Dispatch}
    (ran : ((runCommand setting words memory cursor).run scene).1.2 = .ok (ending, next)) :
    words.isEnd cursor = false := by
  unfold runCommand at ran
  split at ran
  · exact Words.not_isEnd_of_is ‹_›
  · split at ran
    · exact Words.not_isEnd_of_is ‹_›
    · cases ran

/-- A command that has been read leaves what its dispatch leaves. -/
theorem runCommand_scene_of_parsed {words : Words} {cursor next : Nat} {command : ParsedCommand}
    (verb : words.is cursor .verb = true)
    (parsed : ((parseCommand setting memory words cursor).run scene).1 = .ok (command, next)) :
    ((runCommand setting words memory cursor).run scene).2 =
      ((dispatchTargets setting command.verb command.parameters command.multiple).run
        ((parseCommand setting memory words cursor).run scene).2).2 := by
  unfold runCommand
  rw [if_pos verb, Play.run_bind, parsed]
  dsimp only
  rw [Play.run_bind]
  -- however the dispatch ends
  split <;> rfl

/-- Reading a command creates no literal and forgets none. -/
theorem parseCommand_literals (leaves : setting.interpreter.LeavesLiterals) (words : Words)
    (memory : Memory) (cursor : Nat) (scene : Scene story σ) :
    ((parseCommand setting memory words cursor).run scene).2.world.literals =
      scene.world.literals := by
  have steps := stepsAlike_watched leaves scene.world.literals
  exact (parseCommand_alike steps.traces steps.looks steps.acts memory words cursor _ _
    (watches_watched rfl)).2.now

/-- A command of the line begins at a place, with what is remembered and in the scene that the
commands before it have left. -/
inductive CommandBegins (setting : Setting story σ) (words : Words) (memory : Memory)
    (scene : Scene story σ) : Memory → Nat → Scene story σ → Prop where
  | first : CommandBegins setting words memory scene memory 0 scene
  | next {memory' : Memory} {cursor next : Nat} {scene' : Scene story σ}
      {ending : Option Dispatch}
      (earlier : CommandBegins setting words memory scene memory' cursor scene')
      (ran : (CommandRun.at setting words memory' cursor scene').result = .ok (ending, next)) :
      CommandBegins setting words memory scene
        (CommandRun.at setting words memory' cursor scene').memory next
        (CommandRun.at setting words memory' cursor scene').scene

namespace CommandBegins

variable {words : Words} {memory' : Memory} {cursor : Nat} {scene' : Scene story σ}

/-- A line is its commands so far and then the rest of it. -/
theorem runWords_eq (begins : CommandBegins setting words memory scene memory' cursor scene') :
    (runWords setting words memory 0).run scene =
      (runWords setting words memory' cursor).run scene' := by
  induction begins with
  | first => rfl
  | @next memory' cursor next scene' ending earlier ran ih =>
    refine ih.trans ((runWords_of_unended (unended_of_runCommand ran)).trans ?_)
    have ended : ((runCommand setting words memory' cursor).run (scene'.before cursor)).1.2 =
        .ok (ending, next) := ran
    unfold runFrom
    dsimp only
    rw [ended]
    rfl

theorem literals_eq (leaves : setting.interpreter.LeavesLiterals)
    (begins : CommandBegins setting words memory scene memory' cursor scene') :
    scene'.world.literals = scene.world.literals := by
  induction begins with
  | first => rfl
  | next earlier ran ih =>
    exact ((stepsAlike_watched leaves _).runsAt words _ _ (watches_watched ih)).scene.now

end CommandBegins

end Lines

end TextAdventure
