import TextAdventure.CommandLine.Session
import TextAdventure.Proofs.Simulation
import Mathlib.Data.List.Forall2
/-!
# The commands of a line

A line is run command by command (`commandRuns`), each from the memory and the scene that the one
before it left, and what the line leaves is what its last command left, with a word about the fault
if there was one (`runWords_eq_lastRun`).  Lines follow each other in a session in the same way.  So
whatever the steps of a command keep is kept by all commands of any lines (`Session.Alike.after`).
-/

namespace TextAdventure

variable {story : Story} {σ τ : Type}

/-! ## A line taken apart -/

section Commands

variable {setting : Setting story σ} {words : Words} {memory : Memory} {cursor : Nat}
  {scene : Scene story σ}

/-- The scene before the command at a place of a line: commands behind the first one begin a
paragraph. -/
def Scene.before (cursor : Nat) (scene : Scene story σ) : Scene story σ :=
  if cursor = 0 then scene else ((Play.say [.paragraph]).run scene).2

/-- Runs the command at the cursor, which has been parted from the one before, and those behind
it. -/
def runFrom (setting : Setting story σ) (words : Words) (memory : Memory) (cursor : Nat)
    (scene : Scene story σ) : Memory × Scene story σ :=
  let ran := (runCommand setting words memory cursor).run scene
  match ran.1.2 with
  | .error stop => (ran.1.1, ((Play.say stop.error.report).run ran.2).2)
  | .ok (_, next) => runWords setting words ran.1.1 next ran.2

theorem runWords_of_isEnd (ended : words.isEnd cursor = true) :
    runWords setting words memory cursor scene = (memory, scene) := by
  rw [runWords, dif_pos ended]

theorem runWords_of_unended (unended : words.isEnd cursor = false) :
    runWords setting words memory cursor scene =
      runFrom setting words memory cursor (scene.before cursor) := by
  rw [runWords, dif_neg (Bool.eq_false_iff.mp unended)]
  unfold runFrom Scene.before
  dsimp only
  split <;> next ran => rw [ran]

/-- What every command of a line keeps, the line keeps. -/
theorem runWords_keeps {P : Memory → Prop}
    (keeps : ∀ memory cursor scene, P memory →
      P ((runCommand setting words memory cursor).run scene).1.1)
    (cursor : Nat) (scene : Scene story σ) (holds : P memory) :
    P ((runWords setting words memory cursor).run scene).1 := by
  show P (runWords setting words memory cursor scene).1
  fun_induction runWords setting words memory cursor scene with
  | case1 => exact holds
  | case2 memory cursor scene _ parted ran => exact keeps memory cursor parted holds
  | case3 memory cursor scene _ parted ran _ _ _ ih => exact ih (keeps memory cursor parted holds)

end Commands

/-- A command of a line that has been run. -/
structure CommandRun (story : Story) (σ : Type) where
  /-- What is remembered after it. -/
  memory : Memory
  /-- How it ended, and where. -/
  result : Except Stop (Option Dispatch × Nat)
  scene : Scene story σ

/-- Runs the command at a place of a line. -/
def CommandRun.at (setting : Setting story σ) (words : Words) (memory : Memory) (cursor : Nat)
    (scene : Scene story σ) : CommandRun story σ :=
  let ran := (runCommand setting words memory cursor).run (scene.before cursor)
  ⟨ran.1.1, ran.1.2, ran.2⟩

/-- What a line leaves whose last command has been run so: the player is told of a fault. -/
def CommandRun.leaves (run : CommandRun story σ) : Memory × Scene story σ :=
  match run.result with
  | .error stop => (run.memory, ((Play.say stop.error.report).run run.scene).2)
  | .ok _ => (run.memory, run.scene)

/-- The commands of a line from the cursor on, up to the first that is given up. -/
def commandRuns (setting : Setting story σ) (words : Words) (memory : Memory) (cursor : Nat)
    (scene : Scene story σ) : List (CommandRun story σ) :=
  if _ : words.isEnd cursor = true then []
  else
    let run := CommandRun.at setting words memory cursor scene
    match _ : run.result with
    | .error _ => [run]
    | .ok (_, next) => run :: commandRuns setting words run.memory next run.scene
termination_by words.size - cursor
decreasing_by
  have := lt_of_runCommand ‹run.result = .ok (_, next)›
  have unended := ‹¬ words.isEnd cursor = true›
  simp only [Words.isEnd, decide_eq_true_eq, Nat.not_le] at unended
  omega

theorem commandRuns_of_isEnd {setting : Setting story σ} {words : Words} {memory : Memory}
    {cursor : Nat} {scene : Scene story σ} (ended : words.isEnd cursor = true) :
    commandRuns setting words memory cursor scene = [] := by
  rw [commandRuns, dif_pos ended]

theorem commandRuns_of_unended {setting : Setting story σ} {words : Words} {memory : Memory}
    {cursor : Nat} {scene : Scene story σ} (unended : words.isEnd cursor = false) :
    commandRuns setting words memory cursor scene =
      let run := CommandRun.at setting words memory cursor scene
      run :: match run.result with
        | .error _ => []
        | .ok (_, next) => commandRuns setting words run.memory next run.scene := by
  rw [commandRuns, dif_neg (Bool.eq_false_iff.mp unended)]
  dsimp only
  split <;> next ran => rw [ran]

/-- A line leaves what the last of its commands leaves. -/
theorem runWords_eq_lastRun (setting : Setting story σ) (words : Words) (memory : Memory)
    (cursor : Nat) (scene : Scene story σ) :
    (runWords setting words memory cursor).run scene =
      (((commandRuns setting words memory cursor scene).getLast?).map CommandRun.leaves).getD
        (memory, scene) := by
  fun_induction commandRuns setting words memory cursor scene with
  | case1 memory cursor scene ended => exact runWords_of_isEnd ended
  | case2 memory cursor scene unended run stop stopped =>
    refine (runWords_of_unended (Bool.eq_false_iff.mpr unended)).trans ?_
    show (match run.result with
      | .error stop => (run.memory, ((Play.say stop.error.report).run run.scene).2)
      | .ok (_, next) => runWords setting words run.memory next run.scene) = run.leaves
    rw [CommandRun.leaves, stopped]
  | case3 memory cursor scene unended run ending next ran ih =>
    refine (runWords_of_unended (Bool.eq_false_iff.mpr unended)).trans ?_
    show (match run.result with
      | .error stop => (run.memory, ((Play.say stop.error.report).run run.scene).2)
      | .ok (_, next) => runWords setting words run.memory next run.scene) = _
    rw [ran]
    refine ih.trans ?_
    -- this command is the last one exactly if no other one follows
    cases later : commandRuns setting words run.memory next run.scene with
    | nil => rw [List.getLast?_singleton, Option.map_some, CommandRun.leaves, ran]; rfl
    | cons other rest => rfl

/-! ## Lines that go alike -/

/-- Two runs of a command end in the same way, in related scenes. -/
structure CommandRun.Alike (R : Scene story σ → Scene story τ → Prop) (run : CommandRun story σ)
    (other : CommandRun story τ) : Prop where
  memory : run.memory = other.memory
  result : run.result = other.result
  scene : R run.scene other.scene

namespace StepsAlike

variable {R : Scene story σ → Scene story τ → Prop} {setting : Setting story σ}
  {other : Setting story τ} {s : Scene story σ} {t : Scene story τ}

theorem runsAt (steps : StepsAlike R setting other) (words : Words) (memory : Memory)
    (cursor : Nat) (related : R s t) :
    (CommandRun.at setting words memory cursor s).Alike R
      (CommandRun.at other words memory cursor t) := by
  have parted : R (s.before cursor) (t.before cursor) := by
    unfold Scene.before
    split
    · exact related
    · exact (steps.acts.say [.paragraph] s t related).2
  obtain ⟨same, after⟩ := steps.runCommand words memory cursor _ _ parted
  exact ⟨congrArg Prod.fst same, congrArg Prod.snd same, after⟩

/-- What the steps of a command keep, all commands of a line keep. -/
theorem commands (steps : StepsAlike R setting other) (words : Words) (memory : Memory)
    (cursor : Nat) (s : Scene story σ) : ∀ t, R s t →
      List.Forall₂ (CommandRun.Alike R) (commandRuns setting words memory cursor s)
        (commandRuns other words memory cursor t) := by
  fun_induction commandRuns setting words memory cursor s with
  | case1 memory cursor s ended =>
    intro t related
    rw [commandRuns_of_isEnd ended]
    exact .nil
  | case2 memory cursor s unended run stop stopped =>
    intro t related
    have alike := steps.runsAt words memory cursor related
    rw [commandRuns_of_unended (Bool.eq_false_iff.mpr unended)]
    dsimp only
    rw [← alike.result, stopped]
    exact .cons alike .nil
  | case3 memory cursor s unended run ending next ran ih =>
    intro t related
    have alike := steps.runsAt words memory cursor related
    rw [commandRuns_of_unended (Bool.eq_false_iff.mpr unended)]
    dsimp only
    rw [← alike.result, ran, ← alike.memory]
    exact .cons alike (ih _ alike.scene)

theorem leaves (steps : StepsAlike R setting other) {run : CommandRun story σ}
    {run' : CommandRun story τ} (alike : run.Alike R run') :
    run.leaves.1 = run'.leaves.1 ∧ R run.leaves.2 run'.leaves.2 := by
  unfold CommandRun.leaves
  rw [← alike.result]
  cases run.result with
  | error stop => exact ⟨alike.memory, (steps.acts.say _ _ _ alike.scene).2⟩
  | ok ended => exact ⟨alike.memory, alike.scene⟩

theorem runWords (steps : StepsAlike R setting other) (words : Words) (memory : Memory)
    (cursor : Nat) :
    Play.Alike R (runWords setting words memory cursor)
      (TextAdventure.runWords other words memory cursor) := by
  intro s t related
  have runsAlike := List.forall₂_reverse_iff.mpr (steps.commands words memory cursor s t related)
  rw [runWords_eq_lastRun, runWords_eq_lastRun, List.getLast?_eq_head?_reverse,
    List.getLast?_eq_head?_reverse]
  generalize (commandRuns setting words memory cursor s).reverse = runs' at runsAlike ⊢
  generalize (commandRuns other words memory cursor t).reverse = others at runsAlike ⊢
  -- the last commands leave what is left, if there are any
  cases runsAlike with
  | nil => exact ⟨rfl, related⟩
  | cons last _ => exact steps.leaves last

end StepsAlike

/-- **Lines go alike.**  A relation that the steps of a command keep is kept by a whole line. -/
theorem RunsAlike.interpretLine {R : Scene story σ → Scene story τ → Prop}
    {setting : Setting story σ} {other : Setting story τ} (runs : RunsAlike R setting other)
    (memory : Memory) (line : String) :
    Play.Alike R (interpretLine setting memory line)
      (TextAdventure.interpretLine other memory line) := by
  refine runs.looks.lookAround.bind fun world => ?_
  refine (runs.change fun _ => (scan world.clearLiterals line).2).bind fun _ => ?_
  split
  · exact (runs.acts.say _).bind fun _ => Play.Alike.pure _
  · exact runs.steps.runWords _ _ _

/-! ## Sessions -/

namespace Session

/-- A session after some more lines. -/
def after (session : Session story σ) (lines : List String) : Session story σ :=
  lines.foldl (fun session line => (session.enter line).2) session

/-- The commands of the next line of a session, up to the first that is given up. -/
def commandRuns (session : Session story σ) (line : String) : List (CommandRun story σ) :=
  let (scanned, world) := scan session.scene.world.clearLiterals line
  match scanned with
  | .error _ => []
  | .ok words => TextAdventure.commandRuns session.setting ⟨words, story.dictionary⟩
      session.memory 0 { session.scene with world }

/-- Two sessions remember the same and are at related scenes. -/
structure Alike (R : Scene story σ → Scene story τ → Prop) (session : Session story σ)
    (other : Session story τ) : Prop where
  runs : RunsAlike R session.setting other.setting
  memory : session.memory = other.memory
  scene : R session.scene other.scene
  /-- That the transcript has been told makes no difference. -/
  told : ∀ s t, R s t → R { s with transcript := [] } { t with transcript := [] }

namespace Alike

variable {R : Scene story σ → Scene story τ → Prop} {session : Session story σ}
  {other : Session story τ}

/-- One line. -/
theorem enter (alike : session.Alike R other) (line : String) :
    (session.enter line).2.Alike R (other.enter line).2 := by
  obtain ⟨same, after⟩ := alike.runs.interpretLine session.memory line _ _ alike.scene
  refine ⟨alike.runs, ?_, ?_, alike.told⟩
  · show ((interpretLine session.setting session.memory line).run session.scene).1 =
      ((interpretLine other.setting other.memory line).run other.scene).1
    rw [← alike.memory]
    exact same
  · show R { ((interpretLine session.setting session.memory line).run session.scene).2 with
        transcript := [] }
      { ((interpretLine other.setting other.memory line).run other.scene).2 with transcript := [] }
    rw [← alike.memory]
    exact alike.told _ _ after

/-- All lines. -/
theorem after (alike : session.Alike R other) (lines : List String) :
    (session.after lines).Alike R (other.after lines) := by
  induction lines generalizing session other with
  | nil => exact alike
  | cons line rest ih => exact ih (alike.enter line)

theorem commands (alike : session.Alike R other) (line : String) :
    List.Forall₂ (CommandRun.Alike R) (session.commandRuns line) (other.commandRuns line) := by
  have same := alike.runs.looks.world _ _ alike.scene
  unfold commandRuns
  rw [← same, ← alike.memory]
  generalize scan session.scene.world.clearLiterals line = scan
  obtain ⟨scanned, world⟩ := scan
  cases scanned with
  | error fault => exact .nil
  | ok words => exact alike.runs.steps.commands _ _ _ _ _ (alike.runs.put _ _ alike.scene world)

end Alike

end Session

end TextAdventure
