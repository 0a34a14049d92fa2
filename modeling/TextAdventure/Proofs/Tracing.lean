import TextAdventure.Proofs.Journal
import TextAdventure.Proofs.Lines
import TextAdventure.Proofs.Stages
/-!
# What tracing changes

What is traced is noted in the log, and nothing looks at the log.  So a session goes the same way
whatever is traced in it: the player is told the same, and every command is run in the same world
with the same memory, asks the same of the interpreter and ends in the same way
(`tracing_only_logs`).
-/

namespace TextAdventure

variable {story : Story} {σ : Type}

/-! ## Scenes that differ in their logs -/

/-- A step that only notes something goes like one that notes something else, or nothing. -/
theorem alike_onlyIf_note (condition other : Bool) (records : List LogRecord) :
    Play.Alike Scene.SameButLog (Play.onlyIf condition (Play.note records) : Play story σ Unit)
      (Play.onlyIf other (Play.note records)) := by
  rintro s _ ⟨log, rfl⟩
  refine ⟨rfl, ?_⟩
  simp only [Play.run_onlyIf, Play.run_note]
  cases condition <;> cases other <;> exact ⟨_, rfl⟩

section SameInterpreter

variable {setting other : Setting story σ} (same : setting.interpreter = other.interpreter)
include same

theorem looksAlike_sameButLog : LooksAlike Scene.SameButLog setting other where
  world := by
    rintro s _ ⟨log, rfl⟩
    rfl
  evaluate := by
    rintro condition context s _ ⟨log, rfl⟩
    unfold Play.evaluate
    rw [same]
    exact ⟨rfl, _, rfl⟩

theorem actsAlike_sameButLog : ActsAlike Scene.SameButLog setting other where
  execute := by
    rintro statements context s _ ⟨log, rfl⟩
    unfold Play.execute
    rw [same]
    exact ⟨rfl, _, rfl⟩
  say := by
    rintro utterances s _ ⟨log, rfl⟩
    exact ⟨rfl, _, rfl⟩
  note := by
    rintro records s _ ⟨log, rfl⟩
    exact ⟨rfl, _, rfl⟩
  traceSection := by
    intro title
    exact alike_onlyIf_note _ _ _

/-- Two settings with one interpreter run every command alike, whatever they trace. -/
theorem runsAlike_sameButLog : RunsAlike Scene.SameButLog setting other where
  looks := looksAlike_sameButLog same
  acts := actsAlike_sameButLog same
  traces := by
    intro stage positions
    exact alike_onlyIf_note _ _ _
  put := by
    rintro s _ ⟨log, rfl⟩ world
    exact ⟨log, rfl⟩

end SameInterpreter

/-! ## Sessions that differ in what is traced -/

theorem runsAlike_journaled (setting : Setting story σ) :
    RunsAlike Journals setting setting.journaled where
  looks := looksAlike_journaled setting
  acts := actsAlike_journaled setting
  traces := tracePositions_alike rfl (actsAlike_journaled setting)
  put := by
    rintro _ t rfl world
    rfl

namespace Session

/-- The session with other things traced from now on. -/
def traced (session : Session story σ) (tracing : Tracing) : Session story σ :=
  { session with setting := { session.setting with tracing } }

/-- The session with a journal of what the interpreter is asked from now on. -/
def journaled (session : Session story σ) : Session story (σ × List Call) where
  setting := session.setting.journaled
  narrator := session.narrator
  scene := session.scene.journaled
  memory := session.memory

theorem alike_traced (session : Session story σ) (tracing : Tracing) :
    session.Alike Scene.SameButLog (session.traced tracing) where
  runs := runsAlike_sameButLog rfl
  memory := rfl
  scene := ⟨session.scene.log, rfl⟩
  told := by
    rintro s _ ⟨log, rfl⟩
    exact ⟨log, rfl⟩

theorem alike_journaled (session : Session story σ) :
    session.Alike Journals session.journaled where
  runs := runsAlike_journaled session.setting
  memory := rfl
  scene := rfl
  told := by
    rintro _ t rfl
    rfl

theorem narrator_after (session : Session story σ) (lines : List String) :
    (session.after lines).narrator = session.narrator := by
  induction lines generalizing session with
  | nil => rfl
  | cons line rest ih => exact ih (session.enter line).2

end Session

/-- **Tracing only logs.**  After any lines of a session it makes no difference to the scene but for
the log, and none to the memory, what has been traced.  Of the next line the player is told the
same, and its commands are run one by one with the same result, the same memory and, but for the
log, the same scene after each of them.  Up to then the interpreter has been asked for the same
conditions and the same statements in the same contexts, with the same results. -/
theorem tracing_only_logs (session : Session story σ) (tracing : Tracing) (lines : List String)
    (line : String) :
    let plain := session.after lines
    let traced := (session.traced tracing).after lines
    plain.memory = traced.memory ∧ plain.scene.SameButLog traced.scene ∧
    (plain.enter line).1 = (traced.enter line).1 ∧
    List.Forall₂ (CommandRun.Alike Scene.SameButLog) (plain.commandRuns line)
      (traced.commandRuns line) ∧
    (session.journaled.after lines).scene.forget = plain.scene ∧
    ((session.traced tracing).journaled.after lines).scene.forget = traced.scene ∧
    (session.journaled.after lines).scene.calls =
      ((session.traced tracing).journaled.after lines).scene.calls := by
  intro plain traced
  have alike : plain.Alike Scene.SameButLog traced := (session.alike_traced tracing).after lines
  have noted : session.journaled.Alike Scene.SameButLog (session.traced tracing).journaled :=
    session.journaled.alike_traced tracing
  refine ⟨alike.memory, alike.scene, ?_, alike.commands line, ?_, ?_, ?_⟩
  · -- the same narrator renders the same transcript
    obtain ⟨-, told⟩ := alike.runs.interpretLine plain.memory line _ _ alike.scene
    show plain.narrator.render ((interpretLine plain.setting plain.memory line).run
        plain.scene).2.transcript =
      traced.narrator.render ((interpretLine traced.setting traced.memory line).run
        traced.scene).2.transcript
    rw [← alike.memory, told.transcript_eq, session.narrator_after,
      (session.traced tracing).narrator_after]
    rfl
  · exact (session.alike_journaled.after lines).scene
  · exact ((session.traced tracing).alike_journaled.after lines).scene
  · obtain ⟨log, same⟩ := (noted.after lines).scene
    rw [same]
    rfl

end TextAdventure
