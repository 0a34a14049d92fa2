import TextAdventure.Proofs.Simulation
/-!
# The journal of an interpreter

What a command asks of its interpreter shows in a journal.  The journaled interpreter does what the
interpreter under it does, whatever that is, and writes down every call with what came of it.
Forgetting the journal gives back the run without one (`Play.Alike.forget_journaled`), so what the
journal holds is what the interpreter was asked in that run.
-/

namespace TextAdventure

variable {story : Story} {σ α : Type}

/-- A call of an interpreter and what came of it. -/
inductive Call where
  | evaluated (condition : CodeAddress) (context : Context) (result : Except RuntimeFailure Bool)
  | executed (statements : CodeAddress) (context : Context) (result : Except RuntimeFailure Unit)

/-- Statements were to be run. -/
def Call.isExecution : Call → Bool
  | .evaluated _ _ _ => false
  | .executed _ _ _ => true

/-- The interpreter that does what another one does and keeps a journal. -/
def Interpreter.journaled (interpreter : Interpreter story σ) :
    Interpreter story (σ × List Call) where
  evaluate condition context world state :=
    let outcome := interpreter.evaluate condition context world state.1
    { result := outcome.result
      world := outcome.world
      state := (outcome.state, state.2 ++ [.evaluated condition context outcome.result])
      said := outcome.said
      logged := outcome.logged }
  execute statements context world state :=
    let outcome := interpreter.execute statements context world state.1
    { result := outcome.result
      world := outcome.world
      state := (outcome.state, state.2 ++ [.executed statements context outcome.result])
      said := outcome.said
      logged := outcome.logged }

/-- The setting with a journal. -/
def Setting.journaled (setting : Setting story σ) : Setting story (σ × List Call) where
  interpreter := setting.interpreter.journaled
  tracing := setting.tracing

namespace Scene

/-- The scene with an empty journal. -/
def journaled (scene : Scene story σ) : Scene story (σ × List Call) where
  world := scene.world
  state := (scene.state, [])
  transcript := scene.transcript
  log := scene.log

/-- The scene without its journal. -/
def forget (scene : Scene story (σ × List Call)) : Scene story σ where
  world := scene.world
  state := scene.state.1
  transcript := scene.transcript
  log := scene.log

/-- What the journal holds. -/
def calls (scene : Scene story (σ × List Call)) : List Call := scene.state.2

@[simp] theorem calls_journaled (scene : Scene story σ) : scene.journaled.calls = [] := rfl

@[simp] theorem world_forget (scene : Scene story (σ × List Call)) :
    scene.forget.world = scene.world := rfl

end Scene

/-! ## A journal changes nothing -/

/-- The second scene is the first one with a journal. -/
def Journals (scene : Scene story σ) (noted : Scene story (σ × List Call)) : Prop :=
  noted.forget = scene

theorem looksAlike_journaled (setting : Setting story σ) :
    LooksAlike Journals setting setting.journaled where
  world := by
    rintro _ t rfl
    rfl
  evaluate := by
    rintro condition context _ t rfl
    exact ⟨rfl, rfl⟩

theorem actsAlike_journaled (setting : Setting story σ) :
    ActsAlike Journals setting setting.journaled where
  execute := by
    rintro statements context _ t rfl
    exact ⟨rfl, rfl⟩
  say := by
    rintro utterances _ t rfl
    exact ⟨rfl, rfl⟩
  note := by
    rintro records _ t rfl
    exact ⟨rfl, rfl⟩
  traceSection := by
    intro title
    refine Play.Alike.onlyIf _ fun _ => ?_
    rintro _ t rfl
    exact ⟨rfl, rfl⟩

/-- A step that goes alike with a journal gives the same result with it and, but for the journal,
the same scene. -/
theorem Play.Alike.forget_journaled {step : Play story σ α}
    {noted : Play story (σ × List Call) α} (alike : Play.Alike Journals step noted)
    (scene : Scene story σ) :
    let ran := noted.run scene.journaled
    (ran.1, ran.2.forget) = step.run scene := by
  obtain ⟨result, after⟩ := alike scene scene.journaled rfl
  exact Prod.ext result.symm after

theorem dispatch_journaled (setting : Setting story σ) (verb : WordCode)
    (parameters : List InstanceId) (scene : Scene story σ) :
    let noted := (dispatch setting.journaled verb parameters).run scene.journaled
    (noted.1, noted.2.forget) = (dispatch setting verb parameters).run scene :=
  (dispatch_alike (looksAlike_journaled setting) (actsAlike_journaled setting) verb
    parameters).forget_journaled scene

theorem dispatchTargets_journaled (setting : Setting story σ) (verb : WordCode)
    (parameters : List InstanceId) (multiple : Option (Nat × List InstanceId))
    (scene : Scene story σ) :
    let noted := (dispatchTargets setting.journaled verb parameters multiple).run scene.journaled
    (noted.1, noted.2.forget) = (dispatchTargets setting verb parameters multiple).run scene :=
  (dispatchTargets_alike (looksAlike_journaled setting) (actsAlike_journaled setting) verb
    parameters multiple).forget_journaled scene

/-! ## What a step writes down -/

namespace Play

/-- Whatever the scene, the step adds calls to the journal that are as described for its result. -/
def Writes (step : Play story (σ × List Call) α) (described : α → List Call → Prop) : Prop :=
  ∀ scene, ∃ added, (step.run scene).2.calls = scene.calls ++ added ∧
    described (step.run scene).1 added

namespace Writes

variable {β : Type}

theorem pure {value : α} {described : α → List Call → Prop} (nothing : described value []) :
    Writes (Pure.pure value : Play story (σ × List Call) α) described := by
  intro scene
  exact ⟨[], (List.append_nil _).symm, nothing⟩

theorem bind {step : Play story (σ × List Call) α} {next : α → Play story (σ × List Call) β}
    {described : α → List Call → Prop} {total : β → List Call → Prop}
    (first : Writes step described)
    (second : ∀ value calls, described value calls →
      Writes (next value) fun result added => total result (calls ++ added)) :
    Writes (step >>= next) total := by
  intro scene
  obtain ⟨calls, between, fit⟩ := first scene
  obtain ⟨added, after, joined⟩ := second _ calls fit (step.run scene).2
  refine ⟨calls ++ added, ?_, joined⟩
  rw [Play.run_bind, after, between, List.append_assoc]

theorem mono {step : Play story (σ × List Call) α} {described weaker : α → List Call → Prop}
    (writes : Writes step described)
    (weaken : ∀ value calls, described value calls → weaker value calls) : Writes step weaker := by
  intro scene
  obtain ⟨added, after, fit⟩ := writes scene
  exact ⟨added, after, weaken _ _ fit⟩

end Writes

theorem writes_note (records : List LogRecord) :
    Writes (note records : Play story (σ × List Call) Unit) fun _ calls => calls = [] :=
  fun _ => ⟨[], (List.append_nil _).symm, rfl⟩

theorem writes_say (utterances : List Utterance) :
    Writes (say utterances : Play story (σ × List Call) Unit) fun _ calls => calls = [] :=
  fun _ => ⟨[], (List.append_nil _).symm, rfl⟩

theorem writes_onlyIf (condition : Bool) {step : Play story (σ × List Call) Unit}
    (writes : Writes step fun _ calls => calls = []) :
    Writes (onlyIf condition step) fun _ calls => calls = [] := by
  cases condition with
  | false => exact Writes.pure rfl
  | true => exact writes

theorem writes_traceSection (setting : Setting story (σ × List Call)) (title : String) :
    Writes (traceSection setting title) fun _ calls => calls = [] :=
  writes_onlyIf _ (writes_note _)

theorem writes_evaluate (setting : Setting story σ) (condition : CodeAddress) (context : Context) :
    Writes (evaluate setting.journaled condition context) fun result calls =>
      calls = [.evaluated condition context result] := by
  intro scene
  exact ⟨_, rfl, rfl⟩

theorem writes_execute (setting : Setting story σ) (statements : CodeAddress)
    (context : Context) :
    Writes (execute setting.journaled statements context) fun result calls =>
      calls = [.executed statements context result] := by
  intro scene
  exact ⟨_, rfl, rfl⟩

/-- Whatever the scene, each call that the step adds to the journal is as described. -/
def WritesOnly (step : Play story (σ × List Call) α) (described : Call → Prop) : Prop :=
  Writes step fun _ calls => ∀ call ∈ calls, described call

namespace WritesOnly

variable {β : Type} {described : Call → Prop}

theorem pure (value : α) :
    WritesOnly (Pure.pure value : Play story (σ × List Call) α) described :=
  Writes.pure (List.forall_mem_nil _)

theorem bind {step : Play story (σ × List Call) α} {next : α → Play story (σ × List Call) β}
    (first : WritesOnly step described) (second : ∀ value, WritesOnly (next value) described) :
    WritesOnly (step >>= next) described := by
  refine Writes.bind first fun value calls before => ?_
  refine (second value).mono fun _ added after => ?_
  exact List.forall_mem_append.mpr ⟨before, after⟩

end WritesOnly

/-- A step that writes down nothing. -/
theorem Writes.toOnly {step : Play story (σ × List Call) α}
    (nothing : Writes step fun _ calls => calls = []) (described : Call → Prop) :
    WritesOnly step described := by
  refine nothing.mono ?_
  rintro _ _ rfl
  exact List.forall_mem_nil _

theorem writesOnly_world (described : Call → Prop) :
    WritesOnly (world : Play story (σ × List Call) (World story)) described :=
  fun _ => ⟨[], (List.append_nil _).symm, List.forall_mem_nil _⟩

end Play

/-! ## Checks that hold -/

/-- The calls were all to run statements, or all not. -/
def CallsAre (execution : Bool) (calls : List Call) : Prop :=
  ∀ call ∈ calls, call.isExecution = execution

/-- The calls asked for the values of conditions only. -/
abbrev OnlyLooks (calls : List Call) : Prop := CallsAre false calls

/-- The calls were to run statements only. -/
abbrev OnlyActs (calls : List Call) : Prop := CallsAre true calls

theorem CallsAre.nil {execution : Bool} : CallsAre execution [] := List.forall_mem_nil _

theorem CallsAre.append {execution : Bool} {first second : List Call}
    (before : CallsAre execution first) (after : CallsAre execution second) :
    CallsAre execution (first ++ second) :=
  List.forall_mem_append.mpr ⟨before, after⟩

theorem OnlyLooks.filter {calls : List Call} (looks : OnlyLooks calls) :
    calls.filter Call.isExecution = [] := by
  rw [List.filter_eq_nil_iff]
  intro call member executed
  rw [looks call member] at executed
  cases executed

theorem executeAny_writes (setting : Setting story σ) (statements : Option CodeAddress)
    (context : Context) :
    Play.Writes (Play.executeAny setting.journaled statements context)
      fun _ calls => OnlyActs calls := by
  cases statements with
  | none => exact Play.Writes.pure .nil
  | some address =>
    refine (Play.writes_execute setting address context).mono ?_
    rintro result _ rfl
    simp [CallsAre, Call.isExecution]

end TextAdventure
