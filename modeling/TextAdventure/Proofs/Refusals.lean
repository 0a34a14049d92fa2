import TextAdventure.Proofs.Journal
import TextAdventure.Proofs.Recalling
/-!
# Reading a command does not act

While a command is read the interpreter is asked for the values of conditions, for the sake of all,
and it is told to run statements only where an instance does not meet a restriction of the form that
the words match.  What a verb does, and what its checks tell the player, has to wait until the
command is dispatched (`reading_only_refuses`).
-/

namespace TextAdventure

variable {story : Story} {σ : Type}

/-! ## Looking -/

namespace Scene

/-- The statements that the journal says were run. -/
def executed (scene : Scene story (σ × List Call)) : List Call :=
  scene.calls.filter Call.isExecution

/-- From the first scene to the second, nothing was done but looking: the world is as it was, the
player was told nothing and no statements were run. -/
structure OnlyLooked (before after : Scene story (σ × List Call)) : Prop where
  world : after.world = before.world
  transcript : after.transcript = before.transcript
  executed : after.executed = before.executed

namespace OnlyLooked

variable {first second third : Scene story (σ × List Call)}

theorem trans (before : first.OnlyLooked second) (after : second.OnlyLooked third) :
    first.OnlyLooked third :=
  ⟨after.world.trans before.world, after.transcript.trans before.transcript,
    after.executed.trans before.executed⟩

theorem of_sameButLog (same : first.SameButLog second) : first.OnlyLooked second := by
  obtain ⟨log, rfl⟩ := same
  exact ⟨rfl, rfl, rfl⟩

end OnlyLooked

end Scene

section Looking

variable {setting : Setting story σ} (keeps : setting.interpreter.KeepsWorld)
  (silent : setting.interpreter.ChecksSilently)
include keeps silent

/-- Evaluating a condition is looking. -/
theorem keptByChecks_onlyLooked (before : Scene story (σ × List Call)) :
    KeptByChecks setting.journaled before.OnlyLooked := by
  intro condition context scene looked
  let outcome := setting.interpreter.evaluate condition context scene.world scene.state.1
  refine looked.trans ⟨keeps condition context scene.world scene.state.1, ?_, ?_⟩
  · show scene.transcript ++ outcome.said = scene.transcript
    rw [silent, List.append_nil]
  · show (scene.calls ++ [Call.evaluated condition context outcome.result]).filter
      Call.isExecution = scene.executed
    rw [List.filter_append]
    exact List.append_nil _

/-- Cutting down several targets is looking, whether it succeeds or not. -/
theorem settleMultiple_onlyLooked (words : Words) (verb : WordCode) (positions : List Position)
    (before : Scene story (σ × List Call)) :
    before.OnlyLooked
      ((settleMultiple setting.journaled words verb positions).run before).2 :=
  settleMultiple_keeps (keptByChecks_onlyLooked keeps silent before) positions ⟨rfl, rfl, rfl⟩

end Looking

/-! ## Refusing -/

/-- What is run, and the world that is left, if restrictions of a form refuse instances one after
the other: each time the statements of a restriction, for a parameter that does not meet it in the
world as it is then. -/
inductive Refusals (interpreter : Interpreter story σ) (found : FormMatch) (start : World story) :
    List Call → World story → Prop where
  | nothing : Refusals interpreter found start [] start
  | refused {calls : List Call} {before : World story}
      (earlier : Refusals interpreter found start calls before)
      {restriction : Restriction} (member : restriction ∈ found.restrictions)
      {statements : CodeAddress} (own : restriction.statements = some statements)
      {context : Context} (verb : context.verb = found.verb) {id : InstanceId}
      (parameter : entryAt context.parameters restriction.parameter = some id)
      (fails : before.meets restriction.requirement id = false) (state : σ) :
      Refusals interpreter found start
        (calls ++ [.executed statements context
          (interpreter.execute statements context before state).result])
        (interpreter.execute statements context before state).world

/-- Restrictions without statements run nothing. -/
theorem Refusals.of_speechless {interpreter : Interpreter story σ} {found : FormMatch}
    {start world : World story} {calls : List Call}
    (refusals : Refusals interpreter found start calls world)
    (speechless : ∀ restriction ∈ found.restrictions, restriction.statements = none) :
    calls = [] ∧ world = start := by
  cases refusals with
  | nothing => exact ⟨rfl, rfl⟩
  | refused _ member own =>
    rw [speechless _ member] at own
    cases own

/-- Since the start, statements have been run to refuse instances and for nothing else. -/
def Scene.OnlyRefused (interpreter : Interpreter story σ) (found : FormMatch)
    (start : World story) (scene : Scene story (σ × List Call)) : Prop :=
  Refusals interpreter found start scene.executed scene.world

/-- The context has the verb of the form and a parameter for every position, a single instance as
the position has it. -/
structure Context.Fits (context : Context) (found : FormMatch) (positions : List Position) :
    Prop where
  verb : context.verb = found.verb
  length : context.parameters.length = positions.length
  single : ∀ (index : Nat) (position : Position), positions[index]? = some position →
    position.multiple = false →
    context.parameters[index]? = some position.firstInstance

/-- A position that takes the place of another one may differ from it where it has several
instances. -/
theorem Context.Fits.set {context : Context} {found : FormMatch} {positions : List Position}
    {index : Nat} {position q : Position} (fits : context.Fits found positions)
    (there : positions[index]? = some position) (multiple : q.multiple = position.multiple)
    (single : position.multiple = false → q.firstInstance = position.firstInstance) :
    context.Fits found (positions.set index q) := by
  refine ⟨fits.verb, ?_, ?_⟩
  · rw [List.length_set]
    exact fits.length
  · intro index' position' there' single'
    by_cases here : index = index'
    · subst here
      rw [List.getElem?_set_self (List.getElem?_eq_some_iff.mp there).1] at there'
      cases there'
      have single'' := multiple.symm.trans single'
      rw [single single'']
      exact fits.single index position there single''
    · rw [List.getElem?_set_ne here] at there'
      exact fits.single index' position' there' single'

section Refusing

variable {setting : Setting story σ} {found : FormMatch} {start : World story}
  {context : Context} {restriction : Restriction} {scene : Scene story (σ × List Call)}

namespace Restriction

/-- One refusal more. -/
theorem refuse_onlyRefused (context : Context) (scene : Scene story (σ × List Call))
    (member : restriction ∈ found.restrictions)
    (verb : context.verb = found.verb) {id : InstanceId}
    (parameter : entryAt context.parameters restriction.parameter = some id)
    (fails : scene.world.meets restriction.requirement id = false)
    (refused : scene.OnlyRefused setting.interpreter found start) :
    ((restriction.refuse setting.journaled context).run scene).2.OnlyRefused
      setting.interpreter found start := by
  -- a trace is noted in the log, and the log is not looked at
  have traced : scene.SameButLog ((restriction.trace setting.journaled).run scene).2 := by
    unfold trace Play.traceSection
    rw [Play.run_onlyIf]
    split
    · exact ⟨_, rfl⟩
    · exact ⟨scene.log, rfl⟩
  unfold refuse
  rw [Play.run_bind]
  obtain ⟨log, same⟩ := traced
  rw [same]
  cases own : restriction.statements with
  | none => exact refused
  | some statements =>
    let outcome := setting.interpreter.execute statements context scene.world scene.state.1
    have written : (scene.calls ++ [Call.executed statements context outcome.result]).filter
        Call.isExecution =
          scene.executed ++ [Call.executed statements context outcome.result] := by
      rw [List.filter_append]
      rfl
    have once : Refusals setting.interpreter found start
        ((scene.calls ++ [Call.executed statements context outcome.result]).filter Call.isExecution)
        outcome.world := by
      rw [written]
      exact .refused refused member own verb parameter fails scene.state.1
    rw [Play.run_bind]
    -- a warning after statements that fail is noted in the log, too
    split
    · exact once
    · exact once

theorem dropMembers_onlyRefused (member : restriction ∈ found.restrictions)
    (verb : context.verb = found.verb) {index : Nat}
    (number : restriction.parameter = index + 1) (inRange : index < context.parameters.length)
    (silent : Bool) (references : List Reference)
    (refused : scene.OnlyRefused setting.interpreter found start) :
    ((restriction.dropMembers setting.journaled context silent references).run
      scene).2.OnlyRefused setting.interpreter found start := by
  induction references generalizing scene with
  | nil => exact refused
  | cons reference rest ih =>
    suffices dropped : ((restriction.dropMember setting.journaled context silent
        reference).run scene).2.OnlyRefused setting.interpreter found start from ih dropped
    rw [dropMember_run]
    split
    · exact refused
    · next fails =>
      rw [Play.run_onlyIf]
      split
      · -- the member stands in the place of the parameter while it is refused
        have fails' : scene.world.meets restriction.requirement reference.id = false := by
          rw [Bool.or_eq_true, not_or] at fails
          exact Bool.eq_false_iff.mpr fails.2
        have parameter : entryAt (context.parameters.set (restriction.parameter - 1) reference.id)
            restriction.parameter = some reference.id := by
          rw [number, Nat.add_sub_cancel, entryAt_succ, List.getElem?_set_self inRange]
        let marked := ((Play.say [.marker (scene.world.messageParameter reference.id)] :
          Play story (σ × List Call) Unit).run scene).2
        exact refuse_onlyRefused { context with
          parameters := context.parameters.set (restriction.parameter - 1) reference.id } marked
          member verb parameter fails' refused
      · exact refused

theorem applyTo_onlyRefused (member : restriction ∈ found.restrictions)
    {positions : List Position} {index : Nat} {position : Position}
    (fits : context.Fits found positions) (number : restriction.parameter = index + 1)
    (there : positions[index]? = some position)
    (refused : scene.OnlyRefused setting.interpreter found start) :
    ((restriction.applyTo setting.journaled context position).run scene).2.OnlyRefused
        setting.interpreter found start ∧
      context.Fits found (positions.set index
        ((restriction.applyTo setting.journaled context position).run scene).1.value) := by
  have inRange : index < context.parameters.length :=
    fits.length ▸ (List.getElem?_eq_some_iff.mp there).1
  by_cases multiple : position.multiple = true
  · unfold applyTo
    rw [if_pos multiple]
    constructor
    · exact dropMembers_onlyRefused member fits.verb number inRange _ _ refused
    · refine fits.set there rfl fun single => ?_
      exact absurd multiple (Bool.eq_false_iff.mp single)
  · have single := Bool.eq_false_iff.mpr multiple
    rw [applyTo_of_single single]
    split
    · exact ⟨refused, fits.set there rfl fun _ => rfl⟩
    · next fails =>
      refine ⟨?_, fits.set there rfl fun _ => rfl⟩
      have parameter : entryAt context.parameters restriction.parameter =
          some position.firstInstance := by
        rw [number, entryAt_succ]
        exact fits.single index position there single
      have told : ((restriction.refuse setting.journaled context).run scene).2.OnlyRefused
          setting.interpreter found start :=
        refuse_onlyRefused context scene member fits.verb parameter (Bool.eq_false_iff.mpr fails)
          refused
      unfold reject
      split
      · exact told
      · -- without statements there is only a trace
        unfold trace Play.traceSection
        rw [Play.run_bind, Play.run_onlyIf]
        split
        · exact refused
        · exact refused

end Restriction

theorem applyRestrictions_onlyRefused {restrictions : List Restriction}
    {positions : List Position} (own : restrictions ⊆ found.restrictions)
    (fits : context.Fits found positions)
    (refused : scene.OnlyRefused setting.interpreter found start) :
    ((applyRestrictions setting.journaled context positions restrictions).run
      scene).2.OnlyRefused setting.interpreter found start := by
  induction restrictions generalizing positions scene with
  | nil => exact refused
  | cons restriction rest ih =>
    obtain ⟨member, own'⟩ := List.cons_subset.mp own
    cases there : entryAt positions restriction.parameter with
    | none =>
      obtain ⟨records, run⟩ := applyRestrictions_missing context rest scene there
      rw [run]
      exact ih own' fits refused
    | some position =>
      obtain ⟨index, number, there'⟩ := entryAt_eq_some.mp there
      obtain ⟨refused', fits'⟩ :=
        Restriction.applyTo_onlyRefused member fits number there' refused
      rw [applyRestrictions_there context rest scene there, number, Nat.add_sub_cancel]
      split
      · exact refused'
      · exact ih own' fits' refused'

/-- The restrictions of a form refuse instances, and that is all they do. -/
theorem restrictPositions_onlyRefused (setting : Setting story σ) (positions : List Position)
    (refused : scene.OnlyRefused setting.interpreter found start) :
    ((restrictPositions setting.journaled found.verb found.restrictions positions).run
      scene).2.OnlyRefused setting.interpreter found start := by
  rw [restrictPositions_run]
  refine applyRestrictions_onlyRefused (List.Subset.refl _) ⟨rfl, List.length_map _, ?_⟩ refused
  intro index position there single
  rw [parameterVector, List.getElem?_map, there, Option.map_some,
    if_neg (Bool.eq_false_iff.mp single)]

end Refusing

/-! ## Reading -/

section Parsing

variable {setting : Setting story σ} {memory : Memory} {words : Words} {cursor : Nat}
  {reading : FormReading} {found : FormMatch}

/-- If no form matches, nothing happens. -/
theorem parseCommand_of_unmatched
    (unmatched : ∀ reading found, ¬ story.MatchesAt words memory cursor reading found)
    (scene : Scene story σ) : ((parseCommand setting memory words cursor).run scene).2 = scene := by
  unfold parseCommand
  split
  · rfl
  · next verbWord code =>
    split
    · rfl
    · next found last matched =>
      obtain ⟨root, reading, grammar, formRead, remapped⟩ := Story.matchForm_eq_ok.mp matched
      exact absurd ⟨verbWord, root, last, code, grammar, formRead, remapped⟩
        (unmatched reading found)

/-- If a form matches, its references are settled, and whatever happens happens then. -/
theorem parseCommand_of_matched (matched : story.MatchesAt words memory cursor reading found)
    (scene : Scene story σ) :
    ((parseCommand setting memory words cursor).run scene).2 =
      ((settleCommand setting memory words found).run scene).2 := by
  obtain ⟨verbWord, root, last, code, grammar, formRead, remapped⟩ := matched
  have matched := Story.matchForm_eq_ok.mpr ⟨root, reading, grammar, formRead, remapped⟩
  unfold parseCommand
  rw [code]
  dsimp only
  rw [matched]
  rfl

/-- Up to the restrictions there is nothing but looking, and a reading that ends before them ends
where this has led. -/
theorem settleCommand_looks_first (keeps : setting.interpreter.KeepsWorld)
    (silent : setting.interpreter.ChecksSilently) (memory : Memory) (words : Words)
    (found : FormMatch) (start : Scene story (σ × List Call)) :
    let after := ((settleCommand setting.journaled memory words found).run start).2
    ∃ reached, start.OnlyLooked reached ∧ (after = reached ∨ ∃ narrowed,
      ((restrictPositions setting.journaled found.verb found.restrictions narrowed).run
        reached).2.SameButLog after) := by
  intro after
  have ended := settlesTo_settleCommand setting.journaled memory words found start
  rw [show ((settleCommand setting.journaled memory words found).run start).2 = after from rfl]
    at ended
  generalize ((settleCommand setting.journaled memory words found).run start).1 = result at ended
  have looked : ∀ settled trial, start.SameButLog trial → start.OnlyLooked
      ((settleMultiple setting.journaled words found.verb settled).run trial).2 := by
    intro settled trial same
    exact (Scene.OnlyLooked.of_sameButLog same).trans
      (settleMultiple_onlyLooked keeps silent words found.verb settled trial)
  cases ended with
  | unsettled settles same => exact ⟨after, .of_sameButLog same, Or.inl rfl⟩
  | @unnarrowed settled trial _ _ _ settles same narrows =>
    have tried := looked settled trial same
    rw [narrows] at tried
    exact ⟨after, tried, Or.inl rfl⟩
  | @unrestricted settled narrowed _ _ trial judging _ _ settles same narrows restricts =>
    have tried := looked settled trial same
    rw [narrows] at tried
    refine ⟨judging, tried, Or.inr ⟨narrowed, ?_⟩⟩
    rw [restricts]
    exact ⟨after.log, rfl⟩
  | @restricted settled narrowed _ _ trial judging _ _ _ settles same narrows restricts same' =>
    have tried := looked settled trial same
    rw [narrows] at tried
    refine ⟨judging, tried, Or.inr ⟨narrowed, ?_⟩⟩
    rw [restricts]
    exact same'

/-- Settling a command runs the statements of restrictions that refuse instances, and no others. -/
theorem settleCommand_refusals (keeps : setting.interpreter.KeepsWorld)
    (silent : setting.interpreter.ChecksSilently) (memory : Memory) (words : Words)
    (found : FormMatch) (scene : Scene story σ) :
    ((settleCommand setting.journaled memory words found).run scene.journaled).2.OnlyRefused
      setting.interpreter found scene.world := by
  obtain ⟨reached, looked, ended⟩ :=
    settleCommand_looks_first keeps silent memory words found scene.journaled
  have refused : reached.OnlyRefused setting.interpreter found scene.world := by
    unfold Scene.OnlyRefused
    rw [looked.executed, looked.world]
    exact .nothing
  rcases ended with same | ⟨narrowed, log, same⟩
  · rw [same]
    exact refused
  · rw [same]
    exact restrictPositions_onlyRefused setting narrowed refused

end Parsing

/-- **Reading only refuses.**  Let the interpreter evaluate conditions without changing the world or
saying anything.  To settle the references of a command takes no more than its world, and to cut
down several targets is looking, from any scene and whether it succeeds or not.  So a command that
is read, successfully or not, goes as far as its restrictions without doing anything; they run their
own statements, for parameters that do not meet them.  Where they have none, nothing is run at all
and the world stays as it is. -/
theorem reading_only_refuses {setting : Setting story σ} (keeps : setting.interpreter.KeepsWorld)
    (silent : setting.interpreter.ChecksSilently) (memory : Memory) (words : Words) (cursor : Nat)
    (scene : Scene story σ) :
    let start := scene.journaled
    let noted := (parseCommand setting.journaled memory words cursor).run start
    (noted.1, noted.2.forget) = (parseCommand setting memory words cursor).run scene ∧
    (∀ verb positions (before : Scene story (σ × List Call)), before.OnlyLooked
      ((settleMultiple setting.journaled words verb positions).run before).2) ∧
    ((∀ reading found, ¬ story.MatchesAt words memory cursor reading found) → noted.2 = start) ∧
    ∀ reading found, story.MatchesAt words memory cursor reading found →
      (∃ table, .finish reading.form found.restrictions ∈ story.elements table) ∧
      (∃ reached, start.OnlyLooked reached ∧ (noted.2 = reached ∨ ∃ narrowed,
        ((restrictPositions setting.journaled found.verb found.restrictions narrowed).run
          reached).2.SameButLog noted.2)) ∧
      Refusals setting.interpreter found scene.world noted.2.executed noted.2.world ∧
      ((∀ restriction ∈ found.restrictions, restriction.statements = none) →
        noted.2.executed = [] ∧ noted.2.world = scene.world) := by
  intro start noted
  have tracing : setting.tracing = setting.journaled.tracing := rfl
  have acts := actsAlike_journaled setting
  have alike := parseCommand_alike (tracePositions_alike tracing acts)
    (looksAlike_journaled setting) acts memory words cursor
  refine ⟨alike.forget_journaled scene, settleMultiple_onlyLooked keeps silent words,
    fun unmatched => parseCommand_of_unmatched unmatched start, ?_⟩
  intro reading found matched
  have same : noted.2 = ((settleCommand setting.journaled memory words found).run start).2 :=
    parseCommand_of_matched matched start
  have refusals : noted.2.OnlyRefused setting.interpreter found scene.world := by
    rw [same]
    exact settleCommand_refusals keeps silent memory words found scene
  refine ⟨?_, ?_, refusals, fun speechless => Refusals.of_speechless refusals speechless⟩
  · obtain ⟨verbWord, root, last, -, -, formRead, remapped⟩ := matched
    obtain ⟨table, closes⟩ := Story.finish_of_readForm formRead
    rw [← remapped, FormReading.restrictions_remap]
    exact ⟨table, closes⟩
  · rw [same]
    exact settleCommand_looks_first keeps silent memory words found start

/-- Scales that say something about what is no object. -/
def Story.talkingScales : Story :=
  { Story.scales with
    tables := [
      [.parameter { multiple := true } 1],
      [.finish 1 [{ parameter := 1, requirement := .ofClass 3, statements := some 70 }]]] }

/-- Weigh 5 and the apple: 5 is refused, and weighing has to wait. -/
theorem reading_only_refuses_talkingScales :
    let setting : Setting .talkingScales Recording := ⟨.scripted _ {}, {}⟩
    let words : Words := ⟨[.known 0 "weigh", .value (.integer 5) 4, .known 1 "and",
      .known 3 "apple"], Story.talkingScales.dictionary⟩
    let scene : Scene .talkingScales Recording :=
      { world := { World.initial .talkingScales with literals := [.integer 5] }, state := {} }
    let start := scene.journaled
    let noted := (parseCommand setting.journaled {} words 0).run start
    setting.interpreter.KeepsWorld ∧ setting.interpreter.ChecksSilently ∧
    noted.2.state.1.executed = [⟨70, [4], 0⟩] ∧
    (noted.1, noted.2.forget) = (parseCommand setting {} words 0).run scene ∧
    (∀ verb positions (before : Scene .talkingScales (Recording × List Call)), before.OnlyLooked
      ((settleMultiple setting.journaled words verb positions).run before).2) ∧
    ((∀ reading found, ¬ Story.talkingScales.MatchesAt words {} 0 reading found) →
      noted.2 = start) ∧
    ∀ reading found, Story.talkingScales.MatchesAt words {} 0 reading found →
      (∃ table, .finish reading.form found.restrictions ∈ Story.talkingScales.elements table) ∧
      (∃ reached, start.OnlyLooked reached ∧ (noted.2 = reached ∨ ∃ narrowed,
        ((restrictPositions setting.journaled found.verb found.restrictions narrowed).run
          reached).2.SameButLog noted.2)) ∧
      Refusals setting.interpreter found scene.world noted.2.executed noted.2.world ∧
      ((∀ restriction ∈ found.restrictions, restriction.statements = none) →
        noted.2.executed = [] ∧ noted.2.world = scene.world) := by
  intro setting words scene start noted
  have keeps : setting.interpreter.KeepsWorld := (Interpreter.checksPurely_scripted _ _).keepsWorld
  have silent : setting.interpreter.ChecksSilently := Interpreter.checksSilently_scripted _ _
  exact ⟨keeps, silent, by decide +kernel, reading_only_refuses keeps silent {} words 0 scene⟩

end TextAdventure
