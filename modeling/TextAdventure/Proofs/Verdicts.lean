import TextAdventure.Proofs.Sifting
/-!
# Verdicts on a command

Restrictions decide what is left of a command and speak about what is not.  They decide the same in
whatever order they are, as long as no statements create or forget literals.  What they tell the
player is what the refusals say, one after the other, up to the restriction that ends the command
(`tellVerdicts`): each step on the way either tells something of this kind or changes nothing but
the log (`Play.Tells`).
-/

namespace TextAdventure

variable {story : Story} {σ α β : Type}

/-! ## What is told -/

namespace Restriction

/-- Tells the player what a restriction says where it is not met. -/
def speak (setting : Setting story σ) (context : Context) (restriction : Restriction)
    (scene : Scene story σ) : Scene story σ :=
  match restriction.statements with
  | none => { scene with transcript := scene.transcript ++ [.message .cannot []] }
  | some statements => ((Play.execute setting statements context).run scene).2

/-- Tells the player of an instance that is dropped: its marker, what the restriction says with the
instance in the slot, and a paragraph. -/
def tellOf (setting : Setting story σ) (context : Context) (restriction : Restriction)
    (id : InstanceId) (scene : Scene story σ) : Scene story σ :=
  let marked := { scene with
    transcript := scene.transcript ++ [.marker (scene.world.messageParameter id)] }
  let context :=
    { context with parameters := context.parameters.set (restriction.parameter - 1) id }
  let told := restriction.speak setting context marked
  { told with transcript := told.transcript ++ [.paragraph] }

end Restriction

/-- Tells the player of instances in turn. -/
def tellRefusals (setting : Setting story σ) (context : Context)
    (refusals : List (Restriction × InstanceId)) (scene : Scene story σ) : Scene story σ :=
  refusals.foldl (fun scene refusal => refusal.1.tellOf setting context refusal.2 scene) scene

theorem tellRefusals_append (setting : Setting story σ) (context : Context)
    (first second : List (Restriction × InstanceId)) :
    tellRefusals setting context (first ++ second) =
      fun scene => tellRefusals setting context second (tellRefusals setting context first scene) :=
  funext fun _ => List.foldl_append

/-- All that restrictions have to say after some earlier ones.  One that ends the command speaks
last, if it has statements of its own. -/
def tellVerdicts (setting : Setting story σ) (context : Context) (world : World story)
    (positions : List Position) (earlier restrictions : List Restriction)
    (scene : Scene story σ) : Scene story σ :=
  let told := tellRefusals setting context (world.refusals positions earlier restrictions) scene
  match restrictions.find? (world.rejects positions) with
  | none => told
  | some restriction =>
    if restriction.statements.isSome then restriction.speak setting context told else told

/-- A step does to the scene what some telling does, but for the log, and keeps the literals. -/
def Play.Tells (literals : List Literal) (telling : Scene story σ → Scene story σ)
    (step : Play story σ α) (holds : α → Prop) : Prop :=
  ∀ s t, s.SameButLog t → s.world.literals = literals →
    holds (step.run s).1 ∧ (step.run s).2.SameButLog (telling t) ∧
      (step.run s).2.world.literals = literals

namespace Play.Tells

variable {literals : List Literal} {telling further : Scene story σ → Scene story σ}
  {step : Play story σ α} {next : α → Play story σ β} {holds : α → Prop} {holds' : β → Prop}

theorem pure {value : α} (held : holds value) :
    Tells literals id (Pure.pure value : Play story σ α) holds :=
  fun _ _ same kept => ⟨held, same, kept⟩

theorem bind (first : Tells literals telling step holds)
    (second : ∀ value, holds value → Tells literals further (next value) holds') :
    Tells literals (fun scene => further (telling scene)) (step >>= next) holds' := by
  intro s t same kept
  obtain ⟨held, same, kept⟩ := first s t same kept
  rw [run_bind]
  exact second _ held _ _ same kept

/-- A step that tells nothing, before another one. -/
theorem quietly (first : Tells literals id step holds)
    (second : ∀ value, holds value → Tells literals further (next value) holds') :
    Tells literals further (step >>= next) holds' :=
  first.bind second

/-- And after it. -/
theorem silently (first : Tells literals telling step holds)
    (second : ∀ value, holds value → Tells literals id (next value) holds') :
    Tells literals telling (step >>= next) holds' :=
  first.bind second

/-- A look at the world. -/
theorem lookAround {telling : World story → Scene story σ → Scene story σ}
    {next : World story → Play story σ β}
    (onward : ∀ world, world.literals = literals →
      Tells literals (telling world) (next world) holds') :
    Tells literals (fun scene => telling scene.world scene) (Play.world >>= next) holds' := by
  rintro s _ ⟨log, rfl⟩ kept
  rw [run_bind, run_world]
  exact onward s.world kept _ _ ⟨log, rfl⟩ kept

theorem note (records : List LogRecord) :
    Tells literals id (Play.note records : Play story σ Unit) fun _ => True := by
  rintro s _ ⟨log, rfl⟩ kept
  exact ⟨trivial, ⟨log, rfl⟩, kept⟩

theorem say (utterances : List Utterance) :
    Tells literals
      (fun scene => { scene with transcript := scene.transcript ++ utterances })
      (Play.say utterances : Play story σ Unit) fun _ => True := by
  rintro s _ ⟨log, rfl⟩ kept
  exact ⟨trivial, ⟨log, rfl⟩, kept⟩

theorem execute {setting : Setting story σ} (keeps : setting.interpreter.KeepsLiterals)
    (statements : CodeAddress) (context : Context) :
    Tells literals (fun scene => ((Play.execute setting statements context).run scene).2)
      (Play.execute setting statements context) fun _ => True := by
  rintro s _ ⟨log, rfl⟩ kept
  exact ⟨trivial, ⟨_, rfl⟩, (keeps _ _ _ _).trans kept⟩

theorem traceSection (setting : Setting story σ) (title : String) :
    Tells literals id (Play.traceSection setting title) fun _ => True := by
  unfold Play.traceSection Play.onlyIf
  split
  · exact note _
  · exact pure trivial

end Play.Tells

open Play (Tells)

namespace Restriction

variable {setting : Setting story σ} {literals : List Literal} {world : World story}
  {position : Position}

theorem refuse_tells (keeps : setting.interpreter.KeepsLiterals) (context : Context)
    (restriction : Restriction) :
    Tells literals (restriction.speak setting context) (restriction.refuse setting context)
      fun _ => True := by
  have traced : Tells literals id (restriction.trace setting) fun _ => True :=
    .traceSection setting _
  obtain ⟨parameter, requirement, _ | statements⟩ := restriction
  · exact traced.quietly fun _ _ => .say _
  · refine traced.quietly fun _ _ => (Tells.execute keeps statements context).silently ?_
    intro result _
    cases result with
    | ok => exact .pure trivial
    | error failure => exact .note _

theorem refuseMember_tells (keeps : setting.interpreter.KeepsLiterals) (context : Context)
    (restriction : Restriction) (id : InstanceId) :
    Tells literals (restriction.tellOf setting context id)
      (restriction.refuseMember setting context id) fun _ => True :=
  .lookAround fun _ _ => (Tells.say _).bind fun _ _ =>
    (restriction.refuse_tells keeps _).bind fun _ _ => .say _

/-- Those of some references that the player is told of by a restriction. -/
def tellsOf (world : World story) (silent : Bool) (restriction : Restriction)
    (references : List Reference) : List (Restriction × InstanceId) :=
  if silent then []
  else (((references.map (·.id)).filter (· != 0)).filter fun id =>
    !world.meets restriction.requirement id).map (restriction, ·)

theorem tellsOf_cons (silent : Bool) (restriction : Restriction) (reference : Reference)
    (rest : List Reference) :
    restriction.tellsOf world silent (reference :: rest) =
      restriction.tellsOf world silent [reference] ++ restriction.tellsOf world silent rest := by
  cases silent with
  | true => rfl
  | false =>
    show (((([reference] ++ rest).map (·.id)).filter _).filter _).map _ = _
    rw [List.map_append, List.filter_append, List.filter_append, List.map_append]
    rfl

theorem dropMember_tells (keeps : setting.interpreter.KeepsLiterals) (context : Context)
    (silent : Bool) (restriction : Restriction) (reference : Reference) :
    Tells world.literals
      (tellRefusals setting context (restriction.tellsOf world silent [reference]))
      (restriction.dropMember setting context silent reference)
      (· = reference.sift (world.meets restriction.requirement)) := by
  have looked (now : World story) (kept : now.literals = world.literals) :
      Tells world.literals
        (tellRefusals setting context (restriction.tellsOf world silent [reference]))
        (if reference.id = 0 || now.meets restriction.requirement reference.id then
          return reference
        else do
          Play.onlyIf (!silent) (restriction.refuseMember setting context reference.id)
          return { reference with id := 0 } : Play story σ Reference)
        (· = reference.sift (world.meets restriction.requirement)) := by
    rw [World.meets_congr kept]
    unfold Reference.sift
    split
    · next passes =>
      have nobody : restriction.tellsOf world silent [reference] = [] := by
        rw [Bool.or_eq_true, decide_eq_true_eq] at passes
        rcases passes with none | meets
        · simp [tellsOf, none]
        · simp [tellsOf, meets]
      rw [nobody]
      exact .pure rfl
    · next fails =>
      rw [Bool.or_eq_true, decide_eq_true_eq, not_or, Bool.not_eq_true] at fails
      cases silent with
      | true =>
        have nothing : Tells world.literals id (Play.onlyIf (!true)
            (restriction.refuseMember setting context reference.id)) fun _ => True :=
          .pure trivial
        exact nothing.silently fun _ _ => .pure rfl
      | false =>
        have somebody : restriction.tellsOf world false [reference] =
            [(restriction, reference.id)] := by
          simp [tellsOf, fails.1, fails.2]
        rw [somebody]
        exact (restriction.refuseMember_tells keeps context _).silently fun _ _ => .pure rfl
  exact .lookAround looked

/-- Going through a list, those that do not meet the restriction are told of in turn. -/
theorem dropMembers_tells (keeps : setting.interpreter.KeepsLiterals) (context : Context)
    (silent : Bool) (restriction : Restriction) (references : List Reference) :
    Tells world.literals
      (tellRefusals setting context (restriction.tellsOf world silent references))
      (restriction.dropMembers setting context silent references)
      (· = references.map (·.sift (world.meets restriction.requirement))) := by
  induction references with
  | nil =>
    have nobody : restriction.tellsOf world silent [] = [] := by cases silent <;> rfl
    rw [nobody]
    exact .pure rfl
  | cons reference rest ih =>
    rw [tellsOf_cons, tellRefusals_append]
    refine (restriction.dropMember_tells keeps context silent reference).bind ?_
    rintro _ rfl
    refine ih.silently ?_
    rintro _ rfl
    exact .pure rfl

theorem applyTo_tells_of_several (keeps : setting.interpreter.KeepsLiterals) (context : Context)
    (restriction : Restriction) (several : position.multiple = true) :
    Tells world.literals
      (tellRefusals setting context
        (restriction.tellsOf world position.all position.references))
      (restriction.applyTo setting context position)
      (· = .success
        { position.sift (world.meets restriction.requirement) with checked := true }) := by
  unfold applyTo
  rw [if_pos several]
  refine (restriction.dropMembers_tells keeps context position.all _).silently ?_
  rintro _ rfl
  rw [← Position.references_sift several]
  exact .pure rfl

theorem applyTo_tells_of_single (context : Context) (restriction : Restriction)
    (single : position.multiple = false)
    (meets : world.meets restriction.requirement position.firstInstance = true) :
    Tells world.literals id (restriction.applyTo setting context position)
      (· = .success
        { position.sift (world.meets restriction.requirement) with checked := true }) := by
  rintro s _ ⟨log, rfl⟩ kept
  rw [applyTo_of_single single, World.meets_congr kept, if_pos meets,
    Position.sift_of_single single]
  exact ⟨rfl, ⟨log, rfl⟩, kept⟩

theorem applyTo_tells_of_rejected (keeps : setting.interpreter.KeepsLiterals) (context : Context)
    (restriction : Restriction) (single : position.multiple = false)
    (fails : world.meets restriction.requirement position.firstInstance = false) :
    Tells world.literals
      (fun scene =>
        if restriction.statements.isSome then restriction.speak setting context scene else scene)
      (restriction.applyTo setting context position) (·.fault ≠ none) := by
  have rejected : Tells world.literals
      (fun scene =>
        if restriction.statements.isSome then restriction.speak setting context scene else scene)
      (restriction.reject setting context) fun _ => True := by
    unfold reject
    split
    · exact (restriction.refuse_tells keeps context).silently fun _ _ => .pure trivial
    · exact (Tells.traceSection setting _).silently fun _ _ => .pure trivial
  intro s t same kept
  obtain ⟨-, told, after⟩ := rejected s t same kept
  rw [applyTo_of_single single, World.meets_congr kept, if_neg (Bool.eq_false_iff.mp fails)]
  exact ⟨Option.some_ne_none _, told, after⟩

end Restriction

section InTurn

variable {setting : Setting story σ} {world : World story} {positions : List Position}
  {restriction : Restriction} {rest earlier : List Restriction}

/-- A restriction that does not end the command tells of those that it is the first to drop. -/
theorem applyTo_tells (keeps : setting.interpreter.KeepsLiterals) (context : Context)
    {position : Position} (found : entryAt positions restriction.parameter = some position)
    (goesOn : world.rejects positions restriction = false) :
    Tells world.literals
      (tellRefusals setting context
        ((world.refusedBy positions earlier restriction).map (restriction, ·)))
      (restriction.applyTo setting context
        (position.judgedBy world earlier restriction.parameter))
      (· = .success
        (position.judgedBy world (earlier ++ [restriction]) restriction.parameter)) := by
  have listed : listedFor positions restriction.parameter =
      if position.multiple && !position.all then position.instances else [] := by
    unfold listedFor
    rw [found]
  rw [Position.judgedBy_concat]
  unfold World.refusedBy
  rw [listed]
  by_cases several : position.multiple = true
  · have told : restriction.tellsOf world position.all
        (position.judgedBy world earlier restriction.parameter).references =
        ((if position.multiple && !position.all then position.instances else []).filter fun id =>
          world.meetsAll earlier restriction.parameter id &&
            !world.meets restriction.requirement id).map (restriction, ·) := by
      cases all : position.all with
      | true => simp [Restriction.tellsOf]
      | false =>
        show ((position.sift (world.meetsAll earlier restriction.parameter)).instances.filter
          _).map _ = _
        rw [Position.instances_sift several, List.filter_filter, if_pos (by simp [several])]
        simp only [Bool.and_comm]
    rw [← told]
    exact restriction.applyTo_tells_of_several keeps context several
  · have single := Bool.eq_false_iff.mpr several
    have meets : world.meets restriction.requirement
        (position.judgedBy world earlier restriction.parameter).firstInstance = true := by
      rw [Position.firstInstance_judgedBy _ _ _ single]
      simpa [World.rejects, found, single] using goesOn
    rw [if_neg (by simp [single])]
    exact restriction.applyTo_tells_of_single context single meets

/-- All that is told is what this restriction tells, and then what the rest do. -/
theorem tellVerdicts_of_goesOn (context : Context)
    (goesOn : world.rejects positions restriction = false) :
    tellVerdicts setting context world positions earlier (restriction :: rest) =
      fun scene => tellVerdicts setting context world positions (earlier ++ [restriction]) rest
        (tellRefusals setting context
          ((world.refusedBy positions earlier restriction).map (restriction, ·)) scene) := by
  funext scene
  unfold tellVerdicts
  rw [World.refusals, if_neg (Bool.eq_false_iff.mp goesOn), tellRefusals_append,
    List.find?_cons_of_neg (Bool.eq_false_iff.mp goesOn)]

theorem tellVerdicts_of_rejects (context : Context)
    (rejects : world.rejects positions restriction = true) :
    tellVerdicts setting context world positions earlier (restriction :: rest) =
      fun scene =>
        if restriction.statements.isSome then restriction.speak setting context scene
        else scene := by
  funext scene
  unfold tellVerdicts
  rw [World.refusals, if_pos rejects, List.find?_cons_of_pos rejects]
  rfl

end InTurn

/-- **What restrictions come to.**  They go through unless there is one that rejects a single
instance; then every position is left with what meets all of them.  The player is told what they
have to say up to there. -/
theorem applyRestrictions_tells {setting : Setting story σ} {world : World story}
    (keeps : setting.interpreter.KeepsLiterals) (context : Context) (positions : List Position)
    (earlier restrictions : List Restriction) :
    Tells world.literals
      (tellVerdicts setting context world positions earlier restrictions)
      (applyRestrictions setting context (Position.judgeAll world earlier positions) restrictions)
      fun applied => restrictions.find? (world.rejects positions) = none →
        applied = .success (Position.judgeAll world (earlier ++ restrictions) positions) := by
  induction restrictions generalizing earlier with
  | nil =>
    rw [List.append_nil]
    exact .pure fun _ => rfl
  | cons restriction rest ih =>
    have later := ih (earlier ++ [restriction])
    rw [List.append_assoc, List.singleton_append] at later
    unfold applyRestrictions
    rw [Position.entryAt_judgeAll]
    cases found : entryAt positions restriction.parameter with
    | none =>
      have goesOn : world.rejects positions restriction = false := by
        unfold World.rejects
        rw [found]
      have nobody : world.refusedBy positions earlier restriction = [] := by
        unfold World.refusedBy listedFor
        rw [found]
        rfl
      rw [tellVerdicts_of_goesOn context goesOn, nobody, ← Position.judgeAll_missing found,
        List.find?_cons_of_neg (Bool.eq_false_iff.mp goesOn)]
      exact (Tells.note _).quietly fun _ _ => later
    | some position =>
      cases ending : world.rejects positions restriction with
      | false =>
        rw [tellVerdicts_of_goesOn context ending,
          List.find?_cons_of_neg (Bool.eq_false_iff.mp ending)]
        refine (applyTo_tells keeps context found ending).bind ?_
        rintro _ rfl
        show Tells _ _ (applyRestrictions setting context
          ((Position.judgeAll world earlier positions).set (restriction.parameter - 1)
            (position.judgedBy world (earlier ++ [restriction]) restriction.parameter)) rest) _
        rw [Position.judgeAll_set found]
        exact later
      | true =>
        have rejected : position.multiple = false ∧
            world.meets restriction.requirement position.firstInstance = false := by
          simpa [World.rejects, found] using ending
        have fails : world.meets restriction.requirement
            (position.judgedBy world earlier restriction.parameter).firstInstance = false := by
          rw [Position.firstInstance_judgedBy _ _ _ rejected.1]
          exact rejected.2
        have single : (position.judgedBy world earlier restriction.parameter).multiple = false :=
          rejected.1
        rw [tellVerdicts_of_rejects context ending, List.find?_cons_of_pos ending]
        refine (restriction.applyTo_tells_of_rejected keeps context single fails).silently ?_
        rintro ⟨value, _ | fault⟩ stopped
        · exact absurd rfl stopped
        · exact .pure fun none => by cases none

/-! ## The verdict -/

section Verdict

variable {world : World story} {positions : List Position} {restrictions : List Restriction}

theorem parameterVector_unchecked (positions : List Position) :
    parameterVector (positions.map Position.unchecked) = parameterVector positions := by
  unfold parameterVector
  rw [List.map_map]
  rfl

variable {setting : Setting story σ} {scene : Scene story σ}
  (keeps : setting.interpreter.KeepsLiterals) (verb : WordCode)
include keeps

/-- What is told of a command, and what it comes to before positions without restrictions are gone
through. -/
theorem restrictPositions_tells (restrictions : List Restriction) (positions : List Position) :
    let context : Context := { verb, parameters := parameterVector positions }
    let unchecked := positions.map Position.unchecked
    let applied := (applyRestrictions setting context unchecked restrictions).run scene
    let judged := (restrictPositions setting verb restrictions positions).run scene
    judged = ((applied.1.andThen (requireObjects applied.2.world)).andThen fun positions =>
      .success (positions.map Position.compress), applied.2) ∧
    (restrictions.find? (scene.world.rejects positions) = none →
      applied.1 = .success (Position.judgeAll scene.world restrictions positions)) ∧
    applied.2.SameButLog
      (tellVerdicts setting context scene.world positions [] restrictions scene) ∧
    applied.2.world.literals = scene.world.literals := by
  intro context unchecked applied judged
  obtain ⟨through, told, kept⟩ := applyRestrictions_tells keeps context positions []
    restrictions scene scene ⟨scene.log, rfl⟩ rfl
  rw [Position.judgeAll_nil] at through told kept
  refine ⟨?_, through, told, kept⟩
  have run := restrictPositions_run setting verb restrictions positions scene
  dsimp only at run
  rw [parameterVector_unchecked] at run
  exact run

/-- A command goes through if every single instance is admitted, and then every position holds what
is admitted. -/
theorem restrictPositions_of_admitsSingles
    (admits : AdmitsSingles scene.world restrictions positions) :
    ((restrictPositions setting verb restrictions positions).run scene).1 =
      .success (positions.mapIdx fun slot position =>
        position.leftBy scene.world restrictions (slot + 1)) := by
  obtain ⟨run, through, -, kept⟩ := restrictPositions_tells keeps verb restrictions positions
  rw [run, through admits.find?_rejects]
  exact requireObjects_judgeAll kept admits

/-- And it goes through only then. -/
theorem admitsSingles_of_success
    (through : ((restrictPositions setting verb restrictions positions).run scene).1.fault =
      none) : AdmitsSingles scene.world restrictions positions := by
  have success := Attempt.eq_success_of_fault through
  obtain ⟨-, -, places⟩ := restrictPositions_eq_success
    (fun _ _ _ _ _ member => Restriction.refusesWithin_refuses setting member scene.world)
    .start success
  intro slot position there single
  obtain ⟨q, -, judged⟩ := places slot position there
  obtain ⟨-, passes⟩ := judged.single single
  exact (passes.valid fun _ refuses => keeps.eq_of_refuses refuses).2

end Verdict

/-- **Verdicts do not depend on their order, and each is told of once.**  If running statements
keeps the literals, a command gets through the restrictions of its form exactly if each of its
single instances meets all restrictions on its parameter, or is an object where there are none.
Then each list is left, in order, with those of its instances that do so.  Both are the same for the
restrictions in any other order.  The scene comes to be, but for the log, what telling the refusals
in turn makes of it, and at last the restriction that ends the command.  For a parameter these are
its listed instances that fail a restriction before the command ends, once each, with the first that
they fail; none is of all or of a parameter without restrictions. -/
theorem verdicts_in_any_order {setting : Setting story σ}
    (keeps : setting.interpreter.KeepsLiterals) (verb : WordCode)
    (restrictions : List Restriction) (positions : List Position) (scene : Scene story σ) :
    let world := scene.world
    let context : Context := { verb, parameters := parameterVector positions }
    let judged := (restrictPositions setting verb restrictions positions).run scene
    (judged.1.fault = none ↔
      ∀ (slot : Nat) position, positions[slot]? = some position → position.multiple = false →
        world.admits restrictions (slot + 1) position.firstInstance = true) ∧
    (judged.1.fault = none →
      judged.1.value = positions.mapIdx fun slot position =>
        position.leftBy world restrictions (slot + 1)) ∧
    (∀ other : List Restriction, other.Perm restrictions →
      let otherwise := (restrictPositions setting verb other positions).run scene
      (otherwise.1.fault = none ↔ judged.1.fault = none) ∧
      (judged.1.fault = none → otherwise.1.value = judged.1.value)) ∧
    judged.2.SameButLog
      (tellVerdicts setting context world positions [] restrictions scene) ∧
    ∀ number, ((world.refusals positions [] restrictions).filter fun refusal =>
        refusal.1.parameter = number).Perm
      ((listedFor positions number).filterMap fun id =>
        (world.firstFailed (restrictions.takeWhile (!world.rejects positions ·)) number id).map
          (·, id)) := by
  intro world context judged
  have through (table : List Restriction) :
      ((restrictPositions setting verb table positions).run scene).1.fault = none ↔
        AdmitsSingles world table positions := by
    constructor
    · exact admitsSingles_of_success keeps verb
    · intro admits
      rw [restrictPositions_of_admitsSingles keeps verb admits]
      rfl
  have left (table : List Restriction) (admits : AdmitsSingles world table positions) :
      ((restrictPositions setting verb table positions).run scene).1.value =
        positions.mapIdx fun slot position => position.leftBy world table (slot + 1) := by
    rw [restrictPositions_of_admitsSingles keeps verb admits]
    rfl
  refine ⟨through restrictions, fun none => left _ ((through _).mp none), ?_, ?_, ?_⟩
  · intro other perm otherwise
    refine ⟨?_, fun none => ?_⟩
    · rw [through other, AdmitsSingles.perm perm, ← through restrictions]
    · have admits := (through restrictions).mp none
      rw [left other ((AdmitsSingles.perm perm).mpr admits), left restrictions admits]
      simp only [Position.leftBy_perm perm]
  · obtain ⟨run, -, told, -⟩ := restrictPositions_tells keeps verb restrictions positions
    show ((restrictPositions setting verb restrictions positions).run scene).2.SameButLog _
    rw [run]
    exact told
  · intro number
    have once := world.refusals_perm positions [] restrictions number
    have all : (listedFor positions number).filter (world.meetsAll [] number) =
        listedFor positions number := List.filter_eq_self.mpr fun _ _ => rfl
    rwa [all] at once

section Weighing

/-- The number 5, the hero and the apple, listed. -/
def Position.fiveAndHeroAndApple : Position :=
  { references := [{ first := 1, last := 1, id := 4 }, { first := 3, last := 3, id := 2 },
      { first := 5, last := 5, id := 3 }]
    multiple := true }

/-- Only things are weighed, as is said in its own words, and of these only objects. -/
def Restriction.ofWeighing : List Restriction :=
  [⟨1, .ofClass 2, some 70⟩, ⟨1, .ofClass 3, none⟩]

/-- Of the three only the apple is left.  The number is told of by the first restriction, the hero
by the second. -/
theorem verdicts_in_any_order_weighing :
    let scene : Scene .scales Recording :=
      { world := { World.initial .scales with literals := [.integer 5] }, state := {} }
    let positions := [Position.fiveAndHeroAndApple]
    let restrictions := Restriction.ofWeighing
    let judged := (restrictPositions Setting.scales 1 restrictions positions).run scene
    Setting.scales.interpreter.KeepsLiterals ∧
    scene.world.refusals positions [] restrictions =
      [(⟨1, .ofClass 2, some 70⟩, 4), (⟨1, .ofClass 3, none⟩, 2)] ∧
    judged.1.fault = none ∧
    judged.1.value = [Position.fiveAndHeroAndApple.leftBy scene.world restrictions 1] ∧
    (Position.fiveAndHeroAndApple.leftBy scene.world restrictions 1).instances = [3] ∧
    ((restrictPositions Setting.scales 1 restrictions.reverse positions).run scene).1.value =
      judged.1.value ∧
    judged.2.SameButLog (tellVerdicts Setting.scales { verb := 1, parameters := [0] } scene.world
      positions [] restrictions scene) ∧
    ((scene.world.refusals positions [] restrictions).filter fun refusal =>
        refusal.1.parameter = 1).Perm
      ((listedFor positions 1).filterMap fun id =>
        (scene.world.firstFailed
          (restrictions.takeWhile (!scene.world.rejects positions ·)) 1 id).map (·, id)) := by
  intro scene positions restrictions judged
  have keeps : Setting.scales.interpreter.KeepsLiterals := Interpreter.keepsLiterals_scripted _ _
  obtain ⟨through, left, order, told, once⟩ :=
    verdicts_in_any_order keeps 1 restrictions positions scene
  have noSingles : ∀ (slot : Nat) position, positions[slot]? = some position →
      position.multiple = false →
        scene.world.admits restrictions (slot + 1) position.firstInstance = true := by
    intro slot position there single
    obtain rfl := List.mem_singleton.mp (List.mem_of_getElem? there)
    cases single
  have none : judged.1.fault = none := through.mpr noSingles
  have reversed := (order restrictions.reverse restrictions.reverse_perm).2 none
  exact ⟨keeps, by decide, none, left none, by decide, reversed, told, once 1⟩

end Weighing

end TextAdventure
