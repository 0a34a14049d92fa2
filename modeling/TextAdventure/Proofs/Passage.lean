import TextAdventure.Proofs.Origins
import TextAdventure.Proofs.Tracing
/-!
# Passing through an exit

An exit has checks, an action and a target, and each of them can be missing or fail.  What a
movement does between its calls of the interpreter is little: it notes things in the log, and at the
end it may put the hero somewhere (`passing_through`).  All else that happens is what the calls do,
one after the other (`Scene.LeadsTo`).
-/

namespace TextAdventure

variable {story : Story} {σ α β : Type}

/-! ## Nothing but calls -/

/-- Calls of the interpreter lead from one scene to another.  Each is made in the scene that the one
before has left, and is written down with its result.  In between things may be noted in the log,
and nothing else happens. -/
inductive Scene.LeadsTo (setting : Setting story σ) :
    Scene story σ → List Call → Scene story σ → Prop where
  | done (scene : Scene story σ) : LeadsTo setting scene [] scene
  | noted {scene after : Scene story σ} {calls : List Call} (records : List LogRecord)
      (rest : LeadsTo setting { scene with log := scene.log ++ records } calls after) :
      LeadsTo setting scene calls after
  | evaluated {scene after : Scene story σ} {calls : List Call} (condition : CodeAddress)
      (context : Context)
      (rest : LeadsTo setting ((Play.evaluate setting condition context).run scene).2 calls after) :
      LeadsTo setting scene
        (.evaluated condition context ((Play.evaluate setting condition context).run scene).1 ::
          calls) after
  | executed {scene after : Scene story σ} {calls : List Call} (statements : CodeAddress)
      (context : Context)
      (rest : LeadsTo setting ((Play.execute setting statements context).run scene).2 calls after) :
      LeadsTo setting scene
        (.executed statements context ((Play.execute setting statements context).run scene).1 ::
          calls) after

theorem Scene.LeadsTo.append {setting : Setting story σ} {first middle last : Scene story σ}
    {calls later : List Call} (before : first.LeadsTo setting calls middle)
    (after : middle.LeadsTo setting later last) : first.LeadsTo setting (calls ++ later) last := by
  induction before with
  | done => exact after
  | noted records _ ih => exact .noted records (ih after)
  | evaluated condition context _ ih => exact .evaluated condition context (ih after)
  | executed statements context _ ih => exact .executed statements context (ih after)

/-- Without a call nothing happens but to the log. -/
theorem Scene.LeadsTo.sameButLog {setting : Setting story σ} {scene after : Scene story σ}
    (leads : scene.LeadsTo setting [] after) : scene.SameButLog after := by
  -- a run with a call does not fit, but the induction needs a variable for the calls
  generalize none : [] = calls at leads
  induction leads with
  | done scene => exact ⟨scene.log, rfl⟩
  | noted records _ ih =>
    obtain ⟨log, rfl⟩ := ih none
    exact ⟨log, rfl⟩
  | evaluated => cases none
  | executed => cases none

namespace Play

/-- Whatever the scene, the step does nothing but make calls, which are as described for its
result, and note things. -/
def OnlyCalls (setting : Setting story σ) (step : Play story (σ × List Call) α)
    (described : α → List Call → Prop) : Prop :=
  ∀ scene, ∃ calls, (step.run scene).2.calls = scene.calls ++ calls ∧
    scene.forget.LeadsTo setting calls (step.run scene).2.forget ∧
    described (step.run scene).1 calls

namespace OnlyCalls

variable {setting : Setting story σ} {described : α → List Call → Prop}

theorem pure {value : α} (nothing : described value []) :
    OnlyCalls setting (Pure.pure value) described := by
  intro scene
  exact ⟨[], (List.append_nil _).symm, .done _, nothing⟩

theorem bind {step : Play story (σ × List Call) α} {next : α → Play story (σ × List Call) β}
    {total : β → List Call → Prop} (first : OnlyCalls setting step described)
    (second : ∀ value calls, described value calls →
      OnlyCalls setting (next value) fun result added => total result (calls ++ added)) :
    OnlyCalls setting (step >>= next) total := by
  intro scene
  obtain ⟨calls, written, leads, fit⟩ := first scene
  obtain ⟨added, writtenAfter, leadsOn, joined⟩ := second _ calls fit (step.run scene).2
  refine ⟨calls ++ added, ?_, leads.append leadsOn, joined⟩
  rw [run_bind, writtenAfter, written, List.append_assoc]

theorem mono {step : Play story (σ × List Call) α} {others : α → List Call → Prop}
    (only : OnlyCalls setting step described)
    (implies : ∀ value calls, described value calls → others value calls) :
    OnlyCalls setting step others := by
  intro scene
  obtain ⟨calls, written, leads, fit⟩ := only scene
  exact ⟨calls, written, leads, implies _ calls fit⟩

/-- A step without calls, before another one. -/
theorem quietly {step : Play story (σ × List Call) β} {next : β → Play story (σ × List Call) α}
    (first : OnlyCalls setting step fun _ calls => calls = [])
    (second : ∀ value, OnlyCalls setting (next value) described) :
    OnlyCalls setting (step >>= next) described := by
  refine first.bind fun value calls none => ?_
  subst none
  exact second value

theorem note (records : List LogRecord) :
    OnlyCalls setting (Play.note records) fun _ calls => calls = [] := by
  intro scene
  exact ⟨[], (List.append_nil _).symm, .noted records (.done _), rfl⟩

theorem traceSection (title : String) :
    OnlyCalls setting (Play.traceSection setting.journaled title) fun _ calls => calls = [] := by
  unfold Play.traceSection Play.onlyIf
  split
  · exact note _
  · exact pure rfl

theorem evaluate (condition : CodeAddress) (context : Context) :
    OnlyCalls setting (Play.evaluate setting.journaled condition context) fun result calls =>
      calls = [.evaluated condition context result] := by
  intro scene
  exact ⟨_, rfl, .evaluated condition context (.done _), rfl⟩

theorem execute (statements : CodeAddress) (context : Context) :
    OnlyCalls setting (Play.execute setting.journaled statements context) fun result calls =>
      calls = [.executed statements context result] := by
  intro scene
  exact ⟨_, rfl, .executed statements context (.done _), rfl⟩

end OnlyCalls

end Play

/-! ## Checks in turn -/

section Checks

variable {setting : Setting story σ} (context : Context)

/-- Statements were run, once, if there are any. -/
inductive RanOnce : Option CodeAddress → List Call → Prop where
  | nothing : RanOnce none []
  | once (address : CodeAddress) (result : Except RuntimeFailure Unit) :
      RanOnce (some address) [.executed address context result]

/-- The check holds, as the call shows. -/
def Check.HoldsBy (check : Check) (call : Call) : Prop :=
  ∃ condition, check.condition = some condition ∧
    call = .evaluated condition context (.ok true)

/-- The check fails by the calls: no condition can make it hold, its condition does not hold, or
this cannot be found out.  Its statements are run in the first two cases. -/
inductive Check.FailsBy (check : Check) : List Call → Prop where
  | always {told : List Call} (unconditional : check.condition = none)
      (tells : RanOnce context check.statements told) : FailsBy check told
  | isFalse {condition : CodeAddress} {told : List Call}
      (conditional : check.condition = some condition)
      (tells : RanOnce context check.statements told) :
      FailsBy check (.evaluated condition context (.ok false) :: told)
  | broken {condition : CodeAddress} (conditional : check.condition = some condition)
      (failure : RuntimeFailure) : FailsBy check [.evaluated condition context (.error failure)]

/-- All checks hold, as the calls show one by one. -/
def AllHoldBy (checks : List Check) (calls : List Call) : Prop :=
  List.Forall₂ (Check.HoldsBy context) checks calls

/-- The checks were gone through up to the first that fails. -/
def FailBy (checks : List Check) (calls : List Call) : Prop :=
  ∃ earlier check later looked last, checks = earlier ++ check :: later ∧
    AllHoldBy context earlier looked ∧ check.FailsBy context last ∧ calls = looked ++ last

variable {context}

theorem FailBy.cons {check : Check} {call : Call} {rest : List Check} {calls : List Call}
    (holds : check.HoldsBy context call) (fails : FailBy context rest calls) :
    FailBy context (check :: rest) (call :: calls) := by
  obtain ⟨earlier, failing, later, looked, last, rfl, hold, failed, rfl⟩ := fails
  exact ⟨check :: earlier, failing, later, call :: looked, last, rfl, .cons holds hold, failed, rfl⟩

theorem FailBy.first {check : Check} (rest : List Check) {calls : List Call}
    (fails : check.FailsBy context calls) : FailBy context (check :: rest) calls :=
  ⟨[], check, rest, [], calls, rfl, .nil, fails, rfl⟩

variable (context)

theorem executeAny_onlyCalls (statements : Option CodeAddress) :
    Play.OnlyCalls setting (Play.executeAny setting.journaled statements context)
      fun _ calls => RanOnce context statements calls := by
  cases statements with
  | none => exact .pure .nothing
  | some address =>
    refine (Play.OnlyCalls.execute address context).mono fun result calls made => ?_
    subst made
    exact .once address result

theorem holds_onlyCalls (check : Check) :
    Play.OnlyCalls setting (check.holds setting.journaled context) fun held calls =>
      (check.condition = none ∧ held = .ok false ∧ calls = []) ∨
        ∃ condition, check.condition = some condition ∧
          calls = [.evaluated condition context held] := by
  unfold Check.holds
  cases check.condition with
  | none => exact .pure (.inl ⟨rfl, rfl, rfl⟩)
  | some condition =>
    exact (Play.OnlyCalls.evaluate condition context).mono fun _ _ made =>
      .inr ⟨condition, rfl, made⟩

/-- **Checks are gone through in order, and none after the first that fails.** -/
theorem checksPass_onlyCalls (checks : List Check) :
    Play.OnlyCalls setting (checksPass setting.journaled context true checks)
      fun passed calls => (passed = .ok true → AllHoldBy context checks calls) ∧
        (passed ≠ .ok true → FailBy context checks calls) := by
  induction checks with
  | nil => exact .pure ⟨fun _ => .nil, fun failed => absurd rfl failed⟩
  | cons check rest ih =>
    refine (holds_onlyCalls context check).bind fun held calls asked => ?_
    rcases held with failure | _ | _
    · -- the condition of this check could not be evaluated
      refine .pure ⟨nofun, fun _ => ?_⟩
      obtain ⟨-, impossible, -⟩ | ⟨condition, conditional, rfl⟩ := asked
      · cases impossible
      · exact .first rest (.broken conditional failure)
    · -- it does not hold, and whatever comes of its statements, no other check is looked at
      refine (executeAny_onlyCalls context check.statements).bind fun result told tells => ?_
      have fails : FailBy context (check :: rest) (calls ++ (told ++ [])) := by
        rw [List.append_nil]
        obtain ⟨unconditional, -, rfl⟩ | ⟨condition, conditional, rfl⟩ := asked
        · exact .first rest (.always unconditional tells)
        · exact .first rest (.isFalse conditional tells)
      cases result with
      | error failure => exact .pure ⟨nofun, fun _ => fails⟩
      | ok => exact .pure ⟨nofun, fun _ => fails⟩
    · -- it holds, and the rest is gone through
      obtain ⟨-, impossible, -⟩ | ⟨condition, conditional, rfl⟩ := asked
      · cases impossible
      · have holds : check.HoldsBy context (.evaluated condition context (.ok true)) :=
          ⟨condition, conditional, rfl⟩
        exact ih.mono fun _ _ asked => ⟨fun passed => .cons holds (asked.1 passed),
          fun stopped => .cons holds (asked.2 stopped)⟩

end Checks

/-! ## Exits -/

/-- The exit is the first one of a location in a direction. -/
def Story.LeavesBy (story : Story) (location : InstanceId) (direction : WordCode) (exit : Exit) :
    Prop :=
  ∃ place, story.instance? location = some place ∧
    IsFirst (·.direction = direction) place.exits exit

theorem Story.exit?_eq_some_iff {location : InstanceId} {direction : WordCode} {exit : Exit} :
    story.exit? location direction = some exit ↔ story.LeavesBy location direction exit := by
  unfold exit? LeavesBy
  rw [Option.bind_eq_some_iff]
  simp only [find?_eq_some_iff_isFirst, beq_iff_eq]

/-- Of the second world and the first one nothing differs but where one instance is. -/
structure World.Moves (world after : World story) (id destination : InstanceId) : Prop where
  there : after.locationOf id = destination
  others : ∀ other, other ≠ id → after.locationOf other = world.locationOf other
  attributes : after.attributes = world.attributes
  literals : after.literals = world.literals

theorem World.moves_locate {world : World story} {id : InstanceId} (destination : InstanceId)
    (somewhere : world.locationOf id ≠ 0) :
    world.Moves (world.locate id destination) id destination :=
  ⟨world.locationOf_locate destination somewhere,
    fun _ ne => world.locationOf_locate_of_ne destination ne, rfl, rfl⟩

namespace Exit

variable (setting : Setting story σ) (location : InstanceId) (exit : Exit)

/-- The checks of the exit hold and its action was run once, if there is one. -/
def IsFree (calls : List Call) : Prop :=
  ∃ looked acted, calls = looked ++ acted ∧ AllHoldBy { owner := location } exit.checks looked ∧
    RanOnce { owner := location } exit.action acted

/-- What comes of an exit after the calls that are made for it. -/
inductive Passage (calls : List Call) (left after : Scene story σ) : Prop where
  /-- A check has failed.  The hero is not moved. -/
  | heldBack (fails : FailBy { owner := location } exit.checks calls) (same : after = left)
  /-- The hero is still there and is put at the target.  Nothing else is moved. -/
  | leaves (free : exit.IsFree location calls) (still : left.world.here = location)
      (moves : left.world.Moves after.world story.hero exit.target)
      (rest : after = { left with world := after.world })
  /-- The hero is elsewhere already and stays there. -/
  | stays (free : exit.IsFree location calls) (gone : left.world.here ≠ location)
      (same : after = left)

theorem traceExit_onlyCalls (direction : WordCode) (what : String) :
    Play.OnlyCalls setting (traceExit setting.journaled direction location what)
      fun _ calls => calls = [] :=
  .traceSection _

theorem checksPass_onlyCalls :
    Play.OnlyCalls setting (exit.checksPass setting.journaled location) fun passed calls =>
      (passed = true → AllHoldBy { owner := location } exit.checks calls) ∧
        (passed = false → FailBy { owner := location } exit.checks calls) := by
  unfold Exit.checksPass
  split
  · next none =>
    rw [List.isEmpty_iff] at none
    rw [none]
    exact .pure ⟨fun _ => .nil, nofun⟩
  · refine (Play.OnlyCalls.traceSection _).quietly fun _ => ?_
    refine (TextAdventure.checksPass_onlyCalls _ exit.checks).bind fun passed calls asked => ?_
    rw [← List.append_nil calls] at asked
    cases passed with
    | ok passed =>
      refine .pure ⟨?_, ?_⟩
      · rintro rfl
        exact asked.1 rfl
      · rintro rfl
        exact asked.2 (by simp)
    | error failure =>
      exact (Play.OnlyCalls.note _).quietly fun _ => .pure ⟨nofun, fun _ => asked.2 nofun⟩

theorem perform_onlyCalls :
    Play.OnlyCalls setting (exit.perform setting.journaled location) fun _ calls =>
      RanOnce { owner := location } exit.action calls := by
  unfold Exit.perform
  cases exit.action with
  | none => exact .pure .nothing
  | some action =>
    refine (Play.OnlyCalls.traceSection _).quietly fun _ => ?_
    refine (Play.OnlyCalls.execute action _).bind ?_
    rintro result _ rfl
    exact .pure (.once action result)

theorem move_run (scene : Scene story σ) :
    (exit.move setting location).run scene =
      if scene.world.here = location then
        let noted := ((traceExit setting exit.direction location "Moving").run scene).2
        ((), { noted with world := noted.world.locate story.hero exit.target })
      else ((), scene) := by
  unfold Exit.move
  rw [Play.run_bind, Play.run_world]
  dsimp only
  split
  · rfl
  · rfl

/-- Once the exit is free, a look at where the hero is decides. -/
theorem move_passage (somewhere : location ≠ 0) {calls : List Call}
    (free : exit.IsFree location calls) (scene : Scene story (σ × List Call)) :
    let after := ((exit.move setting.journaled location).run scene).2
    after.calls = scene.calls ∧
      ∃ left, scene.forget.LeadsTo setting [] left ∧
        exit.Passage location calls left after.forget := by
  intro after
  have after_eq : after = _ := congrArg Prod.snd (move_run _ location exit scene)
  by_cases still : scene.world.here = location
  · obtain ⟨_, traced, leads, rfl⟩ :=
      traceExit_onlyCalls setting location exit.direction "Moving" scene
    rw [if_pos still] at after_eq
    generalize ((traceExit setting.journaled exit.direction location "Moving").run scene).2 =
      left at *
    have same : left.forget.world.here = location :=
      (congrArg World.here leads.sameButLog.world_eq).trans still
    rw [after_eq]
    exact ⟨traced.trans (List.append_nil _), left.forget, leads,
      .leaves free same (World.moves_locate exit.target (same.trans_ne somewhere)) rfl⟩
  · rw [if_neg still] at after_eq
    rw [after_eq]
    exact ⟨rfl, scene.forget, .done _, .stays free still rfl⟩

theorem pass_run (scene : Scene story σ) :
    (exit.pass setting location).run scene =
      let checked := (exit.checksPass setting location).run scene
      if checked.1 then
        (exit.move setting location).run ((exit.perform setting location).run checked.2).2
      else ((), checked.2) := by
  unfold Exit.pass
  rw [Play.run_bind]
  dsimp only
  split <;> rfl

/-- **Passing through an exit is one of three things**: the hero is held back, leaves through it or
stays where he has been put meanwhile. -/
theorem pass_passage (somewhere : location ≠ 0) (scene : Scene story (σ × List Call)) :
    let after := ((exit.pass setting.journaled location).run scene).2
    ∃ calls left, after.calls = scene.calls ++ calls ∧ scene.forget.LeadsTo setting calls left ∧
      exit.Passage location calls left after.forget := by
  intro after
  obtain ⟨looked, lookedAt, leads, hold, fail⟩ :=
    checksPass_onlyCalls setting location exit scene
  have after_eq : after = _ := congrArg Prod.snd (pass_run _ location exit scene)
  dsimp only at after_eq
  generalize (exit.checksPass setting.journaled location).run scene = checked at *
  obtain ⟨passed, checked⟩ := checked
  cases passed with
  | false =>
    rw [after_eq]
    exact ⟨looked, checked.forget, lookedAt, leads, .heldBack (fail rfl) rfl⟩
  | true =>
    obtain ⟨acted, actedOn, leadsOn, ran⟩ :=
      perform_onlyCalls setting location exit checked
    have free : exit.IsFree location (looked ++ acted) := ⟨looked, acted, rfl, hold rfl, ran⟩
    obtain ⟨written, left, leadsToLeft, passage⟩ := move_passage setting location exit somewhere
      free ((exit.perform setting.journaled location).run checked).2
    dsimp only at after_eq
    rw [if_pos rfl] at after_eq
    rw [after_eq]
    have all := (leads.append leadsOn).append leadsToLeft
    rw [List.append_nil] at all
    refine ⟨looked ++ acted, left, ?_, all, passage⟩
    rw [written, actedOn, lookedAt, List.append_assoc]

end Exit

/-- A place with a way out is somewhere. -/
theorem Story.LeavesBy.ne_zero {location : InstanceId} {direction : WordCode} {exit : Exit}
    (leaves : story.LeavesBy location direction exit) : location ≠ 0 := by
  rintro rfl
  obtain ⟨place, found, -⟩ := leaves
  cases found

theorem go_run (setting : Setting story σ) (direction : WordCode) (scene : Scene story σ) :
    (go setting direction).run scene =
      match story.exit? scene.world.here direction with
      | none => (.error .noWay, scene)
      | some exit => (.ok (), ((exit.pass setting scene.world.here).run scene).2) := by
  unfold go
  rw [Play.run_bind, Play.run_world]
  dsimp only
  cases story.exit? scene.world.here direction <;> rfl

/-- **Going in a direction.**  Without an exit that way nothing changes and nothing is called.
Otherwise what happens between the calls of the interpreter, apart from notes in the log, is what
comes of the first exit that way.  Its checks are gone through in order.  If one fails, this is the
last one, its statements are run at most, and nobody is moved.  If all hold, the action, if there is
one, is run once; then, whatever has come of it, the hero is put at the target of the exit, and
nothing else is moved, unless he is elsewhere already.  The calls are those in the journal, which
does not change the run. -/
theorem passing_through (setting : Setting story σ) (direction : WordCode)
    (scene : Scene story σ) :
    let location := scene.world.here
    let ran := (go setting direction).run scene
    let noted := (go setting.journaled direction).run scene.journaled
    (noted.1, noted.2.forget) = ran ∧
    ((∀ exit, ¬ story.LeavesBy location direction exit) →
      ran = (.error .noWay, scene) ∧ noted.2.calls = []) ∧
    ∀ exit, story.LeavesBy location direction exit →
      ran.1 = .ok () ∧
        ∃ left, scene.LeadsTo setting noted.2.calls left ∧
          exit.Passage location noted.2.calls left ran.2 := by
  intro location ran noted
  -- what the calls were is in the journal, so the run that keeps one is looked at
  have same : (noted.1, noted.2.forget) = ran :=
    ((runsAlike_journaled setting).go direction).forget_journaled scene
  refine ⟨same, fun noWay => ?_, fun exit leaves => ?_⟩
  · have none : story.exit? scene.world.here direction = none := by
      rw [Option.eq_none_iff_forall_ne_some]
      intro exit found
      exact noWay exit (Story.exit?_eq_some_iff.mp found)
    have noted_eq : noted = (.error .noWay, scene.journaled) := by
      refine (go_run _ _ _).trans ?_
      rw [show scene.journaled.world = scene.world from rfl, none]
    rw [← same, noted_eq]
    exact ⟨rfl, rfl⟩
  · have found : story.exit? scene.world.here direction = some exit :=
      Story.exit?_eq_some_iff.mpr leaves
    have noted_eq : noted =
        (.ok (), ((exit.pass setting.journaled location).run scene.journaled).2) := by
      refine (go_run _ _ _).trans ?_
      rw [show scene.journaled.world = scene.world from rfl, found]
    obtain ⟨calls, left, written, leads, passage⟩ :=
      Exit.pass_passage setting location exit leaves.ne_zero scene.journaled
    rw [← same, noted_eq]
    refine ⟨rfl, left, ?_⟩
    dsimp only
    rw [written, Scene.calls_journaled, List.nil_append]
    exact ⟨leads, passage⟩

/-- A cellar with a ladder up to an attic.  Climbing it needs light and may break something. -/
def Story.ladder : Story where
  predefined := { entity := 1 }
  hero := 1
  classes := [{ code := 1, name := "entity", parent := 0 }]
  instances := [
    { code := 1, name := "hero", parent := 1, location := 2 },
    { code := 2, name := "cellar", parent := 1, location := 0,
      exits := [
        { direction := 5, checks := [⟨some 10, some 11⟩], action := some 20, target := 3 }] },
    { code := 3, name := "attic", parent := 1, location := 0 }]

/-- The action fails, and the hero gets to the attic nevertheless.  No exit lies in direction 6. -/
theorem passing_through_ladder :
    let setting : Setting .ladder Recording := ⟨.scripted _ { failing := [20] }, {}⟩
    let scene : Scene .ladder Recording := { world := .initial _, state := {} }
    let exit : Exit :=
      { direction := 5, checks := [⟨some 10, some 11⟩], action := some 20, target := 3 }
    let up := (go setting.journaled 5).run scene.journaled
    Story.ladder.LeavesBy 2 5 exit ∧ (∀ exit, ¬ Story.ladder.LeavesBy 2 6 exit) ∧
    (go setting 6).run scene = (.error .noWay, scene) ∧
    up.2.calls = [.evaluated 10 { owner := 2 } (.ok true),
      .executed 20 { owner := 2 } (.error .failed)] ∧
    (∃ left, scene.LeadsTo setting up.2.calls left ∧
      exit.Passage 2 up.2.calls left ((go setting 5).run scene).2) ∧
    ((go setting 5).run scene).2.world.here = 3 := by
  intro setting scene exit up
  have leaves : Story.ladder.LeavesBy 2 5 exit := Story.exit?_eq_some_iff.mp (by decide)
  have noWay : ∀ exit, ¬ Story.ladder.LeavesBy 2 6 exit := by
    intro exit wrong
    have none : Story.ladder.exit? 2 6 = none := by decide
    exact Option.some_ne_none exit ((Story.exit?_eq_some_iff.mpr wrong).symm.trans none)
  obtain ⟨-, blocked, -⟩ := passing_through setting 6 scene
  obtain ⟨-, -, passes⟩ := passing_through setting 5 scene
  exact ⟨leaves, noWay, (blocked noWay).1, rfl, (passes exit leaves).2, by decide⟩

end TextAdventure
