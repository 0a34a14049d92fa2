import TextAdventure.Command
/-!
# Steps that go alike

The same step is run twice, perhaps by two interpreters, from two scenes.  A relation between scenes
that the elementary steps keep is kept by every step made of them, and the two runs then give the
same result.  What a relation says is left open here: that one scene is the other with a journal,
that both have the same world, or, with one scene taken twice, that something holds of it.

The elementary steps fall into two groups.  `LooksAlike` has those that a command takes to find out
what it could do, `ActsAlike` those by which it does something or speaks.  `StepsAlike` adds what it
takes to run a command of any kind, and `RunsAlike` what it takes to run a line.
-/

namespace TextAdventure

variable {story : Story} {σ τ α β : Type} {R : Scene story σ → Scene story τ → Prop}

namespace Play

/-- From related scenes both steps give the same result and lead to related scenes. -/
def Alike (R : Scene story σ → Scene story τ → Prop) (step : Play story σ α)
    (other : Play story τ α) : Prop :=
  ∀ s t, R s t → (step.run s).1 = (other.run t).1 ∧ R (step.run s).2 (other.run t).2

namespace Alike

theorem pure (value : α) :
    Alike R (Pure.pure value : Play story σ α) (Pure.pure value : Play story τ α) := by
  intro s t related
  exact ⟨rfl, related⟩

theorem bind {step : Play story σ α} {other : Play story τ α} {next : α → Play story σ β}
    {onward : α → Play story τ β} (first : Alike R step other)
    (second : ∀ value, Alike R (next value) (onward value)) :
    Alike R (step >>= next) (other >>= onward) := by
  intro s t related
  obtain ⟨same, between⟩ := first s t related
  rw [run_bind, run_bind, ← same]
  exact second _ _ _ between

theorem map {step : Play story σ α} {other : Play story τ α} (f : α → β)
    (alike : Alike R step other) : Alike R (f <$> step) (f <$> other) := by
  intro s t related
  obtain ⟨same, after⟩ := alike s t related
  rw [run_map, run_map]
  exact ⟨congrArg f same, after⟩

theorem onlyIf (condition : Bool) {step : Play story σ Unit} {other : Play story τ Unit}
    (alike : condition = true → Alike R step other) :
    Alike R (Play.onlyIf condition step) (Play.onlyIf condition other) := by
  cases condition with
  | false => exact pure ()
  | true => exact alike rfl

end Alike

end Play

open Play (Alike)

/-- Looking at the world and evaluating a condition go alike. -/
structure LooksAlike (R : Scene story σ → Scene story τ → Prop) (setting : Setting story σ)
    (other : Setting story τ) : Prop where
  world : ∀ s t, R s t → s.world = t.world
  evaluate : ∀ condition context,
    Alike R (Play.evaluate setting condition context) (Play.evaluate other condition context)

/-- Running statements, speaking and writing to the log go alike. -/
structure ActsAlike (R : Scene story σ → Scene story τ → Prop) (setting : Setting story σ)
    (other : Setting story τ) : Prop where
  execute : ∀ statements context,
    Alike R (Play.execute setting statements context) (Play.execute other statements context)
  say : ∀ utterances, Alike R (Play.say utterances) (Play.say utterances)
  note : ∀ records, Alike R (Play.note records) (Play.note records)
  traceSection : ∀ title, Alike R (Play.traceSection setting title) (Play.traceSection other title)

variable {setting : Setting story σ} {other : Setting story τ}

theorem LooksAlike.lookAround (looks : LooksAlike R setting other) :
    Alike R (Play.world : Play story σ (World story)) Play.world := by
  intro s t related
  exact ⟨looks.world s t related, related⟩

/-! ## Checks -/

theorem executeAny_alike {statements : Option CodeAddress}
    (acts : statements.isSome = true → ActsAlike R setting other) (context : Context) :
    Alike R (Play.executeAny setting statements context)
      (Play.executeAny other statements context) := by
  cases statements with
  | none => exact Alike.pure _
  | some address => exact (acts rfl).execute address context

theorem holds_alike (looks : LooksAlike R setting other) (context : Context) (check : Check) :
    Alike R (check.holds setting context) (check.holds other context) := by
  unfold Check.holds
  cases check.condition with
  | none => exact Alike.pure _
  | some condition => exact looks.evaluate condition context

/-- Checks that are not to be told about need nothing but looking. -/
theorem checksPass_alike {telling : Bool} (looks : LooksAlike R setting other)
    (acts : telling = true → ActsAlike R setting other) (context : Context) (checks : List Check) :
    Alike R (checksPass setting context telling checks)
      (checksPass other context telling checks) := by
  induction checks with
  | nil => exact Alike.pure _
  | cons check rest ih =>
    refine (holds_alike looks context check).bind fun held => ?_
    rcases held with failure | _ | _
    · exact Alike.pure _
    · -- the statements of a check are left out unless the player is told
      refine (executeAny_alike ?_ context).bind fun told => ?_
      · intro some
        cases telling with
        | false => cases some
        | true => exact acts rfl
      · cases told <;> exact Alike.pure _
    · exact ih

theorem alternativeChecksPass_alike {telling : Bool} (looks : LooksAlike R setting other)
    (acts : telling = true → ActsAlike R setting other) (verb : WordCode)
    (parameters : List InstanceId) (alternative : Alternative) :
    Alike R (alternative.checksPass setting verb parameters telling)
      (alternative.checksPass other verb parameters telling) := by
  refine (Alike.onlyIf telling fun told => (acts told).traceSection _).bind fun _ => ?_
  refine (checksPass_alike looks acts _ _).bind fun passed => ?_
  cases passed with
  | ok passed => exact Alike.pure _
  | error failure =>
    exact (Alike.onlyIf telling fun told => (acts told).note _).bind fun _ => Alike.pure _

theorem allChecksPass_alike {telling : Bool} (looks : LooksAlike R setting other)
    (acts : telling = true → ActsAlike R setting other) (verb : WordCode)
    (parameters : List InstanceId) (alternatives : List Alternative) :
    Alike R (allChecksPass setting verb parameters telling alternatives)
      (allChecksPass other verb parameters telling alternatives) := by
  induction alternatives with
  | nil => exact Alike.pure _
  | cons alternative rest ih =>
    unfold allChecksPass
    split
    · exact ih
    · refine (alternativeChecksPass_alike looks acts verb parameters alternative).bind ?_
      intro passed
      cases passed with
      | true => exact ih
      | false => exact Alike.pure _

theorem possible_alike (looks : LooksAlike R setting other) (verb : WordCode)
    (parameters : List InstanceId) :
    Alike R (possible setting verb parameters) (possible other verb parameters) := by
  -- the player is told nothing, so that there is nothing to act on
  refine looks.lookAround.bind fun world => ?_
  refine (allChecksPass_alike looks (fun told => by cases told) verb parameters _).bind ?_
  intro passed
  exact Alike.pure _

/-! ## Bodies -/

theorem perform_alike (acts : ActsAlike R setting other) (verb : WordCode)
    (parameters : List InstanceId) (alternative : Alternative) :
    Alike R (alternative.perform setting verb parameters)
      (alternative.perform other verb parameters) := by
  unfold Alternative.perform
  split
  · exact Alike.pure _
  · split
    · exact Alike.pure _
    · refine (acts.traceSection _).bind fun _ => (acts.execute _ _).bind fun result => ?_
      cases result <;> exact Alike.pure _

theorem passRun_alike (acts : ActsAlike R setting other) (verb : WordCode)
    (parameters : List InstanceId) (pass : Pass) (alternatives : List Alternative) :
    Alike R (pass.run setting verb parameters alternatives)
      (pass.run other verb parameters alternatives) := by
  induction alternatives with
  | nil => exact Alike.pure _
  | cons alternative rest ih =>
    unfold Pass.run
    split
    · -- a failure ends both runs, and so does an ONLY
      refine (perform_alike acts verb parameters alternative).bind fun performed => ?_
      cases performed with
      | false => exact Alike.pure _
      | true =>
        simp only [Bool.not_true, Bool.false_eq_true, if_false]
        split
        · exact Alike.pure _
        · exact ih.bind fun _ => Alike.pure _
    · exact ih.bind fun _ => Alike.pure _

theorem performAll_alike (acts : ActsAlike R setting other) (verb : WordCode)
    (parameters : List InstanceId) (alternatives : List Alternative) :
    Alike R (performAll setting verb parameters alternatives)
      (performAll other verb parameters alternatives) := by
  refine (passRun_alike acts verb parameters _ _).bind fun before => ?_
  rcases before with ⟨left, _ | ending⟩
  · refine (passRun_alike acts verb parameters _ _).bind fun main => ?_
    rcases main with ⟨left, _ | ending⟩
    · exact (passRun_alike acts verb parameters _ _).bind fun _ => Alike.pure _
    · exact Alike.pure _
  · exact Alike.pure _

/-- **Dispatch goes alike.**  A relation that looking and acting keep is kept by a whole verb. -/
theorem dispatch_alike (looks : LooksAlike R setting other) (acts : ActsAlike R setting other)
    (verb : WordCode) (parameters : List InstanceId) :
    Alike R (dispatch setting verb parameters) (dispatch other verb parameters) := by
  refine looks.lookAround.bind fun world => ?_
  refine (allChecksPass_alike looks (fun _ => acts) verb parameters _).bind fun passed => ?_
  cases passed with
  | false => exact Alike.pure _
  | true =>
    simp only [if_true]
    split
    · exact (performAll_alike acts verb parameters _).bind fun _ => Alike.pure _
    · exact Alike.pure _

/-! ## Several targets -/

theorem dispatchTarget_alike (looks : LooksAlike R setting other)
    (acts : ActsAlike R setting other) (verb : WordCode) (parameters : List InstanceId)
    (slot : Nat) (ending : Dispatch) (target : InstanceId) :
    Alike R (dispatchTarget setting verb parameters slot ending target)
      (dispatchTarget other verb parameters slot ending target) := by
  refine looks.lookAround.bind fun world => (acts.say _).bind fun _ => ?_
  refine (dispatch_alike looks acts verb _).bind fun dispatched => ?_
  cases dispatched with
  | ok dispatched => exact Alike.pure _
  | error error => exact (acts.say _).bind fun _ => Alike.pure _

theorem dispatchEach_alike (looks : LooksAlike R setting other)
    (acts : ActsAlike R setting other) (verb : WordCode) (parameters : List InstanceId)
    (slot : Nat) (ending : Dispatch) (targets : List InstanceId) :
    Alike R (dispatchEach setting verb parameters slot ending targets)
      (dispatchEach other verb parameters slot ending targets) := by
  induction targets generalizing ending with
  | nil => exact Alike.pure _
  | cons target rest ih =>
    refine (dispatchTarget_alike looks acts verb parameters slot ending target).bind ?_
    intro ending
    exact (Alike.onlyIf _ fun _ => acts.say _).bind fun _ => ih ending

theorem dispatchTargets_alike (looks : LooksAlike R setting other)
    (acts : ActsAlike R setting other) (verb : WordCode) (parameters : List InstanceId)
    (multiple : Option (Nat × List InstanceId)) :
    Alike R (dispatchTargets setting verb parameters multiple)
      (dispatchTargets other verb parameters multiple) := by
  unfold dispatchTargets
  split
  · exact dispatch_alike looks acts verb parameters
  · exact dispatch_alike looks acts verb parameters
  · exact dispatch_alike looks acts verb _
  · split
    · exact (dispatchEach_alike looks acts verb parameters _ _ _).map _
    · exact dispatch_alike looks acts verb parameters

/-- A trial of all looks for every instance in turn. -/
theorem feasibleInstances_alike (looks : LooksAlike R setting other) (verb : WordCode)
    (parameters : List InstanceId) (slot : Nat) (ids : List InstanceId) :
    Alike R (feasibleInstances setting verb parameters slot ids)
      (feasibleInstances other verb parameters slot ids) := by
  induction ids with
  | nil => exact Alike.pure _
  | cons id rest ih =>
    have fits : Alike R (feasible setting verb parameters slot id)
        (feasible other verb parameters slot id) := by
      refine looks.lookAround.bind fun world => ?_
      split
      · exact possible_alike looks verb _
      · exact Alike.pure _
    exact fits.bind fun _ => ih.bind fun _ => Alike.pure _

theorem settleMultiple_alike (looks : LooksAlike R setting other) (words : Words)
    (verb : WordCode) (positions : List Position) :
    Alike R (settleMultiple setting words verb positions)
      (settleMultiple other words verb positions) := by
  unfold settleMultiple
  split
  · exact Alike.pure _
  · exact Alike.pure _
  · split
    · exact Alike.pure _
    · refine Alike.bind ?_ fun _ => Alike.pure _
      unfold Position.narrow
      split
      · exact (feasibleInstances_alike looks verb _ _ _).bind fun _ => Alike.pure _
      · exact Alike.pure _

/-! ## Restrictions -/

namespace Restriction

theorem refuse_alike (acts : ActsAlike R setting other) (context : Context)
    (restriction : Restriction) :
    Alike R (restriction.refuse setting context) (restriction.refuse other context) := by
  refine (acts.traceSection _).bind fun _ => ?_
  split
  · exact acts.say _
  · refine (acts.execute _ _).bind fun result => ?_
    cases result with
    | ok => exact Alike.pure _
    | error failure => exact acts.note _

theorem dropMembers_alike (looks : LooksAlike R setting other) (acts : ActsAlike R setting other)
    (context : Context) (silent : Bool) (restriction : Restriction)
    (references : List Reference) :
    Alike R (restriction.dropMembers setting context silent references)
      (restriction.dropMembers other context silent references) := by
  induction references with
  | nil => exact Alike.pure _
  | cons reference rest ih =>
    refine Alike.bind ?_ fun _ => ih.bind fun _ => Alike.pure _
    refine looks.lookAround.bind fun world => ?_
    split
    · exact Alike.pure _
    · refine (Alike.onlyIf _ fun _ => ?_).bind fun _ => Alike.pure _
      refine looks.lookAround.bind fun world => (acts.say _).bind fun _ => ?_
      exact (restriction.refuse_alike acts _).bind fun _ => acts.say _

theorem applyTo_alike (looks : LooksAlike R setting other) (acts : ActsAlike R setting other)
    (context : Context) (restriction : Restriction) (position : Position) :
    Alike R (restriction.applyTo setting context position)
      (restriction.applyTo other context position) := by
  unfold applyTo
  split
  · exact (restriction.dropMembers_alike looks acts context _ _).bind fun _ => Alike.pure _
  · refine looks.lookAround.bind fun world => ?_
    split
    · exact Alike.pure _
    · refine Alike.bind ?_ fun _ => Alike.pure _
      unfold reject
      split
      · exact (restriction.refuse_alike acts context).bind fun _ => Alike.pure _
      · exact (acts.traceSection _).bind fun _ => Alike.pure _

end Restriction

theorem applyRestrictions_alike (looks : LooksAlike R setting other)
    (acts : ActsAlike R setting other) (context : Context) (positions : List Position)
    (restrictions : List Restriction) :
    Alike R (applyRestrictions setting context positions restrictions)
      (applyRestrictions other context positions restrictions) := by
  induction restrictions generalizing positions with
  | nil => exact Alike.pure _
  | cons restriction rest ih =>
    unfold applyRestrictions
    split
    · exact (acts.note _).bind fun _ => ih positions
    · refine (restriction.applyTo_alike looks acts context _).bind fun applied => ?_
      obtain ⟨position, fault⟩ := applied
      cases fault with
      | some fault => exact Alike.pure _
      | none => exact ih _

theorem restrictPositions_alike (looks : LooksAlike R setting other)
    (acts : ActsAlike R setting other) (verb : WordCode) (restrictions : List Restriction)
    (positions : List Position) :
    Alike R (restrictPositions setting verb restrictions positions)
      (restrictPositions other verb restrictions positions) := by
  refine (applyRestrictions_alike looks acts _ _ restrictions).bind fun restricted => ?_
  exact looks.lookAround.bind fun world => Alike.pure _

/-! ## Reading a command -/

section Parsing

variable (traces : ∀ stage positions, Alike R (tracePositions setting stage positions)
  (tracePositions other stage positions))
include traces

theorem settleCommand_alike (looks : LooksAlike R setting other)
    (acts : ActsAlike R setting other) (memory : Memory) (words : Words) (found : FormMatch) :
    Alike R (settleCommand setting memory words found)
      (settleCommand other memory words found) := by
  refine (acts.note _).bind fun _ => (traces _ _).bind fun _ => looks.lookAround.bind ?_
  intro world
  split
  · exact Alike.pure _
  · refine (traces _ _).bind fun _ => (settleMultiple_alike looks words _ _).bind fun tried => ?_
    obtain ⟨⟨narrowed, multiple⟩, fault⟩ := tried
    cases fault with
    | some fault => exact Alike.pure _
    | none =>
      refine (restrictPositions_alike looks acts _ _ _).bind fun restricted => ?_
      obtain ⟨left, fault⟩ := restricted
      cases fault with
      | some fault => exact Alike.pure _
      | none => exact (traces _ _).bind fun _ => Alike.pure _

/-- **Reading goes alike.**  A relation that looking and acting keep is kept by the whole reading of
a command. -/
theorem parseCommand_alike (looks : LooksAlike R setting other)
    (acts : ActsAlike R setting other) (memory : Memory) (words : Words) (cursor : Nat) :
    Alike R (parseCommand setting memory words cursor)
      (parseCommand other memory words cursor) := by
  unfold parseCommand
  split
  · exact Alike.pure _
  · split
    · exact Alike.pure _
    · exact (settleCommand_alike traces looks acts memory words _).bind fun _ => Alike.pure _

end Parsing

theorem tracePositions_alike (tracing : setting.tracing = other.tracing)
    (acts : ActsAlike R setting other) (stage : String) (positions : List Position) :
    Alike R (tracePositions setting stage positions) (tracePositions other stage positions) := by
  unfold tracePositions
  rw [tracing]
  exact Alike.onlyIf _ fun _ => acts.note _

/-! ## Running a command -/

/-- All elementary steps of a command go alike: those that look and act, the notes on positions, and
those that move an instance. -/
structure StepsAlike (R : Scene story σ → Scene story τ → Prop) (setting : Setting story σ)
    (other : Setting story τ) : Prop where
  looks : LooksAlike R setting other
  acts : ActsAlike R setting other
  traces : ∀ stage positions,
    Alike R (tracePositions setting stage positions) (tracePositions other stage positions)
  move : ∀ s t, R s t → ∀ id destination,
    R { s with world := s.world.locate id destination }
      { t with world := t.world.locate id destination }

namespace StepsAlike

variable (steps : StepsAlike R setting other)
include steps

theorem exitChecksPass (location : InstanceId) (exit : Exit) :
    Alike R (exit.checksPass setting location) (exit.checksPass other location) := by
  unfold Exit.checksPass
  split
  · exact Alike.pure _
  · refine (steps.acts.traceSection _).bind fun _ => ?_
    refine (checksPass_alike steps.looks (fun _ => steps.acts) _ _).bind fun passed => ?_
    cases passed with
    | ok passed => exact Alike.pure _
    | error failure => exact (steps.acts.note _).bind fun _ => Alike.pure _

theorem exitPass (location : InstanceId) (exit : Exit) :
    Alike R (exit.pass setting location) (exit.pass other location) := by
  refine (steps.exitChecksPass location exit).bind fun passed => ?_
  cases passed with
  | false => exact Alike.pure _
  | true =>
    have performs : Alike R (exit.perform setting location) (exit.perform other location) := by
      unfold Exit.perform
      split
      · exact Alike.pure _
      · exact (steps.acts.traceSection _).bind fun _ =>
          (steps.acts.execute _ _).bind fun _ => Alike.pure _
    refine performs.bind fun _ => steps.looks.lookAround.bind fun world => ?_
    split
    · exact (steps.acts.traceSection _).bind fun _ =>
        fun s t related => ⟨rfl, steps.move s t related story.hero exit.target⟩
    · exact Alike.pure _

theorem go (direction : WordCode) :
    Alike R (TextAdventure.go setting direction) (TextAdventure.go other direction) := by
  refine steps.looks.lookAround.bind fun world => ?_
  dsimp only
  split
  · exact Alike.pure _
  · exact (steps.exitPass _ _).bind fun _ => Alike.pure _

theorem runMovement (words : Words) (cursor : Nat) :
    Alike R (TextAdventure.runMovement setting words cursor)
      (TextAdventure.runMovement other words cursor) := by
  unfold TextAdventure.runMovement
  dsimp only
  split
  · refine (steps.go _).bind fun gone => ?_
    cases gone <;> exact Alike.pure _
  · exact Alike.pure _

/-- **Commands go alike.**  A relation that the elementary steps keep is kept by a whole command,
whatever it is. -/
theorem runCommand (words : Words) (memory : Memory) (cursor : Nat) :
    Alike R (TextAdventure.runCommand setting words memory cursor)
      (TextAdventure.runCommand other words memory cursor) := by
  unfold TextAdventure.runCommand
  split
  · refine (parseCommand_alike steps.traces steps.looks steps.acts memory words cursor).bind ?_
    rintro (stop | ⟨command, next⟩)
    · exact Alike.pure _
    · refine (dispatchTargets_alike steps.looks steps.acts _ _ _).bind fun dispatched => ?_
      cases dispatched <;> exact Alike.pure _
  · split
    · exact (steps.runMovement words cursor).bind fun _ => Alike.pure _
    · exact Alike.pure _

end StepsAlike

/-! ## Running a line -/

/-- All elementary steps of a line go alike: besides those of its commands, one puts another world
in the place of the one that is there. -/
structure RunsAlike (R : Scene story σ → Scene story τ → Prop) (setting : Setting story σ)
    (other : Setting story τ) : Prop where
  looks : LooksAlike R setting other
  acts : ActsAlike R setting other
  traces : ∀ stage positions,
    Alike R (tracePositions setting stage positions) (tracePositions other stage positions)
  put : ∀ s t, R s t → ∀ world, R { s with world } { t with world }

namespace RunsAlike

variable (runs : RunsAlike R setting other)
include runs

theorem change (f : World story → World story) :
    Alike R (modify fun scene => { scene with world := f scene.world })
      (modify fun scene => { scene with world := f scene.world }) := by
  intro s t related
  refine ⟨rfl, ?_⟩
  show R { s with world := f s.world } { t with world := f t.world }
  rw [← runs.looks.world s t related]
  exact runs.put s t related _

theorem steps : StepsAlike R setting other where
  looks := runs.looks
  acts := runs.acts
  traces := runs.traces
  move s t related id destination :=
    (runs.change fun world => world.locate id destination) s t related |>.2

theorem go (direction : WordCode) :
    Alike R (TextAdventure.go setting direction) (TextAdventure.go other direction) :=
  runs.steps.go direction

end RunsAlike

end TextAdventure
