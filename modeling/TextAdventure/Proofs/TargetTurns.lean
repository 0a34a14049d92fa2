import TextAdventure.Proofs.GuardedStages
import TextAdventure.Proofs.Journal
import TextAdventure.Proofs.Stages
/-!
# The turns of several targets

A command with several targets is dispatched for each of them.  A turn begins in the scene that the
one before has left, whatever has come of that: a check that fails, a body that fails or a verb that
cannot be applied to a target is a matter of this target only (`Turns`).  The calls to the
interpreter come in the same order, those for each target in a row (`TurnByTurn`).
-/

namespace TextAdventure

variable {story : Story} {σ : Type}

/-! ## Turns -/

section Turns

variable (setting : Setting story σ) (verb : WordCode) (parameters : List InstanceId) (slot : Nat)

/-- What comes of one target: it is announced, the verb is dispatched with it in the slot, and if
that ends with an error the player is told. -/
def takeTurn (scene : Scene story σ) (target : InstanceId) :
    Except CommandError Dispatch × Scene story σ :=
  let announced := { scene with
    transcript := scene.transcript ++ [.marker (scene.world.messageParameter target)] }
  let (dispatched, after) := (dispatch setting verb (parameters.set slot target)).run announced
  match dispatched with
  | .ok _ => (dispatched, after)
  | .error error => (dispatched, { after with transcript := after.transcript ++ error.report })

/-- The scene with a paragraph after what has been said. -/
def Scene.parted (scene : Scene story σ) : Scene story σ :=
  { scene with transcript := scene.transcript ++ [.paragraph] }

/-- The targets have their turns in order, the first one from a given scene on and each other one
from where the turn before has led to, behind a paragraph.  `before` has the scenes that they begin
in, and the last of them leads to the scene after. -/
structure Turns (targets : List InstanceId) (scene after : Scene story σ)
    (before : Nat → Scene story σ) (dispatched : List (Except CommandError Dispatch)) : Prop where
  length_dispatched : dispatched.length = targets.length
  first : before 0 = scene
  turn : ∀ i target, targets[i]? = some target →
    dispatched[i]? = some (takeTurn setting verb parameters slot (before i) target).1
  next : ∀ i target, targets[i]? = some target → i + 1 < targets.length →
    before (i + 1) = (takeTurn setting verb parameters slot (before i) target).2.parted
  last : ∀ i target, targets[i]? = some target → i + 1 = targets.length →
    after = (takeTurn setting verb parameters slot (before i) target).2

variable {setting verb parameters slot}

theorem Turns.single (scene : Scene story σ) (target : InstanceId) :
    let turn := takeTurn setting verb parameters slot scene target
    Turns setting verb parameters slot [target] scene turn.2 (fun _ => scene) [turn.1] := by
  intro turn
  refine ⟨rfl, rfl, ?_, ?_, ?_⟩
  · intro i other there
    cases i with
    | zero =>
      cases there
      rfl
    | succ i => cases there
  · intro i other _ more
    simp at more
  · intro i other there _
    obtain rfl := List.mem_singleton.mp (List.mem_of_getElem? there)
    rfl

/-- A turn before the others. -/
theorem Turns.cons {targets : List InstanceId} {scene after : Scene story σ}
    {before : Nat → Scene story σ} {dispatched : List (Except CommandError Dispatch)}
    (target : InstanceId) (some : targets ≠ [])
    (later : Turns setting verb parameters slot targets
      (takeTurn setting verb parameters slot scene target).2.parted after before dispatched) :
    Turns setting verb parameters slot (target :: targets) scene after
      (fun | 0 => scene | i + 1 => before i)
      ((takeTurn setting verb parameters slot scene target).1 :: dispatched) := by
  have positive := List.length_pos_of_ne_nil some
  refine ⟨congrArg (· + 1) later.length_dispatched, rfl, ?_, ?_, ?_⟩
  · intro i other there
    cases i with
    | zero =>
      cases there
      rfl
    | succ i => exact later.turn i other there
  · intro i other there more
    cases i with
    | zero =>
      cases there
      exact later.first
    | succ i => exact later.next i other there (Nat.lt_of_succ_lt_succ more)
  · intro i other there ends
    cases i with
    | zero =>
      rw [List.length_cons] at ends
      omega
    | succ i => exact later.last i other there (Nat.succ.inj ends)

end Turns

/-! ## How a command with several targets ends -/

/-- What a dispatch has met with, unless it is complete or its error has been reported. -/
def Dispatch.trouble? : Except CommandError Dispatch → Option Dispatch
  | .ok .completed => none
  | .ok dispatch => some dispatch
  | .error _ => none

/-- The last trouble of several dispatches. -/
def Dispatch.lastTrouble (dispatched : List (Except CommandError Dispatch)) : Dispatch :=
  ((dispatched.filterMap trouble?).getLast?).getD .completed

/-- How a command ends after one more dispatch. -/
def Dispatch.afterResult (ending : Dispatch) (result : Except CommandError Dispatch) : Dispatch :=
  (trouble? result).getD ending

theorem Dispatch.foldl_afterResult (ending : Dispatch)
    (dispatched : List (Except CommandError Dispatch)) :
    dispatched.foldl afterResult ending =
      ((dispatched.filterMap trouble?).getLast?).getD ending := by
  induction dispatched generalizing ending with
  | nil => rfl
  | cons result rest ih =>
    rw [List.foldl_cons, ih, List.filterMap_cons]
    unfold afterResult
    cases trouble? result with
    | none => rfl
    | some dispatch => rw [List.getLast?_cons, Option.getD_some, Option.getD_some]

section Dispatching

variable (setting : Setting story σ) (verb : WordCode) (parameters : List InstanceId) (slot : Nat)

theorem dispatchTarget_run (ending : Dispatch) (target : InstanceId) (scene : Scene story σ) :
    (dispatchTarget setting verb parameters slot ending target).run scene =
      (ending.afterResult (takeTurn setting verb parameters slot scene target).1,
        (takeTurn setting verb parameters slot scene target).2) := by
  unfold dispatchTarget takeTurn
  simp only [Play.run_bind, Play.run_world, Play.run_say]
  generalize (dispatch setting verb (parameters.set slot target)).run _ = ran
  obtain ⟨dispatched, after⟩ := ran
  rcases dispatched with error | dispatched
  · rfl
  · cases dispatched <;> rfl

/-- Going through the targets gives each of them its turn. -/
theorem dispatchEach_run (ending : Dispatch) {targets : List InstanceId} (some : targets ≠ [])
    (scene : Scene story σ) :
    ∃ before dispatched,
      Turns setting verb parameters slot targets scene
        ((dispatchEach setting verb parameters slot ending targets).run scene).2 before
        dispatched ∧
      ((dispatchEach setting verb parameters slot ending targets).run scene).1 =
        dispatched.foldl Dispatch.afterResult ending := by
  induction targets generalizing ending scene with
  | nil => exact absurd rfl some
  | cons target rest ih =>
    unfold dispatchEach
    rw [Play.run_bind, dispatchTarget_run, Play.run_bind]
    cases rest with
    | nil => exact ⟨_, _, .single scene target, rfl⟩
    | cons second rest =>
      obtain ⟨before, dispatched, turns, ends⟩ := ih _ (List.cons_ne_nil second rest)
        (takeTurn setting verb parameters slot scene target).2.parted
      exact ⟨_, _, turns.cons target (List.cons_ne_nil second rest), ends⟩

/-- Two targets or more are gone through, and the command ends well. -/
theorem dispatchTargets_run (inRange : slot < parameters.length) {targets : List InstanceId}
    (several : 2 ≤ targets.length) (scene : Scene story σ) :
    (dispatchTargets setting verb parameters (some (slot, targets))).run scene =
      let each := (dispatchEach setting verb parameters slot .completed targets).run scene
      (.ok each.1, each.2) := by
  rcases targets with _ | ⟨target, _ | ⟨second, rest⟩⟩
  · simp at several
  · simp at several
  · dsimp only [dispatchTargets]
    rw [if_pos inRange, Play.run_map]

end Dispatching

/-! ## One dispatch for each target -/

/-- What the interpreter was to know of the command. -/
def Call.context : Call → Context
  | .evaluated _ context _ => context
  | .executed _ context _ => context

/-- The call was made for a verb with these parameters. -/
def Call.IsFor (verb : WordCode) (parameters : List InstanceId) (call : Call) : Prop :=
  call.context.verb = verb ∧ call.context.parameters = parameters

/-- The calls were made for one target after the other, those for each in a row. -/
inductive TurnByTurn (verb : WordCode) (parameters : List InstanceId) (slot : Nat) :
    List InstanceId → List Call → Prop where
  | done : TurnByTurn verb parameters slot [] []
  | next {target : InstanceId} {targets : List InstanceId} {calls later : List Call}
      (turn : ∀ call ∈ calls, call.IsFor verb (parameters.set slot target))
      (rest : TurnByTurn verb parameters slot targets later) :
      TurnByTurn verb parameters slot (target :: targets) (calls ++ later)

section Dispatching

variable (setting : Setting story σ) (verb : WordCode) (parameters : List InstanceId)

theorem checksPass_isFor {context : Context} (telling : Bool) (checks : List Check)
    (isVerb : context.verb = verb) (isParameters : context.parameters = parameters) :
    Play.WritesOnly (checksPass setting.journaled context telling checks)
      (Call.IsFor verb parameters) := by
  induction checks with
  | nil => exact Play.WritesOnly.pure _
  | cons check rest ih =>
    refine Play.WritesOnly.bind ?_ fun held => ?_
    · unfold Check.holds
      split
      · exact Play.WritesOnly.pure _
      · refine (Play.writes_evaluate setting _ context).mono ?_
        rintro result _ rfl
        simp [Call.IsFor, Call.context, isVerb, isParameters]
    · rcases held with failure | _ | _
      · exact Play.WritesOnly.pure _
      · refine Play.WritesOnly.bind ?_ fun told => ?_
        · unfold Play.executeAny
          split
          · exact Play.WritesOnly.pure _
          · refine (Play.writes_execute setting _ context).mono ?_
            rintro result _ rfl
            simp [Call.IsFor, Call.context, isVerb, isParameters]
        · cases told <;> exact Play.WritesOnly.pure _
      · exact ih

theorem allChecksPass_isFor (telling : Bool) (alternatives : List Alternative) :
    Play.WritesOnly (allChecksPass setting.journaled verb parameters telling alternatives)
      (Call.IsFor verb parameters) := by
  induction alternatives with
  | nil => exact Play.WritesOnly.pure _
  | cons alternative rest ih =>
    unfold allChecksPass
    split
    · exact ih
    · refine Play.WritesOnly.bind ?_ fun passed => ?_
      · refine ((Play.writes_onlyIf telling (Play.writes_traceSection _ _)).toOnly _).bind ?_
        intro _
        refine (checksPass_isFor setting verb parameters telling _ rfl rfl).bind fun passed => ?_
        cases passed with
        | ok passed => exact Play.WritesOnly.pure _
        | error failure =>
          refine ((Play.writes_onlyIf telling (Play.writes_note _)).toOnly _).bind fun _ => ?_
          exact Play.WritesOnly.pure _
      · cases passed with
        | true => exact ih
        | false => exact Play.WritesOnly.pure _

theorem passRun_isFor (pass : Pass) (alternatives : List Alternative) :
    Play.WritesOnly (pass.run setting.journaled verb parameters alternatives)
      (Call.IsFor verb parameters) := by
  induction alternatives with
  | nil => exact Play.WritesOnly.pure _
  | cons alternative rest ih =>
    unfold Pass.run
    split
    · refine Play.WritesOnly.bind ?_ fun performed => ?_
      · unfold Alternative.perform
        split
        · exact Play.WritesOnly.pure _
        · split
          · exact Play.WritesOnly.pure _
          · refine ((Play.writes_traceSection _ _).toOnly _).bind fun _ => ?_
            refine Play.WritesOnly.bind ?_ fun result => ?_
            · refine (Play.writes_execute setting _ _).mono ?_
              rintro result _ rfl
              simp [Call.IsFor, Call.context, Alternative.context]
            · cases result <;> exact Play.WritesOnly.pure _
      · cases performed with
        | false => exact Play.WritesOnly.pure _
        | true =>
          simp only [Bool.not_true, Bool.false_eq_true, if_false]
          split
          · exact Play.WritesOnly.pure _
          · exact ih.bind fun _ => Play.WritesOnly.pure _
    · exact ih.bind fun _ => Play.WritesOnly.pure _

/-- Whatever a dispatched verb asks of the interpreter is asked for its own parameters. -/
theorem dispatch_isFor :
    Play.WritesOnly (dispatch setting.journaled verb parameters)
      (Call.IsFor verb parameters) := by
  refine (Play.writesOnly_world _).bind fun world => ?_
  refine (allChecksPass_isFor setting verb parameters true _).bind fun passed => ?_
  cases passed with
  | false => exact Play.WritesOnly.pure _
  | true =>
    simp only [if_true]
    split
    · refine Play.WritesOnly.bind ?_ fun _ => Play.WritesOnly.pure _
      refine (passRun_isFor setting verb parameters .before _).bind fun before => ?_
      rcases before with ⟨left, _ | ending⟩
      · refine (passRun_isFor setting verb parameters .main _).bind fun main => ?_
        rcases main with ⟨left, _ | ending⟩
        · refine (passRun_isFor setting verb parameters .after _).bind fun _ => ?_
          exact Play.WritesOnly.pure _
        · exact Play.WritesOnly.pure _
      · exact Play.WritesOnly.pure _
    · exact Play.WritesOnly.pure _

theorem dispatchEach_writes (slot : Nat) (ending : Dispatch) (targets : List InstanceId) :
    Play.Writes (dispatchEach setting.journaled verb parameters slot ending targets)
      fun _ calls => TurnByTurn verb parameters slot targets calls := by
  induction targets generalizing ending with
  | nil => exact Play.Writes.pure .done
  | cons target rest ih =>
    have turn : Play.WritesOnly
        (dispatchTarget setting.journaled verb parameters slot ending target)
        (Call.IsFor verb (parameters.set slot target)) := by
      refine (Play.writesOnly_world _).bind fun world => ?_
      refine ((Play.writes_say _).toOnly _).bind fun _ => ?_
      refine (dispatch_isFor setting verb _).bind fun dispatched => ?_
      cases dispatched with
      | ok dispatched => exact Play.WritesOnly.pure _
      | error error => exact ((Play.writes_say _).toOnly _).bind fun _ => Play.WritesOnly.pure _
    refine Play.Writes.bind turn fun ending calls turn => ?_
    have parted : Play.Writes (Play.onlyIf (!rest.isEmpty)
        (Play.say [.paragraph] : Play story (σ × List Call) Unit)) fun _ calls => calls = [] :=
      Play.writes_onlyIf _ (Play.writes_say _)
    refine parted.bind ?_
    rintro _ _ rfl
    exact (ih ending).mono fun _ later rest => .next turn rest

/-- The targets of a command have their turns one after the other. -/
theorem dispatchTargets_writes {slot : Nat} {targets : List InstanceId} (some : targets ≠ [])
    (inRange : slot < parameters.length) :
    Play.Writes (dispatchTargets setting.journaled verb parameters (.some (slot, targets)))
      fun _ calls => TurnByTurn verb parameters slot targets calls := by
  rcases targets with _ | ⟨target, _ | ⟨second, rest⟩⟩
  · exact absurd rfl some
  · refine (dispatch_isFor setting verb (parameters.set slot target)).mono ?_
    intro _ calls turn
    have only := TurnByTurn.next turn .done
    rw [List.append_nil] at only
    exact only
  · dsimp only [dispatchTargets]
    rw [if_pos inRange, map_eq_pure_bind]
    refine (dispatchEach_writes setting verb parameters slot .completed _).bind ?_
    intro ending calls turns
    refine Play.Writes.pure ?_
    rw [List.append_nil]
    exact turns

/-- What the interpreter is asked for comes in the same order. -/
theorem turns_of_dispatchTargets {slot : Nat} {targets : List InstanceId} (some : targets ≠ [])
    (inRange : slot < parameters.length) (start : Scene story σ) :
    TurnByTurn verb parameters slot targets
      ((dispatchTargets setting.journaled verb parameters (.some (slot, targets))).run
        start.journaled).2.calls := by
  obtain ⟨calls, after, turns⟩ :=
    dispatchTargets_writes setting verb parameters some inRange start.journaled
  rw [after, Scene.calls_journaled, List.nil_append]
  exact turns

end Dispatching

/-- **Each target has its turn.**  Whatever the interpreter does, a command with two targets or more
in one of its slots ends well.  Its targets have been announced and dispatched in order, each once
and from the scene that the one before has left, with nothing changed among the parameters but the
slot; an error is reported, and what comes of one target keeps no other one from its turn.  The
interpreter has been called for one target after the other.  One list of parameters for all turns,
in which each target takes the place of the one before, does the same. -/
theorem each_target_has_its_turn (setting : Setting story σ) (verb : WordCode)
    {parameters : List InstanceId} {slot : Nat} {targets : List InstanceId}
    (inRange : slot < parameters.length) (several : 2 ≤ targets.length)
    (scene : Scene story σ) :
    let command := some (slot, targets)
    let ran := (dispatchTargets setting verb parameters command).run scene
    let noted := (dispatchTargets setting.journaled verb parameters command).run scene.journaled
    (∃ before dispatched,
      Turns setting verb parameters slot targets scene ran.2 before dispatched ∧
      ran.1 = .ok (Dispatch.lastTrouble dispatched)) ∧
    ((noted.1, noted.2.forget) = ran ∧
      TurnByTurn verb parameters slot targets noted.2.calls) ∧
    Guarded.dispatchTargets setting verb parameters command =
      .sure (dispatchTargets setting verb parameters command) := by
  intro command ran noted
  have some : targets ≠ [] := List.ne_nil_of_length_pos (by omega)
  refine ⟨?_, ⟨dispatchTargets_journaled setting verb parameters command scene,
    turns_of_dispatchTargets setting verb parameters some inRange scene⟩,
    Guarded.dispatchTargets_eq command⟩
  obtain ⟨before, dispatched, turns, ends⟩ :=
    dispatchEach_run setting verb parameters slot .completed some scene
  have ran_eq : ran = _ := dispatchTargets_run setting verb parameters slot inRange several scene
  rw [ran_eq]
  rw [Dispatch.foldl_afterResult] at ends
  exact ⟨before, dispatched, turns, congrArg Except.ok ends⟩

/-- Dropping the sword, the lamp and the key: the check of the sword fails, and the others are
dropped nevertheless. -/
theorem each_target_has_its_turn_cave :
    let targets := [5, 3, 4]
    let command := some (0, targets)
    let ran := (dispatchTargets Setting.cave 1 [0] command).run Scene.cave
    let noted := (dispatchTargets Setting.cave.journaled 1 [0] command).run Scene.cave.journaled
    0 < [0].length ∧ 2 ≤ targets.length ∧
    ran.2.state.executed = [⟨100, [3], 0⟩, ⟨100, [4], 0⟩] ∧
    ran.2.transcript = [.marker (.ofInstance 5), .paragraph, .marker (.ofInstance 3), .paragraph,
      .marker (.ofInstance 4)] ∧
    (∃ before dispatched,
      Turns Setting.cave 1 [0] 0 targets Scene.cave ran.2 before dispatched ∧
      ran.1 = .ok (Dispatch.lastTrouble dispatched)) ∧
    ((noted.1, noted.2.forget) = ran ∧ TurnByTurn 1 [0] 0 targets noted.2.calls) ∧
    Guarded.dispatchTargets Setting.cave 1 [0] command =
      .sure (dispatchTargets Setting.cave 1 [0] command) := by
  intro targets command ran noted
  have inRange : 0 < [0].length := by decide
  have several : 2 ≤ targets.length := by decide
  exact ⟨inRange, several, by decide +kernel, by decide +kernel,
    each_target_has_its_turn Setting.cave 1 inRange several Scene.cave⟩

end TextAdventure
