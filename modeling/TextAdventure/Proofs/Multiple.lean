import TextAdventure.Command.Multiple
import TextAdventure.Interpreter.Scripted
import TextAdventure.Proofs.Settling
import TextAdventure.Proofs.Simulation
/-!
# What is left of several targets

A list of references only loses those without an instance, and nothing is run for it.  For all, the
checks of the verb are evaluated for one instance after the other, and an interpreter may do what it
likes while it evaluates them.  So in general an instance is only known to have been in sight when
its turn came (`Interpreter.Tries`); if checks are pure, the trial is a filter.
-/

namespace TextAdventure

variable {story : Story} {σ : Type}

/-! ## Interpreters that only look -/

namespace Interpreter

variable {interpreter : Interpreter story σ} {world : World story}

/-- Evaluating a condition leaves the world as it is. -/
def KeepsWorld (interpreter : Interpreter story σ) : Prop :=
  ∀ condition context world state,
    (interpreter.evaluate condition context world state).world = world

/-- The value of a condition depends on its context and the world alone, and the world stays as it
is. -/
structure ChecksPurely (interpreter : Interpreter story σ) : Prop where
  keepsWorld : interpreter.KeepsWorld
  steady : ∀ condition context world state state',
    (interpreter.evaluate condition context world state).result =
      (interpreter.evaluate condition context world state').result

/-- Evaluating a condition tells the player nothing. -/
def ChecksSilently (interpreter : Interpreter story σ) : Prop :=
  ∀ condition context world state,
    (interpreter.evaluate condition context world state).said = []

/-- The worlds that the evaluation of conditions can lead to. -/
inductive Tries (interpreter : Interpreter story σ) (world : World story) : World story → Prop where
  | start : Tries interpreter world world
  | evaluate {before : World story} (condition : CodeAddress) (context : Context) (state : σ) :
      Tries interpreter world before →
        Tries interpreter world (interpreter.evaluate condition context before state).world

/-- A script lays down what conditions are worth once and for all. -/
theorem checksPurely_scripted (story : Story) (script : Script) :
    (scripted story script).ChecksPurely :=
  ⟨fun _ _ _ _ => rfl, fun _ _ _ _ _ => rfl⟩

theorem checksSilently_scripted (story : Story) (script : Script) :
    (scripted story script).ChecksSilently :=
  fun _ _ _ _ => rfl

theorem KeepsWorld.eq_of_tries (keeps : interpreter.KeepsWorld) {tried : World story}
    (tries : interpreter.Tries world tried) : tried = world := by
  induction tries with
  | start => rfl
  | evaluate condition context state _ ih => rw [keeps, ih]

end Interpreter

variable {setting : Setting story σ} {words : Words} {verb : WordCode}
  {parameters : List InstanceId} {slot : Nat}

/-! ## What evaluating conditions keeps -/

/-- Evaluating any condition keeps something that holds of the scene. -/
def KeptByChecks (setting : Setting story σ) (P : Scene story σ → Prop) : Prop :=
  ∀ condition context scene, P scene → P ((Play.evaluate setting condition context).run scene).2

theorem keptByChecks_tries (setting : Setting story σ) (world : World story) :
    KeptByChecks setting fun scene => setting.interpreter.Tries world scene.world :=
  fun condition context scene tries => .evaluate condition context scene.state tries

theorem keptByChecks_transcript (silent : setting.interpreter.ChecksSilently)
    (said : List Utterance) : KeptByChecks setting fun scene => scene.transcript = said := by
  intro condition context scene same
  show scene.transcript ++
    (setting.interpreter.evaluate condition context scene.world scene.state).said = said
  rw [silent, List.append_nil, same]

variable {P : Scene story σ → Prop}

/-- A trial of the verb does nothing but evaluate conditions. -/
theorem possible_keeps (kept : KeptByChecks setting P) (verb : WordCode)
    (parameters : List InstanceId) {scene : Scene story σ} (holds : P scene) :
    P ((possible setting verb parameters).run scene).2 := by
  let R := fun s t : Scene story σ => s = t ∧ P s
  have looks : LooksAlike R setting setting := by
    refine ⟨fun s t related => congrArg Scene.world related.1, ?_⟩
    rintro condition context s _ ⟨rfl, holds⟩
    exact ⟨rfl, rfl, kept condition context s holds⟩
  exact (possible_alike looks verb parameters scene scene ⟨rfl, holds⟩).2.2

theorem possible_tries (verb : WordCode) (parameters : List InstanceId) {world : World story}
    {scene : Scene story σ} (tries : setting.interpreter.Tries world scene.world) :
    setting.interpreter.Tries world ((possible setting verb parameters).run scene).2.world :=
  possible_keeps (keptByChecks_tries setting world) verb parameters tries

/-- Where checks are pure, what a trial finds depends on the world alone. -/
theorem possible_of_world_eq (pure : setting.interpreter.ChecksPurely) {s t : Scene story σ}
    (same : s.world = t.world) :
    ((possible setting verb parameters).run s).1 =
      ((possible setting verb parameters).run t).1 := by
  let R := fun s t : Scene story σ => s.world = t.world
  have looks : LooksAlike R setting setting := by
    refine ⟨fun s t related => related, ?_⟩
    intro condition context s t related
    have same : s.world = t.world := related
    show (setting.interpreter.evaluate condition context s.world s.state).result =
        (setting.interpreter.evaluate condition context t.world t.state).result ∧
      (setting.interpreter.evaluate condition context s.world s.state).world =
        (setting.interpreter.evaluate condition context t.world t.state).world
    rw [same, pure.keepsWorld, pure.keepsWorld]
    exact ⟨pure.steady .., rfl⟩
  exact (possible_alike looks verb parameters s t same).1

/-! ## The trial of all -/

theorem feasible_run (id : InstanceId) (scene : Scene story σ) :
    (feasible setting verb parameters slot id).run scene =
      if scene.world.reachable id then (possible setting verb (parameters.set slot id)).run scene
      else (false, scene) := by
  unfold feasible
  rw [Play.run_bind, Play.run_world]
  dsimp only
  split <;> rfl

theorem feasibleInstances_keeps (kept : KeptByChecks setting P) (ids : List InstanceId)
    {scene : Scene story σ} (holds : P scene) :
    P ((feasibleInstances setting verb parameters slot ids).run scene).2 := by
  induction ids generalizing scene with
  | nil => exact holds
  | cons id rest ih =>
    simp only [feasibleInstances, Play.run_bind, Play.run_pure, feasible_run]
    split
    · exact ih (possible_keeps kept verb (parameters.set slot id) holds)
    · exact ih holds

/-- What passes the trial was in sight when its turn came. -/
theorem tried_of_feasibleInstances {world : World story} (ids : List InstanceId)
    (scene : Scene story σ) (tries : setting.interpreter.Tries world scene.world) :
    ∀ id ∈ ((feasibleInstances setting verb parameters slot ids).run scene).1,
      ∃ tried, setting.interpreter.Tries world tried ∧ tried.reachable id = true := by
  -- the scene moves on with each trial, but stays among those that trials lead to
  induction ids generalizing scene with
  | nil => exact List.forall_mem_nil _
  | cons id rest ih =>
    simp only [feasibleInstances, Play.run_bind, Play.run_pure, feasible_run]
    by_cases inSight : scene.world.reachable id = true
    · simp only [if_pos inSight]
      have others := ih _ (possible_tries verb (parameters.set slot id) tries)
      intro other member
      -- this one was in sight before its own trial, whatever that came to
      split at member
      · rcases List.mem_cons.mp member with rfl | member
        · exact ⟨scene.world, tries, inSight⟩
        · exact others other member
      · exact others other member
    · simp only [if_neg inSight, Bool.false_eq_true, if_false]
      exact ih scene tries

/-- Where checks are pure, the trial is a filter. -/
theorem feasibleInstances_eq_filter (pure : setting.interpreter.ChecksPurely)
    (ids : List InstanceId) {s t : Scene story σ} (same : s.world = t.world) :
    ((feasibleInstances setting verb parameters slot ids).run s).1 =
      ids.filter fun id =>
        t.world.reachable id && ((possible setting verb (parameters.set slot id)).run t).1 := by
  induction ids generalizing s with
  | nil => rfl
  | cons id rest ih =>
    simp only [feasibleInstances, Play.run_bind, Play.run_pure, feasible_run]
    rw [List.filter_cons, ← same]
    by_cases inSight : s.world.reachable id = true
    · -- the next trial finds the world as this one did
      have kept : ((possible setting verb (parameters.set slot id)).run s).2.world = t.world := by
        rw [pure.keepsWorld.eq_of_tries (possible_tries _ _ .start), same]
      rw [if_pos inSight, inSight, Bool.true_and, ih kept, ← possible_of_world_eq pure same, same]
    · rw [if_neg inSight, ih same, Bool.eq_false_iff.mpr inSight, Bool.false_and, same]

/-! ## Positions that are cut down -/

namespace Position

variable {position left : Position} {kept : List InstanceId}

theorem instances_keep (admits : InstanceId → Bool) (position : Position) :
    (position.keep admits).instances = position.instances.filter admits := by
  unfold keep instances
  rw [List.filter_map, List.filter_map, List.filter_map, List.filter_filter, List.filter_filter]
  congr 1
  refine List.filter_congr fun r _ => ?_
  exact Bool.and_comm _ _

theorem narrowAll_eq_success (narrowed : position.narrowAll words kept = .success left) :
    left = (position.keep kept.contains).keep fun id =>
      !(position.exceptions.map (·.id)).contains id := by
  unfold narrowAll at narrowed
  dsimp only at narrowed
  split at narrowed
  · cases narrowed
  · split at narrowed
    · cases narrowed
    · cases narrowed
      rfl

theorem narrowList_eq_success (narrowed : position.narrowList = .success left) :
    left = position.compress := by
  unfold narrowList at narrowed
  dsimp only at narrowed
  split at narrowed
  · cases narrowed
  · cases narrowed
    rfl

/-- What is left of a list does not depend on any check. -/
theorem narrow_of_list (list : position.all = false) (positions : List Position) (index : Nat)
    (scene : Scene story σ) :
    (position.narrow setting words verb positions index).run scene =
      (position.narrowList, scene) := by
  unfold narrow
  rw [list]
  rfl

theorem narrow_of_all (all : position.all = true) (positions : List Position) (index : Nat)
    (scene : Scene story σ) :
    (position.narrow setting words verb positions index).run scene =
      (position.narrowAll words
        ((feasibleInstances setting verb (parameterVector positions) index
          position.instances).run scene).1,
        ((feasibleInstances setting verb (parameterVector positions) index
          position.instances).run scene).2) := by
  unfold narrow
  rw [all]
  rfl

/-- Only references go. -/
theorem eq_of_narrow {positions : List Position} {index : Nat} {scene : Scene story σ}
    (narrowed : ((position.narrow setting words verb positions index).run scene).1 =
      .success left) : left = { position with references := left.references } := by
  by_cases all : position.all = true
  · rw [narrow_of_all all] at narrowed
    rw [narrowAll_eq_success narrowed]
    rfl
  · rw [narrow_of_list (Bool.eq_false_iff.mpr all)] at narrowed
    rw [narrowList_eq_success narrowed]
    rfl

/-- A list that is cut down keeps its instances. -/
theorem instances_of_narrow_list (list : position.all = false) {positions : List Position}
    {index : Nat} {scene : Scene story σ}
    (narrowed : ((position.narrow setting words verb positions index).run scene).1 =
      .success left) : left.instances = position.instances := by
  rw [narrow_of_list list] at narrowed
  rw [narrowList_eq_success narrowed, instances_compress]

theorem mem_of_narrow {positions : List Position} {index : Nat} {scene : Scene story σ}
    (narrowed : ((position.narrow setting words verb positions index).run scene).1 =
      .success left) {id : InstanceId} (member : id ∈ left.instances) :
    id ∈ position.instances := by
  cases all : position.all with
  | true =>
    rw [narrow_of_all all] at narrowed
    rw [narrowAll_eq_success narrowed, instances_keep, instances_keep] at member
    exact (List.mem_filter.mp (List.mem_filter.mp member).1).1
  | false =>
    rw [instances_of_narrow_list all narrowed] at member
    exact member

theorem narrow_keeps (kept : KeptByChecks setting P) (positions : List Position) (index : Nat)
    {scene : Scene story σ} (holds : P scene) :
    P ((position.narrow setting words verb positions index).run scene).2 := by
  cases all : position.all with
  | true =>
    rw [narrow_of_all all]
    exact feasibleInstances_keeps kept _ holds
  | false =>
    rw [narrow_of_list all]
    exact holds

end Position

/-! ## The position with several targets -/

theorem mem_multiplePlaces {positions : List Position} {k : Nat} :
    k ∈ multiplePlaces positions ↔
      ∃ position, positions[k]? = some position ∧ position.multiple = true := by
  unfold multiplePlaces
  rw [List.mem_map]
  constructor
  · rintro ⟨⟨position, index⟩, member, rfl⟩
    obtain ⟨member, multiple⟩ := List.mem_filter.mp member
    exact ⟨position, List.mk_mem_zipIdx_iff_getElem?.mp member, multiple⟩
  · rintro ⟨position, found, multiple⟩
    exact ⟨(position, k), List.mem_filter.mpr
      ⟨List.mk_mem_zipIdx_iff_getElem?.mpr found, multiple⟩, rfl⟩

theorem multiplePosition_eq_none {positions : List Position}
    (none : multiplePosition positions = .ok none) :
    ∀ position ∈ positions, position.multiple = false := by
  unfold multiplePosition at none
  split at none
  · next nowhere =>
    intro position member
    obtain ⟨k, found⟩ := List.mem_iff_getElem?.mp member
    refine Bool.eq_false_iff.mpr fun multiple => ?_
    have here := mem_multiplePlaces.mpr ⟨position, found, multiple⟩
    rw [nowhere] at here
    cases here
  · cases none
  · cases none

/-- The place of the only position with several targets, and of no other. -/
theorem multiplePosition_eq_some {positions : List Position} {index : Nat}
    (some : multiplePosition positions = .ok (some index)) (k : Nat) :
    k = index ↔ ∃ position, positions[k]? = .some position ∧ position.multiple = true := by
  unfold multiplePosition at some
  split at some
  · cases some
  · next only =>
    cases some
    rw [← mem_multiplePlaces, only, List.mem_singleton]
  · cases some

/-- The settling of several targets, once their place is known. -/
theorem settleMultiple_run {positions : List Position} {index : Nat} {several : Position}
    (only : multiplePosition positions = .ok (some index))
    (there : positions[index]? = some several) (scene : Scene story σ) :
    (settleMultiple setting words verb positions).run scene =
      ((((several.narrow setting words verb positions index).run scene).1.map
          fun position => (positions.set index position, some index)),
        ((several.narrow setting words verb positions index).run scene).2) := by
  unfold settleMultiple
  rw [only]
  dsimp only
  rw [there]
  rfl

/-- The two ways in which several targets are settled without a fault: there are none, or one
position is cut down. -/
theorem settleMultiple_cases {positions narrowed : List Position} {multiple : Option Nat}
    {scene : Scene story σ}
    (success : ((settleMultiple setting words verb positions).run scene).1 =
      .success (narrowed, multiple)) :
    (multiplePosition positions = .ok none ∧ narrowed = positions ∧ multiple = none) ∨
    ∃ index several left, multiplePosition positions = .ok (some index) ∧
      positions[index]? = some several ∧
      ((several.narrow setting words verb positions index).run scene).1 = .success left ∧
      narrowed = positions.set index left ∧ multiple = some index := by
  cases place : multiplePosition positions with
  | error fault =>
    unfold settleMultiple at success
    rw [place] at success
    cases success
  | ok place' =>
    cases place' with
    | none =>
      left
      unfold settleMultiple at success
      rw [place] at success
      cases success
      exact ⟨rfl, rfl, rfl⟩
    | some index =>
      right
      obtain ⟨several, there, -⟩ := (multiplePosition_eq_some place index).mp rfl
      rw [settleMultiple_run place there] at success
      dsimp only at success
      obtain ⟨left, narrow, same⟩ := Attempt.map_eq_success.mp success
      cases same
      exact ⟨index, several, left, rfl, there, narrow, rfl, rfl⟩

/-- What the settling of several targets makes of the position at a place. -/
structure Position.Narrows (setting : Setting story σ) (words : Words) (verb : WordCode)
    (positions : List Position) (scene : Scene story σ) (multiple : Option Nat) (index : Nat)
    (position left : Position) : Prop where
  /-- A position with one target stays as it is. -/
  single : position.multiple = false → left = position ∧ multiple ≠ some index
  several : position.multiple = true → multiple = some index ∧
    ((position.narrow setting words verb positions index).run scene).1 = .success left

theorem Position.Narrows.same {positions : List Position} {scene : Scene story σ}
    {multiple : Option Nat} {index : Nat} {position left : Position}
    (narrows : position.Narrows setting words verb positions scene multiple index left) :
    left = { position with references := left.references } := by
  by_cases several : position.multiple = true
  · exact Position.eq_of_narrow (narrows.several several).2
  · rw [(narrows.single (Bool.eq_false_iff.mpr several)).1]

/-- **Only one position is cut down.**  If several targets are settled without a fault, then every
position keeps its place, and none but the one with several targets changes. -/
theorem settleMultiple_eq_success {positions narrowed : List Position} {multiple : Option Nat}
    {scene : Scene story σ}
    (success : ((settleMultiple setting words verb positions).run scene).1 =
      .success (narrowed, multiple)) {k : Nat} {position : Position}
    (found : positions[k]? = some position) :
    ∃ left, narrowed[k]? = some left ∧
      position.Narrows setting words verb positions scene multiple k left := by
  rcases settleMultiple_cases success with
    ⟨none, rfl, rfl⟩ | ⟨index, several, left, only, there, narrow, rfl, rfl⟩
  · have single := multiplePosition_eq_none none position (List.mem_of_getElem? found)
    refine ⟨position, found, fun _ => ⟨rfl, by simp⟩, fun several => ?_⟩
    rw [single] at several
    cases several
  · have placed := multiplePosition_eq_some only
    by_cases here : k = index
    · -- the position that is cut down
      subst here
      rw [there] at found
      cases found
      obtain ⟨_, again, isMultiple⟩ := (placed k).mp rfl
      rw [there] at again
      cases again
      refine ⟨left, ?_, fun single => ?_, fun _ => ⟨rfl, narrow⟩⟩
      · exact List.getElem?_set_self (List.getElem?_eq_some_iff.mp there).1
      · rw [isMultiple] at single
        cases single
    · -- another one cannot have several targets
      refine ⟨position, ?_, fun _ => ⟨rfl, fun same => ?_⟩, fun isMultiple => ?_⟩
      · rw [List.getElem?_set_ne (Ne.symm here), found]
      · exact here (Option.some.inj same).symm
      · exact absurd ((placed k).mpr ⟨position, found, isMultiple⟩) here

theorem length_of_settleMultiple {positions narrowed : List Position} {multiple : Option Nat}
    {scene : Scene story σ}
    (success : ((settleMultiple setting words verb positions).run scene).1 =
      .success (narrowed, multiple)) : narrowed.length = positions.length := by
  rcases settleMultiple_cases success with ⟨-, rfl, -⟩ | ⟨_, _, _, -, -, -, rfl, -⟩
  · rfl
  · exact List.length_set

/-- Nothing but conditions is evaluated. -/
theorem settleMultiple_keeps (kept : KeptByChecks setting P) (positions : List Position)
    {scene : Scene story σ} (holds : P scene) :
    P ((settleMultiple setting words verb positions).run scene).2 := by
  unfold settleMultiple
  split
  · exact holds
  · exact holds
  · split
    · exact holds
    · exact Position.narrow_keeps kept positions _ holds

theorem settleMultiple_tries (positions : List Position) {world : World story}
    {scene : Scene story σ} (tries : setting.interpreter.Tries world scene.world) :
    setting.interpreter.Tries world
      ((settleMultiple setting words verb positions).run scene).2.world :=
  settleMultiple_keeps (keptByChecks_tries setting world) positions tries

/-- Unless all has several targets, not even that is done. -/
theorem settleMultiple_of_lists {positions : List Position}
    (lists : ∀ position ∈ positions, position.multiple = true → position.all = false)
    (scene : Scene story σ) :
    ((settleMultiple setting words verb positions).run scene).2 = scene := by
  cases place : multiplePosition positions with
  | error fault =>
    unfold settleMultiple
    rw [place]
    rfl
  | ok place' =>
    cases place' with
    | none =>
      unfold settleMultiple
      rw [place]
      rfl
    | some index =>
      obtain ⟨several, there, multiple⟩ := (multiplePosition_eq_some place index).mp rfl
      rw [settleMultiple_run place there]
      have list := lists several (List.mem_of_getElem? there) multiple
      exact congrArg Prod.snd (Position.narrow_of_list list positions index scene)

end TextAdventure
