import TextAdventure.Proofs.Stages
/-!
# Parsed commands are valid

No stage sees to it that a command is in order.  A slot without an instance is 0 from the reading
on, references that are dropped become 0 too, and nothing asks whether an instance exists until the
tests of the restrictions, which nothing passes that does not exist.  The tests look at nothing but
classes, and a class can change only with the literals: a command whose restrictions create and
forget none is in order in the world that it is dispatched in (`ParsedCommand.Fits`).
-/

namespace TextAdventure

variable {story : Story} {σ : Type}

/-! ## What exists -/

namespace World

variable {world other : World story} {id : InstanceId}

theorem isInstance_of_bounds {number : Nat} (positive : 0 < number)
    (bound : number ≤ story.instances.length + world.literals.length) :
    world.isInstance number = true := by
  unfold isInstance
  rw [Bool.and_eq_true, bne_iff_ne, decide_eq_true_eq]
  exact ⟨Nat.ne_of_gt positive, bound⟩

theorem isInstance_of_literal? {number : Nat} (some : (world.literal? number).isSome = true) :
    world.isInstance number = true := by
  unfold literal? at some
  split at some
  · next beyond =>
    have inRange : number - (story.instances.length + 1) < world.literals.length :=
      (List.getElem?_eq_some_iff.mp (Option.eq_some_of_isSome some)).1
    exact isInstance_of_bounds (by omega) (by omega)
  · cases some

theorem isInstance_of_instance? (some : (story.instance? id).isSome = true) :
    world.isInstance id = true := by
  obtain ⟨number, inRange⟩ := bounds_of_entryAt (Option.eq_some_of_isSome some)
  exact isInstance_of_bounds (Nat.pos_of_ne_zero number) (by omega)

/-- What does not exist has no class. -/
theorem isInstance_of_classOf (some : world.classOf id ≠ 0) : world.isInstance id = true := by
  cases literal : world.literal? id with
  | some value => exact isInstance_of_literal? (by rw [literal]; rfl)
  | none =>
    refine isInstance_of_instance? ?_
    unfold classOf at some
    rw [literal] at some
    cases instance? : story.instance? id with
    | some => rfl
    | none =>
      rw [instance?] at some
      exact absurd rfl some

theorem isInstance_of_isA {cls : ClassId} (isA : world.isA id cls = true) :
    world.isInstance id = true := by
  refine isInstance_of_classOf fun none => ?_
  unfold World.isA at isA
  rw [none] at isA
  simp [Story.classChain, Story.lineage] at isA

theorem isInstance_of_meets {requirement : Requirement}
    (meets : world.meets requirement id = true) : world.isInstance id = true := by
  cases requirement with
  | ofClass cls => exact isInstance_of_isA meets
  | container =>
    have holds : ((story.instance? id).map (·.container != 0)).getD false = true := meets
    cases there : story.instance? id with
    | some => exact isInstance_of_instance? (by rw [there]; rfl)
    | none =>
      rw [there] at holds
      cases holds
  | integer => exact isInstance_of_isA meets
  | string => exact isInstance_of_isA meets

/-! What the tests look at depends on the literals alone. -/

section Literals

variable (same : world.literals = other.literals)

include same

theorem literal?_congr : world.literal? id = other.literal? id := by
  unfold literal?
  rw [same]

theorem isInstance_congr : world.isInstance id = other.isInstance id := by
  unfold isInstance
  rw [same]

theorem isA_congr (cls : ClassId) : world.isA id cls = other.isA id cls := by
  unfold isA classOf
  rw [literal?_congr same]

theorem meets_congr (requirement : Requirement) :
    world.meets requirement id = other.meets requirement id := by
  cases requirement with
  | ofClass cls => exact isA_congr same cls
  | container => rfl
  | integer => exact isA_congr same _
  | string => exact isA_congr same _

theorem isObject_congr : world.isObject id = other.isObject id := by
  unfold isObject
  rw [isInstance_congr same, isA_congr same]

end Literals

end World

/-! ## The tests of a parameter -/

section Tests

variable {restrictions : List Restriction} {number : Nat} {test : Test story}
  {world other : World story} {W : World story → Prop} {id : InstanceId}

/-- A parameter is tested for what its restrictions require or for being an object. -/
theorem eq_of_mem_parameterTests (member : test ∈ parameterTests restrictions number) :
    (∃ requirement, test = fun world id => world.meets requirement id) ∨
      test = World.isObject := by
  unfold parameterTests at member
  split at member
  · obtain ⟨restriction, -, rfl⟩ := List.mem_map.mp member
    exact Or.inl ⟨restriction.requirement, rfl⟩
  · exact Or.inr (List.mem_singleton.mp member)

/-- No parameter goes untested. -/
theorem parameterTests_ne_nil (restrictions : List Restriction) (number : Nat) :
    (parameterTests restrictions number : List (Test story)) ≠ [] := by
  unfold parameterTests
  split
  · next some =>
    obtain ⟨restriction, member, here⟩ := List.any_eq_true.mp some
    have tested : (restriction.test : Test story) ∈ restrictionTests restrictions number :=
      List.mem_map_of_mem (List.mem_filter.mpr ⟨member, here⟩)
    exact List.ne_nil_of_mem tested
  · exact List.cons_ne_nil _ _

theorem isInstance_of_test (member : test ∈ parameterTests restrictions number)
    (passes : test world id = true) : world.isInstance id = true := by
  rcases eq_of_mem_parameterTests member with ⟨requirement, rfl⟩ | rfl
  · exact World.isInstance_of_meets passes
  · exact (Bool.and_eq_true_iff.mp passes).1

theorem test_congr (member : test ∈ parameterTests restrictions number)
    (same : world.literals = other.literals) : test world id = test other id := by
  rcases eq_of_mem_parameterTests member with ⟨requirement, rfl⟩ | rfl
  · exact World.meets_congr same requirement
  · exact World.isObject_congr same

/-- Whatever passes the tests of a parameter exists and meets its restrictions, in every world with
the literals of those that it was tested in. -/
theorem Passes.valid (passes : Passes W (parameterTests restrictions number) id)
    (literals : ∀ tested, W tested → tested.literals = world.literals) :
    world.isInstance id = true ∧ world.admits restrictions number id = true := by
  have holds : ∀ test ∈ parameterTests restrictions number, test world id = true := by
    intro test member
    obtain ⟨tested, inW, pass⟩ := passes test member
    rw [← test_congr member (literals tested inW)]
    exact pass
  refine ⟨?_, List.all_eq_true.mpr holds⟩
  obtain ⟨test, member⟩ := List.exists_mem_of_ne_nil _ (parameterTests_ne_nil restrictions number)
  exact isInstance_of_test member (holds test member)

end Tests

/-! ## Bodies that keep the literals -/

namespace Interpreter

variable {interpreter : Interpreter story σ} {restrictions : List Restriction}
  {start world : World story}

/-- Running statements creates no literal and forgets none. -/
def KeepsLiterals (interpreter : Interpreter story σ) : Prop :=
  ∀ statements context world state,
    (interpreter.execute statements context world state).world.literals = world.literals

theorem KeepsLiterals.eq_of_refuses (keeps : interpreter.KeepsLiterals)
    (refuses : interpreter.Refuses restrictions start world) :
    world.literals = start.literals := by
  induction refuses with
  | start => rfl
  | execute restriction _ statements _ context state _ ih => rw [keeps, ih]

/-- A script can move instances, but not make any. -/
theorem keepsLiterals_scripted (story : Story) (script : Script) :
    (scripted story script).KeepsLiterals := by
  intro statements context world state
  show (script.moved statements world).1.literals = world.literals
  unfold Script.moved
  split <;> rfl

end Interpreter

/-! ## Commands -/

/-- A command is in order: it has a parameter for every position of its form, and whatever it has in
a slot exists and meets what the form demands of the parameter. -/
structure ParsedCommand.Fits (command : ParsedCommand) (found : FormMatch)
    (world : World story) : Prop where
  length_parameters : command.parameters.length = found.positions.length
  /-- A slot is 0 if and only if it is the one with the targets. -/
  zero_iff : ∀ slot : Nat, command.parameters[slot]? = some 0 ↔
    ∃ targets, command.multiple = some (slot, targets)
  targets_ne_nil : ∀ slot targets, command.multiple = some (slot, targets) → targets ≠ []
  parameter : ∀ (slot : Nat) id, command.parameters[slot]? = some id → id ≠ 0 →
    world.isInstance id = true ∧ world.admits found.restrictions (slot + 1) id = true
  target : ∀ slot targets, command.multiple = some (slot, targets) → ∀ id ∈ targets,
    world.isInstance id = true ∧ world.admits found.restrictions (slot + 1) id = true

theorem ParsedCommand.targets_ne_nil {verb : WordCode} {positions : List Position}
    {multiple : Option Nat} {command : ParsedCommand} {slot : Nat} {targets : List InstanceId}
    (made : ofPositions verb positions multiple = .ok command)
    (several : command.multiple = some (slot, targets)) : targets ≠ [] := by
  unfold ofPositions at made
  split at made
  · cases made
    cases several
  · split at made
    · cases made
    · next left =>
      cases made
      cases several
      exact left

section Settled

variable {setting : Setting story σ} {memory : Memory} {words : Words} {found : FormMatch}
  {scene : Scene story σ} {command : ParsedCommand}
  {stages : Stages setting memory words found scene command} {after : World story}

namespace Stages.Slot

variable {slot : Nat} {position : Position} (history : stages.Slot slot position)
  (literals : ∀ world, setting.interpreter.Judges found.restrictions stages.narrowed
    stages.judging.world world → world.literals = after.literals)

include literals

/-- A single instance has passed the tests of its parameter. -/
theorem parameter_valid (read : position.Read) (single : history.settled.multiple = false)
    {id : InstanceId} (parameter : command.parameters[slot]? = some id) :
    after.isInstance id = true ∧ after.admits found.restrictions (slot + 1) id = true := by
  rw [history.parameter_of_single read single, Option.some_inj] at parameter
  obtain ⟨same, -⟩ := history.narrows.single single
  obtain ⟨-, passes⟩ := history.judges.single (same ▸ single)
  rw [same, parameter] at passes
  exact passes.valid literals

/-- And so has each of several. -/
theorem target_valid (several : history.settled.multiple = true) {id : InstanceId}
    (target : id ∈ history.judged.instances) :
    after.isInstance id = true ∧ after.admits found.restrictions (slot + 1) id = true := by
  obtain ⟨-, passes⟩ :=
    history.judges.passes_of_mem (history.narrowed_multiple.trans several) target
  exact passes.valid literals

end Stages.Slot

/-- A command that has gone through the stages is in order. -/
theorem Stages.fits (stages : Stages setting memory words found scene command)
    (reads : ∀ position ∈ found.positions, position.Read)
    (literals : ∀ world, setting.interpreter.Judges found.restrictions stages.narrowed
      stages.judging.world world → world.literals = after.literals) :
    command.Fits found after := by
  have length := stages.length_parameters reads
  -- every slot has a position, and with it a history
  have histories : ∀ slot, slot < command.parameters.length → ∃ position ∈ found.positions,
      Nonempty (stages.Slot slot position) := by
    intro slot inRange
    have there := List.getElem?_eq_getElem (length ▸ inRange)
    exact ⟨_, List.mem_of_getElem? there, stages.slot reads there⟩
  have inRange : ∀ slot targets, command.multiple = some (slot, targets) →
      slot < command.parameters.length := by
    intro slot targets several
    obtain ⟨settled, there, -⟩ := stages.settled_of_multiple several
    rw [length, ← stages.length_settled reads]
    exact (List.getElem?_eq_some_iff.mp there).1
  have valid : ∀ (slot : Nat) id, command.parameters[slot]? = some id →
      (∃ targets, command.multiple = some (slot, targets)) ∨
        after.isInstance id = true ∧ after.admits found.restrictions (slot + 1) id = true := by
    intro slot id parameter
    obtain ⟨position, member, ⟨history⟩⟩ :=
      histories slot (List.getElem?_eq_some_iff.mp parameter).1
    by_cases several : history.settled.multiple = true
    · exact Or.inl (history.multiple_iff.mp several)
    · have single := Bool.eq_false_iff.mpr several
      exact Or.inr (history.parameter_valid literals (reads position member) single parameter)
  refine ⟨length, fun slot => ⟨fun zero => ?_, ?_⟩, ?_, fun slot id parameter nonzero => ?_, ?_⟩
  · rcases valid slot 0 zero with several | ⟨exists0, -⟩
    · exact several
    · -- there is no instance 0
      cases exists0
  · rintro ⟨targets, several⟩
    obtain ⟨position, -, ⟨history⟩⟩ := histories slot (inRange slot targets several)
    exact history.parameter_of_several (history.multiple_iff.mpr ⟨targets, several⟩)
  · intro slot targets several
    exact ParsedCommand.targets_ne_nil stages.makes several
  · rcases valid slot id parameter with ⟨targets, several⟩ | fits
    · obtain ⟨position, -, ⟨history⟩⟩ := histories slot (inRange slot targets several)
      rw [history.parameter_of_several (history.multiple_iff.mpr ⟨targets, several⟩)] at parameter
      exact absurd (Option.some_inj.mp parameter).symm nonzero
    · exact fits
  · intro slot targets several id target
    obtain ⟨position, -, ⟨history⟩⟩ := histories slot (inRange slot targets several)
    have isMultiple := history.multiple_iff.mpr ⟨targets, several⟩
    rw [history.targets_eq isMultiple] at several
    cases several
    exact history.target_valid literals isMultiple target

end Settled

/-- **Parsed commands are in order.**  Whatever the story and the line, a command that is read has a
parameter for every position of its form.  One slot at most has targets, where the grammar allows
several instances and where its position has settled to several; its parameter is 0, and no other
is.  Every parameter and every target exists and meets the restrictions of the form in the world
that the command is dispatched in, if running statements keeps the literals. -/
theorem parsed_fits {setting : Setting story σ} {memory : Memory} {words : Words}
    {cursor next : Nat} {scene : Scene story σ} {command : ParsedCommand}
    (keeps : setting.interpreter.KeepsLiterals)
    (parsed : ((parseCommand setting memory words cursor).run scene).1 = .ok (command, next)) :
    ∃ reading found settled, ReadAs setting memory words cursor scene reading found command ∧
      settlePositions scene.world words memory found.positions = .success settled ∧
      found.positions.length = reading.positions.length ∧
      settled.length = reading.positions.length ∧
      command.Fits found ((parseCommand setting memory words cursor).run scene).2.world ∧
      ∀ (slot : Nat) position, settled[slot]? = some position →
        (position.multiple = true ↔ ∃ targets, command.multiple = some (slot, targets)) ∧
        (position.multiple = true → position.flags.multiple = true) ∧
        ∃ table next, .parameter position.flags next ∈ story.elements table := by
  obtain ⟨reading, found, read⟩ := readAs_of_parseCommand parsed
  obtain ⟨settles, sameScene⟩ := read.settles
  obtain ⟨stages, sameWorld⟩ := exists_stages settles
  -- the restrictions lead from one world to another, but never to other literals
  have literals : ∀ {world}, setting.interpreter.Judges found.restrictions stages.narrowed
      stages.judging.world world → world.literals = stages.judging.world.literals :=
    fun judges => keeps.eq_of_refuses judges.1
  obtain ⟨after, -⟩ := restrictPositions_eq_success
    (refusalsWithin_judges setting found.restrictions stages.narrowed stages.judging.world)
    ⟨.start, fun _ => rfl⟩ stages.restricts
  have fits := stages.fits read.reads fun world judges =>
    (literals judges).trans (literals after).symm
  have length := stages.length_settled read.reads
  refine ⟨reading, found, stages.settled, read, stages.settles, read.length_positions,
    length.trans read.length_positions, ?_, fun slot position there => ?_⟩
  · rw [sameScene, sameWorld]
    exact fits
  · have inRange := (List.getElem?_eq_some_iff.mp there).1
    rw [length] at inRange
    obtain ⟨history⟩ := stages.slot read.reads (List.getElem?_eq_getElem inRange)
    obtain ⟨-, -, grammar⟩ := read.position_read (List.getElem?_eq_getElem inRange)
    have same := history.settled_at
    rw [there, Option.some_inj] at same
    subst same
    refine ⟨history.multiple_iff, allowed_of_settlePositions read.reads stages.settles
      (List.mem_of_getElem? there), ?_⟩
    rw [history.settles.flags_eq]
    exact grammar

/-- The number 5 and the apple on the scales: the number is a target like the apple, since it is an
entity. -/
theorem parsed_fits_fiveAndApple :
    let words : Words := ⟨[.known 0 "weigh", .value (.integer 5) 4, .known 1 "and",
      .known 3 "apple"], Story.scales.dictionary⟩
    let scene : Scene .scales Recording :=
      { world := { World.initial .scales with literals := [.integer 5] }, state := {} }
    let parsed := (parseCommand Setting.scales {} words 0).run scene
    let command : ParsedCommand := { verb := 1, parameters := [0], multiple := some (0, [4, 3]) }
    Setting.scales.interpreter.KeepsLiterals ∧ parsed.1 = .ok (command, 4) ∧
    ∃ reading found settled, ReadAs Setting.scales {} words 0 scene reading found command ∧
      settlePositions scene.world words {} found.positions = .success settled ∧
      found.positions.length = reading.positions.length ∧
      settled.length = reading.positions.length ∧
      command.Fits found parsed.2.world ∧
      ∀ (slot : Nat) position, settled[slot]? = some position →
        (position.multiple = true ↔ ∃ targets, command.multiple = some (slot, targets)) ∧
        (position.multiple = true → position.flags.multiple = true) ∧
        ∃ table next, .parameter position.flags next ∈ Story.scales.elements table := by
  intro words scene parsed command
  have keeps : Setting.scales.interpreter.KeepsLiterals := Interpreter.keepsLiterals_scripted _ _
  have read : parsed.1 = .ok (command, 4) := by decide +kernel
  exact ⟨keeps, read, parsed_fits keeps read⟩

end TextAdventure
