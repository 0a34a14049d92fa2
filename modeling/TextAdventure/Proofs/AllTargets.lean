import TextAdventure.Proofs.Stages
/-!
# The targets of all

All starts out as everything here and is cut down four times: by a trial of the verb, by the
exceptions, by the restrictions of the form and by the requirement that something be left.  The
targets are what passes all of these, in the order of the instances, if checks do nothing but look.
-/

namespace TextAdventure

variable {story : Story} {σ : Type}

/-- One of the exceptions from all settles to the instance. -/
def Position.excepts (world : World story) (words : Words) (memory : Memory)
    (position : Position) (id : InstanceId) : Bool :=
  position.exceptions.any fun exception =>
    exception.settlesTo? world words memory position.flags.omnipotent == some id

namespace Position

variable {world : World story} {words : Words} {memory : Memory} {position settled : Position}

theorem instances_everythingHere (world : World story) (word : Nat) :
    ((world.everythingHere.map (Reference.settled word)).map (·.id)).filter (· != 0) =
      world.everythingHere := by
  rw [List.map_map, show (·.id) ∘ Reference.settled word = id from rfl, List.map_id,
    List.filter_eq_self]
  intro id member
  obtain ⟨bounds, -⟩ := List.mem_filter.mp member
  have positive := (List.mem_range'_1.mp bounds).1
  exact bne_iff_ne.mpr (Nat.ne_of_gt positive)

theorem contains_exceptions {exceptions settled : List Reference} {omnipotent : Bool}
    (settles : List.Forall₂ (Reference.Settles world words memory omnipotent) exceptions settled)
    (id : InstanceId) :
    (settled.map (·.id)).contains id =
      exceptions.any fun exception =>
        exception.settlesTo? world words memory omnipotent == some id := by
  induction settles with
  | nil => rfl
  | cons head _ ih =>
    rw [List.map_cons, List.contains_cons, List.any_cons, ih, head.1]
    congr 1
    exact Bool.beq_comm

/-- What a position that was filled by an all word settles to. -/
structure SettlesToAll (world : World story) (words : Words) (memory : Memory)
    (position settled : Position) : Prop where
  multiple : settled.multiple = true
  all : settled.all = true
  instances : settled.instances = world.everythingHere
  excepted : ∀ id, (settled.exceptions.map (·.id)).contains id =
    position.excepts world words memory id

theorem Settles.toAll (settles : position.Settles world words memory settled)
    (read : position.Read) (all : position.all = true) :
    position.SettlesToAll world words memory settled := by
  cases settles with
  | recalled first begins them _ =>
    have plain := read.plain_of_all all first (List.mem_of_head? begins)
    rw [plain] at them
    cases them
  | everything word exceptions all settled =>
    refine ⟨?_, all, instances_everythingHere world word, contains_exceptions settled⟩
    show position.multiple = true
    rw [read.multiple_eq, all, Bool.true_or]
  | oneByOne _ _ _ notAll =>
    rw [all] at notAll
    cases notAll

end Position

section Slots

variable {setting : Setting story σ} {memory : Memory} {words : Words} {found : FormMatch}
  {scene : Scene story σ} {command : ParsedCommand}
  {stages : Stages setting memory words found scene command} {slot : Nat} {position : Position}

/-- If checks are pure, the restrictions look at the world that the references were settled in. -/
theorem Stages.judging_world_eq (pure : setting.interpreter.ChecksPurely)
    (stages : Stages setting memory words found scene command) :
    stages.judging.world = scene.world := by
  rw [stages.judging_world, ← stages.trial_world]
  exact pure.keepsWorld.eq_of_tries (settleMultiple_tries _ .start)

/-- Nothing is said about what all swept up, so that all of it is judged in one world. -/
theorem Stages.Slot.judges_of_all (history : stages.Slot slot position)
    (several : history.settled.multiple = true) (all : history.settled.all = true) :
    history.narrowed.Judged (· = stages.judging.world)
      (parameterTests found.restrictions (slot + 1)) history.judged := by
  refine history.judges.mono fun world judges => judges.2 ?_
  intro other member multiple
  rw [history.eq_of_narrowed several member multiple, history.narrows.same]
  exact all

/-- What is left of all before the restrictions. -/
theorem Stages.Slot.narrowed_of_all (pure : setting.interpreter.ChecksPurely)
    (history : stages.Slot slot position)
    (toAll : position.SettlesToAll scene.world words memory history.settled) :
    history.narrowed.instances = (scene.world.everythingHere.filter fun id =>
      scene.world.reachable id && ((possible setting found.verb
        ((parameterVector stages.settled).set slot id)).run scene).1).filter fun id =>
          !position.excepts scene.world words memory id := by
  obtain ⟨-, narrow⟩ := history.narrows.several toAll.multiple
  rw [Position.narrow_of_all toAll.all] at narrow
  rw [Position.narrowAll_eq_success narrow, Position.instances_keep, Position.instances_keep,
    feasibleInstances_eq_filter pure _ stages.trial_world, toAll.instances,
    filter_contains_filter]
  refine List.filter_congr fun id _ => ?_
  rw [← toAll.excepted]

end Slots

/-- **All is everything that qualifies.**  Whatever the order in which the stages cut it down, the
targets of all are the instances, in ascending order, that are here and in sight, that the verb
could be applied to, that no exception settles to and that meet the restrictions on their
parameter. -/
theorem targets_of_all {setting : Setting story σ} {memory : Memory} {words : Words}
    {cursor slot : Nat} {scene : Scene story σ} {reading : FormReading}
    {found : FormMatch} {command : ParsedCommand} {targets : List InstanceId} {position : Position}
    (pure : setting.interpreter.ChecksPurely)
    (read : ReadAs setting memory words cursor scene reading found command)
    (several : command.multiple = some (slot, targets))
    (there : found.positions[slot]? = some position) (all : position.all = true) :
    targets = (List.range' 1 story.instanceMax).filter fun id =>
      scene.world.isHere id && scene.world.reachable id &&
        ((possible setting command.verb (command.parameters.set slot id)).run scene).1 &&
        !position.excepts scene.world words memory id &&
        scene.world.admits found.restrictions (slot + 1) id := by
  obtain ⟨stages⟩ := read.stages
  obtain ⟨history⟩ := stages.slot read.reads there
  have toAll := history.settles.toAll (read.position_read there).2.1 all
  -- the verb was tried with the parameters of the command
  obtain ⟨isVerb, -, -⟩ := ParsedCommand.ofPositions_eq_ok stages.makes
  rw [isVerb, stages.parameters_eq read.reads]
  have isTargets := history.targets_eq toAll.multiple
  rw [several] at isTargets
  cases isTargets
  have multiple := history.narrowed_multiple.trans toAll.multiple
  rw [(history.judges_of_all toAll.multiple toAll.all).instances_eq_filter multiple,
    history.narrowed_of_all pure toAll, stages.judging_world_eq pure]
  unfold World.everythingHere
  rw [List.filter_filter, List.filter_filter, List.filter_filter]
  refine List.filter_congr fun id _ => ?_
  unfold World.admits
  ac_rfl

/-- All except the lamp: the sword cannot be dropped and the hero is no object. -/
theorem targets_of_all_cave :
    let position : Position :=
      { references := [{ first := 1, last := 1 }], exceptions := [{ first := 3, last := 3 }]
        all := true, multiple := true, flags := { multiple := true } }
    let reading : FormReading := { form := 1, restrictions := [], positions := [position] }
    let found := reading.remap Story.cave 1
    let command : ParsedCommand := { verb := 1, parameters := [0], multiple := some (0, [4]) }
    let words := Words.ofCave [0, 1, 2, 5]
    let scene := Scene.cave
    ReadAs Setting.cave {} words 0 scene reading found command ∧
    [4] = (List.range' 1 Story.cave.instanceMax).filter fun id =>
      scene.world.isHere id && scene.world.reachable id &&
        ((possible Setting.cave command.verb (command.parameters.set 0 id)).run scene).1 &&
        !position.excepts scene.world words {} id &&
        scene.world.admits found.restrictions (0 + 1) id := by
  intro position reading found command words scene
  have read : ReadAs Setting.cave {} words 0 scene reading found command :=
    readAs_of_toOption 1 _ 4 4 rfl rfl (by decide +kernel) rfl (by decide +kernel)
  have there : found.positions[0]? = some position := rfl
  exact ⟨read, targets_of_all (Interpreter.checksPurely_scripted _ _) read rfl there rfl⟩

end TextAdventure
