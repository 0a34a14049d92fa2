import TextAdventure.Proofs.Stages
/-!
# Which references a command keeps

A list of references is settled one by one, and what it settles to is in the command or has been
dropped by a restriction.  This is not so if a them word begins the list: the targets of the
previous command then take the place of the whole list, and a reference behind it is lost without
being looked at, unless it happens to be one of them.
-/

namespace TextAdventure

variable {story : Story} {σ : Type}

/-- The first reference of the position is a them word. -/
def Position.BeginsWithThem (position : Position) : Prop :=
  ∃ first, position.references.head? = some first ∧ first.kind = .them

/-- In some world that its statements can lead to, a restriction of the form does not admit the
instance in a slot. -/
def FormMatch.Drops (found : FormMatch) (interpreter : Interpreter story σ) (world : World story)
    (slot : Nat) (id : InstanceId) : Prop :=
  ∃ judging, interpreter.Refuses found.restrictions world judging ∧
    judging.admits found.restrictions (slot + 1) id = false

namespace Position

variable {world : World story} {words : Words} {memory : Memory} {position settled : Position}

/-- Behind a them word nothing is settled but what it recalls. -/
theorem Settles.mem_iff_recalled (settles : position.Settles world words memory settled)
    (notAll : position.all = false) (them : position.BeginsWithThem) {id : InstanceId}
    (some : id ≠ 0) : id ∈ settled.instances ↔ id ∈ memory.recalled world := by
  obtain ⟨first, begins, isThem⟩ := them
  rw [mem_instances, and_iff_right some]
  cases settles with
  | recalled =>
    constructor
    · rintro ⟨reference, member, rfl⟩
      obtain ⟨target, recalled, rfl⟩ := List.mem_map.mp member
      exact recalled
    · intro recalled
      exact ⟨_, List.mem_map_of_mem recalled, rfl⟩
  | everything _ _ all =>
    rw [notAll] at all
    cases all
  | oneByOne first' begins' notThem =>
    rw [begins, Option.some_inj] at begins'
    exact absurd isThem (begins' ▸ notThem)

/-- Without a them word every reference of a list is settled. -/
theorem Settles.settles_of_mem (settles : position.Settles world words memory settled)
    (notAll : position.all = false) (notThem : ¬ position.BeginsWithThem) {reference : Reference}
    (member : reference ∈ position.references) :
    ∃ id, reference.settlesTo? world words memory position.flags.omnipotent = some id ∧
      (id ≠ 0 → id ∈ settled.instances) := by
  cases settles with
  | recalled first begins them => exact absurd ⟨first, begins, them⟩ notThem
  | everything _ _ all =>
    rw [notAll] at all
    cases all
  | oneByOne _ _ _ _ references settled =>
    obtain ⟨reference', member', settles, -⟩ := forall₂_left settled member
    exact ⟨reference'.id, settles, fun some => mem_instances.mpr ⟨some, reference', member', rfl⟩⟩

end Position

section Slots

variable {setting : Setting story σ} {memory : Memory} {words : Words} {found : FormMatch}
  {scene : Scene story σ} {command : ParsedCommand}
  {stages : Stages setting memory words found scene command} {slot : Nat} {position : Position}

/-- If the several targets are a list, no code runs before the restrictions are applied. -/
theorem Stages.Slot.judging_world_of_list (history : stages.Slot slot position)
    (several : history.settled.multiple = true) (list : history.settled.all = false) :
    stages.judging.world = scene.world := by
  have lists : ∀ other ∈ stages.settled, other.multiple = true → other.all = false := by
    intro other member multiple
    rw [history.eq_of_settled several member multiple]
    exact list
  rw [stages.judging_world, settleMultiple_of_lists lists, stages.trial_world]

/-- What a list was settled to is in the command or was dropped. -/
theorem Stages.Slot.has_or_drops (history : stages.Slot slot position) (read : position.Read)
    (list : history.settled.all = false) {id : InstanceId}
    (settled : id ∈ history.settled.instances) :
    command.Has slot id ∨ found.Drops setting.interpreter scene.world slot id := by
  by_cases several : history.settled.multiple = true
  · refine (history.has_or_fails several list settled).imp_right ?_
    rintro ⟨test, member, world, judges, fails⟩
    refine ⟨world, history.judging_world_of_list several list ▸ judges.1, ?_⟩
    exact List.all_eq_false.mpr ⟨test, member, Bool.eq_false_iff.mp fails⟩
  · exact Or.inl (history.has_of_mem_settled read (Bool.eq_false_iff.mpr several) settled)

end Slots

/-- **A reference is kept unless it stands behind a them word.**  Take a reference and a slot that
the parameter map puts its position into.  Where no them word begins the position, the reference
settles, and its instance is in the slot or was dropped by a restriction.  Where one does, this
holds if the instance is among those that are recalled; any other instance is not in the slot. -/
theorem reference_kept {setting : Setting story σ} {memory : Memory} {words : Words}
    {cursor index slot : Nat} {scene : Scene story σ} {reading : FormReading} {found : FormMatch}
    {command : ParsedCommand} {position : Position} {reference : Reference}
    (read : ReadAs setting memory words cursor scene reading found command)
    (there : reading.positions[index]? = some position) (notAll : position.all = false)
    (member : reference ∈ position.references)
    (inRange : slot < reading.positions.length) (placed : reading.origin story slot = index) :
    (¬ position.BeginsWithThem → ∃ id,
      reference.settlesTo? scene.world words memory position.flags.omnipotent = some id ∧
      (id ≠ 0 → command.Has slot id ∨ found.Drops setting.interpreter scene.world slot id)) ∧
    (position.BeginsWithThem → ∀ id,
      reference.settlesTo? scene.world words memory position.flags.omnipotent = some id → id ≠ 0 →
      (id ∈ memory.recalled scene.world →
        command.Has slot id ∨ found.Drops setting.interpreter scene.world slot id) ∧
      (id ∉ memory.recalled scene.world → ¬ command.Has slot id)) := by
  obtain ⟨stages⟩ := read.stages
  have moved : found.positions[slot]? = some position := by
    rw [read.position_eq (read.length_positions ▸ inRange), placed, there]
  obtain ⟨-, asRead, -⟩ := read.position_read moved
  obtain ⟨history⟩ := stages.slot read.reads moved
  have list := history.settles.all_eq.trans notAll
  constructor
  · intro notThem
    obtain ⟨id, settles, settled⟩ := history.settles.settles_of_mem notAll notThem member
    exact ⟨id, settles, fun some => history.has_or_drops asRead list (settled some)⟩
  · intro them id _ some
    have recalled := history.settles.mem_iff_recalled notAll them some
    refine ⟨fun isRecalled => ?_, fun notRecalled has => ?_⟩
    · exact history.has_or_drops asRead list (recalled.mpr isRecalled)
    · exact notRecalled (recalled.mp (history.mem_settled_of_has asRead list some has))

section ThemAndLamp

/-- Drop them and lamp: the only slot of the form. -/
def Position.themAndLamp : Position where
  references := [{ kind := .them, first := 1, last := 1 }, { first := 3, last := 3 }]
  multiple := true
  flags := { multiple := true }

def FormReading.themAndLamp : FormReading where
  form := 1
  restrictions := []
  positions := [.themAndLamp]

/-- The key and the sword were dropped before. -/
theorem readAs_themAndLamp :
    ReadAs Setting.cave { previous := [4, 5] } (.ofCave [0, 4, 3, 5]) 0 Scene.cave .themAndLamp
      (FormReading.themAndLamp.remap Story.cave 1)
      { verb := 1, parameters := [0], multiple := some (0, [4, 5]) } :=
  readAs_of_toOption 1 _ 4 4 rfl rfl (by decide +kernel) rfl (by decide +kernel)

theorem reference_kept_themAndLamp :
    let command : ParsedCommand := { verb := 1, parameters := [0], multiple := some (0, [4, 5]) }
    let memory : Memory := { previous := [4, 5] }
    let words := Words.ofCave [0, 4, 3, 5]
    let scene := Scene.cave
    let reading := FormReading.themAndLamp
    let found := reading.remap Story.cave 1
    let position := Position.themAndLamp
    let lamp : Reference := { first := 3, last := 3 }
    ReadAs Setting.cave memory words 0 scene reading found command ∧
    reading.positions[0]? = some position ∧ position.all = false ∧ lamp ∈ position.references ∧
    0 < reading.positions.length ∧ reading.origin Story.cave 0 = 0 ∧
    (¬ position.BeginsWithThem → ∃ id,
      lamp.settlesTo? scene.world words memory position.flags.omnipotent = some id ∧
      (id ≠ 0 → command.Has 0 id ∨ found.Drops Setting.cave.interpreter scene.world 0 id)) ∧
    (position.BeginsWithThem → ∀ id,
      lamp.settlesTo? scene.world words memory position.flags.omnipotent = some id → id ≠ 0 →
      (id ∈ memory.recalled scene.world →
        command.Has 0 id ∨ found.Drops Setting.cave.interpreter scene.world 0 id) ∧
      (id ∉ memory.recalled scene.world → ¬ command.Has 0 id)) :=
  have member : { first := 3, last := 3 } ∈ Position.themAndLamp.references := by decide
  ⟨readAs_themAndLamp, rfl, rfl, member, by decide, rfl,
    reference_kept readAs_themAndLamp rfl rfl member (by decide) rfl⟩

/-- **The lamp is lost.**  It is a phrase that settles and it could be dropped, and yet it is not
among the targets. -/
theorem lamp_lost_behind_them :
    let command : ParsedCommand := { verb := 1, parameters := [0], multiple := some (0, [4, 5]) }
    let memory : Memory := { previous := [4, 5] }
    let words := Words.ofCave [0, 4, 3, 5]
    let scene := Scene.cave
    let reading := FormReading.themAndLamp
    let found := reading.remap Story.cave 1
    let position := Position.themAndLamp
    let lamp : Reference := { first := 3, last := 3 }
    ReadAs Setting.cave memory words 0 scene reading found command ∧
    reading.positions[0]? = some position ∧ position.all = false ∧ lamp ∈ position.references ∧
    reading.origin Story.cave 0 = 0 ∧
    lamp.settlesTo? scene.world words memory position.flags.omnipotent = some 3 ∧
    ¬ command.Has 0 3 ∧ ¬ found.Drops Setting.cave.interpreter scene.world 0 3 := by
  refine ⟨readAs_themAndLamp, rfl, rfl, by decide, rfl, by decide, ?_, ?_⟩
  · rintro (parameter | ⟨targets, several, member⟩)
    · cases parameter
    · cases several
      revert member
      decide
  · -- there are no restrictions whose statements could run
    rintro ⟨judging, refuses, fails⟩
    cases refuses with
    | start =>
      revert fails
      decide
    | execute restriction none => cases none

end ThemAndLamp

end TextAdventure
