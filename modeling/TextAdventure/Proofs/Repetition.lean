import TextAdventure.Proofs.AllTargets
import TextAdventure.Proofs.Recalling
import TextAdventure.Proofs.TargetTurns
import Mathlib.Data.List.Duplicate
/-!
# Targets that are there twice

All stands for instances that differ, and so does a them word as long as the targets that it recalls
do; no stage makes two instances of one.  A list is different: two of its references may settle to
the same instance, and nothing takes one of them away.  Such an instance is a target twice, and the
verb is dispatched for it twice (`named_twice_of_target_twice`).
-/

namespace TextAdventure

variable {story : Story} {σ : Type}

/-! ## What no stage repeats -/

theorem Sifted.sublist {W : World story → Prop} {tests : List (Test story)}
    {ids left : List InstanceId} (sifted : Sifted W tests ids left) : left.Sublist ids := by
  induction sifted with
  | nil => exact List.Sublist.slnil
  | kept _ _ ih => exact ih.cons_cons _
  | dropped _ _ ih => exact ih.cons _

theorem World.nodup_everythingHere (world : World story) : world.everythingHere.Nodup := by
  apply List.Nodup.filter
  exact List.nodup_range'

namespace Position

variable {world : World story} {words : Words} {memory : Memory} {position settled left : Position}

/-- Cutting down several targets moves none and repeats none. -/
theorem instances_sublist_of_narrow {setting : Setting story σ} {verb : WordCode}
    {positions : List Position} {index : Nat} {scene : Scene story σ}
    (narrowed : ((position.narrow setting words verb positions index).run scene).1 =
      .success left) : left.instances.Sublist position.instances := by
  by_cases all : position.all = true
  · rw [narrow_of_all all] at narrowed
    rw [narrowAll_eq_success narrowed, instances_keep, instances_keep]
    exact List.filter_sublist.trans List.filter_sublist
  · rw [instances_of_narrow_list (Bool.eq_false_iff.mpr all) narrowed]

/-- All and them settle to instances that differ. -/
theorem Settles.nodup_instances (settles : position.Settles world words memory settled)
    (read : position.Read) (distinct : memory.previous.Nodup)
    (swept : position.all = true ∨ position.BeginsWithThem) : settled.instances.Nodup := by
  rcases swept with all | ⟨first, begins, isThem⟩
  · rw [(settles.toAll read all).instances]
    exact world.nodup_everythingHere
  · cases settles with
    | recalled =>
      unfold instances
      rw [List.map_map, show (·.id) ∘ Reference.settled _ = id from rfl, List.map_id]
      apply List.Nodup.filter
      exact distinct.filter _
    | everything _ _ all =>
      have plain := read.plain_of_all all first (List.mem_of_head? begins)
      rw [plain] at isThem
      cases isThem
    | oneByOne first' begins' notThem =>
      rw [begins, Option.some_inj] at begins'
      exact absurd isThem (begins' ▸ notThem)

/-! ## References that settle to the same instance -/

/-- What the references of a list settle to, in the order of the list. -/
def settledInstances (world : World story) (words : Words) (memory : Memory)
    (position : Position) : List InstanceId :=
  (position.references.filterMap
    (Reference.settlesTo? world words memory position.flags.omnipotent)).filter (· != 0)

/-- Two references of a list, one behind the other, settle to the instance. -/
def NamesTwice (world : World story) (words : Words) (memory : Memory) (position : Position)
    (id : InstanceId) : Prop :=
  position.all = false ∧ ¬ position.BeginsWithThem ∧ ∃ first second,
    [first, second].Sublist position.references ∧
    first.settlesTo? world words memory position.flags.omnipotent = some id ∧
    second.settlesTo? world words memory position.flags.omnipotent = some id

/-- References that settle leave none out. -/
theorem filterMap_settlesTo? {omnipotent : Bool} {references settled : List Reference}
    (settles : List.Forall₂ (Reference.Settles world words memory omnipotent) references settled) :
    references.filterMap (Reference.settlesTo? world words memory omnipotent) =
      settled.map (·.id) := by
  induction settles with
  | nil => rfl
  | cons head _ ih => rw [List.filterMap_cons_some head.1, List.map_cons, ih]

/-- A list settles to what its references settle to. -/
theorem Settles.instances_of_list (settles : position.Settles world words memory settled)
    (notAll : position.all = false) (notThem : ¬ position.BeginsWithThem) :
    settled.instances = position.settledInstances world words memory := by
  cases settles with
  | recalled first begins them => exact absurd ⟨first, begins, them⟩ notThem
  | everything _ _ all =>
    rw [notAll] at all
    cases all
  | oneByOne _ _ _ _ references settled =>
    rw [settledInstances, filterMap_settlesTo? settled]
    rfl

theorem namesTwice_of_duplicate {id : InstanceId} (notAll : position.all = false)
    (notThem : ¬ position.BeginsWithThem)
    (twice : List.Duplicate id (position.settledInstances world words memory)) :
    position.NamesTwice world words memory id := by
  have pair : [id, id].Sublist (position.references.filterMap
      (Reference.settlesTo? world words memory position.flags.omnipotent)) :=
    (List.duplicate_iff_sublist.mp twice).trans List.filter_sublist
  obtain ⟨references, within, settled⟩ := List.sublist_filterMap_iff.mp pair
  -- whatever else is among these references settles to nothing
  obtain ⟨before, first, behind, rfl, -, isFirst, rest⟩ :=
    List.filterMap_eq_cons_iff.mp settled.symm
  obtain ⟨between, second, after, rfl, -, isSecond, -⟩ := List.filterMap_eq_cons_iff.mp rest
  refine ⟨notAll, notThem, first, second, List.Sublist.trans ?_ within, isFirst, isSecond⟩
  have last : [second].Sublist (between ++ second :: after) := by simp
  exact (last.cons_cons first).trans (List.sublist_append_right before _)

end Position

/-! ## The targets of a command -/

section Slots

variable {setting : Setting story σ} {memory : Memory} {words : Words} {found : FormMatch}
  {scene : Scene story σ} {command : ParsedCommand}
  {stages : Stages setting memory words found scene command} {slot : Nat} {position : Position}

/-- No stage repeats an instance. -/
theorem Stages.Slot.judged_sublist (history : stages.Slot slot position)
    (several : history.settled.multiple = true) :
    history.judged.instances.Sublist history.settled.instances := by
  obtain ⟨-, narrow⟩ := history.narrows.several several
  have sifted := history.judges.sifted (history.narrowed_multiple.trans several)
  exact sifted.sublist.trans (Position.instances_sublist_of_narrow narrow)

/-- What is left in a slot repeats only what a list in it repeats. -/
theorem Stages.Slot.namesTwice_of_duplicate (history : stages.Slot slot position)
    (several : history.settled.multiple = true) (read : position.Read)
    (distinct : memory.previous.Nodup) {id : InstanceId}
    (twice : List.Duplicate id history.judged.instances) :
    position.NamesTwice scene.world words memory id := by
  have settledTwice := twice.mono_sublist (history.judged_sublist several)
  by_cases swept : position.all = true ∨ position.BeginsWithThem
  · -- neither all nor them settles to an instance twice
    have once := history.settles.nodup_instances read distinct swept
    exact absurd once (List.exists_duplicate_iff_not_nodup.mp ⟨id, settledTwice⟩)
  · obtain ⟨notAll, notThem⟩ := not_or.mp swept
    have notAll := Bool.eq_false_iff.mpr notAll
    rw [history.settles.instances_of_list notAll notThem] at settledTwice
    exact Position.namesTwice_of_duplicate notAll notThem settledTwice

/-- The restrictions sift what the references of a list settle to. -/
theorem Stages.Slot.sifted_of_list (history : stages.Slot slot position)
    (several : history.settled.multiple = true) (notAll : position.all = false)
    (notThem : ¬ position.BeginsWithThem) :
    Sifted (setting.interpreter.Refuses found.restrictions scene.world)
      (parameterTests found.restrictions (slot + 1))
      (position.settledInstances scene.world words memory) history.judged.instances := by
  have list := history.settles.all_eq.trans notAll
  have sifted := history.judges.sifted (history.narrowed_multiple.trans several)
  rw [history.narrowed_of_list several list,
    history.settles.instances_of_list notAll notThem,
    history.judging_world_of_list several list] at sifted
  exact sifted.mono fun world judges => judges.1

end Slots

/-- **A target is there twice only if it is named twice.**  Let the targets that are remembered
differ.  If a command has an instance among its targets twice, they are a list of references, and
two of them settle to this instance; all and them never do that.  Of a list, the targets are what
its references settle to, one by one, without what the restrictions drop.  The verb is dispatched
for one target after the other, so for such an instance twice. -/
theorem named_twice_of_target_twice {setting : Setting story σ} {memory : Memory} {words : Words}
    {cursor next slot : Nat} {scene : Scene story σ} {command : ParsedCommand}
    {targets : List InstanceId}
    (parsed : ((parseCommand setting memory words cursor).run scene).1 = .ok (command, next))
    (several : command.multiple = some (slot, targets)) (distinct : memory.previous.Nodup) :
    (∃ reading found position,
      ReadAs setting memory words cursor scene reading found command ∧
      found.positions[slot]? = some position ∧
      (∀ id, List.Duplicate id targets → position.NamesTwice scene.world words memory id) ∧
      (position.all = false → ¬ position.BeginsWithThem →
        Sifted (setting.interpreter.Refuses found.restrictions scene.world)
          (parameterTests found.restrictions (slot + 1))
          (position.settledInstances scene.world words memory) targets)) ∧
    slot < command.parameters.length ∧
    ∀ start : Scene story σ,
      let noted := (dispatchTargets setting.journaled command.verb command.parameters
        command.multiple).run start.journaled
      (noted.1, noted.2.forget) =
        (dispatchTargets setting command.verb command.parameters command.multiple).run start ∧
      TurnByTurn command.verb command.parameters slot targets noted.2.calls := by
  obtain ⟨reading, found, read⟩ := readAs_of_parseCommand parsed
  obtain ⟨stages⟩ := read.stages
  obtain ⟨settled, there', -⟩ := stages.settled_of_multiple several
  have inRange : slot < found.positions.length :=
    stages.length_settled read.reads ▸ (List.getElem?_eq_some_iff.mp there').1
  have there : found.positions[slot]? = some found.positions[slot] :=
    List.getElem?_eq_getElem inRange
  obtain ⟨history⟩ := stages.slot read.reads there
  have multiple := history.multiple_iff.mpr ⟨targets, several⟩
  have isTargets : history.judged.instances = targets := by
    have same := (history.targets_eq multiple).symm.trans several
    cases same
    rfl
  have inRange' : slot < command.parameters.length := by
    rw [stages.length_parameters read.reads]
    exact inRange
  refine ⟨⟨reading, found, _, read, there, ?_, ?_⟩, inRange', ?_⟩
  · intro id twice
    rw [← isTargets] at twice
    exact history.namesTwice_of_duplicate multiple (read.reads _ (List.mem_of_getElem? there))
      distinct twice
  · intro notAll notThem
    rw [← isTargets]
    exact history.sifted_of_list multiple notAll notThem
  · intro start noted
    refine ⟨dispatchTargets_journaled setting _ _ _ start, ?_⟩
    have someTargets := ParsedCommand.targets_ne_nil stages.makes several
    show TurnByTurn _ _ slot targets ((dispatchTargets setting.journaled command.verb
      command.parameters command.multiple).run start.journaled).2.calls
    rw [several]
    exact turns_of_dispatchTargets setting command.verb command.parameters someTargets inRange'
      start

section SwordAndRedSword

/-- A cave with a red sword in it. -/
def Story.armoury : Story :=
  { Story.cave with
    instances := [
      { code := 1, name := "cave", parent := 4, location := 0 },
      { code := 2, name := "hero", parent := 5, location := 1 },
      { code := 3, name := "sword", parent := 3, location := 1 }]
    dictionary := { entries := [
      { word := "take", code := 1, classes := .verb },
      { word := "and", code := 2, classes := .conjunction },
      { word := "sword", code := 3, classes := .noun, nounOf := [3] },
      { word := "red", code := 4, classes := .adjective, adjectiveOf := [3] }] } }

def Setting.armoury : Setting .armoury Recording := ⟨.scripted _ {}, {}⟩

def Scene.armoury : Scene .armoury Recording := { world := .initial _, state := {} }

/-- Take sword and red sword. -/
def Words.swordAndRedSword : Words where
  words := [.known 0 "take", .known 2 "sword", .known 1 "and", .known 3 "red", .known 2 "sword"]
  dictionary := Story.armoury.dictionary

theorem named_twice_of_target_twice_armoury :
    let words := Words.swordAndRedSword
    let scene := Scene.armoury
    let command : ParsedCommand := { verb := 1, parameters := [0], multiple := some (0, [3, 3]) }
    ((parseCommand Setting.armoury {} words 0).run scene).1 = .ok (command, 5) ∧
    ({} : Memory).previous.Nodup ∧
    (∃ reading found position,
      ReadAs Setting.armoury {} words 0 scene reading found command ∧
      found.positions[0]? = some position ∧
      (∀ id, List.Duplicate id [3, 3] → position.NamesTwice scene.world words {} id) ∧
      (position.all = false → ¬ position.BeginsWithThem →
        Sifted (Setting.armoury.interpreter.Refuses found.restrictions scene.world)
          (parameterTests found.restrictions (0 + 1))
          (position.settledInstances scene.world words {}) [3, 3])) ∧
    0 < command.parameters.length ∧
    ∀ start : Scene .armoury Recording,
      let noted := (dispatchTargets Setting.armoury.journaled command.verb command.parameters
        command.multiple).run start.journaled
      (noted.1, noted.2.forget) = (dispatchTargets Setting.armoury command.verb
        command.parameters command.multiple).run start ∧
      TurnByTurn command.verb command.parameters 0 [3, 3] noted.2.calls := by
  intro words scene command
  have parsed : ((parseCommand Setting.armoury {} words 0).run scene).1 = .ok (command, 5) :=
    eq_ok_of_toOption (by decide +kernel)
  exact ⟨parsed, .nil, named_twice_of_target_twice parsed rfl .nil⟩

/-- **The sword is taken twice.**  No list of the dictionary has an instance twice and nothing is
remembered, and yet the sword is a target for each of its two names, and the body of the verb runs
for it each time. -/
theorem sword_taken_twice :
    let words := Words.swordAndRedSword
    let scene := Scene.armoury
    let played := (interpretLine Setting.armoury {} "take sword and red sword").run scene
    (∀ entry ∈ words.dictionary.entries,
      entry.nounOf.Nodup ∧ entry.adjectiveOf.Nodup ∧ entry.pronounFor.Nodup) ∧
    ({} : Memory).previous.Nodup ∧
    ((parseCommand Setting.armoury {} words 0).run scene).1.toOption =
      some ({ verb := 1, parameters := [0], multiple := some (0, [3, 3]) }, 5) ∧
    ¬ [3, 3].Nodup ∧
    played.1.previous = [3, 3] ∧
    played.2.state.executed = [⟨100, [3], 0⟩, ⟨100, [3], 0⟩] := by
  decide +kernel

end SwordAndRedSword

end TextAdventure
