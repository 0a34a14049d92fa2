import TextAdventure.Proofs.Stages
/-!
# Nothing out of sight

An instance gets into a slot by a phrase, a literal, a pronoun, a them word, an all word or as one
of a list, and each way has a filter of its own.  They come to the same: unless the grammar gives
the slot to the omnipotent, what the command has in it is in sight when the references are settled.

Only all is different where evaluating a condition changes the world: its instances are here when
the references are settled, but whether each is in sight is asked when its trial comes.
-/

namespace TextAdventure

variable {story : Story} {σ : Type}

namespace Position

variable {world : World story} {words : Words} {memory : Memory} {position settled : Position}

/-- What is recalled or spelt out is in sight. -/
theorem Settles.reachable (settles : position.Settles world words memory settled)
    (ordinary : position.flags.omnipotent = false) (notAll : position.all = false)
    {id : InstanceId} (member : id ∈ settled.instances) : world.reachable id = true := by
  obtain ⟨-, reference, there, rfl⟩ := mem_instances.mp member
  cases settles with
  | recalled first _ _ _ =>
    obtain ⟨target, recalled, rfl⟩ := List.mem_map.mp there
    exact List.of_mem_filter recalled
  | everything _ _ all _ =>
    rw [notAll] at all
    cases all
  | oneByOne _ _ _ _ references settled =>
    obtain ⟨spelt, -, settles, -⟩ := forall₂_right settled there
    rw [ordinary] at settles
    exact Reference.reachable_of_settlesTo? settles

end Position

section Slots

variable {setting : Setting story σ} {memory : Memory} {words : Words} {found : FormMatch}
  {scene : Scene story σ} {command : ParsedCommand}
  {stages : Stages setting memory words found scene command} {slot : Nat} {position : Position}

/-- Each target of all has passed its trial. -/
theorem Stages.Slot.tried_of_all (history : stages.Slot slot position)
    (several : history.settled.multiple = true) (all : history.settled.all = true)
    {id : InstanceId} (member : id ∈ history.narrowed.instances) :
    ∃ tried, setting.interpreter.Tries scene.world tried ∧ tried.reachable id = true := by
  obtain ⟨-, narrow⟩ := history.narrows.several several
  rw [Position.narrow_of_all all] at narrow
  rw [Position.narrowAll_eq_success narrow, Position.instances_keep, Position.instances_keep]
    at member
  -- the exceptions were taken away from what had passed the trial
  have passed := (List.mem_filter.mp (List.mem_filter.mp member).1).2
  have unchanged : setting.interpreter.Tries scene.world stages.trial.world := by
    rw [stages.trial_world]
    exact .start
  exact tried_of_feasibleInstances _ _ unchanged _ (List.contains_iff_mem.mp passed)

end Slots

/-- **Nothing out of sight gets into an ordinary slot.**  Whatever a command has in a slot comes
from a position of its form, with the flags that the grammar gives to it, wherever the parameter map
has put it.  Unless it is omnipotent, the instance was in sight in the world that the command was
read in: for an instance of all, at the latest when its trial came. -/
theorem in_sight {setting : Setting story σ} {memory : Memory} {words : Words} {cursor slot : Nat}
    {scene : Scene story σ} {reading : FormReading} {found : FormMatch} {command : ParsedCommand}
    {id : InstanceId} (read : ReadAs setting memory words cursor scene reading found command)
    (has : command.Has slot id) (some : id ≠ 0) :
    ∃ position, reading.positions[reading.origin story slot]? = .some position ∧
      (∃ table next, .parameter position.flags next ∈ story.elements table) ∧
      (position.flags.omnipotent = false →
        (∃ tried, setting.interpreter.Tries scene.world tried ∧ tried.reachable id = true) ∧
        (position.all = false ∨ setting.interpreter.KeepsWorld →
          scene.world.reachable id = true)) := by
  obtain ⟨stages⟩ := read.stages
  obtain ⟨position, there⟩ := stages.position_of_has read.reads has
  obtain ⟨origin, asRead, grammar⟩ := read.position_read there
  refine ⟨position, origin, grammar, fun ordinary => ?_⟩
  obtain ⟨history⟩ := stages.slot read.reads there
  have sameAll := history.settles.all_eq
  by_cases all : position.all = true
  · have several : history.settled.multiple = true := by
      by_contra single
      have notAll := history.settles.all_eq_false asRead (Bool.eq_false_iff.mpr single)
      exact absurd all (Bool.eq_false_iff.mp notAll)
    have judged := (history.has_of_several several some).mp has
    obtain ⟨narrowed, -⟩ :=
      history.judges.passes_of_mem (history.narrowed_multiple.trans several) judged
    obtain ⟨tried, tries, reachable⟩ := history.tried_of_all several (sameAll.trans all) narrowed
    refine ⟨⟨tried, tries, reachable⟩, ?_⟩
    rintro (notAll | keeps)
    · exact absurd all (Bool.eq_false_iff.mp notAll)
    · rw [← keeps.eq_of_tries tries]
      exact reachable
  · have notAll := Bool.eq_false_iff.mpr all
    have reachable := history.settles.reachable ordinary notAll
      (history.mem_settled_of_has asRead (sameAll.trans notAll) some has)
    exact ⟨⟨_, .start, reachable⟩, fun _ => reachable⟩

/-- The lamp and the key: the key is one of the targets. -/
theorem in_sight_cave :
    let position : Position :=
      { references := [{ first := 1, last := 1 }, { first := 3, last := 3 }]
        multiple := true, flags := { multiple := true } }
    let reading : FormReading := { form := 1, restrictions := [], positions := [position] }
    let found := reading.remap Story.cave 1
    let command : ParsedCommand := { verb := 1, parameters := [0], multiple := some (0, [3, 4]) }
    let scene := Scene.cave
    ReadAs Setting.cave {} (.ofCave [0, 5, 3, 6]) 0 scene reading found command ∧ command.Has 0 4 ∧
    ∃ position, reading.positions[reading.origin Story.cave 0]? = some position ∧
      (∃ table next, .parameter position.flags next ∈ Story.cave.elements table) ∧
      (position.flags.omnipotent = false →
        (∃ tried, Setting.cave.interpreter.Tries scene.world tried ∧ tried.reachable 4 = true) ∧
        (position.all = false ∨ Setting.cave.interpreter.KeepsWorld →
          scene.world.reachable 4 = true)) := by
  intro position reading found command scene
  have read : ReadAs Setting.cave {} (.ofCave [0, 5, 3, 6]) 0 scene reading found command :=
    readAs_of_toOption 1 _ 4 4 rfl rfl (by decide +kernel) rfl (by decide +kernel)
  have has : command.Has 0 4 := Or.inr ⟨[3, 4], rfl, by decide⟩
  exact ⟨read, has, in_sight read has (by decide)⟩

end TextAdventure
