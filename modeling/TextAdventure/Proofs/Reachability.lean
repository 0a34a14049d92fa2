import TextAdventure.Proofs.Stages
import TextAdventure.Proofs.Surroundings
/-!
# What can be perceived

The hero perceives what is here unless a container that it is in, before the way outwards has come
to where he is, is opaque.  Whether an instance is reachable is asked in another way: of the
containers around it, those are looked at that follow each other without a gap, wherever the hero
is.  So somebody who is in an opaque container with something in his hands gives it away, and what
is in an opaque container is out of reach even for a hero who is in there too.  With nothing but
containers before the place of the hero, and this no container, both come to the same.
-/

namespace TextAdventure

variable {story : Story}

namespace World

variable {world : World story} {id : InstanceId}

/-- The hero perceives an instance from where he is: it is here, and whatever container is met
before the way outwards has come to his place lets him look inside. -/
structure Perceivable (world : World story) (id : InstanceId) : Prop where
  here : world.Around (· ≠ 0) id world.here
  unhidden : ∀ place, world.Around (fun place => place ≠ 0 ∧ place ≠ world.here) id place →
    world.isContainer place = true → world.isOpaque place = false

/-- Nowhere is no container. -/
@[simp] theorem isContainer_zero : world.isContainer 0 = false := rfl

theorem isHere_iff : world.isHere id = true ↔ world.Around (· ≠ 0) id world.here := by
  unfold isHere
  rw [List.contains_iff_mem, mem_surroundings]

theorem isHidden_eq_false_iff :
    world.isHidden id = false ↔
      ∀ place, world.Around (world.isContainer · = true) id place →
        world.isOpaque place = false := by
  unfold isHidden
  rw [List.any_eq_false]
  simp only [mem_takeWhile_surroundings isContainer_zero, Bool.not_eq_true]

/-- The places that are come to before that of the hero. -/
theorem mem_before_here {place : InstanceId} :
    place ∈ (world.surroundings id).takeWhile (fun place => place != 0 && place != world.here) ↔
      world.Around (fun place => place ≠ 0 ∧ place ≠ world.here) id place := by
  rw [mem_takeWhile_surroundings rfl]
  simp only [Bool.and_eq_true, bne_iff_ne]

theorem perceivable_iff :
    world.Perceivable id ↔
      world.isHere id = true ∧
        ∀ place ∈ (world.surroundings id).takeWhile
            (fun place => place != 0 && place != world.here),
          world.isContainer place = true → world.isOpaque place = false := by
  simp only [isHere_iff, mem_before_here]
  exact ⟨fun perceivable => ⟨perceivable.here, perceivable.unhidden⟩,
    fun ⟨here, unhidden⟩ => ⟨here, unhidden⟩⟩

instance (world : World story) (id : InstanceId) : Decidable (world.Perceivable id) :=
  decidable_of_iff _ perceivable_iff.symm

/-- A thing or a location is reachable if it is here and nothing hides it. -/
theorem reachable_iff
    (placed : (world.isA id story.predefined.thing ||
      world.isA id story.predefined.location) = true) :
    world.reachable id = true ↔
      world.Around (· ≠ 0) id world.here ∧
        ∀ place, world.Around (world.isContainer · = true) id place →
          world.isOpaque place = false := by
  unfold reachable
  rw [if_pos placed, Bool.and_eq_true, Bool.not_eq_true', isHere_iff, isHidden_eq_false_iff]

/-- With nothing but containers on the way, all of them have been looked at. -/
theorem Perceivable.of_reachable
    (placed : (world.isA id story.predefined.thing ||
      world.isA id story.predefined.location) = true)
    (containers : ∀ place,
      world.Around (fun place => place ≠ 0 ∧ place ≠ world.here) id place →
        world.isContainer place = true)
    (reachable : world.reachable id = true) : world.Perceivable id := by
  obtain ⟨here, shown⟩ := (reachable_iff placed).mp reachable
  refine ⟨here, fun place around _ => ?_⟩
  exact shown place (around.imp containers)

/-- Where the hero's place ends the row of containers, none behind it has been looked at. -/
theorem Perceivable.reachable
    (placed : (world.isA id story.predefined.thing ||
      world.isA id story.predefined.location) = true)
    (ends : world.isContainer world.here = false) (perceivable : world.Perceivable id) :
    world.reachable id = true := by
  refine (reachable_iff placed).mpr ⟨perceivable.here, fun place around => ?_⟩
  have inside : world.Around (fun place => place ≠ 0 ∧ place ≠ world.here) id place := by
    apply around.imp
    intro place met
    have container := met.admitted
    constructor
    · rintro rfl
      cases container
    · rintro rfl
      rw [ends] at container
      cases container
  exact perceivable.unhidden place inside around.admitted

end World

/-- **What is reachable.**  A thing or a location is reachable exactly if it is here and none of the
containers that follow each other around it without a gap is opaque.  If all that is met before the
place of the hero are containers, this is perceived; and if his place is no container, all that he
perceives is reachable. -/
theorem reachable_and_perceivable (world : World story) {id : InstanceId}
    (placed : (world.isA id story.predefined.thing ||
      world.isA id story.predefined.location) = true) :
    (world.reachable id = true ↔
      world.Around (· ≠ 0) id world.here ∧
        ∀ place, world.Around (world.isContainer · = true) id place →
          world.isOpaque place = false) ∧
    ((∀ place, world.Around (fun place => place ≠ 0 ∧ place ≠ world.here) id place →
        world.isContainer place = true) →
      world.reachable id = true → world.Perceivable id) ∧
    (world.isContainer world.here = false → world.Perceivable id → world.reachable id = true) :=
  ⟨World.reachable_iff placed, World.Perceivable.of_reachable placed,
    World.Perceivable.reachable placed⟩

section Vault

/-- A vault with an opaque crate in it, where a thief hides with a coin. -/
def Story.vault : Story :=
  { Story.cave with
    opaqueAttribute := 1
    instances := [
      { code := 1, name := "vault", parent := 4, location := 0 },
      { code := 2, name := "hero", parent := 5, location := 1 },
      { code := 3, name := "crate", parent := 3, location := 1, container := 1
        attributes := [(1, 1)] },
      { code := 4, name := "thief", parent := 5, location := 3 },
      { code := 5, name := "coin", parent := 3, location := 4 }] }

/-- The thief in the crate, once it lets the hero look inside. -/
theorem reachable_and_perceivable_thief :
    let world := (World.initial Story.vault).setAttribute 3 1 0
    (world.isA 4 Story.vault.predefined.thing ||
      world.isA 4 Story.vault.predefined.location) = true ∧
    world.isContainer world.here = false ∧
    (world.Around (· ≠ 0) 4 world.here ∧
      ∀ place, world.Around (world.isContainer · = true) 4 place → world.isOpaque place = false) ∧
    world.Perceivable 4 ∧ world.reachable 4 = true := by
  intro world
  have placed : (world.isA 4 Story.vault.predefined.thing ||
      world.isA 4 Story.vault.predefined.location) = true := by decide
  have containers : ∀ place,
      world.Around (fun place => place ≠ 0 ∧ place ≠ world.here) 4 place →
        world.isContainer place = true := by
    simp only [← World.mem_before_here]
    decide
  have ends : world.isContainer world.here = false := by decide
  have reachable : world.reachable 4 = true := by decide
  obtain ⟨shown, sees, reaches⟩ := reachable_and_perceivable world placed
  have perceivable := sees containers reachable
  exact ⟨placed, ends, shown.mp reachable, perceivable, reaches ends perceivable⟩

/-- **The coin in the thief's hands is reachable through the crate, and the thief is not for a hero
who is in there with him.** -/
theorem coin_reachable_through_crate :
    let world := World.initial Story.vault
    (world.isA 5 Story.vault.predefined.thing = true ∧
      world.reachable 5 = true ∧ ¬ world.Perceivable 5) ∧
    let inside := world.locate 2 3
    inside.isA 4 Story.vault.predefined.thing = true ∧
      inside.Perceivable 4 ∧ inside.reachable 4 = false := by
  decide

end Vault

end TextAdventure
