import TextAdventure.Proofs.Reachability
/-!
# The limit of a look outwards

Whether an instance is here and whether it is hidden is found out by looking outwards from place to
place.  Places can contain each other in circles, so a look is given up after a number of steps.
That makes it end (`World.lookOut_eq`), and any limit that is not below the number of instances
leads to the same answer (`World.any_placesAround`), so giving up is never too early.
-/

namespace TextAdventure

variable {story : Story}

namespace World

variable {world : World story} {id : InstanceId} {goesOn finds : InstanceId → Bool}

/-- Looks from a place outwards for one that is to be found, as long as the places that are come to
let the look go on and no more than so many steps have been made.  There is no answer if the look
has not ended in the given time. -/
def lookOut (world : World story) (goesOn finds : InstanceId → Bool) (limit : Nat) :
    Nat → InstanceId → Nat → Option Bool
  | 0, _, _ => none
  | time + 1, place, steps =>
    if goesOn place && decide (steps ≤ limit) then
      if finds place then some true
      else world.lookOut goesOn finds limit time (world.locationOf place) (steps + 1)
    else some false

/-- A look ends before its time is over, and finds what is to be found among the places on the way
that it is allowed to go. -/
theorem lookOut_eq (nowhere : goesOn 0 = false) {limit time steps : Nat}
    (within : steps ≤ limit + 1) (inTime : limit + 1 < time + steps) :
    world.lookOut goesOn finds limit time (world.locationOf id) steps =
      some (((world.placesAround (limit + 1 - steps) id).takeWhile goesOn).any finds) := by
  induction time generalizing id steps with
  | zero => omega
  | succ time ih =>
    unfold lookOut
    rcases Nat.lt_or_ge limit steps with beyond | more
    · -- no step is left
      have none : limit + 1 - steps = 0 := by omega
      rw [none, decide_eq_false (Nat.not_le.mpr beyond), Bool.and_false]
      rfl
    · have left : limit + 1 - steps = limit + 1 - (steps + 1) + 1 := by omega
      rw [left, decide_eq_true more, Bool.and_true]
      cases goes : goesOn (world.locationOf id) with
      | false =>
        rw [takeWhile_placesAround_of_not goes]
        rfl
      | true =>
        rw [takeWhile_placesAround_succ nowhere goes, List.any_cons, if_pos rfl]
        cases found : finds (world.locationOf id) with
        | true => rfl
        | false => exact ih (by omega) (by omega)

/-- No limit from the number of instances on makes a difference to what is found. -/
theorem any_placesAround (nowhere : goesOn 0 = false) {bound : Nat}
    (enough : story.instances.length < bound) :
    ((world.placesAround bound id).takeWhile goesOn).any finds =
      ((world.surroundings id).takeWhile goesOn).any finds := by
  rw [Bool.eq_iff_iff, List.any_eq_true, List.any_eq_true]
  simp only [mem_takeWhile_of_lt nowhere enough, mem_takeWhile_surroundings nowhere]

theorem isHere_eq_any :
    world.isHere id =
      ((world.surroundings id).takeWhile (· != 0)).any (· == world.here) := by
  rw [takeWhile_surroundings, List.any_beq']
  rfl

theorem isHidden_iff :
    world.isHidden id = true ↔
      ∃ place, world.Around (world.isContainer · = true) id place ∧
        world.isOpaque place = true := by
  rw [← Bool.not_eq_false, isHidden_eq_false_iff]
  simp

end World

/-- **Looking outwards is exact.**  Wherever instances have been put, in circles, nowhere or at
numbers that name none, an instance is here exactly if it has the place of the hero around it, and
hidden exactly if an opaque container follows on nothing but containers around it.  Both looks end
with this answer, after no more steps than are allowed and one more, and any limit from the number
of instances on leads to it. -/
theorem looking_outwards_is_exact (world : World story) (id : InstanceId) {limit time : Nat}
    (enough : story.instances.length ≤ limit) (inTime : limit + 1 < time) :
    (world.isHere id = true ↔ world.here ≠ 0 ∧ world.Around (· ≠ 0) id world.here) ∧
    (world.isHidden id = true ↔
      ∃ place, world.Around (world.isContainer · = true) id place ∧
        world.isOpaque place = true) ∧
    world.lookOut (· != 0) (· == world.here) limit time (world.locationOf id) 0 =
      some (world.isHere id) ∧
    world.lookOut world.isContainer world.isOpaque limit time (world.locationOf id) 0 =
      some (world.isHidden id) := by
  have more : story.instances.length < limit + 1 := Nat.lt_succ_of_le enough
  refine ⟨?_, World.isHidden_iff, ?_, ?_⟩
  · rw [World.isHere_iff]
    exact ⟨fun around => ⟨around.admitted, around⟩, And.right⟩
  · rw [World.lookOut_eq rfl (Nat.zero_le _) inTime, Nat.sub_zero, World.any_placesAround rfl more,
      World.isHere_eq_any]
  · rw [World.lookOut_eq World.isContainer_zero (Nat.zero_le _) inTime, Nat.sub_zero,
      World.any_placesAround World.isContainer_zero more]
    rfl

/-- The vault is put into the crate that stands in it, and the coin, which the hero is in, at a
number that names nothing: the look from the vault goes round until it is given up. -/
theorem looking_outwards_is_exact_vault :
    let world := (((World.initial Story.vault).locate 1 3).locate 2 5).locate 5 9
    Story.vault.instances.length ≤ 5 ∧ 5 + 1 < 7 ∧
    world.isHere 1 = false ∧ world.isHere 2 = true ∧
    (world.isHere 1 = true ↔ world.here ≠ 0 ∧ world.Around (· ≠ 0) 1 world.here) ∧
    (world.isHidden 1 = true ↔
      ∃ place, world.Around (world.isContainer · = true) 1 place ∧
        world.isOpaque place = true) ∧
    world.lookOut (· != 0) (· == world.here) 5 7 (world.locationOf 1) 0 =
      some (world.isHere 1) ∧
    world.lookOut world.isContainer world.isOpaque 5 7 (world.locationOf 1) 0 =
      some (world.isHidden 1) := by
  intro world
  have enough : Story.vault.instances.length ≤ 5 := by decide
  have inTime : 5 + 1 < 7 := by decide
  exact ⟨enough, inTime, by decide, by decide,
    looking_outwards_is_exact world 1 enough inTime⟩

end TextAdventure
