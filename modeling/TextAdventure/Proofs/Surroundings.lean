import TextAdventure.World
import Mathlib.Data.Finset.Card
import Mathlib.Data.Finset.Interval
import Mathlib.Data.List.TakeWhile
import Mathlib.Logic.Function.Iterate
import Mathlib.Order.Interval.Finset.Nat
/-!
# The way outwards

The places around an instance are found by going outwards from place to place.  Nothing prevents
circles, so this is cut off after as many steps as there are instances and one more.  That is never
too early: a longer way comes to some place twice, and what it leads to is reached without the round
in between (`exists_iterate_le`).  So the places that are found are those that the way leads to
(`World.mem_takeWhile_surroundings`).
-/

namespace TextAdventure

/-! ## Ways that may lead in circles -/

section Iterates

variable {f : Nat → Nat} {bound : Nat} (inRange : ∀ x, f x ≠ 0 → x ≠ 0 ∧ x ≤ bound)
include inRange

theorem iterate_ne_zero_of_le {x i k : Nat} (le : i ≤ k) (some : f^[k] x ≠ 0) :
    f^[i] x ≠ 0 := by
  intro none
  have zero : f 0 = 0 := by
    by_contra some
    exact (inRange 0 some).1 rfl
  apply some
  rw [← Nat.sub_add_cancel le, Function.iterate_add_apply, none]
  exact Function.iterate_fixed zero _

/-- A way of more steps than there are numbers to go on from comes to a number twice. -/
theorem exists_iterate_eq {x k : Nat} (long : bound < k) (some : f^[k] x ≠ 0) :
    ∃ i j, i < j ∧ j < k ∧ f^[i] x = f^[j] x := by
  have maps : ∀ i ∈ Finset.range k, f^[i] x ∈ Finset.Icc 1 bound := by
    intro i member
    have lt := Finset.mem_range.mp member
    have onward := iterate_ne_zero_of_le inRange (Nat.succ_le_of_lt lt) some
    rw [Function.iterate_succ_apply'] at onward
    obtain ⟨here, le⟩ := inRange _ onward
    exact Finset.mem_Icc.mpr ⟨Nat.one_le_iff_ne_zero.mpr here, le⟩
  have fewer : (Finset.Icc 1 bound).card < (Finset.range k).card := by
    rw [Nat.card_Icc, Finset.card_range]
    omega
  obtain ⟨i, hi, j, hj, distinct, same⟩ :=
    Finset.exists_ne_map_eq_of_card_lt_of_maps_to fewer maps
  have hi := Finset.mem_range.mp hi
  have hj := Finset.mem_range.mp hj
  rcases Nat.lt_or_gt_of_ne distinct with lt | lt
  · exact ⟨i, j, lt, hj, same⟩
  · exact ⟨j, i, lt, hi, same.symm⟩

/-- Whatever a way leads to is reached within as many steps as there are numbers to go on from. -/
theorem exists_iterate_le {x k : Nat} (some : f^[k] x ≠ 0) :
    ∃ j ≤ k, j ≤ bound ∧ f^[j] x = f^[k] x := by
  induction k using Nat.strongRecOn with
  | ind k ih =>
    by_cases short : k ≤ bound
    · exact ⟨k, Nat.le_refl k, short, rfl⟩
    · -- the round between the two visits is left out
      obtain ⟨i, j, lt, inWay, same⟩ := exists_iterate_eq inRange (Nat.lt_of_not_le short) some
      have shorter : f^[k - j + i] x = f^[k] x := by
        rw [Function.iterate_add_apply, same, ← Function.iterate_add_apply,
          Nat.sub_add_cancel (Nat.le_of_lt inWay)]
      obtain ⟨j', le, within, reached⟩ := ih (k - j + i) (by omega) (by rwa [shorter])
      exact ⟨j', by omega, within, reached.trans shorter⟩

end Iterates

namespace World

variable {story : Story} {world : World story} {admits : InstanceId → Prop} {id place : InstanceId}

/-! ## Places on the way -/

/-- The place lies around the instance, one step or more on the way outwards, and each place that is
come to, itself with the rest, is admitted. -/
inductive Around (world : World story) (admits : InstanceId → Prop) (id : InstanceId) :
    InstanceId → Prop where
  /-- The instance is there itself. -/
  | next : admits (world.locationOf id) → Around world admits id (world.locationOf id)
  /-- A place around it is there. -/
  | onward {place : InstanceId} : Around world admits id place →
      admits (world.locationOf place) → Around world admits id (world.locationOf place)

theorem Around.admitted (around : world.Around admits id place) : admits place := by
  cases around with
  | next admitted => exact admitted
  | onward _ admitted => exact admitted

/-- The way is the same whatever is admitted, as far as it admits all that is come to. -/
theorem Around.imp {others : InstanceId → Prop}
    (implies : ∀ place, world.Around admits id place → others place)
    (around : world.Around admits id place) : world.Around others id place := by
  induction around with
  | next admitted => exact .next (implies _ (.next admitted))
  | onward around admitted ih => exact .onward ih (implies _ (.onward around admitted))

/-- A place is come to by so and so many steps. -/
theorem around_iff_iterate :
    world.Around admits id place ↔
      ∃ k, world.locationOf^[k + 1] id = place ∧
        ∀ i ≤ k, admits (world.locationOf^[i + 1] id) := by
  constructor
  · intro around
    induction around with
    | next admitted =>
      refine ⟨0, rfl, fun i le => ?_⟩
      rw [Nat.le_zero.mp le]
      exact admitted
    | onward _ admitted ih =>
      obtain ⟨k, rfl, before⟩ := ih
      rw [← Function.iterate_succ_apply' world.locationOf] at admitted ⊢
      refine ⟨k + 1, rfl, fun i le => ?_⟩
      rcases Nat.le_succ_iff.mp le with le | rfl
      · exact before i le
      · exact admitted
  · rintro ⟨k, rfl, before⟩
    induction k with
    | zero => exact .next (before 0 (Nat.le_refl 0))
    | succ k ih =>
      have last := before (k + 1) (Nat.le_refl _)
      rw [Function.iterate_succ_apply'] at last ⊢
      exact .onward (ih fun i le => before i (Nat.le_succ_of_le le)) last

/-! ## The places that are found -/

/-- Only an instance is somewhere. -/
theorem instance_of_locationOf_ne_zero (id : InstanceId) (somewhere : world.locationOf id ≠ 0) :
    id ≠ 0 ∧ id ≤ story.instances.length := by
  rw [← world.length_locations]
  unfold locationOf at somewhere
  cases found : entryAt world.locations id with
  | none =>
    rw [found] at somewhere
    exact absurd rfl somewhere
  | some place => exact bounds_of_entryAt found

/-- Going outwards ends where a test is not passed. -/
theorem takeWhile_placesAround_of_not {test : InstanceId → Bool}
    (stops : test (world.locationOf id) = false) (bound : Nat) :
    (world.placesAround bound id).takeWhile test = [] := by
  cases bound with
  | zero => rfl
  | succ bound =>
    unfold placesAround
    dsimp only
    split
    · rfl
    · exact List.takeWhile_cons_of_neg (Bool.not_eq_true _ ▸ stops)

/-- It goes on where the test is passed, which nowhere does not pass. -/
theorem takeWhile_placesAround_succ {test : InstanceId → Bool} (nowhere : test 0 = false)
    (passes : test (world.locationOf id) = true) (bound : Nat) :
    (world.placesAround (bound + 1) id).takeWhile test =
      world.locationOf id :: (world.placesAround bound (world.locationOf id)).takeWhile test := by
  have somewhere : world.locationOf id ≠ 0 := by
    intro none
    rw [none, nowhere] at passes
    cases passes
  simp only [placesAround, if_neg somewhere, List.takeWhile_cons_of_pos passes]

/-- Going outwards for a number of steps while a test is passed, which nowhere does not pass. -/
theorem mem_takeWhile_placesAround {test : InstanceId → Bool} (nowhere : test 0 = false)
    (bound : Nat) :
    place ∈ (world.placesAround bound id).takeWhile test ↔
      ∃ k < bound, world.locationOf^[k + 1] id = place ∧
        ∀ i ≤ k, test (world.locationOf^[i + 1] id) = true := by
  induction bound generalizing id with
  | zero => simp [placesAround]
  | succ bound ih =>
    cases passes : test (world.locationOf id) with
    | true =>
      rw [takeWhile_placesAround_succ nowhere passes, List.mem_cons, ih]
      constructor
      · rintro (rfl | ⟨k, lt, rfl, before⟩)
        · refine ⟨0, Nat.succ_pos bound, rfl, fun i le => ?_⟩
          rw [Nat.le_zero.mp le]
          exact passes
        · refine ⟨k + 1, Nat.succ_lt_succ lt, rfl, fun i le => ?_⟩
          cases i with
          | zero => exact passes
          | succ i => exact before i (Nat.le_of_succ_le_succ le)
      · rintro ⟨k, lt, rfl, before⟩
        cases k with
        | zero => exact .inl rfl
        | succ k =>
          exact .inr ⟨k, Nat.lt_of_succ_lt_succ lt, rfl,
            fun i le => before (i + 1) (Nat.succ_le_succ le)⟩
    | false =>
      rw [takeWhile_placesAround_of_not passes]
      refine iff_of_false List.not_mem_nil ?_
      rintro ⟨k, -, -, before⟩
      exact absurd (before 0 (Nat.zero_le k)) (Bool.eq_false_iff.mp passes)

/-- Whatever number of steps the way is cut off after, if there are more of them than instances, the
places that are found are those that the way leads to. -/
theorem mem_takeWhile_of_lt {test : InstanceId → Bool} (nowhere : test 0 = false) {bound : Nat}
    (enough : story.instances.length < bound) :
    place ∈ (world.placesAround bound id).takeWhile test ↔
      world.Around (test · = true) id place := by
  rw [mem_takeWhile_placesAround nowhere, around_iff_iterate]
  constructor
  · rintro ⟨k, -, reached, before⟩
    exact ⟨k, reached, before⟩
  · rintro ⟨k, reached, before⟩
    have somewhere : world.locationOf^[k] (world.locationOf id) ≠ 0 := by
      intro none
      have last := before k (Nat.le_refl k)
      rw [Function.iterate_succ_apply, none, nowhere] at last
      cases last
    obtain ⟨j, le, within, same⟩ :=
      exists_iterate_le instance_of_locationOf_ne_zero somewhere
    exact ⟨j, Nat.lt_of_le_of_lt within enough, same.trans reached,
      fun i before' => before i (Nat.le_trans before' le)⟩

/-- **The places that are found are those that the way leads to.**  Cutting the way off leaves none
out, wherever it leads, as nothing is met on it that was not met before. -/
theorem mem_takeWhile_surroundings {test : InstanceId → Bool} (nowhere : test 0 = false) :
    place ∈ (world.surroundings id).takeWhile test ↔ world.Around (test · = true) id place :=
  mem_takeWhile_of_lt nowhere (Nat.lt_succ_self _)

/-- Nowhere is not among the places around an instance. -/
theorem ne_zero_of_mem_placesAround (bound : Nat) (member : place ∈ world.placesAround bound id) :
    place ≠ 0 := by
  induction bound generalizing id with
  | zero => cases member
  | succ bound ih =>
    unfold placesAround at member
    dsimp only at member
    split at member
    · cases member
    · rcases List.mem_cons.mp member with rfl | inside
      · assumption
      · exact ih inside

/-- All of the way outwards leads to places. -/
theorem takeWhile_surroundings :
    (world.surroundings id).takeWhile (· != 0) = world.surroundings id := by
  rw [List.takeWhile_eq_self_iff]
  intro place member
  exact bne_iff_ne.mpr (ne_zero_of_mem_placesAround _ member)

theorem mem_surroundings :
    place ∈ world.surroundings id ↔ world.Around (· ≠ 0) id place := by
  rw [← takeWhile_surroundings, mem_takeWhile_surroundings rfl]
  simp only [bne_iff_ne]

end World

end TextAdventure
