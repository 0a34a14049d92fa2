import TextAdventure.Command.Restrictions
import TextAdventure.Proofs.Settling
/-!
# What restrictions leave of a position

A restriction is a test of an instance in a world, and a parameter without restrictions has to pass
one test all the same.  An instance of several that fails a test is dropped (`Reference.Judged`).
The player is told of it by statements that can change the world, so that the next test may be made
in another one: `W` says which worlds these can be.  If nothing is said there is only one.
-/

namespace TextAdventure

variable {story : Story} {σ : Type}

/-! ## Tests -/

/-- A test of an instance in a world. -/
abbrev Test (story : Story) : Type := World story → InstanceId → Bool

/-- The test that a restriction makes. -/
def Restriction.test (restriction : Restriction) : Test story :=
  fun world id => world.meets restriction.requirement id

/-- The tests that the restrictions of a form make of a parameter; `number` counts from 1. -/
def restrictionTests (restrictions : List Restriction) (number : Nat) : List (Test story) :=
  (restrictions.filter fun restriction => restriction.parameter = number).map Restriction.test

/-- The tests that are made of a parameter.  One without restrictions must be an object. -/
def parameterTests (restrictions : List Restriction) (number : Nat) : List (Test story) :=
  if restrictions.any fun restriction => restriction.parameter = number then
    restrictionTests restrictions number
  else [World.isObject]

/-- The instance meets every restriction on a parameter or, if there are none, is an object. -/
def World.admits (world : World story) (restrictions : List Restriction) (number : Nat)
    (id : InstanceId) : Bool :=
  (parameterTests restrictions number).all fun test => test world id

theorem restrictionTests_cons (restriction : Restriction) (rest : List Restriction)
    (number : Nat) :
    (restrictionTests (restriction :: rest) number : List (Test story)) =
      (if restriction.parameter = number then [restriction.test] else []) ++
        restrictionTests rest number := by
  unfold restrictionTests
  rw [List.filter_cons]
  by_cases here : restriction.parameter = number <;> simp [here]

/-- The test for objects is made where no other one is. -/
theorem parameterTests_eq (restrictions : List Restriction) (number : Nat) :
    (parameterTests restrictions number : List (Test story)) =
      restrictionTests restrictions number ++
        if restrictions.any fun restriction => restriction.parameter = number then []
        else [World.isObject] := by
  unfold parameterTests
  split
  · rw [List.append_nil]
  · next none =>
    have nowhere : (restrictionTests restrictions number : List (Test story)) = [] := by
      unfold restrictionTests
      rw [List.map_eq_nil_iff, List.filter_eq_nil_iff]
      exact List.any_eq_false.mp (Bool.eq_false_iff.mpr none)
    rw [nowhere, List.nil_append]

/-! ## Passing and failing -/

variable {W V : World story → Prop} {tests others : List (Test story)} {id : InstanceId}

/-- An instance passes every test in one of some worlds. -/
def Passes (W : World story → Prop) (tests : List (Test story)) (id : InstanceId) : Prop :=
  ∀ test ∈ tests, ∃ world, W world ∧ test world id = true

/-- An instance fails a test in one of some worlds. -/
def Fails (W : World story → Prop) (tests : List (Test story)) (id : InstanceId) : Prop :=
  ∃ test ∈ tests, ∃ world, W world ∧ test world id = false

namespace Passes

theorem nil : Passes W [] id := List.forall_mem_nil _

theorem singleton {test : Test story} {world : World story} (inW : W world)
    (passes : test world id = true) : Passes W [test] id := by
  intro other member
  rw [List.mem_singleton.mp member]
  exact ⟨world, inW, passes⟩

theorem mono (within : ∀ world, W world → V world) (passes : Passes W tests id) :
    Passes V tests id := by
  intro test member
  obtain ⟨world, inW, pass⟩ := passes test member
  exact ⟨world, within world inW, pass⟩

theorem append (first : Passes W tests id) (second : Passes W others id) :
    Passes W (tests ++ others) id := by
  intro test member
  rcases List.mem_append.mp member with member | member
  · exact first test member
  · exact second test member

end Passes

namespace Fails

theorem singleton {test : Test story} {world : World story} (inW : W world)
    (fails : test world id = false) : Fails W [test] id :=
  ⟨test, List.mem_singleton_self test, world, inW, fails⟩

theorem mono (within : ∀ world, W world → V world) (fails : Fails W tests id) :
    Fails V tests id := by
  obtain ⟨test, member, world, inW, fail⟩ := fails
  exact ⟨test, member, world, within world inW, fail⟩

theorem of_mem (among : ∀ test ∈ tests, test ∈ others) (fails : Fails W tests id) :
    Fails W others id := by
  obtain ⟨test, member, fail⟩ := fails
  exact ⟨test, among test member, fail⟩

end Fails

/-- In one world, one or the other. -/
theorem passes_iff_all {world : World story} :
    Passes (· = world) tests id ↔ (tests.all fun test => test world id) = true := by
  rw [List.all_eq_true]
  constructor
  · intro passes test member
    obtain ⟨_, rfl, pass⟩ := passes test member
    exact pass
  · intro passes test member
    exact ⟨world, rfl, passes test member⟩

theorem fails_iff_not_all {world : World story} :
    Fails (· = world) tests id ↔ (tests.all fun test => test world id) = false := by
  rw [List.all_eq_false]
  constructor
  · rintro ⟨test, member, _, rfl, fail⟩
    exact ⟨test, member, Bool.eq_false_iff.mp fail⟩
  · rintro ⟨test, member, fail⟩
    exact ⟨test, member, world, rfl, Bool.eq_false_iff.mpr fail⟩

/-! ## Instances that are judged -/

namespace Reference

/-- The second reference is what is left of the first one after some tests. -/
inductive Judged (W : World story → Prop) (tests : List (Test story)) (reference : Reference) :
    Reference → Prop where
  /-- What has no instance is not tested. -/
  | void (none : reference.id = 0) : Judged W tests reference reference
  | kept (passes : Passes W tests reference.id) : Judged W tests reference reference
  | dropped (some : reference.id ≠ 0) (fails : Fails W tests reference.id) :
      Judged W tests reference { reference with id := 0 }

variable {r s t : Reference}

theorem Judged.mono (within : ∀ world, W world → V world) (judged : r.Judged W tests s) :
    r.Judged V tests s := by
  cases judged with
  | void none => exact .void none
  | kept passes => exact .kept (passes.mono within)
  | dropped some fails => exact .dropped some (fails.mono within)

theorem Judged.append (first : r.Judged W tests s) (second : s.Judged W others t) :
    r.Judged W (tests ++ others) t := by
  cases first with
  | void none =>
    cases second with
    | void _ => exact .void none
    | kept _ => exact .void none
    | dropped some _ => exact absurd none some
  | kept passes =>
    cases second with
    | void none => exact .void none
    | kept passes' => exact .kept (passes.append passes')
    | dropped some fails =>
      exact .dropped some (fails.of_mem fun _ member => List.mem_append_right _ member)
  | dropped some fails =>
    have dropped : r.Judged W (tests ++ others) { r with id := 0 } :=
      .dropped some (fails.of_mem fun _ member => List.mem_append_left _ member)
    -- once dropped, it stays so
    cases second with
    | void _ => exact dropped
    | kept _ => exact dropped
    | dropped some' _ => exact absurd rfl some'

end Reference

theorem judged_append {rs ss ts : List Reference}
    (first : List.Forall₂ (Reference.Judged W tests) rs ss)
    (second : List.Forall₂ (Reference.Judged W others) ss ts) :
    List.Forall₂ (Reference.Judged W (tests ++ others)) rs ts := by
  refine (forall₂_comp first second).imp ?_
  rintro r t ⟨s, first, second⟩
  exact first.append second

namespace Position

/-- The second position is what is left of the first one after some tests.  A position with one
target has to pass them. -/
structure Judged (W : World story → Prop) (tests : List (Test story)) (position left : Position) :
    Prop where
  same : left = { position with references := left.references, checked := left.checked }
  single : position.multiple = false → left.references = position.references ∧
    Passes W tests position.firstInstance
  several : position.multiple = true →
    List.Forall₂ (Reference.Judged W tests) position.references left.references

variable {p q r : Position}

theorem Judged.multiple_eq (judged : p.Judged W tests q) : q.multiple = p.multiple := by
  rw [judged.same]

theorem Judged.all_eq (judged : p.Judged W tests q) : q.all = p.all := by
  rw [judged.same]

theorem Judged.nil (p : Position) : p.Judged W [] p := by
  refine ⟨rfl, fun _ => ⟨rfl, .nil⟩, fun _ => ?_⟩
  exact List.forall₂_same.mpr fun r _ => .kept .nil

theorem Judged.mono (within : ∀ world, W world → V world) (judged : p.Judged W tests q) :
    p.Judged V tests q := by
  refine ⟨judged.same, fun single => ?_, fun several => ?_⟩
  · obtain ⟨same, passes⟩ := judged.single single
    exact ⟨same, passes.mono within⟩
  · exact (judged.several several).imp fun _ _ judged => judged.mono within

theorem Judged.append (first : p.Judged W tests q) (second : q.Judged W others r) :
    p.Judged W (tests ++ others) r := by
  have multiple := first.multiple_eq
  refine ⟨?_, fun single => ?_, fun several => ?_⟩
  · calc r = { q with references := r.references, checked := r.checked } := second.same
      _ = { p with references := r.references, checked := r.checked } := by rw [first.same]
  · obtain ⟨same, passes⟩ := first.single single
    obtain ⟨same', passes'⟩ := second.single (multiple.trans single)
    have sameFirst : q.firstInstance = p.firstInstance := by
      unfold firstInstance
      rw [same]
    exact ⟨same'.trans same, passes.append (sameFirst ▸ passes')⟩
  · exact judged_append (first.several several) (second.several (multiple.trans several))

end Position

/-! ## Restrictions in turn -/

/-- Telling the player that an instance of several fails a restriction stays within some worlds. -/
def Restriction.RefusesWithin (W : World story → Prop) (setting : Setting story σ)
    (restriction : Restriction) : Prop :=
  ∀ context id (scene : Scene story σ), W scene.world →
    W ((restriction.refuseMember setting context id).run scene).2.world

namespace Restriction

variable {setting : Setting story σ} {context : Context} {silent : Bool}
  {restriction : Restriction} {scene : Scene story σ}

theorem dropMember_run (reference : Reference) :
    (restriction.dropMember setting context silent reference).run scene =
      if reference.id = 0 || scene.world.meets restriction.requirement reference.id then
        (reference, scene)
      else ({ reference with id := 0 },
        ((Play.onlyIf (!silent)
          (restriction.refuseMember setting context reference.id)).run scene).2) := by
  unfold dropMember
  rw [Play.run_bind, Play.run_world]
  dsimp only
  split <;> rfl

theorem dropMember_judged (context : Context)
    (tells : silent = false → restriction.RefusesWithin W setting)
    (inW : W scene.world) (reference : Reference) :
    W ((restriction.dropMember setting context silent reference).run scene).2.world ∧
      reference.Judged W [restriction.test]
        ((restriction.dropMember setting context silent reference).run scene).1 := by
  rw [dropMember_run]
  split
  · next passes =>
    refine ⟨inW, ?_⟩
    rw [Bool.or_eq_true, decide_eq_true_eq] at passes
    rcases passes with none | meets
    · exact .void none
    · exact .kept (.singleton inW meets)
  · next fails =>
    rw [Bool.or_eq_true, decide_eq_true_eq] at fails
    obtain ⟨some, fails⟩ := not_or.mp fails
    refine ⟨?_, .dropped some (.singleton inW (Bool.eq_false_iff.mpr fails))⟩
    cases silent with
    | true => exact inW
    | false => exact tells rfl context reference.id scene inW

theorem dropMembers_judged (context : Context)
    (tells : silent = false → restriction.RefusesWithin W setting)
    (inW : W scene.world) (references : List Reference) :
    W ((restriction.dropMembers setting context silent references).run scene).2.world ∧
      List.Forall₂ (Reference.Judged W [restriction.test]) references
        ((restriction.dropMembers setting context silent references).run scene).1 := by
  induction references generalizing scene with
  | nil => exact ⟨inW, .nil⟩
  | cons reference rest ih =>
    obtain ⟨between, first⟩ := dropMember_judged context tells inW reference
    obtain ⟨after, others⟩ := ih between
    exact ⟨after, .cons first others⟩

theorem applyTo_of_single {position : Position} (single : position.multiple = false) :
    (restriction.applyTo setting context position).run scene =
      if scene.world.meets restriction.requirement position.firstInstance then
        (.success { position with checked := true }, scene)
      else (.failure position ((restriction.reject setting context).run scene).1,
        ((restriction.reject setting context).run scene).2) := by
  unfold applyTo
  rw [if_neg (Bool.eq_false_iff.mp single), Play.run_bind, Play.run_world]
  dsimp only
  split <;> rfl

theorem applyTo_eq_success {position left : Position}
    (tells : position.multiple = true → position.all = false →
      restriction.RefusesWithin W setting)
    (inW : W scene.world)
    (success : ((restriction.applyTo setting context position).run scene).1 = .success left) :
    W ((restriction.applyTo setting context position).run scene).2.world ∧
      position.Judged W [restriction.test] left ∧ left.checked = true := by
  by_cases multiple : position.multiple = true
  · unfold applyTo at success ⊢
    rw [if_pos multiple] at success ⊢
    obtain ⟨after, judged⟩ := dropMembers_judged context (tells multiple) inW
      position.references
    cases success
    refine ⟨after, ⟨rfl, fun single => ?_, fun _ => judged⟩, rfl⟩
    exact absurd multiple (Bool.eq_false_iff.mp single)
  · rw [applyTo_of_single (Bool.eq_false_iff.mpr multiple)] at success ⊢
    by_cases meets : scene.world.meets restriction.requirement position.firstInstance = true
    · rw [if_pos meets] at success ⊢
      cases success
      exact ⟨inW, ⟨rfl, fun _ => ⟨rfl, .singleton inW meets⟩,
        fun several => absurd several multiple⟩, rfl⟩
    · rw [if_neg meets] at success
      cases success

end Restriction

/-- All that is told of instances that are dropped stays within some worlds.  Nothing is told of
those that all swept up. -/
def RefusalsWithin (W : World story → Prop) (setting : Setting story σ) (positions : List Position)
    (restrictions : List Restriction) : Prop :=
  ∀ position ∈ positions, position.multiple = true → position.all = false →
    ∀ restriction ∈ restrictions, restriction.RefusesWithin W setting

section InTurn

variable {setting : Setting story σ} {context : Context} {restriction : Restriction}
  {rest restrictions : List Restriction} {positions left : List Position} {scene : Scene story σ}

theorem applyRestrictions_missing (context : Context) (rest : List Restriction)
    (scene : Scene story σ) (missing : entryAt positions restriction.parameter = none) :
    ∃ records, (applyRestrictions setting context positions (restriction :: rest)).run scene =
      (applyRestrictions setting context positions rest).run
        { scene with log := scene.log ++ records } := by
  rw [applyRestrictions, missing]
  exact ⟨_, rfl⟩

theorem applyRestrictions_there (context : Context) (rest : List Restriction)
    (scene : Scene story σ) {position : Position}
    (found : entryAt positions restriction.parameter = some position) :
    let applied := (restriction.applyTo setting context position).run scene
    let changed := positions.set (restriction.parameter - 1) applied.1.value
    (applyRestrictions setting context positions (restriction :: rest)).run scene =
      match applied.1.fault with
      | some fault => (.failure changed fault, applied.2)
      | none => (applyRestrictions setting context changed rest).run applied.2 := by
  rw [applyRestrictions, found]
  simp only [Play.run_bind]
  generalize (restriction.applyTo setting context position).run scene = applied
  obtain ⟨⟨q, fault⟩, after⟩ := applied
  cases fault <;> rfl

theorem applyRestrictions_found {position : Position}
    (found : entryAt positions restriction.parameter = some position)
    (success : ((applyRestrictions setting context positions (restriction :: rest)).run scene).1 =
      .success left) :
    ∃ q, ((restriction.applyTo setting context position).run scene).1 = .success q ∧
      (applyRestrictions setting context positions (restriction :: rest)).run scene =
        (applyRestrictions setting context (positions.set (restriction.parameter - 1) q) rest).run
          ((restriction.applyTo setting context position).run scene).2 := by
  rw [applyRestrictions_there context rest scene found] at success ⊢
  generalize (restriction.applyTo setting context position).run scene = applied at success ⊢
  obtain ⟨⟨q, fault⟩, after⟩ := applied
  cases fault with
  | some fault => cases success
  | none => exact ⟨q, rfl, rfl⟩

theorem RefusalsWithin.tail (tells : RefusalsWithin W setting positions (restriction :: rest)) :
    RefusalsWithin W setting positions rest := by
  intro position member multiple notAll restriction later
  exact tells position member multiple notAll restriction (List.mem_cons_of_mem _ later)

/-- A position that takes the place of another one speaks no more than that one did. -/
theorem RefusalsWithin.set (tells : RefusalsWithin W setting positions restrictions)
    {index : Nat} {position q : Position} (there : positions[index]? = some position)
    (judged : position.Judged W tests q) :
    RefusalsWithin W setting (positions.set index q) restrictions := by
  intro p member multiple notAll
  rcases List.mem_or_eq_of_mem_set member with old | rfl
  · exact tells p old multiple notAll
  · exact tells position (List.mem_of_getElem? there) (judged.multiple_eq ▸ multiple)
      (judged.all_eq ▸ notAll)

/-- **Every restriction is applied to its own parameter.**  If restrictions are applied without a
fault, every position keeps its place and is left with what passes the restrictions on it. -/
theorem applyRestrictions_eq_success
    (tells : RefusalsWithin W setting positions restrictions) (inW : W scene.world)
    (success : ((applyRestrictions setting context positions restrictions).run scene).1 =
      .success left) :
    W ((applyRestrictions setting context positions restrictions).run scene).2.world ∧
      left.length = positions.length ∧
      ∀ i position, positions[i]? = some position → ∃ q, left[i]? = some q ∧
        position.Judged W (restrictionTests restrictions (i + 1)) q ∧
        q.checked = (position.checked ||
          restrictions.any fun restriction => restriction.parameter = i + 1) := by
  -- each restriction changes one position and perhaps the world for those after it
  induction restrictions generalizing positions scene with
  | nil =>
    cases success
    refine ⟨inW, rfl, fun i position found => ⟨position, found, .nil position, ?_⟩⟩
    exact (Bool.or_false _).symm
  | cons restriction rest ih =>
    cases found : entryAt positions restriction.parameter with
    | none =>
      obtain ⟨records, run⟩ := applyRestrictions_missing context rest scene found
      rw [run] at success ⊢
      have inW' : W { scene with log := scene.log ++ records }.world := inW
      obtain ⟨after, length, places⟩ := ih tells.tail inW' success
      refine ⟨after, length, fun i position there => ?_⟩
      -- there is no such parameter, so it is not this one
      have elsewhere : restriction.parameter ≠ i + 1 := by
        intro here
        rw [entryAt_eq_some.mpr ⟨i, here, there⟩] at found
        cases found
      rw [restrictionTests_cons, if_neg elsewhere, List.nil_append, List.any_cons,
        decide_eq_false elsewhere, Bool.false_or]
      exact places i position there
    | some position =>
      obtain ⟨q, applied, run⟩ := applyRestrictions_found found success
      rw [run] at success ⊢
      obtain ⟨index, parameter, there⟩ := entryAt_eq_some.mp found
      rw [parameter, Nat.add_sub_cancel] at success ⊢
      obtain ⟨between, judged, checked⟩ := Restriction.applyTo_eq_success
        (fun multiple notAll => tells position (List.mem_of_getElem? there) multiple notAll
          restriction (List.mem_cons_self ..)) inW applied
      obtain ⟨after, length, places⟩ := ih (tells.tail.set there judged) between success
      refine ⟨after, length.trans List.length_set, fun i p there' => ?_⟩
      rw [restrictionTests_cons, List.any_cons]
      by_cases here : index = i
      · -- the tests of the restriction, and then those of the rest
        subst here
        rw [there] at there'
        cases there'
        have inRange := (List.getElem?_eq_some_iff.mp there).1
        obtain ⟨left, found, judged', checked'⟩ :=
          places index q (List.getElem?_set_self inRange)
        rw [if_pos parameter, decide_eq_true parameter]
        refine ⟨left, found, judged.append judged', ?_⟩
        rw [checked', checked, Bool.true_or, Bool.or_true]
      · have elsewhere : restriction.parameter ≠ i + 1 := by omega
        rw [if_neg elsewhere, List.nil_append, decide_eq_false elsewhere, Bool.false_or]
        exact places i p (by rw [List.getElem?_set_ne here, there'])

end InTurn

/-! ## Positions without restrictions -/

theorem Position.requireObject_eq_success {world : World story} {number : Nat} {p q : Position}
    (success : p.requireObject world number = .success q) :
    p.Judged (· = world) (if p.checked then [] else [World.isObject]) q := by
  unfold requireObject at success
  split at success
  · next checked =>
    cases success
    rw [if_pos checked]
    exact .nil p
  · next unchecked =>
    rw [if_neg unchecked]
    split at success
    · next multiple =>
      -- several instances are dropped one by one, as by a restriction
      cases success
      refine ⟨rfl, fun single => absurd multiple (Bool.eq_false_iff.mp single), fun _ => ?_⟩
      refine List.forall₂_map_right_iff.mpr (List.forall₂_same.mpr fun r _ => ?_)
      split
      · next fails =>
        rw [Bool.and_eq_true, bne_iff_ne, Bool.not_eq_true'] at fails
        exact .dropped fails.1 (.singleton rfl fails.2)
      · next passes =>
        by_cases none : r.id = 0
        · exact .void none
        · exact .kept (.singleton rfl (by simpa [none] using passes))
    · next single =>
      split at success
      · next isObject =>
        cases success
        exact ⟨rfl, fun _ => ⟨rfl, .singleton rfl isObject⟩,
          fun multiple => absurd multiple single⟩
      · cases success

theorem requireObjects_eq_success {world : World story} {positions left : List Position}
    (success : requireObjects world positions = .success left) :
    left.length = positions.length ∧ ∀ (i : Nat) (p : Position), positions[i]? = some p →
      ∃ q, left[i]? = some q ∧
        p.Judged (· = world) (if p.checked then [] else [World.isObject]) q := by
  obtain ⟨numbered, each, rfl⟩ := Attempt.map_eq_success.mp success
  have all := Attempt.each_eq_success.mp each
  refine ⟨?_, fun i p found => ?_⟩
  · rw [List.length_map, ← all.length_eq, List.length_zipIdx]
  · have there : (positions.zipIdx 1)[i]? = some (p, 1 + i) := by
      rw [List.getElem?_zipIdx, found]
      rfl
    obtain ⟨entry, found', required⟩ := forall₂_getElem? all there
    obtain ⟨q, object, rfl⟩ := Attempt.map_eq_success.mp required
    refine ⟨q, ?_, Position.requireObject_eq_success object⟩
    rw [List.getElem?_map, found']
    rfl

/-! ## All restrictions of a form -/

/-- The position before any restriction has been applied to it. -/
def Position.unchecked (position : Position) : Position := { position with checked := false }

theorem restrictPositions_run (setting : Setting story σ) (verb : WordCode)
    (restrictions : List Restriction) (positions : List Position) (scene : Scene story σ) :
    let unchecked := positions.map Position.unchecked
    let applied := (applyRestrictions setting { verb, parameters := parameterVector unchecked }
      unchecked restrictions).run scene
    (restrictPositions setting verb restrictions positions).run scene =
      ((applied.1.andThen (requireObjects applied.2.world)).andThen fun positions =>
        .success (positions.map Position.compress), applied.2) := rfl

/-- **Only what passes its tests is left.**  If a command gets through the restrictions of its form,
every position keeps its place and is left with the instances that pass the tests of its
parameter. -/
theorem restrictPositions_eq_success {setting : Setting story σ} {verb : WordCode}
    {restrictions : List Restriction} {positions left : List Position} {scene : Scene story σ}
    (tells : RefusalsWithin W setting positions restrictions) (inW : W scene.world)
    (success : ((restrictPositions setting verb restrictions positions).run scene).1 =
      .success left) :
    W ((restrictPositions setting verb restrictions positions).run scene).2.world ∧
      left.length = positions.length ∧ ∀ (i : Nat) (p : Position), positions[i]? = some p →
        ∃ q : Position, left[i]? = some q.compress ∧
          p.Judged W (parameterTests restrictions (i + 1)) q := by
  have tells' : RefusalsWithin W setting (positions.map Position.unchecked) restrictions := by
    intro position member multiple notAll
    obtain ⟨old, old_mem, rfl⟩ := List.mem_map.mp member
    exact tells old old_mem multiple notAll
  rw [restrictPositions_run] at success ⊢
  dsimp only at success ⊢
  obtain ⟨objects, restricted, same⟩ := Attempt.andThen_eq_success.mp success
  cases same
  obtain ⟨applied, first, second⟩ := Attempt.andThen_eq_success.mp restricted
  obtain ⟨after, length, places⟩ := applyRestrictions_eq_success tells' inW first
  obtain ⟨length', places'⟩ := requireObjects_eq_success second
  refine ⟨after, ?_, fun i p found => ?_⟩
  · rw [List.length_map, length', length, List.length_map]
  · have found' : (positions.map Position.unchecked)[i]? = some p.unchecked := by
      rw [List.getElem?_map, found]
      rfl
    obtain ⟨q, there, judged, checked⟩ := places i _ found'
    obtain ⟨r, there', judged'⟩ := places' i q there
    refine ⟨r, ?_, ?_⟩
    · rw [List.getElem?_map, there']
      rfl
    · have both := judged.append (judged'.mono (by rintro _ rfl; exact after))
      rw [checked, show p.unchecked.checked = false from rfl, Bool.false_or,
        ← parameterTests_eq] at both
      exact ⟨both.same, both.single, both.several⟩

/-! ## Which instances are left -/

namespace Position

variable {p q : Position}

/-- What is left of several instances was there before and passed every test. -/
theorem Judged.passes_of_mem (judged : p.Judged W tests q) (several : p.multiple = true)
    {id : InstanceId} (left : id ∈ q.instances) :
    id ∈ p.instances ∧ Passes W tests id := by
  obtain ⟨some, r', member, rfl⟩ := mem_instances.mp left
  obtain ⟨r, member, judged⟩ := forall₂_right (judged.several several) member
  cases judged with
  | void none => exact absurd none some
  | kept passes => exact ⟨mem_instances.mpr ⟨some, _, member, rfl⟩, passes⟩
  | dropped _ _ => exact absurd rfl some

/-- What is not left of several instances failed a test. -/
theorem Judged.left_or_fails (judged : p.Judged W tests q) (several : p.multiple = true)
    {id : InstanceId} (before : id ∈ p.instances) :
    id ∈ q.instances ∨ Fails W tests id := by
  obtain ⟨some, r, member, rfl⟩ := mem_instances.mp before
  obtain ⟨r', member, judged⟩ := forall₂_left (judged.several several) member
  cases judged with
  | void none => exact absurd none some
  | kept _ => exact Or.inl (mem_instances.mpr ⟨some, r, member, rfl⟩)
  | dropped _ fails => exact Or.inr fails

/-- In one world the tests are a filter. -/
theorem Judged.instances_eq_filter {world : World story} (judged : p.Judged (· = world) tests q)
    (several : p.multiple = true) :
    q.instances = p.instances.filter fun id => tests.all fun test => test world id := by
  unfold instances
  have all := judged.several several
  generalize p.references = rs, q.references = rs' at all ⊢
  induction all with
  | nil => rfl
  | @cons r r' rs rs' judged _ ih =>
    rw [List.map_cons, List.map_cons, List.filter_cons, List.filter_cons, ih]
    cases judged with
    | void none => simp [none]
    | kept passes =>
      have all := passes_iff_all.mp passes
      by_cases none : r.id = 0
      · simp [none]
      · have here := bne_iff_ne.mpr none
        rw [if_pos here, if_pos here, List.filter_cons, if_pos all]
    | dropped some fails =>
      have notAll := Bool.eq_false_iff.mp (fails_iff_not_all.mp fails)
      rw [if_pos (bne_iff_ne.mpr some), List.filter_cons, if_neg notAll]
      rfl

end Position

/-! ## The worlds that restrictions lead to -/

/-- The worlds that the statements of some restrictions can lead to. -/
inductive Interpreter.Refuses (interpreter : Interpreter story σ) (restrictions : List Restriction)
    (world : World story) : World story → Prop where
  | start : Refuses interpreter restrictions world world
  | execute {before : World story} (restriction : Restriction) (member : restriction ∈ restrictions)
      (statements : CodeAddress) (own : restriction.statements = some statements)
      (context : Context) (state : σ) :
      Refuses interpreter restrictions world before →
        Refuses interpreter restrictions world
          (interpreter.execute statements context before state).world

/-- The world after the player has been told that a restriction is not met. -/
theorem Restriction.refuse_world (setting : Setting story σ) (context : Context)
    (restriction : Restriction) (scene : Scene story σ) :
    ((restriction.refuse setting context).run scene).2.world =
      match restriction.statements with
      | none => scene.world
      | some statements =>
        (setting.interpreter.execute statements context scene.world scene.state).world := by
  unfold refuse trace Play.traceSection
  rw [Play.run_bind, Play.run_onlyIf]
  cases restriction.statements with
  | none => cases setting.tracing.sections <;> rfl
  | some statements =>
    dsimp only
    rw [Play.run_bind]
    -- a trace changes no world, and neither does the warning if the statements fail
    cases setting.tracing.sections with
    | true => split <;> rfl
    | false => split <;> rfl

/-- Telling the player of an instance runs nothing but the statements of the restriction. -/
theorem Restriction.refusesWithin_refuses (setting : Setting story σ)
    {restrictions : List Restriction} {restriction : Restriction}
    (member : restriction ∈ restrictions) (world : World story) :
    restriction.RefusesWithin (setting.interpreter.Refuses restrictions world) setting := by
  intro context id scene refuses
  let context' := { context with
    parameters := context.parameters.set (restriction.parameter - 1) id }
  let marked := ((Play.say [.marker (scene.world.messageParameter id)] : Play story σ Unit).run
    scene).2
  show setting.interpreter.Refuses restrictions world
    ((restriction.refuse setting context').run marked).2.world
  rw [refuse_world]
  cases own : restriction.statements with
  | none => exact refuses
  | some statements => exact .execute restriction member statements own context' _ refuses

end TextAdventure
