import TextAdventure.Proofs.Validity
/-!
# What several restrictions leave

The restrictions of a form are applied one after the other, each to what those before it have left
of its parameter.  While the literals stay as they are, an instance meets the same restrictions in
every world, so that it makes no difference in which order they are: of several instances those are
left that meet them all (`World.admits_perm`).  What does make a difference is which restriction an
instance is the first not to meet, as that is the one to tell the player of it
(`World.refusals_perm`).
-/

namespace TextAdventure

variable {story : Story} {α : Type}

/-! ## What is decided -/

/-- The instances that have been listed for a parameter; those of all are not. -/
def listedFor (positions : List Position) (number : Nat) : List InstanceId :=
  match entryAt positions number with
  | some position => if position.multiple && !position.all then position.instances else []
  | none => []

namespace World

variable {world : World story} {positions : List Position}
  {restrictions earlier rest : List Restriction} {restriction : Restriction} {number : Nat}
  {id : InstanceId}

/-- The instance meets all of some restrictions that are on a parameter. -/
def meetsAll (world : World story) (restrictions : List Restriction) (number : Nat)
    (id : InstanceId) : Bool :=
  (restrictionTests restrictions number).all fun test => test world id

theorem meetsAll_nil : world.meetsAll [] number id = true := rfl

theorem meetsAll_cons (restriction : Restriction) (rest : List Restriction) :
    world.meetsAll (restriction :: rest) number id =
      ((restriction.parameter != number || world.meets restriction.requirement id) &&
        world.meetsAll rest number id) := by
  unfold meetsAll
  rw [restrictionTests_cons, List.all_append]
  by_cases here : restriction.parameter = number <;> simp [here, Restriction.test]

theorem meetsAll_append (earlier rest : List Restriction) :
    world.meetsAll (earlier ++ rest) number id =
      (world.meetsAll earlier number id && world.meetsAll rest number id) := by
  induction earlier with
  | nil => rw [List.nil_append, meetsAll_nil, Bool.true_and]
  | cons restriction earlier ih =>
    rw [List.cons_append, meetsAll_cons, meetsAll_cons, ih, Bool.and_assoc]

/-- One more restriction is one more test of its own parameter. -/
theorem meetsAll_concat_self (earlier : List Restriction) (restriction : Restriction) :
    world.meetsAll (earlier ++ [restriction]) restriction.parameter = fun id =>
      world.meetsAll earlier restriction.parameter id &&
        world.meets restriction.requirement id := by
  funext id
  rw [meetsAll_append, meetsAll_cons, meetsAll_nil]
  simp

/-- And of no other. -/
theorem meetsAll_concat_of_ne (earlier : List Restriction) {restriction : Restriction}
    (elsewhere : restriction.parameter ≠ number) :
    world.meetsAll (earlier ++ [restriction]) number = world.meetsAll earlier number := by
  funext id
  rw [meetsAll_append, meetsAll_cons, meetsAll_nil]
  simp [elsewhere]

theorem admits_eq :
    world.admits restrictions number id =
      (world.meetsAll restrictions number id &&
        ((restrictions.any fun restriction => restriction.parameter = number) ||
          world.isObject id)) := by
  unfold admits
  rw [parameterTests_eq, List.all_append]
  cases restrictions.any fun restriction => decide (restriction.parameter = number) <;>
    simp [meetsAll]

/-- The order of the restrictions makes no difference to what they admit. -/
theorem admits_perm {other : List Restriction} (perm : other.Perm restrictions) :
    world.admits other number id = world.admits restrictions number id := by
  have tests : (restrictionTests other number : List (Test story)).Perm
      (restrictionTests restrictions number) := (perm.filter _).map _
  rw [admits_eq, admits_eq, perm.any_eq]
  unfold meetsAll
  rw [tests.all_eq]

/-- The restriction is on a single instance, which does not meet it. -/
def rejects (world : World story) (positions : List Position) (restriction : Restriction) : Bool :=
  match entryAt positions restriction.parameter with
  | some position =>
    !position.multiple && !world.meets restriction.requirement position.firstInstance
  | none => false

/-- The listed instances that a restriction is the first to drop, after some earlier ones. -/
def refusedBy (world : World story) (positions : List Position) (earlier : List Restriction)
    (restriction : Restriction) : List InstanceId :=
  (listedFor positions restriction.parameter).filter fun id =>
    world.meetsAll earlier restriction.parameter id && !world.meets restriction.requirement id

/-- The instances that the player is told of, each with the restriction that it is told of by, when
restrictions are applied after some earlier ones: up to the first that ends the command. -/
def refusals (world : World story) (positions : List Position) :
    List Restriction → List Restriction → List (Restriction × InstanceId)
  | _, [] => []
  | earlier, restriction :: rest =>
    if world.rejects positions restriction then []
    else (world.refusedBy positions earlier restriction).map (restriction, ·) ++
      world.refusals positions (earlier ++ [restriction]) rest

/-- The first restriction on a parameter that the instance does not meet. -/
def firstFailed (world : World story) (restrictions : List Restriction) (number : Nat)
    (id : InstanceId) : Option Restriction :=
  restrictions.find? fun restriction =>
    restriction.parameter = number && !world.meets restriction.requirement id

/-- **Whatever is dropped from a list is told of once, by the first restriction that it fails.** -/
theorem refusals_perm (world : World story) (positions : List Position)
    (earlier restrictions : List Restriction) (number : Nat) :
    ((world.refusals positions earlier restrictions).filter fun refusal =>
        refusal.1.parameter = number).Perm
      (((listedFor positions number).filter (world.meetsAll earlier number)).filterMap fun id =>
        (world.firstFailed (restrictions.takeWhile (!world.rejects positions ·)) number id).map
          (·, id)) := by
  induction restrictions generalizing earlier with
  | nil => simp [refusals, firstFailed]
  | cons restriction rest ih =>
    have later := ih (earlier ++ [restriction])
    unfold refusals
    by_cases rejected : world.rejects positions restriction = true
    · simp [rejected, firstFailed]
    · rw [if_neg rejected, List.takeWhile_cons_of_pos (by simp [rejected]), List.filter_append]
      by_cases here : restriction.parameter = number
      · -- some fail this one, and the others wait for the rest
        subst here
        have first (id : InstanceId) :
            (world.firstFailed
                (restriction :: rest.takeWhile (!world.rejects positions ·))
                restriction.parameter id).map (·, id) =
              if !world.meets restriction.requirement id then some (restriction, id)
              else (world.firstFailed (rest.takeWhile (!world.rejects positions ·))
                restriction.parameter id).map (·, id) := by
          unfold firstFailed
          rw [List.find?_cons]
          cases world.meets restriction.requirement id <;> simp
        simp only [first]
        refine List.Perm.trans ?_ (filterMap_perm _ _ _ _).symm
        refine List.Perm.append (List.Perm.of_eq ?_) (later.trans (List.Perm.of_eq ?_))
        · rw [List.filter_map, List.filter_eq_self.mpr (by simp), refusedBy, List.filter_filter]
          simp only [Bool.and_comm]
        · rw [List.filter_filter, meetsAll_concat_self]
          simp only [Bool.not_not, Bool.and_comm]
      · -- this one says nothing about the parameter
        have nothing : ((world.refusedBy positions earlier restriction).map
            (restriction, ·)).filter (fun refusal => refusal.1.parameter = number) = [] := by
          simp [here]
        have others (id : InstanceId) :
            world.firstFailed (restriction :: rest.takeWhile (!world.rejects positions ·)) number
                id =
              world.firstFailed (rest.takeWhile (!world.rejects positions ·)) number id := by
          unfold firstFailed
          rw [List.find?_cons_of_neg (by simp [here])]
        rw [meetsAll_concat_of_ne earlier here] at later
        simpa only [nothing, List.nil_append, others] using later

end World

/-! ## What is left -/

/-- The reference, without an instance if that does not pass. -/
def Reference.sift (passes : InstanceId → Bool) (reference : Reference) : Reference :=
  if reference.id = 0 || passes reference.id then reference else { reference with id := 0 }

theorem Reference.sift_sift (passes others : InstanceId → Bool) (reference : Reference) :
    (reference.sift passes).sift others = reference.sift fun id => passes id && others id := by
  unfold sift
  by_cases none : reference.id = 0
  · simp [none]
  · cases first : passes reference.id <;> simp [none, first]

namespace Position

variable {passes others : InstanceId → Bool} {position : Position} {world : World story}

/-- The position without those of several instances that do not pass. -/
def sift (passes : InstanceId → Bool) (position : Position) : Position :=
  { position with
    references :=
      if position.multiple then position.references.map (·.sift passes) else position.references }

theorem sift_of_single (single : position.multiple = false) : position.sift passes = position := by
  unfold sift
  rw [if_neg (Bool.eq_false_iff.mp single)]

theorem references_sift (several : position.multiple = true) :
    (position.sift passes).references = position.references.map (·.sift passes) := by
  simp [sift, several]

theorem sift_sift (passes others : InstanceId → Bool) (position : Position) :
    (position.sift passes).sift others = position.sift fun id => passes id && others id := by
  by_cases several : position.multiple = true
  · simp [sift, several, Reference.sift_sift]
  · have single := Bool.eq_false_iff.mpr several
    rw [sift_of_single single, sift_of_single single, sift_of_single single]

theorem compress_sift (passes : InstanceId → Bool) (position : Position) :
    (position.sift passes).compress =
      { position with
        references := position.references.filter fun reference =>
          reference.id != 0 && (!position.multiple || passes reference.id) } := by
  by_cases several : position.multiple = true
  · have left (references : List Reference) :
        (references.map (·.sift passes)).filter (·.id != 0) =
          references.filter fun reference => reference.id != 0 && passes reference.id := by
      induction references with
      | nil => rfl
      | cons reference rest ih =>
        rw [List.map_cons, List.filter_cons, List.filter_cons, ih]
        by_cases none : reference.id = 0
        · simp [Reference.sift, none]
        · cases pass : passes reference.id <;> simp [Reference.sift, none, pass]
    simp [compress, sift, several, left]
  · have single := Bool.eq_false_iff.mpr several
    rw [sift_of_single single]
    simp [compress, single]

/-- The instances that are left are those that pass. -/
theorem instances_sift (several : position.multiple = true) :
    (position.sift passes).instances = position.instances.filter passes := by
  rw [← instances_compress, compress_sift]
  unfold instances
  simp only [several, Bool.not_true, Bool.false_or, List.filter_map, List.filter_filter,
    Function.comp_def]
  congr 2
  funext reference
  cases passes reference.id <;> simp

/-- What some restrictions on a parameter have left of its position. -/
def judgedBy (world : World story) (restrictions : List Restriction) (number : Nat)
    (position : Position) : Position :=
  { position.sift (world.meetsAll restrictions number) with
    checked := restrictions.any fun restriction => restriction.parameter = number }

/-- A single instance stays where it is. -/
theorem firstInstance_judgedBy (world : World story) (restrictions : List Restriction)
    (number : Nat) (single : position.multiple = false) :
    (position.judgedBy world restrictions number).firstInstance = position.firstInstance := by
  unfold judgedBy
  rw [sift_of_single single]
  rfl

theorem judgedBy_nil (number : Nat) : position.judgedBy world [] number = position.unchecked := by
  by_cases several : position.multiple = true
  · simp [judgedBy, unchecked, sift, several, Reference.sift, World.meetsAll_nil]
  · simp [judgedBy, unchecked, sift, several]

theorem judgedBy_concat (earlier : List Restriction) (restriction : Restriction) :
    position.judgedBy world (earlier ++ [restriction]) restriction.parameter =
      { (position.judgedBy world earlier restriction.parameter).sift
          (world.meets restriction.requirement) with
        checked := true } := by
  have sifted := position.sift_sift (world.meetsAll earlier restriction.parameter)
    (world.meets restriction.requirement)
  unfold judgedBy
  rw [World.meetsAll_concat_self, ← sifted]
  simp [sift]

theorem judgedBy_concat_of_ne {number : Nat} (earlier : List Restriction)
    {restriction : Restriction} (elsewhere : restriction.parameter ≠ number) :
    position.judgedBy world (earlier ++ [restriction]) number =
      position.judgedBy world earlier number := by
  unfold judgedBy
  rw [World.meetsAll_concat_of_ne earlier elsewhere]
  simp [elsewhere]

/-- What some restrictions have left of the positions of a command. -/
def judgeAll (world : World story) (restrictions : List Restriction) (positions : List Position) :
    List Position :=
  positions.mapIdx fun slot position => position.judgedBy world restrictions (slot + 1)

theorem getElem?_judgeAll (restrictions : List Restriction) (positions : List Position)
    (slot : Nat) :
    (judgeAll world restrictions positions)[slot]? =
      positions[slot]?.map (·.judgedBy world restrictions (slot + 1)) :=
  List.getElem?_mapIdx

theorem judgeAll_nil (positions : List Position) :
    judgeAll world [] positions = positions.map unchecked := by
  apply List.ext_getElem?
  intro slot
  rw [getElem?_judgeAll, List.getElem?_map]
  simp only [judgedBy_nil]

theorem entryAt_judgeAll (restrictions : List Restriction) (positions : List Position)
    (number : Nat) :
    entryAt (judgeAll world restrictions positions) number =
      (entryAt positions number).map (·.judgedBy world restrictions number) := by
  cases number with
  | zero => rfl
  | succ slot => exact getElem?_judgeAll restrictions positions slot

/-- A restriction changes what is left of its own position. -/
theorem judgeAll_set {positions : List Position} {restriction : Restriction}
    (found : entryAt positions restriction.parameter = some position)
    (earlier : List Restriction) :
    (judgeAll world earlier positions).set (restriction.parameter - 1)
        (position.judgedBy world (earlier ++ [restriction]) restriction.parameter) =
      judgeAll world (earlier ++ [restriction]) positions := by
  obtain ⟨index, parameter, there⟩ := entryAt_eq_some.mp found
  apply List.ext_getElem?
  intro slot
  rw [getElem?_judgeAll, parameter, Nat.add_sub_cancel]
  by_cases here : index = slot
  · subst here
    have inRange : index < (judgeAll world earlier positions).length := by
      rw [judgeAll, List.length_mapIdx]
      exact (List.getElem?_eq_some_iff.mp there).1
    rw [List.getElem?_set_self inRange, there]
    rfl
  · rw [List.getElem?_set_ne here, getElem?_judgeAll]
    have elsewhere : restriction.parameter ≠ slot + 1 := by omega
    simp only [judgedBy_concat_of_ne earlier elsewhere]

/-- And one on a parameter that does not exist changes nothing. -/
theorem judgeAll_missing {positions : List Position} {restriction : Restriction}
    (missing : entryAt positions restriction.parameter = none) (earlier : List Restriction) :
    judgeAll world (earlier ++ [restriction]) positions = judgeAll world earlier positions := by
  apply List.ext_getElem?
  intro slot
  rw [getElem?_judgeAll, getElem?_judgeAll]
  cases there : positions[slot]? with
  | none => rfl
  | some position =>
    have elsewhere : restriction.parameter ≠ slot + 1 := by
      intro here
      rw [here, entryAt_succ, there] at missing
      cases missing
    simp only [judgedBy_concat_of_ne earlier elsewhere]

/-- What is left of a position in the end: of several instances those that are admitted. -/
def leftBy (world : World story) (restrictions : List Restriction) (number : Nat)
    (position : Position) : Position :=
  { position with
    references := position.references.filter fun reference =>
      reference.id != 0 && (!position.multiple || world.admits restrictions number reference.id)
    checked := restrictions.any fun restriction => restriction.parameter = number }

theorem leftBy_eq (world : World story) (restrictions : List Restriction) (number : Nat)
    (position : Position) :
    position.leftBy world restrictions number =
      { (position.sift (world.admits restrictions number)).compress with
        checked := restrictions.any fun restriction => restriction.parameter = number } := by
  rw [compress_sift]
  rfl

end Position

/-! ## Positions without restrictions -/

theorem requireObjects_of_fault_none {world : World story} {positions : List Position}
    (through : ∀ (slot : Nat) position, positions[slot]? = some position →
      (position.requireObject world (slot + 1)).fault = none) :
    requireObjects world positions = .success
      (positions.mapIdx fun slot position => (position.requireObject world (slot + 1)).value) := by
  unfold requireObjects
  rw [Attempt.each_of_fault_none]
  · refine congrArg Attempt.success (List.ext_getElem? fun slot => ?_)
    show (((positions.zipIdx 1).map _).map _)[slot]? = _
    rw [List.getElem?_map, List.getElem?_map, List.getElem?_zipIdx, List.getElem?_mapIdx]
    cases positions[slot]? with
    | none => rfl
    | some position =>
      rw [Nat.add_comm slot 1]
      rfl
  · rintro ⟨position, number⟩ member
    obtain ⟨positive, there⟩ := List.mk_mem_zipIdx_iff_le_and_getElem?_sub.mp member
    have := through (number - 1) position there
    rwa [Nat.sub_add_cancel positive] at this

namespace Position

variable {world now : World story} {number : Nat} {restrictions : List Restriction}

theorem requireObject_of_several (position : Position) (unchecked : position.checked = false)
    (several : position.multiple = true) :
    position.requireObject world number = .success (position.sift world.isObject) := by
  have dropped (reference : Reference) :
      (if reference.id != 0 && !world.isObject reference.id then { reference with id := 0 }
        else reference) = reference.sift world.isObject := by
    unfold Reference.sift
    by_cases none : reference.id = 0
    · simp [none]
    · cases world.isObject reference.id <;> simp [none]
  unfold requireObject sift
  rw [if_neg (Bool.eq_false_iff.mp unchecked), if_pos several, if_pos several]
  simp only [dropped]

theorem requireObject_of_single (position : Position) (single : position.multiple = false)
    (holds : position.checked = false → world.isObject position.firstInstance = true) :
    position.requireObject world number = .success position := by
  unfold requireObject
  split
  · rfl
  · next unchecked =>
    rw [if_neg (Bool.eq_false_iff.mp single), if_pos (holds (Bool.eq_false_iff.mpr unchecked))]

/-- When all positions have been gone through, one that the restrictions have let pass holds what is
admitted. -/
theorem requireObject_judgedBy (same : now.literals = world.literals) (position : Position)
    (admitted : position.multiple = false →
      world.admits restrictions number position.firstInstance = true) :
    ∃ left, (position.judgedBy world restrictions number).requireObject now number =
        .success left ∧
      left.compress = position.leftBy world restrictions number := by
  have objects : now.isObject = world.isObject := funext fun id => World.isObject_congr same
  rw [leftBy_eq]
  by_cases several : position.multiple = true
  · cases checked : restrictions.any fun restriction => decide (restriction.parameter = number) with
    | true =>
      have admits : world.admits restrictions number = world.meetsAll restrictions number := by
        funext id
        rw [World.admits_eq, checked, Bool.true_or, Bool.and_true]
      refine ⟨position.judgedBy world restrictions number, ?_, ?_⟩
      · unfold requireObject
        exact if_pos checked
      · rw [admits, ← checked]
        rfl
    | false =>
      have admits : world.admits restrictions number =
          fun id => world.meetsAll restrictions number id && world.isObject id := by
        funext id
        rw [World.admits_eq, checked, Bool.false_or]
      refine ⟨_, requireObject_of_several _ checked several, ?_⟩
      rw [objects, admits, ← sift_sift, ← checked]
      rfl
  · have single := Bool.eq_false_iff.mpr several
    refine ⟨_, requireObject_of_single _ single fun unchecked => ?_, ?_⟩
    · have holds := admitted single
      rw [World.admits_eq, show (restrictions.any fun restriction =>
        decide (restriction.parameter = number)) = false from unchecked, Bool.false_or,
        Bool.and_eq_true] at holds
      rw [firstInstance_judgedBy _ _ _ single, objects]
      exact holds.2
    · unfold judgedBy
      rw [sift_of_single single, sift_of_single single]
      rfl

end Position

/-! ## Single instances -/

section Singles

variable {world : World story} {positions : List Position} {restrictions other : List Restriction}

/-- Every single instance is admitted. -/
def AdmitsSingles (world : World story) (restrictions : List Restriction)
    (positions : List Position) : Prop :=
  ∀ (slot : Nat) position, positions[slot]? = some position → position.multiple = false →
    world.admits restrictions (slot + 1) position.firstInstance = true

/-- Then no restriction rejects one. -/
theorem AdmitsSingles.find?_rejects (admits : AdmitsSingles world restrictions positions) :
    restrictions.find? (world.rejects positions) = none := by
  rw [List.find?_eq_none]
  intro restriction member rejects
  unfold World.rejects at rejects
  cases found : entryAt positions restriction.parameter with
  | none =>
    rw [found] at rejects
    cases rejects
  | some position =>
    rw [found, Bool.and_eq_true, Bool.not_eq_true', Bool.not_eq_true'] at rejects
    obtain ⟨slot, parameter, there⟩ := entryAt_eq_some.mp found
    have admitted := admits slot position there rejects.1
    rw [World.admits_eq, Bool.and_eq_true] at admitted
    have test : (restriction.test : Test story) ∈ restrictionTests restrictions (slot + 1) :=
      List.mem_map_of_mem (List.mem_filter.mpr ⟨member, decide_eq_true parameter⟩)
    have meets := List.all_eq_true.mp admitted.1 _ test
    rw [show restriction.test world position.firstInstance = false from rejects.2] at meets
    cases meets

/-- After the restrictions, going through the positions without any leaves what is admitted. -/
theorem requireObjects_judgeAll {now : World story} (kept : now.literals = world.literals)
    (admits : AdmitsSingles world restrictions positions) :
    ((requireObjects now (Position.judgeAll world restrictions positions)).andThen
        fun positions => .success (positions.map Position.compress)) =
      .success (positions.mapIdx fun slot position =>
        position.leftBy world restrictions (slot + 1)) := by
  have judged (slot : Nat) (position : Position) (there : positions[slot]? = some position) :=
    Position.requireObject_judgedBy kept position (admits slot position there)
  have objects (slot : Nat) (position : Position)
      (there : (Position.judgeAll world restrictions positions)[slot]? = some position) :
      (position.requireObject now (slot + 1)).fault = none := by
    rw [Position.getElem?_judgeAll, Option.map_eq_some_iff] at there
    obtain ⟨position, there, rfl⟩ := there
    obtain ⟨left, required, -⟩ := judged slot position there
    rw [required]
    rfl
  rw [requireObjects_of_fault_none objects]
  refine congrArg Attempt.success (List.ext_getElem? fun slot => ?_)
  show ((List.mapIdx _ _).map _)[slot]? = _
  rw [List.getElem?_map, List.getElem?_mapIdx, List.getElem?_mapIdx, Position.getElem?_judgeAll]
  cases there : positions[slot]? with
  | none => rfl
  | some position =>
    obtain ⟨left, required, rest⟩ := judged slot position there
    simp only [Option.map_some, required, ← rest]
    rfl

theorem AdmitsSingles.perm (perm : other.Perm restrictions) :
    AdmitsSingles world other positions ↔ AdmitsSingles world restrictions positions := by
  unfold AdmitsSingles
  simp only [World.admits_perm perm]

theorem Position.leftBy_perm (perm : other.Perm restrictions) (number : Nat)
    (position : Position) :
    position.leftBy world other number = position.leftBy world restrictions number := by
  unfold leftBy
  simp only [World.admits_perm perm, perm.any_eq]

end Singles

end TextAdventure
