import TextAdventure.Proofs.Stages
import TextAdventure.Proofs.Windows
/-!
# Settling a command of a part of a line

What a reference settles to depends on its words and not on where they stand, and no later stage
looks at words any more but to name them to the player.  So a command that has been read in a part
of a line and one that has been read in the whole line, at other places, settle alike
(`settleCommand_shift`).
-/

namespace TextAdventure

variable {story : Story} {σ : Type}

/-! ## What places have no influence on -/

section Places

variable {offset : Nat}

namespace Reference

@[simp] theorem id_shift (reference : Reference) : (reference.shift offset).id = reference.id := rfl

@[simp] theorem candidates_shift (reference : Reference) :
    (reference.shift offset).candidates = reference.candidates := rfl

theorem map_settled_shift (word : Nat) (ids : List InstanceId) :
    ids.map (settled (offset + word)) = (ids.map (settled word)).map (Reference.shift offset) := by
  rw [List.map_map]
  rfl

end Reference

namespace Position

variable (position : Position)

@[simp] theorem multiple_shift : (position.shift offset).multiple = position.multiple := rfl

@[simp] theorem all_shift : (position.shift offset).all = position.all := rfl

@[simp] theorem checked_shift : (position.shift offset).checked = position.checked := rfl

@[simp] theorem instances_shift : (position.shift offset).instances = position.instances := by
  unfold instances shift
  dsimp only
  rw [List.map_map]
  rfl

@[simp] theorem firstInstance_shift :
    (position.shift offset).firstInstance = position.firstInstance := by
  unfold firstInstance shift
  cases position.references <;> rfl

@[simp] theorem describe_shift : (position.shift offset).describe = position.describe := by
  unfold describe shift
  simp only [List.map_map, List.isEmpty_map]
  rfl

theorem keep_shift (admits : InstanceId → Bool) :
    (position.shift offset).keep admits = (position.keep admits).shift offset := by
  unfold keep shift
  simp only [List.filter_map]
  rfl

theorem isEmpty_shift :
    (position.shift offset).references.isEmpty = position.references.isEmpty := List.isEmpty_map

theorem compress_shift : (position.shift offset).compress = position.compress.shift offset := by
  unfold compress shift
  simp only [List.filter_map]
  rfl

theorem narrowList_shift :
    (position.shift offset).narrowList = position.narrowList.map (shift offset) := by
  unfold narrowList
  dsimp only
  rw [compress_shift, isEmpty_shift]
  split <;> rfl

end Position

variable (positions : List Position)

@[simp] theorem parameterVector_shift :
    parameterVector (positions.map (Position.shift offset)) = parameterVector positions := by
  unfold parameterVector
  rw [List.map_map]
  simp only [Function.comp_def, Position.multiple_shift, Position.firstInstance_shift]

@[simp] theorem multiplePosition_shift :
    multiplePosition (positions.map (Position.shift offset)) = multiplePosition positions := by
  unfold multiplePosition multiplePlaces
  rw [List.zipIdx_map, List.filter_map, List.map_map]
  rfl

theorem tracePositions_shift (setting : Setting story σ) (stage : String) :
    tracePositions setting stage (positions.map (Position.shift offset)) =
      tracePositions setting stage positions := by
  unfold tracePositions
  rw [List.zipIdx_map, List.map_map]
  simp only [Function.comp_def, Prod.map_fst, Prod.map_snd, Position.describe_shift, id]

theorem ofPositions_shift (verb : WordCode) (multiple : Option Nat) :
    ParsedCommand.ofPositions verb (positions.map (Position.shift offset)) multiple =
      ParsedCommand.ofPositions verb positions multiple := by
  unfold ParsedCommand.ofPositions
  simp only [parameterVector_shift, List.getElem?_map, Option.map_map, Function.comp_def,
    Position.instances_shift]

end Places

/-! ## Attempts on what has been moved -/

namespace Attempt

variable {ε α β γ : Type} {f : α → β}

theorem each_map {change : α → Attempt ε α} {change' : β → Attempt ε β} {xs : List α}
    (commutes : ∀ x ∈ xs, change' (f x) = (change x).map f) :
    each change' (xs.map f) = (each change xs).map (List.map f) := by
  induction xs with
  | nil => rfl
  | cons x rest ih =>
    have first := commutes x (List.mem_cons_self ..)
    have others := ih fun y member => commutes y (List.mem_cons_of_mem x member)
    rw [List.map_cons, each, each, first, others]
    obtain ⟨value, fault⟩ := change x
    cases fault <;> rfl

theorem andThen_map {attempt : Attempt ε α} {next : α → Attempt ε α} {next' : β → Attempt ε β}
    (commutes : ∀ value, attempt = success value → next' (f value) = (next value).map f) :
    (attempt.map f).andThen next' = (attempt.andThen next).map f := by
  obtain ⟨value, fault⟩ := attempt
  cases fault with
  | some => rfl
  | none => exact commutes value rfl

end Attempt

/-! ## References inside of a part -/

/-- The words of the reference are among the first ones of a line, as many as `size` says. -/
structure Reference.Inside (size : Nat) (reference : Reference) : Prop where
  le : reference.first ≤ reference.last
  lt : reference.last < size

theorem Reference.Inside.first_lt {size : Nat} {reference : Reference}
    (inside : reference.Inside size) : reference.first < size :=
  Nat.lt_of_le_of_lt inside.le inside.lt

namespace Words.Holds

variable {whole part : Words} {offset behind : Nat} (holds : whole.Holds part offset behind)
  {reference : Reference}
include holds

theorem lt_size {index : Nat} (lt : index < part.size) : offset + index < whole.size := by
  by_contra outside
  have ended := isEnd_eq (holds.word index lt)
  rw [isEnd_eq_false_iff.mpr lt] at ended
  exact absurd (decide_eq_true (Nat.le_of_not_lt outside)) (Bool.eq_false_iff.mp ended)

/-- The places of the words of a reference are moved one by one. -/
theorem places_eq (inside : reference.Inside part.size) :
    List.range' (offset + reference.first)
        (min (offset + reference.last + 1) whole.size - (offset + reference.first)) =
      (List.range' reference.first
        (min (reference.last + 1) part.size - reference.first)).map (offset + ·) ∧
    ∀ index ∈ List.range' reference.first (min (reference.last + 1) part.size - reference.first),
      index < part.size := by
  have le := inside.le
  have lt := inside.lt
  have lt' := holds.lt_size lt
  have stop : min (offset + reference.last + 1) whole.size = offset + reference.last + 1 := by
    omega
  constructor
  · rw [stop, List.map_add_range']
    congr 1
    omega
  · intro index member
    rw [List.mem_range'_1] at member
    omega

theorem phrase_shift (inside : reference.Inside part.size) :
    (reference.shift offset).phrase whole = reference.phrase part := by
  obtain ⟨places, within⟩ := holds.places_eq inside
  unfold Reference.phrase spanText Reference.shift
  dsimp only
  rw [places, List.map_map]
  congr 1
  apply List.map_congr_left
  intro index member
  exact text_eq (holds.word index (within index member))

theorem phraseCandidates_eq (inside : reference.Inside part.size) :
    whole.phraseCandidates (offset + reference.first) (offset + reference.last) =
      part.phraseCandidates reference.first reference.last := by
  obtain ⟨places, within⟩ := holds.places_eq inside
  unfold phraseCandidates
  dsimp only
  rw [places, List.filterMap_map]
  congr 1
  apply List.filterMap_congr
  intro index member
  show whole.phraseReferences? (offset + reference.last) (offset + index) = _
  unfold phraseReferences?
  rw [holds.entry?_eq (holds.word index (within index member))]
  simp only [Nat.add_left_cancel_iff]

theorem findCandidates_reference (memory : Memory) (inside : reference.Inside part.size) :
    (reference.shift offset).findCandidates whole memory =
      reference.findCandidates part memory := by
  have same := holds.word reference.first inside.first_lt
  unfold Reference.findCandidates Reference.shift
  dsimp only
  split
  · rw [same]
  · unfold pronounCandidates
    rw [holds.code?_eq same, text_eq same]
  · rw [holds.phraseCandidates_eq inside]
  · rfl

theorem withCandidates_shift (memory : Memory) (inside : reference.Inside part.size) :
    (reference.shift offset).withCandidates whole memory =
      (reference.withCandidates part memory).map (Reference.shift offset) := by
  unfold Reference.withCandidates
  rw [holds.findCandidates_reference memory inside]
  split <;> rfl

theorem settle_reference (world : World story) (omnipotent : Bool)
    (inside : reference.Inside part.size) :
    (reference.shift offset).settle world whole omnipotent =
      (reference.settle world part omnipotent).map (Reference.shift offset) := by
  unfold Reference.settle
  rw [holds.phrase_shift inside, Reference.candidates_shift]
  cases Choice.ofCandidates world reference.candidates omnipotent <;> rfl

end Words.Holds

/-! ## Positions inside of a part -/

/-- There are references, and all words of the position are inside of a part of this size. -/
structure Position.Inside (size : Nat) (position : Position) : Prop where
  some : position.references ≠ []
  references : ∀ reference ∈ position.references, reference.Inside size
  exceptions : ∀ reference ∈ position.exceptions, reference.Inside size

section Inside

variable {size : Nat}

/-- The first word of the position, which the messages about it name. -/
theorem Position.Inside.first_lt {position : Position} {first : Reference} {rest : List Reference}
    (inside : position.Inside size) (begins : position.references = first :: rest) :
    first.first < size :=
  (inside.references first (begins ▸ List.mem_cons_self ..)).first_lt

theorem Reference.Inside.settled {word : Nat} (lt : word < size) (id : InstanceId) :
    (Reference.settled word id).Inside size := ⟨Nat.le_refl _, lt⟩

/-- What is done to references one by one leaves them where they are. -/
theorem Reference.inside_of_each {ε : Type} {change : Reference → Attempt ε Reference}
    {references changed : List Reference}
    (stays : ∀ reference, (change reference).value.first = reference.first ∧
      (change reference).value.last = reference.last)
    (inside : ∀ reference ∈ references, reference.Inside size)
    (success : Attempt.each change references = .success changed) :
    ∀ reference ∈ changed, reference.Inside size := by
  intro reference member
  obtain ⟨before, there, changes⟩ := forall₂_right (Attempt.each_eq_success.mp success) member
  obtain ⟨first, last⟩ := stays before
  rw [changes] at first last
  have isInside := inside before there
  exact ⟨first ▸ last ▸ isInside.le, last ▸ isInside.lt⟩

theorem Reference.each_ne_nil {ε : Type} {change : Reference → Attempt ε Reference}
    {references changed : List Reference} (some : references ≠ [])
    (success : Attempt.each change references = .success changed) : changed ≠ [] := by
  rintro rfl
  have length := (Attempt.each_eq_success.mp success).length_eq
  exact some (List.length_eq_zero_iff.mp length)

theorem Reference.withCandidates_stays (words : Words) (memory : Memory) (reference : Reference) :
    (reference.withCandidates words memory).value.first = reference.first ∧
      (reference.withCandidates words memory).value.last = reference.last := by
  unfold withCandidates
  split <;> exact ⟨rfl, rfl⟩

theorem Reference.settle_stays (world : World story) (words : Words) (omnipotent : Bool)
    (reference : Reference) :
    (reference.settle world words omnipotent).value.first = reference.first ∧
      (reference.settle world words omnipotent).value.last = reference.last := by
  unfold settle
  split <;> exact ⟨rfl, rfl⟩

theorem Position.references_ne_nil_of_expandAll {world : World story} {words : Words}
    {memory : Memory} {position found : Position} {word : Nat}
    (expanded : position.expandAll world words memory word = .success found) :
    found.references ≠ [] := by
  intro empty
  obtain ⟨exceptions, -, rfl⟩ := expandAll_eq_success expanded
  unfold expandAll at expanded
  dsimp only at expanded
  rw [if_pos (List.isEmpty_iff.mpr empty)] at expanded
  cases expanded

theorem Position.Inside.findCandidates {world : World story} {words : Words}
    {memory : Memory} {position found : Position} (inside : position.Inside size)
    (success : position.findCandidates world words memory = .success found) :
    found.Inside size := by
  unfold Position.findCandidates at success
  split at success
  · next empty => exact absurd empty inside.some
  · next first rest begins =>
    have lt := inside.first_lt begins
    have swept : ∀ ids : List InstanceId,
        ∀ reference ∈ ids.map (Reference.settled first.first), reference.Inside size := by
      intro ids reference member
      obtain ⟨id, -, rfl⟩ := List.mem_map.mp member
      exact .settled lt id
    split at success
    · obtain ⟨recalled, rfl⟩ := expandThem_eq_success success
      exact ⟨fun empty => recalled (List.map_eq_nil_iff.mp empty), swept _, inside.exceptions⟩
    · split at success
      · have some := references_ne_nil_of_expandAll success
        obtain ⟨exceptions, each, rfl⟩ := expandAll_eq_success success
        exact ⟨some, swept _, Reference.inside_of_each (Reference.withCandidates_stays words memory)
          inside.exceptions (Attempt.each_eq_success.mpr each)⟩
      · obtain ⟨references, each, rfl⟩ := Attempt.map_eq_success.mp success
        exact ⟨Reference.each_ne_nil inside.some each,
          Reference.inside_of_each (Reference.withCandidates_stays words memory)
            inside.references each, inside.exceptions⟩

theorem Position.Inside.settle {world : World story} {words : Words}
    {position settled : Position} (inside : position.Inside size)
    (success : position.settle world words = .success settled) : settled.Inside size := by
  unfold Position.settle at success
  dsimp only at success
  split at success
  · obtain ⟨exceptions, each, rfl⟩ := Attempt.map_eq_success.mp success
    exact ⟨inside.some, inside.references,
      Reference.inside_of_each (Reference.settle_stays world words _) inside.exceptions each⟩
  · split at success
    · cases success
      exact inside
    · obtain ⟨references, each, rfl⟩ := Attempt.map_eq_success.mp success
      exact ⟨Reference.each_ne_nil inside.some each,
        Reference.inside_of_each (Reference.settle_stays world words _) inside.references each,
        inside.exceptions⟩

theorem inside_of_settlePositions {world : World story} {words : Words} {memory : Memory}
    {positions settled : List Position} (inside : ∀ position ∈ positions, position.Inside size)
    (success : settlePositions world words memory positions = .success settled) :
    ∀ position ∈ settled, position.Inside size := by
  obtain ⟨found, searched, chosen⟩ := Attempt.andThen_eq_success.mp success
  intro position member
  obtain ⟨before, there, settles⟩ := forall₂_right (Attempt.each_eq_success.mp chosen) member
  obtain ⟨first, there', finds⟩ := forall₂_right (Attempt.each_eq_success.mp searched) there
  exact ((inside first there').findCandidates finds).settle settles

end Inside

namespace Words.Holds

variable {whole part : Words} {offset behind : Nat} (holds : whole.Holds part offset behind)
  {position : Position} (world : World story) (memory : Memory)
include holds

theorem expandThem_shift {word : Nat} (lt : word < part.size) :
    (position.shift offset).expandThem world whole memory (offset + word) =
      (position.expandThem world part memory word).map (Position.shift offset) := by
  unfold Position.expandThem
  rw [text_eq (holds.word word lt)]
  generalize memory.previous.filter world.reachable = targets
  dsimp only
  rw [Reference.map_settled_shift]
  rcases targets with _ | ⟨id, _ | ⟨other, rest⟩⟩
  · rfl
  · rfl
  · show (if position.flags.multiple = true then _ else _) = _
    dsimp only
    split <;> rfl

theorem each_withCandidates_shift {references : List Reference}
    (inside : ∀ reference ∈ references, reference.Inside part.size) :
    Attempt.each (Reference.withCandidates whole memory)
        (references.map (Reference.shift offset)) =
      (Attempt.each (Reference.withCandidates part memory) references).map
        (List.map (Reference.shift offset)) :=
  Attempt.each_map fun _ member => holds.withCandidates_shift memory (inside _ member)

theorem expandAll_shift {word : Nat} (lt : word < part.size) (inside : position.Inside part.size) :
    (position.shift offset).expandAll world whole memory (offset + word) =
      (position.expandAll world part memory word).map (Position.shift offset) := by
  unfold Position.expandAll
  rw [text_eq (holds.word word lt)]
  dsimp only
  rw [Reference.map_settled_shift, List.isEmpty_map]
  split
  · rfl
  · show (Attempt.each (Reference.withCandidates whole memory)
      (position.exceptions.map (Reference.shift offset))).map _ = _
    rw [holds.each_withCandidates_shift memory inside.exceptions]
    rfl

theorem findCandidates_shift (inside : position.Inside part.size) :
    (position.shift offset).findCandidates world whole memory =
      (position.findCandidates world part memory).map (Position.shift offset) := by
  cases begins : position.references with
  | nil => exact absurd begins inside.some
  | cons first rest =>
    have lt := inside.first_lt begins
    have begins' : (position.shift offset).references =
        first.shift offset :: rest.map (Reference.shift offset) := by
      unfold Position.shift
      rw [begins]
      rfl
    have each := holds.each_withCandidates_shift memory inside.references
    rw [begins, List.map_cons] at each
    unfold Position.findCandidates
    rw [begins, begins']
    dsimp only
    by_cases them : first.kind = .them
    · have them' : (first.shift offset).kind = .them := them
      rw [if_pos them, if_pos them']
      exact holds.expandThem_shift world memory lt
    · have them' : ¬ (first.shift offset).kind = .them := them
      rw [if_neg them, if_neg them', Position.all_shift]
      split
      · exact holds.expandAll_shift world memory lt inside
      · rw [each]
        rfl

theorem settle_shift (inside : position.Inside part.size) :
    (position.shift offset).settle world whole =
      (position.settle world part).map (Position.shift offset) := by
  have each : ∀ references : List Reference,
      (∀ reference ∈ references, reference.Inside part.size) →
      Attempt.each (Reference.settle world whole position.flags.omnipotent)
          (references.map (Reference.shift offset)) =
        (Attempt.each (Reference.settle world part position.flags.omnipotent) references).map
          (List.map (Reference.shift offset)) := by
    intro references inside
    exact Attempt.each_map fun _ member => holds.settle_reference world _ (inside _ member)
  unfold Position.settle Position.shift
  dsimp only
  rw [each _ inside.exceptions, each _ inside.references]
  split
  · rfl
  · split <;> rfl

/-- **References settle alike.**  The positions of a part settle to the same instances in the
line. -/
theorem settlePositions_shift {positions : List Position}
    (inside : ∀ position ∈ positions, position.Inside part.size) :
    settlePositions world whole memory (positions.map (Position.shift offset)) =
      (settlePositions world part memory positions).map (List.map (Position.shift offset)) := by
  have searched : Attempt.each (Position.findCandidates world whole memory)
      (positions.map (Position.shift offset)) =
        (Attempt.each (Position.findCandidates world part memory) positions).map
          (List.map (Position.shift offset)) :=
    Attempt.each_map fun _ member => holds.findCandidates_shift world memory (inside _ member)
  unfold settlePositions
  rw [searched]
  apply Attempt.andThen_map
  intro found success
  apply Attempt.each_map
  intro position member
  obtain ⟨before, there, success⟩ := forall₂_right (Attempt.each_eq_success.mp success) member
  exact holds.settle_shift world ((inside before there).findCandidates success)

/-! ## Several targets -/

theorem narrowAll_shift (kept : List InstanceId) (inside : position.Inside part.size) :
    (position.shift offset).narrowAll whole kept =
      (position.narrowAll part kept).map (Position.shift offset) := by
  cases begins : position.references with
  | nil => exact absurd begins inside.some
  | cons first rest =>
    have same := holds.word first.first (inside.first_lt begins)
    have named : whole.text (((position.shift offset).references.head?.map (·.first)).getD 0) =
        part.text ((position.references.head?.map (·.first)).getD 0) := by
      unfold Position.shift
      rw [begins]
      exact text_eq same
    have excepted : (position.shift offset).exceptions.map (·.id) =
        position.exceptions.map (·.id) := by
      unfold Position.shift
      rw [List.map_map]
      rfl
    unfold Position.narrowAll
    dsimp only
    rw [named, excepted, Position.keep_shift, Position.keep_shift, Position.isEmpty_shift,
      Position.isEmpty_shift]
    split
    · rfl
    · split <;> rfl

theorem narrow_shift (setting : Setting story σ) (verb : WordCode) (positions : List Position)
    (index : Nat) (inside : position.Inside part.size) :
    (position.shift offset).narrow setting whole verb (positions.map (Position.shift offset))
        index =
      Attempt.map (Position.shift offset) <$>
        position.narrow setting part verb positions index := by
  unfold Position.narrow
  rw [Position.all_shift, parameterVector_shift, Position.instances_shift]
  split
  · rw [map_bind]
    apply bind_congr
    intro kept
    rw [holds.narrowAll_shift kept inside]
    rfl
  · rw [Position.narrowList_shift]
    rfl

theorem settleMultiple_shift (setting : Setting story σ) (verb : WordCode)
    {positions : List Position} (inside : ∀ position ∈ positions, position.Inside part.size) :
    settleMultiple setting whole verb (positions.map (Position.shift offset)) =
      Attempt.map (Prod.map (List.map (Position.shift offset)) id) <$>
        settleMultiple setting part verb positions := by
  unfold settleMultiple
  rw [multiplePosition_shift]
  rcases multiplePosition positions with fault | _ | index
  · rfl
  · rfl
  · dsimp only
    rw [List.getElem?_map]
    cases there : positions[index]? with
    | none => rfl
    | some position =>
      dsimp only [Option.map_some]
      rw [holds.narrow_shift setting verb positions index
        (inside position (List.mem_of_getElem? there)), bind_map_left, map_bind]
      apply bind_congr
      intro narrowed
      show pure _ = pure _
      congr 1
      unfold Attempt.map
      dsimp only [Prod.map]
      rw [List.map_set]
      rfl

end Words.Holds

/-! ## Restrictions -/

section Restrictions

variable {offset : Nat} (setting : Setting story σ)

theorem Restriction.dropMember_shift (context : Context) (silent : Bool)
    (restriction : Restriction) (reference : Reference) :
    restriction.dropMember setting context silent (reference.shift offset) =
      Reference.shift offset <$> restriction.dropMember setting context silent reference := by
  unfold dropMember
  rw [map_bind, Reference.id_shift]
  apply bind_congr
  intro world
  split
  · rfl
  · rw [map_bind]
    rfl

theorem Restriction.dropMembers_shift (context : Context) (silent : Bool)
    (restriction : Restriction) (references : List Reference) :
    restriction.dropMembers setting context silent (references.map (Reference.shift offset)) =
      List.map (Reference.shift offset) <$>
        restriction.dropMembers setting context silent references := by
  induction references with
  | nil => rfl
  | cons reference rest ih =>
    rw [List.map_cons, dropMembers, dropMembers, dropMember_shift, ih, bind_map_left, map_bind]
    rfl

theorem Restriction.applyTo_shift (context : Context) (restriction : Restriction)
    (position : Position) :
    restriction.applyTo setting context (position.shift offset) =
      Attempt.map (Position.shift offset) <$> restriction.applyTo setting context position := by
  unfold applyTo
  rw [Position.multiple_shift, Position.firstInstance_shift]
  split
  · show (do
      let references ← restriction.dropMembers setting context position.all
        (position.references.map (Reference.shift offset))
      return _) = _
    rw [dropMembers_shift, bind_map_left, map_bind]
    rfl
  · rw [map_bind]
    apply bind_congr
    intro world
    split
    · rfl
    · rw [map_bind]
      rfl

theorem applyRestrictions_shift (context : Context) (positions : List Position)
    (restrictions : List Restriction) :
    applyRestrictions setting context (positions.map (Position.shift offset)) restrictions =
      Attempt.map (List.map (Position.shift offset)) <$>
        applyRestrictions setting context positions restrictions := by
  induction restrictions generalizing positions with
  | nil => rfl
  | cons restriction rest ih =>
    -- the rest applies to the positions that this restriction leaves
    rw [applyRestrictions, applyRestrictions]
    have entry : entryAt (positions.map (Position.shift offset)) restriction.parameter =
        (entryAt positions restriction.parameter).map (Position.shift offset) := by
      cases restriction.parameter with
      | zero => rfl
      | succ index => exact List.getElem?_map
    rw [entry]
    cases entryAt positions restriction.parameter with
    | none =>
      dsimp only [Option.map_none]
      rw [map_bind]
      apply bind_congr
      intro _
      exact ih positions
    | some position =>
      dsimp only [Option.map_some]
      rw [Restriction.applyTo_shift, bind_map_left, map_bind]
      apply bind_congr
      intro applied
      obtain ⟨left, fault⟩ := applied
      have moved : ((positions.map (Position.shift offset)).set (restriction.parameter - 1)
          (left.shift offset)) =
            (positions.set (restriction.parameter - 1) left).map (Position.shift offset) :=
        List.map_set.symm
      cases fault with
      | some fault =>
        show pure _ = pure _
        dsimp only [Attempt.map]
        rw [moved]
        rfl
      | none =>
        show applyRestrictions setting context _ rest = _
        dsimp only [Attempt.map]
        rw [moved]
        exact ih _

theorem Position.requireObject_shift (world : World story) (number : Nat) (position : Position) :
    (position.shift offset).requireObject world number =
      (position.requireObject world number).map (shift offset) := by
  unfold requireObject
  rw [checked_shift, multiple_shift, firstInstance_shift]
  split
  · rfl
  · split
    · have cleared : ((position.shift offset).references.map fun r =>
          if r.id != 0 && !world.isObject r.id then { r with id := 0 } else r) =
          (position.references.map fun r =>
            if r.id != 0 && !world.isObject r.id then { r with id := 0 } else r).map
              (Reference.shift offset) := by
        unfold shift
        rw [List.map_map, List.map_map]
        apply List.map_congr_left
        intro reference _
        show (if reference.id != 0 && !world.isObject reference.id then _ else _) =
          Reference.shift offset (if _ then _ else _)
        split <;> rfl
      rw [cleared]
      rfl
    · split <;> rfl

theorem requireObjects_shift (world : World story) (positions : List Position) :
    requireObjects world (positions.map (Position.shift offset)) =
      (requireObjects world positions).map (List.map (Position.shift offset)) := by
  let required (entry : Position × Nat) : Attempt CommandError (Position × Nat) :=
    (entry.1.requireObject world entry.2).map (·, entry.2)
  have each : Attempt.each required
      ((positions.zipIdx 1).map (Prod.map (Position.shift offset) id)) =
        (Attempt.each required (positions.zipIdx 1)).map
          (List.map (Prod.map (Position.shift offset) id)) := by
    apply Attempt.each_map
    rintro ⟨position, number⟩ -
    show ((position.shift offset).requireObject world number).map (·, number) = _
    rw [Position.requireObject_shift]
    rfl
  show (Attempt.each required _).map _ = ((Attempt.each required _).map _).map _
  rw [List.zipIdx_map, each]
  unfold Attempt.map
  dsimp only
  rw [List.map_map, List.map_map]
  rfl

/-- The restrictions leave the same of a position wherever it stands. -/
theorem restrictPositions_shift (verb : WordCode) (restrictions : List Restriction)
    (positions : List Position) :
    restrictPositions setting verb restrictions (positions.map (Position.shift offset)) =
      Attempt.map (List.map (Position.shift offset)) <$>
        restrictPositions setting verb restrictions positions := by
  funext scene
  show (restrictPositions setting verb restrictions (positions.map (Position.shift offset))).run
    scene = (_ <$> restrictPositions setting verb restrictions positions).run scene
  rw [Play.run_map, restrictPositions_run, restrictPositions_run]
  have unchecked : (positions.map (Position.shift offset)).map Position.unchecked =
      (positions.map Position.unchecked).map (Position.shift offset) := by
    rw [List.map_map, List.map_map]
    rfl
  dsimp only
  rw [unchecked, parameterVector_shift, applyRestrictions_shift, Play.run_map]
  refine Prod.ext ?_ rfl
  dsimp only
  rw [Attempt.andThen_map, Attempt.andThen_map]
  · intro left _
    unfold Attempt.success Attempt.map
    dsimp only
    rw [List.map_map, List.map_map]
    simp only [Function.comp_def, Position.compress_shift]
  · intro left _
    exact requireObjects_shift _ left

end Restrictions

/-! ## All stages -/

/-- **A command settles alike.**  Nothing that a command of a part is settled to, says or notes
depends on where the part stands in the line. -/
theorem Words.Holds.settleCommand_shift {whole part : Words} {offset behind : Nat}
    (holds : whole.Holds part offset behind) (setting : Setting story σ) (memory : Memory)
    {found : FormMatch} (inside : ∀ position ∈ found.positions, position.Inside part.size) :
    settleCommand setting memory whole (found.shift offset) =
      settleCommand setting memory part found := by
  unfold settleCommand FormMatch.shift
  dsimp only
  rw [tracePositions_shift]
  refine bind_congr fun _ => bind_congr fun _ => bind_congr fun world => ?_
  rw [holds.settlePositions_shift world memory inside]
  -- a stage that gives up ends both alike, and otherwise the next one sees moved positions again
  cases settles : settlePositions world part memory found.positions with
  | mk settled fault =>
    cases fault with
    | some fault => rfl
    | none =>
      have inside' := inside_of_settlePositions inside settles
      dsimp only [Attempt.map]
      rw [tracePositions_shift, holds.settleMultiple_shift setting found.verb inside']
      refine bind_congr fun _ => ?_
      rw [bind_map_left]
      refine bind_congr fun narrowed => ?_
      obtain ⟨⟨narrowed, multiple⟩, fault⟩ := narrowed
      cases fault with
      | some fault => rfl
      | none =>
        dsimp only [Attempt.map, Prod.map]
        rw [restrictPositions_shift, bind_map_left]
        refine bind_congr fun judged => ?_
        obtain ⟨left, fault⟩ := judged
        cases fault with
        | some fault => rfl
        | none =>
          dsimp only [Attempt.map]
          rw [tracePositions_shift, ofPositions_shift]
          rfl

end TextAdventure
