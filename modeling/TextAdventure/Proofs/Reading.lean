import TextAdventure.FormMatch
/-!
# Positions as the reading of a command leaves them

The reading fills a slot in one of two ways: by an all word with its exceptions, or by references.
Nothing is settled yet.  The positions that match a command form keep this, wherever the parameter
map puts them.
-/

namespace TextAdventure

/-- A position as the reading of its slot leaves it. -/
structure Position.Read (position : Position) : Prop where
  references_ne_nil : position.references ≠ []
  /-- An all word is the only reference of its slot. -/
  plain_of_all : position.all = true → ∀ r ∈ position.references, r.kind = .plain
  exceptions_eq_nil : position.all = false → position.exceptions = []
  multiple_eq : position.multiple = (position.all || decide (1 < position.references.length))
  /-- Several instances need a slot that allows them. -/
  multiple_allowed : position.multiple = true → position.flags.multiple = true
  them_eq_false : position.them = false

namespace Words

variable {words : Words} {memory : Memory} {flags : SlotFlags} {cursor next : Nat}
  {position : Position}

/-- A slot is filled by an all word, with or without exceptions, or by references. -/
theorem slot_eq_ok (read : words.slot memory flags cursor = .ok (position, next)) :
    (∃ exceptions, position =
      { references := [{ first := cursor, last := cursor }], exceptions, all := true,
        multiple := true, flags }) ∨
    ∃ references, words.references memory cursor = .ok (references, next) ∧
      position = { references, multiple := references.length > 1, flags } := by
  unfold slot at read
  split at read
  · left
    dsimp only at read
    split at read
    · split at read
      · cases read
      · next exceptions _ _ =>
        cases read
        exact ⟨exceptions, rfl⟩
    · cases read
      exact ⟨[], rfl⟩
  · right
    split at read
    · cases read
    · next references _ referencesRead =>
      cases read
      exact ⟨references, referencesRead, rfl⟩

/-- What is read for a parameter is a slot that is not empty and allows what it holds. -/
theorem position_eq_ok (read : words.position memory flags cursor = .ok (position, next)) :
    words.slot memory flags cursor = .ok (position, next) ∧ position.references ≠ [] ∧
      (position.multiple = true → flags.multiple = true) := by
  unfold Words.position at read
  split at read
  · cases read
  · next slotRead =>
    split at read
    · cases read
    · next nonempty =>
      split at read
      · cases read
      · next allowed =>
        cases read
        refine ⟨slotRead, fun empty => nonempty (by rw [empty]; rfl), fun several => ?_⟩
        cases flag : flags.multiple with
        | true => rfl
        | false => exact absurd (by rw [several, flag]; rfl) allowed

theorem read_of_position (read : words.position memory flags cursor = .ok (position, next)) :
    position.Read ∧ position.flags = flags := by
  obtain ⟨slotRead, nonempty, allowed⟩ := position_eq_ok read
  rcases slot_eq_ok slotRead with ⟨exceptions, rfl⟩ | ⟨references, -, rfl⟩
  · refine ⟨⟨nonempty, ?_, ?_, rfl, allowed, rfl⟩, rfl⟩
    · rintro - r member
      rw [List.mem_singleton.mp member]
    · rintro ⟨⟩
  · refine ⟨⟨nonempty, ?_, fun _ => rfl, ?_, allowed, rfl⟩, rfl⟩
    · rintro ⟨⟩
    · rw [Bool.false_or]

end Words

/-! ## Command forms -/

variable {story : Story} {words : Words} {memory : Memory}

theorem Story.mem_of_parameterEdge? {table cursor next : Nat} {flags : SlotFlags}
    (edge : story.parameterEdge? words table cursor = some (flags, next)) :
    .parameter flags next ∈ story.elements table := by
  unfold Story.parameterEdge? at edge
  split at edge
  · obtain ⟨element, member, found⟩ := List.exists_of_findSome?_eq_some edge
    cases element with
    | parameter => cases found; exact member
    | word => cases found
    | finish => cases found
  · cases edge

/-- Every position of a command form was read at some place in a slot of the grammar. -/
theorem Story.position_of_mem_readForm {table cursor last : Nat} {reading : FormReading}
    (read : story.readForm words memory table cursor = .ok (reading, last)) {position : Position}
    (member : position ∈ reading.positions) :
    ∃ table next flags cursor after, .parameter flags next ∈ story.elements table ∧
      words.position memory flags cursor = .ok (position, after) := by
  -- only the fifth case, a parameter edge, reads a position
  fun_induction Story.readForm story words memory table cursor generalizing reading last with
  | case1 => cases read; cases member
  | case2 => cases read
  | case3 => cases read
  | case4 => cases read
  | case5 table cursor _ flags next edge found after positionRead _ _ formRead ih =>
    cases read
    rcases List.mem_cons.mp member with rfl | member
    · exact ⟨table, next, flags, cursor, after, mem_of_parameterEdge? edge, positionRead⟩
    · exact ih formRead member
  | case6 _ _ _ _ _ _ ih => exact ih read member
  | case7 => cases read

/-- So it is as its slot was read, with the flags that the grammar gives to the slot. -/
theorem Story.mem_positions_of_readForm {table cursor last : Nat} {reading : FormReading}
    (read : story.readForm words memory table cursor = .ok (reading, last)) {position : Position}
    (member : position ∈ reading.positions) :
    position.Read ∧ ∃ table next, .parameter position.flags next ∈ story.elements table := by
  obtain ⟨table, next, _, _, _, edge, positionRead⟩ := position_of_mem_readForm read member
  obtain ⟨asRead, rfl⟩ := Words.read_of_position positionRead
  exact ⟨asRead, table, next, edge⟩

/-- The restrictions of a command form are those that the grammar closes it with. -/
theorem Story.finish_of_readForm {table cursor last : Nat} {reading : FormReading}
    (read : story.readForm words memory table cursor = .ok (reading, last)) :
    ∃ table, .finish reading.form reading.restrictions ∈ story.elements table := by
  fun_induction Story.readForm story words memory table cursor generalizing reading last with
  | case1 table _ _ form restrictions closes =>
    cases read
    obtain ⟨element, member, found⟩ := List.exists_of_findSome?_eq_some closes
    cases element with
    | finish => cases found; exact ⟨table, member⟩
    | word => cases found
    | parameter => cases found
  | case2 => cases read
  | case3 => cases read
  | case4 => cases read
  | case5 _ _ _ _ _ _ _ _ _ _ _ formRead ih =>
    cases read
    have closed := ih formRead
    exact closed
  | case6 _ _ _ _ _ _ ih => exact ih read
  | case7 => cases read

/-! ## The parameter map -/

namespace FormReading

/-- The place in the form of the position that the parameter map puts into a slot. -/
def origin (story : Story) (reading : FormReading) (slot : Nat) : Nat :=
  match (story.parameterMap? reading.form).bind (·.sources[slot]?) with
  | some (index + 1) => if index < reading.positions.length then index else slot
  | _ => slot

theorem length_remap (story : Story) (verbWord : WordCode) (reading : FormReading) :
    (reading.remap story verbWord).positions.length = reading.positions.length := by
  unfold remap
  split
  · rfl
  · exact List.length_mapIdx

@[simp] theorem restrictions_remap (story : Story) (verbWord : WordCode) (reading : FormReading) :
    (reading.remap story verbWord).restrictions = reading.restrictions := by
  unfold remap
  split <;> rfl

/-- The parameter map moves positions as a whole, and makes none. -/
theorem getElem?_remap (verbWord : WordCode) {reading : FormReading} {slot : Nat}
    (inRange : slot < reading.positions.length) :
    (reading.remap story verbWord).positions[slot]? =
      reading.positions[reading.origin story slot]? := by
  unfold remap origin
  cases story.parameterMap? reading.form with
  | none => rfl
  | some map =>
    show (map.reorder reading.positions)[slot]? = _
    unfold ParameterMap.reorder ParameterMap.source?
    rw [List.getElem?_mapIdx, List.getElem?_eq_getElem inRange, Option.map_some, Option.bind_some]
    -- a slot without a source that exists keeps its own position
    rcases map.sources[slot]? with _ | _ | index
    · exact (List.getElem?_eq_getElem inRange).symm
    · exact (List.getElem?_eq_getElem inRange).symm
    · rw [Option.bind_some, entryAt_succ]
      by_cases there : index < reading.positions.length
      · simp only [if_pos there, List.getElem?_eq_getElem there, Option.getD_some]
      · simp only [if_neg there, List.getElem?_eq_none (Nat.le_of_not_lt there),
          Option.getD_none, List.getElem?_eq_getElem inRange]

/-- A parameter map that is a permutation gives a slot to every position. -/
theorem exists_slot_of_perm {reading : FormReading} {map : ParameterMap}
    (own : story.parameterMap? reading.form = some map)
    (perm : map.sources.Perm (List.range' 1 reading.positions.length)) {index : Nat}
    (inRange : index < reading.positions.length) :
    ∃ slot, slot < reading.positions.length ∧ reading.origin story slot = index := by
  have source : index + 1 ∈ map.sources := by
    rw [perm.mem_iff, List.mem_range'_1]
    omega
  obtain ⟨slot, found⟩ := List.mem_iff_getElem?.mp source
  have length : map.sources.length = reading.positions.length := by
    rw [perm.length_eq, List.length_range']
  refine ⟨slot, length ▸ (List.getElem?_eq_some_iff.mp found).1, ?_⟩
  unfold origin
  rw [own, Option.bind_some, found]
  exact if_pos inRange

end FormReading

/-- A form is matched by reading it and applying its parameter map. -/
theorem Story.matchForm_eq_ok {verbWord : WordCode} {cursor last : Nat} {found : FormMatch} :
    story.matchForm words memory verbWord cursor = .ok (found, last) ↔
      ∃ root reading, story.grammar? verbWord = some root ∧
        story.readForm words memory root.table cursor = .ok (reading, last) ∧
        reading.remap story verbWord = found := by
  unfold Story.matchForm
  constructor
  · intro read
    split at read
    · cases read
    · next root grammar =>
      split at read
      · cases read
      · next reading _ formRead =>
        cases read
        exact ⟨root, reading, grammar, formRead, rfl⟩
  · rintro ⟨root, reading, grammar, formRead, rfl⟩
    rw [grammar]
    dsimp only
    rw [formRead]

end TextAdventure
