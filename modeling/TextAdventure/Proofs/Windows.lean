import TextAdventure.Proofs.Phrases
/-!
# Reading a part of a line

A line holds another one if the words of this part stand in it, from an offset on.  The part is
closed if the line ends with it, and it is joined if a conjunction follows that no reference goes on
behind.  Reading looks ahead, at one word and at the end of the line, and yet it finds in the part
what it finds in the line, at other places (`Holds.matchForm`).  Only where the part ends behind an
except word is the fault another one.
-/

namespace TextAdventure

/-! ## Moving what has been read -/

/-- The reference as it is found at another place. -/
def Reference.shift (offset : Nat) (reference : Reference) : Reference :=
  { reference with first := offset + reference.first, last := offset + reference.last }

/-- The position as it is found at another place. -/
def Position.shift (offset : Nat) (position : Position) : Position :=
  { position with
    references := position.references.map (Reference.shift offset)
    exceptions := position.exceptions.map (Reference.shift offset) }

def FormReading.shift (offset : Nat) (reading : FormReading) : FormReading :=
  { reading with positions := reading.positions.map (Position.shift offset) }

def FormMatch.shift (offset : Nat) (found : FormMatch) : FormMatch :=
  { found with positions := found.positions.map (Position.shift offset) }

/-- The result of reading at another place: what has been read is moved, and so is the place where
the reading goes on or stops. -/
def relocate {α β : Type} (offset : Nat) (move : α → β) :
    Except Stop (α × Nat) → Except Stop (β × Nat)
  | .error stop => .error { stop with cursor := offset + stop.cursor }
  | .ok (found, next) => .ok (move found, offset + next)

/-! ## Lines and their parts -/

namespace Words

/-- The line ends where the part does. -/
structure Closes (whole part : Words) (offset behind : Nat) : Prop where
  size : whole.size = offset + part.size
  behind_eq : behind = offset + part.size

/-- The line goes on behind the part with a conjunction that does not join references. -/
structure Joins (whole part : Words) (offset behind : Nat) : Prop where
  conjunction : whole.classes (offset + part.size) = .conjunction
  behind_eq : behind = offset + part.size + 1
  noAdjective : whole.is behind .adjective = false
  noNoun : whole.is behind .noun = false
  /-- The part does not end in a conjunction itself. -/
  unjoined : ∀ index, index + 1 = part.size → part.is index .conjunction = false

/-- The words of the part stand in the line from the offset on, and commands go on at the place
behind. -/
structure Holds (whole part : Words) (offset behind : Nat) : Prop where
  dictionary : whole.dictionary = part.dictionary
  word : ∀ index, index < part.size → whole.word? (offset + index) = part.word? index
  ends : whole.Closes part offset behind ∨ whole.Joins part offset behind

variable {whole part : Words} {offset behind : Nat}

theorem entry?_congr {words other : Words} {index place : Nat}
    (dictionary : words.dictionary = other.dictionary)
    (same : words.word? index = other.word? place) : words.entry? index = other.entry? place := by
  unfold entry? entryIndex?
  rw [same, dictionary]

theorem classes_congr {words other : Words} {index place : Nat}
    (dictionary : words.dictionary = other.dictionary)
    (same : words.word? index = other.word? place) : words.classes index = other.classes place := by
  unfold classes
  rw [same, entry?_congr dictionary same]

theorem word?_eq_none_iff {words : Words} {index : Nat} :
    words.word? index = none ↔ words.isEnd index = true := by
  unfold word? isEnd size
  rw [List.getElem?_eq_none_iff, decide_eq_true_eq]

theorem isEnd_eq_false_iff {words : Words} {index : Nat} :
    words.isEnd index = false ↔ index < words.size := by
  unfold isEnd
  rw [decide_eq_false_iff_not, Nat.not_le]

theorem isEnd_size (words : Words) : words.isEnd words.size = true :=
  decide_eq_true (Nat.le_refl _)

theorem is_of_isEnd {words : Words} {index : Nat} {cls : WordClasses}
    (ended : words.isEnd index = true) : words.is index cls = false := by
  cases has : words.is index cls with
  | false => rfl
  | true =>
    rw [not_isEnd_of_is has] at ended
    cases ended

/-- In a closed part there is no word behind the end either. -/
theorem Closes.word (closes : whole.Closes part offset behind) {index : Nat}
    (le : part.size ≤ index) : whole.word? (offset + index) = part.word? index := by
  have size := closes.size
  have behindPart : part.word? index = none := word?_eq_none_iff.mpr (decide_eq_true le)
  rw [behindPart, word?_eq_none_iff]
  exact decide_eq_true (by omega)

theorem Closes.isEnd (closes : whole.Closes part offset behind) :
    whole.isEnd (offset + part.size) = true := by
  rw [← closes.size]
  exact whole.isEnd_size

/-- Behind a conjunction that joins references there is a word. -/
theorem next_lt_of_joins {words : Words} {index : Nat}
    (joins : words.joinsReferences index = true) : index + 1 < words.size := by
  rw [joinsReferences, Bool.and_eq_true, Bool.or_eq_true] at joins
  exact joins.2.elim lt_size_of_is lt_size_of_is

theorem lt_of_not_isEndOfCommand {words : Words} {index : Nat}
    (unended : ¬ words.isEndOfCommand index = true) : index < words.size := by
  unfold isEndOfCommand at unended
  rw [Bool.or_eq_true] at unended
  by_contra outside
  exact unended (Or.inl (decide_eq_true (Nat.le_of_not_lt outside)))

namespace Holds

variable (holds : whole.Holds part offset behind) {index : Nat}

/-! ### A place with the same word -/

section SameWord

variable (same : whole.word? (offset + index) = part.word? index)
include same

theorem isEnd_eq : whole.isEnd (offset + index) = part.isEnd index := by
  rw [Bool.eq_iff_iff, ← word?_eq_none_iff, ← word?_eq_none_iff, same]

theorem text_eq : whole.text (offset + index) = part.text index := by
  unfold text
  rw [same]

include holds

theorem entry?_eq : whole.entry? (offset + index) = part.entry? index :=
  entry?_congr holds.dictionary same

theorem code?_eq : whole.code? (offset + index) = part.code? index := by
  unfold code?
  rw [holds.entry?_eq same]

theorem classes_eq : whole.classes (offset + index) = part.classes index :=
  classes_congr holds.dictionary same

theorem loneKind?_eq (memory : Memory) :
    whole.loneKind? memory (offset + index) = part.loneKind? memory index := by
  unfold loneKind? Words.is
  rw [same, holds.classes_eq same]

end SameWord

/-! ### One word ahead -/

include holds

/-- At the end of the part there is no word of any other class than a conjunction. -/
theorem is_eq {cls : WordClasses} (le : index ≤ part.size)
    (other : WordClasses.conjunction.contains cls = false) :
    whole.is (offset + index) cls = part.is index cls := by
  rcases Nat.lt_or_eq_of_le le with lt | rfl
  · unfold Words.is
    rw [holds.classes_eq (holds.word index lt)]
  · rw [is_of_isEnd part.isEnd_size]
    rcases holds.ends with closes | joins
    · exact is_of_isEnd closes.isEnd
    · unfold Words.is
      rw [joins.conjunction, other]

theorem is_next_eq {cls : WordClasses} (lt : index < part.size)
    (other : WordClasses.conjunction.contains cls = false) :
    whole.is (offset + index + 1) cls = part.is (index + 1) cls := by
  rw [Nat.add_assoc]
  exact holds.is_eq lt other

theorem isEndOfCommand_eq (le : index ≤ part.size) :
    whole.isEndOfCommand (offset + index) = part.isEndOfCommand index := by
  rcases Nat.lt_or_eq_of_le le with lt | rfl
  · have same := holds.word index lt
    unfold isEndOfCommand Words.is
    rw [isEnd_eq same, holds.classes_eq same]
  · have ended : part.isEndOfCommand part.size = true := by
      unfold isEndOfCommand
      rw [part.isEnd_size, Bool.true_or]
    rw [ended]
    unfold isEndOfCommand
    rcases holds.ends with closes | joins
    · rw [closes.isEnd, Bool.true_or]
    · unfold Words.is
      rw [joins.conjunction]
      exact Bool.or_true _

theorem isReference_eq (lt : index < part.size) :
    whole.isReference (offset + index) = part.isReference index := by
  unfold isReference
  rw [holds.classes_eq (holds.word index lt)]

theorem isLastNoun_eq (lt : index < part.size) :
    whole.isLastNoun (offset + index) = part.isLastNoun index := by
  unfold isLastNoun
  rw [holds.is_next_eq lt rfl, holds.is_eq (Nat.le_of_lt lt) rfl]

/-- The conjunction behind the part joins no reference in it to one behind. -/
theorem joinsReferences_eq (le : index ≤ part.size) :
    whole.joinsReferences (offset + index) = part.joinsReferences index := by
  unfold joinsReferences
  rcases Nat.lt_or_eq_of_le le with lt | rfl
  · have here : whole.is (offset + index) .conjunction = part.is index .conjunction := by
      unfold Words.is
      rw [holds.classes_eq (holds.word index lt)]
    rw [here, holds.is_next_eq lt rfl, holds.is_next_eq lt rfl]
  · rw [is_of_isEnd part.isEnd_size, Bool.false_and]
    rcases holds.ends with closes | joins
    · rw [is_of_isEnd closes.isEnd, Bool.false_and]
    · have noAdjective := joins.noAdjective
      have noNoun := joins.noNoun
      rw [joins.behind_eq] at noAdjective noNoun
      rw [noAdjective, noNoun]
      exact Bool.and_false _

/-! ### References -/

theorem adjectivesEnd_eq (le : index ≤ part.size) :
    whole.adjectivesEnd (offset + index) = offset + part.adjectivesEnd index ∧
      part.adjectivesEnd index ≤ part.size := by
  fun_induction adjectivesEnd part index with
  | case1 index isAdjective isLast =>
    rw [← holds.isLastNoun_eq (lt_size_of_is isAdjective)] at isLast
    rw [← holds.is_eq le rfl] at isAdjective
    rw [adjectivesEnd, dif_pos isAdjective, if_pos isLast]
    exact ⟨rfl, le⟩
  | case2 index isAdjective notLast ih =>
    have lt := lt_size_of_is isAdjective
    rw [← holds.isLastNoun_eq lt] at notLast
    rw [← holds.is_eq le rfl] at isAdjective
    rw [adjectivesEnd, dif_pos isAdjective, if_neg notLast]
    exact ih lt
  | case3 index notAdjective =>
    rw [← holds.is_eq le rfl] at notAdjective
    rw [adjectivesEnd, dif_neg notAdjective]
    exact ⟨rfl, le⟩

theorem phrase_eq (le : index ≤ part.size)
    (same : whole.word? (offset + index) = part.word? index) :
    whole.phrase (offset + index) =
      relocate offset (Option.map (Reference.shift offset)) (part.phrase index) := by
  obtain ⟨head, inRange⟩ := holds.adjectivesEnd_eq le
  unfold phrase
  dsimp only
  -- the place of the head is not behind the end, where classes still agree
  rw [head, holds.is_eq inRange rfl]
  split
  · rfl
  · -- the end of the line is found only where the phrase begins
    by_cases here : part.adjectivesEnd index = index
    · rw [here, isEnd_eq same, beq_self_eq_true, beq_self_eq_true]
      split <;> rfl
    · have there : ¬ offset + part.adjectivesEnd index = offset + index := by omega
      rw [beq_false_of_ne here, beq_false_of_ne there, Bool.and_false, Bool.and_false]
      rfl

theorem reference_eq (memory : Memory) (le : index ≤ part.size)
    (same : whole.word? (offset + index) = part.word? index) :
    whole.reference memory (offset + index) =
      relocate offset (Option.map (Reference.shift offset)) (part.reference memory index) := by
  unfold Words.reference
  rw [holds.loneKind?_eq same]
  split
  · rfl
  · exact holds.phrase_eq le same

/-- The reading of references goes on in the line where it goes on in the part. -/
theorem references_of_reference {memory : Memory} {reference : Reference} {next : Nat}
    (le : index ≤ part.size) (same : whole.word? (offset + index) = part.word? index)
    (read : part.reference memory index = .ok (some reference, next)) :
    whole.references memory (offset + index) =
      if part.joinsReferences next = true then
        match whole.references memory (offset + (next + 1)) with
        | .error stop => .error stop
        | .ok (rest, last) => .ok (reference.shift offset :: rest, last)
      else .ok ([reference.shift offset], offset + next) := by
  rw [Words.references_eq, holds.reference_eq memory le same, read,
    ← holds.joinsReferences_eq (readsOne_of_reference read).le_size]
  rfl

theorem references_eq (memory : Memory) (le : index ≤ part.size)
    (same : whole.word? (offset + index) = part.word? index) :
    whole.references memory (offset + index) =
      relocate offset (List.map (Reference.shift offset)) (part.references memory index) := by
  fun_induction Words.references part memory index with
  | case1 index stop read =>
    rw [Words.references_eq, holds.reference_eq memory le same, read]
    rfl
  | case2 index next read =>
    rw [Words.references_eq, holds.reference_eq memory le same, read]
    rfl
  | case3 index reference next read joins stop rest ih =>
    have goesOn := next_lt_of_joins joins
    rw [holds.references_of_reference le same read, if_pos joins,
      ih (Nat.le_of_lt goesOn) (holds.word _ goesOn), rest]
    rfl
  | case4 index reference next read joins others last rest ih =>
    have goesOn := next_lt_of_joins joins
    rw [holds.references_of_reference le same read, if_pos joins,
      ih (Nat.le_of_lt goesOn) (holds.word _ goesOn), rest]
    rfl
  | case5 index reference next read notJoins =>
    rw [holds.references_of_reference le same read, if_neg notJoins]
    rfl

end Holds

/-- What has been read in the part is read in the line too: the part is closed, or this is not a
fault. -/
def Certain {α : Type} (whole part : Words) (offset behind : Nat) (result : Except Stop α) : Prop :=
  whole.Closes part offset behind ∨ ∃ found, result = .ok found

/-- If a reading that goes on is certain, what it goes on with is. -/
theorem Certain.of_ok {α β : Type} {result : Except Stop α} {result' : Except Stop β}
    (certain : whole.Certain part offset behind result)
    (goesOn : ∀ found, result = .ok found → ∃ found', result' = .ok found') :
    whole.Certain part offset behind result' := by
  rcases certain with closes | ⟨found, read⟩
  · exact Or.inl closes
  · exact Or.inr (goesOn found read)

namespace Holds

variable (holds : whole.Holds part offset behind) {index : Nat}
include holds

/-! ### Positions -/

/-- Only here the end of a joined part makes a difference: what is missing behind the except word is
a noun then. -/
theorem exceptions_eq (memory : Memory) (lt : index < part.size)
    (certain : whole.Certain part offset behind (part.exceptions memory index)) :
    whole.exceptions memory (offset + index) =
      relocate offset (List.map (Reference.shift offset)) (part.exceptions memory index) := by
  have same : whole.word? (offset + (index + 1)) = part.word? (index + 1) := by
    rcases Nat.lt_or_eq_of_le lt with inside | atEnd
    · exact holds.word _ inside
    · rcases certain with closes | ⟨⟨exceptions, next⟩, read⟩
      · exact closes.word (Nat.le_of_eq atEnd.symm)
      · -- the exceptions that have been read lie inside
        obtain ⟨referencesRead, some⟩ := exceptions_eq_ok read
        have all := readsAll_of_references referencesRead some
        have := all.lt
        have := all.le_size
        omega
  unfold exceptions
  rw [show whole.references memory (offset + index + 1) = _ from
    holds.references_eq memory lt same, text_eq (holds.word index lt)]
  rcases part.references memory (index + 1) with stop | ⟨_ | ⟨first, rest⟩, next⟩ <;> rfl

theorem slot_eq (memory : Memory) (flags : SlotFlags) (lt : index < part.size)
    (certain : whole.Certain part offset behind (part.slot memory flags index)) :
    whole.slot memory flags (offset + index) =
      relocate offset (Position.shift offset) (part.slot memory flags index) := by
  unfold slot at certain ⊢
  rw [holds.is_eq (Nat.le_of_lt lt) rfl]
  split
  · next isAll =>
    rw [if_pos isAll] at certain
    dsimp only at certain ⊢
    rw [holds.is_next_eq lt rfl]
    split
    · next isExcept =>
      rw [if_pos isExcept] at certain
      have certain' : whole.Certain part offset behind (part.exceptions memory (index + 1)) := by
        apply certain.of_ok
        intro found read
        split at read
        · cases read
        · next exceptionsRead => exact ⟨_, exceptionsRead⟩
      rw [show whole.exceptions memory (offset + index + 1) = _ from
        holds.exceptions_eq memory (lt_size_of_is isExcept) certain']
      cases part.exceptions memory (index + 1) with
      | error => rfl
      | ok => rfl
    · rfl
  · rw [holds.references_eq memory (Nat.le_of_lt lt) (holds.word index lt)]
    cases part.references memory index with
    | error => rfl
    | ok found =>
      obtain ⟨references, next⟩ := found
      simp [relocate, Position.shift]

theorem position_eq (memory : Memory) (flags : SlotFlags) (lt : index < part.size)
    (certain : whole.Certain part offset behind (part.position memory flags index)) :
    whole.position memory flags (offset + index) =
      relocate offset (Position.shift offset) (part.position memory flags index) := by
  have certain' : whole.Certain part offset behind (part.slot memory flags index) := by
    apply certain.of_ok
    rintro ⟨position, next⟩ read
    exact ⟨_, (position_eq_ok read).1⟩
  unfold Words.position
  rw [holds.slot_eq memory flags lt certain']
  cases part.slot memory flags index with
  | error => rfl
  | ok found =>
    obtain ⟨position, next⟩ := found
    have isEmpty : (position.shift offset).references.isEmpty = position.references.isEmpty :=
      List.isEmpty_map
    show (if (position.shift offset).references.isEmpty = true then _ else _) = _
    rw [isEmpty]
    dsimp only
    split
    · rfl
    · show (if (position.multiple && !flags.multiple) = true then _ else _) = _
      split <;> rfl

end Holds

end Words

/-! ## Command forms -/

section Forms

variable {story : Story} {whole part : Words} {offset behind : Nat} {memory : Memory}
  {table cursor : Nat}

/-- The form from a table and a place on, without the evidence that the reading comes to an end. -/
theorem Story.readForm_eq (story : Story) (words : Words) (memory : Memory) (table cursor : Nat) :
    story.readForm words memory table cursor =
      if words.isEndOfCommand cursor = true then
        match (story.elements table).findSome? Element.finish? with
        | some (form, restrictions) => .ok (⟨form, restrictions, []⟩, cursor)
        | none => .error ⟨.notUnderstood, cursor⟩
      else
        match story.parameterEdge? words table cursor with
        | some (flags, next) =>
          match words.position memory flags cursor with
          | .error stop => .error ⟨stop.error, cursor⟩
          | .ok (position, after) =>
            match story.readForm words memory next after with
            | .error stop => .error stop
            | .ok (reading, last) =>
              .ok ({ reading with positions := position :: reading.positions }, last)
        | none =>
          match story.wordEdge? words table cursor with
          | some next => story.readForm words memory next (cursor + 1)
          | none => .error ⟨mismatch words cursor, cursor⟩ := by
  rw [Story.readForm]
  split
  · rfl
  · cases story.parameterEdge? words table cursor with
    | none => rfl
    | some edge =>
      obtain ⟨flags, next⟩ := edge
      dsimp only
      split
      · next read => rw [read]
      · next read =>
        rewrite [read]
        rfl

/-! The parameter map looks at the places of positions in the form only. -/

theorem ParameterMap.source?_shift (map : ParameterMap) (positions : List Position)
    (index : Nat) :
    map.source? (positions.map (Position.shift offset)) index =
      (map.source? positions index).map (Position.shift offset) := by
  unfold source?
  rw [Option.map_bind]
  congr 1
  funext number
  cases number with
  | zero => rfl
  | succ index => exact List.getElem?_map

theorem ParameterMap.reorder_shift (map : ParameterMap) (positions : List Position) :
    map.reorder (positions.map (Position.shift offset)) =
      (map.reorder positions).map (Position.shift offset) := by
  unfold reorder
  apply List.ext_getElem?
  intro index
  rw [List.getElem?_map, List.getElem?_mapIdx, List.getElem?_mapIdx, List.getElem?_map,
    source?_shift]
  cases positions[index]? with
  | none => rfl
  | some position => cases map.source? positions index <;> rfl

theorem ParameterMap.remarks_shift (map : ParameterMap) (positions : List Position) :
    map.remarks (positions.map (Position.shift offset)) = map.remarks positions := by
  unfold remarks
  simp only [source?_shift, Option.isNone_map, List.length_map]

theorem FormReading.remap_shift (verbWord : WordCode) (reading : FormReading) :
    (reading.shift offset).remap story verbWord =
      (reading.remap story verbWord).shift offset := by
  unfold remap FormReading.shift
  dsimp only
  cases story.parameterMap? reading.form with
  | none => rfl
  | some map =>
    dsimp only
    rw [map.reorder_shift, map.remarks_shift]
    rfl

namespace Words.Holds

variable (holds : whole.Holds part offset behind)
include holds

theorem parameterEdge?_eq (lt : cursor < part.size) :
    story.parameterEdge? whole table (offset + cursor) =
      story.parameterEdge? part table cursor := by
  unfold Story.parameterEdge?
  rw [holds.isReference_eq lt]

theorem wordEdge?_eq (lt : cursor < part.size) :
    story.wordEdge? whole table (offset + cursor) = story.wordEdge? part table cursor := by
  unfold Story.wordEdge?
  rw [holds.is_eq (Nat.le_of_lt lt) rfl, holds.code?_eq (holds.word cursor lt)]

theorem mismatch_eq (lt : cursor < part.size) :
    Story.mismatch whole (offset + cursor) = Story.mismatch part cursor := by
  unfold Story.mismatch
  rw [holds.is_eq (Nat.le_of_lt lt) rfl, text_eq (holds.word cursor lt), holds.dictionary]

/-- Inside of the part the edges that fit are the same. -/
theorem readForm_of_unended (unended : ¬ part.isEndOfCommand cursor = true) :
    story.readForm whole memory table (offset + cursor) =
      match story.parameterEdge? part table cursor with
      | some (flags, next) =>
        match whole.position memory flags (offset + cursor) with
        | .error stop => .error ⟨stop.error, offset + cursor⟩
        | .ok (position, after) =>
          match story.readForm whole memory next after with
          | .error stop => .error stop
          | .ok (reading, last) =>
            .ok ({ reading with positions := position :: reading.positions }, last)
      | none =>
        match story.wordEdge? part table cursor with
        | some next => story.readForm whole memory next (offset + (cursor + 1))
        | none => .error ⟨Story.mismatch part cursor, offset + cursor⟩ := by
  have lt := lt_of_not_isEndOfCommand unended
  rw [Story.readForm_eq, holds.isEndOfCommand_eq (Nat.le_of_lt lt), if_neg unended,
    holds.parameterEdge?_eq lt, holds.wordEdge?_eq lt, holds.mismatch_eq lt]
  rfl

theorem readForm_eq (le : cursor ≤ part.size)
    (certain : whole.Certain part offset behind (story.readForm part memory table cursor)) :
    story.readForm whole memory table (offset + cursor) =
      relocate offset (FormReading.shift offset) (story.readForm part memory table cursor) := by
  -- along the reading of the part; a position that the reading goes on behind is certain
  fun_induction Story.readForm story part memory table cursor with
  | case1 table cursor ended form restrictions closes =>
    rw [Story.readForm_eq, holds.isEndOfCommand_eq le, if_pos ended, closes]
    rfl
  | case2 table cursor ended notCloses =>
    rw [Story.readForm_eq, holds.isEndOfCommand_eq le, if_pos ended, notCloses]
    rfl
  | case3 table cursor unended flags next edge stop read =>
    have lt := lt_of_not_isEndOfCommand unended
    rw [holds.readForm_of_unended unended, edge]
    dsimp only
    rw [holds.position_eq memory flags lt (certain.of_ok (by simp)), read]
    rfl
  | case4 table cursor unended flags next edge position after read stop rest ih =>
    have lt := lt_of_not_isEndOfCommand unended
    have inside := (fills_of_position read).le_size
    rw [holds.readForm_of_unended unended, edge]
    dsimp only
    rw [holds.position_eq memory flags lt (Or.inr ⟨_, read⟩), read]
    dsimp only [relocate]
    rw [ih inside (certain.of_ok (by simp)), rest]
    rfl
  | case5 table cursor unended flags next edge position after read reading last rest ih =>
    have lt := lt_of_not_isEndOfCommand unended
    have inside := (fills_of_position read).le_size
    rw [holds.readForm_of_unended unended, edge]
    dsimp only
    rw [holds.position_eq memory flags lt (Or.inr ⟨_, read⟩), read]
    dsimp only [relocate]
    rw [ih inside (Or.inr ⟨_, rest⟩), rest]
    rfl
  | case6 table cursor unended noEdge next edge ih =>
    rw [holds.readForm_of_unended unended, noEdge, edge]
    exact ih (lt_of_not_isEndOfCommand unended) certain
  | case7 table cursor unended noEdge noWordEdge =>
    rw [holds.readForm_of_unended unended, noEdge, noWordEdge]
    rfl

theorem matchForm_eq {verbWord : WordCode} (le : cursor ≤ part.size)
    (certain : whole.Certain part offset behind (story.matchForm part memory verbWord cursor)) :
    story.matchForm whole memory verbWord (offset + cursor) =
      relocate offset (FormMatch.shift offset) (story.matchForm part memory verbWord cursor) := by
  unfold Story.matchForm at certain ⊢
  cases grammar : story.grammar? verbWord with
  | none => rfl
  | some root =>
    rw [grammar] at certain
    dsimp only at certain ⊢
    have certain' : whole.Certain part offset behind
        (story.readForm part memory root.table cursor) := by
      apply certain.of_ok
      intro found read
      split at read
      · cases read
      · next formRead => exact ⟨_, formRead⟩
    rw [holds.readForm_eq le certain']
    cases story.readForm part memory root.table cursor with
    | error => rfl
    | ok found =>
      obtain ⟨reading, last⟩ := found
      dsimp only [relocate]
      rw [FormReading.remap_shift]

end Words.Holds

end Forms

end TextAdventure
