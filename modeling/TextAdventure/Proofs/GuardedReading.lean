import TextAdventure.Proofs.Joining
/-!
# Reading a line in steps that are counted

The loops that read a line have nothing but the unread words to come to an end by: the grammar of a
verb may lead in circles.  Here each of them runs for a number of steps at most and fails with
`none` when these are used up, and the reading of a form is taken apart into single looks at a
table.  Every look that goes on is further along the line (`look_onward`), so one step for each
word, and one more, are enough, and what is read is the same.
-/

namespace TextAdventure

namespace Guarded

/-! ## The tokens of a line -/

/-- The tokens of a line, if they are found in a number of steps. -/
def tokens : Nat → List Char → Option (List Token)
  | 0, _ => none
  | _ + 1, [] => some []
  | steps + 1, c :: rest =>
    if Text.isBlank c then tokens steps rest
    else if c == '"' then do
      let others ← tokens steps ((rest.dropWhile (· != '"')).drop 1)
      return .quoted (String.ofList (rest.takeWhile (· != '"'))) :: others
    else if Token.isWordChar c then do
      let others ← tokens steps (rest.dropWhile Token.isWordChar)
      return .ofWord (c :: rest.takeWhile Token.isWordChar) :: others
    else do
      let others ← tokens steps rest
      return .punctuation c :: others

theorem tokens_eq {steps : Nat} {chars : List Char} (enough : chars.length < steps) :
    tokens steps chars = some (Token.ofChars chars) := by
  induction steps generalizing chars with
  | zero => exact absurd enough (Nat.not_lt_zero _)
  | succ steps ih =>
    cases chars with
    | nil =>
      rw [Token.ofChars.eq_def]
      rfl
    | cons c rest =>
      have fewer : rest.length < steps := Nat.lt_of_succ_lt_succ enough
      -- what is left after a run of characters is no longer than what was there
      have behind : ∀ inRun : Char → Bool, (rest.dropWhile inRun).length < steps := fun inRun =>
        Nat.lt_of_le_of_lt (List.dropWhile_sublist inRun).length_le fewer
      have quoted : ((rest.dropWhile (· != '"')).drop 1).length < steps := by
        have := behind (· != '"')
        rw [List.length_drop]
        omega
      rw [tokens, Token.ofChars.eq_def]
      dsimp only
      split
      · exact ih fewer
      · split
        · rw [ih quoted]
          rfl
        · split
          · rw [ih (behind Token.isWordChar)]
            rfl
          · rw [ih fewer]
            rfl

/-! ## References -/

section References

variable {words : Words} {memory : Memory} {steps cursor : Nat}

/-- The place after the adjectives from the cursor on, if it is found in a number of steps. -/
def adjectivesEnd (words : Words) : Nat → Nat → Option Nat
  | 0, _ => none
  | steps + 1, cursor =>
    if words.is cursor .adjective then
      if words.isLastNoun cursor then some cursor else adjectivesEnd words steps (cursor + 1)
    else some cursor

theorem adjectivesEnd_eq (enough : words.size - cursor < steps) :
    adjectivesEnd words steps cursor = some (words.adjectivesEnd cursor) := by
  induction steps generalizing cursor with
  | zero => exact absurd enough (Nat.not_lt_zero _)
  | succ steps ih =>
    rw [adjectivesEnd, Words.adjectivesEnd]
    split
    · next isAdjective =>
      have inRange := Words.lt_size_of_is isAdjective
      split
      · rfl
      · exact ih (by omega)
    · rfl

/-- The phrase of adjectives and a noun from the cursor on, and the place after it. -/
def phrase (words : Words) (cursor : Nat) : Option (Except Stop (Option Reference × Nat)) := do
  let head ← adjectivesEnd words (words.size + 1) cursor
  if words.is head .noun then return .ok (some { first := cursor, last := head }, head + 1)
  else if words.isEnd head && head == cursor then return .ok (none, cursor)
  else return .error ⟨.nounExpected, head⟩

theorem phrase_eq (words : Words) (cursor : Nat) :
    phrase words cursor = some (words.phrase cursor) := by
  unfold phrase Words.phrase
  rw [adjectivesEnd_eq (by omega)]
  show (if _ then _ else _) = some (if _ then _ else _)
  split
  · rfl
  · split <;> rfl

/-- One reference from the cursor on, and the place after it. -/
def reference (words : Words) (memory : Memory) (cursor : Nat) :
    Option (Except Stop (Option Reference × Nat)) :=
  match words.loneKind? memory cursor with
  | some kind => some (.ok (some { kind, first := cursor, last := cursor }, cursor + 1))
  | none => phrase words cursor

theorem reference_eq (words : Words) (memory : Memory) (cursor : Nat) :
    reference words memory cursor = some (words.reference memory cursor) := by
  unfold reference Words.reference
  cases words.loneKind? memory cursor with
  | some kind => rfl
  | none => exact phrase_eq words cursor

/-- The joined references from the cursor on, and the place after them, if they are read in a number
of steps. -/
def references (words : Words) (memory : Memory) :
    Nat → Nat → Option (Except Stop (List Reference × Nat))
  | 0, _ => none
  | steps + 1, cursor => do
    match ← reference words memory cursor with
    | .error stop => return .error stop
    | .ok (none, next) => return .ok ([], next)
    | .ok (some r, next) =>
      if words.joinsReferences next then
        match ← references words memory steps (next + 1) with
        | .error stop => return .error stop
        | .ok (rest, last) => return .ok (r :: rest, last)
      else return .ok ([r], next)

theorem references_eq (enough : words.size - cursor < steps) :
    references words memory steps cursor = some (words.references memory cursor) := by
  induction steps generalizing cursor with
  | zero => exact absurd enough (Nat.not_lt_zero _)
  | succ steps ih =>
    rw [references, reference_eq, Words.references_eq]
    cases read : words.reference memory cursor with
    | error stop => rfl
    | ok result =>
      obtain ⟨_ | r, next⟩ := result
      · rfl
      · show (if _ then _ else _) = _
        dsimp only
        split
        · next joins =>
          -- the reference and the conjunction behind it have been read
          have advanced := Words.lt_of_reference read
          have inRange := Words.next_lt_of_joins joins
          rw [ih (by omega)]
          cases words.references memory (next + 1) <;> rfl
        · rfl

/-- The exceptions after an all word, from the except word at the cursor on. -/
def exceptions (words : Words) (memory : Memory) (cursor : Nat) :
    Option (Except Stop (List Reference × Nat)) := do
  match ← references words memory (words.size + 1) (cursor + 1) with
  | .error stop => return .error stop
  | .ok ([], next) => return .error ⟨.nothingAfterExcept (words.text cursor), next⟩
  | .ok (r :: rest, next) => return .ok (r :: rest, next)

theorem exceptions_eq (words : Words) (memory : Memory) (cursor : Nat) :
    exceptions words memory cursor = some (words.exceptions memory cursor) := by
  unfold exceptions Words.exceptions
  rw [references_eq (by omega)]
  cases words.references memory (cursor + 1) with
  | error stop => rfl
  | ok result => obtain ⟨_ | ⟨r, rest⟩, next⟩ := result <;> rfl

/-- The references in a slot, from the cursor on, whatever the slot allows. -/
def slot (words : Words) (memory : Memory) (flags : SlotFlags) (cursor : Nat) :
    Option (Except Stop (Position × Nat)) :=
  if words.is cursor .all then
    let everything : Position :=
      { references := [{ first := cursor, last := cursor }], all := true, multiple := true, flags }
    if words.is (cursor + 1) .except then do
      match ← exceptions words memory (cursor + 1) with
      | .error stop => return .error stop
      | .ok (exceptions, next) => return .ok ({ everything with exceptions }, next)
    else some (.ok (everything, cursor + 1))
  else do
    match ← references words memory (words.size + 1) cursor with
    | .error stop => return .error stop
    | .ok (references, next) =>
      return .ok ({ references, multiple := references.length > 1, flags }, next)

theorem slot_eq (words : Words) (memory : Memory) (flags : SlotFlags) (cursor : Nat) :
    slot words memory flags cursor = some (words.slot memory flags cursor) := by
  unfold slot Words.slot
  split
  · dsimp only
    split
    · rw [exceptions_eq]
      cases words.exceptions memory (cursor + 1) <;> rfl
    · rfl
  · rw [references_eq (by omega)]
    cases words.references memory cursor <;> rfl

/-- The references in a slot, from the cursor on, and the place after them. -/
def position (words : Words) (memory : Memory) (flags : SlotFlags) (cursor : Nat) :
    Option (Except Stop (Position × Nat)) := do
  match ← slot words memory flags cursor with
  | .error stop => return .error stop
  | .ok (position, next) =>
    if position.references.isEmpty then return .error ⟨.notUnderstood, next⟩
    else if position.multiple && !flags.multiple then return .error ⟨.multipleNotAllowed, next⟩
    else return .ok (position, next)

theorem position_eq (words : Words) (memory : Memory) (flags : SlotFlags) (cursor : Nat) :
    position words memory flags cursor = some (words.position memory flags cursor) := by
  unfold position Words.position
  rw [slot_eq]
  cases words.slot memory flags cursor with
  | error stop => rfl
  | ok result =>
    show (if _ then _ else _) = some (if _ then _ else _)
    split
    · rfl
    · split <;> rfl

end References

/-! ## Forms -/

/-- How far the reading of a form has come. -/
structure FormState where
  table : Nat
  cursor : Nat
  /-- The positions that have been read. -/
  positions : List Position := []
deriving DecidableEq, Repr

/-- What comes of one look at a table. -/
inductive Look where
  | stopped (stop : Stop)
  | finished (reading : FormReading) (last : Nat)
  | onward (next : FormState)
deriving DecidableEq, Repr

/-- Looks for an entry of the current table that fits the word at the cursor. -/
def look (story : Story) (words : Words) (memory : Memory) (state : FormState) : Option Look :=
  if words.isEndOfCommand state.cursor then
    match (story.elements state.table).findSome? Element.finish? with
    | some (form, restrictions) =>
      some (.finished ⟨form, restrictions, state.positions⟩ state.cursor)
    | none => some (.stopped ⟨.notUnderstood, state.cursor⟩)
  else
    match story.parameterEdge? words state.table state.cursor with
    | some (flags, next) => do
      match ← position words memory flags state.cursor with
      | .error stop => return .stopped ⟨stop.error, state.cursor⟩
      | .ok (position, after) => return .onward ⟨next, after, state.positions ++ [position]⟩
    | none =>
      match story.wordEdge? words state.table state.cursor with
      | some next => some (.onward ⟨next, state.cursor + 1, state.positions⟩)
      | none => some (.stopped ⟨Story.mismatch words state.cursor, state.cursor⟩)

/-- Looks at one table after the other, at a number of them at most. -/
def readForm (story : Story) (words : Words) (memory : Memory) :
    Nat → FormState → Option (Except Stop (FormReading × Nat))
  | 0, _ => none
  | steps + 1, state => do
    match ← look story words memory state with
    | .stopped stop => return .error stop
    | .finished reading last => return .ok (reading, last)
    | .onward next => readForm story words memory steps next

section Forms

variable {story : Story} {words : Words} {memory : Memory}

/-- A reference that is read takes at least one of the words that are there. -/
theorem position_advances {flags : SlotFlags} {cursor next : Nat} {found : Position}
    (read : words.position memory flags cursor = .ok (found, next)) :
    cursor < next ∧ next ≤ words.size :=
  ⟨Words.lt_of_position read, (Words.fills_of_position read).le_size⟩

/-- A look that goes on is further along the line, whatever tables the grammar leads to. -/
theorem look_onward {state next : FormState}
    (looked : look story words memory state = some (.onward next)) :
    state.cursor < next.cursor ∧ next.cursor ≤ words.size := by
  unfold look at looked
  split at looked
  · -- at the end of the command nothing goes on
    split at looked <;> cases looked
  · next unended =>
    split at looked
    · rw [position_eq] at looked
      cases read : words.position memory _ state.cursor with
      | error stop =>
        rw [read] at looked
        cases looked
      | ok result =>
        rw [read] at looked
        cases looked
        exact position_advances read
    · split at looked
      · cases looked
        exact ⟨Nat.lt_succ_self _, Words.lt_of_not_isEndOfCommand unended⟩
      · cases looked

/-- A reading that follows positions that have been read before. -/
def following (positions : List Position) : Except Stop (FormReading × Nat) →
    Except Stop (FormReading × Nat)
  | .error stop => .error stop
  | .ok (reading, last) => .ok ({ reading with positions := positions ++ reading.positions }, last)

/-- The reading that a look leads to. -/
def Look.result (story : Story) (words : Words) (memory : Memory) :
    Look → Except Stop (FormReading × Nat)
  | .stopped stop => .error stop
  | .finished reading last => .ok (reading, last)
  | .onward next =>
    following next.positions (story.readForm words memory next.table next.cursor)

/-- A look comes to something, and this leads to what is read. -/
theorem look_eq (story : Story) (words : Words) (memory : Memory) (state : FormState) :
    ∃ looked, look story words memory state = some looked ∧
      following state.positions (story.readForm words memory state.table state.cursor) =
        looked.result story words memory := by
  unfold look
  rw [Story.readForm_eq]
  by_cases ended : words.isEndOfCommand state.cursor = true
  · rw [if_pos ended, if_pos ended]
    cases (story.elements state.table).findSome? Element.finish? with
    | none => exact ⟨_, rfl, rfl⟩
    | some closing =>
      refine ⟨_, rfl, ?_⟩
      unfold following Look.result
      dsimp only
      rw [List.append_nil]
  · rw [if_neg ended, if_neg ended]
    cases story.parameterEdge? words state.table state.cursor with
    | some slot =>
      obtain ⟨flags, next⟩ := slot
      dsimp only
      rw [position_eq]
      cases words.position memory flags state.cursor with
      | error stop => exact ⟨_, rfl, rfl⟩
      | ok found =>
        refine ⟨_, rfl, ?_⟩
        dsimp only [Look.result]
        cases story.readForm words memory next found.2 with
        | error stop => rfl
        | ok result =>
          unfold following
          dsimp only
          rw [List.append_assoc, List.singleton_append]
    | none =>
      dsimp only
      cases story.wordEdge? words state.table state.cursor <;> exact ⟨_, rfl, rfl⟩

theorem readForm_eq {steps : Nat} {state : FormState}
    (enough : words.size - state.cursor < steps) :
    readForm story words memory steps state =
      some (following state.positions
        (story.readForm words memory state.table state.cursor)) := by
  induction steps generalizing state with
  | zero => exact absurd enough (Nat.not_lt_zero _)
  | succ steps ih =>
    obtain ⟨looked, isLook, result⟩ := look_eq story words memory state
    unfold readForm
    rw [isLook, result]
    cases looked with
    | stopped stop => rfl
    | finished reading last => rfl
    | onward next =>
      -- the words that are unread have become fewer
      obtain ⟨advanced, inRange⟩ := look_onward isLook
      exact ih (by omega)

/-- Matches the words after a verb, from the cursor on. -/
def matchForm (story : Story) (words : Words) (memory : Memory) (verbWord : WordCode)
    (cursor : Nat) : Option (Except Stop (FormMatch × Nat)) :=
  match story.grammar? verbWord with
  | none => some (.error ⟨.notUnderstood, cursor⟩)
  | some root => do
    match ← readForm story words memory (words.size + 1) { table := root.table, cursor } with
    | .error stop => return .error stop
    | .ok (reading, last) => return .ok (reading.remap story verbWord, last)

theorem matchForm_eq (verbWord : WordCode) (cursor : Nat) :
    matchForm story words memory verbWord cursor =
      some (story.matchForm words memory verbWord cursor) := by
  unfold matchForm Story.matchForm
  cases story.grammar? verbWord with
  | none => rfl
  | some root =>
    dsimp only
    rw [readForm_eq (by omega)]
    cases story.readForm words memory root.table cursor <;> rfl

end Forms

end Guarded

end TextAdventure
