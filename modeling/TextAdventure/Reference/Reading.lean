import TextAdventure.CommandError
import TextAdventure.Reference.Basic
import TextAdventure.Reference.Memory
/-!
# Reading references

The words of a parameter slot are one of

* an all word,
* an all word, an except word and references,
* references joined by conjunctions.

A reference is a run of adjectives ended by a noun, a literal, a pronoun or a them word.  A word can
be adjective and noun at once; it is the head of its phrase only if no noun follows.  A conjunction
joins references only if an adjective or a noun follows, for otherwise it ends the command.  A them
word that is also a pronoun is read as a pronoun only while there are no previous targets.
-/

namespace TextAdventure

/-- Why the reading of a command stopped, and the word that it had come to. -/
structure Stop where
  error : CommandError
  cursor : Nat
deriving DecidableEq, Repr

namespace Words

/-- The word is a noun that no noun follows. -/
def isLastNoun (words : Words) (index : Nat) : Bool :=
  words.is index .noun && !words.is (index + 1) .noun

theorem lt_size_of_is {words : Words} {index : Nat} {cls : WordClasses}
    (has : words.is index cls = true) : index < words.size :=
  Nat.lt_of_not_le (of_decide_eq_false (not_isEnd_of_is has))

/-- The place after the adjectives from `cursor` on. -/
def adjectivesEnd (words : Words) (cursor : Nat) : Nat :=
  if _ : words.is cursor .adjective = true then
    if words.isLastNoun cursor then cursor else words.adjectivesEnd (cursor + 1)
  else cursor
termination_by words.size - cursor
decreasing_by
  have := lt_size_of_is ‹words.is cursor .adjective = true›
  omega

theorem le_adjectivesEnd (words : Words) (cursor : Nat) : cursor ≤ words.adjectivesEnd cursor := by
  fun_induction adjectivesEnd words cursor with
  | case1 => exact Nat.le_refl _
  | case2 cursor _ _ ih => exact Nat.le_trans (Nat.le_succ cursor) ih
  | case3 => exact Nat.le_refl _

/-- The phrase of adjectives and a noun from `cursor` on, and the place after it; none if the line
has ended. -/
def phrase (words : Words) (cursor : Nat) : Except Stop (Option Reference × Nat) :=
  let head := words.adjectivesEnd cursor
  if words.is head .noun then .ok (some { first := cursor, last := head }, head + 1)
  else if words.isEnd head && head == cursor then .ok (none, cursor)
  else .error ⟨.nounExpected, head⟩

theorem lt_of_phrase {words : Words} {cursor next : Nat} {r : Reference}
    (read : words.phrase cursor = .ok (some r, next)) : cursor < next := by
  unfold phrase at read
  simp only at read
  split at read
  · cases read; exact Nat.lt_succ_of_le (le_adjectivesEnd words cursor)
  · split at read <;> cases read

theorem eq_of_phrase_none {words : Words} {cursor next : Nat}
    (read : words.phrase cursor = .ok (none, next)) : next = cursor := by
  unfold phrase at read
  simp only at read
  split at read
  · cases read
  · split at read <;> cases read
    rfl

/-- How the word at the cursor refers to something all by itself, if it does. -/
def loneKind? (words : Words) (memory : Memory) (cursor : Nat) : Option ReferenceKind :=
  let isPronoun := words.is cursor .pronoun
  if words.is cursor .them && (!isPronoun || memory.hasPrevious) then some .them
  else
    match words.word? cursor with
    | some (.value literal _) => some (.literal literal)
    | _ => if isPronoun then some .pronoun else none

/-- One reference from `cursor` on, and the place after it; none if the line has ended. -/
def reference (words : Words) (memory : Memory) (cursor : Nat) :
    Except Stop (Option Reference × Nat) :=
  match words.loneKind? memory cursor with
  | some kind => .ok (some { kind, first := cursor, last := cursor }, cursor + 1)
  | none => words.phrase cursor

theorem lt_of_reference {words : Words} {memory : Memory} {cursor next : Nat} {r : Reference}
    (read : words.reference memory cursor = .ok (some r, next)) : cursor < next := by
  unfold reference at read
  split at read
  · cases read; exact Nat.lt_succ_self _
  · exact lt_of_phrase read

theorem eq_of_reference_none {words : Words} {memory : Memory} {cursor next : Nat}
    (read : words.reference memory cursor = .ok (none, next)) : next = cursor := by
  unfold reference at read
  split at read
  · cases read
  · exact eq_of_phrase_none read

/-- The word at `cursor` joins a reference to another one. -/
def joinsReferences (words : Words) (cursor : Nat) : Bool :=
  words.is cursor .conjunction &&
    (words.is (cursor + 1) .adjective || words.is (cursor + 1) .noun)

/-- The joined references from `cursor` on, and the place after them; an empty list if the line has
ended. -/
def references (words : Words) (memory : Memory) (cursor : Nat) :
    Except Stop (List Reference × Nat) :=
  match _ : words.reference memory cursor with
  | .error stop => .error stop
  | .ok (none, next) => .ok ([], next)
  | .ok (some r, next) =>
    if _ : words.joinsReferences next = true then
      match words.references memory (next + 1) with
      | .error stop => .error stop
      | .ok (rest, last) => .ok (r :: rest, last)
    else .ok ([r], next)
termination_by words.size - cursor
decreasing_by
  have advanced := lt_of_reference ‹words.reference memory cursor = .ok (some r, next)›
  have joined := ‹words.joinsReferences next = true›
  rw [joinsReferences, Bool.and_eq_true] at joined
  have := lt_size_of_is joined.1
  omega

/-- The exceptions after an all word, from the except word at `cursor` on. -/
def exceptions (words : Words) (memory : Memory) (cursor : Nat) :
    Except Stop (List Reference × Nat) :=
  match words.references memory (cursor + 1) with
  | .error stop => .error stop
  | .ok ([], next) => .error ⟨.nothingAfterExcept (words.text cursor), next⟩
  | .ok (r :: rest, next) => .ok (r :: rest, next)

/-- The references in a slot, from `cursor` on, whatever the slot allows. -/
def slot (words : Words) (memory : Memory) (flags : SlotFlags) (cursor : Nat) :
    Except Stop (Position × Nat) :=
  if words.is cursor .all then
    let everything : Position :=
      { references := [{ first := cursor, last := cursor }], all := true, multiple := true, flags }
    if words.is (cursor + 1) .except then
      match words.exceptions memory (cursor + 1) with
      | .error stop => .error stop
      | .ok (exceptions, next) => .ok ({ everything with exceptions }, next)
    else .ok (everything, cursor + 1)
  else
    match words.references memory cursor with
    | .error stop => .error stop
    | .ok (references, next) =>
      .ok ({ references, multiple := references.length > 1, flags }, next)

/-- The references in a slot, from `cursor` on, and the place after them.  There must be some, and
only one where the slot does not allow more. -/
def position (words : Words) (memory : Memory) (flags : SlotFlags) (cursor : Nat) :
    Except Stop (Position × Nat) :=
  match words.slot memory flags cursor with
  | .error stop => .error stop
  | .ok (position, next) =>
    if position.references.isEmpty then .error ⟨.notUnderstood, next⟩
    else if position.multiple && !flags.multiple then .error ⟨.multipleNotAllowed, next⟩
    else .ok (position, next)

/-! ## The reading advances -/

theorem le_of_references {words : Words} {memory : Memory} {cursor next : Nat}
    {rs : List Reference} (read : words.references memory cursor = .ok (rs, next)) :
    cursor ≤ next ∧ (rs ≠ [] → cursor < next) := by
  fun_induction references words memory cursor generalizing rs next with
  | case1 => cases read
  | case2 cursor last h =>
    cases read
    exact ⟨Nat.le_of_eq (eq_of_reference_none h).symm, fun nonempty => absurd rfl nonempty⟩
  | case3 => cases read
  | case4 cursor r middle h _ rest last h' ih =>
    cases read
    have := lt_of_reference h
    have := (ih h').1
    exact ⟨by omega, fun _ => by omega⟩
  | case5 cursor r last h =>
    cases read
    have := lt_of_reference h
    exact ⟨by omega, fun _ => this⟩

theorem lt_of_position {words : Words} {memory : Memory} {flags : SlotFlags} {cursor next : Nat}
    {found : Position} (read : words.position memory flags cursor = .ok (found, next)) :
    cursor < next := by
  unfold position at read
  split at read
  · cases read
  · next slotRead =>
    split at read
    · cases read
    · next nonempty =>
      split at read
      · cases read
      · cases read
        unfold slot at slotRead
        split at slotRead
        · -- an all word takes one place, and its exceptions never go back
          simp only at slotRead
          split at slotRead
          · split at slotRead
            · cases slotRead
            · next exceptionsRead =>
              cases slotRead
              unfold exceptions at exceptionsRead
              split at exceptionsRead
              · cases exceptionsRead
              · cases exceptionsRead
              · next referencesRead =>
                cases exceptionsRead
                have := (le_of_references referencesRead).1
                omega
          · cases slotRead; exact Nat.lt_succ_self _
        · -- other references advance unless there are none
          split at slotRead
          · cases slotRead
          · next referencesRead =>
            cases slotRead
            refine (le_of_references referencesRead).2 fun empty => ?_
            simp [empty] at nonempty

end Words

end TextAdventure
