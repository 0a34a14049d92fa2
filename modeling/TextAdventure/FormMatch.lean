import TextAdventure.LogRecord
import TextAdventure.Reference.Reading
/-!
# Matching a command against the grammar

The words after a verb are followed through the grammar of the verb from its root.  At each table
the end of the command needs an entry that closes a form; a word that can begin a reference takes
the first parameter edge and a preposition the first edge along its code.  There is no going back:
the first edge that fits is taken.

The positions are found in the order of the form.  The parameter map of the form puts them into the
order in which the verb expects them and names the verb.
-/

namespace TextAdventure

/-- The flags and the end of an edge along a parameter. -/
def Element.parameter? : Element → Option (SlotFlags × Nat)
  | .parameter flags next => some (flags, next)
  | _ => none

/-- The end of an edge along a word with a code. -/
def Element.word? (code : WordCode) : Element → Option Nat
  | .word c next => if c = code then some next else none
  | _ => none

/-- The number and the restrictions of a form that ends. -/
def Element.finish? : Element → Option (Nat × List Restriction)
  | .finish form restrictions => some (form, restrictions)
  | _ => none

/-- A form that the words of a command fit, and its positions in the order of the words. -/
structure FormReading where
  form : Nat
  restrictions : List Restriction
  positions : List Position
deriving DecidableEq, Repr

namespace Story

/-- The first parameter edge of a table, if a reference can begin at the cursor. -/
def parameterEdge? (story : Story) (words : Words) (table cursor : Nat) :
    Option (SlotFlags × Nat) :=
  if words.isReference cursor then (story.elements table).findSome? Element.parameter? else none

/-- The first edge of a table along the preposition at the cursor. -/
def wordEdge? (story : Story) (words : Words) (table cursor : Nat) : Option Nat :=
  if words.is cursor .preposition then
    (words.code? cursor).bind fun code => (story.elements table).findSome? (Element.word? code)
  else none

/-- Why no edge fits at the cursor. -/
def mismatch (words : Words) (cursor : Nat) : CommandError :=
  if words.is cursor .except then
    .butAfterAll (words.text cursor) ((words.dictionary.allWord).getD "all")
  else .notUnderstood

/-- Follows the words from the cursor on through the grammar, beginning at a table.  The second part
of an answer is the place where the command ends. -/
def readForm (story : Story) (words : Words) (memory : Memory) (table cursor : Nat) :
    Except Stop (FormReading × Nat) :=
  if _ : words.isEndOfCommand cursor = true then
    match (story.elements table).findSome? Element.finish? with
    | some (form, restrictions) => .ok (⟨form, restrictions, []⟩, cursor)
    | none => .error ⟨.notUnderstood, cursor⟩
  else
    match story.parameterEdge? words table cursor with
    | some (flags, next) =>
      match _ : words.position memory flags cursor with
      | .error stop => .error ⟨stop.error, cursor⟩
      | .ok (position, after) =>
        match story.readForm words memory next after with
        | .error stop => .error stop
        | .ok (reading, last) =>
          .ok ({ reading with positions := position :: reading.positions }, last)
    | none =>
      match story.wordEdge? words table cursor with
      | some next => story.readForm words memory next (cursor + 1)
      | none => .error ⟨mismatch words cursor, cursor⟩
termination_by words.size - cursor
decreasing_by
  all_goals
    have unended := ‹¬ words.isEndOfCommand cursor = true›
    simp only [Words.isEndOfCommand, Words.isEnd, Bool.or_eq_true, decide_eq_true_eq,
      not_or, Nat.not_le] at unended
  · have := Words.lt_of_position ‹words.position memory flags cursor = .ok (position, after)›
    omega
  · omega

end Story

/-- A command whose form is known, with its positions in the order in which the verb expects
them. -/
structure FormMatch where
  form : Nat
  /-- The verb that the form calls. -/
  verb : WordCode
  restrictions : List Restriction
  positions : List Position
  /-- What is wrong with the parameter map. -/
  remarks : List LogRecord := []
deriving DecidableEq, Repr

namespace ParameterMap

/-- The position that a parameter of the verb comes from; `index` counts from 0. -/
def source? (map : ParameterMap) (positions : List Position) (index : Nat) : Option Position :=
  (map.sources[index]?).bind (entryAt positions)

/-- The positions in the order in which the verb expects them.  One without a source stays. -/
def reorder (map : ParameterMap) (positions : List Position) : List Position :=
  positions.mapIdx fun index position => (map.source? positions index).getD position

/-- A remark for every position without a source. -/
def remarks (map : ParameterMap) (positions : List Position) : List LogRecord :=
  ((List.range positions.length).filter fun index => (map.source? positions index).isNone).map
    fun index => .warning
      s!"Parameter map for syntax {map.form} has no entry for parameter {index + 1}"

end ParameterMap

/-- The command that a reading amounts to. -/
def FormReading.remap (story : Story) (verbWord : WordCode) (reading : FormReading) : FormMatch :=
  match story.parameterMap? reading.form with
  | none =>
    { form := reading.form
      verb := verbWord
      restrictions := reading.restrictions
      positions := reading.positions
      remarks := [.warning
        s!"No parameter map for syntax {reading.form}, keeping parameter order"] }
  | some map =>
    { form := reading.form
      verb := map.verb
      restrictions := reading.restrictions
      positions := map.reorder reading.positions
      remarks := map.remarks reading.positions }

/-- Matches the words after a verb, from the cursor on; the second part of an answer is the place
where the command ends. -/
def Story.matchForm (story : Story) (words : Words) (memory : Memory) (verbWord : WordCode)
    (cursor : Nat) : Except Stop (FormMatch × Nat) :=
  match story.grammar? verbWord with
  | none => .error ⟨.notUnderstood, cursor⟩
  | some root =>
    match story.readForm words memory root.table cursor with
    | .error stop => .error stop
    | .ok (reading, last) => .ok (reading.remap story verbWord, last)

/-! ## Matching does not go back -/

theorem Story.le_of_readForm {story : Story} {words : Words} {memory : Memory}
    {table cursor last : Nat} {reading : FormReading}
    (read : story.readForm words memory table cursor = .ok (reading, last)) : cursor ≤ last := by
  fun_induction Story.readForm story words memory table cursor generalizing reading last with
  | case1 => cases read; exact Nat.le_refl _
  | case2 => cases read
  | case3 => cases read
  | case4 => cases read
  | case5 _ cursor _ _ _ _ _ after h _ _ h' ih =>
    cases read
    have := Words.lt_of_position h
    have := ih h'
    omega
  | case6 _ _ _ _ _ _ ih => exact Nat.le_of_succ_le (ih read)
  | case7 => cases read

theorem Story.le_of_matchForm {story : Story} {words : Words} {memory : Memory}
    {verbWord : WordCode} {cursor last : Nat} {found : FormMatch}
    (read : story.matchForm words memory verbWord cursor = .ok (found, last)) : cursor ≤ last := by
  unfold Story.matchForm at read
  split at read
  · cases read
  · split at read
    · cases read
    · cases read
      exact le_of_readForm ‹_›

end TextAdventure
