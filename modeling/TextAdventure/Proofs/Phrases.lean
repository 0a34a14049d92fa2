import TextAdventure.Proofs.Bindings
/-!
# The phrases of a command

What a command may look like is laid down here without a parser: which words are a reference
(`Words.ReadsOne`), how references are joined (`Words.ReadsAll`), what fills a parameter slot
(`Words.Fills`), and how the grammar leads from table to table along the words (`Story.Leads`).
Each of these says from which place to which place it goes, and one begins where the one before it
ends.

Matching is sound for it: the words of a command that is matched fall into phrases along a path of
the grammar, none is passed over and none is used twice (`words_accounted_for`).
-/

namespace TextAdventure

/-! ## References -/

namespace Words

/-- The word at the cursor is read as a them word: it is one, and if it is also a pronoun there are
previous targets that it can stand for. -/
def Recalls (words : Words) (memory : Memory) (cursor : Nat) : Prop :=
  words.is cursor .them = true ∧
    (words.is cursor .pronoun = false ∨ memory.hasPrevious = true)

/-- The words from the second number on and before the third one are one reference. -/
inductive ReadsOne (words : Words) (memory : Memory) : Reference → Nat → Nat → Prop where
  | them {cursor : Nat} (recalls : words.Recalls memory cursor) :
      ReadsOne words memory { kind := .them, first := cursor, last := cursor } cursor (cursor + 1)
  | literal {cursor : Nat} {value : Literal} {id : InstanceId}
      (word : words.word? cursor = some (.value value id)) :
      ReadsOne words memory { kind := .literal value, first := cursor, last := cursor } cursor
        (cursor + 1)
  | pronoun {cursor : Nat} (isPronoun : words.is cursor .pronoun = true)
      (recallsNot : ¬ words.Recalls memory cursor) :
      ReadsOne words memory { kind := .pronoun, first := cursor, last := cursor } cursor
        (cursor + 1)
  /-- Any number of adjectives and a noun. -/
  | phrase {cursor head : Nat} (notPronoun : words.is cursor .pronoun = false)
      (recallsNot : ¬ words.Recalls memory cursor) (le : cursor ≤ head)
      (adjectives : ∀ index, cursor ≤ index → index < head → words.is index .adjective = true)
      (noun : words.is head .noun = true) :
      ReadsOne words memory { first := cursor, last := head } cursor (head + 1)

/-- References with one conjunction between each two of them. -/
inductive ReadsAll (words : Words) (memory : Memory) : List Reference → Nat → Nat → Prop where
  | one {reference : Reference} {cursor next : Nat}
      (first : words.ReadsOne memory reference cursor next) :
      ReadsAll words memory [reference] cursor next
  | joined {reference : Reference} {references : List Reference} {cursor middle next : Nat}
      (first : words.ReadsOne memory reference cursor middle)
      (conjunction : words.is middle .conjunction = true)
      (rest : ReadsAll words memory references (middle + 1) next) :
      ReadsAll words memory (reference :: references) cursor next

/-- What fills a slot with some flags. -/
inductive Fills (words : Words) (memory : Memory) (flags : SlotFlags) :
    Position → Nat → Nat → Prop where
  | all {cursor : Nat} (isAll : words.is cursor .all = true) :
      Fills words memory flags
        { references := [{ first := cursor, last := cursor }], all := true, multiple := true,
          flags } cursor (cursor + 1)
  | allExcept {cursor next : Nat} {exceptions : List Reference}
      (isAll : words.is cursor .all = true) (isExcept : words.is (cursor + 1) .except = true)
      (excepted : words.ReadsAll memory exceptions (cursor + 2) next) :
      Fills words memory flags
        { references := [{ first := cursor, last := cursor }], exceptions, all := true,
          multiple := true, flags }
        cursor next
  | references {cursor next : Nat} {references : List Reference}
      (notAll : words.is cursor .all = false)
      (listed : words.ReadsAll memory references cursor next) :
      Fills words memory flags { references, multiple := references.length > 1, flags } cursor next

variable {words : Words} {memory : Memory} {cursor next : Nat}

/-! ### What is read is one of these -/

theorem adjective_of_lt_adjectivesEnd (cursor : Nat) :
    ∀ index, cursor ≤ index → index < words.adjectivesEnd cursor →
      words.is index .adjective = true := by
  fun_induction adjectivesEnd words cursor with
  | case1 =>
    intro index le lt
    omega
  | case2 cursor isAdjective _ ih =>
    intro index le lt
    by_cases here : index = cursor
    · rw [here]
      exact isAdjective
    · exact ih index (by omega) lt
  | case3 =>
    intro index le lt
    omega

/-- The words that refer to something all by themselves, and the order in which this is asked. -/
theorem readsOne_of_loneKind? {kind : ReferenceKind}
    (lone : words.loneKind? memory cursor = some kind) :
    words.ReadsOne memory { kind, first := cursor, last := cursor } cursor (cursor + 1) := by
  have recalls_iff : (words.is cursor .them &&
      (!words.is cursor .pronoun || memory.hasPrevious)) = true ↔
        words.Recalls memory cursor := by
    simp [Recalls]
  unfold loneKind? at lone
  dsimp only at lone
  split at lone
  · next recalls =>
    cases lone
    exact .them (recalls_iff.mp recalls)
  · next recallsNot =>
    split at lone
    · next word =>
      cases lone
      exact .literal word
    · split at lone
      · next isPronoun =>
        cases lone
        exact .pronoun isPronoun fun recalls => recallsNot (recalls_iff.mpr recalls)
      · cases lone

theorem plain_of_loneKind? (lone : words.loneKind? memory cursor = none) :
    words.is cursor .pronoun = false ∧ ¬ words.Recalls memory cursor := by
  unfold loneKind? at lone
  dsimp only at lone
  split at lone
  · cases lone
  · next recallsNot =>
    split at lone
    · cases lone
    · split at lone
      · cases lone
      · next notPronoun =>
        refine ⟨Bool.eq_false_iff.mpr notPronoun, ?_⟩
        rintro ⟨isThem, recalls⟩
        apply recallsNot
        rw [isThem, Bool.eq_false_iff.mpr notPronoun]
        rfl

theorem readsOne_of_reference {reference : Reference}
    (read : words.reference memory cursor = .ok (some reference, next)) :
    words.ReadsOne memory reference cursor next := by
  unfold Words.reference at read
  split at read
  · next kind lone =>
    cases read
    exact readsOne_of_loneKind? lone
  · next lone =>
    unfold phrase at read
    dsimp only at read
    split at read
    · next noun =>
      cases read
      obtain ⟨notPronoun, recallsNot⟩ := plain_of_loneKind? lone
      exact .phrase notPronoun recallsNot (le_adjectivesEnd words cursor)
        (adjective_of_lt_adjectivesEnd cursor) noun
    · split at read <;> cases read

theorem isEnd_of_reference_none (read : words.reference memory cursor = .ok (none, next)) :
    words.isEnd cursor = true := by
  unfold Words.reference at read
  split at read
  · cases read
  · unfold phrase at read
    dsimp only at read
    split at read
    · cases read
    · split at read
      · next ended =>
        rw [Bool.and_eq_true, beq_iff_eq] at ended
        exact ended.2 ▸ ended.1
      · cases read

/-- There are references unless the line has ended. -/
theorem isEnd_of_references_nil (read : words.references memory cursor = .ok ([], next)) :
    words.isEnd cursor = true := by
  unfold Words.references at read
  split at read
  · cases read
  · next referenceRead => exact isEnd_of_reference_none referenceRead
  · split at read
    · split at read <;> cases read
    · cases read

/-- The references from a place on, without the evidence that the reading comes to an end. -/
theorem references_eq (words : Words) (memory : Memory) (cursor : Nat) :
    words.references memory cursor =
      match words.reference memory cursor with
      | .error stop => .error stop
      | .ok (none, next) => .ok ([], next)
      | .ok (some reference, next) =>
        if words.joinsReferences next = true then
          match words.references memory (next + 1) with
          | .error stop => .error stop
          | .ok (rest, last) => .ok (reference :: rest, last)
        else .ok ([reference], next) := by
  rw [Words.references]
  split
  · next read => rw [read]
  · next read => rw [read]
  · next reference next read =>
    rw [read]
    dsimp only
    split
    · cases words.references memory (next + 1) <;> rfl
    · rfl

theorem readsAll_of_references {references : List Reference}
    (read : words.references memory cursor = .ok (references, next)) (some : references ≠ []) :
    words.ReadsAll memory references cursor next := by
  fun_induction Words.references words memory cursor generalizing references next with
  | case1 => cases read
  | case2 =>
    cases read
    exact absurd rfl some
  | case3 => cases read
  | case4 cursor reference middle referenceRead joins rest last restRead ih =>
    cases read
    rw [joinsReferences, Bool.and_eq_true, Bool.or_eq_true] at joins
    obtain ⟨conjunction, begins⟩ := joins
    -- behind the conjunction stands an adjective or a noun, so the line does not end there
    have unended : words.isEnd (middle + 1) = false := begins.elim not_isEnd_of_is not_isEnd_of_is
    have rest_ne_nil : rest ≠ [] := by
      rintro rfl
      rw [isEnd_of_references_nil restRead] at unended
      cases unended
    exact .joined (readsOne_of_reference referenceRead) conjunction (ih restRead rest_ne_nil)
  | case5 cursor reference last referenceRead =>
    cases read
    exact .one (readsOne_of_reference referenceRead)

theorem exceptions_eq_ok {words : Words} {memory : Memory} {index next : Nat}
    {exceptions : List Reference}
    (read : words.exceptions memory index = .ok (exceptions, next)) :
    words.references memory (index + 1) = .ok (exceptions, next) ∧ exceptions ≠ [] := by
  unfold Words.exceptions at read
  split at read
  · cases read
  · cases read
  · next referencesRead =>
    cases read
    exact ⟨referencesRead, List.cons_ne_nil _ _⟩

/-! ### What is filled in takes up words -/

theorem ReadsOne.span {reference : Reference}
    (one : words.ReadsOne memory reference cursor next) :
    reference.first = cursor ∧ reference.last + 1 = next ∧ cursor < next := by
  cases one with
  | them => exact ⟨rfl, rfl, Nat.lt_succ_self _⟩
  | literal => exact ⟨rfl, rfl, Nat.lt_succ_self _⟩
  | pronoun => exact ⟨rfl, rfl, Nat.lt_succ_self _⟩
  | phrase _ _ le => exact ⟨rfl, rfl, Nat.lt_succ_of_le le⟩

theorem ReadsAll.lt {references : List Reference}
    (all : words.ReadsAll memory references cursor next) : cursor < next := by
  induction all with
  | one first => exact first.span.2.2
  | joined first _ _ ih =>
    have := first.span.2.2
    omega

theorem Fills.lt {flags : SlotFlags} {position : Position}
    (fills : words.Fills memory flags position cursor next) : cursor < next := by
  cases fills with
  | all => exact Nat.lt_succ_self _
  | allExcept _ _ excepted =>
    have := excepted.lt
    omega
  | references _ listed => exact listed.lt

theorem ReadsOne.le_size {reference : Reference}
    (one : words.ReadsOne memory reference cursor next) : next ≤ words.size := by
  cases one with
  | them recalls => exact lt_size_of_is recalls.1
  | literal word => exact (List.getElem?_eq_some_iff.mp word).1
  | pronoun isPronoun => exact lt_size_of_is isPronoun
  | phrase _ _ _ _ noun => exact lt_size_of_is noun

theorem ReadsAll.le_size {references : List Reference}
    (all : words.ReadsAll memory references cursor next) : next ≤ words.size := by
  induction all with
  | one first => exact first.le_size
  | joined _ _ _ ih => exact ih

theorem Fills.le_size {flags : SlotFlags} {position : Position}
    (fills : words.Fills memory flags position cursor next) : next ≤ words.size := by
  cases fills with
  | all isAll => exact lt_size_of_is isAll
  | allExcept _ _ excepted => exact excepted.le_size
  | references _ listed => exact listed.le_size

/-- The text of words that are all in the line. -/
theorem spanText_eq {first last : Nat} (lt : last < words.size) :
    words.spanText first last =
      " ".intercalate ((List.range' first (last + 1 - first)).map words.text) := by
  unfold spanText
  dsimp only
  rw [Nat.min_eq_left lt]

theorem fills_of_position {flags : SlotFlags} {position : Position}
    (read : words.position memory flags cursor = .ok (position, next)) :
    words.Fills memory flags position cursor next := by
  obtain ⟨slotRead, references_ne_nil, -⟩ := position_eq_ok read
  unfold slot at slotRead
  split at slotRead
  · next isAll =>
    dsimp only at slotRead
    split at slotRead
    · next isExcept =>
      split at slotRead
      · cases slotRead
      · next exceptions _ exceptionsRead =>
        cases slotRead
        obtain ⟨referencesRead, some⟩ := exceptions_eq_ok exceptionsRead
        exact .allExcept isAll isExcept (readsAll_of_references referencesRead some)
    · cases slotRead
      exact .all isAll
  · next notAll =>
    split at slotRead
    · cases slotRead
    · next referencesRead =>
      cases slotRead
      exact .references (Bool.eq_false_iff.mpr notAll)
        (readsAll_of_references referencesRead references_ne_nil)

end Words

/-! ## Paths of the grammar -/

/-- The words of a command that take one edge of the grammar. -/
inductive Piece where
  | preposition (place : Nat)
  /-- What fills a slot, from the first number on and before the second one. -/
  | slot (position : Position) (first next : Nat)

namespace Piece

/-- The places of the words. -/
def places : Piece → List Nat
  | preposition place => [place]
  | slot _ first next => List.range' first (next - first)

/-- What is recorded of the words. -/
def position? : Piece → Option Position
  | preposition _ => none
  | slot position _ _ => some position

end Piece

/-- From a table and a place in the line the pieces lead, edge by edge, to another table and
place. -/
inductive Story.Leads (story : Story) (words : Words) (memory : Memory) :
    Nat → Nat → List Piece → Nat → Nat → Prop where
  | arrived {table cursor : Nat} : Leads story words memory table cursor [] table cursor
  | word {table next cursor table' last : Nat} {code : WordCode} {pieces : List Piece}
      (edge : .word code next ∈ story.elements table)
      (preposition : words.is cursor .preposition = true)
      (along : words.code? cursor = some code)
      (rest : Leads story words memory next (cursor + 1) pieces table' last) :
      Leads story words memory table cursor (.preposition cursor :: pieces) table' last
  | parameter {table next cursor after table' last : Nat} {flags : SlotFlags}
      {position : Position} {pieces : List Piece}
      (edge : .parameter flags next ∈ story.elements table)
      (fills : words.Fills memory flags position cursor after)
      (rest : Leads story words memory next after pieces table' last) :
      Leads story words memory table cursor (.slot position cursor after :: pieces) table' last

@[simp] theorem FormReading.form_remap (story : Story) (verbWord : WordCode)
    (reading : FormReading) : (reading.remap story verbWord).form = reading.form := by
  unfold remap
  split <;> rfl

namespace Story

variable {story : Story} {words : Words} {memory : Memory}

theorem edge_of_wordEdge? {table cursor next : Nat}
    (edge : story.wordEdge? words table cursor = some next) :
    words.is cursor .preposition = true ∧ ∃ code, words.code? cursor = some code ∧
      .word code next ∈ story.elements table := by
  unfold wordEdge? at edge
  split at edge
  · next preposition =>
    obtain ⟨code, along, found⟩ := Option.bind_eq_some_iff.mp edge
    obtain ⟨element, member, leads⟩ := List.exists_of_findSome?_eq_some found
    refine ⟨preposition, code, along, ?_⟩
    unfold Element.word? at leads
    split at leads
    · split at leads
      · next same =>
        cases leads
        exact same ▸ member
      · cases leads
    · cases leads
  · cases edge

/-- The pieces take up the words between the two ends, each once and in order. -/
theorem Leads.places {table cursor table' last : Nat} {pieces : List Piece}
    (leads : story.Leads words memory table cursor pieces table' last) :
    cursor ≤ last ∧ pieces.flatMap Piece.places = List.range' cursor (last - cursor) := by
  induction leads with
  | arrived => simp
  | @word _ _ cursor _ last _ pieces _ _ _ _ ih =>
    obtain ⟨le, places⟩ := ih
    refine ⟨by omega, ?_⟩
    rw [List.flatMap_cons, places, show last - cursor = (last - (cursor + 1)) + 1 by omega]
    rfl
  | @parameter _ _ cursor after _ last _ _ pieces _ fills _ ih =>
    obtain ⟨le, places⟩ := ih
    have advances := fills.lt
    refine ⟨by omega, ?_⟩
    rw [List.flatMap_cons, places]
    -- the words of the slot and the words behind it
    show List.range' cursor (after - cursor) ++ List.range' after (last - after) = _
    have split := List.range'_append_1 (s := cursor) (m := after - cursor) (n := last - after)
    rw [Nat.add_sub_cancel' (Nat.le_of_lt advances)] at split
    rw [split]
    congr 1
    omega

theorem Leads.le_size {table cursor table' last : Nat} {pieces : List Piece}
    (leads : story.Leads words memory table cursor pieces table' last)
    (le : cursor ≤ words.size) : last ≤ words.size := by
  induction leads with
  | arrived => exact le
  | word _ preposition _ _ ih => exact ih (Words.lt_size_of_is preposition)
  | parameter _ fills _ ih => exact ih fills.le_size

/-- A form is read along a path of the grammar that ends where a form is closed. -/
theorem leads_of_readForm {table cursor last : Nat} {reading : FormReading}
    (read : story.readForm words memory table cursor = .ok (reading, last)) :
    ∃ pieces table', story.Leads words memory table cursor pieces table' last ∧
      (story.elements table').findSome? Element.finish? =
        some (reading.form, reading.restrictions) ∧
      words.isEndOfCommand last = true ∧ pieces.filterMap Piece.position? = reading.positions := by
  fun_induction Story.readForm story words memory table cursor generalizing reading last with
  | case1 table cursor ended form restrictions closes =>
    cases read
    exact ⟨[], table, .arrived, closes, ended, rfl⟩
  | case2 => cases read
  | case3 => cases read
  | case4 => cases read
  | case5 table cursor _ flags next edge position after positionRead rest last restRead ih =>
    cases read
    obtain ⟨pieces, table', leads, closes, ended, positions⟩ := ih restRead
    have first : words.Fills memory flags position cursor after :=
      Words.fills_of_position positionRead
    refine ⟨.slot position cursor after :: pieces, table', ?_, closes, ended, ?_⟩
    · exact .parameter (mem_of_parameterEdge? edge) first leads
    · show position :: pieces.filterMap Piece.position? = _
      rw [positions]
  | case6 table cursor _ _ next edge ih =>
    obtain ⟨pieces, table', leads, closes, ended, positions⟩ := ih read
    obtain ⟨preposition, code, along, member⟩ := edge_of_wordEdge? edge
    exact ⟨.preposition cursor :: pieces, table', .word member preposition along leads, closes,
      ended, positions⟩
  | case7 => cases read

/-- The words of a command that is matched lead along the grammar of its verb from the root to a
table whose first form is the one that is matched.  They fall into pieces that take the edges in
order: a preposition with the code of a word edge, or what fills a slot.  The pieces take up the
words up to the end of the command, each once and in order, and the positions recorded for the form
are those of the slots, in the order of its parameter map. -/
theorem words_accounted_for {verbWord : WordCode} {cursor last : Nat} {found : FormMatch}
    (matched : story.matchForm words memory verbWord cursor = .ok (found, last)) :
    ∃ root pieces table, story.grammar? verbWord = some root ∧
      story.Leads words memory root.table cursor pieces table last ∧
      (story.elements table).findSome? Element.finish? = some (found.form, found.restrictions) ∧
      cursor ≤ last ∧ pieces.flatMap Piece.places = List.range' cursor (last - cursor) ∧
      words.isEndOfCommand last = true ∧
      found = FormReading.remap story verbWord
        ⟨found.form, found.restrictions, pieces.filterMap Piece.position?⟩ := by
  obtain ⟨root, reading, grammar, read, rfl⟩ := matchForm_eq_ok.mp matched
  obtain ⟨pieces, table, leads, closes, ended, positions⟩ := leads_of_readForm read
  have form : (reading.remap story verbWord).form = reading.form := FormReading.form_remap ..
  rw [form, FormReading.restrictions_remap]
  refine ⟨root, pieces, table, grammar, leads, closes, leads.places.1, leads.places.2, ended, ?_⟩
  rw [positions]

/-- Cut thread with scissors: the two slots are parted by the preposition. -/
theorem words_accounted_for_shop :
    let words : Words := .ofShop [0, 8, 2, 6]
    let found : FormMatch :=
      { form := 1, verb := 1, restrictions := []
        positions := [
          { references := [{ first := 1, last := 1 }] },
          { references := [{ first := 3, last := 3 }] }] }
    Story.shop.matchForm words {} 1 1 = .ok (found, 4) ∧
    ∃ root pieces table, Story.shop.grammar? 1 = some root ∧
      Story.shop.Leads words {} root.table 1 pieces table 4 ∧
      (Story.shop.elements table).findSome? Element.finish? = some (1, []) ∧
      1 ≤ 4 ∧ pieces.flatMap Piece.places = [1, 2, 3] ∧ words.isEndOfCommand 4 = true ∧
      found = FormReading.remap Story.shop 1 ⟨1, [], pieces.filterMap Piece.position?⟩ := by
  intro words found
  have matched : Story.shop.matchForm words {} 1 1 = .ok (found, 4) :=
    eq_ok_of_toOption (by decide +kernel)
  exact ⟨matched, words_accounted_for matched⟩

end Story

end TextAdventure
