import TextAdventure.Proofs.Phrases
import TextAdventure.Proofs.WellDrafted
/-!
# Playing the declared forms

A command spells the pattern of a form if it has a preposition for every word and a single noun for
every slot.  Forms share the edge of a slot only if its flags are the same, while a command takes
the first edge of a table that is a slot, whatever its flags.  So it is matched with the first form
that was declared with its pattern if and only if each slot of this form has the flags of the slot
that was declared first behind the same beginning (`Foremost`, `declared_form_matched_iff`).  Where
the forms of a verb agree on the flags, this is so (`foremost_of_agree`).
-/

namespace TextAdventure

open Outline

/-! ## Patterns -/

/-- A step without its flags: a word, or none for a slot. -/
def FormStep.shape : FormStep → Option String
  | .word text => some text
  | .slot _ => none

/-- The steps of a form without their flags. -/
def DeclaredForm.pattern (form : DeclaredForm) : List (Option String) := form.steps.map (·.shape)

namespace Words

variable {words : Words} {cursor : Nat} {memory : Memory}

/-- The word at a place is a preposition and nothing else. -/
def IsPreposition (words : Words) (cursor : Nat) (text : String) : Prop :=
  ∃ entry, words.entry? cursor = some entry ∧ entry.word = text ∧ entry.classes = .preposition

/-- The word at a place is a noun and nothing else, and none is joined to it. -/
def IsSingleNoun (words : Words) (cursor : Nat) : Prop :=
  words.classes cursor = .noun ∧ words.joinsReferences (cursor + 1) = false

/-- The words from a place on spell a pattern, and the command ends behind them. -/
def Spells (words : Words) : Nat → List (Option String) → Prop
  | cursor, [] => words.isEndOfCommand cursor = true
  | cursor, some text :: pattern =>
    words.IsPreposition cursor text ∧ words.Spells (cursor + 1) pattern
  | cursor, none :: pattern => words.IsSingleNoun cursor ∧ words.Spells (cursor + 1) pattern

theorem IsPreposition.classes_eq {text : String} (word : words.IsPreposition cursor text) :
    words.classes cursor = .preposition := by
  obtain ⟨entry, found, -, classes⟩ := word
  cases there : words.word? cursor with
  | none =>
    unfold entry? entryIndex? at found
    rw [there] at found
    cases found
  | some word =>
    cases word with
    | value literal id =>
      unfold entry? entryIndex? at found
      rw [there] at found
      cases found
    | known index text => simp [Words.classes, there, found, classes]

/-- A word that is some preposition or noun and nothing else does not end the command. -/
theorem not_isEndOfCommand {cls : WordClasses} (classes : words.classes cursor = cls)
    (kind : cls ≠ .none) (joins : cls.contains .conjunction = false) :
    words.isEndOfCommand cursor = false := by
  rw [isEndOfCommand, Bool.or_eq_false_iff]
  constructor
  · cases ended : words.isEnd cursor with
    | false => rfl
    | true => exact absurd (classes.symm.trans (classes_of_isEnd ended)) kind
  · rw [is, classes, joins]

/-- The position of a noun that stands alone. -/
def nounPosition (cursor : Nat) (flags : SlotFlags) : Position :=
  { references := [{ first := cursor, last := cursor }], flags }

theorem IsSingleNoun.position_eq (noun : words.IsSingleNoun cursor) (memory : Memory)
    (flags : SlotFlags) :
    words.position memory flags cursor = .ok (nounPosition cursor flags, cursor + 1) := by
  obtain ⟨classes, alone⟩ := noun
  have only : ∀ cls, words.is cursor cls = WordClasses.noun.contains cls := fun cls => by
    rw [is, classes]
  have lone : words.loneKind? memory cursor = none := by
    unfold loneKind?
    rw [only .pronoun, only .them]
    cases there : words.word? cursor with
    | none => rfl
    | some word =>
      cases word with
      | value literal id =>
        simp only [Words.classes, there] at classes
        cases classes
      | known index text => rfl
  have head : words.adjectivesEnd cursor = cursor := by
    rw [adjectivesEnd, dif_neg]
    rw [only .adjective]
    decide
  have one : words.reference memory cursor =
      .ok (some { first := cursor, last := cursor }, cursor + 1) := by
    unfold reference phrase
    rw [lone]
    dsimp only
    rw [head, only .noun]
    rfl
  have all : words.references memory cursor =
      .ok ([{ first := cursor, last := cursor }], cursor + 1) := by
    rw [references_eq, one]
    dsimp only
    rw [alone]
    rfl
  unfold Words.position slot
  rw [only .all, all]
  rfl

end Words

/-! ## Reading along a pattern -/

namespace Story

variable {story : Story} {words : Words} {memory : Memory} {table cursor : Nat}

theorem readForm_end (ended : words.isEndOfCommand cursor = true) :
    story.readForm words memory table cursor =
      match (story.elements table).findSome? Element.finish? with
      | some (form, restrictions) => .ok (⟨form, restrictions, []⟩, cursor)
      | none => .error ⟨.notUnderstood, cursor⟩ := by
  cases found : (story.elements table).findSome? Element.finish? with
  | none => rw [readForm, dif_pos ended, found]
  | some finish => rw [readForm, dif_pos ended, found]

theorem readForm_noun (noun : words.IsSingleNoun cursor) :
    story.readForm words memory table cursor =
      match (story.elements table).findSome? Element.parameter? with
      | some (flags, next) =>
        (story.readForm words memory next (cursor + 1)).map fun read =>
          ({ read.1 with
            positions := Words.nounPosition cursor flags :: read.1.positions }, read.2)
      | none => .error ⟨mismatch words cursor, cursor⟩ := by
  have goes := Words.not_isEndOfCommand noun.1 (by decide) (by decide)
  have reference : words.isReference cursor = true := by
    rw [Words.isReference, noun.1]
    decide
  have preposition : words.is cursor .preposition = false := by
    rw [Words.is, noun.1]
    decide
  rw [readForm, dif_neg (by simp [goes])]
  simp only [parameterEdge?, reference, wordEdge?, preposition]
  cases (story.elements table).findSome? Element.parameter? with
  | none => rfl
  | some edge =>
    obtain ⟨flags, next⟩ := edge
    have position := noun.position_eq memory flags
    simp only [if_true]
    split
    · next refused => cases refused.symm.trans position
    · next filled =>
      cases filled.symm.trans position
      cases story.readForm words memory next (cursor + 1) <;> rfl

theorem readForm_word {text : String} (word : words.IsPreposition cursor text) {code : WordCode}
    (coded : words.code? cursor = some code) :
    story.readForm words memory table cursor =
      match (story.elements table).findSome? (Element.word? code) with
      | some next => story.readForm words memory next (cursor + 1)
      | none => .error ⟨mismatch words cursor, cursor⟩ := by
  have goes := Words.not_isEndOfCommand word.classes_eq (by decide) (by decide)
  have reference : words.isReference cursor = false := by
    rw [Words.isReference, word.classes_eq]
    decide
  have preposition : words.is cursor .preposition = true := by
    rw [Words.is, word.classes_eq]
    decide
  rw [readForm, dif_neg (by simp [goes])]
  simp only [parameterEdge?, reference, wordEdge?, preposition, coded, Option.bind_some, if_true]
  rfl

end Story

/-! ## What the forms say of a table -/

/-- The flags of a slot. -/
def Mark.slot? : Mark → Option SlotFlags
  | .step (.slot flags) => some flags
  | _ => none

/-- The number of a form that ends. -/
def Mark.finish? : Mark → Option Nat
  | .finish form => some form
  | _ => none

/-- The flags of the first slot that forms have at a spot. -/
def firstSlot? (forms : List DeclaredForm) (spot : Spot) : Option SlotFlags :=
  forms.findSome? fun form => (form.outline.markAt spot).bind Mark.slot?

/-- Every slot of a form has the flags of the first slot that forms have behind the same
beginning. -/
def Foremost (forms : List DeclaredForm) (form : DeclaredForm) : Prop :=
  ∀ index flags, form.steps[index]? = some (.slot flags) →
    firstSlot? forms ⟨form.verb, form.steps.take index⟩ = some flags

/-- Behind a spot the form goes on with a pattern, along first slots. -/
structure GoesOn (forms : List DeclaredForm) (spot : Spot) (pattern : List (Option String))
    (form : DeclaredForm) : Prop where
  verb : form.verb = spot.verb
  steps : ∃ rest, form.steps = spot.path ++ rest ∧ rest.map (·.shape) = pattern
  first : ∀ index flags, spot.path.length ≤ index → form.steps[index]? = some (.slot flags) →
    firstSlot? forms ⟨form.verb, form.steps.take index⟩ = some flags

/-- A form goes on from a spot as it does behind a step, if that is no slot or a first one. -/
theorem GoesOn.back {forms : List DeclaredForm} {spot : Spot} {step : FormStep}
    {pattern : List (Option String)} {form : DeclaredForm}
    (goes : GoesOn forms (spot.along step) pattern form)
    (leading : ∀ flags, step = .slot flags → firstSlot? forms spot = some flags) :
    GoesOn forms spot (step.shape :: pattern) form := by
  obtain ⟨verb, ⟨rest, steps, shapes⟩, first⟩ := goes
  have split : form.steps = spot.path ++ step :: rest := by
    rw [steps, List.append_cons]
    rfl
  refine ⟨verb, ⟨step :: rest, split, by rw [List.map_cons, shapes]⟩, ?_⟩
  intro index flags behind there
  rcases Nat.eq_or_lt_of_le behind with rfl | behind
  · rw [split, List.getElem?_append_right (Nat.le_refl _), Nat.sub_self] at there
    rw [split, List.take_left, verb]
    exact leading flags (Option.some.inj there)
  · have beyond : (spot.along step).path.length ≤ index := by
      rw [Spot.along, List.length_append]
      exact behind
    exact first index flags beyond there

theorem GoesOn.foremost {forms : List DeclaredForm} {verb : String}
    {pattern : List (Option String)} {form : DeclaredForm}
    (goes : GoesOn forms ⟨verb, []⟩ pattern form) : Foremost forms form :=
  fun index flags => goes.first index flags (Nat.zero_le index)

namespace DeclaredForm

variable {form : DeclaredForm} {spot : Spot}

theorem finish?_markAt :
    (form.outline.markAt spot).bind Mark.finish? =
      if form.spot = spot then some form.number else none := by
  split
  · next here => rw [markAt_eq_finish.mpr ⟨here.symm, rfl⟩]; rfl
  · next elsewhere =>
    cases marked : form.outline.markAt spot with
    | none => rfl
    | some mark => cases mark with
      | step step => rfl
      | finish number => exact absurd (markAt_eq_finish.mp marked).1.symm elsewhere

/-- A form comes to the spots of its beginnings. -/
theorem passes_iff :
    form.outline.Passes spot ↔ form.verb = spot.verb ∧ spot.path <+: form.steps := by
  unfold outline
  rw [passes_concat, or_iff_left (by simp)]
  refine and_congr_right fun _ => ⟨?_, fun begins => begins.map _⟩
  intro begins
  obtain ⟨path, begins, same⟩ := List.prefix_map_iff.mp begins
  rwa [map_step_injective same]

/-- The mark of a form at a spot is a slot if the form goes on with one. -/
theorem slot?_markAt {flags : SlotFlags} :
    (form.outline.markAt spot).bind Mark.slot? = some flags ↔
      form.verb = spot.verb ∧ spot.path <+: form.steps ∧
        form.steps[spot.path.length]? = some (.slot flags) := by
  rw [← concat_prefix_iff]
  show _ ↔ form.verb = (spot.along (.slot flags)).verb ∧
    (spot.along (.slot flags)).path <+: form.steps
  rw [← passes_iff, ← markAt_eq_step]
  cases form.outline.markAt spot with
  | none => simp
  | some mark =>
    cases mark with
    | finish number => simp [Mark.slot?]
    | step step => cases step <;> simp [Mark.slot?]

end DeclaredForm

/-- Where the forms of a verb that go on with slots behind the same beginning agree on the flags,
they are all foremost. -/
theorem foremost_of_agree {forms : List DeclaredForm} {form : DeclaredForm} (member : form ∈ forms)
    (agree : ∀ other ∈ forms, other.verb = form.verb → ∀ index flags flags',
      other.steps.take index = form.steps.take index →
      form.steps[index]? = some (.slot flags) → other.steps[index]? = some (.slot flags') →
      flags' = flags) :
    Foremost forms form := by
  intro index flags there
  have long : (form.steps.take index).length = index := by
    rw [List.length_take, min_eq_left]
    exact Nat.le_of_lt (List.getElem?_eq_some_iff.mp there).1
  have own : (form.outline.markAt ⟨form.verb, form.steps.take index⟩).bind Mark.slot? =
      some flags :=
    DeclaredForm.slot?_markAt.mpr ⟨rfl, List.take_prefix index _, by rw [long, there]⟩
  have present : (firstSlot? forms ⟨form.verb, form.steps.take index⟩).isSome := by
    rw [firstSlot?, List.findSome?_isSome_iff]
    exact ⟨form, member, own ▸ rfl⟩
  obtain ⟨flags', first⟩ := Option.isSome_iff_exists.mp present
  obtain ⟨other, declared, slot⟩ := List.exists_of_findSome?_eq_some first
  obtain ⟨verb, begins, there'⟩ := DeclaredForm.slot?_markAt.mp slot
  rw [long] at there'
  have alike : form.steps.take index = other.steps.take (form.steps.take index).length :=
    List.prefix_iff_eq_take.mp begins
  rw [long] at alike
  rw [first, agree other declared verb index flags flags' alike.symm there there']

/-! ## Reading in a drafted story -/

namespace Draft.Kept

variable {draft : Draft} {spots : List Spot} {forms : List DeclaredForm} {spot : Spot}
  {table : Nat} {words : Words} {memory : Memory}

theorem elements_of_spot (kept : Kept draft spots forms []) (spotted : spots[table]? = some spot) :
    draft.story.tables[table]? = some (draft.story.elements table) := by
  rw [Story.elements, List.getElem?_eq_getElem (kept.grown.inside spotted)]
  rfl

/-- What is found first in a table is found first among the marks of the forms at its spot. -/
theorem findSome?_elements (kept : Kept draft spots forms []) (spotted : spots[table]? = some spot)
    {β : Type} (f : Element → Option β) (g : Mark → Option β)
    (alike : ∀ element mark, element.mark? draft.story.spellings = some mark → f element = g mark) :
    (draft.story.elements table).findSome? f =
      forms.findSome? fun form => (form.outline.markAt spot).bind g := by
  have marks := kept.settled.marks spotted (kept.elements_of_spot spotted)
  rw [findSome?_eq_of_map alike marks, marksAt, findSome?_eraseDups, findSome?_filterMap,
    List.findSome?_map]
  rfl

/-- The first slot of a table is that of the first form with a slot at its spot. -/
theorem slot_of_table (kept : Kept draft spots forms []) (spotted : spots[table]? = some spot) :
    ((draft.story.elements table).findSome? Element.parameter?).map (·.1) =
      firstSlot? forms spot := by
  rw [List.map_findSome?]
  apply kept.findSome?_elements spotted _ Mark.slot?
  intro element mark stands
  cases element with
  | word code next =>
    obtain ⟨text, -, rfl⟩ := Option.map_eq_some_iff.mp stands
    rfl
  | parameter flags next => cases stands; rfl
  | finish form restrictions => cases stands; rfl

/-- The form that ends first in a table is the first one that ends at its spot. -/
theorem form_of_table (kept : Kept draft spots forms []) (spotted : spots[table]? = some spot) :
    ((draft.story.elements table).findSome? Element.finish?).map (·.1) =
      (forms.find? (·.spot == spot)).map (·.number) := by
  have alike : ∀ element mark, element.mark? draft.story.spellings = some mark →
      (Option.map (·.1) ∘ Element.finish?) element = Mark.finish? mark := by
    intro element mark stands
    cases element with
    | word code next =>
      obtain ⟨text, -, rfl⟩ := Option.map_eq_some_iff.mp stands
      rfl
    | parameter flags next => cases stands; rfl
    | finish form restrictions => cases stands; rfl
  rw [List.map_findSome?, kept.findSome?_elements spotted _ _ alike, List.find?_eq_findSome?_guard,
    List.map_findSome?]
  congr 1
  funext form
  rw [DeclaredForm.finish?_markAt]
  by_cases here : form.spot = spot <;> simp [here, Option.guard]

/-- The first slot of a table leads to the spot behind it. -/
theorem onward_slot (kept : Kept draft spots forms []) (spotted : spots[table]? = some spot)
    {flags : SlotFlags} {next : Nat}
    (first : (draft.story.elements table).findSome? Element.parameter? = some (flags, next)) :
    spots[next]? = some (spot.along (.slot flags)) := by
  obtain ⟨element, member, found⟩ := List.exists_of_findSome?_eq_some first
  cases element with
  | parameter flags' next' =>
    cases found
    exact (kept.grown.links spotted (kept.elements_of_spot spotted) member rfl rfl).2
  | word code next' => cases found
  | finish form restrictions => cases found

theorem along_word? (kept : Kept draft spots forms []) {code : WordCode} {text : String}
    (found : entryAt draft.story.spellings code = some text) :
    Along draft.story.spellings (.word text) (Element.word? code) (.word code) := by
  have same : Element.word? code = wordEdge code := by
    funext element
    cases element <;> rfl
  rw [same]
  exact along_word kept.words found

/-- The edge along a word leads to the spot behind it. -/
theorem onward_word (kept : Kept draft spots forms []) (spotted : spots[table]? = some spot)
    {code : WordCode} {text : String} (found : entryAt draft.story.spellings code = some text)
    {next : Nat} (first : (draft.story.elements table).findSome? (Element.word? code) = some next) :
    spots[next]? = some (spot.along (.word text)) := by
  obtain ⟨element, member, leads⟩ := List.exists_of_findSome?_eq_some first
  have there := kept.elements_of_spot spotted
  obtain ⟨mark, -, stands⟩ := kept.grown.marks.mark_of_mem spotted there member
  rw [(kept.along_word? found).leads stands] at leads
  split at leads
  · next same =>
    subst same
    exact (kept.grown.links spotted there member stands leads).2
  · cases leads

/-- There is an edge along a word if a form goes on with the word. -/
theorem exists_word (kept : Kept draft spots forms []) (spotted : spots[table]? = some spot)
    {code : WordCode} {text : String} (found : entryAt draft.story.spellings code = some text)
    {form : DeclaredForm} (member : form ∈ forms)
    (passes : form.outline.Passes (spot.along (.word text))) :
    ∃ next, (draft.story.elements table).findSome? (Element.word? code) = some next := by
  have marked : .step (.word text) ∈ marksAt (forms.map (·.outline)) spot :=
    mem_marksAt.mpr ⟨_, List.mem_map_of_mem member, markAt_eq_step.mpr passes⟩
  obtain ⟨element, there, stands⟩ :=
    kept.settled.marks.mem_of_mark spotted (kept.elements_of_spot spotted) marked
  obtain ⟨next, leads⟩ := Element.exists_next? stands
  have led : Element.word? code element = some next := by
    rw [(kept.along_word? found).leads stands, if_pos rfl, leads]
  rw [← Option.isSome_iff_exists, List.findSome?_isSome_iff]
  exact ⟨element, there, led ▸ rfl⟩

/-- The code of a word of the dictionary. -/
theorem entryAt_code (kept : Kept draft spots forms []) {entry : DictionaryEntry}
    (member : entry ∈ draft.story.dictionary.entries) :
    entryAt draft.story.spellings entry.code = some entry.word := by
  obtain ⟨index, there⟩ := List.getElem?_of_mem member
  have code : entry.code = index + 1 := kept.wordCodes.eq_succ (by simp [there])
  rw [code, entryAt_succ, Story.spellings, List.getElem?_map, there]
  rfl

/-- The code of a preposition of a command is that of its spelling. -/
theorem code_of_isPreposition (kept : Kept draft spots forms [])
    (dictionary : words.dictionary = draft.story.dictionary) {cursor : Nat} {text : String}
    (word : words.IsPreposition cursor text) :
    ∃ code, words.code? cursor = some code ∧ entryAt draft.story.spellings code = some text := by
  obtain ⟨entry, found, rfl, -⟩ := word
  refine ⟨entry.code, by rw [Words.code?, found]; rfl, kept.entryAt_code ?_⟩
  obtain ⟨index, -, there⟩ := Option.bind_eq_some_iff.mp found
  rw [dictionary] at there
  exact List.mem_of_getElem? there

/-- A command that spells the pattern of a foremost form is read to the end of the form.  The
induction is on the steps that are left, at the table of the spot behind those that are `done`. -/
theorem readForm_of_foremost (kept : Kept draft spots forms [])
    (dictionary : words.dictionary = draft.story.dictionary) {form : DeclaredForm}
    (member : form ∈ forms) (foremost : Foremost forms form) {done rest : List FormStep}
    (split : form.steps = done ++ rest) {cursor : Nat}
    (spotted : spots[table]? = some ⟨form.verb, done⟩)
    (spells : words.Spells cursor (rest.map (·.shape))) :
    ∃ reading,
      draft.story.readForm words memory table cursor = .ok (reading, cursor + rest.length) ∧
      some reading.form = (forms.find? (·.spot == form.spot)).map (·.number) := by
  induction rest generalizing done table cursor with
  | nil =>
    rw [List.append_nil] at split
    have ends := kept.form_of_table spotted
    have here : (⟨form.verb, done⟩ : Spot) = form.spot := by rw [← split]; rfl
    rw [here] at ends
    have present : ((forms.find? (·.spot == form.spot)).map (·.number)).isSome := by
      rw [Option.isSome_map, List.find?_isSome]
      exact ⟨form, member, beq_self_eq_true _⟩
    rw [← ends, Option.isSome_map] at present
    obtain ⟨⟨number, restrictions⟩, found⟩ := Option.isSome_iff_exists.mp present
    refine ⟨⟨number, restrictions, []⟩, ?_, ?_⟩
    · rw [Story.readForm_end spells, found]
      rfl
    · rw [← ends, found]
      rfl
  | cons step rest ih =>
    have further : form.steps = (done ++ [step]) ++ rest := by rw [split, List.append_cons]
    have place : cursor + 1 + rest.length = cursor + (rest.length + 1) := by omega
    cases step with
    | word text =>
      obtain ⟨word, spells⟩ := spells
      obtain ⟨code, coded, found⟩ := kept.code_of_isPreposition dictionary word
      have passes : form.outline.Passes (Spot.along ⟨form.verb, done⟩ (.word text)) :=
        DeclaredForm.passes_iff.mpr ⟨rfl, rest, further.symm⟩
      obtain ⟨next, first⟩ := kept.exists_word spotted found member passes
      obtain ⟨reading, read, ends⟩ := ih further (kept.onward_word spotted found first) spells
      refine ⟨reading, ?_, ends⟩
      rw [Story.readForm_word word coded, first]
      simp only [read, List.length_cons, place]
    | slot flags =>
      obtain ⟨noun, spells⟩ := spells
      have leading : firstSlot? forms ⟨form.verb, done⟩ = some flags := by
        have first := foremost done.length flags (by simp [split])
        rwa [split, List.take_left] at first
      rw [← kept.slot_of_table spotted, Option.map_eq_some_iff] at leading
      obtain ⟨⟨flags', next⟩, first, rfl⟩ := leading
      obtain ⟨reading, read, ends⟩ := ih further (kept.onward_slot spotted first) spells
      refine ⟨{ reading with
        positions := Words.nounPosition cursor flags' :: reading.positions }, ?_, ends⟩
      rw [Story.readForm_noun noun, first]
      simp only [read, List.length_cons, place]
      rfl

/-- A command that spells a pattern and is read is read as a form of that pattern, along first
slots. -/
theorem goesOn_of_readForm (kept : Kept draft spots forms [])
    (dictionary : words.dictionary = draft.story.dictionary) {pattern : List (Option String)}
    {cursor last : Nat} {reading : FormReading} (spotted : spots[table]? = some spot)
    (spells : words.Spells cursor pattern)
    (read : draft.story.readForm words memory table cursor = .ok (reading, last)) :
    last = cursor + pattern.length ∧ reading.positions.length = pattern.count none ∧
      ∃ form ∈ forms, reading.form = form.number ∧ GoesOn forms spot pattern form := by
  induction pattern generalizing spot table cursor reading last with
  | nil =>
    rw [Story.readForm_end spells] at read
    split at read
    · next number restrictions found =>
      cases read
      have ends := kept.form_of_table spotted
      rw [found] at ends
      obtain ⟨form, first, number_eq⟩ := Option.map_eq_some_iff.mp ends.symm
      have here : form.spot = spot := by simpa using List.find?_some first
      subst here
      refine ⟨rfl, rfl, form, List.mem_of_find?_eq_some first, number_eq.symm, rfl,
        ⟨[], (List.append_nil _).symm, rfl⟩, ?_⟩
      intro index flags behind there
      have none : form.steps[index]? = none := List.getElem?_eq_none behind
      cases none.symm.trans there
    · cases read
  | cons shape pattern ih =>
    cases shape with
    | some text =>
      obtain ⟨word, spells⟩ := spells
      obtain ⟨code, coded, found⟩ := kept.code_of_isPreposition dictionary word
      rw [Story.readForm_word word coded] at read
      split at read
      · next next first =>
        obtain ⟨rfl, count, form, member, number, goes⟩ :=
          ih (kept.onward_word spotted found first) spells read
        refine ⟨?_, by simpa using count, form, member, number, goes.back fun flags same => ?_⟩
        · rw [List.length_cons]
          omega
        · cases same
      · cases read
    | none =>
      obtain ⟨noun, spells⟩ := spells
      rw [Story.readForm_noun noun] at read
      split at read
      · next flags next first =>
        cases below : draft.story.readForm words memory next (cursor + 1) with
        | error stop =>
          rw [below] at read
          cases read
        | ok answer =>
          obtain ⟨reading', last'⟩ := answer
          rw [below] at read
          cases read
          obtain ⟨rfl, count, form, member, number, goes⟩ :=
            ih (kept.onward_slot spotted first) spells below
          have leading : firstSlot? forms spot = some flags := by
            rw [← kept.slot_of_table spotted, first]
            rfl
          refine ⟨?_, by simpa using count, form, member, number, goes.back fun flags' same => ?_⟩
          · rw [List.length_cons]
            omega
          · cases same
            exact leading
      · cases read

/-- The grammar of a verb begins at the first spot of its forms. -/
theorem grammar_of_verb (kept : Kept draft spots forms []) {form : DeclaredForm}
    (member : form ∈ forms) {entry : DictionaryEntry}
    (there : entry ∈ draft.story.dictionary.entries) (verb : entry.word = form.verb) :
    ∃ root, draft.story.grammar? entry.code = some root ∧
      spots[root.table]? = some ⟨form.verb, []⟩ := by
  have grown := kept.settled
  have named := kept.entryAt_code there
  rw [verb] at named
  have begins : (⟨form.verb, []⟩ : Spot) ∈ spots := (grown.passed _).mpr
    ⟨_, List.mem_map_of_mem member, DeclaredForm.passes_iff.mpr ⟨rfl, List.nil_prefix⟩⟩
  obtain ⟨root, rooted, named'⟩ := grown.rooted begins
  have present : (draft.story.grammar? entry.code).isSome := by
    rw [Story.grammar?, List.find?_isSome]
    exact ⟨root, rooted, beq_iff_eq.mpr (entryAt_inj kept.words named' named)⟩
  obtain ⟨first, found⟩ := Option.isSome_iff_exists.mp present
  obtain ⟨verb', named'', spotted⟩ := grown.root first (List.mem_of_find?_eq_some found)
  have code : first.verb = entry.code := by simpa using List.find?_some found
  rw [code, named] at named''
  cases named''
  exact ⟨first, found, spotted⟩

end Draft.Kept

theorem Draft.Kept.matched_iff {draft : Draft} {spots : List Spot} {forms : List DeclaredForm}
    (kept : Draft.Kept draft spots forms []) {form first : DeclaredForm} (member : form ∈ forms)
    {entry : DictionaryEntry} (there : entry ∈ draft.story.dictionary.entries)
    (verb : entry.word = form.verb) {words : Words}
    (dictionary : words.dictionary = draft.story.dictionary) {cursor : Nat}
    (spells : words.Spells cursor form.pattern) (memory : Memory)
    (isFirst : forms.find? (fun other =>
      other.verb == form.verb && other.pattern == form.pattern) = some first) :
    (∃ found last, draft.story.matchForm words memory entry.code cursor = .ok (found, last) ∧
      found.form = first.number) ↔ Foremost forms first := by
  obtain ⟨root, grammar, spotted⟩ := kept.grammar_of_verb member there verb
  have alike : first.verb = form.verb ∧ first.pattern = form.pattern := by
    simpa using List.find?_some isFirst
  have declared := List.mem_of_find?_eq_some isFirst
  constructor
  · rintro ⟨found, last, matched, number⟩
    obtain ⟨root', reading, grammar', read, rfl⟩ := Story.matchForm_eq_ok.mp matched
    cases grammar.symm.trans grammar'
    obtain ⟨-, -, form', member', number', goes⟩ :=
      kept.goesOn_of_readForm dictionary spotted spells read
    rw [FormReading.form_remap, number'] at number
    -- forms have different numbers, so the form that was read is the first of the pattern
    cases List.inj_on_of_nodup_map kept.numbers.nodup member' declared number
    exact goes.foremost
  · intro foremost
    rw [← alike.1] at spotted
    rw [← alike.2] at spells
    obtain ⟨reading, read, number⟩ :=
      kept.readForm_of_foremost dictionary declared foremost rfl spotted spells
    refine ⟨_, _, Story.matchForm_eq_ok.mpr ⟨root, reading, grammar, read, rfl⟩, ?_⟩
    -- the entry that ends at its last spot is its own: forms with its steps have its pattern
    have ends : forms.find? (·.spot == first.spot) = some first := by
      refine find?_eq_of_imp isFirst (beq_self_eq_true first.spot) ?_
      intro other same
      obtain ⟨verbs, steps⟩ := Spot.mk.inj (beq_iff_eq.mp same)
      have pattern : other.pattern = form.pattern := by
        rw [← alike.2, DeclaredForm.pattern, show other.steps = first.steps from steps]
        rfl
      have verb : other.verb = form.verb := verbs.trans alike.1
      simp [verb, pattern]
    rw [ends] at number
    rw [FormReading.form_remap]
    exact Option.some.inj number

/-- **When a declared form is matched.**  After any declarations, a command that spells the pattern
of a declared form is matched with the first form that was declared for its verb with that pattern
if and only if this form is foremost.  However it is matched, it is so to the end and with one
position for each slot of the pattern. -/
theorem declared_form_matched_iff (declarations : List Declaration) (memory : Memory)
    {form : DeclaredForm} {entry : DictionaryEntry} {words : Words} {cursor : Nat} :
    let draft := (Draft.initial.declareAll declarations).2
    let forms := declaredForms declarations (Draft.initial.declareAll declarations).1
    form ∈ forms → entry ∈ draft.story.dictionary.entries → entry.word = form.verb →
    words.dictionary = draft.story.dictionary → words.Spells cursor form.pattern →
    ∃ first,
      forms.find? (fun other => other.verb == form.verb && other.pattern == form.pattern) =
        some first ∧
      ((∃ found last, draft.story.matchForm words memory entry.code cursor = .ok (found, last) ∧
          found.form = first.number) ↔ Foremost forms first) ∧
      ∀ found last, draft.story.matchForm words memory entry.code cursor = .ok (found, last) →
        found.positions.length = form.pattern.count none ∧
        last = cursor + form.pattern.length := by
  intro draft forms member there verb dictionary spells
  obtain ⟨spots, kept⟩ := Draft.Kept.initial.declareAll declarations
  have kept : Draft.Kept draft spots forms [] := kept
  have present : (forms.find? fun other =>
      other.verb == form.verb && other.pattern == form.pattern).isSome := by
    rw [List.find?_isSome]
    exact ⟨form, member, by simp⟩
  obtain ⟨first, isFirst⟩ := Option.isSome_iff_exists.mp present
  refine ⟨first, isFirst,
    kept.matched_iff member there verb dictionary spells memory isFirst, ?_⟩
  intro found last matched
  obtain ⟨root, grammar, spotted⟩ := kept.grammar_of_verb member there verb
  obtain ⟨root', reading, grammar', read, rfl⟩ := Story.matchForm_eq_ok.mp matched
  cases grammar.symm.trans grammar'
  obtain ⟨place, count, -⟩ := kept.goesOn_of_readForm dictionary spotted spells read
  rw [FormReading.length_remap]
  exact ⟨count, place⟩

section Box

/-- A ball and a box, with forms to put one thing into another and to put down several. -/
def Declaration.box : List Declaration :=
  [.noun "ball" [], .noun "box" [], .form "put" [.slot {}, .word "in", .slot {}],
    .form "put" [.slot { multiple := true }]]

/-- The story of the ball and the box. -/
def Story.box : Story := (Draft.initial.declareAll Declaration.box).2.story

/-- The forms of the ball and the box. -/
def DeclaredForm.box : List DeclaredForm :=
  declaredForms Declaration.box (Draft.initial.declareAll Declaration.box).1

/-- The words of a line about the ball and the box, by their places in the dictionary. -/
def Words.ofBox (entries : List (Nat × String)) : Words where
  words := entries.map fun entry => .known entry.1 entry.2
  dictionary := Story.box.dictionary

/-- Put the ball in the box. -/
theorem declared_form_matched_iff_box :
    let form : DeclaredForm := ⟨1, "put", [.slot {}, .word "in", .slot {}]⟩
    let entry : DictionaryEntry := { word := "put", code := 3, classes := .verb }
    let words := Words.ofBox [(2, "put"), (0, "ball"), (3, "in"), (1, "box")]
    form ∈ DeclaredForm.box ∧ entry ∈ Story.box.dictionary.entries ∧ entry.word = form.verb ∧
    words.dictionary = Story.box.dictionary ∧ words.Spells 1 form.pattern ∧
    ∃ found last, Story.box.matchForm words {} 3 1 = .ok (found, last) ∧ found.form = 1 ∧
      found.positions.length = 2 ∧ last = 4 := by
  intro form entry words
  have member : form ∈ DeclaredForm.box := by decide
  have there : entry ∈ Story.box.dictionary.entries := by decide
  have spells : words.Spells 1 form.pattern := by
    refine ⟨⟨by decide, by decide⟩, ⟨_, rfl, rfl, rfl⟩, ⟨by decide, by decide⟩, ?_⟩
    show words.isEndOfCommand 4 = true
    decide
  obtain ⟨first, isFirst, matched, all⟩ :=
    declared_form_matched_iff Declaration.box {} member there rfl rfl spells
  have same : first = form := by
    have : DeclaredForm.box.find? (fun other =>
        other.verb == form.verb && other.pattern == form.pattern) = some form := by decide
    exact Option.some.inj (isFirst.symm.trans this)
  subst same
  have foremost : Foremost DeclaredForm.box form := by
    intro index flags slot
    match index with
    | 0 => cases slot; decide
    | 1 => cases slot
    | 2 => cases slot; decide
    | index + 3 => cases slot
  obtain ⟨found, last, read, number⟩ := matched.mpr foremost
  obtain ⟨count, place⟩ := all found last read
  exact ⟨member, there, rfl, rfl, spells, found, last, read, number, count, place⟩

/-- **A declared form that no command is matched with.**  Putting down the ball is the second form,
and the only one with a single slot.  But the first form came before it with a slot that allows
less, and a command takes that one, behind which no form ends. -/
theorem put_ball_not_matched :
    let form : DeclaredForm := ⟨2, "put", [.slot { multiple := true }]⟩
    let words := Words.ofBox [(2, "put"), (0, "ball")]
    form ∈ DeclaredForm.box ∧
    DeclaredForm.box.find? (fun other =>
      other.verb == form.verb && other.pattern == form.pattern) = some form ∧
    words.dictionary = Story.box.dictionary ∧ words.Spells 1 form.pattern ∧
    Story.box.matchForm words {} 3 1 = .error ⟨.notUnderstood, 2⟩ := by
  intro form words
  refine ⟨by decide, by decide, rfl, ⟨⟨by decide, by decide⟩, ?_⟩, by decide +kernel⟩
  show words.isEndOfCommand 2 = true
  decide

end Box

end TextAdventure
