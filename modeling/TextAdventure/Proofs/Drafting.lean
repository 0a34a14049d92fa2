import TextAdventure.Proofs.FormTrees
/-!
# What declarations keep

Whatever is declared about a story, in whatever order, its dictionary has no word twice, its words,
classes and instances are numbered from 1, and its element tables are the trees of the forms that
have been declared (`Draft.Kept`).  Every declaration keeps this, a form also in the middle of being
added, when it has come to some spot and not yet to its end.

The proof follows the declarations: one lemma for each operation on a draft says that it keeps what
holds, and the one for a whole list of declarations is by induction on it (`Kept.declareAll`).
-/

namespace TextAdventure

open Relation (ReflTransGen)
open Outline

/-! ## Numbers -/

/-- Numbers that count up from 1. -/
def Numbered (codes : List Nat) : Prop := codes = List.range' 1 codes.length

namespace Numbered

variable {codes : List Nat}

theorem concat (numbered : Numbered codes) : Numbered (codes ++ [codes.length + 1]) := by
  unfold Numbered
  rw [List.length_append, List.length_singleton, List.range'_1_concat, ← numbered, Nat.add_comm 1]

theorem eq_succ (numbered : Numbered codes) {index code : Nat} (there : codes[index]? = some code) :
    code = index + 1 := by
  have inside := (List.getElem?_eq_some_iff.mp there).1
  rw [numbered, List.getElem?_range' inside] at there
  have same : 1 + 1 * index = code := Option.some.inj there
  omega

theorem nodup (numbered : Numbered codes) : codes.Nodup := by
  rw [numbered]
  exact List.nodup_range'

theorem le_length (numbered : Numbered codes) {code : Nat} (member : code ∈ codes) :
    code ≤ codes.length := by
  rw [numbered, List.mem_range'_1] at member
  omega

end Numbered

theorem map_updateAt_of_eq {α β : Type} {f : α → β} (change : α → α)
    (same : ∀ x, f (change x) = f x) (xs : List α) (number : Nat) :
    (updateAt xs number change).map f = xs.map f := by
  cases number with
  | zero => rfl
  | succ index => exact map_modify_of_eq change same xs index

/-! ## What is kept -/

/-- The spellings of the words of a story. -/
def Story.spellings (story : Story) : List String := story.dictionary.entries.map (·.word)

/-- A form that was declared, with the number that was given back for it. -/
structure DeclaredForm where
  number : Nat
  verb : String
  steps : List FormStep
deriving DecidableEq, Repr

namespace DeclaredForm

/-- Where the form ends. -/
def spot (form : DeclaredForm) : Spot := ⟨form.verb, form.steps⟩

def outline (form : DeclaredForm) : Outline := form.spot.outline.concat (.finish form.number)

end DeclaredForm

/-- The verb and the steps of the form that a declaration declares. -/
def Declaration.form? : Declaration → Option (String × List FormStep)
  | .form verb steps => some (verb, steps)
  | _ => none

/-- The form that a declaration declares, with what it gave back. -/
def declaredForm? : Declaration → Option Nat → Option DeclaredForm
  | .form verb steps, some number => some ⟨number, verb, steps⟩
  | _, _ => none

/-- The forms that declarations declare, with what they gave back. -/
def declaredForms (declarations : List Declaration) (answers : List (Option Nat)) :
    List DeclaredForm :=
  (declarations.zip answers).filterMap fun pair => declaredForm? pair.1 pair.2

@[simp] theorem declaredForms_nil (answers : List (Option Nat)) :
    declaredForms [] answers = [] := rfl

@[simp] theorem declaredForms_cons (declaration : Declaration) (declarations : List Declaration)
    (answer : Option Nat) (answers : List (Option Nat)) :
    declaredForms (declaration :: declarations) (answer :: answers) =
      (declaredForm? declaration answer).toList ++ declaredForms declarations answers := by
  cases h : declaredForm? declaration answer <;> simp [declaredForms, h]

namespace DeclaredForm

variable {form : DeclaredForm} {forms : List DeclaredForm} {here spot : Spot} {number : Nat}

/-- The beginning of a form has no end. -/
theorem markAt_ne_finish (here spot : Spot) (number : Nat) :
    here.outline.markAt spot ≠ some (.finish number) := by
  intro marked
  have last : Mark.finish number ∈ here.outline.marks :=
    (markAt_eq_some.mp marked).2.subset (List.mem_append_right _ (List.mem_singleton_self _))
  simp [Spot.outline] at last

theorem markAt_eq_finish :
    form.outline.markAt spot = some (.finish number) ↔ spot = form.spot ∧ form.number = number := by
  rw [outline, markAt_concat]
  split
  · next here => simp [here]
  · next elsewhere => simp [elsewhere, markAt_ne_finish]

/-- An end is the mark of a form that ends there. -/
theorem finish_mem_marksAt :
    .finish number ∈ marksAt (forms.map (·.outline)) spot ↔
      ∃ form ∈ forms, spot = form.spot ∧ form.number = number := by
  simp [mem_marksAt, markAt_eq_finish]

end DeclaredForm

namespace Draft

/-- What holds of a draft: `spots` are the spots of its tables, `forms` are the forms that have been
declared and `begun` is the beginning of one that is being added. -/
structure Kept (draft : Draft) (spots : List Spot) (forms : List DeclaredForm)
    (begun : List Outline) : Prop where
  words : draft.story.spellings.Nodup
  wordCodes : Numbered (draft.story.dictionary.entries.map (·.code))
  classCodes : Numbered (draft.story.classes.map (·.code))
  instanceCodes : Numbered (draft.story.instances.map (·.code))
  grown : Grown draft.story.spellings draft.story.grammars draft.story.tables spots
    (forms.map (·.outline) ++ begun)
  numbers : Numbered (forms.map (·.number))
  next : draft.nextForm = forms.length + 1
  maps : draft.story.parameterMaps.map (·.form) = forms.map (·.number)

namespace Kept

variable {draft : Draft} {spots : List Spot} {forms : List DeclaredForm} {begun : List Outline}

theorem initial : Kept Draft.initial [] [] [] where
  words := List.nodup_nil
  wordCodes := rfl
  classCodes := rfl
  instanceCodes := rfl
  grown := .none
  numbers := rfl
  next := rfl
  maps := rfl

/-- Between declarations the trees are those of the forms that have been declared. -/
theorem settled (kept : Kept draft spots forms []) :
    Grown draft.story.spellings draft.story.grammars draft.story.tables spots
      (forms.map (·.outline)) := by
  have grown := kept.grown
  rwa [List.append_nil] at grown

/-! ### Words -/

theorem spellings_modify (change : DictionaryEntry → DictionaryEntry)
    (spelling : ∀ e, (change e).word = e.word) (index : Nat) :
    (draft.withEntries (draft.story.dictionary.entries.modify index change)).story.spellings =
      draft.story.spellings :=
  map_modify_of_eq change spelling _ _

/-- Entries of the dictionary may change in all but their spelling and their code. -/
theorem modify (kept : Kept draft spots forms begun) (change : DictionaryEntry → DictionaryEntry)
    (spelling : ∀ e, (change e).word = e.word) (code : ∀ e, (change e).code = e.code)
    (index : Nat) :
    Kept (draft.withEntries (draft.story.dictionary.entries.modify index change)) spots forms
      begun := by
  have words : (draft.withEntries
      (draft.story.dictionary.entries.modify index change)).story.spellings =
        draft.story.spellings := spellings_modify change spelling index
  have codes : (draft.story.dictionary.entries.modify index change).map (·.code) =
      draft.story.dictionary.entries.map (·.code) := map_modify_of_eq change code _ _
  exact { kept with
    words := words.symm ▸ kept.words
    wordCodes := codes.symm ▸ kept.wordCodes
    grown := words.symm ▸ kept.grown }

theorem word (kept : Kept draft spots forms begun) (text : String) (classes : WordClasses) :
    Kept (draft.word text classes).2 spots forms begun ∧
      entryAt (draft.word text classes).2.story.spellings (draft.word text classes).1 =
        some text := by
  cases search : draft.story.dictionary.entries.find? (·.word == text) with
  | some entry =>
    simp only [Draft.word, search]
    -- a known word only gets more classes
    let extend := fun (e : DictionaryEntry) => { e with classes := e.classes ||| classes }
    have again := kept.modify extend (fun _ => rfl) (fun _ => rfl)
      (draft.story.dictionary.entries.findIdx (·.word == text))
    refine ⟨again, ?_⟩
    have spelling : entry.word = text := by simpa using List.find?_some search
    obtain ⟨index, there⟩ := List.getElem?_of_mem (List.mem_of_find?_eq_some search)
    have code : entry.code = index + 1 := kept.wordCodes.eq_succ (by simp [there])
    rw [code, entryAt_succ, spellings_modify extend fun _ => rfl]
    simp [Story.spellings, there, spelling]
  | none =>
    simp only [Draft.word, search]
    have fresh : text ∉ draft.story.spellings := by
      simpa [Story.spellings] using search
    let new : DictionaryEntry :=
      { word := text, code := draft.story.dictionary.entries.length + 1, classes }
    have words : (draft.withEntries (draft.story.dictionary.entries ++ [new])).story.spellings =
        draft.story.spellings ++ [text] := List.map_append
    rw [words]
    refine ⟨{ kept with words := ?_, wordCodes := ?_, grown := ?_ }, ?_⟩
    · rw [words]
      simpa using kept.words.concat fresh
    · have counted := kept.wordCodes.concat
      rw [List.length_map] at counted
      simpa [withEntries] using counted
    · rw [words]
      exact kept.grown.learn [text]
    · rw [entryAt_succ]
      simp [Story.spellings]

theorem refer (kept : Kept draft spots forms begun) (text : String) (classes : WordClasses)
    {change : DictionaryEntry → DictionaryEntry} (spelling : ∀ e, (change e).word = e.word)
    (code : ∀ e, (change e).code = e.code) :
    Kept (draft.refer text classes change).2 spots forms begun :=
  (kept.word text classes).1.modify change spelling code _

theorem addFunctionWords (kept : Kept draft spots forms begun) :
    Kept draft.addFunctionWords spots forms begun := by
  unfold Draft.addFunctionWords
  induction functionWords generalizing draft with
  | nil => exact kept
  | cons entry rest ih => exact ih (kept.word entry.1 entry.2).1

/-! ### Classes and instances -/

theorem newClass (kept : Kept draft spots forms begun) (name : String) (parent : ClassId) :
    Kept (draft.newClass name parent).2 spots forms begun := by
  have counted := kept.classCodes.concat
  rw [List.length_map] at counted
  exact { kept with classCodes := by simpa [Draft.newClass] using counted }

theorem newInstance (kept : Kept draft spots forms begun) (name : String) (parent : ClassId)
    (location : InstanceId) :
    Kept (draft.newInstance name parent location).2 spots forms begun := by
  have counted := kept.instanceCodes.concat
  rw [List.length_map] at counted
  exact { kept with instanceCodes := by simpa [Draft.newInstance] using counted }

theorem changeInstance (kept : Kept draft spots forms begun) (id : InstanceId)
    {change : StoryInstance → StoryInstance} (code : ∀ i, (change i).code = i.code) :
    Kept (draft.changeInstance id change) spots forms begun := by
  have codes : (updateAt draft.story.instances id change).map (·.code) =
      draft.story.instances.map (·.code) := map_updateAt_of_eq change code _ _
  exact { kept with instanceCodes := codes.symm ▸ kept.instanceCodes }

theorem changeClass (kept : Kept draft spots forms begun) (id : ClassId)
    {change : StoryClass → StoryClass} (code : ∀ c, (change c).code = c.code) :
    Kept (draft.changeClass id change) spots forms begun := by
  have codes : (updateAt draft.story.classes id change).map (·.code) =
      draft.story.classes.map (·.code) := map_updateAt_of_eq change code _ _
  exact { kept with classCodes := codes.symm ▸ kept.classCodes }

/-! ### Forms -/

variable {here : Spot} {table : Nat} {step : FormStep} {leads : Element → Option Nat}
  {edge : Nat → Element} {words : List String}

/-- `leads` gives the ends of edges along a step, and `edge` makes such an edge to a table. -/
structure Along (words : List String) (step : FormStep) (leads : Element → Option Nat)
    (edge : Nat → Element) : Prop where
  leads : ∀ {element mark}, element.mark? words = some mark →
    leads element = if mark = .step step then element.next? else none
  stands : ∀ next, (edge next).mark? words = some (.step step)
  next : ∀ next, (edge next).next? = some next

theorem along_word (distinct : words.Nodup) {code : WordCode} {text : String}
    (found : entryAt words code = some text) :
    Along words (.word text) (wordEdge code) (.word code) := by
  refine ⟨?_, fun next => by simp [Element.mark?, found], fun _ => rfl⟩
  intro element mark stands
  cases element with
  | word code' next =>
    simp only [Element.mark?, Option.map_eq_some_iff] at stands
    obtain ⟨text', found', rfl⟩ := stands
    by_cases same : code' = code
    · subst same
      cases found.symm.trans found'
      simp [wordEdge, Element.next?]
    · have other : text' ≠ text := by
        rintro rfl
        exact same (entryAt_inj distinct found' found)
      simp [wordEdge, same, other]
  | parameter flags next =>
    cases stands
    rfl
  | finish form restrictions =>
    cases stands
    rfl

theorem along_slot (words : List String) (flags : SlotFlags) :
    Along words (.slot flags) (slotEdge flags) (.parameter flags) := by
  refine ⟨?_, fun _ => rfl, fun _ => rfl⟩
  intro element mark stands
  cases element with
  | word code next =>
    simp only [Element.mark?, Option.map_eq_some_iff] at stands
    obtain ⟨text, -, rfl⟩ := stands
    rfl
  | parameter flags' next =>
    cases stands
    simp [slotEdge, Element.next?]
  | finish form restrictions =>
    cases stands
    rfl

theorem follow (kept : Kept draft spots forms [here.outline]) (spotted : spots[table]? = some here)
    (along : Along draft.story.spellings step leads edge) :
    ∃ spots', Kept (draft.follow table leads edge).2 spots' forms [(here.along step).outline] ∧
      spots'[(draft.follow table leads edge).1]? = some (here.along step) := by
  obtain ⟨entries, there⟩ : ∃ entries, draft.story.tables[table]? = some entries :=
    ⟨_, List.getElem?_eq_getElem (kept.grown.inside spotted)⟩
  have read : draft.story.elements table = entries := by simp [Story.elements, there]
  cases search : entries.findSome? leads with
  | some next =>
    simp only [Draft.follow, read, search]
    obtain ⟨element, member, found⟩ := List.exists_of_findSome?_eq_some search
    obtain ⟨mark, -, stands⟩ := kept.grown.marks.mark_of_mem spotted there member
    rw [along.leads stands] at found
    split at found
    · next same =>
      subst same
      exact ⟨spots, { kept with grown := kept.grown.follow spotted there member stands },
        (kept.grown.links spotted there member stands found).2⟩
    · cases found
  | none =>
    simp only [Draft.follow, read, search]
    -- an entry for the step would lead on, and the search would have found it
    have absent : ∀ element ∈ entries,
        element.mark? draft.story.spellings ≠ some (.step step) := by
      intro element member stands
      have unled := List.findSome?_eq_none_iff.mp search element member
      rw [along.leads stands, if_pos rfl] at unled
      obtain ⟨next, onward⟩ := Element.exists_next? stands
      cases unled.symm.trans onward
    have branched := kept.grown.branch spotted there absent (along.stands _) (along.next _)
    exact ⟨_, { kept with grown := branched }, kept.grown.spot_of_new _⟩

theorem followSteps (steps : List FormStep) (kept : Kept draft spots forms [here.outline])
    (spotted : spots[table]? = some here) :
    ∃ spots', Kept (draft.followSteps table steps).2 spots' forms
        [Spot.outline ⟨here.verb, here.path ++ steps⟩] ∧
      spots'[(draft.followSteps table steps).1]? = some ⟨here.verb, here.path ++ steps⟩ := by
  induction steps generalizing draft spots here table with
  | nil =>
    rw [List.append_nil]
    exact ⟨spots, kept, spotted⟩
  | cons step steps ih =>
    rw [List.append_cons]
    cases step with
    | word text =>
      obtain ⟨kept, found⟩ := kept.word text .preposition
      obtain ⟨spots, kept, spotted⟩ := kept.follow spotted (along_word kept.words found)
      exact ih kept spotted
    | slot flags =>
      obtain ⟨spots, kept, spotted⟩ := kept.follow spotted (along_slot _ flags)
      exact ih kept spotted

theorem rootTable (kept : Kept draft spots forms []) {code : WordCode} {verb : String}
    (found : entryAt draft.story.spellings code = some verb) :
    ∃ spots', Kept (draft.rootTable code).2 spots' forms [Spot.outline ⟨verb, []⟩] ∧
      spots'[(draft.rootTable code).1]? = some ⟨verb, []⟩ := by
  have grown := kept.settled
  cases search : draft.story.grammar? code with
  | some root =>
    simp only [Draft.rootTable, search]
    have code_eq : root.verb = code := by simpa using List.find?_some search
    obtain ⟨verb', found', spotted⟩ := grown.root root (List.mem_of_find?_eq_some search)
    rw [code_eq] at found'
    cases found.symm.trans found'
    exact ⟨spots, { kept with grown := grown.begin (List.mem_of_getElem? spotted) }, spotted⟩
  | none =>
    simp only [Draft.rootTable, search]
    have unknown : ∀ root ∈ draft.story.grammars, root.verb ≠ code := by
      simpa [Story.grammar?] using search
    have fresh : ⟨verb, []⟩ ∉ spots := by
      intro member
      obtain ⟨root, there, found'⟩ := grown.rooted member
      exact unknown root there (entryAt_inj kept.words found' found)
    have planted := grown.plant found fresh fun member => by
      obtain ⟨root, there, same⟩ := List.mem_map.mp member
      exact unknown root there same
    exact ⟨_, { kept with grown := planted }, grown.spot_of_new _⟩

/-- A form that has come to its last spot gets its end there, and a parameter map. -/
theorem finish {verb : String} {steps : List FormStep} (map : ParameterMap)
    (kept : Kept draft spots forms [Spot.outline ⟨verb, steps⟩])
    (spotted : spots[table]? = some ⟨verb, steps⟩) (own : map.form = draft.nextForm) :
    Kept { draft.addElement table (.finish draft.nextForm []) with
        nextForm := draft.nextForm + 1
        story := { (draft.addElement table (.finish draft.nextForm [])).story with
          parameterMaps := draft.story.parameterMaps ++ [map] } }
      spots (forms ++ [⟨draft.nextForm, verb, steps⟩]) [] := by
  -- the numbers of the earlier forms are smaller
  have unmarked : .finish draft.nextForm ∉
      marksAt (forms.map (·.outline) ++ [Spot.outline ⟨verb, steps⟩]) ⟨verb, steps⟩ := by
    intro marked
    obtain ⟨outline, member, marked⟩ := mem_marksAt.mp marked
    rcases List.mem_append.mp member with member | member
    case inr =>
      cases List.mem_singleton.mp member
      exact DeclaredForm.markAt_ne_finish _ _ _ marked
    obtain ⟨form, declared, rfl⟩ := List.mem_map.mp member
    obtain ⟨-, number⟩ := DeclaredForm.markAt_eq_finish.mp marked
    have small := kept.numbers.le_length (List.mem_map_of_mem declared)
    rw [List.length_map, number, kept.next] at small
    omega
  refine { kept with grown := ?_, numbers := ?_, next := ?_, maps := ?_ }
  · -- the beginning and its end are the outline of the new form
    rw [List.map_append, List.append_nil]
    exact kept.grown.finish spotted unmarked
  · have counted := kept.numbers.concat
    rw [List.length_map, ← kept.next] at counted
    simpa using counted
  · rw [List.length_append, kept.next]
    rfl
  · simp [kept.maps, own]

theorem form (kept : Kept draft spots forms []) (verb : String) (steps : List FormStep) :
    ∃ spots', Kept (draft.form verb steps).2 spots'
      (forms ++ [⟨(draft.form verb steps).1, verb, steps⟩]) [] := by
  obtain ⟨kept, found⟩ := kept.word verb .verb
  obtain ⟨spots, kept, spotted⟩ := kept.rootTable found
  obtain ⟨spots, kept, spotted⟩ := kept.followSteps steps spotted
  exact ⟨spots, kept.finish _ spotted rfl⟩

theorem parameterMap (kept : Kept draft spots forms []) (form : Nat) (verb : String)
    (sources : List Nat) : Kept (draft.parameterMap form verb sources) spots forms [] := by
  obtain ⟨kept, -⟩ := kept.word verb .verb
  have maps : (draft.parameterMap form verb sources).story.parameterMaps.map (·.form) =
      (draft.word verb .verb).2.story.parameterMaps.map (·.form) :=
    map_modify_of_eq
      (fun m : ParameterMap => { m with verb := (draft.word verb .verb).1, sources := sources })
      (fun _ => rfl) _ _
  exact { kept with maps := maps.trans kept.maps }

theorem restrict (kept : Kept draft spots forms []) (form : Nat) (restriction : Restriction) :
    Kept (draft.restrict form restriction) spots forms [] := by
  refine { kept with grown := kept.grown.change _ ?_ ?_ }
  · intro element
    cases element <;> rfl
  · intro element
    cases element <;> rfl

/-! ### Declarations -/

theorem declare (kept : Kept draft spots forms []) (declaration : Declaration) :
    ∃ spots', Kept (draft.declare declaration).2 spots'
      (forms ++ (declaredForm? declaration (draft.declare declaration).1).toList) [] := by
  have still : declaredForm? declaration (draft.declare declaration).1 = none →
      Kept (draft.declare declaration).2 spots forms [] → ∃ spots',
        Kept (draft.declare declaration).2 spots'
          (forms ++ (declaredForm? declaration (draft.declare declaration).1).toList) [] := by
    intro none kept
    rw [none, Option.toList_none, List.append_nil]
    exact ⟨spots, kept⟩
  cases declaration with
  | newClass name parent => exact still rfl (kept.newClass name parent)
  | newInstance name parent location => exact still rfl (kept.newInstance name parent location)
  | newLocation name => exact still rfl (kept.newInstance name _ _)
  | newObject name location => exact still rfl (kept.newInstance name _ location)
  | newHero location => exact still rfl { kept.newInstance "hero" _ location with }
  | container id => exact still rfl (kept.changeInstance id fun _ => rfl)
  | «hiding» id => exact still rfl (kept.changeInstance id fun _ => rfl)
  | setAttribute id attr value => exact still rfl (kept.changeInstance id fun _ => rfl)
  | word text classes => exact still rfl (kept.word text classes).1
  | noun text references => exact still rfl (kept.refer text _ (fun _ => rfl) fun _ => rfl)
  | adjective text references => exact still rfl (kept.refer text _ (fun _ => rfl) fun _ => rfl)
  | pronoun text references => exact still rfl (kept.refer text _ (fun _ => rfl) fun _ => rfl)
  | functionWords =>
    apply still rfl
    simp only [Draft.declare]
    exact kept.addFunctionWords
  | form verb steps =>
    simp only [Draft.declare, Prod.map, declaredForm?, Option.toList_some, id]
    exact kept.form verb steps
  | parameterMap form verb sources => exact still rfl (kept.parameterMap form verb sources)
  | restriction form restriction => exact still rfl (kept.restrict form restriction)
  | globalVerb verb body => exact still rfl { (kept.word verb .verb).1 with }
  | classVerb id verb body =>
    exact still rfl ((kept.word verb .verb).1.changeClass id fun _ => rfl)
  | instanceVerb id verb body =>
    exact still rfl ((kept.word verb .verb).1.changeInstance id fun _ => rfl)
  | exit source direction target checks action =>
    exact still rfl ((kept.word direction .direction).1.changeInstance source fun _ => rfl)

theorem declareAll (declarations : List Declaration) (kept : Kept draft spots forms []) :
    ∃ spots', Kept (draft.declareAll declarations).2 spots'
      (forms ++ declaredForms declarations (draft.declareAll declarations).1) [] := by
  induction declarations generalizing draft spots forms with
  | nil =>
    refine ⟨spots, ?_⟩
    simp only [Draft.declareAll, declaredForms_nil, List.append_nil]
    exact kept
  | cons declaration rest ih =>
    obtain ⟨spots, kept⟩ := kept.declare declaration
    obtain ⟨spots, kept⟩ := ih kept
    refine ⟨spots, ?_⟩
    rw [List.append_assoc] at kept
    simp only [Draft.declareAll, declaredForms_cons]
    exact kept

end Kept

end Draft

end TextAdventure
