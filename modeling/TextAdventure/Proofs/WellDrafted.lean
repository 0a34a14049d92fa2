import TextAdventure.FormMatch
import TextAdventure.Proofs.Drafting
/-!
# Drafted stories are well formed

Two things follow of every story that is put together by declarations.  It is well drafted
(`Story.WellDrafted`): its words, classes and instances are numbered from 1, its element tables form
a forest with one root for each verb, and every form has one end, in the tree of its verb, and one
parameter map.  And no declaration ever looks for an element table that does not exist: carried out
with that check (`Draft.declareAllChecked`) the declarations come to the same end.
-/

namespace TextAdventure

open Relation (ReflTransGen)
open Outline

namespace Story

/-- The entry at a place: the number of a table, and a place in the table. -/
def element? (story : Story) (place : Nat × Nat) : Option Element :=
  (story.tables[place.1]?).bind (·[place.2]?)

/-- The table that the edge at a place leads to. -/
def edge? (story : Story) (place : Nat × Nat) : Option Nat :=
  (story.element? place).bind Element.next?

/-- The number of the form that ends at a place. -/
def formAt? (story : Story) (place : Nat × Nat) : Option Nat :=
  ((story.element? place).bind Element.finish?).map (·.1)

/-- A story in which everything has one number and one place.  The forms are those that were
declared for it. -/
structure WellDrafted (story : Story) (forms : List DeclaredForm) : Prop where
  words : (story.dictionary.entries.map (·.word)).Nodup
  wordCodes : ∀ index entry, story.dictionary.entries[index]? = some entry → entry.code = index + 1
  classCodes : ∀ index entry, story.classes[index]? = some entry → entry.code = index + 1
  instanceCodes : ∀ index entry, story.instances[index]? = some entry → entry.code = index + 1
  verbs : (story.grammars.map (·.verb)).Nodup
  roots : (story.grammars.map (·.table)).Nodup
  /-- A root is a table of the story, and no edge leads to it. -/
  root : ∀ root ∈ story.grammars,
    root.table < story.tables.length ∧ ∀ place, story.edge? place ≠ some root.table
  /-- Edges lead to later tables of the story. -/
  edges : ∀ place next, story.edge? place = some next →
    place.1 < next ∧ next < story.tables.length
  /-- One edge leads to a table that is no root. -/
  edge : ∀ table < story.tables.length, table ∉ story.grammars.map (·.table) →
    ∃! place, story.edge? place = some table
  /-- Every table is in the tree of one root. -/
  forest : ∀ table < story.tables.length,
    ∃! root, root ∈ story.grammars ∧ ReflTransGen story.LeadsOn root.table table
  /-- The forms are numbered in the order in which they were declared. -/
  numbers : forms.map (·.number) = List.range' 1 forms.length
  /-- A form ends at one place, in the tree of its verb. -/
  ends : ∀ form ∈ forms, ∃! place, story.formAt? place = some form.number
  tree : ∀ form ∈ forms, ∀ place, story.formAt? place = some form.number →
    ∃ root ∈ story.grammars, ∃ entry ∈ story.dictionary.entries,
      entry.word = form.verb ∧ entry.code = root.verb ∧
        ReflTransGen story.LeadsOn root.table place.1
  /-- A form has one parameter map. -/
  map : ∀ form ∈ forms, ∃! index : Nat,
    (story.parameterMaps[index]?).map (·.form) = some form.number

variable {story : Story}

theorem element?_eq_some {place : Nat × Nat} {element : Element} :
    story.element? place = some element ↔
      ∃ entries, story.tables[place.1]? = some entries ∧ entries[place.2]? = some element :=
  Option.bind_eq_some_iff

theorem edge?_eq_some {place : Nat × Nat} {next : Nat} :
    story.edge? place = some next ↔
      ∃ element, story.element? place = some element ∧ element.next? = some next :=
  Option.bind_eq_some_iff

theorem formAt?_eq_some {place : Nat × Nat} {form : Nat} :
    story.formAt? place = some form ↔
      ∃ restrictions, story.element? place = some (.finish form restrictions) := by
  unfold formAt?
  cases story.element? place with
  | none => simp
  | some element => cases element <;> simp [Element.finish?]

theorem leadsOn_iff {table next : Nat} :
    story.LeadsOn table next ↔ ∃ index, story.edge? (table, index) = some next := by
  simp only [edge?_eq_some, element?_eq_some]
  constructor
  · rintro ⟨element, member, leads⟩
    cases there : story.tables[table]? with
    | none =>
      rw [elements, there] at member
      cases member
    | some entries =>
      rw [elements, there] at member
      obtain ⟨index, found⟩ := List.getElem?_of_mem member
      exact ⟨index, element, ⟨entries, rfl, found⟩, leads⟩
  · rintro ⟨index, element, ⟨entries, there, found⟩, leads⟩
    refine ⟨element, ?_, leads⟩
    rw [elements, there]
    exact List.mem_of_getElem? found

end Story

theorem Element.exists_restrictions {words : List String} {element : Element} {form : Nat}
    (stands : element.mark? words = some (.finish form)) :
    ∃ restrictions, element = .finish form restrictions := by
  cases element with
  | word code next =>
    obtain ⟨text, -, impossible⟩ := Option.map_eq_some_iff.mp stands
    cases impossible
  | parameter flags next => cases stands
  | finish form' restrictions =>
    cases stands
    exact ⟨restrictions, rfl⟩

/-! ## Places and spots -/

namespace Grown

variable {story : Story} {words : List String} {spots : List Spot} {outlines : List Outline}
  {spot : Spot} {mark : Mark} {element element' : Element} {place place' : Nat × Nat}
  {table next : Nat}

/-- The table of an entry has a spot, where the entry is the mark of a form. -/
theorem exists_mark (grown : Grown words story.grammars story.tables spots outlines)
    (there : story.element? place = some element) :
    ∃ spot mark, spots[place.1]? = some spot ∧ mark ∈ marksAt outlines spot ∧
      element.mark? words = some mark := by
  obtain ⟨entries, there, found⟩ := Story.element?_eq_some.mp there
  obtain ⟨spot, spotted⟩ := grown.exists_spot (List.getElem?_eq_some_iff.mp there).1
  obtain ⟨mark, known, stands⟩ :=
    grown.marks.mark_of_mem spotted there (List.mem_of_getElem? found)
  exact ⟨spot, mark, spotted, known, stands⟩

/-- A mark of the forms at the spot of a table has an entry there. -/
theorem exists_entry (grown : Grown words story.grammars story.tables spots outlines)
    (spotted : spots[table]? = some spot) (known : mark ∈ marksAt outlines spot) :
    ∃ index element, story.element? (table, index) = some element ∧
      element.mark? words = some mark := by
  have there := List.getElem?_eq_getElem (grown.inside spotted)
  obtain ⟨element, member, stands⟩ := grown.marks.mem_of_mark spotted there known
  obtain ⟨index, found⟩ := List.getElem?_of_mem member
  exact ⟨index, element, Story.element?_eq_some.mpr ⟨_, there, found⟩, stands⟩

/-- The place of an entry is known from the spot of its table and its mark. -/
theorem place_inj (grown : Grown words story.grammars story.tables spots outlines)
    (spotted : spots[place.1]? = some spot) (spotted' : spots[place'.1]? = some spot)
    (there : story.element? place = some element) (there' : story.element? place' = some element')
    (stands : element.mark? words = some mark) (stands' : element'.mark? words = some mark) :
    place = place' := by
  obtain ⟨table, index⟩ := place
  obtain ⟨table', index'⟩ := place'
  cases grown.table_inj spotted spotted'
  obtain ⟨entries, there, found⟩ := Story.element?_eq_some.mp there
  obtain ⟨entries', there', found'⟩ := Story.element?_eq_some.mp there'
  cases there.symm.trans there'
  -- the entries of the one table stand for marks that are all different
  have marks := grown.marks spotted there
  have distinct : (entries.map (Element.mark? words)).Nodup :=
    marks ▸ (nodup_marksAt outlines spot).map fun _ _ => Option.some.inj
  have same : (entries.map (Element.mark? words))[index]? =
      (entries.map (Element.mark? words))[index']? := by
    simp only at found found'
    simp [found, found', stands, stands']
  have inside : index < (entries.map (Element.mark? words)).length := by
    rw [List.length_map]
    exact (List.getElem?_eq_some_iff.mp found).1
  rw [(List.getElem?_inj inside distinct).mp same]

/-- An edge goes along a step from the spot of its table to that of the one that it leads to. -/
theorem exists_step (grown : Grown words story.grammars story.tables spots outlines)
    (leads : story.edge? place = some next) :
    ∃ spot step element, spots[place.1]? = some spot ∧ story.element? place = some element ∧
      element.mark? words = some (.step step) ∧ place.1 < next ∧
        spots[next]? = some (spot.along step) := by
  obtain ⟨element, there, leads⟩ := Story.edge?_eq_some.mp leads
  obtain ⟨spot, mark, spotted, -, stands⟩ := grown.exists_mark there
  obtain ⟨step, rfl⟩ := Element.exists_step stands leads
  obtain ⟨entries, table, found⟩ := Story.element?_eq_some.mp there
  obtain ⟨later, onward⟩ :=
    grown.links spotted table (List.mem_of_getElem? found) stands leads
  exact ⟨spot, step, element, spotted, there, stands, later, onward⟩

/-- An edge leads to every spot behind a step. -/
theorem exists_edge (grown : Grown words story.grammars story.tables spots outlines)
    {step : FormStep} (spotted : spots[table]? = some (spot.along step)) :
    ∃ place element, story.edge? place = some table ∧ story.element? place = some element ∧
      spots[place.1]? = some spot ∧ element.mark? words = some (.step step) := by
  obtain ⟨outline, member, passes⟩ := (grown.passed _).mp (List.mem_of_getElem? spotted)
  have above : spot ∈ spots := (grown.passed spot).mpr ⟨outline, member, passes_of_along passes⟩
  obtain ⟨holder, at_holder⟩ := List.getElem?_of_mem above
  have known : .step step ∈ marksAt outlines spot :=
    mem_marksAt.mpr ⟨outline, member, markAt_eq_step.mpr passes⟩
  obtain ⟨index, element, there, stands⟩ := grown.exists_entry at_holder known
  obtain ⟨next, leads⟩ := Element.exists_next? stands
  have edge : story.edge? (holder, index) = some next :=
    Story.edge?_eq_some.mpr ⟨element, there, leads⟩
  obtain ⟨entries, holds, found⟩ := Story.element?_eq_some.mp there
  have onward := (grown.links at_holder holds (List.mem_of_getElem? found) stands leads).2
  cases grown.table_inj onward spotted
  exact ⟨(holder, index), element, edge, there, at_holder, stands⟩

/-! ## The forest -/

/-- Edges lead to later tables of the story. -/
theorem bounds_of_edge (grown : Grown words story.grammars story.tables spots outlines)
    (leads : story.edge? place = some next) : place.1 < next ∧ next < story.tables.length := by
  obtain ⟨spot, step, -, -, -, -, later, onward⟩ := grown.exists_step leads
  exact ⟨later, grown.inside onward⟩

/-- No edge leads to a root: its spot is behind no step. -/
theorem edge_ne_root (grown : Grown words story.grammars story.tables spots outlines)
    {root : GrammarRoot} (member : root ∈ story.grammars) (place : Nat × Nat) :
    story.edge? place ≠ some root.table := by
  intro leads
  obtain ⟨verb, -, at_root⟩ := grown.root root member
  obtain ⟨spot, step, -, -, -, -, -, onward⟩ := grown.exists_step leads
  have path := congrArg Spot.path (Option.some.inj (at_root.symm.trans onward))
  exact absurd path.symm (List.append_ne_nil_of_right_ne_nil _ (List.cons_ne_nil _ _))

theorem existsUnique_edge (grown : Grown words story.grammars story.tables spots outlines)
    {step : FormStep} (spotted : spots[table]? = some (spot.along step)) :
    ∃! place, story.edge? place = some table := by
  obtain ⟨place, element, leads, there, at_place, stands⟩ := grown.exists_edge spotted
  refine ⟨place, leads, ?_⟩
  intro place' leads'
  obtain ⟨spot', step', element', at_place', there', stands', -, onward⟩ := grown.exists_step leads'
  obtain ⟨rfl, rfl⟩ := Spot.along_inj.mp (Option.some.inj (onward.symm.trans spotted))
  exact grown.place_inj at_place' at_place there' there stands' stands

/-- A table that a root leads to is at a spot of the verb of the root. -/
theorem exists_path (grown : Grown words story.grammars story.tables spots outlines)
    {root : Nat} {verb : String} (spotted : spots[root]? = some ⟨verb, []⟩)
    (reached : ReflTransGen story.LeadsOn root table) :
    ∃ path, spots[table]? = some ⟨verb, path⟩ := by
  induction reached with
  | refl => exact ⟨[], spotted⟩
  | tail _ leads ih =>
    obtain ⟨path, at_holder⟩ := ih
    obtain ⟨index, leads⟩ := Story.leadsOn_iff.mp leads
    obtain ⟨spot, step, -, at_holder', -, -, -, onward⟩ := grown.exists_step leads
    cases at_holder.symm.trans at_holder'
    exact ⟨_, onward⟩

/-- The root of a verb leads to the tables at all spots of the verb. -/
theorem exists_root (grown : Grown words story.grammars story.tables spots outlines)
    {verb : String} {path : List FormStep} (spotted : spots[table]? = some ⟨verb, path⟩) :
    ∃ root ∈ story.grammars, entryAt words root.verb = some verb ∧
      spots[root.table]? = some ⟨verb, []⟩ ∧ ReflTransGen story.LeadsOn root.table table := by
  -- from the last step back: the edge to the spot comes from the spot before that step
  induction path using List.reverseRecOn generalizing table with
  | nil =>
    obtain ⟨root, member, named⟩ := grown.rooted (List.mem_of_getElem? spotted)
    obtain ⟨verb', named', at_root⟩ := grown.root root member
    cases named.symm.trans named'
    cases grown.table_inj at_root spotted
    exact ⟨root, member, named, at_root, .refl⟩
  | append_singleton path step ih =>
    have behind : spots[table]? = some (Spot.along ⟨verb, path⟩ step) := spotted
    obtain ⟨place, -, leads, -, at_place, -⟩ := grown.exists_edge behind
    obtain ⟨root, member, named, at_root, reached⟩ := ih at_place
    exact ⟨root, member, named, at_root,
      reached.tail (Story.leadsOn_iff.mpr ⟨place.2, leads⟩)⟩

/-- A table that is no root is behind a step. -/
theorem exists_along (grown : Grown words story.grammars story.tables spots outlines)
    (inside : table < story.tables.length)
    (rootless : table ∉ story.grammars.map (·.table)) :
    ∃ spot step, spots[table]? = some (Spot.along spot step) := by
  obtain ⟨⟨verb, path⟩, spotted⟩ := grown.exists_spot inside
  rcases List.eq_nil_or_concat path with rfl | ⟨path, step, rfl⟩
  · obtain ⟨root, member, -, at_root, -⟩ := grown.exists_root spotted
    cases grown.table_inj at_root spotted
    exact absurd (List.mem_map_of_mem member) rootless
  · refine ⟨⟨verb, path⟩, step, ?_⟩
    rw [spotted, List.concat_eq_append]
    rfl

theorem existsUnique_root (grown : Grown words story.grammars story.tables spots outlines)
    (distinct : words.Nodup) (inside : table < story.tables.length) :
    ∃! root, root ∈ story.grammars ∧ ReflTransGen story.LeadsOn root.table table := by
  obtain ⟨⟨verb, path⟩, spotted⟩ := grown.exists_spot inside
  obtain ⟨root, member, named, at_root, reached⟩ := grown.exists_root spotted
  refine ⟨root, ⟨member, reached⟩, ?_⟩
  rintro root' ⟨member', reached'⟩
  obtain ⟨verb', named', at_root'⟩ := grown.root root' member'
  obtain ⟨path', spotted'⟩ := grown.exists_path at_root' reached'
  cases spotted.symm.trans spotted'
  -- both are roots of the verb of the spot, and a word has one code
  have verbs : root'.verb = root.verb := entryAt_inj distinct named' named
  have tables : root'.table = root.table := grown.table_inj at_root' at_root
  cases root
  cases root'
  simp_all

/-- Different verbs have different roots. -/
theorem nodup_roots (grown : Grown words story.grammars story.tables spots outlines)
    (distinct : words.Nodup) : (story.grammars.map (·.table)).Nodup := by
  apply List.Nodup.map_on _ grown.verbs.of_map
  intro root member root' member' tables
  obtain ⟨verb, named, at_root⟩ := grown.root root member
  obtain ⟨verb', named', at_root'⟩ := grown.root root' member'
  rw [tables, at_root'] at at_root
  cases at_root
  exact List.inj_on_of_nodup_map grown.verbs member member' (entryAt_inj distinct named named')

end Grown

namespace Draft

variable {draft : Draft} {spots : List Spot} {forms : List DeclaredForm}

/-- The end of a form is at its last spot. -/
theorem Kept.exists_end (kept : Kept draft spots forms []) {form : DeclaredForm}
    (member : form ∈ forms) :
    ∃ place, draft.story.formAt? place = some form.number ∧ spots[place.1]? = some form.spot := by
  have marked : form.outline.markAt form.spot = some (.finish form.number) :=
    DeclaredForm.markAt_eq_finish.mpr ⟨rfl, rfl⟩
  have declared : form.outline ∈ forms.map (·.outline) := List.mem_map_of_mem member
  obtain ⟨table, spotted⟩ := List.getElem?_of_mem
    ((kept.settled.passed form.spot).mpr ⟨_, declared, passes_of_markAt marked⟩)
  obtain ⟨index, element, there, stands⟩ :=
    kept.settled.exists_entry spotted (mem_marksAt.mpr ⟨_, declared, marked⟩)
  obtain ⟨restrictions, rfl⟩ := Element.exists_restrictions stands
  exact ⟨(table, index), Story.formAt?_eq_some.mpr ⟨restrictions, there⟩, spotted⟩

/-- Where the number of a form ends, the last spot of the form is. -/
theorem Kept.spot_of_end (kept : Kept draft spots forms []) {form : DeclaredForm}
    (member : form ∈ forms) {place : Nat × Nat}
    (ends : draft.story.formAt? place = some form.number) :
    spots[place.1]? = some form.spot := by
  obtain ⟨restrictions, there⟩ := Story.formAt?_eq_some.mp ends
  obtain ⟨spot, mark, spotted, known, stands⟩ := kept.settled.exists_mark there
  cases stands
  obtain ⟨form', member', rfl, number⟩ := DeclaredForm.finish_mem_marksAt.mp known
  rw [spotted, List.inj_on_of_nodup_map kept.numbers.nodup member' member number]

theorem Kept.existsUnique_end (kept : Kept draft spots forms []) {form : DeclaredForm}
    (member : form ∈ forms) : ∃! place, draft.story.formAt? place = some form.number := by
  obtain ⟨place, ends, spotted⟩ := kept.exists_end member
  refine ⟨place, ends, ?_⟩
  intro place' ends'
  obtain ⟨restrictions, there⟩ := Story.formAt?_eq_some.mp ends
  obtain ⟨restrictions', there'⟩ := Story.formAt?_eq_some.mp ends'
  exact kept.settled.place_inj (kept.spot_of_end member ends') spotted there' there rfl rfl

/-- The code of a word of the story is that of its entry. -/
theorem Kept.exists_word_of_code (kept : Kept draft spots forms []) {code : WordCode}
    {text : String} (found : entryAt draft.story.spellings code = some text) :
    ∃ entry ∈ draft.story.dictionary.entries, entry.word = text ∧ entry.code = code := by
  obtain ⟨index, rfl, there⟩ := entryAt_eq_some.mp found
  rw [Story.spellings, List.getElem?_map, Option.map_eq_some_iff] at there
  obtain ⟨entry, there, word⟩ := there
  have code : entry.code = index + 1 := kept.wordCodes.eq_succ (by simp [there])
  exact ⟨entry, List.mem_of_getElem? there, word, code⟩

/-- A form ends in the tree of its verb. -/
theorem Kept.root_of_end (kept : Kept draft spots forms []) {form : DeclaredForm}
    (member : form ∈ forms) {place : Nat × Nat}
    (ends : draft.story.formAt? place = some form.number) :
    ∃ root ∈ draft.story.grammars, ∃ entry ∈ draft.story.dictionary.entries,
      entry.word = form.verb ∧ entry.code = root.verb ∧
        ReflTransGen draft.story.LeadsOn root.table place.1 := by
  obtain ⟨root, rooted, named, -, reached⟩ :=
    kept.settled.exists_root (kept.spot_of_end member ends)
  obtain ⟨entry, there, word, code⟩ := kept.exists_word_of_code named
  exact ⟨root, rooted, entry, there, word, code, reached⟩

theorem Kept.existsUnique_map (kept : Kept draft spots forms []) {form : DeclaredForm}
    (member : form ∈ forms) :
    ∃! index : Nat, (draft.story.parameterMaps[index]?).map (·.form) = some form.number := by
  have there : form.number ∈ draft.story.parameterMaps.map (·.form) :=
    kept.maps ▸ List.mem_map_of_mem member
  have distinct : (draft.story.parameterMaps.map (·.form)).Nodup :=
    kept.maps ▸ kept.numbers.nodup
  obtain ⟨index, found⟩ := List.getElem?_of_mem there
  refine ⟨index, by rwa [List.getElem?_map] at found, ?_⟩
  intro index' found'
  rw [← List.getElem?_map] at found'
  exact (List.getElem?_inj (List.getElem?_eq_some_iff.mp found').1 distinct).mp
    (found'.trans found.symm)

theorem Kept.wellDrafted (kept : Kept draft spots forms []) : draft.story.WellDrafted forms where
  words := kept.words
  wordCodes _ _ there := kept.wordCodes.eq_succ (by simp [there])
  classCodes _ _ there := kept.classCodes.eq_succ (by simp [there])
  instanceCodes _ _ there := kept.instanceCodes.eq_succ (by simp [there])
  verbs := kept.settled.verbs
  roots := kept.settled.nodup_roots kept.words
  root root member := by
    obtain ⟨verb, -, at_root⟩ := kept.settled.root root member
    exact ⟨kept.settled.inside at_root, kept.settled.edge_ne_root member⟩
  edges _ _ leads := kept.settled.bounds_of_edge leads
  edge table inside rootless := by
    obtain ⟨spot, step, spotted⟩ := kept.settled.exists_along inside rootless
    exact kept.settled.existsUnique_edge spotted
  forest _ inside := kept.settled.existsUnique_root kept.words inside
  numbers := by
    have numbers : forms.map (·.number) = List.range' 1 (forms.map (·.number)).length :=
      kept.numbers
    rwa [List.length_map] at numbers
  ends _ member := kept.existsUnique_end member
  tree _ member _ ends := kept.root_of_end member ends
  map _ member := kept.existsUnique_map member

/-! ## No table is missed -/

/-- `addElement`, if there is such a table. -/
def addElementChecked (draft : Draft) (table : Nat) (element : Element) : Option Draft :=
  if table < draft.story.tables.length then some (draft.addElement table element) else none

/-- `follow`, if every table that it looks for is there. -/
def followChecked (draft : Draft) (table : Nat) (leads : Element → Option Nat)
    (edge : Nat → Element) : Option (Nat × Draft) := do
  let entries ← draft.story.tables[table]?
  match entries.findSome? leads with
  | some next => return (next, draft)
  | none =>
    let (next, draft) := draft.newTable
    return (next, ← draft.addElementChecked table (edge next))

/-- `followSteps`, if every table that it looks for is there. -/
def followStepsChecked (draft : Draft) (table : Nat) : List FormStep → Option (Nat × Draft)
  | [] => some (table, draft)
  | .word text :: steps => do
    let (code, draft) := draft.word text .preposition
    let (next, draft) ← draft.followChecked table (wordEdge code) (.word code)
    draft.followStepsChecked next steps
  | .slot flags :: steps => do
    let (next, draft) ← draft.followChecked table (slotEdge flags) (.parameter flags)
    draft.followStepsChecked next steps

/-- `form`, if every table that it looks for is there. -/
def formChecked (draft : Draft) (verb : String) (steps : List FormStep) :
    Option (Nat × Draft) := do
  let (code, draft) := draft.word verb .verb
  let (root, draft) := draft.rootTable code
  let (last, draft) ← draft.followStepsChecked root steps
  let number := draft.nextForm
  let draft ← draft.addElementChecked last (.finish number [])
  let sources := List.range' 1 (steps.filter FormStep.isSlot).length
  return (number, { draft with
    nextForm := number + 1
    story := { draft.story with
      parameterMaps := draft.story.parameterMaps ++ [⟨number, code, sources⟩] } })

/-- `declare`, if every table that it looks for is there.  Only a form looks for single tables. -/
def declareChecked (draft : Draft) : Declaration → Option (Option Nat × Draft)
  | .form verb steps => (draft.formChecked verb steps).map (Prod.map some id)
  | declaration => some (draft.declare declaration)

/-- `declareAll`, if every table that it looks for is there. -/
def declareAllChecked (draft : Draft) : List Declaration → Option (List (Option Nat) × Draft)
  | [] => some ([], draft)
  | declaration :: rest => do
    let (answer, draft) ← draft.declareChecked declaration
    let (answers, draft) ← draft.declareAllChecked rest
    return (answer :: answers, draft)

variable {here : Spot} {table : Nat} {step : FormStep} {leads : Element → Option Nat}
  {edge : Nat → Element}

theorem followChecked_eq (inside : table < draft.story.tables.length) :
    draft.followChecked table leads edge = some (draft.follow table leads edge) := by
  have there := List.getElem?_eq_getElem inside
  have inside' : table < draft.newTable.2.story.tables.length := by
    simp only [newTable, withTables, List.length_append, List.length_cons, List.length_nil]
    omega
  unfold followChecked follow
  simp only [Story.elements, there, Option.bind_eq_bind, Option.bind_some, Option.getD_some]
  cases (draft.story.tables[table]).findSome? leads with
  | some next => rfl
  | none =>
    simp only [addElementChecked, if_pos inside']
    rfl

theorem followStepsChecked_eq (steps : List FormStep)
    (kept : Kept draft spots forms [here.outline]) (spotted : spots[table]? = some here) :
    draft.followStepsChecked table steps = some (draft.followSteps table steps) := by
  induction steps generalizing draft spots here table with
  | nil => rfl
  | cons step steps ih =>
    cases step with
    | word text =>
      obtain ⟨kept, found⟩ := kept.word text .preposition
      have inside := kept.grown.inside spotted
      obtain ⟨spots, kept, spotted⟩ := kept.follow spotted (Kept.along_word kept.words found)
      simp only [followStepsChecked, followChecked_eq inside]
      exact ih kept spotted
    | slot flags =>
      have inside := kept.grown.inside spotted
      obtain ⟨spots, kept, spotted⟩ := kept.follow spotted (Kept.along_slot _ flags)
      simp only [followStepsChecked, followChecked_eq inside]
      exact ih kept spotted

theorem formChecked_eq (kept : Kept draft spots forms []) (verb : String)
    (steps : List FormStep) : draft.formChecked verb steps = some (draft.form verb steps) := by
  obtain ⟨kept, found⟩ := kept.word verb .verb
  obtain ⟨spots, kept, spotted⟩ := kept.rootTable found
  have followed := followStepsChecked_eq steps kept spotted
  obtain ⟨spots, kept, spotted⟩ := kept.followSteps steps spotted
  have inside := kept.grown.inside spotted
  simp only [formChecked, followed, Option.bind_eq_bind, Option.bind_some, addElementChecked,
    if_pos inside]
  rfl

theorem declareChecked_eq (kept : Kept draft spots forms []) (declaration : Declaration) :
    draft.declareChecked declaration = some (draft.declare declaration) := by
  cases declaration with
  | form verb steps =>
    simp only [declareChecked, formChecked_eq kept]
    rfl
  | _ => rfl

theorem declareAllChecked_eq (declarations : List Declaration)
    (kept : Kept draft spots forms []) :
    draft.declareAllChecked declarations = some (draft.declareAll declarations) := by
  induction declarations generalizing draft spots forms with
  | nil => rfl
  | cons declaration rest ih =>
    have declared := declareChecked_eq kept declaration
    obtain ⟨spots, kept⟩ := kept.declare declaration
    simp only [declareAllChecked, declared, Option.bind_eq_bind, Option.bind_some, ih kept]
    rfl

/-! ## Every draft -/

/-- A number is given back for every form. -/
theorem map_declaredForms (draft : Draft) (declarations : List Declaration) :
    (declaredForms declarations (draft.declareAll declarations).1).map
        (fun form => (form.verb, form.steps)) =
      declarations.filterMap Declaration.form? := by
  induction declarations generalizing draft with
  | nil => rfl
  | cons declaration rest ih =>
    simp only [declareAll, declaredForms_cons, List.map_append, ih]
    cases declaration with
    | form verb steps => rfl
    | _ => rfl

/-- **Drafted stories are well formed.**  Whatever is declared, in whatever order, a number is given
back for every form, the story is well drafted with these forms, and no declaration ever looks for
an element table that does not exist. -/
theorem wellDrafted_declareAll (declarations : List Declaration) :
    (declaredForms declarations (Draft.initial.declareAll declarations).1).map
        (fun form => (form.verb, form.steps)) = declarations.filterMap Declaration.form? ∧
    (Draft.initial.declareAll declarations).2.story.WellDrafted
      (declaredForms declarations (Draft.initial.declareAll declarations).1) ∧
    Draft.initial.declareAllChecked declarations =
      some (Draft.initial.declareAll declarations) := by
  obtain ⟨spots, kept⟩ := Kept.initial.declareAll declarations
  exact ⟨map_declaredForms Draft.initial declarations, kept.wellDrafted,
    declareAllChecked_eq declarations Kept.initial⟩

/-- The forms of a verb share their beginnings, and those of another verb have a table of their
own. -/
example : (Draft.initial.declareAll [
    .form "put" [.slot {}], .form "look" [], .form "put" [.slot {}, .word "in"]]).2.story.tables =
      [[.parameter {} 1], [.finish 1 [], .word 3 3], [.finish 2 []], [.finish 3 []]] := by
  decide

end Draft

end TextAdventure
