import TextAdventure.Proofs.Drawing
import TextAdventure.Proofs.Lists
import TextAdventure.Story.Draft
/-!
# The trees of declared forms

The command forms that are declared for a verb share a tree of element tables.  A table of it
belongs to a spot, the steps that lead to it from the root, and what its entries stand for can be
read off the forms: at every spot that a form passes it has one mark, its next step or, behind the
last one, its end.  The entries of a table are the marks of all forms at its spot, in the order in
which they came and each of them once (`Marked`).

`Grown` says this of element tables, along with where the edges lead.  A tree grows by single marks:
a form that goes on from the spot that it has come to either finds its mark there or leaves a new
entry (`Grown.follow`, `Grown.branch`, `Grown.finish`).
-/

namespace TextAdventure

/-! ## Marks -/

/-- What an entry of an element table stands for in a form that goes through the table. -/
inductive Mark where
  | step (step : FormStep)
  | finish (form : Nat)
deriving DecidableEq, Repr

/-- A place in the forms of a verb: the steps that lead there. -/
@[ext]
structure Spot where
  verb : String
  path : List FormStep
deriving DecidableEq, Repr

/-- A form, or the beginning of one. -/
structure Outline where
  verb : String
  marks : List Mark
deriving DecidableEq, Repr

/-- What an entry stands for in a story with the given words. -/
def Element.mark? (words : List String) : Element → Option Mark
  | .word code _ => (entryAt words code).map fun text => .step (.word text)
  | .parameter flags _ => some (.step (.slot flags))
  | .finish form _ => some (.finish form)

/-- More words do not change what an entry stands for. -/
theorem Element.mark?_append {words : List String} {element : Element} {mark : Mark}
    (stands : element.mark? words = some mark) (more : List String) :
    element.mark? (words ++ more) = some mark := by
  cases element with
  | word code next =>
    rw [mark?, Option.map_eq_some_iff] at stands ⊢
    obtain ⟨text, found, rfl⟩ := stands
    exact ⟨text, entryAt_append found more, rfl⟩
  | parameter flags next => exact stands
  | finish form restrictions => exact stands

theorem Element.exists_next? {words : List String} {element : Element} {step : FormStep}
    (stands : element.mark? words = some (.step step)) : ∃ next, element.next? = some next := by
  cases element with
  | word code next => exact ⟨next, rfl⟩
  | parameter flags next => exact ⟨next, rfl⟩
  | finish form restrictions => cases stands

theorem Element.exists_step {words : List String} {element : Element} {mark : Mark} {next : Nat}
    (stands : element.mark? words = some mark) (leads : element.next? = some next) :
    ∃ step, mark = .step step := by
  cases element with
  | word code next' =>
    rw [mark?, Option.map_eq_some_iff] at stands
    obtain ⟨text, -, rfl⟩ := stands
    exact ⟨_, rfl⟩
  | parameter flags next' => exact ⟨_, (Option.some.inj stands).symm⟩
  | finish form restrictions => cases leads

/-- The spot that a step leads to. -/
def Spot.along (spot : Spot) (step : FormStep) : Spot := ⟨spot.verb, spot.path ++ [step]⟩

theorem Spot.along_inj {spot spot' : Spot} {step step' : FormStep} :
    spot.along step = spot'.along step' ↔ spot = spot' ∧ step = step' := by
  constructor
  · intro same
    obtain ⟨verb, path⟩ := Spot.mk.inj same
    obtain ⟨path, last⟩ := List.append_inj' path rfl
    exact ⟨Spot.ext verb path, List.singleton_inj.mp last⟩
  · rintro ⟨rfl, rfl⟩
    rfl

theorem map_step_injective : Function.Injective (List.map Mark.step) :=
  List.map_injective_iff.mpr fun _ _ same => Mark.step.inj same

/-- The beginning of a form that has come to a spot. -/
def Spot.outline (spot : Spot) : Outline := ⟨spot.verb, spot.path.map .step⟩

namespace Outline

/-- A form with one more mark. -/
def concat (outline : Outline) (mark : Mark) : Outline := ⟨outline.verb, outline.marks ++ [mark]⟩

theorem outline_along (spot : Spot) (step : FormStep) :
    (spot.along step).outline = spot.outline.concat (.step step) := by
  simp [Spot.along, Spot.outline, concat]

/-- The form comes to a spot. -/
def Passes (outline : Outline) (spot : Spot) : Prop :=
  outline.verb = spot.verb ∧ spot.path.map .step <+: outline.marks

instance (outline : Outline) (spot : Spot) : Decidable (outline.Passes spot) :=
  inferInstanceAs (Decidable (_ ∧ _))

/-- The mark of a form at a spot. -/
def markAt (outline : Outline) (spot : Spot) : Option Mark :=
  if outline.Passes spot then outline.marks[spot.path.length]? else none

variable {outline : Outline} {here spot : Spot} {mark : Mark} {step : FormStep}

theorem markAt_eq_some :
    outline.markAt spot = some mark ↔
      outline.verb = spot.verb ∧ spot.path.map .step ++ [mark] <+: outline.marks := by
  rw [concat_prefix_iff, List.length_map, ← and_assoc, markAt]
  split
  · next passes => simp [show _ ∧ _ from passes]
  · next passes => simp [show ¬ (_ ∧ _) from passes]

theorem markAt_eq_step :
    outline.markAt spot = some (.step step) ↔ outline.Passes (spot.along step) := by
  rw [markAt_eq_some, Passes, Spot.along, List.map_append]
  rfl

theorem passes_of_markAt (marked : outline.markAt spot = some mark) : outline.Passes spot := by
  obtain ⟨verb, begins⟩ := markAt_eq_some.mp marked
  exact ⟨verb, (List.prefix_append _ _).trans begins⟩

theorem passes_of_along (passes : outline.Passes (spot.along step)) : outline.Passes spot :=
  passes_of_markAt (markAt_eq_step.mpr passes)

theorem passes_outline (here : Spot) : here.outline.Passes here := ⟨rfl, List.prefix_rfl⟩

/-- A form that has come to a spot has no mark there yet. -/
theorem markAt_outline_self (here : Spot) : here.outline.markAt here = none := by
  rw [markAt, if_pos (passes_outline here)]
  simp [Spot.outline]

theorem passes_concat :
    (here.outline.concat mark).Passes spot ↔
      here.outline.Passes spot ∨ ∃ step, mark = .step step ∧ spot = here.along step := by
  unfold Passes concat
  rw [List.prefix_concat_iff, and_or_left, or_comm]
  refine or_congr_right ⟨?_, ?_⟩
  · rintro ⟨verb, marks⟩
    -- the last mark is that of the last step
    obtain ⟨path, last, split, same, final⟩ := List.map_eq_append_iff.mp marks
    obtain ⟨step, rfl, rfl⟩ := List.map_eq_singleton_iff.mp final
    have same : path = here.path := map_step_injective same
    refine ⟨step, rfl, ?_⟩
    rw [Spot.along, ← same, ← split, show here.verb = spot.verb from verb]
  · rintro ⟨step, rfl, rfl⟩
    exact ⟨rfl, by simp [Spot.along, Spot.outline]⟩

theorem markAt_concat (here spot : Spot) (mark : Mark) :
    (here.outline.concat mark).markAt spot =
      if spot = here then some mark else here.outline.markAt spot := by
  by_cases same : spot = here
  · subst same
    rw [if_pos rfl, markAt, if_pos ⟨rfl, List.prefix_append _ _⟩]
    simp [concat, Spot.outline]
  · rw [if_neg same]
    apply Option.ext
    intro mark'
    rw [markAt_eq_some, markAt_eq_some, concat, List.prefix_concat_iff, and_or_left]
    refine or_iff_right ?_
    rintro ⟨verb, marks⟩
    obtain ⟨path, -⟩ := List.append_inj' marks rfl
    have path : spot.path = here.path := map_step_injective path
    exact same (Spot.ext verb.symm path)

/-! ## The marks of many forms -/

/-- The marks of forms at a spot, each of them once. -/
def marksAt (outlines : List Outline) (spot : Spot) : List Mark :=
  (outlines.filterMap (·.markAt spot)).eraseDups

variable {outlines : List Outline}

theorem mem_marksAt : mark ∈ marksAt outlines spot ↔ ∃ o ∈ outlines, o.markAt spot = some mark := by
  rw [marksAt, List.mem_eraseDups, List.mem_filterMap]

theorem nodup_marksAt (outlines : List Outline) (spot : Spot) : (marksAt outlines spot).Nodup :=
  nodup_eraseDups _

/-- Of the marks at all spots only those at the spot that a form has come to change when it goes on,
and these only if the mark has not been there. -/
theorem marksAt_concat (outlines : List Outline) (here spot : Spot) (mark : Mark) :
    marksAt (outlines ++ [here.outline.concat mark]) spot =
      if spot = here ∧ mark ∉ marksAt (outlines ++ [here.outline]) spot then
        marksAt (outlines ++ [here.outline]) spot ++ [mark]
      else marksAt (outlines ++ [here.outline]) spot := by
  unfold marksAt
  simp only [List.filterMap_append, List.mem_eraseDups]
  by_cases same : spot = here
  · subst same
    have new : [spot.outline.concat mark].filterMap (·.markAt spot) = [mark] := by
      simp [markAt_concat]
    have old : [spot.outline].filterMap (·.markAt spot) = [] := by simp [markAt_outline_self]
    rw [new, old, List.append_nil, eraseDups_concat]
    by_cases known : mark ∈ outlines.filterMap (·.markAt spot) <;> simp [known]
  · have unchanged : [here.outline.concat mark].filterMap (·.markAt spot) =
        [here.outline].filterMap (·.markAt spot) := by
      simp [List.filterMap_cons, markAt_concat, same]
    simp [unchanged, same]

theorem exists_passes_concat :
    (∃ o ∈ outlines ++ [outline], o.Passes spot) ↔
      (∃ o ∈ outlines, o.Passes spot) ∨ outline.Passes spot := by
  simp [or_and_right, exists_or]

/-- A form that goes on along a step comes to one more spot. -/
theorem exists_passes_along :
    (∃ o ∈ outlines ++ [(here.along step).outline], o.Passes spot) ↔
      (∃ o ∈ outlines ++ [here.outline], o.Passes spot) ∨ spot = here.along step := by
  rw [exists_passes_concat, exists_passes_concat, outline_along, passes_concat, or_assoc]
  simp

/-- A form that has just begun is at the first spot and has no mark. -/
theorem passes_outline_nil {verb : String} :
    (Spot.outline ⟨verb, []⟩).Passes spot ↔ spot = ⟨verb, []⟩ := by
  simp [Passes, Spot.outline, Spot.ext_iff, eq_comm]

theorem marksAt_outline_nil {verb : String} :
    marksAt (outlines ++ [Spot.outline ⟨verb, []⟩]) spot = marksAt outlines spot := by
  have nothing : (Spot.outline ⟨verb, []⟩).markAt spot = none := by
    rw [Option.eq_none_iff_forall_ne_some]
    intro mark marked
    simpa [Spot.outline] using (markAt_eq_some.mp marked).2
  simp [marksAt, List.filterMap_append, nothing]

theorem marksAt_eq_nil (fresh : ∀ o ∈ outlines, ¬ o.Passes spot) : marksAt outlines spot = [] := by
  rw [List.eq_nil_iff_forall_not_mem]
  intro mark member
  obtain ⟨o, there, marked⟩ := mem_marksAt.mp member
  exact fresh o there (passes_of_markAt marked)

end Outline

/-! ## Tables and marks -/

open Outline

variable {words : List String} {grammars : List GrammarRoot} {tables : List (List Element)}
  {spots : List Spot} {outlines : List Outline} {table : Nat} {here spot : Spot}
  {entries : List Element} {element : Element} {mark : Mark} {step : FormStep}

/-- The entries of every table are the marks of the forms at its spot. -/
def Marked (words : List String) (tables : List (List Element)) (spots : List Spot)
    (outlines : List Outline) : Prop :=
  ∀ ⦃table : Nat⦄ ⦃spot : Spot⦄ ⦃entries : List Element⦄,
    spots[table]? = some spot → tables[table]? = some entries →
    entries.map (Element.mark? words) = (marksAt outlines spot).map some

/-- Every edge leads to the table of the spot behind its step, which comes later. -/
def Linked (words : List String) (tables : List (List Element)) (spots : List Spot) : Prop :=
  ∀ ⦃table next : Nat⦄ ⦃spot : Spot⦄ ⦃entries : List Element⦄ ⦃element : Element⦄
    ⦃step : FormStep⦄,
    spots[table]? = some spot → tables[table]? = some entries → element ∈ entries →
    element.mark? words = some (.step step) → element.next? = some next →
    table < next ∧ spots[next]? = some (spot.along step)

/-- Every entry stands for a mark of the forms. -/
theorem Marked.mark_of_mem (marked : Marked words tables spots outlines)
    (spotted : spots[table]? = some spot) (there : tables[table]? = some entries)
    (member : element ∈ entries) :
    ∃ mark ∈ marksAt outlines spot, element.mark? words = some mark := by
  have stands : element.mark? words ∈ (marksAt outlines spot).map some :=
    marked spotted there ▸ List.mem_map_of_mem member
  obtain ⟨mark, known, same⟩ := List.mem_map.mp stands
  exact ⟨mark, known, same.symm⟩

/-- Every mark of the forms has an entry. -/
theorem Marked.mem_of_mark (marked : Marked words tables spots outlines)
    (spotted : spots[table]? = some spot) (there : tables[table]? = some entries)
    (known : mark ∈ marksAt outlines spot) :
    ∃ element ∈ entries, element.mark? words = some mark := by
  have stands : some mark ∈ entries.map (Element.mark? words) :=
    marked spotted there ▸ List.mem_map_of_mem known
  exact List.mem_map.mp stands

/-! ### A new table -/

/-- With an empty table for a new spot every table is that one or one from before. -/
theorem split_concat (length : tables.length = spots.length) {new : Spot}
    (spotted : (spots ++ [new])[table]? = some spot)
    (there : (tables ++ [[]])[table]? = some entries) :
    spots[table]? = some spot ∧ tables[table]? = some entries ∨ spot = new ∧ entries = [] := by
  rcases getElem?_concat_eq_some.mp spotted with spotted | ⟨last, rfl⟩ <;>
    rcases getElem?_concat_eq_some.mp there with there | ⟨last', rfl⟩
  · exact .inl ⟨spotted, there⟩
  · have inside := (List.getElem?_eq_some_iff.mp spotted).1
    omega
  · have inside := (List.getElem?_eq_some_iff.mp there).1
    omega
  · exact .inr ⟨rfl, rfl⟩

theorem Marked.sprout (marked : Marked words tables spots outlines)
    (length : tables.length = spots.length) {new : Spot} (fresh : ∀ o ∈ outlines, ¬ o.Passes new) :
    Marked words (tables ++ [[]]) (spots ++ [new]) outlines := by
  intro table spot entries spotted there
  rcases split_concat length spotted there with ⟨spotted, there⟩ | ⟨rfl, rfl⟩
  · exact marked spotted there
  · rw [marksAt_eq_nil fresh]
    rfl

theorem Linked.sprout (linked : Linked words tables spots) (length : tables.length = spots.length)
    (new : Spot) : Linked words (tables ++ [[]]) (spots ++ [new]) := by
  intro table next spot entries element step spotted there member stands leads
  rcases split_concat length spotted there with ⟨spotted, there⟩ | ⟨-, rfl⟩
  · obtain ⟨later, onward⟩ := linked spotted there member stands leads
    exact ⟨later, getElem?_concat_eq_some.mpr (.inl onward)⟩
  · exact absurd member List.not_mem_nil

/-! ### A new entry -/

/-- A form that goes on with a mark that its table does not have leaves an entry. -/
theorem Marked.concat (marked : Marked words tables spots (outlines ++ [here.outline]))
    (distinct : spots.Nodup) (spotted : spots[table]? = some here)
    (unmarked : mark ∉ marksAt (outlines ++ [here.outline]) here)
    (stands : element.mark? words = some mark) :
    Marked words (tables.modify table (· ++ [element])) spots
      (outlines ++ [here.outline.concat mark]) := by
  intro table' spot entries spotted' there
  rw [marksAt_concat]
  by_cases same : table = table'
  · subst same
    cases Option.some.inj (spotted'.symm.trans spotted)
    rw [List.getElem?_modify_eq, Option.map_eq_map, Option.map_eq_some_iff] at there
    obtain ⟨entries, there, rfl⟩ := there
    rw [if_pos ⟨rfl, unmarked⟩, List.map_append, List.map_append, marked spotted there,
      List.map_singleton, stands, List.map_singleton]
  · -- at other spots nothing changes, and no other table has the spot
    have other : spot ≠ here := by
      rintro rfl
      exact same ((List.getElem?_inj (List.getElem?_eq_some_iff.mp spotted).1 distinct).mp
        (spotted.trans spotted'.symm))
    rw [if_neg fun both => other both.1]
    rw [List.getElem?_modify_ne _ _ same] at there
    exact marked spotted' there

theorem Linked.concat (linked : Linked words tables spots) (spotted : spots[table]? = some here)
    (onward : ∀ step next, element.mark? words = some (.step step) → element.next? = some next →
      table < next ∧ spots[next]? = some (here.along step)) :
    Linked words (tables.modify table (· ++ [element])) spots := by
  intro table' next spot entries element' step spotted' there member stands leads
  by_cases same : table = table'
  · subst same
    cases Option.some.inj (spotted'.symm.trans spotted)
    rw [List.getElem?_modify_eq, Option.map_eq_map, Option.map_eq_some_iff] at there
    obtain ⟨entries, there, rfl⟩ := there
    rcases List.mem_append.mp member with old | new
    · exact linked spotted there old stands leads
    · cases List.mem_singleton.mp new
      exact onward step next stands leads
  · rw [List.getElem?_modify_ne _ _ same] at there
    exact linked spotted' there member stands leads

/-! ## Grown trees -/

/-- The element tables are the trees of the forms; `spots` are the spots of the tables. -/
structure Grown (words : List String) (grammars : List GrammarRoot) (tables : List (List Element))
    (spots : List Spot) (outlines : List Outline) : Prop where
  /-- No two tables belong to one spot. -/
  distinct : spots.Nodup
  length : tables.length = spots.length
  /-- The spots are those that a form comes to. -/
  passed : ∀ spot, spot ∈ spots ↔ ∃ outline ∈ outlines, outline.Passes spot
  marks : Marked words tables spots outlines
  links : Linked words tables spots
  verbs : (grammars.map (·.verb)).Nodup
  /-- A root is the table of the spot where the forms of its verb begin. -/
  root : ∀ root ∈ grammars, ∃ verb, entryAt words root.verb = some verb ∧
    spots[root.table]? = some ⟨verb, []⟩
  /-- Wherever the forms of a verb begin there is a root. -/
  rooted : ∀ {verb}, ⟨verb, []⟩ ∈ spots → ∃ root ∈ grammars, entryAt words root.verb = some verb

namespace Grown

theorem none : Grown words [] [] [] [] := by
  constructor <;> simp [Marked, Linked]

theorem inside (grown : Grown words grammars tables spots outlines)
    (spotted : spots[table]? = some spot) : table < tables.length :=
  grown.length ▸ (List.getElem?_eq_some_iff.mp spotted).1

theorem exists_spot (grown : Grown words grammars tables spots outlines)
    (inside : table < tables.length) : ∃ spot, spots[table]? = some spot :=
  ⟨_, List.getElem?_eq_getElem (grown.length ▸ inside)⟩

/-- The number of the table of a spot. -/
theorem table_inj (grown : Grown words grammars tables spots outlines) {table' : Nat}
    (spotted : spots[table]? = some spot) (spotted' : spots[table']? = some spot) :
    table = table' :=
  (List.getElem?_inj (List.getElem?_eq_some_iff.mp spotted).1 grown.distinct).mp
    (spotted.trans spotted'.symm)

/-- The spot that a new table gets. -/
theorem spot_of_new (grown : Grown words grammars tables spots outlines) (new : Spot) :
    (spots ++ [new])[tables.length]? = some new :=
  getElem?_concat_eq_some.mpr (.inr ⟨grown.length, rfl⟩)

/-- The words may become more. -/
theorem learn (grown : Grown words grammars tables spots outlines) (more : List String) :
    Grown (words ++ more) grammars tables spots outlines := by
  have alike : ∀ {table : Nat} {spot : Spot} {entries : List Element},
      spots[table]? = some spot → tables[table]? = some entries →
      ∀ element ∈ entries, element.mark? (words ++ more) = element.mark? words := by
    intro table spot entries spotted there element member
    obtain ⟨mark, -, stands⟩ := grown.marks.mark_of_mem spotted there member
    rw [stands, Element.mark?_append stands]
  refine { grown with marks := ?_, links := ?_, root := ?_, rooted := ?_ }
  · intro table spot entries spotted there
    rw [List.map_congr_left (alike spotted there), grown.marks spotted there]
  · intro table next spot entries element step spotted there member stands leads
    rw [alike spotted there element member] at stands
    exact grown.links spotted there member stands leads
  · intro root member
    obtain ⟨verb, found, spotted⟩ := grown.root root member
    exact ⟨verb, entryAt_append found more, spotted⟩
  · intro verb member
    obtain ⟨root, there, found⟩ := grown.rooted member
    exact ⟨root, there, entryAt_append found more⟩

/-- Entries may change in what they neither stand for nor lead to. -/
theorem change (grown : Grown words grammars tables spots outlines) (change : Element → Element)
    (stands : ∀ element, (change element).mark? words = element.mark? words)
    (leads : ∀ element, (change element).next? = element.next?) :
    Grown words grammars (tables.map (·.map change)) spots outlines := by
  refine { grown with length := ?_, marks := ?_, links := ?_ }
  · rw [List.length_map, grown.length]
  · intro table spot entries spotted there
    rw [List.getElem?_map, Option.map_eq_some_iff] at there
    obtain ⟨entries, there, rfl⟩ := there
    rw [← grown.marks spotted there, List.map_map]
    exact List.map_congr_left fun element _ => stands element
  · intro table next spot entries element step spotted there member
    rw [List.getElem?_map, Option.map_eq_some_iff] at there
    obtain ⟨entries, there, rfl⟩ := there
    obtain ⟨element, original, rfl⟩ := List.mem_map.mp member
    rw [stands, leads]
    exact grown.links spotted there original

/-- A form begins where others have begun before. -/
theorem begin (grown : Grown words grammars tables spots outlines) {verb : String}
    (member : ⟨verb, []⟩ ∈ spots) :
    Grown words grammars tables spots (outlines ++ [Spot.outline ⟨verb, []⟩]) := by
  refine { grown with passed := ?_, marks := ?_ }
  · intro spot
    rw [exists_passes_concat, ← grown.passed, passes_outline_nil]
    constructor
    · exact .inl
    · rintro (old | rfl)
      · exact old
      · exact member
  · intro table spot entries spotted there
    rw [marksAt_outline_nil]
    exact grown.marks spotted there

/-- The first form of a verb begins in a new table. -/
theorem plant (grown : Grown words grammars tables spots outlines) {verb : String} {code : WordCode}
    (found : entryAt words code = some verb) (fresh : ⟨verb, []⟩ ∉ spots)
    (unknown : code ∉ grammars.map (·.verb)) :
    Grown words (grammars ++ [⟨code, tables.length⟩]) (tables ++ [[]]) (spots ++ [⟨verb, []⟩])
      (outlines ++ [Spot.outline ⟨verb, []⟩]) := by
  have unpassed : ∀ outline ∈ outlines, ¬ outline.Passes ⟨verb, []⟩ := fun outline member passes =>
    fresh ((grown.passed _).mpr ⟨outline, member, passes⟩)
  constructor
  case distinct => simpa using grown.distinct.concat fresh
  case length => simp [grown.length]
  case passed =>
    intro spot
    rw [exists_passes_concat, ← grown.passed, passes_outline_nil, List.mem_append,
      List.mem_singleton]
  case marks =>
    intro table spot entries spotted there
    rw [marksAt_outline_nil]
    exact grown.marks.sprout grown.length unpassed spotted there
  case links => exact grown.links.sprout grown.length _
  case verbs => simpa using grown.verbs.concat unknown
  case root =>
    intro root member
    rcases List.mem_append.mp member with member | member
    · obtain ⟨verb, found, spotted⟩ := grown.root root member
      exact ⟨verb, found, getElem?_concat_eq_some.mpr (.inl spotted)⟩
    · rw [List.mem_singleton.mp member]
      exact ⟨verb, found, grown.spot_of_new _⟩
  case rooted =>
    intro verb' member
    rcases List.mem_append.mp member with member | member
    · obtain ⟨root, there, found⟩ := grown.rooted member
      exact ⟨root, List.mem_append_left _ there, found⟩
    · cases List.mem_singleton.mp member
      exact ⟨_, List.mem_append_right _ (List.mem_singleton_self _), found⟩

/-- A form that goes on along an edge changes no table. -/
theorem follow (grown : Grown words grammars tables spots (outlines ++ [here.outline]))
    (spotted : spots[table]? = some here) (there : tables[table]? = some entries)
    (member : element ∈ entries) (stands : element.mark? words = some (.step step)) :
    Grown words grammars tables spots (outlines ++ [(here.along step).outline]) := by
  obtain ⟨mark, known, stands'⟩ := grown.marks.mark_of_mem spotted there member
  cases Option.some.inj (stands'.symm.trans stands)
  obtain ⟨next, leads⟩ := Element.exists_next? stands
  have onward := (grown.links spotted there member stands leads).2
  refine { grown with passed := ?_, marks := ?_ }
  · intro spot
    rw [exists_passes_along, ← grown.passed]
    constructor
    · exact .inl
    · rintro (old | rfl)
      · exact old
      · exact List.mem_of_getElem? onward
  · intro table' spot entries spotted there
    rw [grown.marks spotted there, outline_along, marksAt_concat, if_neg]
    rintro ⟨rfl, unmarked⟩
    exact unmarked known

/-- A form that goes on along a new edge comes to a new table. -/
theorem branch (grown : Grown words grammars tables spots (outlines ++ [here.outline]))
    (spotted : spots[table]? = some here) (there : tables[table]? = some entries)
    (absent : ∀ element ∈ entries, element.mark? words ≠ some (.step step))
    (stands : element.mark? words = some (.step step))
    (leads : element.next? = some tables.length) :
    Grown words grammars ((tables ++ [[]]).modify table (· ++ [element]))
      (spots ++ [here.along step]) (outlines ++ [(here.along step).outline]) := by
  -- no form has gone along the step, or its mark would have an entry
  have unmarked : .step step ∉ marksAt (outlines ++ [here.outline]) here := by
    intro marked
    obtain ⟨element, member, stands⟩ := grown.marks.mem_of_mark spotted there marked
    exact absent element member stands
  have unpassed : ∀ o ∈ outlines ++ [here.outline], ¬ o.Passes (here.along step) :=
    fun outline member passes =>
      unmarked (mem_marksAt.mpr ⟨outline, member, markAt_eq_step.mpr passes⟩)
  have fresh : here.along step ∉ spots := by
    intro member
    obtain ⟨outline, declared, passes⟩ := (grown.passed _).mp member
    exact unpassed outline declared passes
  have distinct : (spots ++ [here.along step]).Nodup := by simpa using grown.distinct.concat fresh
  have still : (spots ++ [here.along step])[table]? = some here :=
    getElem?_concat_eq_some.mpr (.inl spotted)
  refine ⟨distinct, ?_, ?_, ?_, ?_, grown.verbs, ?_, ?_⟩
  · simp [grown.length]
  · intro spot
    rw [exists_passes_along, ← grown.passed, List.mem_append, List.mem_singleton]
  · rw [outline_along]
    exact (grown.marks.sprout grown.length unpassed).concat distinct still unmarked stands
  · apply (grown.links.sprout grown.length _).concat still
    intro step' next stands' leads'
    cases stands'.symm.trans stands
    cases leads'.symm.trans leads
    exact ⟨grown.inside spotted, grown.spot_of_new _⟩
  · intro root member
    obtain ⟨verb, found, spotted⟩ := grown.root root member
    exact ⟨verb, found, getElem?_concat_eq_some.mpr (.inl spotted)⟩
  · intro verb member
    rcases List.mem_append.mp member with member | member
    · exact grown.rooted member
    · -- a spot behind a step is not the first one of its verb
      have path := congrArg Spot.path (List.mem_singleton.mp member)
      exact absurd path.symm (List.append_ne_nil_of_right_ne_nil _ (List.cons_ne_nil _ _))

/-- A form that ends leaves an entry. -/
theorem finish (grown : Grown words grammars tables spots (outlines ++ [here.outline]))
    (spotted : spots[table]? = some here) {form : Nat}
    (unmarked : .finish form ∉ marksAt (outlines ++ [here.outline]) here) :
    Grown words grammars (tables.modify table (· ++ [.finish form []])) spots
      (outlines ++ [here.outline.concat (.finish form)]) := by
  refine { grown with length := ?_, passed := ?_, marks := ?_, links := ?_ }
  · rw [List.length_modify, grown.length]
  · intro spot
    rw [grown.passed, exists_passes_concat, exists_passes_concat, passes_concat]
    simp
  · exact grown.marks.concat grown.distinct spotted unmarked rfl
  · exact grown.links.concat spotted fun step next stands => by cases stands

end Grown

end TextAdventure
