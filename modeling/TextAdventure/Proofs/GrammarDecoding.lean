import TextAdventure.Proofs.Settling
import TextAdventure.Story.GrammarGraph
import TextAdventure.Story.Summary
import Mathlib.Data.List.Forall2
import Mathlib.Data.List.Nodup
import Mathlib.Data.Set.Function
/-!
# The grammar graph of an image

The element tables of an image are the nodes of a graph: a row of a table leads on to the address of
another one, unless it closes a command form.  What is loaded is this graph, as far as it can be
reached from the syntax table, with numbers for addresses (`grammars_eq_ok`).  It does not matter
how often an address is led to, or whether the way goes round in a circle.
-/

namespace TextAdventure

/-- What is read after something else is read if that has been read. -/
theorem ok_of_bind {α β : Type} {first : Except LoadError α} {next : α → Except LoadError β}
    {result : β} (read : first >>= next = .ok result) :
    ∃ value, first = .ok value ∧ next value = .ok result := by
  cases first with
  | error => cases read
  | ok value => exact ⟨value, rfl, read⟩

/-! ## The graph in an image -/

namespace Image

/-- The address that a row of an element table leads to.  One that closes a form leads nowhere. -/
def edge? (row : Vector UInt32 3) : Option Nat :=
  if (tripleOf row).1 = formMarker then none else some (tripleOf row).2.2.toNat

/-- A row of the element table at the first address leads to the second one. -/
def LeadsTo (image : Image) (a b : Nat) : Prop :=
  ∃ rows, image.table a 3 "elements" = .ok rows ∧ ∃ row ∈ rows, edge? row = some b

/-- The addresses of element tables that can be reached from the rows of a syntax table. -/
inductive Reached (image : Image) (syntaxes : List (Vector UInt32 2)) : Nat → Prop where
  | root {row : Vector UInt32 2} (member : row ∈ syntaxes) :
      Reached image syntaxes (pairOf row).2.toNat
  | edge {a b : Nat} (reached : Reached image syntaxes a) (leads : image.LeadsTo a b) :
      Reached image syntaxes b

/-- The element in a row of an element table, if tables are numbered by their addresses. -/
def decodeRow (image : Image) (number : Nat → Nat) (row : Vector UInt32 3) :
    Except LoadError Element :=
  let (code, detail, address) := tripleOf row
  if code = 0 then
    .ok (.parameter (SlotFlags.ofBits detail.toNat) (number address.toNat))
  else if code = formMarker then do
    let restrictions ← image.restrictions address.toNat
    return .finish detail.toNat restrictions
  else
    .ok (.word code.toNat (number address.toNat))

/-- The numbers are asked for where the row leads to, and nowhere else. -/
theorem decodeRow_congr {image : Image} {number number' : Nat → Nat} {row : Vector UInt32 3}
    (same : ∀ b, edge? row = some b → number b = number' b) :
    image.decodeRow number row = image.decodeRow number' row := by
  unfold decodeRow
  simp only
  by_cases parameter : (tripleOf row).1 = 0
  · have leads : edge? row = some (tripleOf row).2.2.toNat := by
      apply if_neg
      rw [parameter]
      decide
    rw [if_pos parameter, if_pos parameter, same _ leads]
  · rw [if_neg parameter, if_neg parameter]
    by_cases closes : (tripleOf row).1 = formMarker
    · rw [if_pos closes, if_pos closes]
    · have leads : edge? row = some (tripleOf row).2.2.toNat := if_neg closes
      rw [if_neg closes, if_neg closes, same _ leads]

end Image

/-! ## Surveys that grow -/

namespace GrammarSurvey

/-- The number of the table at an address. -/
def number (survey : GrammarSurvey) (address : Nat) : Nat := survey.found.idxOf address

/-- The second survey has found some more tables, which wait to be read before the others. -/
structure Extends (survey later : GrammarSurvey) (new : List Nat) : Prop where
  found : later.found = survey.found ++ new
  waiting : later.waiting = new.reverse ++ survey.waiting
  done : later.done = survey.done
  nodup : new.Nodup
  fresh : ∀ a ∈ new, a ∉ survey.found

theorem Extends.refl (survey : GrammarSurvey) : survey.Extends survey [] :=
  ⟨(List.append_nil _).symm, rfl, rfl, .nil, List.forall_mem_nil _⟩

theorem Extends.trans {survey mid later : GrammarSurvey} {new newer : List Nat}
    (first : survey.Extends mid new) (second : mid.Extends later newer) :
    survey.Extends later (new ++ newer) := by
  refine ⟨?_, ?_, second.done.trans first.done, ?_, ?_⟩
  · rw [second.found, first.found, List.append_assoc]
  · rw [second.waiting, first.waiting, List.reverse_append, List.append_assoc]
  · apply first.nodup.append second.nodup
    intro a old late
    apply second.fresh a late
    rw [first.found]
    exact List.mem_append_right _ old
  · intro a member
    rcases List.mem_append.mp member with old | late
    · exact first.fresh a old
    · intro found
      apply second.fresh a late
      rw [first.found]
      exact List.mem_append_left _ found

/-- What has been found keeps its number. -/
theorem number_eq_of_prefix {survey later : GrammarSurvey} (grown : survey.found <+: later.found)
    {address : Nat} (found : address ∈ survey.found) :
    later.number address = survey.number address := by
  obtain ⟨new, same⟩ := grown
  unfold number
  rw [← same]
  exact List.idxOf_append_of_mem found

theorem Extends.grown {survey later : GrammarSurvey} {new : List Nat}
    (grows : survey.Extends later new) : survey.found <+: later.found :=
  ⟨new, grows.found.symm⟩

/-- An address that is reached is found, and it is found once. -/
theorem reach_extends (survey : GrammarSurvey) (address : Nat) :
    ∃ new, survey.Extends (survey.reach address).2 new ∧ (∀ a ∈ new, a = address) ∧
      address ∈ (survey.reach address).2.found ∧
      (survey.reach address).1 = (survey.reach address).2.number address := by
  unfold reach
  split
  · next index place =>
    refine ⟨[], .refl survey, List.forall_mem_nil _, ?_, ?_⟩
    · by_contra missing
      rw [List.idxOf?_eq_none_iff.mpr missing] at place
      cases place
    · show index = survey.found.idxOf address
      rw [List.idxOf_eq_getD_idxOf?, place]
      rfl
  · next missing =>
    have missing := List.idxOf?_eq_none_iff.mp missing
    refine ⟨[address], ⟨rfl, rfl, rfl, List.nodup_singleton _, ?_⟩, ?_, ?_, ?_⟩
    · intro a member
      rw [List.mem_singleton.mp member]
      exact missing
    · intro a member
      exact List.mem_singleton.mp member
    · exact List.mem_append_right _ (List.mem_singleton_self address)
    · show survey.found.length = (survey.found ++ [address]).idxOf address
      rw [List.idxOf_append_of_notMem missing, List.idxOf_cons_self]
      rfl

end GrammarSurvey

/-! ## Rows -/

namespace Image

variable {image : Image} {survey later : GrammarSurvey}

theorem element_extends {row : Vector UInt32 3} {entry : Element}
    (read : image.element survey row = .ok (entry, later)) :
    ∃ new, survey.Extends later new ∧ (∀ b ∈ new, edge? row = some b) ∧
      (∀ b, edge? row = some b → b ∈ later.found) ∧
      image.decodeRow later.number row = .ok entry := by
  obtain ⟨new, grows, only, found, isNumber⟩ :=
    survey.reach_extends (tripleOf row).2.2.toNat
  -- a row that leads on leads to what is reached for it
  have onward (leads : edge? row = some (tripleOf row).2.2.toNat) :
      (∀ b ∈ new, edge? row = some b) ∧
        ∀ b, edge? row = some b → b ∈ (survey.reach (tripleOf row).2.2.toNat).2.found := by
    rw [leads]
    constructor
    · intro b member
      rw [only b member]
    · intro b same
      exact Option.some_inj.mp same ▸ found
  unfold element at read
  unfold decodeRow
  simp only at read ⊢
  by_cases parameter : (tripleOf row).1 = 0
  · have open' : (tripleOf row).1 ≠ formMarker := by
      rw [parameter]
      decide
    obtain ⟨led, leads⟩ := onward (if_neg open')
    rw [if_pos parameter] at read ⊢
    cases read
    exact ⟨new, grows, led, leads, by rw [isNumber]⟩
  · rw [if_neg parameter] at read ⊢
    by_cases closes : (tripleOf row).1 = formMarker
    · have none : edge? row = none := if_pos closes
      rw [if_pos closes] at read ⊢
      obtain ⟨restrictions, there, same⟩ := ok_of_bind read
      cases same
      rw [there]
      exact ⟨[], .refl _, List.forall_mem_nil _, by simp [none], rfl⟩
    · obtain ⟨led, leads⟩ := onward (if_neg closes)
      rw [if_neg closes] at read ⊢
      cases read
      exact ⟨new, grows, led, leads, by rw [isNumber]⟩

theorem elementRows_extends {rows : List (Vector UInt32 3)} {entries : List Element}
    (read : image.elementRows survey rows = .ok (entries, later)) :
    ∃ new, survey.Extends later new ∧ (∀ b ∈ new, ∃ row ∈ rows, edge? row = some b) ∧
      (∀ row ∈ rows, ∀ b, edge? row = some b → b ∈ later.found) ∧
      List.Forall₂ (fun row entry => image.decodeRow later.number row = .ok entry) rows
        entries := by
  induction rows generalizing survey entries with
  | nil =>
    cases read
    exact ⟨[], .refl _, List.forall_mem_nil _, List.forall_mem_nil _, .nil⟩
  | cons row rows ih =>
    obtain ⟨⟨entry, mid⟩, first, read⟩ := ok_of_bind read
    obtain ⟨⟨rest, last⟩, others, same⟩ := ok_of_bind read
    cases same
    obtain ⟨new, grows, led, found, decoded⟩ := element_extends first
    obtain ⟨newer, grows', led', found', decoded'⟩ := ih others
    refine ⟨new ++ newer, grows.trans grows', ?_, ?_, .cons ?_ decoded'⟩
    · intro b member
      rcases List.mem_append.mp member with old | late
      · exact ⟨row, List.mem_cons_self .., led b old⟩
      · obtain ⟨row', there, edge⟩ := led' b late
        exact ⟨row', List.mem_cons_of_mem _ there, edge⟩
    · intro row' member b edge
      rcases List.mem_cons.mp member with rfl | member
      · exact grows'.grown.subset (found b edge)
      · exact found' row' member b edge
    · -- what this row leads to keeps its number while the others are read
      rw [← decoded]
      refine decodeRow_congr fun b edge => ?_
      exact GrammarSurvey.number_eq_of_prefix grows'.grown (found b edge)

end Image

/-! ## Surveys in order -/

namespace GrammarSurvey

/-- A table is either waiting or has been read, and nothing happens to it twice. -/
structure Tidy (survey : GrammarSurvey) : Prop where
  nodup : survey.found.Nodup
  split : survey.found.Perm (survey.waiting ++ survey.readAddresses)

theorem tidy_empty : Tidy {} := ⟨.nil, .nil⟩

theorem Extends.nodup_found {survey later : GrammarSurvey} {new : List Nat}
    (grows : survey.Extends later new) (nodup : survey.found.Nodup) : later.found.Nodup := by
  rw [grows.found]
  apply nodup.append grows.nodup
  intro a old late
  exact grows.fresh a late old

theorem Tidy.of_extends {survey later : GrammarSurvey} {new : List Nat} (tidy : survey.Tidy)
    (grows : survey.Extends later new) : later.Tidy := by
  constructor
  · exact grows.nodup_found tidy.nodup
  · rw [List.perm_iff_count]
    intro a
    have counts := tidy.split.count_eq a
    rw [readAddresses, grows.found, grows.waiting, grows.done, List.count_append,
      List.count_append, List.count_append, List.count_reverse]
    rw [readAddresses, List.count_append] at counts
    omega

/-- A table that waits has not been read. -/
theorem Tidy.unread {survey : GrammarSurvey} {address : Nat} {waiting : List Nat}
    (tidy : survey.Tidy) (next : survey.waiting = address :: waiting) :
    address ∉ survey.readAddresses := by
  have apart := tidy.split.nodup_iff.mp tidy.nodup
  rw [next] at apart
  intro read
  exact List.disjoint_of_nodup_append apart (List.mem_cons_self ..) read

/-- The survey after the table at an address has been read. -/
def finish (later : GrammarSurvey) (address : Nat) (entries : List Element) : GrammarSurvey :=
  { later with done := (address, entries) :: later.done }

/-- A table that is read leaves the stack for those that have been read. -/
theorem Tidy.finish {survey later : GrammarSurvey} {address : Nat} {waiting new : List Nat}
    (tidy : survey.Tidy) (next : survey.waiting = address :: waiting)
    (grows : Extends { survey with waiting } later new) (entries : List Element) :
    (later.finish address entries).Tidy := by
  constructor
  · exact grows.nodup_found tidy.nodup
  · rw [List.perm_iff_count]
    intro a
    have counts := tidy.split.count_eq a
    rw [next, List.cons_append, List.count_cons, List.count_append, readAddresses] at counts
    show later.found.count a =
      (later.waiting ++ address :: later.done.map (·.1)).count a
    have found : later.found = survey.found ++ new := grows.found
    have waiting' : later.waiting = new.reverse ++ waiting := grows.waiting
    have done : later.done = survey.done := grows.done
    rw [found, waiting', done, List.count_append, List.count_append, List.count_append,
      List.count_cons, List.count_reverse]
    omega

/-- The entries are what the rows at an address say, and what they lead to has been found. -/
def Decodes (image : Image) (survey : GrammarSurvey) (address : Nat) (entries : List Element) :
    Prop :=
  ∃ rows, image.table address 3 "elements" = .ok rows ∧
    List.Forall₂ (fun row entry => image.decodeRow survey.number row = .ok entry) rows entries ∧
    ∀ row ∈ rows, ∀ b, Image.edge? row = some b → b ∈ survey.found

/-- Nothing has been found but what can be reached, and what has been read says what is there. -/
structure Faithful (image : Image) (syntaxes : List (Vector UInt32 2)) (survey : GrammarSurvey) :
    Prop where
  reached : ∀ a ∈ survey.found, image.Reached syntaxes a
  decoded : ∀ entry ∈ survey.done, survey.Decodes image entry.1 entry.2

variable {image : Image} {syntaxes : List (Vector UInt32 2)} {survey later : GrammarSurvey}

theorem faithful_empty (image : Image) (syntaxes : List (Vector UInt32 2)) :
    Faithful image syntaxes {} :=
  ⟨List.forall_mem_nil _, List.forall_mem_nil _⟩

/-- What has been read stays what it is while more is found. -/
theorem Decodes.grow {address : Nat} {entries : List Element}
    (decodes : survey.Decodes image address entries) (grown : survey.found <+: later.found) :
    later.Decodes image address entries := by
  obtain ⟨rows, read, decoded, found⟩ := decodes
  refine ⟨rows, read, ?_, fun row member b edge => grown.subset (found row member b edge)⟩
  have both := (List.forall₂_and_left _ _).mpr ⟨found, decoded⟩
  refine both.imp ?_
  rintro row entry ⟨found, decoded⟩
  rw [← decoded]
  exact Image.decodeRow_congr fun b edge => number_eq_of_prefix grown (found b edge)

theorem Faithful.of_extends {new : List Nat} (faithful : survey.Faithful image syntaxes)
    (grows : survey.Extends later new) (reached : ∀ a ∈ new, image.Reached syntaxes a) :
    later.Faithful image syntaxes := by
  constructor
  · intro a member
    rw [grows.found] at member
    rcases List.mem_append.mp member with old | late
    · exact faithful.reached a old
    · exact reached a late
  · intro entry member
    rw [grows.done] at member
    exact (faithful.decoded entry member).grow grows.grown

/-- One table more is read. -/
theorem Faithful.finish {address : Nat} {waiting : List Nat} {rows : List (Vector UInt32 3)}
    {entries : List Element} (faithful : survey.Faithful image syntaxes) (tidy : survey.Tidy)
    (next : survey.waiting = address :: waiting)
    (there : image.table address 3 "elements" = .ok rows)
    (read : image.elementRows { survey with waiting } rows = .ok (entries, later)) :
    (later.finish address entries).Faithful image syntaxes := by
  obtain ⟨new, grows, led, found, decoded⟩ := Image.elementRows_extends read
  have isFound : address ∈ survey.found := by
    apply tidy.split.symm.subset
    rw [next]
    exact List.mem_cons_self ..
  have before : Faithful image syntaxes { survey with waiting } :=
    ⟨faithful.reached, faithful.decoded⟩
  have after : later.Faithful image syntaxes := by
    apply before.of_extends grows
    intro b member
    obtain ⟨row, inRows, edge⟩ := led b member
    exact .edge (faithful.reached address isFound) ⟨rows, there, row, inRows, edge⟩
  refine ⟨after.reached, ?_⟩
  intro entry member
  rcases List.mem_cons.mp member with rfl | member
  · exact ⟨rows, there, decoded, found⟩
  · exact after.decoded entry member

end GrammarSurvey

/-! ## Reading all that waits -/

namespace Image

variable {image : Image} {syntaxes : List (Vector UInt32 2)} {survey later : GrammarSurvey}

/-- **Whatever waits is read.**  What was in order stays in order until nothing waits any more. -/
theorem readWaiting_eq_ok (tidy : survey.Tidy) (faithful : survey.Faithful image syntaxes)
    (read : image.readWaiting survey = .ok later) :
    later.Tidy ∧ later.Faithful image syntaxes ∧ later.waiting = [] ∧
      survey.found <+: later.found := by
  fun_induction readWaiting image survey with
  | case1 survey none =>
    cases read
    exact ⟨tidy, faithful, none, List.prefix_rfl⟩
  | case2 survey address waiting next again ih =>
    -- what waits has not been read yet
    exact absurd (List.contains_iff_mem.mp again) (tidy.unread next)
  | case3 => cases read
  | case4 => cases read
  | case5 survey address waiting next fresh rows there entries mid rowsRead ih =>
    obtain ⟨new, grows, -, -, -⟩ := elementRows_extends rowsRead
    have same : mid.finish address entries =
        { mid with done := (address, entries) :: survey.done } := by
      rw [GrammarSurvey.finish, grows.done]
    have tidy' := tidy.finish next grows entries
    have faithful' := faithful.finish tidy next there rowsRead
    rw [same] at tidy' faithful'
    obtain ⟨tidy'', faithful'', none, grown⟩ := ih tidy' faithful' read
    exact ⟨tidy'', faithful'', none, grows.grown.trans grown⟩

/-! ## The rows of the syntax table -/

theorem grammarTable_eq_ok {address index : Nat} (tidy : survey.Tidy)
    (faithful : survey.Faithful image syntaxes) (reached : image.Reached syntaxes address)
    (read : image.grammarTable survey address = .ok (index, later)) :
    later.Tidy ∧ later.Faithful image syntaxes ∧ later.waiting = [] ∧
      survey.found <+: later.found ∧ address ∈ later.found ∧ index = later.number address := by
  obtain ⟨new, grows, only, found, isNumber⟩ := survey.reach_extends address
  have read : (image.readWaiting (survey.reach address).2 >>= fun last =>
      .ok ((survey.reach address).1, last)) = .ok (index, later) := read
  obtain ⟨last, all, same⟩ := ok_of_bind read
  cases same
  have faithful' := faithful.of_extends grows fun a member => (only a member) ▸ reached
  obtain ⟨tidy', faithful'', none, grown⟩ :=
    readWaiting_eq_ok (tidy.of_extends grows) faithful' all
  refine ⟨tidy', faithful'', none, grows.grown.trans grown, grown.subset found, ?_⟩
  rw [isNumber, GrammarSurvey.number_eq_of_prefix grown found]

/-- **The rows of the syntax table are read in order**, each with all that it leads to. -/
theorem grammarRows_eq_ok {rows : List (Vector UInt32 2)} {roots : List GrammarRoot}
    (within : rows ⊆ syntaxes) (tidy : survey.Tidy) (faithful : survey.Faithful image syntaxes)
    (none : survey.waiting = []) (read : image.grammarRows survey rows = .ok (roots, later)) :
    later.Tidy ∧ later.Faithful image syntaxes ∧ later.waiting = [] ∧
      survey.found <+: later.found ∧ (∀ row ∈ rows, (pairOf row).2.toNat ∈ later.found) ∧
      roots = rows.map fun row =>
        ⟨(pairOf row).1.toNat, later.number (pairOf row).2.toNat⟩ := by
  induction rows generalizing survey roots with
  | nil =>
    cases read
    exact ⟨tidy, faithful, none, List.prefix_rfl, List.forall_mem_nil _, rfl⟩
  | cons row rows ih =>
    obtain ⟨member, within'⟩ := List.cons_subset.mp within
    obtain ⟨⟨index, mid⟩, first, read⟩ := ok_of_bind read
    obtain ⟨⟨rest, last⟩, others, same⟩ := ok_of_bind read
    cases same
    obtain ⟨tidy', faithful', none', grown, found, isNumber⟩ :=
      grammarTable_eq_ok tidy faithful (.root member) first
    obtain ⟨tidy'', faithful'', none'', grown', found', isRoots⟩ :=
      ih within' tidy' faithful' none' others
    refine ⟨tidy'', faithful'', none'', grown.trans grown', ?_, ?_⟩
    · intro row' member
      rcases List.mem_cons.mp member with rfl | member
      · exact grown'.subset found
      · exact found' row' member
    · rw [List.map_cons, isRoots, isNumber, GrammarSurvey.number_eq_of_prefix grown' found]
      rfl

end Image

/-! ## What has been loaded -/

namespace GrammarSurvey

variable {image : Image} {syntaxes : List (Vector UInt32 2)} {survey : GrammarSurvey}

/-- Once nothing waits, everything that has been found has been read. -/
theorem Tidy.perm_of_none (tidy : survey.Tidy) (none : survey.waiting = []) :
    survey.found.Perm survey.readAddresses := by
  have split := tidy.split
  rw [none] at split
  exact split

/-- The table at an address is the one that was read there. -/
theorem Tidy.tables_getElem? (tidy : survey.Tidy) {address : Nat} {entries : List Element}
    (found : address ∈ survey.found) (read : (address, entries) ∈ survey.done) :
    survey.tables[survey.number address]? = some entries := by
  have apart : survey.readAddresses.Nodup :=
    (List.nodup_append.mp (tidy.split.nodup_iff.mp tidy.nodup)).2.1
  have lookup : survey.done.lookup address = some entries := by
    obtain ⟨before, after, split⟩ := List.append_of_mem read
    rw [List.lookup_eq_some_iff]
    refine ⟨before, after, split, fun entry member => ?_⟩
    -- no other entry has the address
    rw [readAddresses, split, List.map_append, List.map_cons] at apart
    have elsewhere := List.disjoint_of_nodup_append apart (List.mem_map_of_mem member)
    rw [bne_iff_ne]
    intro same
    apply elsewhere
    rw [← same]
    exact List.mem_cons_self ..
  unfold tables number
  rw [List.getElem?_map, List.getElem?_idxOf found, Option.map_some, lookup]
  rfl

/-- What can be reached has been found. -/
theorem Faithful.found_of_reached (faithful : survey.Faithful image syntaxes)
    (all : ∀ a ∈ survey.found, a ∈ survey.readAddresses)
    (roots : ∀ row ∈ syntaxes, (pairOf row).2.toNat ∈ survey.found) {a : Nat}
    (reached : image.Reached syntaxes a) : a ∈ survey.found := by
  induction reached with
  | root member => exact roots _ member
  | edge _ leads ih =>
    obtain ⟨entry, member, rfl⟩ := List.mem_map.mp (all _ ih)
    obtain ⟨rows, there, -, found⟩ := faithful.decoded entry member
    obtain ⟨rows', there', row, inRows, edge⟩ := leads
    rw [there] at there'
    cases there'
    exact found row inRows _ edge

end GrammarSurvey

/-- The table that an element leads on to is numbered by the address that its row leads to. -/
theorem Image.next?_of_decodeRow {image : Image} {number : Nat → Nat} {row : Vector UInt32 3}
    {entry : Element} (decoded : image.decodeRow number row = .ok entry) :
    entry.next? = (edge? row).map number := by
  unfold decodeRow at decoded
  simp only at decoded
  unfold edge?
  by_cases parameter : (tripleOf row).1 = 0
  · have open' : (tripleOf row).1 ≠ formMarker := by
      rw [parameter]
      decide
    rw [if_pos parameter] at decoded
    cases decoded
    rw [if_neg open']
    rfl
  · rw [if_neg parameter] at decoded
    by_cases closes : (tripleOf row).1 = formMarker
    · rw [if_pos closes] at decoded ⊢
      obtain ⟨restrictions, -, same⟩ := ok_of_bind decoded
      cases same
      rfl
    · rw [if_neg closes] at decoded ⊢
      cases decoded
      rfl

/-- The tables are the graph in an image, with numbers for the addresses that can be reached from
the rows of its syntax table. -/
structure Image.GraphOf (image : Image) (syntaxes : List (Vector UInt32 2)) (number : Nat → Nat)
    (roots : List GrammarRoot) (tables : List (List Element)) : Prop where
  /-- Numbers are given to the addresses that can be reached, each its own, and all are given. -/
  numbered : Set.BijOn number {a | image.Reached syntaxes a} {index | index < tables.length}
  /-- Every verb begins with the table at its address. -/
  roots : roots = syntaxes.map fun row =>
    ⟨(pairOf row).1.toNat, number (pairOf row).2.toNat⟩
  /-- Every table says, row by row, what is at its address. -/
  decoded : ∀ a, image.Reached syntaxes a → ∃ rows entries,
    image.table a 3 "elements" = .ok rows ∧ tables[number a]? = some entries ∧
      List.Forall₂ (fun row entry => image.decodeRow number row = .ok entry) rows entries

namespace Image.GraphOf

variable {image : Image} {syntaxes : List (Vector UInt32 2)} {number : Nat → Nat}
  {roots : List GrammarRoot} {tables : List (List Element)}

/-- A table is as long as the one in the image, so that it is empty only if that one is. -/
theorem empty_of_empty (graph : image.GraphOf syntaxes number roots tables) {a : Nat}
    (reached : image.Reached syntaxes a) (empty : tables[number a]? = some []) :
    image.table a 3 "elements" = .ok [] := by
  obtain ⟨rows, entries, there, table, decoded⟩ := graph.decoded a reached
  rw [empty] at table
  cases table
  cases decoded
  exact there

/-- No element leads on to a table that is not there. -/
theorem next_lt (graph : image.GraphOf syntaxes number roots tables) {entries : List Element}
    (table : entries ∈ tables) {entry : Element} (member : entry ∈ entries) {next : Nat}
    (leads : entry.next? = some next) : next < tables.length := by
  obtain ⟨index, inRange, rfl⟩ := List.mem_iff_getElem.mp table
  obtain ⟨a, reached, rfl⟩ := graph.numbered.surjOn inRange
  obtain ⟨rows, entries, there, table, decoded⟩ := graph.decoded a reached
  rw [List.getElem?_eq_getElem inRange, Option.some_inj] at table
  rw [table] at member
  obtain ⟨row, inRows, isEntry⟩ := forall₂_right decoded member
  rw [Image.next?_of_decodeRow isEntry] at leads
  obtain ⟨b, edge, rfl⟩ := Option.map_eq_some_iff.mp leads
  exact graph.numbered.mapsTo (.edge reached ⟨rows, there, row, inRows, edge⟩)

end Image.GraphOf

/-- **The grammar is the graph in the image.**  If it can be loaded, every table that can be reached
has been read once, and no other. -/
theorem Image.grammarRows_graph {image : Image} {syntaxes : List (Vector UInt32 2)}
    {roots : List GrammarRoot} {survey : GrammarSurvey}
    (read : image.grammarRows {} syntaxes = .ok (roots, survey)) :
    image.GraphOf syntaxes survey.number roots survey.tables ∧
      survey.readAddresses.Nodup ∧
      ∀ a, a ∈ survey.readAddresses ↔ image.Reached syntaxes a := by
  obtain ⟨tidy, faithful, none, -, found, isRoots⟩ :=
    grammarRows_eq_ok (List.Subset.refl _) GrammarSurvey.tidy_empty
      (GrammarSurvey.faithful_empty image syntaxes) rfl read
  have perm := tidy.perm_of_none none
  have isFound : ∀ a, a ∈ survey.found ↔ image.Reached syntaxes a := fun a =>
    ⟨faithful.reached a, faithful.found_of_reached (fun _ member => perm.subset member) found⟩
  have length : survey.tables.length = survey.found.length := List.length_map _
  refine ⟨⟨⟨?_, ?_, ?_⟩, isRoots, ?_⟩, perm.nodup_iff.mp tidy.nodup, ?_⟩
  · intro a reached
    show survey.number a < survey.tables.length
    rw [length]
    exact List.idxOf_lt_length_iff.mpr ((isFound a).mpr reached)
  · intro a reached b _ same
    exact (List.idxOf_inj ((isFound a).mpr reached)).mp same
  · intro index inRange
    have inRange : index < survey.found.length := length ▸ inRange
    refine ⟨survey.found[index], (isFound _).mp (List.getElem_mem inRange), ?_⟩
    exact tidy.nodup.idxOf_getElem index inRange
  · intro a reached
    have member := (isFound a).mpr reached
    obtain ⟨entry, inDone, rfl⟩ := List.mem_map.mp (perm.subset member)
    obtain ⟨rows, there, decoded, -⟩ := faithful.decoded entry inDone
    exact ⟨rows, entry.2, there, tidy.tables_getElem? member inDone, decoded⟩
  · intro a
    rw [← isFound a]
    exact perm.symm.mem_iff

end TextAdventure
