import TextAdventure.Proofs.Lists
import TextAdventure.Story.Summary
import Mathlib.Data.List.Chain
import Mathlib.Data.List.Dedup
import Mathlib.Data.List.Perm.Subperm
import Mathlib.Logic.Relation
/-!
# Drawing the grammar

The drawing of a grammar follows the edges of its graph, which may run in circles, share tables and
lead to tables that are not there.  It is a sequence of strokes: a table is entered, an entry of it
has its line, and a table that is being drawn already is shown as an ellipsis.

The tables that are being drawn are a list that a table joins when it is entered and leaves when its
entries are done (`drawTable`).  The list is the same again after every table, so what is drawn is
one entry for every way to it that comes to no table twice (`mem_strokes`), and no more tables are
ever entered within each other than there are numbers of tables.  The summary of a story is put
together from the drawings of its grammars (`describe_drawn`).
-/

namespace TextAdventure

open Relation (ReflTransGen)

/-- What is drawn at once.  The tables that are being drawn come with it, the innermost first. -/
inductive Stroke where
  /-- A table is entered from the others. -/
  | enter (above : List Nat) (table : Nat)
  /-- The line of an entry of the innermost table. -/
  | entry (path : List Nat) (element : Element)
  /-- The line that stands for a table that is being drawn. -/
  | ellipsis (path : List Nat) (table : Nat)
deriving DecidableEq, Repr

/-- The text of a stroke.  The lines of a root are set in twice. -/
def Stroke.text (story : Story) : Stroke → String
  | .enter _ _ => ""
  | .entry path element => Text.indent ((path.length + 1) * 2) ++ element.describe story ++ "\n"
  | .ellipsis path _ => Text.indent ((path.length + 2) * 2) ++ "...\n"

/-- The second stroke can come right after the first one.  An entry that leads to a table which is
being drawn is followed by an ellipsis, and one that leads to another table by the drawing of it;
nothing else is followed by either of them. -/
def Stroke.Goes : Stroke → Stroke → Prop
  | .entry path element, .enter above table =>
    above = path ∧ element.next? = some table ∧ table ∉ path
  | .entry path element, .ellipsis above table =>
    above = path ∧ element.next? = some table ∧ table ∈ path
  | .entry _ element, .entry _ _ => element.next? = none
  | _, .entry _ _ => True
  | _, _ => False

namespace Story

/-! ## Drawing with a list of tables -/

/-- Strokes, and the list of the tables that are being drawn when they are done. -/
abbrev Drawing : Type := Option (List Stroke × List Nat)

/-- Draws the table that an entry leads to, if it leads to one. -/
def drawBelow (draw : Nat → List Nat → Drawing) (element : Element) (visiting : List Nat) :
    Drawing :=
  match element.next? with
  | none => some ([], visiting)
  | some next => draw next visiting

/-- Draws entries one after the other. -/
def drawEntries (draw : Nat → List Nat → Drawing) : List Element → List Nat → Drawing
  | [], visiting => some ([], visiting)
  | element :: elements, visiting => do
    let (below, left) ← drawBelow draw element visiting
    let (rest, left) ← drawEntries draw elements left
    return (.entry visiting element :: below ++ rest, left)

/-- Draws a table, with no more than `limit` tables entered within each other. -/
def drawTable (story : Story) (limit table : Nat) (visiting : List Nat) : Drawing :=
  if visiting.contains table then some ([.ellipsis visiting table], visiting)
  else
    match limit with
    | 0 => none
    | limit + 1 => do
      let (strokes, left) ←
        drawEntries (story.drawTable limit) (story.elements table) (table :: visiting)
      return (.enter visiting table :: strokes, left.tail)

/-! ## The strokes -/

/-- The strokes of a table below others. -/
def strokes (story : Story) (above : List Nat) (table : Nat) : List Stroke :=
  if _ : above.contains table then [.ellipsis above table]
  else
    match _ : story.tables[table]? with
    | none => [.enter above table]
    | some elements =>
      .enter above table :: elements.flatMap fun element =>
        .entry (table :: above) element ::
          match element.next? with
          | none => []
          | some next => story.strokes (table :: above) next
termination_by unvisited story.tables.length above
decreasing_by
  exact unvisited_cons_lt
    (List.getElem?_eq_some_iff.mp ‹story.tables[table]? = some elements›).1 ‹_›

variable {story : Story} {above above' path : List Nat} {root table next : Nat}

/-- Some entry of the first table leads to the second one. -/
def LeadsOn (story : Story) (table next : Nat) : Prop :=
  ∃ element ∈ story.elements table, element.next? = some next

/-- Some entry of the first table, which is not being drawn, leads to the second one. -/
def LeadsDown (story : Story) (above : List Nat) (table next : Nat) : Prop :=
  table ∉ above ∧ story.LeadsOn table next

/-- The strokes of what an entry leads to. -/
def strokesBelow (story : Story) (path : List Nat) (element : Element) : List Stroke :=
  match element.next? with
  | none => []
  | some next => story.strokes path next

theorem strokes_of_mem (drawn : table ∈ above) :
    story.strokes above table = [.ellipsis above table] := by
  rw [strokes, dif_pos (List.contains_iff_mem.mpr drawn)]

theorem strokes_of_not_mem (fresh : table ∉ above) :
    story.strokes above table =
      .enter above table :: (story.elements table).flatMap fun element =>
        .entry (table :: above) element :: story.strokesBelow (table :: above) element := by
  rw [strokes, dif_neg (by simpa using fresh)]
  unfold elements strokesBelow
  split <;> simp [*]

/-- What holds of a table that is being drawn, and of any other if it holds of the tables that this
one leads to, holds of all.  A table below others has fewer that are not being drawn. -/
theorem table_induction (story : Story) {motive : List Nat → Nat → Prop}
    (drawn : ∀ above table, table ∈ above → motive above table)
    (fresh : ∀ above table, table ∉ above →
      (∀ next, story.LeadsOn table next → motive (table :: above) next) → motive above table)
    (above : List Nat) (table : Nat) : motive above table := by
  induction left : unvisited story.tables.length above using Nat.strongRecOn
    generalizing above table with
  | _ left' ih =>
    subst left
    by_cases member : table ∈ above
    · exact drawn above table member
    · apply fresh above table member
      rintro next ⟨element, there, -⟩
      -- a table with an entry is one of the story
      have inside : table < story.tables.length := by
        by_contra outside
        simp [elements, List.getElem?_eq_none (Nat.le_of_not_lt outside)] at there
      have fewer : unvisited story.tables.length (table :: above) <
          unvisited story.tables.length above :=
        unvisited_cons_lt inside (by simpa using member)
      exact ih _ fewer _ _ rfl

/-! ## The text -/

theorem describeTable_of_mem (drawn : table ∈ above) (depth : Nat) :
    story.describeTable above depth table = Text.indent (depth * 2) ++ "...\n" := by
  rw [describeTable, dif_pos (List.contains_iff_mem.mpr drawn)]

/-- The text of what an entry leads to. -/
def textBelow (story : Story) (path : List Nat) (depth : Nat) (element : Element) : String :=
  match element.next? with
  | none => ""
  | some next => story.describeTable path depth next

theorem describeTable_of_not_mem (fresh : table ∉ above) (depth : Nat) :
    story.describeTable above depth table =
      String.join ((story.elements table).map fun element =>
        Text.indent (depth * 2) ++ element.describe story ++ "\n" ++
          story.textBelow (table :: above) (depth + 1) element) := by
  rw [describeTable, dif_neg (by simpa using fresh)]
  unfold elements
  split
  · next none => simp [none]
  · next entries there =>
    simp only [there]
    rfl

/-- The strokes of a table have its text. -/
theorem text_strokes (above : List Nat) (table : Nat) :
    String.join ((story.strokes above table).map (·.text story)) =
      story.describeTable above (above.length + 2) table := by
  induction above, table using story.table_induction with
  | drawn above table member =>
    simp [strokes_of_mem member, describeTable_of_mem member, Stroke.text]
  | fresh above table fresh ih =>
    rw [strokes_of_not_mem fresh, describeTable_of_not_mem fresh, List.map_cons, String.join_cons,
      join_map_flatMap]
    show "" ++ _ = _
    rw [String.empty_append]
    congr 1
    apply List.map_congr_left
    intro element member
    rw [List.map_cons, String.join_cons]
    show Text.indent _ ++ _ ++ _ ++ _ = _
    congr 1
    unfold strokesBelow textBelow
    cases leads : element.next? with
    | none => simp
    | some next => exact ih next ⟨element, member, leads⟩

/-- The same is drawn below others and others again, if of the tables that the drawing comes to
the same ones are being drawn. -/
theorem describeTable_congr (above : List Nat) (table : Nat) :
    ∀ (above' : List Nat) (depth : Nat),
      (∀ t, ReflTransGen (story.LeadsDown above) table t → (t ∈ above ↔ t ∈ above')) →
      story.describeTable above depth table = story.describeTable above' depth table := by
  induction above, table using story.table_induction with
  | drawn above table member =>
    intro above' depth same
    rw [describeTable_of_mem member, describeTable_of_mem ((same table .refl).mp member)]
  | fresh above table fresh ih =>
    intro above' depth same
    have fresh' : table ∉ above' := fun member => fresh ((same table .refl).mpr member)
    rw [describeTable_of_not_mem fresh, describeTable_of_not_mem fresh']
    congr 1
    apply List.map_congr_left
    intro element member
    congr 1
    unfold textBelow
    cases leads : element.next? with
    | none => rfl
    | some next =>
      have leadsOn : story.LeadsOn table next := ⟨element, member, leads⟩
      apply ih next leadsOn
      intro t reached
      -- with one more table being drawn, the drawing comes to no more tables
      have reached' : ReflTransGen (story.LeadsDown above) next t :=
        ReflTransGen.mono (fun _ _ ⟨outside, leads⟩ =>
          ⟨fun within => outside (List.mem_cons_of_mem _ within), leads⟩) _ _ reached
      simp only [List.mem_cons, same t (reached'.head ⟨fresh, leadsOn⟩)]

/-! ## Ways -/

/-- The ways from a table that is drawn below others to tables below it, the last table first.  No
way comes to a table twice. -/
inductive Way (story : Story) (above : List Nat) (table : Nat) : List Nat → Prop where
  | start (fresh : table ∉ above) : Way story above table (table :: above)
  | step {a b : Nat} {path : List Nat} (way : Way story above table (a :: path))
      (leads : story.LeadsOn a b) (fresh : b ∉ a :: path) : Way story above table (b :: a :: path)

theorem Way.fresh (way : story.Way above table path) : table ∉ above := by
  induction way with
  | start fresh => exact fresh
  | step _ _ _ ih => exact ih

theorem Way.nodup (way : story.Way above table path) (nodup : above.Nodup) : path.Nodup := by
  induction way with
  | start fresh => exact nodup.cons fresh
  | step _ _ fresh ih => exact ih.cons fresh

theorem Way.head (leads : story.LeadsOn table next) (fresh : table ∉ above)
    (way : story.Way (table :: above) next path) : story.Way above table path := by
  induction way with
  | start fresh' => exact .step (.start fresh) leads fresh'
  | step _ leads' fresh' ih => exact .step ih leads' fresh'

/-- A way ends at once, or goes on from a table that is led to. -/
theorem way_iff (fresh : table ∉ above) :
    story.Way above table path ↔ path = table :: above ∨
      ∃ next, story.LeadsOn table next ∧ story.Way (table :: above) next path := by
  constructor
  · intro way
    induction way with
    | start => exact .inl rfl
    | @step a b path way leads fresh' ih =>
      right
      rcases ih with same | ⟨next, leads', way'⟩
      · cases same
        exact ⟨b, leads, .start fresh'⟩
      · exact ⟨next, leads', .step way' leads fresh'⟩
  · rintro (rfl | ⟨next, leads, way⟩)
    · exact .start fresh
    · exact way.head leads fresh

/-- A stroke belongs to the drawing of a table below others: a table is entered on every way to it,
and has a line for each of its entries; an ellipsis is for a table on the way, which is led to
again. -/
def Drawn (story : Story) (above : List Nat) (table : Nat) : Stroke → Prop
  | .enter path t => story.Way above table (t :: path)
  | .entry path element =>
    ∃ t, path.head? = some t ∧ story.Way above table path ∧ element ∈ story.elements t
  | .ellipsis path t =>
    t ∈ path ∧ (path = above ∧ t = table ∨
      ∃ last, path.head? = some last ∧ story.Way above table path ∧ story.LeadsOn last t)

theorem drawn_of_mem (member : table ∈ above) (stroke : Stroke) :
    story.Drawn above table stroke ↔ stroke = .ellipsis above table := by
  have none : ∀ path, ¬ story.Way above table path := fun path way => way.fresh member
  cases stroke with
  | enter => simp [Drawn, none]
  | entry => simp [Drawn, none]
  | ellipsis path t =>
    simp only [Drawn, none, false_and, and_false, exists_false, or_false, Stroke.ellipsis.injEq]
    constructor
    · exact And.right
    · rintro ⟨rfl, rfl⟩
      exact ⟨member, rfl, rfl⟩

theorem drawn_of_not_mem (fresh : table ∉ above) (stroke : Stroke) :
    story.Drawn above table stroke ↔ stroke = .enter above table ∨
      ∃ element ∈ story.elements table, stroke = .entry (table :: above) element ∨
        ∃ next, element.next? = some next ∧ story.Drawn (table :: above) next stroke := by
  cases stroke with
  | enter path t =>
    simp only [Drawn, way_iff fresh, LeadsOn]
    grind
  | entry path element =>
    simp only [Drawn, way_iff fresh, LeadsOn]
    grind
  | ellipsis path t =>
    simp only [Drawn, way_iff fresh, LeadsOn]
    grind

/-- **What is drawn.**  There is a stroke for every way and nothing else. -/
theorem mem_strokes (above : List Nat) (table : Nat) (stroke : Stroke) :
    stroke ∈ story.strokes above table ↔ story.Drawn above table stroke := by
  induction above, table using story.table_induction with
  | drawn above table member => simp [strokes_of_mem member, drawn_of_mem member]
  | fresh above table fresh ih =>
    rw [strokes_of_not_mem fresh, drawn_of_not_mem fresh, List.mem_cons, List.mem_flatMap]
    refine or_congr_right (exists_congr fun element => and_congr_right fun member => ?_)
    rw [List.mem_cons]
    refine or_congr_right ?_
    unfold strokesBelow
    cases leads : element.next? with
    | none => simp
    | some next => simp [ih next ⟨element, member, leads⟩]

/-! ## One stroke after the other -/

/-- Strokes follow each other as they can, and nothing is missing after the last one. -/
structure Flows (strokes : List Stroke) : Prop where
  chain : strokes.IsChain Stroke.Goes
  last : ∀ path element, strokes.getLast? = some (.entry path element) → element.next? = none

theorem flows_nil : Flows [] := ⟨.nil, by simp⟩

theorem Flows.append {first second : List Stroke} (flows : Flows first) (flows' : Flows second)
    (entry : ∀ stroke, second.head? = some stroke → ∃ path element, stroke = .entry path element) :
    Flows (first ++ second) := by
  constructor
  · rw [List.isChain_append]
    refine ⟨flows.chain, flows'.chain, ?_⟩
    intro before ends after begins
    obtain ⟨path, element, rfl⟩ := entry after begins
    cases before with
    | entry => exact flows.last _ _ ends
    | enter => trivial
    | ellipsis => trivial
  · intro path element ends
    rw [List.getLast?_append] at ends
    cases there : second.getLast? with
    | none => exact flows.last path element (by simpa [there] using ends)
    | some stroke => exact flows'.last path element (by simpa [there] using ends)

/-- What an entry leads to follows right after it. -/
theorem flows_entry {element : Element}
    (flows : ∀ next, element.next? = some next → Flows (story.strokes path next)) :
    Flows (.entry path element :: story.strokesBelow path element) := by
  unfold strokesBelow
  cases leads : element.next? with
  | none => exact ⟨.singleton _, by simpa using leads⟩
  | some next =>
    have flows := flows next leads
    by_cases member : next ∈ path
    · dsimp only
      rw [strokes_of_mem member]
      exact ⟨.cons_cons ⟨rfl, leads, member⟩ (.singleton _), by simp⟩
    · dsimp only
      rw [strokes_of_not_mem member] at flows ⊢
      exact ⟨.cons_cons ⟨rfl, leads, member⟩ flows.chain, fun _ _ ends =>
        flows.last _ _ (by simpa using ends)⟩

theorem flows_entries {elements : List Element}
    (flows : ∀ element ∈ elements, ∀ next, element.next? = some next →
      Flows (story.strokes path next)) :
    Flows (elements.flatMap fun element =>
      .entry path element :: story.strokesBelow path element) := by
  induction elements with
  | nil => exact flows_nil
  | cons element elements ih =>
    obtain ⟨first, others⟩ := List.forall_mem_cons.mp flows
    rw [List.flatMap_cons]
    apply (flows_entry first).append (ih others)
    intro stroke begins
    cases elements with
    | nil => simp at begins
    | cons other => exact ⟨path, other, by simpa using begins.symm⟩

/-- An ellipsis, or the drawing of a table, comes where an edge leads to it, and nowhere else. -/
theorem flows_strokes (above : List Nat) (table : Nat) : Flows (story.strokes above table) := by
  induction above, table using story.table_induction with
  | drawn above table member =>
    rw [strokes_of_mem member]
    exact ⟨.singleton _, by simp⟩
  | fresh above table fresh ih =>
    have flows : Flows ((story.elements table).flatMap fun element =>
        .entry (table :: above) element :: story.strokesBelow (table :: above) element) :=
      flows_entries fun element member next leads => ih next ⟨element, member, leads⟩
    rw [strokes_of_not_mem fresh]
    cases entries : story.elements table with
    | nil => exact ⟨.singleton _, by simp⟩
    | cons element elements =>
      rw [entries] at flows
      exact ⟨.cons_cons trivial flows.chain, fun _ _ ends => flows.last _ _ (by simpa using ends)⟩

/-! ## The list of tables -/

theorem drawEntries_of_draw {draw : Nat → List Nat → Drawing} {elements : List Element}
    (draws : ∀ element ∈ elements, ∀ next, element.next? = some next →
      draw next path = some (story.strokes path next, path)) :
    drawEntries draw elements path =
      some (elements.flatMap fun element =>
        .entry path element :: story.strokesBelow path element, path) := by
  induction elements with
  | nil => rfl
  | cons element elements ih =>
    obtain ⟨first, others⟩ := List.forall_mem_cons.mp draws
    have below : drawBelow draw element path = some (story.strokesBelow path element, path) := by
      unfold drawBelow strokesBelow
      cases leads : element.next? with
      | none => rfl
      | some next => exact first next leads
    simp [drawEntries, below, ih others]

theorem eq_of_drawEntries {draw : Nat → List Nat → Drawing}
    (draws : ∀ next strokes left, draw next path = some (strokes, left) →
      strokes = story.strokes path next ∧ left = path)
    {elements : List Element} {strokes : List Stroke} {left : List Nat}
    (drawn : drawEntries draw elements path = some (strokes, left)) :
    strokes = elements.flatMap (fun element =>
      .entry path element :: story.strokesBelow path element) ∧ left = path := by
  induction elements generalizing strokes left with
  | nil =>
    cases drawn
    exact ⟨rfl, rfl⟩
  | cons element elements ih =>
    simp only [drawEntries, Option.bind_eq_bind, Option.bind_eq_some_iff, Prod.exists] at drawn
    obtain ⟨below, left', first, rest, last, others, same⟩ := drawn
    have below_eq : below = story.strokesBelow path element ∧ left' = path := by
      unfold drawBelow at first
      unfold strokesBelow
      cases leads : element.next? with
      | none =>
        rw [leads] at first
        cases first
        exact ⟨rfl, rfl⟩
      | some next =>
        rw [leads] at first
        exact draws next below left' first
    obtain ⟨rfl, rfl⟩ := below_eq
    obtain ⟨rfl, rfl⟩ := ih others
    cases same
    exact ⟨rfl, rfl⟩

theorem drawTable_of_mem (member : table ∈ above) (limit : Nat) :
    story.drawTable limit table above = some (story.strokes above table, above) := by
  rw [drawTable.eq_def, if_pos (List.contains_iff_mem.mpr member), strokes_of_mem member]

theorem drawTable_zero (fresh : table ∉ above) : story.drawTable 0 table above = none := by
  rw [drawTable.eq_def, if_neg (by simpa using fresh)]

theorem drawTable_succ (fresh : table ∉ above) (limit : Nat) :
    story.drawTable (limit + 1) table above =
      (drawEntries (story.drawTable limit) (story.elements table) (table :: above)).map
        fun (strokes, left) => (.enter above table :: strokes, left.tail) := by
  rw [drawTable.eq_def, if_neg (by simpa using fresh), Option.map_eq_bind]
  rfl

/-- Whenever a table is drawn, the list of those that are being drawn is afterwards what it was. -/
theorem eq_of_drawTable {limit : Nat} {strokes : List Stroke} {left : List Nat}
    (drawn : story.drawTable limit table above = some (strokes, left)) :
    strokes = story.strokes above table ∧ left = above := by
  induction limit generalizing above table strokes left with
  | zero =>
    by_cases member : table ∈ above
    · rw [drawTable_of_mem member] at drawn
      cases drawn
      exact ⟨rfl, rfl⟩
    · simp [drawTable_zero member] at drawn
  | succ limit ih =>
    by_cases member : table ∈ above
    · rw [drawTable_of_mem member] at drawn
      cases drawn
      exact ⟨rfl, rfl⟩
    · rw [drawTable_succ member, Option.map_eq_some_iff] at drawn
      obtain ⟨⟨inside, left'⟩, entries, same⟩ := drawn
      obtain ⟨rfl, rfl⟩ := eq_of_drawEntries (fun _ _ _ => ih) entries
      cases same
      exact ⟨(strokes_of_not_mem member).symm, rfl⟩

/-- As long as there is room for the tables that are entered within each other, a table is drawn. -/
theorem drawTable_eq {numbers : List Nat}
    (known : ∀ table next, story.LeadsOn table next → next ∈ numbers) (above : List Nat)
    (table : Nat) :
    ∀ limit, above.Nodup → above ⊆ numbers → table ∈ numbers →
      numbers.length ≤ limit + above.length →
      story.drawTable limit table above = some (story.strokes above table, above) := by
  induction above, table using story.table_induction with
  | drawn above table member =>
    intro limit _ _ _ _
    exact drawTable_of_mem member limit
  | fresh above table fresh ih =>
    intro limit nodup within there room
    have nodup' : (table :: above).Nodup := nodup.cons fresh
    have within' : table :: above ⊆ numbers := List.cons_subset.mpr ⟨there, within⟩
    -- the tables that are being drawn are different ones
    have few : (table :: above).length ≤ numbers.length :=
      (List.subperm_of_subset nodup' within').length_le
    rw [List.length_cons] at few
    obtain ⟨limit, rfl⟩ : ∃ left, limit = left + 1 := ⟨limit - 1, by omega⟩
    rw [drawTable_succ fresh, drawEntries_of_draw, strokes_of_not_mem fresh]
    · rfl
    · intro element member next leads
      have leadsOn : story.LeadsOn table next := ⟨element, member, leads⟩
      apply ih next leadsOn limit nodup' within' (known table next leadsOn)
      rw [List.length_cons]
      omega

/-- The numbers of tables that occur in a story, in its grammars and in its tables. -/
def tableNumbers (story : Story) : List Nat :=
  (story.grammars.map (·.table) ++ story.tables.flatten.filterMap Element.next?).dedup

theorem mem_tableNumbers_of_root {root : GrammarRoot} (member : root ∈ story.grammars) :
    root.table ∈ story.tableNumbers := by
  rw [tableNumbers, List.mem_dedup]
  exact List.mem_append_left _ (List.mem_map_of_mem member)

theorem mem_tableNumbers_of_leadsOn (leads : story.LeadsOn table next) :
    next ∈ story.tableNumbers := by
  obtain ⟨element, member, leads⟩ := leads
  rw [tableNumbers, List.mem_dedup]
  apply List.mem_append_right
  rw [List.mem_filterMap]
  refine ⟨element, List.mem_flatten.mpr ⟨story.elements table, ?_, member⟩, leads⟩
  unfold elements at member ⊢
  cases there : story.tables[table]? with
  | none => simp [there] at member
  | some entries => exact List.mem_of_getElem? there

theorem Way.subset_tableNumbers (way : story.Way [] root path)
    (there : root ∈ story.tableNumbers) : path ⊆ story.tableNumbers := by
  induction way with
  | start => simpa using there
  | step _ leads _ ih => exact List.cons_subset.mpr ⟨mem_tableNumbers_of_leadsOn leads, ih⟩

/-- The grammar of a verb is drawn. -/
theorem drawTable_root {root : GrammarRoot} (member : root ∈ story.grammars) :
    story.drawTable story.tableNumbers.length root.table [] =
      some (story.strokes [] root.table, []) := by
  apply drawTable_eq (fun _ _ leads => mem_tableNumbers_of_leadsOn leads) [] root.table
  · exact .nil
  · exact List.nil_subset _
  · exact mem_tableNumbers_of_root member
  · exact Nat.le_refl _

/-! ## The summary -/

/-- What the summary says before the grammars. -/
def counts (story : Story) : String :=
  s!"{story.classes.length} classes, {story.instances.length} instances, hero: " ++
    story.instanceName story.hero ++ "\nSyntax trees:\n"

/-- The line of the verb of a grammar. -/
def headline (story : Story) (root : GrammarRoot) : String :=
  "  " ++ (story.dictionary.wordForCode root.verb .verb).getD "?" ++ s!" ({root.verb}):\n"

theorem describeGrammar_eq (story : Story) (root : GrammarRoot) :
    story.describeGrammar root =
      story.headline root ++ String.join ((story.strokes [] root.table).map (·.text story)) := by
  rw [text_strokes]
  rfl

/-- The whole summary comes to an end: behind the counts every grammar has the line of its verb and
the strokes that drawing it with a list of tables comes to, and no grammar leaves a table in the
list for the next one. -/
theorem describe_drawn (story : Story) :
    ∃ drawings : List (List Stroke),
      List.Forall₂ (fun root strokes =>
        story.drawTable story.tableNumbers.length root.table [] = some (strokes, []))
        story.grammars drawings ∧
      story.describe = story.counts ++ String.join (List.zipWith (fun root strokes =>
        story.headline root ++ String.join (strokes.map (·.text story))) story.grammars
          drawings) := by
  refine ⟨story.grammars.map fun root => story.strokes [] root.table, ?_, ?_⟩
  · rw [List.forall₂_map_right_iff, List.forall₂_same]
    exact fun root member => drawTable_root member
  · rw [List.zipWith_map_right, List.zipWith_self]
    have grammars : story.grammars.map story.describeGrammar = story.grammars.map fun root =>
        story.headline root ++ String.join ((story.strokes [] root.table).map (·.text story)) :=
      List.map_congr_left fun root _ => story.describeGrammar_eq root
    rw [← grammars]
    rfl

/-- **The drawing of a grammar ends.**  With a list of the tables that are being drawn, the grammar
of a verb is drawn with no more tables entered within each other than numbers of tables occur, and
what is drawn has the text that is shown.  A table is entered on every way to it that comes to no
table twice, and has there a line for each of its entries; an entry that leads back to a table on
the way is followed by one ellipsis, and any other that leads on by the table that it leads to.
After every table the list is what it was, so a table is drawn in the same way below whatever tables
it is come to, as long as of the tables that the drawing comes to the same ones are among them. -/
theorem drawing_ends (story : Story) :
    (∀ root ∈ story.grammars,
      story.drawTable story.tableNumbers.length root.table [] =
        some (story.strokes [] root.table, []) ∧
      String.join ((story.strokes [] root.table).map (·.text story)) =
        story.describeTable [] 2 root.table ∧
      (∀ stroke, stroke ∈ story.strokes [] root.table ↔ story.Drawn [] root.table stroke) ∧
      Flows (story.strokes [] root.table) ∧
      ∀ above table, .enter above table ∈ story.strokes [] root.table →
        table ∉ above ∧ (table :: above).length ≤ story.tableNumbers.length) ∧
    (∀ limit table above strokes left,
      story.drawTable limit table above = some (strokes, left) → left = above) ∧
    ∀ table above above',
      (∀ t, ReflTransGen (story.LeadsDown above) table t → (t ∈ above ↔ t ∈ above')) →
      ∀ depth, story.describeTable above depth table = story.describeTable above' depth table := by
  refine ⟨fun root member => ?_, fun limit table above strokes left drawn =>
    (eq_of_drawTable drawn).2, fun table above above' same depth =>
    describeTable_congr above table above' depth same⟩
  refine ⟨drawTable_root member, text_strokes [] root.table, mem_strokes [] root.table,
    flows_strokes [] root.table, ?_⟩
  intro above table entered
  have way : story.Way [] root.table (table :: above) := (mem_strokes [] root.table _).mp entered
  have nodup := way.nodup .nil
  have within := way.subset_tableNumbers (mem_tableNumbers_of_root member)
  exact ⟨(List.nodup_cons.mp nodup).1, (List.subperm_of_subset nodup within).length_le⟩

/-- A grammar in which two tables lead to a third one, and this one back to the first and to a table
that is not there. -/
def maze : Story where
  grammars := [⟨1, 0⟩]
  tables := [[.word 2 1, .parameter {} 2], [.word 3 2], [.finish 1 [], .word 4 0, .word 5 9]]

/-- The third table is drawn in full twice, with an ellipsis for the first one in both places. -/
theorem drawing_ends_maze :
    (⟨1, 0⟩ : GrammarRoot) ∈ maze.grammars ∧ maze.tableNumbers.length = 4 ∧
    maze.drawTable 4 0 [] = some ([
      .enter [] 0, .entry [0] (.word 2 1),
      .enter [0] 1, .entry [1, 0] (.word 3 2),
      .enter [1, 0] 2, .entry [2, 1, 0] (.finish 1 []), .entry [2, 1, 0] (.word 4 0),
      .ellipsis [2, 1, 0] 0, .entry [2, 1, 0] (.word 5 9), .enter [2, 1, 0] 9,
      .entry [0] (.parameter {} 2),
      .enter [0] 2, .entry [2, 0] (.finish 1 []), .entry [2, 0] (.word 4 0),
      .ellipsis [2, 0] 0, .entry [2, 0] (.word 5 9), .enter [2, 0] 9], []) ∧
    maze.drawTable 4 0 [] = some (maze.strokes [] 0, []) ∧
    String.join ((maze.strokes [] 0).map (·.text maze)) = maze.describeTable [] 2 0 ∧
    (∀ stroke, stroke ∈ maze.strokes [] 0 ↔ maze.Drawn [] 0 stroke) ∧
    Flows (maze.strokes [] 0) ∧
    (.enter [2, 1, 0] 9 ∈ maze.strokes [] 0 ∧ 9 ∉ [2, 1, 0] ∧ [9, 2, 1, 0].length ≤ 4) ∧
    (∀ t, ReflTransGen (maze.LeadsDown [1, 0]) 2 t → (t ∈ [1, 0] ↔ t ∈ [0])) ∧
    ∀ depth, maze.describeTable [1, 0] depth 2 = maze.describeTable [0] depth 2 := by
  have member : (⟨1, 0⟩ : GrammarRoot) ∈ maze.grammars := by decide
  have count : maze.tableNumbers.length = 4 := by decide
  obtain ⟨drawings, -, alike⟩ := drawing_ends maze
  obtain ⟨drawn, text, strokes, flows, deep⟩ := drawings ⟨1, 0⟩ member
  rw [count] at drawn deep
  have there : .enter [2, 1, 0] 9 ∈ maze.strokes [] 0 := by
    obtain ⟨same, -⟩ := Prod.mk.inj (Option.some.inj drawn.symm)
    rw [same]
    decide
  have same : ∀ t, ReflTransGen (maze.LeadsDown [1, 0]) 2 t → (t ∈ [1, 0] ↔ t ∈ [0]) := by
    intro t reached
    have place : t = 2 ∨ t = 0 ∨ t = 9 := by
      induction reached with
      | refl => exact .inl rfl
      | tail _ leads ih =>
        obtain ⟨outside, element, member, next⟩ := leads
        rcases ih with rfl | rfl | rfl
        · simp only [maze, elements, List.getElem?_cons_succ, List.getElem?_cons_zero,
            Option.getD_some, List.mem_cons, List.not_mem_nil, or_false] at member
          rcases member with rfl | rfl | rfl
          · cases next
          · cases next
            exact .inr (.inl rfl)
          · cases next
            exact .inr (.inr rfl)
        · exact absurd (by decide) outside
        · exact absurd member List.not_mem_nil
    rcases place with rfl | rfl | rfl <;> decide
  exact ⟨member, count, by decide, drawn, text, strokes, flows, ⟨there, deep _ _ there⟩, same,
    alike 2 [1, 0] [0] same⟩

end Story

end TextAdventure
