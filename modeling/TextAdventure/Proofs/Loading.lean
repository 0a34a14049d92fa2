import TextAdventure.Proofs.GrammarDecoding
/-!
# Loading without a false step

A loader that numbers the element tables as it finds them keeps a place for every table, empty at
first, and fills the place when it reads the table.  It could break: a place that it looks for or
fills might not be there, and the tables that wait might never come to an end.  Here every access is
checked and the steps are counted, and still no byte sequence makes the loader break; it ends as a
survey of the grammar does (`story_loads`).
-/

namespace TextAdventure

/-! ## Loads -/

/-- A load ends with a value or with a fault of the image, unless it breaks. -/
abbrev Load (α : Type) : Type := ExceptT LoadError Option α

namespace Load

variable {α β : Type}

/-- An access to something that is not there, or a step too many. -/
def broken : Load α := ExceptT.mk none

/-- A load that has not broken. -/
def whole (result : Except LoadError α) : Load α := ExceptT.mk (some result)

theorem whole_ok_bind (value : α) (next : α → Load β) :
    whole (.ok value) >>= next = next value := rfl

/-- Loads that do not break do not break one after the other. -/
theorem whole_bind (result : Except LoadError α) (next : α → Except LoadError β) :
    (whole result >>= fun value => whole (next value)) = whole (result >>= next) := by
  cases result with
  | error => rfl
  | ok => rfl

end Load

/-! ## The loader -/

/-- The element tables as they are loaded. -/
structure GrammarLoader where
  /-- The index of the table at each address that has been found, in the order of finding. -/
  places : List (Nat × Nat) := []
  /-- The tables; one that has not been read is empty. -/
  tables : List (List Element) := []
  /-- The addresses that still have to be read, the next one first. -/
  pending : List Nat := []
  /-- The addresses that have been read, the last one first. -/
  read : List Nat := []

namespace GrammarLoader

/-- A new place, for the table at an address. -/
def reserve (loader : GrammarLoader) (address : Nat) : Nat × GrammarLoader :=
  (loader.tables.length,
    { loader with
      places := loader.places ++ [(address, loader.tables.length)]
      tables := loader.tables ++ [[]] })

/-- The index of the table at an address, which has to be read if it is new. -/
def tableIndex (loader : GrammarLoader) (address : Nat) : Nat × GrammarLoader :=
  match loader.places.lookup address with
  | some index => (index, loader)
  | none =>
    let reserved := loader.reserve address
    (reserved.1, { reserved.2 with pending := address :: loader.pending })

/-- Puts the table at an address into its place. -/
def fill (loader : GrammarLoader) (address : Nat) (entries : List Element) : Load GrammarLoader :=
  match loader.places.lookup address with
  | none => .broken
  | some index =>
    if index < loader.tables.length then
      pure { loader with
        tables := loader.tables.set index entries
        read := address :: loader.read }
    else .broken

end GrammarLoader

namespace Image

/-- The element in a row of an element table. -/
def loadElement (image : Image) (loader : GrammarLoader) (row : Vector UInt32 3) :
    Except LoadError (Element × GrammarLoader) :=
  let (code, detail, address) := tripleOf row
  if code = 0 then
    let (next, loader) := loader.tableIndex address.toNat
    .ok (.parameter (SlotFlags.ofBits detail.toNat) next, loader)
  else if code = formMarker then do
    let restrictions ← image.restrictions address.toNat
    return (.finish detail.toNat restrictions, loader)
  else
    let (next, loader) := loader.tableIndex address.toNat
    .ok (.word code.toNat next, loader)

/-- The elements of an element table in order. -/
def loadRows (image : Image) (loader : GrammarLoader) :
    List (Vector UInt32 3) → Except LoadError (List Element × GrammarLoader)
  | [] => .ok ([], loader)
  | row :: rows => do
    let (entry, loader) ← image.loadElement loader row
    let (entries, loader) ← image.loadRows loader rows
    return (entry :: entries, loader)

/-- Reads tables until none is pending, in a number of steps at most. -/
def loadPending (image : Image) : Nat → GrammarLoader → Load GrammarLoader
  | 0, _ => .broken
  | steps + 1, loader =>
    match loader.pending with
    | [] => pure loader
    | address :: pending => do
      let rows ← Load.whole (image.table address 3 "elements")
      let (entries, loader) ← Load.whole (image.loadRows { loader with pending } rows)
      let loader ← loader.fill address entries
      image.loadPending steps loader

/-- The index of the table at an address, after reading it and all that it leads to.  No more tables
than there are words, and the empty one at 0, can be read before the image turns out to be at
fault. -/
def loadTable (image : Image) (loader : GrammarLoader) (address : Nat) :
    Load (Nat × GrammarLoader) :=
  match loader.places.lookup address with
  | some index => pure (index, loader)
  | none => do
    let reserved := loader.reserve address
    let loader ← image.loadPending (image.size + 2) { reserved.2 with pending := [address] }
    return (reserved.1, loader)

/-- The grammars of all verbs in the rows of their table. -/
def loadSyntaxes (image : Image) (loader : GrammarLoader) :
    List (Vector UInt32 2) → Load (List GrammarRoot × GrammarLoader)
  | [] => pure ([], loader)
  | row :: rows => do
    let (verb, address) := pairOf row
    let (table, loader) ← image.loadTable loader address.toNat
    let (roots, loader) ← image.loadSyntaxes loader rows
    return (⟨verb.toNat, table⟩ :: roots, loader)

/-- The grammars of all verbs. -/
def loadGrammars (image : Image) (address : Nat) :
    Load (List GrammarRoot × List (List Element)) := do
  let rows ← Load.whole (image.table address 2 "syntaxes")
  let (roots, loader) ← image.loadSyntaxes {} rows
  return (roots, loader.tables)

/-- The image in a story file, of which the first four bytes are looked at. -/
def load (bytes : List UInt8) : Load Image :=
  if bytes.length < headerSize * 4 then .whole (.error (.truncated (headerSize * 4) bytes.length))
  else if 4 ≤ bytes.length then
    if bytes.take 4 ≠ tag then .whole (.error (.badTag (Text.Utf8.decodeLossy (bytes.take 4))))
    else pure ⟨(wordsOfBytes bytes).toArray⟩
  else .broken

/-- The story in an image. -/
def loadStory (image : Image) (header : Header) : Load Story := do
  let classes ← Load.whole (records image.storyClass 4 header.classTable header.classMax)
  let instances ← Load.whole (records image.storyInstance 8 header.instanceTable header.instanceMax)
  let dictionary ← Load.whole (image.dictionary header.dictionary)
  let (grammars, tables) ← image.loadGrammars header.grammarTable
  let parameterMaps ← Load.whole (image.parameterMaps header.parameterMapTable)
  let globalVerbs ← Load.whole (image.verbs header.verbTable)
  return {
    predefined := header.predefined
    hero := header.hero
    opaqueAttribute := header.opaqueAttribute
    classes, instances, dictionary, grammars, tables, parameterMaps, globalVerbs
    code := image.words.toList }

end Image

/-- The story in the bytes of a story file. -/
def Story.load (bytes : List UInt8) : Load Story := do
  let image ← Image.load bytes
  let header ← Load.whole (Header.ofImage image)
  image.loadStory header

/-! ## The loader and the survey -/

namespace GrammarSurvey

/-- The loader that has come as far as a survey. -/
def toLoader (survey : GrammarSurvey) : GrammarLoader where
  places := survey.found.zipIdx
  tables := survey.tables
  pending := survey.waiting
  read := survey.readAddresses

theorem lookup_places (survey : GrammarSurvey) (address : Nat) :
    survey.toLoader.places.lookup address = survey.found.idxOf? address := by
  unfold toLoader
  rw [lookup_zipIdx]
  simp

theorem length_tables (survey : GrammarSurvey) : survey.tables.length = survey.found.length :=
  List.length_map _

/-- The place of a table that has not been read is empty. -/
theorem tables_of_found_concat {survey : GrammarSurvey} {address : Nat} {waiting : List Nat}
    (unread : address ∉ survey.readAddresses) :
    GrammarSurvey.tables { survey with found := survey.found ++ [address], waiting } =
      survey.tables ++ [[]] := by
  have none : survey.done.lookup address = none := by
    rw [List.lookup_eq_none_iff]
    intro entry member
    rw [bne_iff_ne]
    rintro rfl
    exact unread (List.mem_map_of_mem member)
  show (survey.found ++ [address]).map _ = _
  rw [List.map_append, List.map_singleton, none]
  rfl

/-- Nothing has been read that has not been found. -/
def ReadsFound (survey : GrammarSurvey) : Prop := ∀ a ∈ survey.readAddresses, a ∈ survey.found

theorem Tidy.readsFound {survey : GrammarSurvey} (tidy : survey.Tidy) : survey.ReadsFound := by
  intro a read
  exact tidy.split.symm.subset (List.mem_append_right _ read)

theorem ReadsFound.of_extends {survey later : GrammarSurvey} {new : List Nat}
    (within : survey.ReadsFound) (grows : survey.Extends later new) : later.ReadsFound := by
  intro a read
  rw [readAddresses, grows.done] at read
  exact grows.grown.subset (within a read)

/-- A table is reserved where a survey finds it. -/
theorem reserve_eq {survey : GrammarSurvey} (within : survey.ReadsFound) {address : Nat}
    (place : survey.found.idxOf? address = none) :
    let reserved := survey.toLoader.reserve address
    (reserved.1, { reserved.2 with pending := address :: survey.waiting }) =
      ((survey.reach address).1, (survey.reach address).2.toLoader) := by
  have missing := List.idxOf?_eq_none_iff.mp place
  have unread : address ∉ survey.readAddresses := fun read => missing (within address read)
  unfold reach GrammarLoader.reserve toLoader
  rw [place]
  simp only [tables_of_found_concat unread, length_tables, List.zipIdx_append,
    List.zipIdx_singleton, Nat.zero_add]
  rfl

theorem tableIndex_eq {survey : GrammarSurvey} (within : survey.ReadsFound) (address : Nat) :
    survey.toLoader.tableIndex address =
      ((survey.reach address).1, (survey.reach address).2.toLoader) := by
  unfold GrammarLoader.tableIndex
  rw [lookup_places]
  cases place : survey.found.idxOf? address with
  | some index =>
    unfold reach
    rw [place]
  | none => exact reserve_eq within place

/-- The place that is filled is the one of the table that has been read. -/
theorem fill_eq {later : GrammarSurvey} {address : Nat} (nodup : later.found.Nodup)
    (found : address ∈ later.found) (entries : List Element) :
    later.toLoader.fill address entries = pure (later.finish address entries).toLoader := by
  have place : later.found.idxOf? address = some (later.found.idxOf address) := by
    cases place : later.found.idxOf? address with
    | none => exact absurd found (List.idxOf?_eq_none_iff.mp place)
    | some index =>
      rw [List.idxOf_eq_getD_idxOf?, place]
      rfl
  have inRange := List.idxOf_lt_length_iff.mpr found
  unfold GrammarLoader.fill
  rw [lookup_places, place]
  dsimp only
  rw [if_pos (by rw [toLoader, length_tables]; exact inRange)]
  have filled : later.tables.set (later.found.idxOf address) entries =
      (later.finish address entries).tables := by
    apply List.ext_getElem?
    intro index
    unfold tables finish
    rw [List.getElem?_map]
    by_cases here : later.found.idxOf address = index
    · subst here
      rw [List.getElem?_set_self (by rw [List.length_map]; exact inRange),
        List.getElem?_idxOf found, Option.map_some, List.lookup_cons, beq_self_eq_true]
      rfl
    · rw [List.getElem?_set_ne here, List.getElem?_map]
      cases there : later.found[index]? with
      | none => rfl
      | some other =>
        have apart : (other == address) = false := by
          rw [beq_eq_false_iff_ne]
          rintro rfl
          obtain ⟨inRange', isOther⟩ := List.getElem?_eq_some_iff.mp there
          exact here (isOther ▸ nodup.idxOf_getElem index inRange')
        rw [Option.map_some, Option.map_some, List.lookup_cons, apart]
  unfold toLoader
  rw [filled]
  rfl

end GrammarSurvey

namespace Image

variable {image : Image} {survey : GrammarSurvey}

theorem loadElement_eq (within : survey.ReadsFound) (row : Vector UInt32 3) :
    image.loadElement survey.toLoader row =
      (fun result => (result.1, result.2.toLoader)) <$> image.element survey row := by
  unfold loadElement element
  simp only [GrammarSurvey.tableIndex_eq within]
  by_cases parameter : (tripleOf row).1 = 0
  · rw [if_pos parameter, if_pos parameter]
    rfl
  · rw [if_neg parameter, if_neg parameter]
    by_cases closes : (tripleOf row).1 = formMarker
    · rw [if_pos closes, if_pos closes]
      cases image.restrictions (tripleOf row).2.2.toNat <;> rfl
    · rw [if_neg closes, if_neg closes]
      rfl

theorem loadRows_eq (within : survey.ReadsFound) (rows : List (Vector UInt32 3)) :
    image.loadRows survey.toLoader rows =
      (fun result => (result.1, result.2.toLoader)) <$> image.elementRows survey rows := by
  induction rows generalizing survey with
  | nil => rfl
  | cons row rows ih =>
    unfold loadRows elementRows
    rw [loadElement_eq within]
    cases first : image.element survey row with
    | error fault => rfl
    | ok result =>
      obtain ⟨entry, mid⟩ := result
      obtain ⟨new, grows, -, -, -⟩ := element_extends first
      simp only [bind, Except.bind, Functor.map, Except.map, ih (within.of_extends grows)]
      cases image.elementRows mid rows <;> rfl

theorem readWaiting_of_none (none : survey.waiting = []) :
    image.readWaiting survey = .ok survey := by
  rw [readWaiting.eq_def]
  split
  · rfl
  · next next =>
    rw [none] at next
    cases next

theorem readWaiting_of_next {address : Nat} {waiting : List Nat}
    (next : survey.waiting = address :: waiting) (unread : address ∉ survey.readAddresses) :
    image.readWaiting survey =
      (image.table address 3 "elements" >>= fun rows =>
        image.elementRows { survey with waiting } rows >>= fun result =>
          image.readWaiting { result.2 with done := (address, result.1) :: survey.done }) := by
  rw [readWaiting.eq_def]
  split
  · next none =>
    rw [none] at next
    cases next
  · next same =>
    rw [next] at same
    cases same
    rw [dif_neg (by rw [List.contains_iff_mem]; exact unread)]
    split
    · next there =>
      rw [there]
      rfl
    · next rows there =>
      rw [there]
      show _ = image.elementRows { survey with waiting } rows >>= _
      cases image.elementRows { survey with waiting } rows <;> rfl

/-- Whatever is pending is read in fewer steps than there are tables to read. -/
theorem loadPending_eq (tidy : survey.Tidy) {steps : Nat}
    (enough : unvisited (image.size + 1) survey.readAddresses < steps) :
    image.loadPending steps survey.toLoader =
      .whole (GrammarSurvey.toLoader <$> image.readWaiting survey) := by
  induction steps generalizing survey with
  | zero => exact absurd enough (Nat.not_lt_zero _)
  | succ steps ih =>
    unfold loadPending
    cases next : survey.waiting with
    | nil =>
      rw [show survey.toLoader.pending = [] from next, readWaiting_of_none next]
      rfl
    | cons address waiting =>
      have unread := tidy.unread next
      rw [show survey.toLoader.pending = address :: waiting from next,
        readWaiting_of_next next unread]
      dsimp only
      cases there : image.table address 3 "elements" with
      | error fault => rfl
      | ok rows =>
        have within : GrammarSurvey.ReadsFound { survey with waiting } := tidy.readsFound
        rw [Load.whole_ok_bind, show { survey.toLoader with pending := waiting } =
          GrammarSurvey.toLoader { survey with waiting } from rfl, loadRows_eq within]
        show _ = Load.whole (GrammarSurvey.toLoader <$>
          (image.elementRows { survey with waiting } rows >>= _))
        cases read : image.elementRows { survey with waiting } rows with
        | error fault => rfl
        | ok result =>
          obtain ⟨entries, later⟩ := result
          obtain ⟨new, grows, -, -, -⟩ := elementRows_extends read
          have found : address ∈ later.found := by
            apply grows.grown.subset
            apply tidy.split.symm.subset
            rw [next]
            exact List.mem_cons_self ..
          have finished : later.finish address entries =
              { later with done := (address, entries) :: survey.done } := by
            rw [GrammarSurvey.finish, grows.done]
          -- one table fewer is left to read
          have fewer : unvisited (image.size + 1)
              (later.finish address entries).readAddresses < steps := by
            have fewer := unvisited_cons_lt (address_lt_of_table there) (by
              rw [List.contains_iff_mem]
              exact unread)
            rw [finished]
            exact Nat.lt_of_lt_of_le fewer (Nat.lt_succ_iff.mp enough)
          have rest := ih (tidy.finish next grows entries) fewer
          show (later.toLoader.fill address entries >>= fun loader =>
            image.loadPending steps loader) = _
          rw [GrammarSurvey.fill_eq (grows.nodup_found tidy.nodup) found, pure_bind, rest,
            finished]
          rfl

theorem unvisited_le (bound : Nat) (visited : List Nat) : unvisited bound visited ≤ bound := by
  have few := List.length_filter_le (fun node => !visited.contains node) (List.range bound)
  rw [List.length_range] at few
  exact few

theorem loadTable_eq (tidy : survey.Tidy) (none : survey.waiting = []) (address : Nat) :
    image.loadTable survey.toLoader address =
      .whole ((fun result => (result.1, result.2.toLoader)) <$>
        image.grammarTable survey address) := by
  unfold loadTable grammarTable
  rw [GrammarSurvey.lookup_places]
  cases place : survey.found.idxOf? address with
  | some number =>
    -- a table that has been found has been read, with all that it leads to
    have same : survey.reach address = (number, survey) := by
      unfold GrammarSurvey.reach
      rw [place]
    rw [same]
    dsimp only
    rw [readWaiting_of_none none]
    rfl
  | none =>
    obtain ⟨new, grows, -, -, -⟩ := survey.reach_extends address
    have enough : unvisited (image.size + 1) (survey.reach address).2.readAddresses <
        image.size + 2 := Nat.lt_succ_of_le (unvisited_le _ _)
    obtain ⟨index, reserved⟩ := Prod.mk.inj (GrammarSurvey.reserve_eq tidy.readsFound place)
    rw [none] at reserved
    dsimp only
    rw [reserved, index, loadPending_eq (tidy.of_extends grows) enough]
    show _ = Load.whole (_ <$> (image.readWaiting (survey.reach address).2 >>= _))
    cases image.readWaiting (survey.reach address).2 <;> rfl

theorem loadSyntaxes_eq {syntaxes rows : List (Vector UInt32 2)} (within : rows ⊆ syntaxes)
    (tidy : survey.Tidy) (faithful : survey.Faithful image syntaxes)
    (none : survey.waiting = []) :
    image.loadSyntaxes survey.toLoader rows =
      .whole ((fun result => (result.1, result.2.toLoader)) <$>
        image.grammarRows survey rows) := by
  induction rows generalizing survey with
  | nil => rfl
  | cons row rows ih =>
    obtain ⟨member, within'⟩ := List.cons_subset.mp within
    unfold loadSyntaxes grammarRows
    dsimp only
    rw [loadTable_eq tidy none]
    cases first : image.grammarTable survey (pairOf row).2.toNat with
    | error fault => rfl
    | ok result =>
      obtain ⟨index, mid⟩ := result
      obtain ⟨tidy', faithful', none', -, -, -⟩ :=
        grammarTable_eq_ok tidy faithful (.root member) first
      show (image.loadSyntaxes mid.toLoader rows >>= _) =
        Load.whole (_ <$> (image.grammarRows mid rows >>= _))
      rw [ih within' tidy' faithful' none']
      cases image.grammarRows mid rows <;> rfl

/-- The loader reads the rows of the syntax table as a survey does. -/
theorem loadSyntaxes_empty (image : Image) (rows : List (Vector UInt32 2)) :
    image.loadSyntaxes {} rows =
      .whole ((fun result => (result.1, result.2.toLoader)) <$> image.grammarRows {} rows) :=
  loadSyntaxes_eq (List.Subset.refl _) GrammarSurvey.tidy_empty
    (GrammarSurvey.faithful_empty image rows) rfl

theorem loadGrammars_eq (image : Image) (address : Nat) :
    image.loadGrammars address = .whole (image.grammars address) := by
  unfold loadGrammars grammars
  cases image.table address 2 "syntaxes" with
  | error fault => rfl
  | ok rows =>
    show (image.loadSyntaxes {} rows >>= _) = Load.whole (image.grammarRows {} rows >>= _)
    rw [loadSyntaxes_empty]
    cases image.grammarRows {} rows <;> rfl

/-- An image that is long enough for a header has a tag. -/
theorem load_eq (bytes : List UInt8) : load bytes = .whole (ofBytes bytes) := by
  unfold load ofBytes
  split
  · rfl
  · next long =>
    have tagged : 4 ≤ bytes.length := by
      simp only [headerSize] at long
      omega
    rw [if_pos tagged]
    split <;> rfl

theorem loadStory_eq (image : Image) (header : Header) :
    image.loadStory header = .whole (image.story header) := by
  unfold loadStory story
  rw [loadGrammars_eq]
  simp only [← Load.whole_bind, pure, Except.pure]
  rfl

end Image

/-- The loader never breaks. -/
theorem Story.load_eq (bytes : List UInt8) : Story.load bytes = .whole (Story.ofBytes bytes) := by
  unfold Story.load Story.ofBytes
  rw [Image.load_eq]
  simp only [Image.loadStory_eq, ← Load.whole_bind]

/-- A story that can be loaded has the grammar that its image has. -/
theorem Story.grammars_of_ofBytes {bytes : List UInt8} {story : Story}
    (loaded : Story.ofBytes bytes = .ok story) :
    ∃ image header, Image.ofBytes bytes = .ok image ∧ Header.ofImage image = .ok header ∧
      image.grammars header.grammarTable = .ok (story.grammars, story.tables) := by
  obtain ⟨image, isImage, loaded⟩ := ok_of_bind loaded
  obtain ⟨header, isHeader, loaded⟩ := ok_of_bind loaded
  obtain ⟨classes, -, loaded⟩ := ok_of_bind loaded
  obtain ⟨instances, -, loaded⟩ := ok_of_bind loaded
  obtain ⟨dictionary, -, loaded⟩ := ok_of_bind loaded
  obtain ⟨⟨grammars, tables⟩, isGrammar, loaded⟩ := ok_of_bind loaded
  obtain ⟨parameterMaps, -, loaded⟩ := ok_of_bind loaded
  obtain ⟨globalVerbs, -, loaded⟩ := ok_of_bind loaded
  cases loaded
  exact ⟨image, header, isImage, isHeader, isGrammar⟩

/-- **A story loads without a false step, and its grammar is the one in the image.**  Whatever the
bytes are, the loader ends, with a story or a fault, without an access to anything that is not
there.  If it ends with a story, there is one number for every address of an element table that can
be reached from the syntax table, and the table with this number says row by row what the image says
there, with numbers for the addresses that the rows lead to.  So no element leads on to a table that
is not there, no table is empty unless the one in the image is, and each has been read once. -/
theorem story_loads (bytes : List UInt8) :
    Story.load bytes = .whole (Story.ofBytes bytes) ∧
    ∀ story, Story.ofBytes bytes = .ok story → ∃ image header rows number loader,
      Image.ofBytes bytes = .ok image ∧ Header.ofImage image = .ok header ∧
      image.table header.grammarTable 2 "syntaxes" = .ok rows ∧
      image.GraphOf rows number story.grammars story.tables ∧
      (∀ entries ∈ story.tables, ∀ entry ∈ entries, ∀ next, entry.next? = some next →
        next < story.tables.length) ∧
      (∀ a, image.Reached rows a → story.tables[number a]? = some [] →
        image.table a 3 "elements" = .ok []) ∧
      image.loadSyntaxes {} rows = .whole (.ok (story.grammars, loader)) ∧
      loader.tables = story.tables ∧ loader.read.Nodup ∧
      ∀ a, a ∈ loader.read ↔ image.Reached rows a := by
  refine ⟨Story.load_eq bytes, fun story loaded => ?_⟩
  obtain ⟨image, header, isImage, isHeader, isGrammar⟩ := Story.grammars_of_ofBytes loaded
  obtain ⟨rows, there, isGrammar⟩ := ok_of_bind isGrammar
  obtain ⟨⟨roots, survey⟩, read, same⟩ := ok_of_bind isGrammar
  obtain ⟨isRoots, isTables⟩ := Prod.mk.inj (Except.ok.inj same)
  obtain ⟨graph, once, all⟩ := Image.grammarRows_graph read
  rw [isRoots, isTables] at graph
  refine ⟨image, header, rows, survey.number, survey.toLoader, isImage, isHeader, there, graph,
    ?_, fun a reached empty => graph.empty_of_empty reached empty, ?_, isTables, once, all⟩
  · intro entries table entry member next leads
    exact graph.next_lt table member leads
  · rw [Image.loadSyntaxes_empty, read, ← isRoots]
    rfl

/-- A story file without anything but a grammar, in which two tables lead to each other: one verb
begins with the first of them, another with the second one. -/
def Story.roundaboutFile : List UInt8 :=
  Image.bytesOfWords
    [0x414C414E, 0, 37, 0, 0, 0, 0, 0, 0, 0, 0, 0, 0, 0, 0, 0, 0, 21, 0, 0, 0,
      1, 26, 2, 30, Image.endMarker,
      0, 0, 30, Image.endMarker,
      7, 0, 26, Image.formMarker, 5, 0, Image.endMarker]

/-- The tables at 26 and 30 get the numbers 0 and 1. -/
theorem story_loads_roundabout :
    ∃ story, Story.ofBytes Story.roundaboutFile = .ok story ∧
      story.grammars = [⟨1, 0⟩, ⟨2, 1⟩] ∧
      story.tables = [[.parameter {} 1], [.word 7 0, .finish 5 []]] ∧
      ∃ image header rows number loader,
        Image.ofBytes Story.roundaboutFile = .ok image ∧ Header.ofImage image = .ok header ∧
        image.table header.grammarTable 2 "syntaxes" = .ok rows ∧
        image.GraphOf rows number story.grammars story.tables ∧
        (∀ entries ∈ story.tables, ∀ entry ∈ entries, ∀ next, entry.next? = some next →
          next < story.tables.length) ∧
        (∀ a, image.Reached rows a → story.tables[number a]? = some [] →
          image.table a 3 "elements" = .ok []) ∧
        image.loadSyntaxes {} rows = .whole (.ok (story.grammars, loader)) ∧
        loader.tables = story.tables ∧ loader.read.Nodup ∧
        ∀ a, a ∈ loader.read ↔ image.Reached rows a := by
  let story : Story :=
    { grammars := [⟨1, 0⟩, ⟨2, 1⟩]
      tables := [[.parameter {} 1], [.word 7 0, .finish 5 []]]
      code := Image.wordsOfBytes Story.roundaboutFile }
  have ran : (Story.load Story.roundaboutFile).run = some (.ok story) := by decide +kernel
  have loaded : Story.ofBytes Story.roundaboutFile = .ok story := by
    rw [Story.load_eq] at ran
    exact Option.some_inj.mp ran
  exact ⟨_, loaded, rfl, rfl, (story_loads Story.roundaboutFile).2 _ loaded⟩

end TextAdventure
