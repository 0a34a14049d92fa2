import TextAdventure.Story.Decoding
import TextAdventure.Unvisited
/-!
# Stories from images: the grammar graph

An element table is found at most once, when an edge first leads to its address, and is numbered by
the order in which tables are found.  Two edges therefore share a number exactly if they share an
address, and circles and shared tables of the image stay what they are.  Tables that have been found
wait on a stack to be read.
-/

namespace TextAdventure

/-- The element tables that have been found. -/
structure GrammarSurvey where
  /-- Their addresses; the number of a table is the place of its address. -/
  found : List Nat := []
  /-- The addresses that still have to be read, the next one first. -/
  waiting : List Nat := []
  /-- The tables that have been read, with their addresses. -/
  done : List (Nat × List Element) := []

namespace GrammarSurvey

/-- The number of the table at an address, which is found now if it has not been before. -/
def reach (survey : GrammarSurvey) (address : Nat) : Nat × GrammarSurvey :=
  match survey.found.idxOf? address with
  | some index => (index, survey)
  | none =>
    (survey.found.length,
      { survey with found := survey.found ++ [address], waiting := address :: survey.waiting })

/-- The addresses that have been read. -/
def readAddresses (survey : GrammarSurvey) : List Nat := survey.done.map (·.1)

/-- The tables in the order of their numbers. -/
def tables (survey : GrammarSurvey) : List (List Element) :=
  survey.found.map fun address => (survey.done.lookup address).getD []

end GrammarSurvey

namespace Image

/-- Marks the row of an element table that closes a command form. -/
def formMarker : UInt32 := 0xFFFFFFFE

/-- An entry of an element table: a first word of 0 is a parameter and one of `formMarker` the end
of a form; any other is the code of a word. -/
def element (image : Image) (survey : GrammarSurvey) (row : Vector UInt32 3) :
    Except LoadError (Element × GrammarSurvey) :=
  let (code, detail, address) := tripleOf row
  if code = 0 then
    let (next, survey) := survey.reach address.toNat
    .ok (.parameter (SlotFlags.ofBits detail.toNat) next, survey)
  else if code = formMarker then do
    let restrictions ← image.restrictions address.toNat
    return (.finish detail.toNat restrictions, survey)
  else
    let (next, survey) := survey.reach address.toNat
    .ok (.word code.toNat next, survey)

/-- The entries of an element table in order. -/
def elementRows (image : Image) (survey : GrammarSurvey) :
    List (Vector UInt32 3) → Except LoadError (List Element × GrammarSurvey)
  | [] => .ok ([], survey)
  | row :: rows => do
    let (entry, survey) ← image.element survey row
    let (entries, survey) ← image.elementRows survey rows
    return (entry :: entries, survey)

/-- A table that can be read lies inside the image, or is the empty one at 0. -/
theorem address_lt_of_table {image : Image} {address width : Nat} {name : String}
    {rows : List (Vector UInt32 width)} (read : image.table address width name = .ok rows) :
    address < image.size + 1 := by
  unfold table at read
  split at read
  · omega
  · unfold rowsFrom at read
    split at read
    · next inside => exact Nat.lt_succ_of_lt inside
    · cases read

/-- Reads the waiting tables and all that are found on the way. -/
def readWaiting (image : Image) (survey : GrammarSurvey) : Except LoadError GrammarSurvey :=
  match _ : survey.waiting with
  | [] => .ok survey
  | address :: waiting =>
    if _ : survey.readAddresses.contains address then
      image.readWaiting { survey with waiting }
    else
      match _ : image.table address 3 "elements" with
      | .error fault => .error fault
      | .ok rows =>
        match image.elementRows { survey with waiting } rows with
        | .error fault => .error fault
        | .ok (entries, later) =>
          image.readWaiting { later with done := (address, entries) :: survey.done }
termination_by (unvisited (image.size + 1) survey.readAddresses, survey.waiting.length)
decreasing_by
  · -- a table that has been read before only leaves the stack
    simp only [GrammarSurvey.readAddresses]
    rw [‹survey.waiting = address :: waiting›]
    exact Prod.Lex.right _ (Nat.lt_succ_self _)
  · -- a table that is read now is one fewer of those inside the image
    exact Prod.Lex.left _ _ (unvisited_cons_lt (address_lt_of_table ‹_›) ‹_›)

/-- The number of the element table at an address, after reading it and all that it leads to. -/
def grammarTable (image : Image) (survey : GrammarSurvey) (address : Nat) :
    Except LoadError (Nat × GrammarSurvey) := do
  let (index, survey) := survey.reach address
  return (index, ← image.readWaiting survey)

/-- The grammars of all verbs in the rows of their table. -/
def grammarRows (image : Image) (survey : GrammarSurvey) :
    List (Vector UInt32 2) → Except LoadError (List GrammarRoot × GrammarSurvey)
  | [] => .ok ([], survey)
  | row :: rows => do
    let (verb, address) := pairOf row
    let (table, survey) ← image.grammarTable survey address.toNat
    let (roots, survey) ← image.grammarRows survey rows
    return (⟨verb.toNat, table⟩ :: roots, survey)

/-- The grammars of all verbs. -/
def grammars (image : Image) (address : Nat) :
    Except LoadError (List GrammarRoot × List (List Element)) := do
  let rows ← image.table address 2 "syntaxes"
  let (roots, survey) ← image.grammarRows {} rows
  return (roots, survey.tables)

/-- The story in an image. -/
def story (image : Image) (header : Header) : Except LoadError Story := do
  let classes ← records image.storyClass 4 header.classTable header.classMax
  let instances ← records image.storyInstance 8 header.instanceTable header.instanceMax
  let dictionary ← image.dictionary header.dictionary
  let (grammars, tables) ← image.grammars header.grammarTable
  let parameterMaps ← image.parameterMaps header.parameterMapTable
  let globalVerbs ← image.verbs header.verbTable
  return {
    predefined := header.predefined
    hero := header.hero
    opaqueAttribute := header.opaqueAttribute
    classes, instances, dictionary, grammars, tables, parameterMaps, globalVerbs
    code := image.words.toList }

end Image

/-- The story in the bytes of a story file. -/
def Story.ofBytes (bytes : List UInt8) : Except LoadError Story := do
  let image ← Image.ofBytes bytes
  let header ← Header.ofImage image
  image.story header

end TextAdventure
