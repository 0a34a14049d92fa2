import TextAdventure.Story.Basic
/-!
# Stories from images: tables of records

How the tables of an image are read, the grammar apart.  Reading stops at the first thing that is
wrong; the order of the reads decides which of several faults is reported.
-/

namespace TextAdventure

/-- An address or number that 0 stands for the absence of. -/
def optionalNumber (word : UInt32) : Option Nat :=
  if word = 0 then none else some word.toNat

/-- A word as a number with a sign. -/
def signedNumber (word : UInt32) : Int := Int.bmod word.toNat 0x100000000

/-- The words of a row of two. -/
def pairOf (row : Vector UInt32 2) : UInt32 × UInt32 := (row[0], row[1])

/-- The words of a row of three. -/
def tripleOf (row : Vector UInt32 3) : UInt32 × UInt32 × UInt32 := (row[0], row[1], row[2])

namespace Image

/-- A list of conditions. -/
def checks (image : Image) (address : Nat) : Except LoadError (List Check) := do
  let rows ← image.table address 2 "checks"
  return rows.map fun row => ⟨optionalNumber row[0], optionalNumber row[1]⟩

/-- The body of a verb in a row of its table. -/
def verbBody (image : Image) (row : Vector UInt32 4) : Except LoadError VerbBody := do
  let qualifier ← Qualifier.ofWord row[1]
  let checks ← image.checks row[2].toNat
  return { parameter := row[0].toNat, qualifier, checks, action := optionalNumber row[3] }

/-- A verb in a row of a verb table. -/
def verb (image : Image) (row : Vector UInt32 2) : Except LoadError Verb := do
  let rows ← image.table row[1].toNat 4 "alternatives"
  return { code := row[0].toNat, bodies := ← rows.mapM image.verbBody }

/-- A verb table. -/
def verbs (image : Image) (address : Nat) : Except LoadError (List Verb) := do
  (← image.table address 2 "verbs").mapM image.verb

/-- An exit in a row of its table. -/
def exit (image : Image) (row : Vector UInt32 4) : Except LoadError Exit := do
  return {
    direction := row[0].toNat
    checks := ← image.checks row[1].toNat
    action := optionalNumber row[2]
    target := row[3].toNat }

/-- The exits of an instance. -/
def exits (image : Image) (address : Nat) : Except LoadError (List Exit) := do
  (← image.table address 4 "exits").mapM image.exit

/-- The attributes of an instance. -/
def attributes (image : Image) (address : Nat) : Except LoadError Attributes := do
  let rows ← image.table address 2 "attributes"
  return rows.foldl (fun table row => put row[0].toNat (signedNumber row[1]) table) []

/-- A class record. -/
def storyClass (image : Image) (address : Nat) : Except LoadError StoryClass := do
  let row ← image.record address 4
  return {
    code := row[0].toNat
    name := ← image.text row[1].toNat
    parent := row[2].toNat
    verbs := ← image.verbs row[3].toNat }

/-- An instance record. -/
def storyInstance (image : Image) (address : Nat) : Except LoadError StoryInstance := do
  let row ← image.record address 8
  let attributes ← image.attributes row[5].toNat
  return {
    code := row[0].toNat
    name := ← image.text row[1].toNat
    parent := row[2].toNat
    location := row[3].toNat
    container := row[4].toNat
    attributes
    verbs := ← image.verbs row[6].toNat
    exits := ← image.exits row[7].toNat }

/-- `count` records of one width that follow each other. -/
def records {α : Type} (read : Nat → Except LoadError α) (width : Nat) :
    Nat → Nat → Except LoadError (List α)
  | _, 0 => .ok []
  | address, count + 1 => do
    let entry ← read address
    let rest ← records read width (address + width) count
    return entry :: rest

/-- A list of instances. -/
def references (image : Image) (address : Nat) : Except LoadError (List InstanceId) := do
  return (← image.table address 1 "references").map fun row => row[0].toNat

/-- A word in a row of the dictionary. -/
def dictionaryEntry (image : Image) (row : Vector UInt32 6) : Except LoadError DictionaryEntry := do
  return {
    word := ← image.text row[0].toNat
    code := row[1].toNat
    classes := ⟨row[2]⟩
    adjectiveOf := ← image.references row[3].toNat
    nounOf := ← image.references row[4].toNat
    pronounFor := ← image.references row[5].toNat }

/-- The dictionary. -/
def dictionary (image : Image) (address : Nat) : Except LoadError Dictionary := do
  return ⟨← (← image.table address 6 "dictionary").mapM image.dictionaryEntry⟩

/-- The restrictions of a command form. -/
def restrictions (image : Image) (address : Nat) : Except LoadError (List Restriction) := do
  return (← image.table address 3 "restrictions").map fun row =>
    ⟨row[0].toNat, Requirement.ofWord row[1], optionalNumber row[2]⟩

/-- A parameter map in a row of its table. -/
def parameterMap (image : Image) (row : Vector UInt32 3) : Except LoadError ParameterMap := do
  let sources ← image.table row[1].toNat 1 "parameter mapping"
  return { form := row[0].toNat, verb := row[2].toNat, sources := sources.map (·[0].toNat) }

/-- The parameter maps of all command forms. -/
def parameterMaps (image : Image) (address : Nat) : Except LoadError (List ParameterMap) := do
  (← image.table address 3 "parameter maps").mapM image.parameterMap

end Image

end TextAdventure
