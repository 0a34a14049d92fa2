import TextAdventure.Story.Basic
/-!
# Drafting a story

A story can be put together in memory, one declaration after the other.  A declaration may give a
number or a code back.  Words are created when they are first mentioned; the command forms of one
verb share the beginnings that they have in common.  A declaration about a class or instance that
does not exist is ignored, but the words in it are still learnt.
-/

namespace TextAdventure

/-- The attribute that hides what a container of a drafted story holds. -/
def draftOpaqueAttribute : AttributeId := 1

/-- A step of a command form. -/
inductive FormStep where
  /-- A preposition or other fixed word. -/
  | word (text : String)
  /-- A parameter slot. -/
  | slot (flags : SlotFlags)
deriving DecidableEq, Repr

/-- What can be declared about a story. -/
inductive Declaration where
  | newClass (name : String) (parent : ClassId)
  | newInstance (name : String) (parent : ClassId) (location : InstanceId)
  | newLocation (name : String)
  | newObject (name : String) (location : InstanceId)
  | newHero (location : InstanceId)
  /-- The instance can hold others. -/
  | container (id : InstanceId)
  /-- The instance hides what it holds. -/
  | hiding (id : InstanceId)
  | setAttribute (id : InstanceId) (attr : AttributeId) (value : Int)
  | word (text : String) (classes : WordClasses)
  | noun (text : String) (references : List InstanceId)
  | adjective (text : String) (references : List InstanceId)
  | pronoun (text : String) (references : List InstanceId)
  /-- The usual words for all, except, and, them and the. -/
  | functionWords
  | form (verb : String) (steps : List FormStep)
  /-- The form calls a verb, with parameters from the given positions. -/
  | parameterMap (form : Nat) (verb : String) (sources : List Nat)
  | restriction (form : Nat) (restriction : Restriction)
  | globalVerb (verb : String) (body : VerbBody)
  | classVerb (id : ClassId) (verb : String) (body : VerbBody)
  | instanceVerb (id : InstanceId) (verb : String) (body : VerbBody)
  | exit (source : InstanceId) (direction : String) (target : InstanceId) (checks : List Check)
      (action : Option CodeAddress)
deriving DecidableEq, Repr

/-- A story under construction. -/
structure Draft where
  story : Story := {}
  /-- The number of the next command form. -/
  nextForm : Nat := 1
deriving DecidableEq, Repr

namespace Draft

/-! ## Classes and instances -/

/-- Adds a class and gives its number. -/
def newClass (draft : Draft) (name : String) (parent : ClassId) : ClassId × Draft :=
  let code := draft.story.classes.length + 1
  (code, { draft with
    story := { draft.story with classes := draft.story.classes ++ [{ code, name, parent }] } })

/-- Adds an instance and gives its number. -/
def newInstance (draft : Draft) (name : String) (parent : ClassId) (location : InstanceId) :
    InstanceId × Draft :=
  let code := draft.story.instances.length + 1
  (code, { draft with
    story := { draft.story with
      instances := draft.story.instances ++ [{ code, name, parent, location }] } })

/-- Changes an instance, if there is one with the number. -/
def changeInstance (draft : Draft) (id : InstanceId) (change : StoryInstance → StoryInstance) :
    Draft :=
  { draft with story := { draft.story with
      instances := updateAt draft.story.instances id change } }

/-- Changes a class, if there is one with the number. -/
def changeClass (draft : Draft) (id : ClassId) (change : StoryClass → StoryClass) : Draft :=
  { draft with story := { draft.story with classes := updateAt draft.story.classes id change } }

/-- Sets an attribute of an instance. -/
def setAttribute (draft : Draft) (id : InstanceId) (attr : AttributeId) (value : Int) :
    Draft :=
  draft.changeInstance id fun i => { i with attributes := put attr value i.attributes }

/-- A story that has the predefined classes, with their hierarchy, and nothing else. -/
def initial : Draft :=
  { story := {
      predefined := {
        entity := 1, thing := 2, object := 3, location := 4, actor := 5, literal := 6
        integer := 7, string := 8 }
      opaqueAttribute := draftOpaqueAttribute
      classes := [
        { code := 1, name := "entity", parent := 0 },
        { code := 2, name := "thing", parent := 1 },
        { code := 3, name := "object", parent := 2 },
        { code := 4, name := "location", parent := 1 },
        { code := 5, name := "actor", parent := 2 },
        { code := 6, name := "literal", parent := 1 },
        { code := 7, name := "integer", parent := 6 },
        { code := 8, name := "string", parent := 6 }] } }

/-! ## Words -/

/-- Replaces the dictionary. -/
def withEntries (draft : Draft) (entries : List DictionaryEntry) : Draft :=
  { draft with story := { draft.story with dictionary := ⟨entries⟩ } }

/-- Gives a word more classes, creating it with the next code if it is new. -/
def word (draft : Draft) (text : String) (classes : WordClasses) : WordCode × Draft :=
  let entries := draft.story.dictionary.entries
  match entries.find? (·.word == text) with
  | some entry =>
    let extend := fun (e : DictionaryEntry) => { e with classes := e.classes ||| classes }
    (entry.code, draft.withEntries
      (entries.modify (entries.findIdx (·.word == text)) extend))
  | none =>
    let code := entries.length + 1
    (code, draft.withEntries (entries ++ [{ word := text, code, classes }]))

/-- Gives a word a class and lets `change` file the instances that it refers to. -/
def refer (draft : Draft) (text : String) (classes : WordClasses)
    (change : DictionaryEntry → DictionaryEntry) : WordCode × Draft :=
  let (code, draft) := draft.word text classes
  let entries := draft.story.dictionary.entries
  (code, draft.withEntries (entries.modify (entries.findIdx (·.word == text)) change))

/-- The function words that most stories have, with their classes. -/
def functionWords : List (String × WordClasses) :=
  [("all", .all), ("everything", .all), ("except", .except), ("but", .except),
   ("and", .conjunction), (",", .conjunction), ("them", .them), ("the", .noise)]

/-- Adds the usual function words. -/
def addFunctionWords (draft : Draft) : Draft :=
  functionWords.foldl (fun d entry => (d.word entry.1 entry.2).2) draft

/-! ## Command forms -/

/-- Replaces the element tables. -/
def withTables (draft : Draft) (tables : List (List Element)) : Draft :=
  { draft with story := { draft.story with tables } }

/-- Adds an entry to the end of an element table. -/
def addElement (draft : Draft) (table : Nat) (element : Element) : Draft :=
  draft.withTables (draft.story.tables.modify table (· ++ [element]))

/-- Adds an empty element table and gives its number. -/
def newTable (draft : Draft) : Nat × Draft :=
  (draft.story.tables.length, draft.withTables (draft.story.tables ++ [[]]))

/-- The table that an edge of the given kind leads to from `table`; the edge is added, with a new
table at its end, if there is none. -/
def follow (draft : Draft) (table : Nat) (leads : Element → Option Nat) (edge : Nat → Element) :
    Nat × Draft :=
  match (draft.story.elements table).findSome? leads with
  | some next => (next, draft)
  | none =>
    let (next, draft) := draft.newTable
    (next, draft.addElement table (edge next))

/-- The end of an edge along a word. -/
def wordEdge (code : WordCode) : Element → Option Nat
  | .word c next => if c = code then some next else none
  | _ => none

/-- The end of an edge along a parameter with just these flags. -/
def slotEdge (flags : SlotFlags) : Element → Option Nat
  | .parameter f next => if f = flags then some next else none
  | _ => none

/-- The table that the steps of a form lead to from `table`. -/
def followSteps (draft : Draft) (table : Nat) : List FormStep → Nat × Draft
  | [] => (table, draft)
  | .word text :: steps =>
    let (code, draft) := draft.word text .preposition
    let (next, draft) := draft.follow table (wordEdge code) (.word code)
    draft.followSteps next steps
  | .slot flags :: steps =>
    let (next, draft) := draft.follow table (slotEdge flags) (.parameter flags)
    draft.followSteps next steps

/-- The table where the forms of a verb begin, created if the verb has none. -/
def rootTable (draft : Draft) (verb : WordCode) : Nat × Draft :=
  match draft.story.grammar? verb with
  | some root => (root.table, draft)
  | none =>
    let (table, draft) := draft.newTable
    (table, { draft with
      story := { draft.story with grammars := draft.story.grammars ++ [⟨verb, table⟩] } })

/-- The step is a parameter slot. -/
def FormStep.isSlot : FormStep → Bool
  | .word _ => false
  | .slot _ => true

/-- Adds a command form, which calls its own verb with the parameters in order, and gives its
number. -/
def form (draft : Draft) (verb : String) (steps : List FormStep) : Nat × Draft :=
  let (code, draft) := draft.word verb .verb
  let (root, draft) := draft.rootTable code
  let (last, draft) := draft.followSteps root steps
  let number := draft.nextForm
  let draft := draft.addElement last (.finish number [])
  let sources := List.range' 1 (steps.filter FormStep.isSlot).length
  (number, { draft with
    nextForm := number + 1
    story := { draft.story with
      parameterMaps := draft.story.parameterMaps ++ [⟨number, code, sources⟩] } })

/-- Changes the parameter map of a form. -/
def parameterMap (draft : Draft) (form : Nat) (verb : String) (sources : List Nat) : Draft :=
  let (code, draft) := draft.word verb .verb
  let maps := draft.story.parameterMaps
  { draft with story := { draft.story with
      parameterMaps :=
        maps.modify (maps.findIdx (·.form == form)) fun m => { m with verb := code, sources } } }

/-- An element with one more restriction, if it ends the form. -/
def restrictElement (form : Nat) (restriction : Restriction) : Element → Element
  | .finish number restrictions =>
    .finish number (if number = form then restrictions ++ [restriction] else restrictions)
  | element => element

/-- Adds a restriction to a form. -/
def restrict (draft : Draft) (form : Nat) (restriction : Restriction) : Draft :=
  draft.withTables (draft.story.tables.map (·.map (restrictElement form restriction)))

/-! ## Verbs and exits -/

/-- A verb table with one more body for a verb. -/
def addBody (code : WordCode) (body : VerbBody) : List Verb → List Verb
  | [] => [⟨code, [body]⟩]
  | verb :: verbs =>
    if verb.code = code then { verb with bodies := verb.bodies ++ [body] } :: verbs
    else verb :: addBody code body verbs

/-- Adds a body of a verb that every command reaches. -/
def globalVerb (draft : Draft) (verb : String) (body : VerbBody) : Draft :=
  let (code, draft) := draft.word verb .verb
  { draft with story := { draft.story with
      globalVerbs := addBody code body draft.story.globalVerbs } }

/-- Adds a body of a verb for the instances of a class. -/
def classVerb (draft : Draft) (id : ClassId) (verb : String) (body : VerbBody) : Draft :=
  let (code, draft) := draft.word verb .verb
  draft.changeClass id fun c => { c with verbs := addBody code body c.verbs }

/-- Adds a body of a verb for one instance. -/
def instanceVerb (draft : Draft) (id : InstanceId) (verb : String) (body : VerbBody) : Draft :=
  let (code, draft) := draft.word verb .verb
  draft.changeInstance id fun i => { i with verbs := addBody code body i.verbs }

/-- Adds an exit to a location. -/
def exit (draft : Draft) (source : InstanceId) (direction : String) (target : InstanceId)
    (checks : List Check) (action : Option CodeAddress) : Draft :=
  let (code, draft) := draft.word direction .direction
  draft.changeInstance source fun i =>
    { i with exits := i.exits ++ [⟨code, checks, action, target⟩] }

/-! ## Declarations -/

/-- Carries out a declaration; the number or code that it gives back, if any, comes first. -/
def declare (draft : Draft) : Declaration → Option Nat × Draft
  | .newClass name parent => Prod.map some id (draft.newClass name parent)
  | .newInstance name parent location => Prod.map some id (draft.newInstance name parent location)
  | .newLocation name =>
    Prod.map some id (draft.newInstance name draft.story.predefined.location 0)
  | .newObject name location =>
    Prod.map some id (draft.newInstance name draft.story.predefined.object location)
  | .newHero location =>
    let (hero, draft) := draft.newInstance "hero" draft.story.predefined.actor location
    (some hero, { draft with story := { draft.story with hero } })
  | .container id => (none, draft.changeInstance id fun i => { i with container := 1 })
  | .hiding id => (none, draft.setAttribute id draftOpaqueAttribute 1)
  | .setAttribute id attr value => (none, draft.setAttribute id attr value)
  | .word text classes => Prod.map some id (draft.word text classes)
  | .noun text references =>
    Prod.map some id <| draft.refer text .noun fun e =>
      { e with nounOf := e.nounOf ++ references }
  | .adjective text references =>
    Prod.map some id <| draft.refer text .adjective fun e =>
      { e with adjectiveOf := e.adjectiveOf ++ references }
  | .pronoun text references =>
    Prod.map some id <| draft.refer text .pronoun fun e =>
      { e with pronounFor := e.pronounFor ++ references }
  | .functionWords => (none, draft.addFunctionWords)
  | .form verb steps => Prod.map some id (draft.form verb steps)
  | .parameterMap form verb sources => (none, draft.parameterMap form verb sources)
  | .restriction form restriction => (none, draft.restrict form restriction)
  | .globalVerb verb body => (none, draft.globalVerb verb body)
  | .classVerb id verb body => (none, draft.classVerb id verb body)
  | .instanceVerb id verb body => (none, draft.instanceVerb id verb body)
  | .exit source direction target checks action =>
    (none, draft.exit source direction target checks action)

/-- Carries out declarations in order; what they give back comes first. -/
def declareAll (draft : Draft) : List Declaration → List (Option Nat) × Draft
  | [] => ([], draft)
  | declaration :: rest =>
    let (answer, draft) := draft.declare declaration
    let (answers, draft) := draft.declareAll rest
    (answer :: answers, draft)

end Draft

end TextAdventure
