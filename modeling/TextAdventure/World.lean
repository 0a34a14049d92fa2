import TextAdventure.Message
import TextAdventure.Story.Basic
/-!
# The world

Where the instances of a story are, what their attributes are worth and which literals are alive.

Places contain each other: an instance lies in another, this one in a third, and so on until an
instance lies nowhere.  Nothing prevents circles, so the way outwards is followed for as many steps
as there are instances and one more; a longer way only repeats itself.
-/

namespace TextAdventure

/-- The state of a story's world. -/
structure World (story : Story) where
  /-- Where each instance is; 0 is nowhere. -/
  locations : List InstanceId
  attributes : List Attributes
  /-- The literals of the current line; they are numbered after the instances. -/
  literals : List Literal := []
  /-- Every instance has a place. -/
  length_locations : locations.length = story.instances.length
  /-- Every instance has attributes. -/
  length_attributes : attributes.length = story.instances.length

namespace World

variable {story : Story}

/-- The world as the story begins. -/
def initial (story : Story) : World story where
  locations := story.instances.map (·.location)
  attributes := story.instances.map (·.attributes)
  length_locations := by simp
  length_attributes := by simp

/-! ## Places -/

/-- Where an instance is. -/
def locationOf (world : World story) (id : InstanceId) : InstanceId :=
  (entryAt world.locations id).getD 0

/-- Where the hero is. -/
def here (world : World story) : InstanceId := world.locationOf story.hero

/-- Puts an instance somewhere; an unknown instance stays unknown. -/
def locate (world : World story) (id destination : InstanceId) : World story :=
  { world with
    locations := updateAt world.locations id fun _ => destination
    length_locations := by simp [world.length_locations] }

/-- What is somewhere can be put elsewhere. -/
theorem locationOf_locate (world : World story) {id : InstanceId} (destination : InstanceId)
    (somewhere : world.locationOf id ≠ 0) :
    (world.locate id destination).locationOf id = destination := by
  unfold locationOf at somewhere
  unfold locate locationOf
  dsimp only
  rw [entryAt_updateAt]
  cases found : entryAt world.locations id with
  | none =>
    rw [found] at somewhere
    exact absurd rfl somewhere
  | some place => rfl

/-- Everything else stays where it is. -/
theorem locationOf_locate_of_ne (world : World story) {id other : InstanceId}
    (destination : InstanceId) (ne : other ≠ id) :
    (world.locate id destination).locationOf other = world.locationOf other := by
  unfold locate locationOf
  dsimp only
  rw [entryAt_updateAt_of_ne _ _ ne]

/-- At most `bound` places around an instance, from the inside out. -/
def placesAround (world : World story) : Nat → InstanceId → List InstanceId
  | 0, _ => []
  | bound + 1, id =>
    let place := world.locationOf id
    if place = 0 then [] else place :: world.placesAround bound place

/-- All places around an instance, from the inside out. -/
def surroundings (world : World story) (id : InstanceId) : List InstanceId :=
  world.placesAround (story.instances.length + 1) id

/-- The instance is, directly or through others, where the hero is. -/
def isHere (world : World story) (id : InstanceId) : Bool :=
  (world.surroundings id).contains world.here

/-! ## Attributes -/

/-- The value of an attribute, 0 if it was never set. -/
def attributeOf (world : World story) (id : InstanceId) (attr : AttributeId) : Int :=
  (((entryAt world.attributes id).getD []).lookup attr).getD 0

/-- Sets an attribute of an instance; an unknown instance stays unknown. -/
def setAttribute (world : World story) (id : InstanceId) (attr : AttributeId) (value : Int) :
    World story :=
  { world with
    attributes := updateAt world.attributes id (put attr value)
    length_attributes := by simp [world.length_attributes] }

/-! ## Literals -/

/-- The literal with a number. -/
def literal? (world : World story) (id : InstanceId) : Option Literal :=
  if story.instances.length < id then world.literals[id - (story.instances.length + 1)]? else none

/-- Gives a literal the next number. -/
def createLiteral (world : World story) (value : Literal) : InstanceId × World story :=
  (story.instances.length + world.literals.length + 1,
    { world with literals := world.literals ++ [value] })

/-- Forgets all literals. -/
def clearLiterals (world : World story) : World story := { world with literals := [] }

/-- The number names an instance of the story or a literal that is alive. -/
def isInstance (world : World story) (id : InstanceId) : Bool :=
  id != 0 && id ≤ story.instances.length + world.literals.length

/-! ## Classes -/

/-- The class of an instance or a literal, 0 for an unknown one. -/
def classOf (world : World story) (id : InstanceId) : ClassId :=
  match world.literal? id with
  | some (.integer _) => story.predefined.integer
  | some (.string _) => story.predefined.string
  | none => ((story.instance? id).map (·.parent)).getD 0

/-- The instance belongs to a class or to one that inherits from it. -/
def isA (world : World story) (id : InstanceId) (cls : ClassId) : Bool :=
  cls != 0 && (story.classChain (world.classOf id)).contains cls

/-- The instance can hold others. -/
def isContainer (_ : World story) (id : InstanceId) : Bool :=
  ((story.instance? id).map (·.container != 0)).getD false

/-! ## Perception -/

/-- The instance hides what it holds. -/
def isOpaque (world : World story) (id : InstanceId) : Bool :=
  world.attributeOf id story.opaqueAttribute != 0

/-- One of the containers that follow each other around an instance hides it. -/
def isHidden (world : World story) (id : InstanceId) : Bool :=
  ((world.surroundings id).takeWhile world.isContainer).any world.isOpaque

/-- The hero can perceive the instance.  Only things and locations can be out of sight. -/
def reachable (world : World story) (id : InstanceId) : Bool :=
  if world.isA id story.predefined.thing || world.isA id story.predefined.location then
    world.isHere id && !world.isHidden id
  else true

/-- How an instance is shown in a message: a literal by its value, any other by its name. -/
def messageParameter (world : World story) (id : InstanceId) : MessageParameter :=
  match world.literal? id with
  | some value => .ofLiteral value
  | none => .ofInstance id

end World

end TextAdventure
