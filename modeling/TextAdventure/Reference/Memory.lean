import TextAdventure.Dictionary
/-!
# Memory

What one command leaves for the next: the instances that its pronouns stand for, and the targets
that the player can call them.
-/

namespace TextAdventure

/-- A pronoun that stands for an instance. -/
structure PronounBinding where
  pronoun : WordCode
  id : InstanceId
deriving DecidableEq, Repr

/-- What is remembered of the previous command. -/
structure Memory where
  pronouns : List PronounBinding := []
  /-- The targets of the previous command, if it had several. -/
  previous : List InstanceId := []
deriving DecidableEq, Repr

namespace Memory

/-- The instances that a pronoun stands for. -/
def pronounInstances (memory : Memory) (pronoun : WordCode) : List InstanceId :=
  (memory.pronouns.filter fun b => b.id != 0 && b.pronoun == pronoun).map (·.id)

/-- The previous command had targets. -/
def hasPrevious (memory : Memory) : Bool := !memory.previous.isEmpty

/-- The binding of an instance to its own pronoun. -/
def binding? (dictionary : Dictionary) (id : InstanceId) : Option PronounBinding :=
  (dictionary.pronounFor id).map fun pronoun => ⟨pronoun, id⟩

/-- A list of bindings with one more, unless it is there already. -/
def addBinding (bindings : List PronounBinding) (new : PronounBinding) : List PronounBinding :=
  if bindings.contains new then bindings else bindings ++ [new]

/-- The bindings of parameters to their pronouns, each once. -/
def bindings (dictionary : Dictionary) (parameters : List InstanceId) : List PronounBinding :=
  ((parameters.filter (· != 0)).filterMap (binding? dictionary)).foldl addBinding []

/-- What is remembered of a command with these parameters and targets; nothing of one without
parameters.  A slot with several targets is 0 among the parameters, so these get no pronouns. -/
def ofCommand (dictionary : Dictionary) (parameters targets : List InstanceId) : Memory :=
  if parameters.isEmpty then {} else ⟨bindings dictionary parameters, targets⟩

end Memory

end TextAdventure
