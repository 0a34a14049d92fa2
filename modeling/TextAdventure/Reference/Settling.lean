import TextAdventure.Reference.Choice
import TextAdventure.Reference.Reading
/-!
# Settling references

References become instances in two steps.  First every reference gets its candidates, and the words
for all and for them are replaced by what they stand for; then each reference that the player spelt
out is settled.  Each step goes through the positions in order and stops at the first one that
fails, which keeps what has been done to it.
-/

namespace TextAdventure

/-! ## Candidates -/

/-- The members of the first list that all the others have too. -/
def commonMembers : List (List InstanceId) → List InstanceId
  | [] => []
  | first :: rest => rest.foldl (fun running members => running.filter members.contains) first

/-- The instances that a word of a phrase refers to: as a noun if it is the last one, as an
adjective before that. -/
def Words.phraseReferences? (words : Words) (last index : Nat) : Option (List InstanceId) :=
  (words.entry? index).map fun e => if index = last then e.nounOf else e.adjectiveOf

/-- The instances that a phrase can stand for, in the order of its first word. -/
def Words.phraseCandidates (words : Words) (first last : Nat) : List InstanceId :=
  let stop := min (last + 1) words.size
  commonMembers ((List.range' first (stop - first)).filterMap (words.phraseReferences? last))

/-- The instance that a pronoun stands for; there must be just one. -/
def Words.pronounCandidates (words : Words) (memory : Memory) (index : Nat) :
    Except CommandError (List InstanceId) :=
  match memory.pronounInstances ((words.code? index).getD 0) with
  | [] => .error (.whatWord (words.text index))
  | [id] => .ok [id]
  | ids => .error (.whichPronoun (words.text index) ids)

namespace Reference

/-- The instances that a reference can stand for.  A reference to them is replaced as a whole before
this is asked. -/
def findCandidates (words : Words) (memory : Memory) (reference : Reference) :
    Except CommandError (List InstanceId) :=
  match reference.kind with
  | .literal _ =>
    match words.word? reference.first with
    | some (.value _ id) => .ok [id]
    | _ => .ok []
  | .pronoun => words.pronounCandidates memory reference.first
  | .plain => .ok (words.phraseCandidates reference.first reference.last)
  | .them => .ok []

/-- The reference with its candidates. -/
def withCandidates (words : Words) (memory : Memory) (reference : Reference) :
    Attempt CommandError Reference :=
  match reference.findCandidates words memory with
  | .ok candidates => .success { reference with candidates }
  | .error fault => .failure reference fault

/-- The reference settled to one of its candidates. -/
def settle {story : Story} (world : World story) (words : Words) (omnipotent : Bool)
    (reference : Reference) : Attempt CommandError Reference :=
  match Choice.ofCandidates world reference.candidates omnipotent with
  | .settled id => .success { reference with id }
  | .noSuch => .failure reference (.noSuch (reference.phrase words))
  | .whichOne candidates =>
    .failure reference (.whichOne (candidates.map world.messageParameter))

end Reference

/-! ## Positions -/

variable {story : Story}

/-- Everything that is where the hero is. -/
def World.everythingHere (world : World story) : List InstanceId :=
  (List.range' 1 story.instanceMax).filter world.isHere

namespace Position

/-- The previous targets that the hero can still perceive take the place of a them word. -/
def expandThem (world : World story) (words : Words) (memory : Memory) (word : Nat)
    (position : Position) : Attempt CommandError Position :=
  let targets := memory.previous.filter world.reachable
  let expanded : Position :=
    { position with them := true, references := targets.map (Reference.settled word) }
  match targets with
  | [] => .failure expanded (.whatWord (words.text word))
  | [_] => .success expanded
  | _ =>
    let several := { expanded with multiple := true }
    if position.flags.multiple then .success several else .failure several .multipleNotAllowed

/-- Everything here takes the place of an all word, and its exceptions get their candidates. -/
def expandAll (world : World story) (words : Words) (memory : Memory) (word : Nat)
    (position : Position) : Attempt CommandError Position :=
  let expanded : Position :=
    { position with references := world.everythingHere.map (Reference.settled word) }
  if expanded.references.isEmpty then .failure expanded (.noSuch (words.text word))
  else
    (Attempt.each (Reference.withCandidates words memory) position.exceptions).map
      fun exceptions => { expanded with exceptions }

/-- Every reference in a position gets its candidates. -/
def findCandidates (world : World story) (words : Words) (memory : Memory) (position : Position) :
    Attempt CommandError Position :=
  match position.references with
  | [] => .success position
  | first :: _ =>
    if first.kind = .them then position.expandThem world words memory first.first
    else if position.all then position.expandAll world words memory first.first
    else
      (Attempt.each (Reference.withCandidates words memory) position.references).map
        fun references => { position with references }

/-- Settles the references that the player spelt out: all of them, or the exceptions from all.  What
all and them stand for is settled already. -/
def settle (world : World story) (words : Words) (position : Position) :
    Attempt CommandError Position :=
  let each := Attempt.each (Reference.settle world words position.flags.omnipotent)
  if position.all then
    (each position.exceptions).map fun exceptions => { position with exceptions }
  else if position.them then .success position
  else (each position.references).map fun references => { position with references }

end Position

/-- Settles every reference of a command. -/
def settlePositions (world : World story) (words : Words) (memory : Memory)
    (positions : List Position) : Attempt CommandError (List Position) :=
  (Attempt.each (Position.findCandidates world words memory) positions).andThen
    (Attempt.each (Position.settle world words))

end TextAdventure
