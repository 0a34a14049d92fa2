import TextAdventure.Proofs.Inheritance
import TextAdventure.Proofs.KeptReferences
import TextAdventure.Proofs.Pronouns
import TextAdventure.Proofs.Rescanning
import TextAdventure.Proofs.TargetTurns
import TextAdventure.Proofs.Watching
/-!
# Literals on their way to the code of a verb

A literal is in two places: the word has its value and its number, and the world has the value under
that number.  The scan counts the numbers from the last literal on, the world counts back from the
number to the literal, and both agree in every world that has the literals of the scan
(`World.HoldsLiterals`).  What refers to a literal settles to its number, provided that literals
cannot be out of sight, and it is alone in its position or the first of a list, so it is the
parameter that code is run with or a target that has its turn (`HandsOver`).
-/

namespace TextAdventure

variable {story : Story} {σ : Type}

/-! ## Numbers -/

/-- The literal that a word is, and its number. -/
def PlayerWord.value? : PlayerWord → Option (Literal × InstanceId)
  | .known _ _ => none
  | .value literal id => some (literal, id)

/-- The numbers of literals are beyond those of the instances, and no two literal words have the
same one. -/
structure NumbersLiterals (story : Story) (words : List PlayerWord) : Prop where
  beyond : ∀ value id, .value value id ∈ words → story.instanceMax < id
  apart : ∀ (i j : Nat) value value' id, words[i]? = some (.value value id) →
    words[j]? = some (.value value' id) → i = j

/-- Every literal word has its number in the world. -/
def World.HoldsLiterals (world : World story) (words : List PlayerWord) : Prop :=
  ∀ value id, .value value id ∈ words → world.literal? id = some value

theorem World.HoldsLiterals.congr {world other : World story} {words : List PlayerWord}
    (holds : world.HoldsLiterals words) (same : other.literals = world.literals) :
    other.HoldsLiterals words := by
  intro value id member
  rw [World.literal?_congr same]
  exact holds value id member

section Scanning

variable {world after : World story} {tokens : List Token} {words : List PlayerWord}

theorem Token.literal?_of_not_isKept {dictionary : Dictionary} {token : Token}
    (dropped : token.isKept dictionary = false) : token.literal? = none := by
  cases token with
  | word => rfl
  | punctuation => rfl
  | integer => cases dropped
  | quoted => cases dropped

/-- The literals of a line are put behind those that are there. -/
theorem Scans.literals_eq (scans : Scans world tokens words after) :
    after.literals = world.literals ++ tokens.filterMap Token.literal? := by
  induction scans with
  | done => exact (List.append_nil _).symm
  | passed dropped later ih =>
    rw [ih, List.filterMap_cons_none (Token.literal?_of_not_isKept dropped)]
  | known kept plain later ih => rw [ih, List.filterMap_cons_none plain]
  | value stands later ih =>
    rw [ih, List.filterMap_cons_some stands]
    exact List.append_assoc ..

/-- They are numbered in the order of the line. -/
theorem Scans.values_eq (scans : Scans world tokens words after) :
    words.filterMap PlayerWord.value? =
      (tokens.filterMap Token.literal?).zipIdx (story.instanceMax + world.literals.length + 1) := by
  induction scans with
  | done => rfl
  | passed dropped later ih =>
    rw [ih, List.filterMap_cons_none (Token.literal?_of_not_isKept dropped)]
  | known kept plain later ih =>
    rw [List.filterMap_cons_none plain]
    exact ih
  | @value world after token rest words literal stands later ih =>
    have longer : (world.createLiteral literal).2.literals.length = world.literals.length + 1 :=
      List.length_append
    rw [longer, ← Nat.add_assoc] at ih
    rw [List.filterMap_cons_some stands, List.zipIdx_cons, ← ih]
    rfl

/-- A literal word has its number beyond the instances, and none has the number of another. -/
theorem Scans.numbersLiterals (scans : Scans world tokens words after) :
    NumbersLiterals story words := by
  have values := scans.values_eq
  constructor
  · intro value id member
    have numbered : (value, id) ∈ words.filterMap PlayerWord.value? :=
      List.mem_filterMap.mpr ⟨_, member, rfl⟩
    rw [values, List.mem_zipIdx_iff_le_and_getElem?_sub] at numbered
    exact Nat.lt_of_le_of_lt (Nat.le_add_right ..) numbered.1
  · have rising : words.Pairwise fun word other => ∀ entry, word.value? = some entry →
        ∀ entry', other.value? = some entry' → entry.2 < entry'.2 := by
      rw [← List.pairwise_filterMap, values, ← @List.pairwise_map _ _ Prod.snd (· < ·),
        List.zipIdx_map_snd]
      exact List.pairwise_lt_range'
    have order : ∀ (i j : Nat) value value' id, words[i]? = some (.value value id) →
        words[j]? = some (.value value' id) → ¬ i < j := by
      intro i j value value' id here there lt
      obtain ⟨inRange, at_i⟩ := List.getElem?_eq_some_iff.mp here
      obtain ⟨inRange', at_j⟩ := List.getElem?_eq_some_iff.mp there
      have rises := List.pairwise_iff_getElem.mp rising i j inRange inRange' lt
      rw [at_i, at_j] at rises
      exact Nat.lt_irrefl id (rises _ rfl _ rfl)
    intro i j value value' id here there
    have := order i j value value' id here there
    have := order j i value' value id there here
    omega

/-- The world counts back from the number of a literal to what the player typed. -/
theorem Scans.holdsLiterals (scans : Scans world tokens words after)
    (none : world.literals = []) {other : World story} (same : other.literals = after.literals) :
    other.HoldsLiterals words := by
  intro value id member
  have numbered : (value, id) ∈ words.filterMap PlayerWord.value? :=
    List.mem_filterMap.mpr ⟨_, member, rfl⟩
  rw [scans.values_eq, List.mem_zipIdx_iff_le_and_getElem?_sub, none] at numbered
  obtain ⟨beyond, there⟩ := numbered
  dsimp only [List.length_nil] at beyond there
  unfold World.literal?
  rw [same, scans.literals_eq, none, List.nil_append]
  unfold Story.instanceMax at beyond there
  rw [if_pos (by omega)]
  exact there

end Scanning

/-! ## References -/

/-- The class is neither that of things or locations nor one that inherits from them: what belongs
to it is nowhere. -/
structure Story.IsPlaceless (story : Story) (cls : ClassId) : Prop where
  noThing : ¬ story.Inherits cls story.predefined.thing
  noLocation : ¬ story.Inherits cls story.predefined.location

section References

variable {words : Words} {memory : Memory} {flags : SlotFlags} {cursor next : Nat}
  {references : List Reference} {position : Position} {reference : Reference} {value : Literal}
  {id : InstanceId} {world : World story}

/-- A literal is never out of sight. -/
theorem World.reachable_of_literal? (integers : story.IsPlaceless story.predefined.integer)
    (strings : story.IsPlaceless story.predefined.string)
    (there : world.literal? id = some value) : world.reachable id = true := by
  have placeless : story.IsPlaceless (world.classOf id) := by
    unfold World.classOf
    rw [there]
    cases value with
    | integer => exact integers
    | string => exact strings
  unfold World.reachable
  rw [if_neg]
  rw [Bool.or_eq_true, World.isA_iff, World.isA_iff, not_or]
  exact ⟨placeless.noThing, placeless.noLocation⟩

theorem Words.ReadsOne.word_of_literal (one : words.ReadsOne memory reference cursor next)
    (literal : reference.kind = .literal value) :
    ∃ id, words.word? reference.first = some (.value value id) := by
  cases one with
  | literal word =>
    cases literal
    exact ⟨_, word⟩
  | them => cases literal
  | pronoun => cases literal
  | phrase => cases literal

theorem Words.ReadsAll.word_of_literal (all : words.ReadsAll memory references cursor next)
    (member : reference ∈ references) (literal : reference.kind = .literal value) :
    ∃ id, words.word? reference.first = some (.value value id) := by
  induction all with
  | one first =>
    obtain rfl := List.mem_singleton.mp member
    exact first.word_of_literal literal
  | joined first _ _ ih =>
    rcases List.mem_cons.mp member with rfl | member
    · exact first.word_of_literal literal
    · exact ih member

/-- A literal of a slot is a word of the line, even if it is an exception from all. -/
theorem Words.word_of_literal_position
    (read : words.position memory flags cursor = .ok (position, next))
    (member : reference ∈ position.references ++ position.exceptions)
    (literal : reference.kind = .literal value) :
    ∃ id, words.word? reference.first = some (.value value id) := by
  cases fills_of_position read with
  | all =>
    obtain rfl := List.mem_singleton.mp member
    cases literal
  | allExcept _ _ excepted =>
    rcases List.mem_cons.mp member with rfl | member
    · cases literal
    · exact excepted.word_of_literal member literal
  | references _ listed =>
    rw [List.append_nil] at member
    exact listed.word_of_literal member literal

/-- Among the references of a slot it is the first, and no all word fills the slot. -/
theorem Words.head?_of_literal_position
    (read : words.position memory flags cursor = .ok (position, next))
    (member : reference ∈ position.references) (literal : reference.kind = .literal value) :
    position.all = false ∧ position.references.head? = some reference := by
  rcases slot_eq_ok (position_eq_ok read).1 with ⟨exceptions, rfl⟩ | ⟨references, listRead, rfl⟩
  · rw [List.mem_singleton.mp member] at literal
    cases literal
  · obtain ⟨_, rest, -, rfl, -⟩ := reference_of_literal listRead member literal
    exact ⟨rfl, rfl⟩

/-- A reference to a literal settles to the number of the literal. -/
theorem Reference.settlesTo?_of_literal (literal : reference.kind = .literal value)
    (word : words.word? reference.first = some (.value value id))
    (reachable : world.reachable id = true) (omnipotent : Bool) :
    reference.settlesTo? world words memory omnipotent = some id := by
  unfold settlesTo? findCandidates
  rw [literal]
  dsimp only
  rw [word]
  dsimp only
  rw [Choice.ofCandidates_singleton, if_pos (Or.inl reachable)]

end References

/-! ## Slots -/

/-- What a form admits depends on the literals alone. -/
theorem World.admits_congr {world other : World story} (same : world.literals = other.literals)
    {restrictions : List Restriction} {number : Nat} {id : InstanceId} :
    world.admits restrictions number id = other.admits restrictions number id := by
  unfold World.admits
  rw [Bool.eq_iff_iff, List.all_eq_true, List.all_eq_true]
  exact forall₂_congr fun test member => by rw [test_congr member same]

section Slots

variable {setting : Setting story σ} {memory : Memory} {words : Words} {found : FormMatch}
  {scene : Scene story σ} {command : ParsedCommand}
  {stages : Stages setting memory words found scene command} {slot : Nat} {position : Position}
  {reference : Reference} {id : InstanceId}

theorem Position.Settles.of_head {world : World story} {settled : Position}
    (settles : position.Settles world words memory settled) (read : position.Read)
    (list : position.all = false) (head : position.references.head? = some reference)
    (notThem : reference.kind ≠ .them)
    (own : reference.settlesTo? world words memory position.flags.omnipotent = some id) :
    settled.multiple = decide (1 < position.references.length) ∧ settled.firstInstance = id := by
  cases settles with
  | recalled first begins them =>
    rw [head, Option.some_inj] at begins
    exact absurd (begins ▸ them) notThem
  | everything _ _ all =>
    rw [list] at all
    cases all
  | oneByOne _ _ _ _ references settled =>
    refine ⟨by rw [read.multiple_eq, list, Bool.false_or], ?_⟩
    rw [List.head?_eq_getElem?] at head
    obtain ⟨first, there, settles, -⟩ := forall₂_getElem? settled head
    rw [own, Option.some_inj] at settles
    rw [firstInstance, List.head?_eq_getElem?, there]
    exact settles.symm

/-- In the slot of a list stands what its head has settled to: as the parameter if nothing else is
in the list, and else as a target, unless it is not admitted. -/
theorem Stages.Slot.of_head (history : stages.Slot slot position) (read : position.Read)
    (keeps : setting.interpreter.KeepsLiterals) (list : position.all = false)
    (head : position.references.head? = some reference) (notThem : reference.kind ≠ .them)
    (own : reference.settlesTo? scene.world words memory position.flags.omnipotent = some id)
    (some : id ≠ 0) :
    (position.references.length = 1 → command.parameters[slot]? = .some id ∧
      ∀ targets, command.multiple ≠ .some (slot, targets)) ∧
    (1 < position.references.length → ∃ targets, command.multiple = .some (slot, targets) ∧
      (id ∈ targets ↔ scene.world.admits found.restrictions (slot + 1) id = true)) := by
  obtain ⟨multiple, first⟩ := history.settles.of_head read list head notThem own
  refine ⟨fun alone => ?_, fun several => ?_⟩
  · have single : history.settled.multiple = false := by rw [multiple, alone]; rfl
    rw [history.parameter_of_single read single, first]
    exact ⟨rfl, history.multiple_ne single⟩
  · have several : history.settled.multiple = true := by rw [multiple, decide_eq_true several]
    have list := history.settles.all_eq.trans list
    refine ⟨_, history.targets_eq several, fun target => ?_, fun admitted => ?_⟩
    · obtain ⟨-, passes⟩ :=
        history.judges.passes_of_mem (history.narrowed_multiple.trans several) target
      refine (passes.valid fun tested judges => ?_).2
      rw [← history.judging_world_of_list several list]
      exact keeps.eq_of_refuses judges.1
    · have settled : id ∈ history.settled.instances := by
        subst first
        exact Position.mem_instances_of_firstInstance some
      rcases history.has_or_drops read list settled with has | ⟨judging, refuses, notAdmitted⟩
      · exact (history.has_of_several several some).mp has
      · rw [World.admits_congr (keeps.eq_of_refuses refuses)] at notAdmitted
        rw [notAdmitted] at admitted
        cases admitted

/-- There are targets, and they are for one of the slots of the command. -/
theorem Stages.targets_of_multiple (stages : Stages setting memory words found scene command)
    (reads : ∀ position ∈ found.positions, position.Read) {targets : List InstanceId}
    (several : command.multiple = some (slot, targets)) :
    targets ≠ [] ∧ slot < command.parameters.length := by
  have nonempty := ParsedCommand.targets_ne_nil stages.makes several
  obtain ⟨target, member⟩ := List.exists_mem_of_ne_nil _ nonempty
  obtain ⟨position, there⟩ := stages.position_of_has reads (Or.inr ⟨targets, several, member⟩)
  refine ⟨nonempty, ?_⟩
  rw [stages.length_parameters reads]
  exact (List.getElem?_eq_some_iff.mp there).1

end Slots

/-! ## Dispatching -/

/-- Every call was made for one of the targets. -/
theorem TurnByTurn.exists_target {verb : WordCode} {parameters targets : List InstanceId}
    {slot : Nat} {calls : List Call} (turns : TurnByTurn verb parameters slot targets calls) :
    ∀ call ∈ calls, ∃ target ∈ targets, call.IsFor verb (parameters.set slot target) := by
  induction turns with
  | done => exact List.forall_mem_nil _
  | next turn rest ih =>
    refine List.forall_mem_append.mpr ⟨fun call member => ?_, fun call member => ?_⟩
    · exact ⟨_, List.mem_cons_self .., turn call member⟩
    · obtain ⟨target, later, isFor⟩ := ih call member
      exact ⟨target, List.mem_cons_of_mem _ later, isFor⟩

/-- Dispatches a command; the worlds that code is shown are kept, and the calls are written down. -/
def dispatchNoted (setting : Setting story σ) (command : ParsedCommand) (scene : Scene story σ) :
    Except CommandError Dispatch × Scene story ((σ × List (World story)) × List Call) :=
  (dispatchTargets setting.watched.journaled command.verb command.parameters command.multiple).run
    scene.watched.journaled

section Dispatching

variable {setting : Setting story σ} {command : ParsedCommand} {scene : Scene story σ}

theorem dispatchNoted_watches (leaves : setting.interpreter.LeavesLiterals)
    (command : ParsedCommand) (scene : Scene story σ) :
    Watches scene.world.literals
      ((dispatchTargets setting command.verb command.parameters command.multiple).run scene).2
      (dispatchNoted setting command scene).2.forget := by
  have forgets : (dispatchNoted setting command scene).2.forget =
      ((dispatchTargets setting.watched command.verb command.parameters command.multiple).run
        scene.watched).2 :=
    congrArg Prod.snd (dispatchTargets_journaled setting.watched _ _ _ scene.watched)
  have steps := stepsAlike_watched leaves scene.world.literals
  rw [forgets]
  exact (dispatchTargets_alike steps.looks steps.acts command.verb command.parameters
    command.multiple _ _ (watches_watched rfl)).2

/-- Code that is run for a command has its parameters, but for the slot with the targets. -/
theorem dispatchNoted_parameter {slot : Nat} {id : InstanceId}
    (parameter : command.parameters[slot]? = some id)
    (notSeveral : ∀ targets, command.multiple ≠ some (slot, targets))
    (inRange : ∀ slot targets, command.multiple = some (slot, targets) →
      targets ≠ [] ∧ slot < command.parameters.length) :
    ∀ call ∈ (dispatchNoted setting command scene).2.calls,
      call.context.parameters[slot]? = some id := by
  unfold dispatchNoted
  cases multiple : command.multiple with
  | none =>
    obtain ⟨calls, after, isFor⟩ := dispatch_isFor setting.watched command.verb command.parameters
      scene.watched.journaled
    rw [Scene.calls_journaled, List.nil_append] at after
    intro call member
    rw [(isFor call (after ▸ member)).2, parameter]
  | some several =>
    obtain ⟨other, targets⟩ := several
    obtain ⟨nonempty, lt⟩ := inRange other targets multiple
    have apart : other ≠ slot := by
      rintro rfl
      exact notSeveral targets multiple
    intro call member
    obtain ⟨target, -, isFor⟩ := (turns_of_dispatchTargets setting.watched command.verb
      command.parameters nonempty lt scene.watched).exists_target call member
    rw [isFor.2, List.getElem?_set_ne apart, parameter]

end Dispatching

/-! ## From the line to the verb -/

/-- An instance is in a slot of a command for all code that the command runs: as the parameter if
the reference to it is alone in its position, and where the reference heads a list, as one of the
targets if the form admits it. -/
structure Delivers (found : FormMatch) (command : ParsedCommand) (world : World story)
    (slot : Nat) (position : Position) (reference : Reference) (id : InstanceId)
    (calls : List Call) : Prop where
  heads : position.references.head? = some reference
  parameter : position.references.length = 1 → command.parameters[slot]? = some id ∧
    ∀ call ∈ calls, call.context.parameters[slot]? = some id
  target : 1 < position.references.length → ∃ targets, command.multiple = some (slot, targets) ∧
    (id ∈ targets ↔ world.admits found.restrictions (slot + 1) id = true) ∧
    TurnByTurn command.verb command.parameters slot targets calls

section Reading

variable {setting : Setting story σ} {words : Words} {memory : Memory} {cursor slot : Nat}
  {scene : Scene story σ} {reading : FormReading} {found : FormMatch} {command : ParsedCommand}
  {position : Position}

theorem ReadAs.exists_position
    (read : ReadAs setting memory words cursor scene reading found command)
    (member : position ∈ reading.positions) :
    ∃ flags first next, words.position memory flags first = .ok (position, next) := by
  obtain ⟨_, _, _, -, -, formRead, -⟩ := read.matched
  obtain ⟨_, _, flags, first, next, -, positionRead⟩ :=
    Story.position_of_mem_readForm formRead member
  exact ⟨flags, first, next, positionRead⟩

/-- A reference to a literal delivers what it settles to. -/
theorem ReadAs.delivers {reference : Reference} {value : Literal} {id : InstanceId}
    (read : ReadAs setting memory words cursor scene reading found command)
    (leaves : setting.interpreter.LeavesLiterals)
    (there : found.positions[slot]? = some position) (member : reference ∈ position.references)
    (literal : reference.kind = .literal value)
    (own : reference.settlesTo? scene.world words memory position.flags.omnipotent = some id)
    (some : id ≠ 0) (after : Scene story σ) :
    Delivers found command scene.world slot position reference id
      (dispatchNoted setting command after).2.calls := by
  obtain ⟨among, asRead, -⟩ := read.position_read there
  obtain ⟨_, _, _, positionRead⟩ := read.exists_position (List.mem_of_getElem? among)
  obtain ⟨list, head⟩ := Words.head?_of_literal_position positionRead member literal
  have notThem : reference.kind ≠ .them := by rw [literal]; exact nofun
  obtain ⟨stages⟩ := read.stages
  obtain ⟨history⟩ := stages.slot read.reads there
  obtain ⟨parameter, target⟩ :=
    history.of_head asRead leaves.execute list head notThem own some
  refine ⟨head, fun alone => ?_, fun several => ?_⟩
  · obtain ⟨here, notSeveral⟩ := parameter alone
    exact ⟨here, dispatchNoted_parameter here notSeveral fun slot targets =>
      stages.targets_of_multiple read.reads⟩
  · obtain ⟨targets, multiple, admitted⟩ := target several
    obtain ⟨nonempty, inRange⟩ := stages.targets_of_multiple read.reads multiple
    refine ⟨targets, multiple, admitted, ?_⟩
    unfold dispatchNoted
    rw [multiple]
    exact turns_of_dispatchTargets setting.watched _ _ nonempty inRange _

/-- What becomes of the literals of a command that has been read.  The command begins in the scene,
and `noted` is where its dispatch has led to, with the worlds and the calls. -/
structure HandsOver (setting : Setting story σ) (words : Words) (memory : Memory) (cursor : Nat)
    (scene : Scene story σ) (reading : FormReading) (found : FormMatch) (command : ParsedCommand)
    (noted : Scene story ((σ × List (World story)) × List Call)) : Prop where
  /-- A reference to a literal settles to its number, be it among the exceptions from all. -/
  settles : ∀ position ∈ reading.positions,
    ∀ reference ∈ position.references ++ position.exceptions,
    ∀ value, reference.kind = .literal value →
      ∃ id, words.word? reference.first = some (.value value id) ∧
        reference.settlesTo? scene.world words memory position.flags.omnipotent = some id
  /-- A parameter map that is a permutation, or none, moves every position to some slot. -/
  placed : (∀ map, story.parameterMap? reading.form = some map →
      map.sources.Perm (List.range' 1 reading.positions.length)) →
    ∀ (index : Nat) position, reading.positions[index]? = some position →
      ∃ slot, reading.origin story slot = index ∧ found.positions[slot]? = some position
  /-- Wherever it has been moved, the literal is there for all code. -/
  delivers : ∀ (slot : Nat) position, found.positions[slot]? = some position →
    ∀ reference ∈ position.references, ∀ value id, reference.kind = .literal value →
      words.word? reference.first = some (.value value id) →
      Delivers found command scene.world slot position reference id noted.calls
  /-- And all code is shown a world that has it. -/
  shown : ∀ world ∈ noted.forget.seen, world.HoldsLiterals words.words
  /-- What the command leaves is what this dispatch leaves. -/
  leaves : (CommandRun.at setting words memory cursor scene).scene = noted.forget.unwatched

theorem Scene.world_before (cursor : Nat) (scene : Scene story σ) :
    (scene.before cursor).world = scene.world := by
  unfold Scene.before
  split <;> rfl

/-- A command that has been read hands its literals over. -/
theorem handsOver_of_readAs (leaves : setting.interpreter.LeavesLiterals)
    (integers : story.IsPlaceless story.predefined.integer)
    (strings : story.IsPlaceless story.predefined.string)
    (numbers : NumbersLiterals story words.words) (holds : scene.world.HoldsLiterals words.words)
    (verb : words.is cursor .verb = true)
    (read : ReadAs setting memory words cursor (scene.before cursor) reading found command) :
    HandsOver setting words memory cursor scene reading found command
      (dispatchNoted setting command
        ((parseCommand setting memory words cursor).run (scene.before cursor)).2).2 := by
  have sameWorld := scene.world_before cursor
  have watches := dispatchNoted_watches leaves command
    ((parseCommand setting memory words cursor).run (scene.before cursor)).2
  -- a literal word settles to its number in any slot
  have settles : ∀ {reference : Reference} {value id}, reference.kind = .literal value →
      words.word? reference.first = some (.value value id) → ∀ omnipotent,
        reference.settlesTo? scene.world words memory omnipotent = some id := by
    intro reference value id literal word omnipotent
    have there := holds value id (List.mem_of_getElem? word)
    exact Reference.settlesTo?_of_literal literal word
      (World.reachable_of_literal? integers strings there) omnipotent
  refine ⟨?_, fun perm index position => Story.MatchesAt.exists_slot read.matched perm, ?_, ?_, ?_⟩
  · intro position member reference among value literal
    obtain ⟨_, _, _, positionRead⟩ := read.exists_position member
    obtain ⟨id, word⟩ := Words.word_of_literal_position positionRead among literal
    exact ⟨id, word, settles literal word _⟩
  · intro slot position there reference member value id literal word
    have beyond := numbers.beyond value id (List.mem_of_getElem? word)
    have delivers := read.delivers leaves there member literal
      (sameWorld ▸ settles literal word _) (Nat.ne_of_gt (Nat.zero_lt_of_lt beyond))
    exact sameWorld ▸ delivers _
  · intro world seen
    refine holds.congr ((watches.before world seen).trans ?_)
    rw [parseCommand_literals leaves, sameWorld]
  · obtain ⟨next, parsed⟩ := read.parsed
    exact (runCommand_scene_of_parsed verb parsed).trans watches.same.symm

end Reading

/-- **Literals reach the code of a verb.**  Take a line that scans, in a story whose integers and
strings are nowhere, with code that creates no literals and forgets none.  The literals that the
player typed are numbered in their order, beyond the instances and each differently, and as long as
the line runs, in every world that code is shown and wherever a command begins, each number stands
for the value that was typed.  In each command that is read, a literal settles to its number and is
handed over to all code in the slot that its position has been moved to. -/
theorem literals_reach_code {setting : Setting story σ}
    (leaves : setting.interpreter.LeavesLiterals)
    (integers : story.IsPlaceless story.predefined.integer)
    (strings : story.IsPlaceless story.predefined.string) (memory : Memory)
    {scene : Scene story σ} {line : String} {scanned : List PlayerWord}
    (scans : (scan scene.world.clearLiterals line).1 = .ok scanned) :
    let words : Words := ⟨scanned, story.dictionary⟩
    let start := { scene with world := (scan scene.world.clearLiterals line).2 }
    let ran := (interpretLine setting memory line).run scene
    let noted := (interpretLine setting.watched memory line).run scene.watched
    scanned.filterMap PlayerWord.value? =
      ((Token.ofChars line.toList).filterMap Token.literal?).zipIdx (story.instanceMax + 1) ∧
    NumbersLiterals story scanned ∧
    ((noted.1, noted.2.unwatched) = ran ∧ ran.2.world.HoldsLiterals scanned ∧
      ∀ world ∈ noted.2.seen, world.HoldsLiterals scanned) ∧
    ∀ memory' cursor scene', CommandBegins setting words memory start memory' cursor scene' →
      (runWords setting words memory' cursor).run scene' = ran ∧
      scene'.world.HoldsLiterals scanned ∧
      ∀ reading found command, words.is cursor .verb = true →
        ReadAs setting memory' words cursor (scene'.before cursor) reading found command →
        HandsOver setting words memory' cursor scene' reading found command
          (dispatchNoted setting command
            ((parseCommand setting memory' words cursor).run (scene'.before cursor)).2).2 := by
  intro words start ran noted
  have tokens := scans_of_scanTokens scans
  have numbers := tokens.numbersLiterals
  have holds : ∀ world : World story, world.literals = start.world.literals →
      world.HoldsLiterals scanned := fun world same => tokens.holdsLiterals rfl same
  obtain ⟨same, watches⟩ := watches_interpretLine leaves scans
  refine ⟨tokens.values_eq, numbers, ⟨?_, holds _ watches.now, ?_⟩, ?_⟩
  · exact Prod.ext same.symm watches.same
  · exact fun world seen => holds world (watches.before world seen)
  · intro memory' cursor scene' begins
    have here := holds _ (begins.literals_eq leaves)
    refine ⟨?_, here, fun reading found command verb read => ?_⟩
    · exact begins.runWords_eq.symm.trans (interpretLine_run scans).symm
    · exact handsOver_of_readAs leaves integers strings numbers here verb read

/-- Weigh 5 and apple: the only slot of the form. -/
def FormReading.fiveAndApple : FormReading where
  form := 1
  restrictions := [{ parameter := 1, requirement := .ofClass 1, statements := none }]
  positions := [{
    references := [{ kind := .literal (.integer 5), first := 1, last := 1 },
      { first := 3, last := 3 }]
    multiple := true
    flags := { multiple := true } }]

/-- The number is a target beside the apple, and the text waits for the next command. -/
theorem literals_reach_code_scales :
    let scanned : List PlayerWord := [.known 0 "weigh", .value (.integer 5) 4, .known 1 "and",
      .known 3 "apple", .known 1 "and", .known 0 "weigh", .value (.string "Ab") 5]
    let words : Words := ⟨scanned, Story.scales.dictionary⟩
    let line := "Weigh 5 and apple and weigh \"Ab\""
    let scene : Scene .scales Recording := { world := .initial _, state := {} }
    let start := { scene with world := (scan scene.world.clearLiterals line).2 }
    let reading := FormReading.fiveAndApple
    let found := reading.remap Story.scales 1
    let command : ParsedCommand := { verb := 1, parameters := [0], multiple := some (0, [4, 3]) }
    Setting.scales.interpreter.LeavesLiterals ∧ Story.scales.IsPlaceless 7 ∧
    Story.scales.IsPlaceless 8 ∧ (scan scene.world.clearLiterals line).1 = .ok scanned ∧
    NumbersLiterals .scales scanned ∧
    ((interpretLine Setting.scales {} line).run scene).2.world.HoldsLiterals scanned ∧
    ReadAs Setting.scales {} words 0 start reading found command ∧
    HandsOver Setting.scales words {} 0 start reading found command
      (dispatchNoted Setting.scales command
        ((parseCommand Setting.scales {} words 0).run start).2).2 := by
  intro scanned words line scene start reading found command
  have leaves : Setting.scales.interpreter.LeavesLiterals :=
    ⟨fun _ _ _ _ => rfl, Interpreter.keepsLiterals_scripted _ _⟩
  have placeless : ∀ cls ∈ [7, 8], Story.scales.IsPlaceless cls := by
    intro cls member
    refine ⟨?_, ?_⟩ <;> rw [← Story.mem_classChain] <;> revert cls <;> decide
  have scans : (scan scene.world.clearLiterals line).1 = .ok scanned := by decide +kernel
  have read : ReadAs Setting.scales {} words 0 start reading found command :=
    readAs_of_toOption 1 _ 4 5 rfl rfl (by decide +kernel) rfl (by decide +kernel)
  have integers := placeless 7 (by decide)
  have strings := placeless 8 (by decide)
  obtain ⟨-, numbers, ⟨-, lasts, -⟩, commands⟩ :=
    literals_reach_code leaves integers strings {} scans
  obtain ⟨-, -, handsOver⟩ := commands {} 0 start .first
  exact ⟨leaves, integers, strings, scans, numbers, lasts, read,
    handsOver reading found command (by decide) read⟩

end TextAdventure
