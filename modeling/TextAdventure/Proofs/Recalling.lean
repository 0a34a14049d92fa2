import TextAdventure.Proofs.KeptReferences
import TextAdventure.Proofs.Phrases
import TextAdventure.Proofs.Validity
/-!
# What a them word recalls

A them word that fills a slot all by itself stands for the targets of the command before, as far as
the hero can still perceive them (`them_recalls_targets`).  It does not matter how that command
ended, what has happened to the world since, or that the word could also be read as a pronoun: there
are previous targets, and these come first.
-/

namespace TextAdventure

variable {story : Story} {σ : Type}

/-! ## A list without what fails -/

section Sifting

variable {W V : World story → Prop} {tests : List (Test story)} {ids left : List InstanceId}

/-- The second list is what some tests leave of the first one, in the same order. -/
inductive Sifted (W : World story → Prop) (tests : List (Test story)) :
    List InstanceId → List InstanceId → Prop where
  | nil : Sifted W tests [] []
  | kept {id : InstanceId} {ids left : List InstanceId} (passes : Passes W tests id)
      (rest : Sifted W tests ids left) : Sifted W tests (id :: ids) (id :: left)
  | dropped {id : InstanceId} {ids left : List InstanceId} (fails : Fails W tests id)
      (rest : Sifted W tests ids left) : Sifted W tests (id :: ids) left

theorem Sifted.mono (within : ∀ world, W world → V world) (sifted : Sifted W tests ids left) :
    Sifted V tests ids left := by
  induction sifted with
  | nil => exact .nil
  | kept passes _ ih => exact .kept (passes.mono within) ih
  | dropped fails _ ih => exact .dropped (fails.mono within) ih

/-- In one world the tests are a filter. -/
theorem Sifted.eq_filter {world : World story} (sifted : Sifted (· = world) tests ids left) :
    left = ids.filter fun id => tests.all fun test => test world id := by
  induction sifted with
  | nil => rfl
  | kept passes _ ih => rw [List.filter_cons, if_pos (passes_iff_all.mp passes), ← ih]
  | dropped fails _ ih =>
    rw [List.filter_cons, if_neg (Bool.eq_false_iff.mp (fails_iff_not_all.mp fails)), ← ih]

/-- What is left of several instances is what the tests leave of them. -/
theorem Position.Judged.sifted {p q : Position} (judged : p.Judged W tests q)
    (several : p.multiple = true) : Sifted W tests p.instances q.instances := by
  unfold instances
  have all := judged.several several
  generalize p.references = rs, q.references = rs' at all ⊢
  induction all with
  | nil => exact .nil
  | @cons r r' rs rs' judged _ ih =>
    rw [List.map_cons, List.map_cons]
    by_cases none : r.id = 0
    · -- without an instance it was left out before, and still is
      have none' : r'.id = 0 := by
        cases judged with
        | void => exact none
        | kept => exact none
        | dropped => rfl
      rw [none, none']
      exact ih
    · rw [List.filter_cons, if_pos (bne_iff_ne.mpr none)]
      cases judged with
      | void none' => exact absurd none' none
      | kept passes =>
        rw [List.filter_cons, if_pos (bne_iff_ne.mpr none)]
        exact .kept passes ih
      | dropped _ fails => exact .dropped fails ih

end Sifting

/-! ## Reading the word -/

/-- A position is exactly one word, a them word that is not also an all word. -/
structure Position.IsThem (words : Words) (position : Position) (word : Nat) : Prop where
  alone : ∃ reference, position.references = [reference] ∧ reference.first = word ∧
    reference.last = word
  noExceptions : position.exceptions = []
  them : words.is word .them = true
  notAll : words.is word .all = false

/-- A them word that is a slot of its own, unsettled. -/
def Position.ofThem (flags : SlotFlags) (word : Nat) : Position :=
  { references := [{ kind := .them, first := word, last := word }], flags }

section Reading

variable {words : Words} {memory : Memory} {word : Nat} {position : Position}

/-- While there are previous targets, the word is read in no other way. -/
theorem Words.ReadsOne.them_of_hasPrevious {reference : Reference} {cursor next : Nat}
    (one : words.ReadsOne memory reference cursor next) (previous : memory.hasPrevious = true)
    (isThem : words.is cursor .them = true) :
    reference = { kind := .them, first := cursor, last := cursor } := by
  have recalls : words.Recalls memory cursor := ⟨isThem, Or.inr previous⟩
  cases one with
  | them => rfl
  | literal word =>
    rw [Words.is_of_value word] at isThem
    cases isThem
  | pronoun _ recallsNot => exact absurd recalls recallsNot
  | phrase _ recallsNot => exact absurd recalls recallsNot

/-- A slot that holds one reference and is not for all is filled by just that reference. -/
theorem Position.readsOne_of_alone {reading : FormReading} {table cursor last index : Nat}
    {reference : Reference} (read : story.readForm words memory table cursor = .ok (reading, last))
    (there : reading.positions[index]? = some position)
    (alone : position.references = [reference])
    (notAll : words.is reference.first .all = false) :
    position = { references := [reference], flags := position.flags } ∧
      ∃ next, words.ReadsOne memory reference reference.first next := by
  obtain ⟨_, _, flags, cursor, after, -, positionRead⟩ :=
    Story.position_of_mem_readForm read (List.mem_of_getElem? there)
  cases Words.fills_of_position positionRead with
  | all isAll =>
    cases alone
    rw [isAll] at notAll
    cases notAll
  | allExcept isAll =>
    cases alone
    rw [isAll] at notAll
    cases notAll
  | references _ listed =>
    cases alone
    cases listed with
    | one one => exact ⟨rfl, after, one.span.1.symm ▸ one⟩
    | joined _ _ rest => cases rest

theorem Position.IsThem.eq_ofThem {reading : FormReading} {table cursor last index : Nat}
    (isThem : position.IsThem words word) (previous : memory.hasPrevious = true)
    (read : story.readForm words memory table cursor = .ok (reading, last))
    (there : reading.positions[index]? = some position) :
    position = .ofThem position.flags word := by
  obtain ⟨⟨reference, alone, rfl, -⟩, -, them, notAll⟩ := isThem
  obtain ⟨form, _, one⟩ := readsOne_of_alone read there alone notAll
  have asThem := one.them_of_hasPrevious previous them
  unfold ofThem
  rw [← asThem]
  exact form

end Reading

/-! ## The command before -/

/-- What a command with several targets leaves behind, whatever becomes of it. -/
theorem previous_of_parseCommand {setting : Setting story σ} {words : Words} {memory : Memory}
    {cursor next place : Nat} {scene : Scene story σ} {command : ParsedCommand}
    {targets : List InstanceId} (verb : words.is cursor .verb = true)
    (parsed : ((parseCommand setting memory words cursor).run scene).1 = .ok (command, next))
    (several : command.multiple = some (place, targets)) :
    (((runCommand setting words memory cursor).run scene).1.1).previous = targets ∧
      targets ≠ [] ∧ 0 ∉ targets := by
  obtain ⟨reading, found, read⟩ := readAs_of_parseCommand parsed
  obtain ⟨stages⟩ := read.stages
  obtain ⟨settled, there, multiple⟩ := stages.settled_of_multiple several
  have inRange : place < found.positions.length :=
    stages.length_settled read.reads ▸ (List.getElem?_eq_some_iff.mp there).1
  refine ⟨?_, ParsedCommand.targets_ne_nil stages.makes several, ?_⟩
  · -- a slot with targets is a parameter
    have some : command.parameters ≠ [] := by
      apply List.length_pos_iff.mp
      rw [stages.length_parameters read.reads]
      omega
    rw [runCommand_memory_of_parsed verb parsed, Memory.ofCommand, if_neg (by simpa using some),
      ParsedCommand.targets, several]
    rfl
  · obtain ⟨-, -, made⟩ := ParsedCommand.ofPositions_eq_ok stages.makes
    rw [several] at made
    obtain ⟨slot, -, same⟩ := Option.map_eq_some_iff.mp made.symm
    cases same
    intro zero
    cases left : stages.left[place]? with
    | none =>
      rw [left] at zero
      cases zero
    | some position =>
      rw [left] at zero
      exact (Position.mem_instances.mp zero).1 rfl

/-! ## Faults -/

section Stopping

variable {setting : Setting story σ} {memory : Memory} {words : Words} {found : FormMatch}
  {scene : Scene story σ}

theorem settleCommand_of_fault {fault : CommandError}
    (stops : (settlePositions scene.world words memory found.positions).fault = some fault) :
    ((settleCommand setting memory words found).run scene).1 = .error fault := by
  have ended := settlesTo_settleCommand setting memory words found scene
  generalize (settleCommand setting memory words found).run scene = run at ended ⊢
  obtain ⟨result, after⟩ := run
  dsimp only at ended ⊢
  cases ended with
  | unsettled settles =>
    rw [settles] at stops
    cases stops
    rfl
  | unnarrowed settles => rw [settles] at stops; cases stops
  | unrestricted settles => rw [settles] at stops; cases stops
  | restricted settles => rw [settles] at stops; cases stops

/-- The words behind the verb at the cursor match a form.  `reading` has the positions in the order
of the words, `found` in that of the verb's parameters. -/
def Story.MatchesAt (story : Story) (words : Words) (memory : Memory) (cursor : Nat)
    (reading : FormReading) (found : FormMatch) : Prop :=
  ∃ verbWord root last, words.code? cursor = some verbWord ∧
    story.grammar? verbWord = some root ∧
    story.readForm words memory root.table (cursor + 1) = .ok (reading, last) ∧
    reading.remap story verbWord = found

/-- The command at the cursor is given up with a fault, unless a position before the one in a slot
has been at fault already. -/
def GivesUpWith (setting : Setting story σ) (words : Words) (memory : Memory) (cursor : Nat)
    (scene : Scene story σ) (found : FormMatch) (slot : Nat) (fault : CommandError) : Prop :=
  ∃ stop, ((runCommand setting words memory cursor).run scene).1 = (memory, .error stop) ∧
    (stop.error = fault ∨ ∃ before position, before < slot ∧
      found.positions[before]? = some position ∧
      (position.findCandidates scene.world words memory).fault = some stop.error)

variable {cursor slot : Nat} {reading : FormReading} {position : Position}

/-- A parameter map that is a permutation, or none, moves every position to some slot. -/
theorem Story.MatchesAt.exists_slot {index : Nat}
    (matched : story.MatchesAt words memory cursor reading found)
    (perm : ∀ map, story.parameterMap? reading.form = some map →
      map.sources.Perm (List.range' 1 reading.positions.length))
    (there : reading.positions[index]? = some position) :
    ∃ slot, reading.origin story slot = index ∧ found.positions[slot]? = some position := by
  obtain ⟨verbWord, -, -, -, -, -, rfl⟩ := matched
  have inRange := (List.getElem?_eq_some_iff.mp there).1
  cases own : story.parameterMap? reading.form with
  | none =>
    have stays : reading.origin story index = index := by
      unfold FormReading.origin
      rw [own]
      rfl
    refine ⟨index, stays, ?_⟩
    rw [FormReading.getElem?_remap verbWord inRange, stays, there]
  | some map =>
    obtain ⟨slot, slot_lt, origin⟩ := FormReading.exists_slot_of_perm own (perm map own) inRange
    refine ⟨slot, origin, ?_⟩
    rw [FormReading.getElem?_remap verbWord slot_lt, origin, there]

theorem runCommand_of_fault {fault : CommandError} (verb : words.is cursor .verb = true)
    (matched : story.MatchesAt words memory cursor reading found)
    (stops : (settlePositions scene.world words memory found.positions).fault = some fault) :
    ∃ last, ((runCommand setting words memory cursor).run scene).1 =
      (memory, .error ⟨fault, last⟩) := by
  obtain ⟨verbWord, root, last, code, grammar, formRead, remapped⟩ := matched
  have matched := Story.matchForm_eq_ok.mpr ⟨root, reading, grammar, formRead, remapped⟩
  have parsed : ((parseCommand setting memory words cursor).run scene).1 =
      .error ⟨fault, last⟩ := by
    unfold parseCommand
    rw [code]
    dsimp only
    rw [matched]
    simp only [Play.run_bind, Play.run_pure]
    rw [settleCommand_of_fault stops]
    rfl
  refine ⟨last, ?_⟩
  unfold runCommand
  rw [if_pos verb, Play.run_bind, parsed]
  rfl

/-- A position that is at fault before anything has been settled stops the command. -/
theorem givesUpWith_of_findCandidates {fault : CommandError} (verb : words.is cursor .verb = true)
    (matched : story.MatchesAt words memory cursor reading found)
    (there : found.positions[slot]? = some position)
    (stops : (position.findCandidates scene.world words memory).fault = some fault) :
    GivesUpWith setting words memory cursor scene found slot fault := by
  obtain ⟨fault', stopped, first⟩ := Attempt.each_stops there stops
  have stops' : (settlePositions scene.world words memory found.positions).fault =
      some fault' := by
    unfold settlePositions Attempt.andThen
    rw [stopped]
    exact stopped
  obtain ⟨last, ran⟩ := runCommand_of_fault verb matched stops'
  exact ⟨⟨fault', last⟩, ran, first⟩

end Stopping

/-! ## The command with the word -/

section Recalling

variable {world : World story} {words : Words} {memory : Memory} {flags : SlotFlags} {word : Nat}

theorem Position.findCandidates_ofThem :
    (ofThem flags word).findCandidates world words memory =
      (ofThem flags word).expandThem world words memory word := rfl

/-- Nobody is left whom the word could stand for. -/
theorem Position.whatWord_of_ofThem (none : memory.recalled world = []) :
    ((ofThem flags word).findCandidates world words memory).fault =
      some (.whatWord (words.text word)) := by
  rw [findCandidates_ofThem, expandThem, ← Memory.recalled, none]
  rfl

/-- There are several, where only one may be. -/
theorem Position.multipleNotAllowed_of_ofThem (several : 2 ≤ (memory.recalled world).length)
    (single : flags.multiple = false) :
    ((ofThem flags word).findCandidates world words memory).fault = some .multipleNotAllowed := by
  rw [findCandidates_ofThem, expandThem, ← Memory.recalled]
  generalize memory.recalled world = recalled at several ⊢
  rcases recalled with _ | ⟨id, _ | ⟨other, rest⟩⟩
  · cases several
  · exact absurd several (by simp)
  · have notAllowed : ¬ (ofThem flags word).flags.multiple = true := Bool.eq_false_iff.mp single
    dsimp only
    rw [if_neg notAllowed]
    rfl

/-- Otherwise the word settles to what is recalled. -/
theorem Position.Settles.of_ofThem {settled : Position}
    (settles : (ofThem flags word).Settles world words memory settled) :
    settled.all = false ∧ settled.multiple = decide (1 < (memory.recalled world).length) ∧
      settled.references = (memory.recalled world).map (Reference.settled word) := by
  cases settles with
  | recalled first begins =>
    cases begins
    exact ⟨rfl, rfl, rfl⟩
  | everything _ _ all => cases all
  | oneByOne first begins notThem =>
    cases begins
    exact absurd rfl notThem

theorem Memory.instances_of_recalled {position : Position} (nonzero : 0 ∉ memory.previous)
    (references : position.references =
      (memory.recalled world).map (Reference.settled word)) :
    position.instances = memory.recalled world := by
  unfold Position.instances
  rw [references, List.map_map]
  show ((memory.recalled world).map id).filter (· != 0) = _
  rw [List.map_id, List.filter_eq_self]
  intro id member
  have previous := List.mem_of_mem_filter member
  exact bne_iff_ne.mpr fun zero => nonzero (zero ▸ previous)

variable {setting : Setting story σ} {found : FormMatch} {scene : Scene story σ}
  {command : ParsedCommand} {stages : Stages setting memory words found scene command} {slot : Nat}

/-- One that is recalled is the parameter, and the slot has no targets. -/
theorem Stages.Slot.parameter_of_recalled (history : stages.Slot slot (.ofThem flags word))
    (read : (Position.ofThem flags word).Read) {id : InstanceId}
    (recalled : memory.recalled scene.world = [id]) :
    command.parameters[slot]? = some id ∧
      ∀ targets, command.multiple ≠ some (slot, targets) := by
  obtain ⟨-, multiple, references⟩ := history.settles.of_ofThem
  rw [recalled] at multiple references
  have single : history.settled.multiple = false := multiple
  refine ⟨?_, history.multiple_ne single⟩
  rw [history.parameter_of_single read single, Position.firstInstance, references]
  rfl

/-- Several that are recalled are the targets, but for those that the restrictions drop. -/
theorem Stages.Slot.targets_of_recalled (history : stages.Slot slot (.ofThem flags word))
    (nonzero : 0 ∉ memory.previous) (many : 2 ≤ (memory.recalled scene.world).length) :
    ∃ targets, command.multiple = some (slot, targets) ∧
      Sifted (setting.interpreter.Refuses found.restrictions scene.world)
        (parameterTests found.restrictions (slot + 1)) (memory.recalled scene.world) targets := by
  obtain ⟨list, multiple, references⟩ := history.settles.of_ofThem
  have several : history.settled.multiple = true := multiple.trans (decide_eq_true many)
  refine ⟨_, history.targets_eq several, ?_⟩
  have sifted := history.judges.sifted (history.narrowed_multiple.trans several)
  rw [history.narrowed_of_list several list,
    Memory.instances_of_recalled nonzero references] at sifted
  -- no code has run for a list before the restrictions
  apply sifted.mono
  intro world judges
  exact history.judging_world_of_list several list ▸ judges.1

end Recalling

/-- **Them recalls the targets of the previous command.**  Let a command have been read with several
targets, and let a slot of the next one be a them word.  If the hero can perceive none of the
targets any more, the next command is given up for not knowing what the word means, and if he can
perceive several in a slot for one, for that.  If it can be read, one target that is left is the
parameter, and several are the targets in the same order, less those that the restrictions on the
slot drop. -/
theorem them_recalls_targets {setting : Setting story σ} {words words' : Words}
    {memory memory' : Memory} {cursor cursor' next place index word : Nat}
    {scene scene' : Scene story σ} {command : ParsedCommand} {targets : List InstanceId}
    {reading : FormReading} {found : FormMatch} {position : Position}
    (verb : words.is cursor .verb = true)
    (parsed : ((parseCommand setting memory words cursor).run scene).1 = .ok (command, next))
    (several : command.multiple = some (place, targets))
    (left : ((runCommand setting words memory cursor).run scene).1.1 = memory')
    (verb' : words'.is cursor' .verb = true)
    (matched : story.MatchesAt words' memory' cursor' reading found)
    (perm : ∀ map, story.parameterMap? reading.form = some map →
      map.sources.Perm (List.range' 1 reading.positions.length))
    (there : reading.positions[index]? = some position) (isThem : position.IsThem words' word) :
    ∃ slot, found.positions[slot]? = some position ∧ reading.origin story slot = index ∧
      let recalled := targets.filter scene'.world.reachable
      (recalled = [] → GivesUpWith setting words' memory' cursor' scene' found slot
        (.whatWord (words'.text word))) ∧
      (2 ≤ recalled.length → position.flags.multiple = false →
        GivesUpWith setting words' memory' cursor' scene' found slot .multipleNotAllowed) ∧
      ∀ command' next',
        ((parseCommand setting memory' words' cursor').run scene').1 = .ok (command', next') →
        (∀ id, recalled = [id] → command'.parameters[slot]? = some id ∧
          ∀ targets', command'.multiple ≠ some (slot, targets')) ∧
        (2 ≤ recalled.length → ∃ targets', command'.multiple = some (slot, targets') ∧
          Sifted (setting.interpreter.Refuses found.restrictions scene'.world)
            (parameterTests found.restrictions (slot + 1)) recalled targets' ∧
          ((∀ world, setting.interpreter.Refuses found.restrictions scene'.world world →
              world = scene'.world) →
            targets' = recalled.filter (scene'.world.admits found.restrictions (slot + 1)))) := by
  obtain ⟨previous, targets_ne_nil, nonzero⟩ := previous_of_parseCommand verb parsed several
  rw [left] at previous
  subst previous
  have hasPrevious : memory'.hasPrevious = true := by
    unfold Memory.hasPrevious
    rw [Bool.not_eq_true', List.isEmpty_eq_false_iff]
    exact targets_ne_nil
  obtain ⟨slot, origin, moved⟩ := matched.exists_slot perm there
  have form : position = .ofThem position.flags word := by
    obtain ⟨_, _, _, -, -, formRead, -⟩ := matched
    exact isThem.eq_ofThem hasPrevious formRead there
  refine ⟨slot, moved, origin, ?_, ?_, ?_⟩
  · intro none
    apply givesUpWith_of_findCandidates verb' matched moved
    rw [form]
    exact Position.whatWord_of_ofThem none
  · intro many single
    apply givesUpWith_of_findCandidates verb' matched moved
    rw [form]
    exact Position.multipleNotAllowed_of_ofThem many single
  · intro command' next' parsed'
    have read : ReadAs setting memory' words' cursor' scene' reading found command' :=
      ⟨⟨next', parsed'⟩, matched⟩
    obtain ⟨stages⟩ := read.stages
    have asRead := (read.position_read moved).2.1
    obtain ⟨history⟩ := stages.slot read.reads (form ▸ moved)
    refine ⟨fun id one => ?_, fun many => ?_⟩
    · exact history.parameter_of_recalled (form ▸ asRead) one
    · obtain ⟨targets', several', sifted⟩ := history.targets_of_recalled nonzero many
      exact ⟨targets', several', sifted, fun still => (sifted.mono still).eq_filter⟩

def Scene.shop : Scene .shop Recording := { world := .initial _, state := {} }

/-- Take needle and thread, take them: the two are meant, although them is also what the scissors
are called. -/
theorem them_recalls_targets_shop :
    let words : Words := .ofShop [1, 7, 3, 8]
    let words' : Words := .ofShop [1, 4]
    let command : ParsedCommand := { verb := 2, parameters := [0], multiple := some (0, [4, 5]) }
    let taken := (runCommand Setting.shop words {} 0).run Scene.shop
    let memory' : Memory := { previous := [4, 5] }
    let position : Position := .ofThem { multiple := true } 1
    let reading : FormReading := { form := 2, restrictions := [], positions := [position] }
    let found := reading.remap Story.shop 2
    words.is 0 .verb = true ∧
    ((parseCommand Setting.shop {} words 0).run Scene.shop).1 = .ok (command, 4) ∧
    command.multiple = some (0, [4, 5]) ∧ taken.1.1 = memory' ∧ words'.is 0 .verb = true ∧
    Story.shop.MatchesAt words' memory' 0 reading found ∧
    (∀ map, Story.shop.parameterMap? 2 = some map → map.sources.Perm (List.range' 1 1)) ∧
    reading.positions[0]? = some position ∧ position.IsThem words' 1 ∧
    ∃ slot, found.positions[slot]? = some position ∧ reading.origin Story.shop slot = 0 ∧
      let recalled := [4, 5].filter taken.2.world.reachable
      (recalled = [] → GivesUpWith Setting.shop words' memory' 0 taken.2 found slot
        (.whatWord (words'.text 1))) ∧
      (2 ≤ recalled.length → position.flags.multiple = false →
        GivesUpWith Setting.shop words' memory' 0 taken.2 found slot .multipleNotAllowed) ∧
      ∀ command' next',
        ((parseCommand Setting.shop memory' words' 0).run taken.2).1 = .ok (command', next') →
        (∀ id, recalled = [id] → command'.parameters[slot]? = some id ∧
          ∀ targets', command'.multiple ≠ some (slot, targets')) ∧
        (2 ≤ recalled.length → ∃ targets', command'.multiple = some (slot, targets') ∧
          Sifted (Setting.shop.interpreter.Refuses found.restrictions taken.2.world)
            (parameterTests found.restrictions (slot + 1)) recalled targets' ∧
          ((∀ world, Setting.shop.interpreter.Refuses found.restrictions taken.2.world world →
              world = taken.2.world) →
            targets' = recalled.filter
              (taken.2.world.admits found.restrictions (slot + 1)))) := by
  intro words words' command taken memory' position reading found
  have verb : words.is 0 .verb = true := by decide
  have parsed : ((parseCommand Setting.shop {} words 0).run Scene.shop).1 = .ok (command, 4) :=
    eq_ok_of_toOption (by decide +kernel)
  have left : taken.1.1 = memory' := by decide +kernel
  have verb' : words'.is 0 .verb = true := by decide
  have matched : Story.shop.MatchesAt words' memory' 0 reading found :=
    ⟨2, ⟨2, 4⟩, 2, rfl, rfl, eq_ok_of_toOption (by decide +kernel), rfl⟩
  have perm : ∀ map, Story.shop.parameterMap? 2 = some map →
      map.sources.Perm (List.range' 1 1) := by
    intro map own
    cases own
    exact List.Perm.refl _
  have isThem : position.IsThem words' 1 := ⟨⟨_, rfl, rfl, rfl⟩, rfl, by decide, by decide⟩
  exact ⟨verb, parsed, rfl, left, verb', matched, perm, rfl, isThem,
    them_recalls_targets verb parsed rfl left verb' matched perm rfl isThem⟩

end TextAdventure
