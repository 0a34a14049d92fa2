import TextAdventure.Command
import TextAdventure.Proofs.Multiple
import TextAdventure.Proofs.Restricting
/-!
# The stages of a command

A command that is read without a fault has gone through its stages one after the other: the words
match a form, the references are settled, several targets are cut down, the restrictions are applied
(`Stages`).  None of them moves a position, so each slot of the command has a history of its own
(`Stages.slot`).
-/

namespace TextAdventure

variable {story : Story} {σ : Type}

/-! ## Worlds during the restrictions -/

/-- The worlds in which the restrictions of a form can look at the instances of a command.  It stays
the same one if nothing but all has several targets. -/
def Interpreter.Judges (interpreter : Interpreter story σ) (restrictions : List Restriction)
    (positions : List Position) (start world : World story) : Prop :=
  interpreter.Refuses restrictions start world ∧
    ((∀ position ∈ positions, position.multiple = true → position.all = true) → world = start)

theorem refusalsWithin_judges (setting : Setting story σ) (restrictions : List Restriction)
    (positions : List Position) (start : World story) :
    RefusalsWithin (setting.interpreter.Judges restrictions positions start) setting positions
      restrictions := by
  intro position member multiple notAll restriction restricts context id scene judges
  refine ⟨Restriction.refusesWithin_refuses setting restricts start context id scene judges.1, ?_⟩
  intro quiet
  rw [quiet position member multiple] at notAll
  cases notAll

/-! ## Settling in stages -/

/-- The stages of a command whose form is known.  Between them only the log is written to. -/
structure Stages (setting : Setting story σ) (memory : Memory) (words : Words) (found : FormMatch)
    (scene : Scene story σ) (command : ParsedCommand) where
  settled : List Position
  narrowed : List Position
  left : List Position
  multiple : Option Nat
  /-- The scene in which several targets are cut down. -/
  trial : Scene story σ
  /-- The scene in which the restrictions are applied. -/
  judging : Scene story σ
  settles : settlePositions scene.world words memory found.positions = .success settled
  trial_world : trial.world = scene.world
  narrows : ((settleMultiple setting words found.verb settled).run trial).1 =
    .success (narrowed, multiple)
  judging_world :
    judging.world = ((settleMultiple setting words found.verb settled).run trial).2.world
  restricts : ((restrictPositions setting found.verb found.restrictions narrowed).run judging).1 =
    .success left
  makes : ParsedCommand.ofPositions found.verb left multiple = .ok command

/-- But for the log, the second scene is the first one. -/
def Scene.SameButLog (scene after : Scene story σ) : Prop := ∃ log, after = { scene with log }

namespace Scene.SameButLog

variable {scene after : Scene story σ}

theorem world_eq (same : scene.SameButLog after) : after.world = scene.world := by
  obtain ⟨log, rfl⟩ := same
  rfl

theorem transcript_eq (same : scene.SameButLog after) : after.transcript = scene.transcript := by
  obtain ⟨log, rfl⟩ := same
  rfl

end Scene.SameButLog

theorem sameButLog_tracePositions (setting : Setting story σ) (stage : String)
    (positions : List Position) {before scene : Scene story σ} (same : before.SameButLog scene) :
    before.SameButLog ((tracePositions setting stage positions).run scene).2 := by
  obtain ⟨log, rfl⟩ := same
  unfold tracePositions
  rw [Play.run_onlyIf]
  split
  · exact ⟨_, rfl⟩
  · exact ⟨log, rfl⟩

section Settled

variable {setting : Setting story σ} {memory : Memory} {words : Words} {found : FormMatch}
  {scene : Scene story σ} {command : ParsedCommand}

/-- How the settling of a command ends: at the first of its stages that fails, or after all of them
with the command that is left. -/
inductive SettlesTo (setting : Setting story σ) (memory : Memory) (words : Words)
    (found : FormMatch) (scene : Scene story σ) :
    Except CommandError ParsedCommand → Scene story σ → Prop where
  | unsettled {positions : List Position} {fault : CommandError} {after : Scene story σ}
      (settles : settlePositions scene.world words memory found.positions =
        .failure positions fault) (same : scene.SameButLog after) :
      SettlesTo setting memory words found scene (.error fault) after
  | unnarrowed {settled : List Position} {trial after : Scene story σ}
      {narrowed : List Position × Option Nat} {fault : CommandError}
      (settles : settlePositions scene.world words memory found.positions = .success settled)
      (same : scene.SameButLog trial)
      (narrows : (settleMultiple setting words found.verb settled).run trial =
        (.failure narrowed fault, after)) :
      SettlesTo setting memory words found scene (.error fault) after
  | unrestricted {settled narrowed left : List Position} {multiple : Option Nat}
      {trial judging after : Scene story σ} {fault : CommandError}
      (settles : settlePositions scene.world words memory found.positions = .success settled)
      (same : scene.SameButLog trial)
      (narrows : (settleMultiple setting words found.verb settled).run trial =
        (.success (narrowed, multiple), judging))
      (restricts : (restrictPositions setting found.verb found.restrictions narrowed).run judging =
        (.failure left fault, after)) :
      SettlesTo setting memory words found scene (.error fault) after
  | restricted {settled narrowed left : List Position} {multiple : Option Nat}
      {trial judging judged after : Scene story σ} {result : Except CommandError ParsedCommand}
      (settles : settlePositions scene.world words memory found.positions = .success settled)
      (same : scene.SameButLog trial)
      (narrows : (settleMultiple setting words found.verb settled).run trial =
        (.success (narrowed, multiple), judging))
      (restricts : (restrictPositions setting found.verb found.restrictions narrowed).run judging =
        (.success left, judged))
      (same' : judged.SameButLog after)
      (makes : ParsedCommand.ofPositions found.verb left multiple = result) :
      SettlesTo setting memory words found scene result after

theorem settlesTo_settleCommand (setting : Setting story σ) (memory : Memory) (words : Words)
    (found : FormMatch) (scene : Scene story σ) :
    SettlesTo setting memory words found scene
      ((settleCommand setting memory words found).run scene).1
      ((settleCommand setting memory words found).run scene).2 := by
  unfold settleCommand
  simp only [Play.run_bind, Play.run_note, Play.run_world]
  -- the references are settled in the world as it is, whatever has been noted
  have noted : scene.SameButLog { scene with log := scene.log ++ found.remarks } := ⟨_, rfl⟩
  have matched := sameButLog_tracePositions setting "matched" found.positions noted
  generalize ((tracePositions setting "matched" found.positions).run
    { scene with log := scene.log ++ found.remarks }).2 = looking at matched ⊢
  rw [matched.world_eq]
  split
  · next settles => exact .unsettled settles matched
  · next settled settles =>
    simp only [Play.run_bind]
    have resolved := sameButLog_tracePositions setting "resolved" settled matched
    generalize ((tracePositions setting "resolved" settled).run looking).2 = trial at resolved ⊢
    generalize narrows : (settleMultiple setting words found.verb settled).run trial = tried
    obtain ⟨⟨⟨narrowed, multiple⟩, fault⟩, judging⟩ := tried
    cases fault with
    | some fault => exact .unnarrowed settles resolved narrows
    | none =>
      simp only [Play.run_bind]
      generalize restricts :
        (restrictPositions setting found.verb found.restrictions narrowed).run judging = judged
      obtain ⟨⟨left, fault⟩, judged⟩ := judged
      cases fault with
      | some fault => exact .unrestricted settles resolved narrows restricts
      | none =>
        have unchanged : judged.SameButLog judged := ⟨judged.log, rfl⟩
        have traced := sameButLog_tracePositions setting "restricted" left unchanged
        exact .restricted settles resolved narrows restricts traced rfl

/-- Whatever settles has gone through the stages, and the last of them leaves the world behind in
which the command is dispatched. -/
theorem exists_stages
    (success : ((settleCommand setting memory words found).run scene).1 = .ok command) :
    ∃ stages : Stages setting memory words found scene command,
      ((settleCommand setting memory words found).run scene).2.world =
        ((restrictPositions setting found.verb found.restrictions stages.narrowed).run
          stages.judging).2.world := by
  have ended := settlesTo_settleCommand setting memory words found scene
  rw [success] at ended
  generalize ((settleCommand setting memory words found).run scene).2 = after at ended ⊢
  cases ended with
  | @restricted settled narrowed left multiple trial judging judged _ _ settles same narrows
      restricts same' makes =>
    refine ⟨⟨settled, narrowed, left, multiple, trial, judging, settles, same.world_eq,
      congrArg Prod.fst narrows, congrArg (fun run => run.2.world) narrows.symm,
      congrArg Prod.fst restricts, makes⟩, ?_⟩
    rw [same'.world_eq]
    exact congrArg (fun run => run.2.world) restricts.symm

/-! ## Reading a command -/

/-- The words from the cursor on are read as a command.  `reading` has the positions in the order of
the words, `found` in that of the verb's parameters. -/
structure ReadAs (setting : Setting story σ) (memory : Memory) (words : Words) (cursor : Nat)
    (scene : Scene story σ) (reading : FormReading) (found : FormMatch)
    (command : ParsedCommand) : Prop where
  parsed : ∃ next, ((parseCommand setting memory words cursor).run scene).1 = .ok (command, next)
  matched : ∃ verbWord root last, words.code? cursor = some verbWord ∧
    story.grammar? verbWord = some root ∧
    story.readForm words memory root.table (cursor + 1) = .ok (reading, last) ∧
    reading.remap story verbWord = found

variable {cursor : Nat} {reading : FormReading}

theorem finishCommand_eq_ok {last next : Nat} {settled : Except CommandError ParsedCommand}
    (finished : finishCommand words last settled = .ok (command, next)) :
    settled = .ok command := by
  unfold finishCommand at finished
  split at finished
  · cases finished
  · split at finished
    · cases finished
      rfl
    · split at finished
      · cases finished
        rfl
      · cases finished

theorem eq_ok_of_toOption {ε α : Type} {result : Except ε α} {value : α}
    (ok : result.toOption = some value) : result = .ok value := by
  cases result with
  | error => cases ok
  | ok => cases ok; rfl

/-- A reading that has been evaluated. -/
theorem readAs_of_toOption (verbWord : WordCode) (root : GrammarRoot) (last next : Nat)
    (code : words.code? cursor = some verbWord) (grammar : story.grammar? verbWord = some root)
    (formRead : (story.readForm words memory root.table (cursor + 1)).toOption =
      some (reading, last))
    (remapped : reading.remap story verbWord = found)
    (parsed : ((parseCommand setting memory words cursor).run scene).1.toOption =
      some (command, next)) : ReadAs setting memory words cursor scene reading found command :=
  ⟨⟨next, eq_ok_of_toOption parsed⟩, verbWord, root, last, code, grammar,
    eq_ok_of_toOption formRead, remapped⟩

/-- Every command that is read is read in some form. -/
theorem readAs_of_parseCommand {next : Nat}
    (parsed : ((parseCommand setting memory words cursor).run scene).1 = .ok (command, next)) :
    ∃ reading found, ReadAs setting memory words cursor scene reading found command := by
  cases code : words.code? cursor with
  | none =>
    unfold parseCommand at parsed
    rw [code] at parsed
    cases parsed
  | some verbWord =>
    cases match? : story.matchForm words memory verbWord (cursor + 1) with
    | error stop =>
      unfold parseCommand at parsed
      rw [code] at parsed
      dsimp only at parsed
      rw [match?] at parsed
      cases parsed
    | ok matched =>
      obtain ⟨found, last⟩ := matched
      obtain ⟨root, reading, grammar, formRead, remapped⟩ := Story.matchForm_eq_ok.mp match?
      exact ⟨reading, found, ⟨next, parsed⟩, verbWord, root, last, code, grammar, formRead,
        remapped⟩

namespace ReadAs

/-- A command that is read has been settled, and its reading does nothing else. -/
theorem settles (read : ReadAs setting memory words cursor scene reading found command) :
    ((settleCommand setting memory words found).run scene).1 = .ok command ∧
      ((parseCommand setting memory words cursor).run scene).2 =
        ((settleCommand setting memory words found).run scene).2 := by
  obtain ⟨⟨next, parsed⟩, verbWord, root, last, code, grammar, formRead, remapped⟩ := read
  have matched := Story.matchForm_eq_ok.mpr ⟨root, reading, grammar, formRead, remapped⟩
  unfold parseCommand at parsed ⊢
  rw [code] at parsed ⊢
  dsimp only at parsed ⊢
  rw [matched] at parsed ⊢
  simp only [Play.run_bind, Play.run_pure] at parsed ⊢
  exact ⟨finishCommand_eq_ok parsed, trivial⟩

theorem stages (read : ReadAs setting memory words cursor scene reading found command) :
    Nonempty (Stages setting memory words found scene command) := by
  obtain ⟨stages, -⟩ := exists_stages read.settles.1
  exact ⟨stages⟩

theorem length_positions (read : ReadAs setting memory words cursor scene reading found command) :
    found.positions.length = reading.positions.length := by
  obtain ⟨-, _, _, _, -, -, -, rfl⟩ := read
  exact FormReading.length_remap ..

/-- The parameter map has put a position of the form into every slot. -/
theorem position_eq (read : ReadAs setting memory words cursor scene reading found command)
    {slot : Nat} (inRange : slot < found.positions.length) :
    found.positions[slot]? = reading.positions[reading.origin story slot]? := by
  rw [read.length_positions] at inRange
  obtain ⟨-, _, _, _, -, -, -, rfl⟩ := read
  exact FormReading.getElem?_remap _ inRange

/-- A position is as its slot in the grammar was read. -/
theorem position_read (read : ReadAs setting memory words cursor scene reading found command)
    {slot : Nat} {position : Position} (there : found.positions[slot]? = some position) :
    reading.positions[reading.origin story slot]? = some position ∧ position.Read ∧
      ∃ table next, .parameter position.flags next ∈ story.elements table := by
  have inRange := (List.getElem?_eq_some_iff.mp there).1
  rw [read.position_eq inRange] at there
  obtain ⟨-, _, _, _, -, -, formRead, -⟩ := read
  exact ⟨there, Story.mem_positions_of_readForm formRead (List.mem_of_getElem? there)⟩

theorem reads (read : ReadAs setting memory words cursor scene reading found command) :
    ∀ position ∈ found.positions, position.Read := by
  intro position member
  obtain ⟨slot, there⟩ := List.mem_iff_getElem?.mp member
  exact (read.position_read there).2.1

end ReadAs

/-! ## Slots -/

/-- The command has an instance in a slot, as its parameter or as one of its targets. -/
def ParsedCommand.Has (command : ParsedCommand) (slot : Nat) (id : InstanceId) : Prop :=
  command.parameters[slot]? = some id ∨
    ∃ targets, command.multiple = some (slot, targets) ∧ id ∈ targets

theorem ParsedCommand.ofPositions_eq_ok {verb : WordCode} {positions : List Position}
    {multiple : Option Nat} (made : ofPositions verb positions multiple = .ok command) :
    command.verb = verb ∧ command.parameters = parameterVector positions ∧
      command.multiple =
        multiple.map fun slot => (slot, ((positions[slot]?).map (·.instances)).getD []) := by
  unfold ofPositions at made
  split at made
  · cases made
    exact ⟨rfl, rfl, rfl⟩
  · split at made
    · cases made
    · cases made
      exact ⟨rfl, rfl, rfl⟩

namespace Stages

/-- What became of the position in a slot, stage by stage. -/
structure Slot (stages : Stages setting memory words found scene command) (slot : Nat)
    (position : Position) where
  settled : Position
  narrowed : Position
  judged : Position
  settles : position.Settles scene.world words memory settled
  narrows : settled.Narrows setting words found.verb stages.settled stages.trial stages.multiple
    slot narrowed
  judges : narrowed.Judged
    (setting.interpreter.Judges found.restrictions stages.narrowed stages.judging.world)
    (parameterTests found.restrictions (slot + 1)) judged
  settled_at : stages.settled[slot]? = some settled
  narrowed_at : stages.narrowed[slot]? = some narrowed
  left_at : stages.left[slot]? = some judged.compress

variable (stages : Stages setting memory words found scene command)

/-- **Every slot has its history.** -/
theorem slot (reads : ∀ position ∈ found.positions, position.Read) {slot : Nat}
    {position : Position} (there : found.positions[slot]? = some position) :
    Nonempty (stages.Slot slot position) := by
  obtain ⟨settled, settled_at, settles⟩ :=
    forall₂_getElem? (settlePositions_eq_success reads stages.settles) there
  obtain ⟨narrowed, narrowed_at, narrows⟩ := settleMultiple_eq_success stages.narrows settled_at
  obtain ⟨-, -, places⟩ := restrictPositions_eq_success
    (refusalsWithin_judges setting found.restrictions stages.narrowed stages.judging.world)
    ⟨.start, fun _ => rfl⟩ stages.restricts
  obtain ⟨judged, left_at, judges⟩ := places slot narrowed narrowed_at
  exact ⟨settled, narrowed, judged, settles, narrows, judges, settled_at, narrowed_at, left_at⟩

/-- No position is lost or gained. -/
theorem length_settled (reads : ∀ position ∈ found.positions, position.Read) :
    stages.settled.length = found.positions.length :=
  (settlePositions_eq_success reads stages.settles).length_eq.symm

theorem length_narrowed : stages.narrowed.length = stages.settled.length :=
  length_of_settleMultiple stages.narrows

/-- The place of a position with several targets is the one that was found. -/
theorem multiple_of_settled {slot : Nat} {settled : Position}
    (there : stages.settled[slot]? = some settled) (several : settled.multiple = true) :
    stages.multiple = some slot := by
  obtain ⟨_, -, narrows⟩ := settleMultiple_eq_success stages.narrows there
  exact (narrows.several several).1

theorem multiple_of_narrowed {slot : Nat} {narrowed : Position}
    (there : stages.narrowed[slot]? = some narrowed) (several : narrowed.multiple = true) :
    stages.multiple = some slot := by
  have inRange := (List.getElem?_eq_some_iff.mp there).1
  rw [stages.length_narrowed] at inRange
  have before := List.getElem?_eq_getElem inRange
  obtain ⟨left, left_at, narrows⟩ := settleMultiple_eq_success stages.narrows before
  rw [there] at left_at
  cases left_at
  rw [narrows.same] at several
  exact stages.multiple_of_settled before several

/-! ## What a slot contributes to the command -/

namespace Slot

variable {stages} {slot : Nat} {position : Position} (history : stages.Slot slot position)

theorem narrowed_multiple : history.narrowed.multiple = history.settled.multiple := by
  rw [history.narrows.same]

theorem judged_multiple : history.judged.multiple = history.settled.multiple := by
  rw [history.judges.same, history.narrowed_multiple]

/-- At a stage where only the slot of the targets has several instances, no other position has. -/
theorem eq_of_several (several : history.settled.multiple = true) {positions : List Position}
    (only : ∀ {slot' : Nat} {other : Position}, positions[slot']? = some other →
      other.multiple = true → stages.multiple = some slot')
    {own other : Position} (own_at : positions[slot]? = some own) (member : other ∈ positions)
    (multiple : other.multiple = true) : other = own := by
  obtain ⟨slot', there⟩ := List.mem_iff_getElem?.mp member
  have slots := only there multiple
  rw [stages.multiple_of_settled history.settled_at several, Option.some_inj] at slots
  rw [← slots, own_at] at there
  exact (Option.some_inj.mp there).symm

theorem eq_of_settled (several : history.settled.multiple = true) {other : Position}
    (member : other ∈ stages.settled) (multiple : other.multiple = true) :
    other = history.settled :=
  history.eq_of_several several stages.multiple_of_settled history.settled_at member multiple

theorem eq_of_narrowed (several : history.settled.multiple = true) {other : Position}
    (member : other ∈ stages.narrowed) (multiple : other.multiple = true) :
    other = history.narrowed :=
  history.eq_of_several several stages.multiple_of_narrowed history.narrowed_at member multiple

/-- Several instances become the targets. -/
theorem targets_eq (several : history.settled.multiple = true) :
    command.multiple = some (slot, history.judged.instances) := by
  obtain ⟨-, -, multiple⟩ := ParsedCommand.ofPositions_eq_ok stages.makes
  rw [multiple, (history.narrows.several several).1, Option.map_some, history.left_at]
  exact congrArg (fun targets => some (slot, targets)) (Position.instances_compress _)

theorem parameter_of_several (several : history.settled.multiple = true) :
    command.parameters[slot]? = some 0 := by
  obtain ⟨-, parameters, -⟩ := ParsedCommand.ofPositions_eq_ok stages.makes
  rw [parameters, parameterVector, List.getElem?_map, history.left_at]
  exact congrArg some (if_pos (history.judged_multiple.trans several))

/-- A single instance becomes the parameter. -/
theorem parameter_of_single (read : position.Read) (single : history.settled.multiple = false) :
    command.parameters[slot]? = some history.settled.firstInstance := by
  obtain ⟨-, parameters, -⟩ := ParsedCommand.ofPositions_eq_ok stages.makes
  obtain ⟨same, -⟩ := history.narrows.single single
  obtain ⟨references, -⟩ := history.judges.single (same ▸ single)
  obtain ⟨reference, only⟩ := history.settles.single_reference read single
  have single' : ¬ history.judged.compress.multiple = true :=
    Bool.eq_false_iff.mp (history.judged_multiple.trans single)
  rw [parameters, parameterVector, List.getElem?_map, history.left_at, Option.map_some,
    if_neg single']
  unfold Position.firstInstance Position.compress
  rw [references, same, only]
  -- a reference without an instance counts as 0, whether it goes or stays
  by_cases none : reference.id = 0 <;> simp [none]

theorem multiple_ne (single : history.settled.multiple = false) (targets : List InstanceId) :
    command.multiple ≠ some (slot, targets) := by
  obtain ⟨-, -, multiple⟩ := ParsedCommand.ofPositions_eq_ok stages.makes
  obtain ⟨-, elsewhere⟩ := history.narrows.single single
  rw [multiple]
  intro here
  obtain ⟨slot', at_slot', same⟩ := Option.map_eq_some_iff.mp here
  cases same
  exact elsewhere at_slot'

/-- A settled position has several instances if and only if its slot has the targets. -/
theorem multiple_iff :
    history.settled.multiple = true ↔ ∃ targets, command.multiple = some (slot, targets) := by
  constructor
  · intro several
    exact ⟨_, history.targets_eq several⟩
  · rintro ⟨targets, several⟩
    by_contra single
    exact history.multiple_ne (Bool.eq_false_iff.mpr single) targets several

theorem has_of_single (read : position.Read) (single : history.settled.multiple = false)
    {id : InstanceId} : command.Has slot id ↔ id = history.settled.firstInstance := by
  unfold ParsedCommand.Has
  rw [history.parameter_of_single read single, Option.some_inj]
  constructor
  · rintro (same | ⟨targets, here, -⟩)
    · exact same.symm
    · exact absurd here (history.multiple_ne single targets)
  · rintro rfl
    exact Or.inl rfl

theorem has_of_several (several : history.settled.multiple = true) {id : InstanceId}
    (some : id ≠ 0) : command.Has slot id ↔ id ∈ history.judged.instances := by
  unfold ParsedCommand.Has
  rw [history.parameter_of_several several, history.targets_eq several, Option.some_inj]
  constructor
  · rintro (none | ⟨targets, same, member⟩)
    · exact absurd none.symm some
    · cases same
      exact member
  · intro member
    exact Or.inr ⟨_, rfl, member⟩

/-! A list stays as it was settled, up to the restrictions. -/

theorem narrowed_of_list (several : history.settled.multiple = true)
    (list : history.settled.all = false) :
    history.narrowed.instances = history.settled.instances := by
  obtain ⟨-, narrow⟩ := history.narrows.several several
  rw [Position.narrow_of_list list] at narrow
  rw [Position.narrowList_eq_success narrow, Position.instances_compress]

/-- The command has nothing in the slot but what was settled. -/
theorem mem_settled_of_has (read : position.Read) (list : history.settled.all = false)
    {id : InstanceId} (some : id ≠ 0) (has : command.Has slot id) :
    id ∈ history.settled.instances := by
  by_cases several : history.settled.multiple = true
  · have judged := (history.has_of_several several some).mp has
    obtain ⟨narrowed, -⟩ :=
      history.judges.passes_of_mem (history.narrowed_multiple.trans several) judged
    rw [history.narrowed_of_list several list] at narrowed
    exact narrowed
  · have isFirst := (history.has_of_single read (Bool.eq_false_iff.mpr several)).mp has
    rw [isFirst] at some ⊢
    exact Position.mem_instances_of_firstInstance some

/-- What a list was settled to is in the command, unless it failed a test. -/
theorem has_or_fails (several : history.settled.multiple = true)
    (list : history.settled.all = false) {id : InstanceId}
    (settled : id ∈ history.settled.instances) :
    command.Has slot id ∨
      Fails (setting.interpreter.Judges found.restrictions stages.narrowed stages.judging.world)
        (parameterTests found.restrictions (slot + 1)) id := by
  rw [← history.narrowed_of_list several list] at settled
  have some := (Position.mem_instances.mp settled).1
  rcases history.judges.left_or_fails (history.narrowed_multiple.trans several) settled with
    left | fails
  · exact Or.inl ((history.has_of_several several some).mpr left)
  · exact Or.inr fails

/-- A single instance cannot fail one. -/
theorem has_of_mem_settled (read : position.Read) (single : history.settled.multiple = false)
    {id : InstanceId} (settled : id ∈ history.settled.instances) : command.Has slot id := by
  obtain ⟨reference, only⟩ := history.settles.single_reference read single
  obtain ⟨-, reference', member, rfl⟩ := Position.mem_instances.mp settled
  rw [only, List.mem_singleton] at member
  rw [history.has_of_single read single, Position.firstInstance, only, member]
  rfl

end Slot

include stages in
/-- The command has one parameter for every position. -/
theorem length_parameters (reads : ∀ position ∈ found.positions, position.Read) :
    command.parameters.length = found.positions.length := by
  obtain ⟨-, parameters, -⟩ := ParsedCommand.ofPositions_eq_ok stages.makes
  obtain ⟨-, length, -⟩ := restrictPositions_eq_success
    (refusalsWithin_judges setting found.restrictions stages.narrowed stages.judging.world)
    ⟨.start, fun _ => rfl⟩ stages.restricts
  rw [parameters, parameterVector, List.length_map, length, stages.length_narrowed,
    stages.length_settled reads]

/-- The parameters are those that the verb was tried with. -/
theorem parameters_eq (reads : ∀ position ∈ found.positions, position.Read) :
    command.parameters = parameterVector stages.settled := by
  refine List.ext_getElem? fun slot => ?_
  cases there : found.positions[slot]? with
  | none =>
    have outside := List.getElem?_eq_none_iff.mp there
    rw [List.getElem?_eq_none (by rw [stages.length_parameters reads]; exact outside),
      List.getElem?_eq_none (by
        rw [parameterVector, List.length_map, stages.length_settled reads]; exact outside)]
  | some position =>
    obtain ⟨history⟩ := stages.slot reads there
    rw [parameterVector, List.getElem?_map, history.settled_at, Option.map_some]
    by_cases several : history.settled.multiple = true
    · rw [history.parameter_of_several several, if_pos several]
    · rw [history.parameter_of_single (reads _ (List.mem_of_getElem? there))
        (Bool.eq_false_iff.mpr several), if_neg several]

/-- The slot with several targets has the position that settled to them. -/
theorem settled_of_multiple {slot : Nat} {targets : List InstanceId}
    (several : command.multiple = some (slot, targets)) :
    ∃ settled, stages.settled[slot]? = some settled ∧ settled.multiple = true := by
  obtain ⟨-, -, multiple⟩ := ParsedCommand.ofPositions_eq_ok stages.makes
  rw [multiple] at several
  obtain ⟨index, isIndex, same⟩ := Option.map_eq_some_iff.mp several
  cases same
  rcases settleMultiple_cases stages.narrows with
    ⟨-, -, none⟩ | ⟨index, _, _, place, -, -, -, isIndex'⟩
  · rw [none] at isIndex
    cases isIndex
  · rw [isIndex, Option.some_inj] at isIndex'
    exact (multiplePosition_eq_some place slot).mp isIndex'

include stages in
/-- What the command has in a slot has a position of the form behind it. -/
theorem position_of_has (reads : ∀ position ∈ found.positions, position.Read) {slot : Nat}
    {id : InstanceId} (has : command.Has slot id) :
    ∃ position, found.positions[slot]? = some position := by
  suffices inRange : slot < found.positions.length from
    ⟨_, List.getElem?_eq_getElem inRange⟩
  rcases has with parameter | ⟨targets, several, -⟩
  · rw [← stages.length_parameters reads]
    exact (List.getElem?_eq_some_iff.mp parameter).1
  · obtain ⟨settled, there, -⟩ := stages.settled_of_multiple several
    rw [← stages.length_settled reads]
    exact (List.getElem?_eq_some_iff.mp there).1

end Stages

end Settled

/-! ## A story to try it on -/

/-- A cave with a lamp, a key, a sword and a coin that is not there.  Whatever is an object can be
dropped, except for the sword: the condition at 50 stands in the way. -/
def Story.cave : Story where
  predefined := { entity := 1, thing := 2, object := 3, location := 4, actor := 5 }
  hero := 2
  classes := [
    { code := 1, name := "entity", parent := 0 },
    { code := 2, name := "thing", parent := 1 },
    { code := 3, name := "object", parent := 2 },
    { code := 4, name := "location", parent := 1 },
    { code := 5, name := "actor", parent := 2 }]
  instances := [
    { code := 1, name := "cave", parent := 4, location := 0 },
    { code := 2, name := "hero", parent := 5, location := 1 },
    { code := 3, name := "lamp", parent := 3, location := 1 },
    { code := 4, name := "key", parent := 3, location := 1 },
    { code := 5, name := "sword", parent := 3, location := 1,
      verbs := [{ code := 1, bodies := [{ checks := [⟨some 50, none⟩] }] }] },
    { code := 6, name := "coin", parent := 3, location := 0 }]
  dictionary := { entries := [
    { word := "drop", code := 1, classes := .verb },
    { word := "all", code := 2, classes := .all },
    { word := "except", code := 3, classes := .except },
    { word := "and", code := 4, classes := .conjunction },
    { word := "them", code := 5, classes := .them },
    { word := "lamp", code := 6, classes := .noun, nounOf := [3] },
    { word := "key", code := 7, classes := .noun, nounOf := [4] }] }
  grammars := [{ verb := 1, table := 0 }]
  tables := [[.parameter { multiple := true } 1], [.finish 1 []]]
  parameterMaps := [{ form := 1, verb := 1, sources := [1] }]
  globalVerbs := [{ code := 1, bodies := [{ action := some 100 }] }]

/-- Words of the cave, by their places in its dictionary. -/
def Words.ofCave (entries : List Nat) : Words where
  words := entries.map fun index =>
    .known index (((Story.cave.dictionary.entries[index]?).map (·.word)).getD "")
  dictionary := Story.cave.dictionary

/-- In the cave, the condition at 50 does not hold. -/
def Setting.cave : Setting .cave Recording := ⟨.scripted _ { conditions := [(50, false)] }, {}⟩

def Scene.cave : Scene .cave Recording := { world := .initial _, state := {} }

/-- Drop all except the lamp. -/
example : (((parseCommand Setting.cave {} (.ofCave [0, 1, 2, 5]) 0).run Scene.cave).1).toOption =
    some ({ verb := 1, parameters := [0], multiple := some (0, [4]) }, 4) := by
  decide +kernel

/-- A room with an apple and scales that weigh whatever there is, numbers and texts included. -/
def Story.scales : Story where
  predefined := {
    entity := 1, thing := 2, object := 3, location := 4, actor := 5, literal := 6
    integer := 7, string := 8 }
  hero := 2
  classes := [
    { code := 1, name := "entity", parent := 0 },
    { code := 2, name := "thing", parent := 1 },
    { code := 3, name := "object", parent := 2 },
    { code := 4, name := "location", parent := 1 },
    { code := 5, name := "actor", parent := 2 },
    { code := 6, name := "literal", parent := 1 },
    { code := 7, name := "integer", parent := 6 },
    { code := 8, name := "string", parent := 6 }]
  instances := [
    { code := 1, name := "room", parent := 4, location := 0 },
    { code := 2, name := "hero", parent := 5, location := 1 },
    { code := 3, name := "apple", parent := 3, location := 1 }]
  dictionary := { entries := [
    { word := "weigh", code := 1, classes := .verb },
    { word := "and", code := 2, classes := .conjunction },
    { word := "them", code := 3, classes := .them },
    { word := "apple", code := 4, classes := .noun, nounOf := [3] }] }
  grammars := [{ verb := 1, table := 0 }]
  tables := [
    [.parameter { multiple := true } 1],
    [.finish 1 [{ parameter := 1, requirement := .ofClass 1, statements := none }]]]
  parameterMaps := [{ form := 1, verb := 1, sources := [1] }]
  globalVerbs := [{ code := 1, bodies := [{ action := some 100 }] }]

def Setting.scales : Setting .scales Recording := ⟨.scripted _ {}, {}⟩

end TextAdventure
