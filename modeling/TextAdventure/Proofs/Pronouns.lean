import TextAdventure.Proofs.Choosing
import TextAdventure.Proofs.Recalling
/-!
# What a pronoun stands for

A pronoun that fills a slot all by itself stands for the parameters of the command before that are
called by it: those whose first pronoun in the dictionary has its code, so that pronouns with one
code stand for the same.  If there are none, or several, the command is given up, and otherwise the
pronoun goes to the one that there is, as far as the hero can perceive it or the slot is omnipotent
(`pronoun_recalls_parameters`).  Only what the command before was read as counts, not what it did.
-/

namespace TextAdventure

variable {story : Story} {σ : Type}

/-! ## The command before -/

/-- The parameters of a command that are called by the pronoun with some code, each once and in
order. -/
def ParsedCommand.calledBy (command : ParsedCommand) (dictionary : Dictionary)
    (code : WordCode) : List InstanceId :=
  command.parameters.eraseDups.filter fun id => id ≠ 0 ∧ dictionary.FirstPronoun id code

/-- The pronoun stands for exactly these. -/
theorem Memory.pronounInstances_ofCommand (dictionary : Dictionary) (command : ParsedCommand)
    (targets : List InstanceId) (code : WordCode) :
    (ofCommand dictionary command.parameters targets).pronounInstances code =
      command.calledBy dictionary code := by
  unfold ofCommand ParsedCommand.calledBy
  split
  · next none =>
    rw [List.isEmpty_iff.mp none]
    rfl
  · show ((bindings dictionary command.parameters).filter _).map _ = _
    rw [bindings_eq, List.filter_filterMap, List.map_filterMap, List.filterMap_filter,
      ← List.filterMap_eq_filter]
    -- both sides are one pass over the parameters, so it is enough to look at one of them
    congr 1
    funext id
    simp only [← Dictionary.pronounFor_eq_some, binding?, Option.guard]
    by_cases none : id = 0
    · simp [none]
    · cases registered : dictionary.pronounFor id with
      | none => simp [none]
      | some pronoun => by_cases same : pronoun = code <;> simp [none, same]

/-- Only a command with several targets leaves any behind. -/
theorem Memory.multiple_ne_none_of_hasPrevious {dictionary : Dictionary} {command : ParsedCommand}
    (previous : (ofCommand dictionary command.parameters command.targets).hasPrevious = true) :
    command.multiple ≠ none := by
  intro single
  unfold ofCommand ParsedCommand.targets at previous
  rw [single] at previous
  split at previous <;> cases previous

/-! ## Reading the word -/

/-- A position is exactly one word, a pronoun that is not also an all word. -/
structure Position.IsPronoun (words : Words) (position : Position) (word : Nat) : Prop where
  alone : ∃ reference, position.references = [reference] ∧ reference.first = word ∧
    reference.last = word
  noExceptions : position.exceptions = []
  pronoun : words.is word .pronoun = true
  notAll : words.is word .all = false

/-- A pronoun that is a slot of its own, unsettled. -/
def Position.ofPronoun (flags : SlotFlags) (word : Nat) : Position :=
  { references := [{ kind := .pronoun, first := word, last := word }], flags }

/-- The same, settled to the only instance that it can stand for. -/
def Position.ofPronounFor (flags : SlotFlags) (word : Nat) (id : InstanceId) : Position :=
  { references := [{ kind := .pronoun, first := word, last := word, candidates := [id], id }],
    flags }

section Reading

variable {words : Words} {memory : Memory} {word : Nat} {position : Position}

/-- Unless it is a them word with previous targets, a pronoun is read as nothing else. -/
theorem Words.ReadsOne.pronoun_of_not_recalls {reference : Reference} {cursor next : Nat}
    (one : words.ReadsOne memory reference cursor next)
    (isPronoun : words.is cursor .pronoun = true) (recallsNot : ¬ words.Recalls memory cursor) :
    reference = { kind := .pronoun, first := cursor, last := cursor } := by
  cases one with
  | them recalls => exact absurd recalls recallsNot
  | literal word =>
    rw [Words.is_of_value word] at isPronoun
    cases isPronoun
  | pronoun => rfl
  | phrase notPronoun =>
    rw [isPronoun] at notPronoun
    cases notPronoun

theorem Position.IsPronoun.eq_ofPronoun {reading : FormReading} {table cursor last index : Nat}
    (isPronoun : position.IsPronoun words word) (recallsNot : ¬ words.Recalls memory word)
    (read : story.readForm words memory table cursor = .ok (reading, last))
    (there : reading.positions[index]? = some position) :
    position = .ofPronoun position.flags word := by
  obtain ⟨⟨reference, alone, rfl, -⟩, -, pronoun, notAll⟩ := isPronoun
  obtain ⟨form, _, one⟩ := readsOne_of_alone read there alone notAll
  have asPronoun := one.pronoun_of_not_recalls pronoun recallsNot
  unfold ofPronoun
  rw [← asPronoun]
  exact form

end Reading

/-! ## Settling the word -/

theorem Words.pronounCandidates_eq {words : Words} {memory : Memory} {word : Nat}
    {code : WordCode} (known : words.code? word = some code) :
    words.pronounCandidates memory word =
      match memory.pronounInstances code with
      | [] => .error (.whatWord (words.text word))
      | [id] => .ok [id]
      | ids => .error (.whichPronoun (words.text word) ids) := by
  unfold pronounCandidates
  rw [known]
  rfl

/-- A single candidate is taken if it is present or the slot is omnipotent. -/
theorem Choice.ofCandidates_singleton (world : World story) (id : InstanceId)
    (omnipotent : Bool) :
    ofCandidates world [id] omnipotent =
      if world.reachable id = true ∨ omnipotent = true then .settled id else .noSuch := by
  split
  · next possible =>
    rw [ofCandidates_eq_settled_iff]
    cases reachable : world.reachable id with
    | true => exact Or.inl (by simp [reachable])
    | false =>
      rw [reachable] at possible
      exact Or.inr ⟨possible.resolve_left Bool.false_ne_true, by simp [reachable], rfl⟩
  · next impossible =>
    rw [not_or, Bool.not_eq_true, Bool.not_eq_true] at impossible
    rw [ofCandidates_eq_noSuch_iff]
    exact ⟨by simp [impossible.1], Or.inl impossible.2⟩

theorem Words.spanText_self {words : Words} {word : Nat} (lt : word < words.size) :
    words.spanText word word = words.text word := by
  rw [spanText_eq lt, Nat.add_sub_cancel_left, List.range'_one, List.map_singleton,
    String.intercalate_singleton]

theorem Attempt.each_singleton {ε α : Type} (change : α → Attempt ε α) (x : α) :
    each change [x] = (change x).map ([·]) := by
  unfold each
  split <;> next changed => rw [changed]; rfl

namespace Position

variable {world : World story} {words : Words} {memory : Memory} {flags : SlotFlags} {word : Nat}

/-- A position settles to an instance, without regard to the others. -/
def ResolvesTo (world : World story) (words : Words) (memory : Memory) (position : Position)
    (id : InstanceId) : Prop :=
  ∃ settled, position.resolve world words memory = .success settled ∧ settled.instances = [id]

/-- A single reference is looked up and then settled. -/
theorem resolve_of_single {reference : Reference} (notThem : reference.kind ≠ .them) :
    ({ references := [reference], flags } : Position).resolve world words memory =
      ((reference.withCandidates words memory).andThen
        (Reference.settle world words flags.omnipotent)).map
          fun settled => { references := [settled], flags } := by
  unfold resolve findCandidates settle
  dsimp only
  rw [if_neg notThem, if_neg Bool.false_ne_true, Attempt.each_singleton]
  cases reference.withCandidates words memory with
  | mk found fault =>
    cases fault with
    | some fault => rfl
    | none =>
      simp only [Attempt.andThen, Attempt.map, Attempt.each_singleton, Bool.false_eq_true,
        if_false]

theorem resolve_ofPronoun_of_error {fault : CommandError}
    (stops : words.pronounCandidates memory word = .error fault) :
    ((ofPronoun flags word).resolve world words memory).fault = some fault := by
  unfold ofPronoun
  rw [resolve_of_single ReferenceKind.noConfusion]
  unfold Reference.withCandidates Reference.findCandidates
  dsimp only
  rw [stops]
  rfl

/-- One candidate is left to the choice. -/
theorem resolve_ofPronoun_of_ok (lt : word < words.size) {id : InstanceId}
    (one : words.pronounCandidates memory word = .ok [id]) :
    (ofPronoun flags word).resolve world words memory =
      if world.reachable id = true ∨ flags.omnipotent = true then
        .success (ofPronounFor flags word id)
      else
        .failure
          { references := [{ kind := .pronoun, first := word, last := word, candidates := [id] }],
            flags }
          (.noSuch (words.text word)) := by
  -- memory gives the candidate, the world decides about it
  let found : Reference := { kind := .pronoun, first := word, last := word, candidates := [id] }
  have looked : Reference.withCandidates words memory
      { kind := .pronoun, first := word, last := word } = .success found := by
    unfold Reference.withCandidates Reference.findCandidates
    dsimp only
    rw [one]
  have chosen : found.settle world words flags.omnipotent =
      if world.reachable id = true ∨ flags.omnipotent = true then .success { found with id }
      else .failure found (.noSuch (words.text word)) := by
    unfold Reference.settle Reference.phrase
    rw [Choice.ofCandidates_singleton, Words.spanText_self lt]
    by_cases possible : world.reachable id = true ∨ flags.omnipotent = true
    · rw [if_pos possible, if_pos possible]
    · rw [if_neg possible, if_neg possible]
  unfold ofPronoun
  rw [resolve_of_single ReferenceKind.noConfusion, looked]
  show Attempt.map _ (found.settle world words flags.omnipotent) = _
  rw [chosen]
  split <;> rfl

theorem resolvesTo_ofPronoun_iff (lt : word < words.size) {id : InstanceId} (some : id ≠ 0)
    (one : words.pronounCandidates memory word = .ok [id]) :
    (ofPronoun flags word).ResolvesTo world words memory id ↔
      world.reachable id = true ∨ flags.omnipotent = true := by
  unfold ResolvesTo
  rw [resolve_ofPronoun_of_ok lt one]
  split
  · next possible =>
    refine iff_of_true ⟨_, rfl, ?_⟩ possible
    simp [instances, ofPronounFor, some]
  · next impossible =>
    refine iff_of_false ?_ impossible
    rintro ⟨settled, resolved, -⟩
    have stopped := congrArg Attempt.fault resolved
    cases stopped

end Position

/-! ## The command with the word -/

section Stopping

variable {setting : Setting story σ} {memory : Memory} {words : Words} {found : FormMatch}
  {scene : Scene story σ} {cursor slot : Nat} {reading : FormReading} {position : Position}

/-- The command at the cursor is given up with a fault, unless the position in another slot is at
fault.  This may be a later one: all positions are looked up before any of them is settled. -/
def FailsWith (setting : Setting story σ) (words : Words) (memory : Memory) (cursor : Nat)
    (scene : Scene story σ) (found : FormMatch) (slot : Nat) (fault : CommandError) : Prop :=
  ∃ stop, ((runCommand setting words memory cursor).run scene).1 = (memory, .error stop) ∧
    (stop.error = fault ∨ ∃ other position, other ≠ slot ∧
      found.positions[other]? = some position ∧
      (position.resolve scene.world words memory).fault = some stop.error)

/-- A position that stops by itself stops all, with its own fault or with that of another one. -/
theorem settlePositions_stops {world : World story} {positions : List Position}
    {fault : CommandError} (there : positions[slot]? = some position)
    (stops : (position.resolve world words memory).fault = some fault) :
    ∃ fault', (settlePositions world words memory positions).fault = some fault' ∧
      (fault' = fault ∨ ∃ other position, other ≠ slot ∧ positions[other]? = some position ∧
        (position.resolve world words memory).fault = some fault') := by
  cases stopped : (settlePositions world words memory positions).fault with
  | none =>
    -- otherwise the position would have been settled
    have resolves := settlePositions_resolves (Attempt.eq_success_of_fault stopped)
    obtain ⟨_, -, resolved⟩ := forall₂_getElem? resolves there
    rw [resolved] at stops
    cases stops
  | some fault' =>
    obtain ⟨position', member, stops'⟩ := fault_of_settlePositions_resolve stopped
    obtain ⟨other, there'⟩ := List.mem_iff_getElem?.mp member
    refine ⟨fault', rfl, ?_⟩
    by_cases same : other = slot
    · subst same
      rw [there] at there'
      cases there'
      rw [stops] at stops'
      exact Or.inl (Option.some_inj.mp stops').symm
    · exact Or.inr ⟨other, position', same, there', stops'⟩

theorem failsWith_of_resolve {fault : CommandError} (verb : words.is cursor .verb = true)
    (matched : story.MatchesAt words memory cursor reading found)
    (there : found.positions[slot]? = some position)
    (stops : (position.resolve scene.world words memory).fault = some fault) :
    FailsWith setting words memory cursor scene found slot fault := by
  obtain ⟨fault', stopped, cause⟩ := settlePositions_stops there stops
  obtain ⟨last, ran⟩ := runCommand_of_fault verb matched stopped
  exact ⟨⟨fault', last⟩, ran, cause⟩

end Stopping

section Recalling

variable {setting : Setting story σ} {memory : Memory} {words : Words} {found : FormMatch}
  {scene : Scene story σ} {command : ParsedCommand}
  {stages : Stages setting memory words found scene command} {slot : Nat}

/-- What a slot settles to among the others is what it settles to by itself. -/
theorem Stages.Slot.resolve_eq {position : Position} (history : stages.Slot slot position)
    (there : found.positions[slot]? = some position) :
    position.resolve scene.world words memory = .success history.settled := by
  obtain ⟨settled, there', resolved⟩ :=
    forall₂_getElem? (settlePositions_resolves stages.settles) there
  rw [history.settled_at] at there'
  cases there'
  exact resolved

/-- A pronoun that settles is the parameter. -/
theorem Stages.Slot.parameter_of_ofPronoun {flags : SlotFlags} {word : Nat} {id : InstanceId}
    (history : stages.Slot slot (.ofPronoun flags word))
    (there : found.positions[slot]? = some (.ofPronoun flags word))
    (read : (Position.ofPronoun flags word).Read) (lt : word < words.size)
    (one : words.pronounCandidates memory word = .ok [id]) :
    command.parameters[slot]? = some id ∧
      ∀ targets, command.multiple ≠ some (slot, targets) := by
  have resolved := history.resolve_eq there
  rw [Position.resolve_ofPronoun_of_ok lt one] at resolved
  split at resolved
  · have settled : .ofPronounFor flags word id = history.settled :=
      congrArg Attempt.value resolved
    have single : history.settled.multiple = false := settled ▸ rfl
    refine ⟨?_, history.multiple_ne single⟩
    rw [history.parameter_of_single read single, ← settled]
    rfl
  · have stopped := congrArg Attempt.fault resolved
    cases stopped

end Recalling

/-- **A pronoun recalls the parameters of the previous command.**  Let a command have been read, and
let a slot of the next one be a pronoun that is not a them word with targets to stand for.  If none
of the parameters of the first command is called by the pronoun, the next one is given up for not
knowing what the word means, and if several are, for not knowing which of them it means; these are
listed.  If there is just one, the slot settles to it exactly if the hero can perceive it by then or
the slot is omnipotent, and otherwise there is no such thing.  What has happened since the first
command was read makes no difference but for that. -/
theorem pronoun_recalls_parameters {setting : Setting story σ} {words words' : Words}
    {memory memory' : Memory} {cursor cursor' next index word : Nat} {code : WordCode}
    {scene scene' : Scene story σ} {command : ParsedCommand} {reading : FormReading}
    {found : FormMatch} {position : Position} (verb : words.is cursor .verb = true)
    (parsed : ((parseCommand setting memory words cursor).run scene).1 = .ok (command, next))
    (left : ((runCommand setting words memory cursor).run scene).1.1 = memory')
    (verb' : words'.is cursor' .verb = true)
    (matched : story.MatchesAt words' memory' cursor' reading found)
    (perm : ∀ map, story.parameterMap? reading.form = some map →
      map.sources.Perm (List.range' 1 reading.positions.length))
    (there : reading.positions[index]? = some position)
    (isPronoun : position.IsPronoun words' word) (known : words'.code? word = some code)
    (notThem : words'.is word .them = true → command.multiple = none) :
    ∃ slot, found.positions[slot]? = some position ∧ reading.origin story slot = index ∧
      let called := command.calledBy words.dictionary code
      (called = [] → FailsWith setting words' memory' cursor' scene' found slot
        (.whatWord (words'.text word))) ∧
      (2 ≤ called.length → FailsWith setting words' memory' cursor' scene' found slot
        (.whichPronoun (words'.text word) called)) ∧
      ∀ id, called = [id] →
        (position.ResolvesTo scene'.world words' memory' id ↔
          scene'.world.reachable id = true ∨ position.flags.omnipotent = true) ∧
        (¬ position.ResolvesTo scene'.world words' memory' id →
          FailsWith setting words' memory' cursor' scene' found slot
            (.noSuch (words'.text word))) ∧
        ∀ command' next',
          ((parseCommand setting memory' words' cursor').run scene').1 = .ok (command', next') →
          command'.parameters[slot]? = some id ∧
            ∀ targets, command'.multiple ≠ some (slot, targets) := by
  have lt : word < words'.size := Words.lt_size_of_is isPronoun.pronoun
  have remembered : memory' =
      Memory.ofCommand words.dictionary command.parameters command.targets := by
    rw [← left, runCommand_memory_of_parsed verb parsed]
  have candidates : words'.pronounCandidates memory' word = _ := Words.pronounCandidates_eq known
  rw [remembered, Memory.pronounInstances_ofCommand, ← remembered] at candidates
  have recallsNot : ¬ words'.Recalls memory' word := by
    rintro ⟨isThem, notPronoun | previous⟩
    · rw [isPronoun.pronoun] at notPronoun
      cases notPronoun
    · -- targets are left behind only where the first command had several
      rw [remembered] at previous
      exact Memory.multiple_ne_none_of_hasPrevious previous (notThem isThem)
  obtain ⟨slot, origin, moved⟩ := matched.exists_slot perm there
  have form : position = .ofPronoun position.flags word := by
    obtain ⟨_, _, _, -, -, formRead, -⟩ := matched
    exact isPronoun.eq_ofPronoun recallsNot formRead there
  refine ⟨slot, moved, origin, ?_, ?_, ?_⟩
  · intro none
    apply failsWith_of_resolve verb' matched moved
    rw [none] at candidates
    rw [form, Position.resolve_ofPronoun_of_error candidates]
  · intro several
    apply failsWith_of_resolve verb' matched moved
    generalize command.calledBy words.dictionary code = called at candidates several ⊢
    rcases called with _ | ⟨id, _ | ⟨other, rest⟩⟩
    · cases several
    · exact absurd several (by simp)
    · rw [form, Position.resolve_ofPronoun_of_error candidates]
  · intro id only
    have some : id ≠ 0 := by
      have member : id ∈ command.calledBy words.dictionary code := by
        rw [only]
        exact List.mem_singleton_self id
      exact (of_decide_eq_true (List.mem_filter.mp member).2).1
    rw [only] at candidates
    have resolves_iff : position.ResolvesTo scene'.world words' memory' id ↔
        scene'.world.reachable id = true ∨ position.flags.omnipotent = true := by
      rw [form]
      exact Position.resolvesTo_ofPronoun_iff lt some candidates
    refine ⟨resolves_iff, ?_, ?_⟩
    · intro unresolved
      apply failsWith_of_resolve verb' matched moved
      rw [form, Position.resolve_ofPronoun_of_ok lt candidates,
        if_neg (resolves_iff.not.mp unresolved), Attempt.fault_failure]
    · intro command' next' parsed'
      have read : ReadAs setting memory' words' cursor' scene' reading found command' :=
        ⟨⟨next', parsed'⟩, matched⟩
      obtain ⟨stages⟩ := read.stages
      have asRead := (read.position_read moved).2.1
      rw [form] at moved asRead
      obtain ⟨history⟩ := stages.slot read.reads moved
      exact history.parameter_of_ofPronoun moved asRead lt candidates

/-- Cut thread with scissors, take them: there were no several targets, so that them can only be
what the scissors are called. -/
theorem pronoun_recalls_parameters_shop :
    let words : Words := .ofShop [0, 8, 2, 6]
    let words' : Words := .ofShop [1, 4]
    let command : ParsedCommand := { verb := 1, parameters := [5, 3] }
    let cut := (runCommand Setting.shop words {} 0).run Scene.shop
    let memory' : Memory := { pronouns := [⟨6, 5⟩, ⟨5, 3⟩] }
    let position : Position := .ofPronoun { multiple := true } 1
    let reading : FormReading := { form := 2, restrictions := [], positions := [position] }
    let found := reading.remap Story.shop 2
    words.is 0 .verb = true ∧
    ((parseCommand Setting.shop {} words 0).run Scene.shop).1 = .ok (command, 4) ∧
    cut.1.1 = memory' ∧ words'.is 0 .verb = true ∧
    Story.shop.MatchesAt words' memory' 0 reading found ∧
    (∀ map, Story.shop.parameterMap? 2 = some map → map.sources.Perm (List.range' 1 1)) ∧
    reading.positions[0]? = some position ∧ position.IsPronoun words' 1 ∧
    words'.code? 1 = some 5 ∧ (words'.is 1 .them = true → command.multiple = none) ∧
    command.calledBy words.dictionary 5 = [3] ∧
    ∃ slot, found.positions[slot]? = some position ∧ reading.origin Story.shop slot = 0 ∧
      let called := command.calledBy words.dictionary 5
      (called = [] → FailsWith Setting.shop words' memory' 0 cut.2 found slot
        (.whatWord (words'.text 1))) ∧
      (2 ≤ called.length → FailsWith Setting.shop words' memory' 0 cut.2 found slot
        (.whichPronoun (words'.text 1) called)) ∧
      ∀ id, called = [id] →
        (position.ResolvesTo cut.2.world words' memory' id ↔
          cut.2.world.reachable id = true ∨ position.flags.omnipotent = true) ∧
        (¬ position.ResolvesTo cut.2.world words' memory' id →
          FailsWith Setting.shop words' memory' 0 cut.2 found slot (.noSuch (words'.text 1))) ∧
        ∀ command' next',
          ((parseCommand Setting.shop memory' words' 0).run cut.2).1 = .ok (command', next') →
          command'.parameters[slot]? = some id ∧
            ∀ targets, command'.multiple ≠ some (slot, targets) := by
  intro words words' command cut memory' position reading found
  have verb : words.is 0 .verb = true := by decide
  have parsed : ((parseCommand Setting.shop {} words 0).run Scene.shop).1 = .ok (command, 4) :=
    eq_ok_of_toOption (by decide +kernel)
  have left : cut.1.1 = memory' := by decide +kernel
  have verb' : words'.is 0 .verb = true := by decide
  have matched : Story.shop.MatchesAt words' memory' 0 reading found :=
    ⟨2, ⟨2, 4⟩, 2, rfl, rfl, eq_ok_of_toOption (by decide +kernel), rfl⟩
  have perm : ∀ map, Story.shop.parameterMap? 2 = some map →
      map.sources.Perm (List.range' 1 1) := by
    intro map own
    cases own
    exact List.Perm.refl _
  have isPronoun : position.IsPronoun words' 1 :=
    ⟨⟨_, rfl, rfl, rfl⟩, rfl, by decide, by decide⟩
  have notThem : words'.is 1 .them = true → command.multiple = none := fun _ => rfl
  have called : command.calledBy words.dictionary 5 = [3] := by decide +kernel
  exact ⟨verb, parsed, left, verb', matched, perm, rfl, isPronoun, rfl, notThem, called,
    pronoun_recalls_parameters verb parsed left verb' matched perm rfl isPronoun rfl notThem⟩

end TextAdventure
