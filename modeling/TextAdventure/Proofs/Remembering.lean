import TextAdventure.Proofs.Lines
import TextAdventure.Proofs.Stages
/-!
# What is remembered

The literals of a line lose their numbers when the next line begins, while memory goes from line to
line.  What pronouns stand for comes from the dictionary, and nothing else that is remembered comes
from a literal but the targets of a list: a literal at its head becomes one of them where the form
admits it (`Memory.Sound`).  Then its number is still there for a them word when it has come to
name nothing, or another literal (`remembered_of_lines`).
-/

namespace TextAdventure

variable {story : Story} {σ : Type}

/-! ## Ordinary instances -/

/-- The number is that of an instance of the story, not of a literal. -/
def Story.IsOrdinary (story : Story) (id : InstanceId) : Prop := 1 ≤ id ∧ id ≤ story.instanceMax

/-- The words of the story refer to nothing but its instances. -/
def Story.RefersToOrdinary (story : Story) : Prop :=
  ∀ entry ∈ story.dictionary.entries,
    ∀ id ∈ entry.adjectiveOf ++ entry.nounOf ++ entry.pronounFor, story.IsOrdinary id

instance (story : Story) (id : InstanceId) : Decidable (story.IsOrdinary id) :=
  inferInstanceAs (Decidable (_ ∧ _))

instance (story : Story) : Decidable story.RefersToOrdinary :=
  inferInstanceAs (Decidable (∀ entry ∈ story.dictionary.entries, ∀ id ∈ _, story.IsOrdinary id))

theorem World.isOrdinary_of_everythingHere {world : World story} {id : InstanceId}
    (here : id ∈ world.everythingHere) : story.IsOrdinary id := by
  obtain ⟨bounds, -⟩ := List.mem_filter.mp here
  obtain ⟨positive, below⟩ := List.mem_range'_1.mp bounds
  exact ⟨positive, Nat.lt_one_add_iff.mp below⟩

/-! ## What a reference can settle to -/

theorem mem_commonMembers {lists : List (List InstanceId)} {id : InstanceId} :
    id ∈ commonMembers lists ↔ lists ≠ [] ∧ ∀ list ∈ lists, id ∈ list := by
  cases lists with
  | nil => simp [commonMembers]
  | cons first rest => simp [commonMembers, mem_foldl_filter]

section References

variable {words : Words} {memory : Memory} {world : World story} {id : InstanceId}

/-- A phrase stands for instances that the dictionary knows. -/
theorem Words.isOrdinary_of_phraseCandidates (refers : story.RefersToOrdinary)
    (own : words.dictionary = story.dictionary) {first last : Nat}
    (member : id ∈ words.phraseCandidates first last) : story.IsOrdinary id := by
  obtain ⟨some, all⟩ := mem_commonMembers.mp member
  obtain ⟨ids, listed⟩ := List.exists_mem_of_ne_nil _ some
  have inIds := all ids listed
  obtain ⟨index, -, found⟩ := List.mem_filterMap.mp listed
  obtain ⟨entry, there, rfl⟩ := Option.map_eq_some_iff.mp found
  obtain ⟨place, -, entry?⟩ := Option.bind_eq_some_iff.mp there
  have known : entry ∈ story.dictionary.entries := own ▸ List.mem_of_getElem? entry?
  refine refers entry known id (List.mem_append_left _ ?_)
  split at inIds
  · exact List.mem_append_right _ inIds
  · exact List.mem_append_left _ inIds

theorem Choice.mem_of_ofCandidates {candidates : List InstanceId} {omnipotent : Bool}
    (chosen : ofCandidates world candidates omnipotent = .settled id) : id ∈ candidates := by
  rw [ofCandidates, List.partition_eq_filter_filter] at chosen
  rcases between_eq_settled chosen with only | ⟨-, -, only⟩
  · exact List.mem_of_mem_filter (only ▸ List.mem_singleton_self id)
  · exact List.mem_of_mem_filter (only ▸ List.mem_singleton_self id)

theorem Reference.mem_of_settlesTo? {omnipotent : Bool} {reference : Reference}
    (settles : reference.settlesTo? world words memory omnipotent = some id) :
    ∃ candidates, reference.findCandidates words memory = .ok candidates ∧ id ∈ candidates := by
  unfold settlesTo? at settles
  split at settles
  · cases settles
  · next candidates search =>
    split at settles
    · next choice =>
      cases settles
      exact ⟨candidates, search, Choice.mem_of_ofCandidates choice⟩
    · cases settles

theorem Memory.mem_of_pronounCandidates {index : Nat} {candidates : List InstanceId}
    (search : words.pronounCandidates memory index = .ok candidates) (member : id ∈ candidates) :
    ∃ binding ∈ memory.pronouns, binding.id = id := by
  have among : id ∈ memory.pronounInstances ((words.code? index).getD 0) := by
    unfold Words.pronounCandidates at search
    split at search
    · cases search
    · next only =>
      cases search
      exact only ▸ member
    · cases search
  obtain ⟨binding, bound, rfl⟩ := List.mem_map.mp among
  exact ⟨binding, List.mem_of_mem_filter bound, rfl⟩

/-- What a reference settles to is ordinary as long as memory is, or it is a literal. -/
theorem Reference.ordinary_or_literal (refers : story.RefersToOrdinary)
    (own : words.dictionary = story.dictionary)
    (bound : ∀ binding ∈ memory.pronouns, story.IsOrdinary binding.id) {omnipotent : Bool}
    {reference : Reference}
    (settles : reference.settlesTo? world words memory omnipotent = some id) :
    story.IsOrdinary id ∨ ∃ value value', reference.kind = .literal value ∧
      words.word? reference.first = some (.value value' id) := by
  obtain ⟨candidates, search, member⟩ := mem_of_settlesTo? settles
  unfold findCandidates at search
  split at search
  · next value kind =>
    split at search
    · next value' _ word =>
      cases search
      rw [List.mem_singleton.mp member]
      exact Or.inr ⟨value, value', kind, word⟩
    · cases search
      cases member
  · obtain ⟨binding, there, rfl⟩ := Memory.mem_of_pronounCandidates search member
    exact Or.inl (bound binding there)
  · cases search
    exact Or.inl (Words.isOrdinary_of_phraseCandidates refers own member)
  · cases search
    cases member

end References

/-! ## Literals in lists -/

namespace Words

variable {words : Words} {memory : Memory} {flags : SlotFlags} {cursor next : Nat}
  {references : List Reference} {reference : Reference} {value : Literal}

/-- The number is that of a literal to which a further reference is joined. -/
def JoinsLiteral (words : Words) (id : InstanceId) : Prop :=
  ∃ index value, words.word? index = some (.value value id) ∧
    words.joinsReferences (index + 1) = true

/-- A literal is of no class but its own. -/
theorem is_of_value {id : InstanceId} (word : words.word? cursor = some (.value value id))
    (cls : WordClasses) : words.is cursor cls = WordClasses.literal.contains cls := by
  unfold is classes
  rw [word]

theorem word_of_loneKind? (kind : words.loneKind? memory cursor = some (.literal value)) :
    ∃ id, words.word? cursor = some (.value value id) := by
  unfold loneKind? at kind
  dsimp only at kind
  split at kind
  · cases kind
  · split at kind
    · next id word =>
      cases kind
      exact ⟨id, word⟩
    · split at kind <;> cases kind

theorem literal_of_reference (read : words.reference memory cursor = .ok (some reference, next))
    (literal : reference.kind = .literal value) :
    reference.first = cursor ∧ next = cursor + 1 ∧
      ∃ id, words.word? cursor = some (.value value id) := by
  unfold Words.reference at read
  split at read
  · next kind lone =>
    cases read
    cases literal
    exact ⟨rfl, rfl, word_of_loneKind? lone⟩
  · unfold phrase at read
    dsimp only at read
    split at read
    · cases read
      cases literal
    · split at read <;> cases read

/-- References that begin with an adjective or a noun have no literal among them. -/
theorem no_literal_of_joined (read : words.references memory cursor = .ok (references, next))
    (begins : words.is cursor .adjective = true ∨ words.is cursor .noun = true)
    (member : reference ∈ references) : reference.kind ≠ .literal value := by
  have first : ∀ {cursor next} {r : Reference},
      words.reference memory cursor = .ok (some r, next) →
      (words.is cursor .adjective = true ∨ words.is cursor .noun = true) →
        r.kind ≠ .literal value := by
    intro cursor next r read begins literal
    obtain ⟨-, -, id, word⟩ := literal_of_reference read literal
    rw [is_of_value word, is_of_value word] at begins
    rcases begins with impossible | impossible <;> cases impossible
  fun_induction Words.references words memory cursor generalizing references next with
  | case1 => cases read
  | case2 => cases read; cases member
  | case3 => cases read
  | case4 cursor r middle referenceRead joined rest last restRead ih =>
    cases read
    rcases List.mem_cons.mp member with rfl | member
    · exact first referenceRead begins
    · -- only an adjective or a noun joins a further reference
      rw [joinsReferences, Bool.and_eq_true, Bool.or_eq_true] at joined
      exact ih restRead joined.2 member
  | case5 cursor r last referenceRead =>
    cases read
    rw [List.mem_singleton.mp member]
    exact first referenceRead begins

/-- A literal is the first of its references, and a further one is joined to it. -/
theorem reference_of_literal (read : words.references memory cursor = .ok (references, next))
    (member : reference ∈ references) (literal : reference.kind = .literal value) :
    ∃ middle rest, words.reference memory cursor = .ok (some reference, middle) ∧
      references = reference :: rest ∧ (rest ≠ [] → words.joinsReferences middle = true) := by
  unfold Words.references at read
  split at read
  · cases read
  · cases read
    cases member
  · next r middle referenceRead =>
    split at read
    · next joined =>
      split at read
      · cases read
      · next rest last restRead =>
        cases read
        rcases List.mem_cons.mp member with rfl | member
        · exact ⟨middle, rest, referenceRead, rfl, fun _ => joined⟩
        · rw [joinsReferences, Bool.and_eq_true, Bool.or_eq_true] at joined
          exact absurd literal (no_literal_of_joined restRead joined.2 member)
    · cases read
      obtain rfl := List.mem_singleton.mp member
      exact ⟨_, [], referenceRead, rfl, fun some => absurd rfl some⟩

/-- Behind a literal of several references the next one is joined to it. -/
theorem joins_of_literal (read : words.references memory cursor = .ok (references, next))
    (several : 1 < references.length) (member : reference ∈ references)
    (literal : reference.kind = .literal value) :
    words.joinsReferences (reference.first + 1) = true := by
  obtain ⟨middle, rest, referenceRead, rfl, joined⟩ := reference_of_literal read member literal
  obtain ⟨first, rfl, -⟩ := literal_of_reference referenceRead literal
  rw [first]
  exact joined (List.length_pos_iff.mp (Nat.lt_of_succ_lt_succ several))

end Words

/-! ## Sound memory -/

/-- Memory holds ordinary instances, but for targets that have been brought in otherwise. -/
structure Memory.Sound (story : Story) (brought : InstanceId → Prop) (memory : Memory) : Prop where
  bindings : ∀ binding ∈ memory.pronouns, story.IsOrdinary binding.id
  previous : ∀ id ∈ memory.previous, story.IsOrdinary id ∨ brought id

/-- Some form of the story has a parameter whose tests the number can pass. -/
def Story.AdmitsSomewhere (story : Story) (id : InstanceId) : Prop :=
  ∃ table form restrictions number, .finish form restrictions ∈ story.elements table ∧
    Passes (fun _ : World story => True) (parameterTests restrictions number) id

namespace Memory

variable {brought : InstanceId → Prop}

theorem sound_empty (story : Story) (brought : InstanceId → Prop) : Sound story brought {} :=
  ⟨List.forall_mem_nil _, List.forall_mem_nil _⟩

theorem mem_foldl_addBinding {new bindings : List PronounBinding} {binding : PronounBinding}
    (member : binding ∈ new.foldl addBinding bindings) : binding ∈ bindings ∨ binding ∈ new := by
  induction new generalizing bindings with
  | nil => exact Or.inl member
  | cons b rest ih =>
    rcases ih member with before | later
    · unfold addBinding at before
      split at before
      · exact Or.inl before
      · rcases List.mem_append.mp before with before | here
        · exact Or.inl before
        · exact Or.inr (List.mem_singleton.mp here ▸ List.mem_cons_self ..)
    · exact Or.inr (List.mem_cons_of_mem b later)

/-- A pronoun stands for what the dictionary gives it. -/
theorem isOrdinary_of_bindings (refers : story.RefersToOrdinary) {parameters : List InstanceId}
    {binding : PronounBinding} (member : binding ∈ bindings story.dictionary parameters) :
    story.IsOrdinary binding.id := by
  rcases mem_foldl_addBinding member with impossible | new
  · cases impossible
  · obtain ⟨id, -, bound⟩ := List.mem_filterMap.mp new
    obtain ⟨pronoun, registered, rfl⟩ := Option.map_eq_some_iff.mp bound
    obtain ⟨entry, found, -⟩ := Option.map_eq_some_iff.mp registered
    have known := (List.mem_filter.mp (List.mem_of_find?_eq_some found)).1
    have stands : id ∈ entry.pronounFor := by simpa using List.find?_some found
    exact refers entry known id (List.mem_append_right _ stands)

/-- What is remembered of a command is sound if its targets are. -/
theorem sound_ofCommand (refers : story.RefersToOrdinary) {parameters targets : List InstanceId}
    (sound : ∀ id ∈ targets, story.IsOrdinary id ∨ brought id) :
    (ofCommand story.dictionary parameters targets).Sound story brought := by
  unfold ofCommand
  split
  · exact sound_empty story brought
  · exact ⟨fun binding member => isOrdinary_of_bindings refers member, sound⟩

end Memory

/-! ## Targets -/

section Targets

variable {words : Words} {memory : Memory} {world : World story} {brought : InstanceId → Prop}

/-- Several instances that a position settles to are ordinary or remembered, or a literal is the
first of a list. -/
theorem Position.Settles.ordinary_or_literal {position settled : Position} {flags : SlotFlags}
    {cursor after : Nat} (settles : position.Settles world words memory settled)
    (read : words.position memory flags cursor = .ok (position, after))
    (several : settled.multiple = true) (refers : story.RefersToOrdinary)
    (own : words.dictionary = story.dictionary) (sound : memory.Sound story brought)
    {id : InstanceId} (member : id ∈ settled.instances) :
    story.IsOrdinary id ∨ brought id ∨ words.JoinsLiteral id := by
  obtain ⟨-, reference, there, rfl⟩ := mem_instances.mp member
  cases settles with
  | recalled _ _ _ _ =>
    obtain ⟨target, recalled, rfl⟩ := List.mem_map.mp there
    rcases sound.previous target (List.mem_of_mem_filter recalled) with ordinary | brought
    · exact Or.inl ordinary
    · exact Or.inr (Or.inl brought)
  | everything _ _ _ _ =>
    obtain ⟨target, here, rfl⟩ := List.mem_map.mp there
    exact Or.inl (World.isOrdinary_of_everythingHere here)
  | oneByOne _ _ _ notAll references settled =>
    obtain ⟨spelt, inPosition, settles, -⟩ := forall₂_right settled there
    rcases Reference.ordinary_or_literal refers own sound.bindings settles with
      ordinary | ⟨value, value', literal, word⟩
    · exact Or.inl ordinary
    · -- the position is a list, for it stands for several
      obtain ⟨slotRead, -, -⟩ := Words.position_eq_ok read
      rcases Words.slot_eq_ok slotRead with ⟨exceptions, rfl⟩ | ⟨rs, referencesRead, rfl⟩
      · cases notAll
      · have joins := Words.joins_of_literal referencesRead (of_decide_eq_true several) inPosition
          literal
        exact Or.inr (Or.inr ⟨spelt.first, value', word, joins⟩)

/-- **Where targets come from.**  A target of a command that is read is ordinary or was remembered,
or it is a literal that a further reference is joined to and that the form admits. -/
theorem target_ordinary_or_literal {setting : Setting story σ} {cursor : Nat}
    {scene : Scene story σ} {reading : FormReading} {found : FormMatch} {command : ParsedCommand}
    (read : ReadAs setting memory words cursor scene reading found command)
    (refers : story.RefersToOrdinary) (own : words.dictionary = story.dictionary)
    (sound : memory.Sound story brought) {id : InstanceId} (member : id ∈ command.targets) :
    story.IsOrdinary id ∨ brought id ∨ words.JoinsLiteral id ∧ story.AdmitsSomewhere id := by
  obtain ⟨stages⟩ := read.stages
  unfold ParsedCommand.targets at member
  cases several : command.multiple with
  | none =>
    rw [several] at member
    cases member
  | some targeted =>
    obtain ⟨slot, targets⟩ := targeted
    rw [several] at member
    have target : id ∈ targets := member
    obtain ⟨position, there⟩ :=
      stages.position_of_has read.reads (Or.inr ⟨targets, several, target⟩)
    obtain ⟨history⟩ := stages.slot read.reads there
    have isMultiple := history.multiple_iff.mpr ⟨targets, several⟩
    rw [history.targets_eq isMultiple] at several
    cases several
    -- the target was in the position all the way from its settling
    obtain ⟨narrowed, passes⟩ :=
      history.judges.passes_of_mem (history.narrowed_multiple.trans isMultiple) target
    have settled : id ∈ history.settled.instances :=
      Position.mem_of_narrow (history.narrows.several isMultiple).2 narrowed
    obtain ⟨asRead, -, -⟩ := read.position_read there
    obtain ⟨-, verbWord, root, last, -, -, formRead, remapped⟩ := read
    obtain ⟨_, _, flags, _, _, -, positionRead⟩ :=
      Story.position_of_mem_readForm formRead (List.mem_of_getElem? asRead)
    rcases history.settles.ordinary_or_literal positionRead isMultiple refers own sound settled with
      ordinary | brought | joins
    · exact Or.inl ordinary
    · exact Or.inr (Or.inl brought)
    · obtain ⟨table, closes⟩ := Story.finish_of_readForm formRead
      have restrictions : found.restrictions = reading.restrictions := by
        rw [← remapped, FormReading.restrictions_remap]
      rw [← restrictions] at closes
      exact Or.inr (Or.inr ⟨joins, table, reading.form, found.restrictions, slot + 1, closes,
        passes.mono fun _ _ => trivial⟩)

end Targets

/-! ## Commands and lines -/

section Lines

variable {setting : Setting story σ} {brought : InstanceId → Prop}

/-- One command keeps memory sound. -/
theorem sound_of_runCommand {words : Words} {memory : Memory} {cursor : Nat}
    {scene : Scene story σ} (refers : story.RefersToOrdinary)
    (own : words.dictionary = story.dictionary)
    (brings : ∀ id, words.JoinsLiteral id → story.AdmitsSomewhere id → brought id)
    (sound : memory.Sound story brought) :
    ((runCommand setting words memory cursor).run scene).1.1.Sound story brought := by
  unfold runCommand
  split
  · rw [Play.run_bind]
    split
    · exact sound
    · next command next parsed =>
      have remembered : (Memory.ofCommand words.dictionary command.parameters
          command.targets).Sound story brought := by
        obtain ⟨reading, found, read⟩ := readAs_of_parseCommand parsed
        rw [own]
        refine Memory.sound_ofCommand refers fun id target => ?_
        rcases target_ordinary_or_literal read refers own sound target with
          ordinary | brought | ⟨joins, admits⟩
        · exact Or.inl ordinary
        · exact Or.inr brought
        · exact Or.inr (brings id joins admits)
      rw [Play.run_bind]
      split <;> exact remembered
  · split
    · exact Memory.sound_empty story brought
    · exact Memory.sound_empty story brought

end Lines

/-! ## Scanning -/

section Scanning

variable {world other : World story}

theorem PlayerWord.ofLiteral_congr (value : Literal) (same : world.literals = other.literals) :
    (ofLiteral world value).1 = (ofLiteral other value).1 ∧
      (ofLiteral world value).2.literals = (ofLiteral other value).2.literals := by
  unfold ofLiteral World.createLiteral
  rw [same]
  exact ⟨rfl, rfl⟩

/-- The words of a line depend on the world only through its literals. -/
theorem scanTokens_congr (tokens : List Token) (same : world.literals = other.literals) :
    (scanTokens world tokens).1 = (scanTokens other tokens).1 := by
  induction tokens generalizing world other with
  | nil => rfl
  | cons token rest ih =>
    cases token with
    | word text =>
      unfold scanTokens
      split
      · rfl
      · dsimp only
        rw [ih same]
    | punctuation c =>
      unfold scanTokens
      dsimp only
      split
      · exact ih same
      · dsimp only
        rw [ih same]
    | integer value =>
      obtain ⟨word, literals⟩ := PlayerWord.ofLiteral_congr (.integer value) same
      unfold scanTokens
      dsimp only
      rw [word, ih literals]
    | quoted text =>
      obtain ⟨word, literals⟩ := PlayerWord.ofLiteral_congr (.string text) same
      unfold scanTokens
      dsimp only
      rw [word, ih literals]

/-- A literal of the line with this number has a further reference joined to it. -/
def Story.JoinsLiteral (story : Story) (line : String) (id : InstanceId) : Prop :=
  ∃ scanned, (scan (World.initial story) line).1 = .ok scanned ∧
    Words.JoinsLiteral ⟨scanned, story.dictionary⟩ id

end Scanning

/-! ## Sessions -/

section Sessions

variable {brought : InstanceId → Prop}

/-- One line keeps memory sound. -/
theorem sound_of_interpretLine {setting : Setting story σ} {memory : Memory} {line : String}
    {scene : Scene story σ} (refers : story.RefersToOrdinary)
    (brings : ∀ id, story.JoinsLiteral line id → story.AdmitsSomewhere id → brought id)
    (sound : memory.Sound story brought) :
    ((interpretLine setting memory line).run scene).1.Sound story brought := by
  -- the literals of earlier lines are gone before the line is scanned
  have fresh : (scan (World.initial story) line).1 = (scan scene.world.clearLiterals line).1 :=
    scanTokens_congr _ rfl
  unfold interpretLine
  simp only [Play.run_bind, Play.run_world]
  generalize scan scene.world.clearLiterals line = scan at fresh ⊢
  obtain ⟨scanned, world⟩ := scan
  cases scanned with
  | error fault => exact sound
  | ok scanned =>
    refine runWords_keeps (fun memory cursor scene sound => ?_) 0 _ sound
    refine sound_of_runCommand refers rfl (fun id joins => ?_) sound
    exact brings id ⟨scanned, fresh, joins⟩

namespace Session

/-- Lines keep memory sound. -/
theorem sound_after {session : Session story σ} {lines : List String}
    (refers : story.RefersToOrdinary)
    (brings : ∀ line ∈ lines, ∀ id,
      story.JoinsLiteral line id → story.AdmitsSomewhere id → brought id)
    (sound : session.memory.Sound story brought) :
    (session.after lines).memory.Sound story brought := by
  induction lines generalizing session with
  | nil => exact sound
  | cons line rest ih =>
    refine ih (fun line member => brings line (List.mem_cons_of_mem _ member)) ?_
    exact sound_of_interpretLine refers (brings line (List.mem_cons_self ..)) sound

end Session

/-- **What is remembered.**  If words refer to ordinary instances only, then after any lines every
instance that is remembered is ordinary too, but for a target of the previous command that a form of
the story admits and that began as a literal of some line with a further reference joined to it. -/
theorem remembered_of_lines (session : Session story σ) (lines : List String)
    (refers : story.RefersToOrdinary) (fresh : session.memory = {}) :
    let memory := (session.after lines).memory
    (∀ binding ∈ memory.pronouns, story.IsOrdinary binding.id) ∧
      ∀ id ∈ memory.previous, story.IsOrdinary id ∨
        story.AdmitsSomewhere id ∧ ∃ line ∈ lines, story.JoinsLiteral line id := by
  have sound : (session.after lines).memory.Sound story fun id =>
      story.AdmitsSomewhere id ∧ ∃ line ∈ lines, story.JoinsLiteral line id := by
    refine Session.sound_after refers ?_ (fresh ▸ Memory.sound_empty story _)
    exact fun line member id joins admits => ⟨admits, line, member, joins⟩
  exact ⟨sound.bindings, sound.previous⟩

/-- After weighing 5 and the apple, both are remembered. -/
theorem remembered_of_lines_fiveAndApple :
    let session : Session .scales Recording := .start Setting.scales {} {}
    let lines := ["weigh 5 and apple"]
    let memory := (session.after lines).memory
    Story.scales.RefersToOrdinary ∧ session.memory = {} ∧ memory.previous = [4, 3] ∧
    (∀ binding ∈ memory.pronouns, Story.scales.IsOrdinary binding.id) ∧
    ∀ id ∈ memory.previous, Story.scales.IsOrdinary id ∨
      Story.scales.AdmitsSomewhere id ∧ ∃ line ∈ lines, Story.scales.JoinsLiteral line id := by
  intro session lines memory
  have refers : Story.scales.RefersToOrdinary := by decide
  exact ⟨refers, rfl, by decide +kernel, remembered_of_lines session lines refers rfl⟩

/-- 5 is remembered under the number 4, that no instance of the story has.  On the next line 7 has
it, and it is 7 that them stands for then, before it is weighed for its own sake. -/
theorem five_remembered_as_seven :
    let session : Session .scales Recording := .start Setting.scales {} {}
    let weighed := session.after ["weigh 5 and apple"]
    let again := weighed.enter "weigh them and weigh 7"
    Story.scales.RefersToOrdinary ∧
    weighed.memory.previous = [4, 3] ∧ ¬ Story.scales.IsOrdinary 4 ∧
    (session.enter "weigh 5 and apple").1 = "(5)\n\n(apple)" ∧
    again.1 = "(7)\n\n(apple)\n\n" ∧
    again.2.scene.world.literal? 4 = some (.integer 7) := by
  decide +kernel

end Sessions

end TextAdventure
