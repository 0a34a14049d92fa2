import TextAdventure.Proofs.Shifting
/-!
# Commands joined on a line

Commands that a conjunction joins on a line are run like lines of their own with a paragraph between
them (`runWords_joined`).  In the first part of the line nothing is seen of the second one, and in
the second part it makes no difference that there has been a first one.
-/

namespace TextAdventure

variable {story : Story} {σ : Type}

/-! ## What is read in a part lies inside of it -/

section Inside

variable {words : Words} {memory : Memory} {cursor next : Nat}

theorem Words.ReadsOne.inside {reference : Reference}
    (one : words.ReadsOne memory reference cursor next) : reference.Inside words.size := by
  obtain ⟨first, last, lt⟩ := one.span
  have := one.le_size
  exact ⟨by omega, by omega⟩

theorem Words.ReadsAll.inside {references : List Reference}
    (all : words.ReadsAll memory references cursor next) :
    references ≠ [] ∧ ∀ reference ∈ references, reference.Inside words.size := by
  induction all with
  | one first =>
    refine ⟨List.cons_ne_nil _ _, fun reference member => ?_⟩
    rw [List.mem_singleton.mp member]
    exact first.inside
  | joined first _ _ ih =>
    refine ⟨List.cons_ne_nil _ _, fun reference member => ?_⟩
    rcases List.mem_cons.mp member with rfl | member
    · exact first.inside
    · exact ih.2 reference member

theorem Words.Fills.inside {flags : SlotFlags} {position : Position}
    (fills : words.Fills memory flags position cursor next) : position.Inside words.size := by
  have swept : words.is cursor .all = true →
      ∀ reference ∈ [({ first := cursor, last := cursor } : Reference)],
        reference.Inside words.size := by
    intro isAll reference member
    rw [List.mem_singleton.mp member]
    exact ⟨Nat.le_refl _, lt_size_of_is isAll⟩
  cases fills with
  | all isAll => exact ⟨List.cons_ne_nil _ _, swept isAll, List.forall_mem_nil _⟩
  | allExcept isAll _ excepted => exact ⟨List.cons_ne_nil _ _, swept isAll, excepted.inside.2⟩
  | references _ listed => exact ⟨listed.inside.1, listed.inside.2, List.forall_mem_nil _⟩

/-- The parameter map moves positions and makes none. -/
theorem FormReading.mem_of_mem_remap {verbWord : WordCode} {reading : FormReading}
    {position : Position} (member : position ∈ (reading.remap story verbWord).positions) :
    position ∈ reading.positions := by
  obtain ⟨slot, there⟩ := List.mem_iff_getElem?.mp member
  have inRange := (List.getElem?_eq_some_iff.mp there).1
  rw [length_remap] at inRange
  rw [getElem?_remap verbWord inRange] at there
  exact List.mem_of_getElem? there

theorem Story.inside_of_matchForm {verbWord : WordCode} {last : Nat} {found : FormMatch}
    (matched : story.matchForm words memory verbWord cursor = .ok (found, last)) :
    ∀ position ∈ found.positions, position.Inside words.size := by
  obtain ⟨root, reading, -, read, rfl⟩ := matchForm_eq_ok.mp matched
  intro position member
  obtain ⟨_, _, _, _, _, -, positionRead⟩ :=
    position_of_mem_readForm read (FormReading.mem_of_mem_remap member)
  exact (Words.fills_of_position positionRead).inside

theorem Story.le_size_of_matchForm {verbWord : WordCode} {last : Nat} {found : FormMatch}
    (matched : story.matchForm words memory verbWord cursor = .ok (found, last))
    (le : cursor ≤ words.size) : last ≤ words.size := by
  obtain ⟨root, reading, -, read, -⟩ := matchForm_eq_ok.mp matched
  obtain ⟨pieces, table, leads, -⟩ := leads_of_readForm read
  exact leads.le_size le

end Inside

/-! ## One command -/

/-- The place of the line where it goes on after a command of the part that has ended at a place of
the part. -/
def Words.resume (part : Words) (offset behind next : Nat) : Nat :=
  if part.isEnd next then behind else offset + next

/-- The second result is the first one, seen from the line: it stops for the same fault, or goes on
at the same word. -/
inductive Resumes {α : Type} (part : Words) (offset behind : Nat) :
    Except Stop (α × Nat) → Except Stop (α × Nat) → Prop where
  | stopped (fault : CommandError) (cursor cursor' : Nat) :
      Resumes part offset behind (.error ⟨fault, cursor⟩) (.error ⟨fault, cursor'⟩)
  | resumed (found : α) (next : Nat) :
      Resumes part offset behind (.ok (found, next))
        (.ok (found, part.resume offset behind next))

theorem finishCommand_ok (words : Words) (last : Nat) (command : ParsedCommand) :
    finishCommand words last (.ok command) =
      if words.isEndOfCommand last then
        .ok (command, if words.isEnd last then last else last + 1)
      else .error ⟨.notUnderstood, last⟩ := by
  unfold finishCommand Words.isEndOfCommand
  dsimp only
  cases words.isEnd last <;> rfl

namespace Words.Holds

variable {whole part : Words} {offset behind : Nat} (holds : whole.Holds part offset behind)
  {cursor last : Nat} (setting : Setting story σ) (memory : Memory) (scene : Scene story σ)
include holds

/-- A command is followed by the end of the line or by a conjunction; behind the last command of the
part the line may go on. -/
theorem resume_eq (le : last ≤ part.size) (ended : part.isEndOfCommand last = true) :
    (if whole.isEnd (offset + last) then offset + last else offset + last + 1) =
      part.resume offset behind (if part.isEnd last then last else last + 1) := by
  unfold resume
  rcases Nat.lt_or_eq_of_le le with lt | rfl
  · rw [isEnd_eq (holds.word last lt), isEnd_eq_false_iff.mpr lt, if_neg Bool.false_ne_true,
      if_neg Bool.false_ne_true]
    split
    · next atEnd =>
      -- the last word of the part is a conjunction, so the line ends with it
      have size : last + 1 = part.size := Nat.le_antisymm lt (of_decide_eq_true atEnd)
      rcases holds.ends with closes | joins
      · rw [closes.behind_eq, ← size]
        rfl
      · unfold isEndOfCommand at ended
        rw [isEnd_eq_false_iff.mpr lt, joins.unjoined last size] at ended
        cases ended
    · rfl
  · rw [part.isEnd_size, if_pos rfl, if_pos part.isEnd_size]
    rcases holds.ends with closes | joins
    · rw [closes.isEnd, if_pos rfl, closes.behind_eq]
    · have isWord : whole.is (offset + part.size) .conjunction = true := by
        unfold Words.is
        rw [joins.conjunction]
        rfl
      rw [not_isEnd_of_is isWord, if_neg Bool.false_ne_true, joins.behind_eq]

theorem finishCommand_resumes (le : last ≤ part.size)
    (settled : Except CommandError ParsedCommand) :
    Resumes part offset behind (finishCommand part last settled)
      (finishCommand whole (offset + last) settled) := by
  cases settled with
  | error fault => exact .stopped fault last (offset + last)
  | ok command =>
    rw [finishCommand_ok, finishCommand_ok, holds.isEndOfCommand_eq le]
    split
    · next ended =>
      rw [holds.resume_eq le ended]
      exact .resumed command _
    · exact .stopped .notUnderstood last (offset + last)

theorem parseCommand_resumes (lt : cursor < part.size)
    (certain : whole.Certain part offset behind
      ((parseCommand setting memory part cursor).run scene).1) :
    Resumes part offset behind ((parseCommand setting memory part cursor).run scene).1
        ((parseCommand setting memory whole (offset + cursor)).run scene).1 ∧
      ((parseCommand setting memory whole (offset + cursor)).run scene).2 =
        ((parseCommand setting memory part cursor).run scene).2 := by
  unfold parseCommand at certain ⊢
  rw [holds.code?_eq (holds.word cursor lt)]
  cases code : part.code? cursor with
  | none => exact ⟨.stopped .notUnderstood cursor (offset + cursor), rfl⟩
  | some verbWord =>
    rw [code] at certain
    dsimp only at certain ⊢
    have certain' : whole.Certain part offset behind
        (story.matchForm part memory verbWord (cursor + 1)) := by
      apply certain.of_ok
      intro found read
      split at read
      · cases read
      · next matched => exact ⟨_, matched⟩
    rw [show story.matchForm whole memory verbWord (offset + cursor + 1) = _ from
      holds.matchForm_eq lt certain']
    cases matched : story.matchForm part memory verbWord (cursor + 1) with
    | error stop => exact ⟨.stopped stop.error stop.cursor (offset + stop.cursor), rfl⟩
    | ok found =>
      obtain ⟨found, last⟩ := found
      dsimp only [relocate]
      rw [holds.settleCommand_shift setting memory (Story.inside_of_matchForm matched)]
      -- the stages run on the same scene and differ only in where the line goes on
      simp only [Play.run_bind, Play.run_pure]
      exact ⟨holds.finishCommand_resumes (Story.le_size_of_matchForm matched lt) _, trivial⟩

theorem runMovement_resumes (lt : cursor < part.size) :
    Resumes part offset behind ((runMovement setting part cursor).run scene).1
        ((runMovement setting whole (offset + cursor)).run scene).1 ∧
      ((runMovement setting whole (offset + cursor)).run scene).2 =
        ((runMovement setting part cursor).run scene).2 := by
  have ended : whole.isEndOfCommand (offset + cursor + 1) = part.isEndOfCommand (cursor + 1) :=
    holds.isEndOfCommand_eq lt
  unfold runMovement
  dsimp only
  rw [ended, holds.code?_eq (holds.word cursor lt)]
  split
  · next ended =>
    simp only [Play.run_bind]
    generalize (go setting ((part.code? cursor).getD 0)).run scene = went
    obtain ⟨result, after⟩ := went
    cases result with
    | error fault => exact ⟨.stopped fault (cursor + 1) (offset + cursor + 1), rfl⟩
    | ok =>
      refine ⟨?_, rfl⟩
      show Resumes part offset behind (.ok (none, _)) (.ok (none, _))
      rw [show (if whole.isEnd (offset + cursor + 1) = true then offset + cursor + 1
        else offset + cursor + 1 + 1) = _ from holds.resume_eq lt ended]
      exact .resumed none _
  · exact ⟨.stopped .notUnderstood (cursor + 1) (offset + cursor + 1), rfl⟩

/-- **A command runs alike.**  What a command of the part does to memory and scene does not depend
on what else is on the line. -/
theorem runCommand_resumes (lt : cursor < part.size)
    (certain : whole.Certain part offset behind
      ((runCommand setting part memory cursor).run scene).1.2) :
    Resumes part offset behind ((runCommand setting part memory cursor).run scene).1.2
        ((runCommand setting whole memory (offset + cursor)).run scene).1.2 ∧
      ((runCommand setting whole memory (offset + cursor)).run scene).1.1 =
        ((runCommand setting part memory cursor).run scene).1.1 ∧
      ((runCommand setting whole memory (offset + cursor)).run scene).2 =
        ((runCommand setting part memory cursor).run scene).2 := by
  unfold runCommand at certain ⊢
  rw [holds.is_eq (Nat.le_of_lt lt) rfl, holds.is_eq (Nat.le_of_lt lt) rfl]
  split
  · next isVerb =>
    rw [if_pos isVerb] at certain
    simp only [Play.run_bind] at certain ⊢
    have certain' : whole.Certain part offset behind
        ((parseCommand setting memory part cursor).run scene).1 := by
      apply certain.of_ok
      intro found ran
      split at ran
      · cases ran
      · next parsed => exact ⟨_, parsed⟩
    obtain ⟨resumes, same⟩ := holds.parseCommand_resumes setting memory scene lt certain'
    rw [same]
    generalize ((parseCommand setting memory whole (offset + cursor)).run scene).1 = result'
      at resumes ⊢
    generalize (parseCommand setting memory part cursor).run scene = read at resumes ⊢
    obtain ⟨result, parsed⟩ := read
    dsimp only at resumes ⊢
    cases resumes with
    | stopped fault stop stop' => exact ⟨.stopped fault stop stop', rfl, rfl⟩
    | resumed command next =>
      dsimp only
      rw [holds.dictionary]
      simp only [Play.run_bind]
      generalize (dispatchTargets setting command.verb command.parameters command.multiple).run
        parsed = dispatched
      obtain ⟨result, after⟩ := dispatched
      cases result with
      | error fault => exact ⟨.stopped fault next _, rfl, rfl⟩
      | ok ending => exact ⟨.resumed (some ending) next, rfl, rfl⟩
  · split
    · obtain ⟨resumes, same⟩ := holds.runMovement_resumes setting scene lt
      exact ⟨resumes, rfl, same⟩
    · exact ⟨.stopped .notUnderstood cursor (offset + cursor), rfl, rfl⟩

end Words.Holds

/-! ## Lines -/

/-- No command of the line, from the cursor on, is given up. -/
inductive RunsThrough (setting : Setting story σ) (words : Words) :
    Memory → Nat → Scene story σ → Prop where
  | ended {memory : Memory} {cursor : Nat} {scene : Scene story σ}
      (ended : words.isEnd cursor = true) : RunsThrough setting words memory cursor scene
  | command {memory : Memory} {cursor next : Nat} {scene : Scene story σ}
      {ending : Option Dispatch} (unended : words.isEnd cursor = false)
      (ran : ((runCommand setting words memory cursor).run (scene.before cursor)).1.2 =
        .ok (ending, next))
      (rest : RunsThrough setting words
        ((runCommand setting words memory cursor).run (scene.before cursor)).1.1 next
        ((runCommand setting words memory cursor).run (scene.before cursor)).2) :
      RunsThrough setting words memory cursor scene

namespace Words.Holds

variable {whole part : Words} {offset behind : Nat} {setting : Setting story σ} {memory : Memory}
  {cursor : Nat} {scene : Scene story σ}

/-- The first part of a line runs as it does alone, and then the line goes on. -/
theorem runWords_of_runsThrough (holds : whole.Holds part 0 behind)
    (through : RunsThrough setting part memory cursor scene) :
    runWords setting whole memory (part.resume 0 behind cursor) scene =
      let ran := runWords setting part memory cursor scene
      runWords setting whole ran.1 behind ran.2 := by
  induction through with
  | ended ended =>
    rw [runWords_of_isEnd ended, resume, if_pos ended]
  | @command memory cursor next scene ending unended ran rest ih =>
    have lt := isEnd_eq_false_iff.mp unended
    have unended' : whole.isEnd (0 + cursor) = false :=
      (isEnd_eq (holds.word cursor lt)).trans unended
    obtain ⟨resumes, sameMemory, sameScene⟩ :=
      holds.runCommand_resumes setting memory _ lt (Or.inr ⟨_, ran⟩)
    rw [resume, unended, if_neg Bool.false_ne_true, runWords_of_unended unended',
      runWords_of_unended unended]
    rw [Nat.zero_add] at resumes sameMemory sameScene ⊢
    unfold runFrom
    dsimp only
    rw [sameMemory, sameScene, ran]
    rw [ran] at resumes
    generalize ((runCommand setting whole memory cursor).run (scene.before cursor)).1.2 = result
      at resumes ⊢
    cases resumes with
    | resumed => exact ih

/-- In a closed part every command runs as it does alone, and what comes behind it does too if the
rest of the part does. -/
theorem runFrom_of_closes (holds : whole.Holds part offset behind)
    (closes : whole.Closes part offset behind) (lt : cursor < part.size)
    (rest : ∀ (memory : Memory) (next : Nat) (scene : Scene story σ), cursor < next →
      runWords setting whole memory (part.resume offset behind next) scene =
        runWords setting part memory next scene) :
    runFrom setting whole memory (offset + cursor) scene =
      runFrom setting part memory cursor scene := by
  obtain ⟨resumes, sameMemory, sameScene⟩ :=
    holds.runCommand_resumes setting memory scene lt (Or.inl closes)
  unfold runFrom
  dsimp only
  rw [sameMemory, sameScene]
  have advances : ∀ ending next,
      ((runCommand setting part memory cursor).run scene).1.2 = .ok (ending, next) →
      cursor < next := fun _ _ ran => lt_of_runCommand ran
  generalize ((runCommand setting whole memory (offset + cursor)).run scene).1.2 = result'
    at resumes ⊢
  generalize ((runCommand setting part memory cursor).run scene).1.2 = result
    at resumes advances ⊢
  cases resumes with
  | stopped => rfl
  | resumed ending next => exact rest _ next _ (advances ending next rfl)

/-- Behind its first command, a closed part runs as it does alone. -/
theorem runWords_of_closes (holds : whole.Holds part offset behind)
    (closes : whole.Closes part offset behind) (behindFirst : cursor ≠ 0) :
    runWords setting whole memory (part.resume offset behind cursor) scene =
      runWords setting part memory cursor scene := by
  -- every command takes up words, so less of the part remains
  induction remaining : part.size - cursor using Nat.strongRecOn
    generalizing memory cursor scene with
  | _ remaining ih =>
    unfold resume
    cases ended : part.isEnd cursor with
    | true =>
      have ended' : whole.isEnd behind = true := closes.behind_eq ▸ closes.isEnd
      rw [if_pos rfl, runWords_of_isEnd ended, runWords_of_isEnd ended']
    | false =>
      have lt := isEnd_eq_false_iff.mp ended
      have unended' : whole.isEnd (offset + cursor) = false :=
        (isEnd_eq (holds.word cursor lt)).trans ended
      rw [if_neg Bool.false_ne_true, runWords_of_unended ended, runWords_of_unended unended']
      unfold Scene.before
      rw [if_neg behindFirst, if_neg (by omega)]
      apply holds.runFrom_of_closes closes lt
      intro memory next scene advances
      exact ih (part.size - next) (by omega) (by omega) rfl

/-- A closed part that is not the first one runs as a line of its own, in a paragraph of its own. -/
theorem runWords_of_closes_first (holds : whole.Holds part offset behind)
    (closes : whole.Closes part offset behind) (some : 0 < part.size) (later : offset ≠ 0) :
    runWords setting whole memory offset scene =
      runWords setting part memory 0 ((Play.say [.paragraph]).run scene).2 := by
  have unended : part.isEnd 0 = false := isEnd_eq_false_iff.mpr some
  have unended' : whole.isEnd offset = false := (isEnd_eq (holds.word 0 some)).trans unended
  rw [runWords_of_unended unended, runWords_of_unended unended']
  unfold Scene.before
  rw [if_neg later, if_pos rfl]
  apply holds.runFrom_of_closes closes some
  intro memory next scene advances
  exact holds.runWords_of_closes closes (Nat.ne_of_gt advances)

end Words.Holds

/-! ## Two parts -/

section TwoParts

variable {dictionary : Dictionary} {first second : List PlayerWord} {joint : PlayerWord}

/-- The second part of a line is closed. -/
theorem Words.closes_second (dictionary : Dictionary) (first second : List PlayerWord)
    (joint : PlayerWord) :
    let line : Words := ⟨first ++ joint :: second, dictionary⟩
    line.Closes ⟨second, dictionary⟩ (first.length + 1) line.size := by
  have size : (first ++ joint :: second).length = first.length + 1 + second.length := by
    rw [List.length_append, List.length_cons]
    omega
  exact ⟨size, size⟩

theorem Words.holds_second (dictionary : Dictionary) (first second : List PlayerWord)
    (joint : PlayerWord) :
    let line : Words := ⟨first ++ joint :: second, dictionary⟩
    line.Holds ⟨second, dictionary⟩ (first.length + 1) line.size := by
  refine ⟨rfl, fun index _ => ?_, Or.inl (closes_second dictionary first second joint)⟩
  show (first ++ joint :: second)[first.length + 1 + index]? = second[index]?
  rw [List.getElem?_append_right (by omega),
    show first.length + 1 + index - first.length = index + 1 by omega]
  rfl

/-- The first part of a line is joined to the second one. -/
theorem Words.holds_first (some : second ≠ [])
    (conjunction : (⟨[joint], dictionary⟩ : Words).classes 0 = .conjunction)
    (unjoined : (⟨first, dictionary⟩ : Words).is (first.length - 1) .conjunction = false)
    (noNoun : (⟨second, dictionary⟩ : Words).is 0 .noun = false)
    (noAdjective : (⟨second, dictionary⟩ : Words).is 0 .adjective = false) :
    (⟨first ++ joint :: second, dictionary⟩ : Words).Holds ⟨first, dictionary⟩ 0
      (first.length + 1) := by
  have second_holds := holds_second dictionary first second joint
  have begins := second_holds.classes_eq
    (second_holds.word 0 (List.length_pos_iff.mpr some))
  refine ⟨rfl, fun index lt => ?_, Or.inr ⟨?_, ?_, ?_, ?_, fun index last => ?_⟩⟩
  · show (first ++ joint :: second)[0 + index]? = first[index]?
    rw [Nat.zero_add]
    exact List.getElem?_append_left lt
  · have here : (first ++ joint :: second)[0 + first.length]? = [joint][0]? := by
      rw [Nat.zero_add, List.getElem?_append_right (Nat.le_refl _), Nat.sub_self]
      rfl
    rw [← conjunction]
    exact classes_congr rfl here
  · show first.length + 1 = 0 + first.length + 1
    rw [Nat.zero_add]
  · unfold Words.is at noAdjective ⊢
    rw [← begins] at noAdjective
    exact noAdjective
  · unfold Words.is at noNoun ⊢
    rw [← begins] at noNoun
    exact noNoun
  · have size : index + 1 = first.length := last
    rw [show index = first.length - 1 by omega]
    exact unjoined

/-- **Joined commands run one after the other.**  Let a line be made of two parts with a conjunction
between them.  If no command of the first part is given up when it is a line of its own, this part
does not end in a conjunction, and the second part does not go on with a reference, then the line
does to memory and scene what the first part does, a paragraph, and what the second part does as a
line of its own. -/
theorem runWords_joined {setting : Setting story σ} {memory : Memory} {scene : Scene story σ}
    (some : first ≠ []) (some' : second ≠ [])
    (conjunction : (⟨[joint], dictionary⟩ : Words).classes 0 = .conjunction)
    (unjoined : (⟨first, dictionary⟩ : Words).is (first.length - 1) .conjunction = false)
    (noNoun : (⟨second, dictionary⟩ : Words).is 0 .noun = false)
    (noAdjective : (⟨second, dictionary⟩ : Words).is 0 .adjective = false)
    (through : RunsThrough setting ⟨first, dictionary⟩ memory 0 scene) :
    (runWords setting ⟨first ++ joint :: second, dictionary⟩ memory 0).run scene =
      (do
        let memory ← runWords setting ⟨first, dictionary⟩ memory 0
        Play.say [.paragraph]
        runWords setting ⟨second, dictionary⟩ memory 0 : Play story σ Memory).run scene := by
  have holds := Words.holds_first some' conjunction unjoined noNoun noAdjective
  have holds' := Words.holds_second dictionary first second joint
  have closes := Words.closes_second dictionary first second joint
  have start : (⟨first, dictionary⟩ : Words).resume 0 (first.length + 1) 0 = 0 := by
    unfold Words.resume
    rw [Words.isEnd_eq_false_iff.mpr (List.length_pos_iff.mpr some), if_neg Bool.false_ne_true]
  have ran := holds.runWords_of_runsThrough through
  rw [start] at ran
  show runWords setting _ memory 0 scene = _
  rw [ran]
  exact holds'.runWords_of_closes_first closes (List.length_pos_iff.mpr some')
    (Nat.succ_ne_zero first.length)

end TwoParts

/-- Drop lamp and key, and drop all: only the second conjunction parts two commands. -/
theorem runWords_joined_cave :
    let dictionary := Story.cave.dictionary
    let first := (Words.ofCave [0, 5, 3, 6]).words
    let joint : PlayerWord := .known 3 "and"
    let second := (Words.ofCave [0, 1]).words
    first ≠ [] ∧ second ≠ [] ∧ (⟨[joint], dictionary⟩ : Words).classes 0 = .conjunction ∧
    (⟨first, dictionary⟩ : Words).is (first.length - 1) .conjunction = false ∧
    (⟨second, dictionary⟩ : Words).is 0 .noun = false ∧
    (⟨second, dictionary⟩ : Words).is 0 .adjective = false ∧
    RunsThrough Setting.cave ⟨first, dictionary⟩ {} 0 Scene.cave ∧
    (runWords Setting.cave ⟨first ++ joint :: second, dictionary⟩ {} 0).run Scene.cave =
      (do
        let memory ← runWords Setting.cave ⟨first, dictionary⟩ {} 0
        Play.say [.paragraph]
        runWords Setting.cave ⟨second, dictionary⟩ memory 0).run Scene.cave := by
  intro dictionary first joint second
  have conjunction : (⟨[joint], dictionary⟩ : Words).classes 0 = .conjunction := by decide
  have unjoined : (⟨first, dictionary⟩ : Words).is (first.length - 1) .conjunction = false := by
    decide
  have dropped : ((runCommand Setting.cave ⟨first, dictionary⟩ {} 0).run
      (Scene.cave.before 0)).1.2 = .ok (some .completed, 4) :=
    eq_ok_of_toOption (by decide +kernel)
  have through : RunsThrough Setting.cave ⟨first, dictionary⟩ {} 0 Scene.cave :=
    .command (by decide) dropped (.ended (by decide))
  exact ⟨List.cons_ne_nil _ _, List.cons_ne_nil _ _, conjunction, unjoined, by decide, by decide,
    through, runWords_joined (List.cons_ne_nil _ _) (List.cons_ne_nil _ _) conjunction unjoined
      (by decide) (by decide) through⟩

end TextAdventure
