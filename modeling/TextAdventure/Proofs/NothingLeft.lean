import TextAdventure.Proofs.Faults
import TextAdventure.Proofs.Telling
/-!
# When nothing is left

A command with several targets that loses them all is given up without a word, for the player is
supposed to know why.  That is so only of a list that restrictions are made on: each member that
fails one is named.  What all has swept up goes in silence, and so do the members of a list that
have to be objects and are not (`nothingLeft_told`).
-/

namespace TextAdventure

variable {story : Story} {σ : Type}

/-! ## Giving up -/

section GivingUp

variable {setting : Setting story σ} {memory : Memory} {words : Words} {found : FormMatch}
  {scene : Scene story σ}

/-- Only a list that names no instance ends so when it is cut down: what all has swept up leaves
nothing to choose from, or nothing was there. -/
theorem Position.nothingLeft_of_narrow {verb : WordCode} {position : Position}
    {positions : List Position} {index : Nat}
    (stopped : ((position.narrow setting words verb positions index).run scene).1.fault =
      some .nothingLeft) : position.all = false ∧ position.instances = [] := by
  cases all : position.all with
  | true =>
    rw [narrow_of_all all] at stopped
    unfold narrowAll at stopped
    dsimp only at stopped
    split at stopped
    · cases stopped
    · split at stopped <;> cases stopped
  | false =>
    rw [narrow_of_list all] at stopped
    have stopped' : position.narrowList.fault = some .nothingLeft := stopped
    unfold narrowList at stopped'
    dsimp only at stopped'
    split at stopped'
    · next empty =>
      refine ⟨rfl, ?_⟩
      rw [← instances_compress, instances, List.isEmpty_iff.mp empty]
      rfl
    · cases stopped'

/-- The narrowing finds that nothing is left of a list that was empty before. -/
theorem nothingLeft_of_settleMultiple {verb : WordCode} {settled : List Position}
    {narrowed : List Position × Option Nat} {after : Scene story σ}
    (failed : (settleMultiple setting words verb settled).run scene =
      (.failure narrowed .nothingLeft, after)) :
    after = scene ∧ ∃ (slot : Nat) (position : Position), settled[slot]? = some position ∧
      position.multiple = true ∧ position.instances = [] := by
  cases place : multiplePosition settled with
  | error fault =>
    unfold settleMultiple at failed
    rw [place] at failed
    cases failed
    unfold multiplePosition at place
    split at place <;> cases place
  | ok place' =>
    cases place' with
    | none =>
      unfold settleMultiple at failed
      rw [place] at failed
      cases failed
    | some slot =>
      obtain ⟨position, there, several⟩ := (multiplePosition_eq_some place slot).mp rfl
      rw [settleMultiple_run place there] at failed
      have stopped := congrArg (fun run => run.1.fault) failed
      obtain ⟨list, empty⟩ := Position.nothingLeft_of_narrow stopped
      rw [Position.narrow_of_list list] at failed
      have unchanged : scene = after := congrArg Prod.snd failed
      exact ⟨unchanged.symm, slot, position, there, several, empty⟩

theorem ParsedCommand.nothingLeft_of_ofPositions {verb : WordCode} {positions : List Position}
    {multiple : Option Nat} (failed : ofPositions verb positions multiple = .error .nothingLeft) :
    ∃ slot, multiple = some slot ∧ ((positions[slot]?).map (·.instances)).getD [] = [] := by
  unfold ofPositions at failed
  split at failed
  · cases failed
  · next slot =>
    split at failed
    · next empty => exact ⟨slot, rfl, empty⟩
    · cases failed

/-- What the player has been told when the targets in a slot are all gone. -/
structure LeftWithNothing (setting : Setting story σ) (restrictions : List Restriction)
    (slot : Nat) (position : Position) (before : List Utterance) (after : Scene story σ) :
    Prop where
  several : position.multiple = true
  /-- A list that had members and that restrictions are made on has had one named. -/
  named : position.all = false → (restrictions.any fun r => r.parameter = slot + 1) = true →
    position.instances ≠ [] → Names before after
  /-- In all other cases the restrictions have said nothing, and checks are silent as a rule. -/
  silent : setting.interpreter.ChecksSilently →
    (position.all = true ∨ (restrictions.any fun r => r.parameter = slot + 1) = false ∨
      position.instances = []) → after.transcript = before

/-- The position with several targets before and after it has been cut down, and the scene after
that. -/
theorem leftWithNothing_of_restricted {settled narrowed left : List Position} {slot : Nat}
    {trial judging judged : Scene story σ}
    (narrows : (settleMultiple setting words found.verb settled).run trial =
      (.success (narrowed, some slot), judging))
    (restricts : (restrictPositions setting found.verb found.restrictions narrowed).run judging =
      (.success left, judged))
    (emptied : ((left[slot]?).map (·.instances)).getD [] = []) :
    ∃ position, settled[slot]? = some position ∧
      LeftWithNothing setting found.restrictions slot position trial.transcript judged := by
  obtain ⟨-, -, impossible⟩ | ⟨_, position, cut, only, there, narrow, rfl, same⟩ :=
    settleMultiple_cases (congrArg Prod.fst narrows)
  · cases impossible
  cases same
  have restricts' := congrArg Prod.fst restricts
  have isJudged := congrArg Prod.snd restricts
  have isJudging := congrArg Prod.snd narrows
  dsimp only at restricts' isJudged isJudging
  have placed := multiplePosition_eq_some only
  obtain ⟨_, there', several⟩ := (placed slot).mp rfl
  rw [there] at there'
  cases there'
  have there' : (settled.set slot cut)[slot]? = some cut :=
    List.getElem?_set_self (List.getElem?_eq_some_iff.mp there).1
  have same := Position.eq_of_narrow narrow
  have cutSeveral : cut.multiple = true := by rw [same]; exact several
  have cutAll : cut.all = position.all := by rw [same]
  refine ⟨position, there, several, fun list restricted filled => ?_, fun silent noCause => ?_⟩
  · -- nothing has been run for a list so far
    rw [settleMultiple_run only there, Position.narrow_of_list list] at isJudging
    rw [← isJudged, show trial = judging from isJudging]
    exact restrictPositions_names there' cutSeveral (cutAll.trans list)
      (Position.instances_of_narrow_list list narrow ▸ filled) restricted (List.prefix_refl _)
      restricts' emptied
  · have untold : judging.transcript = trial.transcript := by
      rw [← isJudging]
      exact settleMultiple_keeps (keptByChecks_transcript silent trial.transcript) settled rfl
    rw [← isJudged, ← untold]
    refine restrictPositions_quiet (quiet_of_only there' ?_ ?_) restricts'
    · intro index other atIndex multiple
      by_contra elsewhere
      rw [List.getElem?_set_ne (Ne.symm elsewhere)] at atIndex
      exact elsewhere ((placed index).mpr ⟨other, atIndex, multiple⟩)
    · rcases noCause with all | unrestricted | empty
      · exact Or.inl (cutAll.trans all)
      · exact Or.inr (Or.inl unrestricted)
      · refine Or.inr (Or.inr (List.eq_nil_iff_forall_not_mem.mpr fun id member => ?_))
        have before := Position.mem_of_narrow narrow member
        rw [empty] at before
        cases before

theorem leftWithNothing_of_settleCommand
    (aborted : ((settleCommand setting memory words found).run scene).1 = .error .nothingLeft) :
    ∃ settled slot position,
      settlePositions scene.world words memory found.positions = .success settled ∧
      settled[slot]? = some position ∧
      LeftWithNothing setting found.restrictions slot position scene.transcript
        ((settleCommand setting memory words found).run scene).2 := by
  have ended := settlesTo_settleCommand setting memory words found scene
  rw [aborted] at ended
  generalize ((settleCommand setting memory words found).run scene).2 = after at ended ⊢
  cases ended with
  | unsettled settles _ =>
    exact absurd (congrArg Attempt.fault settles) (fault_of_settlePositions _)
  | unrestricted _ _ _ restricts =>
    exact absurd (congrArg (fun run => run.1.fault) restricts)
      (fault_of_restrictPositions _ _ _ _)
  | @unnarrowed settled _ _ _ _ settles same narrows =>
    obtain ⟨rfl, slot, position, there, several, empty⟩ :=
      nothingLeft_of_settleMultiple narrows
    refine ⟨settled, slot, position, settles, there, several, fun _ _ filled => ?_, fun _ _ => ?_⟩
    · exact absurd empty filled
    · exact same.transcript_eq
  | @restricted settled _ _ _ _ _ _ _ _ settles same narrows restricts same' makes =>
    obtain ⟨slot, rfl, emptied⟩ := ParsedCommand.nothingLeft_of_ofPositions makes
    obtain ⟨position, there, several, named, silent⟩ :=
      leftWithNothing_of_restricted narrows restricts emptied
    refine ⟨settled, slot, position, settles, there, several, ?_, ?_⟩
    · rw [← same.transcript_eq]
      intro list restricted filled
      obtain ⟨said, parameter, grown, member⟩ := named list restricted filled
      exact ⟨said, parameter, same'.transcript_eq.trans grown, member⟩
    · rw [← same.transcript_eq]
      intro quiet unnamed
      exact same'.transcript_eq.trans (silent quiet unnamed)

end GivingUp

/-! ## Commands -/

section Commands

variable {setting : Setting story σ} {memory : Memory} {words : Words} {cursor last : Nat}
  {scene : Scene story σ}

theorem nothingLeft_of_finishCommand {settled : Except CommandError ParsedCommand} {stop : Nat}
    (aborted : finishCommand words last settled = .error ⟨.nothingLeft, stop⟩) :
    settled = .error .nothingLeft := by
  unfold finishCommand at aborted
  split at aborted
  · cases aborted
    rfl
  · split at aborted
    · cases aborted
    · split at aborted <;> cases aborted

theorem nothingLeft_of_parseCommand {stop : Nat}
    (aborted : ((parseCommand setting memory words cursor).run scene).1 =
      .error ⟨.nothingLeft, stop⟩) :
    ∃ verbWord found last, words.code? cursor = some verbWord ∧
      story.matchForm words memory verbWord (cursor + 1) = .ok (found, last) ∧
      ((settleCommand setting memory words found).run scene).1 = .error .nothingLeft ∧
      ((parseCommand setting memory words cursor).run scene).2 =
        ((settleCommand setting memory words found).run scene).2 := by
  unfold parseCommand at aborted ⊢
  split at aborted
  · cases aborted
  · next verbWord code =>
    split at aborted
    · next matching =>
      cases aborted
      exact absurd rfl (Story.fault_of_matchForm matching)
    · next found last matching =>
      simp only [Play.run_bind, Play.run_pure] at aborted
      exact ⟨verbWord, found, last, code, matching, nothingLeft_of_finishCommand aborted, rfl⟩

end Commands

/-- **Who loses all targets need not know why.**  If a command is given up because nothing is left,
the position with several targets has settled to some instances, and all of them are gone.  Of a
list that restrictions are made on, one has been named during the command.  In every other case, if
checks are silent, the player has been told nothing: of all, of a list that restrictions are not
made on, and of a list that names no instance. -/
theorem nothingLeft_told {setting : Setting story σ} {memory : Memory} {words : Words}
    {cursor stop : Nat} {scene : Scene story σ}
    (aborted : ((runCommand setting words memory cursor).run scene).1.2 =
      .error ⟨.nothingLeft, stop⟩) :
    ∃ verbWord found last settled slot position,
      words.code? cursor = some verbWord ∧
      story.matchForm words memory verbWord (cursor + 1) = .ok (found, last) ∧
      settlePositions scene.world words memory found.positions = .success settled ∧
      settled[slot]? = some position ∧
      LeftWithNothing setting found.restrictions slot position scene.transcript
        ((runCommand setting words memory cursor).run scene).2 := by
  unfold runCommand at aborted ⊢
  split at aborted
  · next isVerb =>
    rw [if_pos isVerb]
    rw [Play.run_bind] at aborted ⊢
    split at aborted
    · next error parsing =>
      cases aborted
      obtain ⟨verbWord, found, last, code, matching, settling, same⟩ :=
        nothingLeft_of_parseCommand parsing
      obtain ⟨settled, slot, position, settles, there, told⟩ :=
        leftWithNothing_of_settleCommand settling
      refine ⟨verbWord, found, last, settled, slot, position, code, matching, settles, there, ?_⟩
      rw [← same] at told
      exact told
    · simp only [Play.run_bind] at aborted
      split at aborted
      · next fault dispatching =>
        cases aborted
        cases fault_of_dispatchTargets dispatching
      · cases aborted
  · split at aborted
    · exact absurd rfl (fault_of_runMovement aborted)
    · cases aborted

/-- Them are two numbers of an earlier line, which name nothing any more: the first one that is put
on the scales is named as it is dropped. -/
theorem nothingLeft_told_scales :
    let words : Words := ⟨[.known 0 "weigh", .known 2 "them"], Story.scales.dictionary⟩
    let memory : Memory := { previous := [4, 5] }
    let scene : Scene .scales Recording := { world := .initial _, state := {} }
    let ran := (runCommand Setting.scales words memory 0).run scene
    ran.1.2 = .error ⟨.nothingLeft, 2⟩ ∧
    ∃ verbWord found last settled slot position,
      words.code? 0 = some verbWord ∧
      Story.scales.matchForm words memory verbWord (0 + 1) = .ok (found, last) ∧
      settlePositions scene.world words memory found.positions = .success settled ∧
      settled[slot]? = some position ∧
      LeftWithNothing Setting.scales found.restrictions slot position scene.transcript ran.2 := by
  intro words memory scene ran
  have aborted : ran.1.2 = .error ⟨.nothingLeft, 2⟩ := by decide +kernel
  exact ⟨aborted, nothingLeft_told aborted⟩

/-- Drop all except the lamp and the key: of what can be dropped only the hero is left, who is no
object.  Nothing at all is said. -/
theorem nothing_left_in_silence :
    let ran := (runCommand Setting.cave (.ofCave [0, 1, 2, 5, 3, 6]) {} 0).run Scene.cave
    ran.1.2 = .error ⟨.nothingLeft, 6⟩ ∧ CommandError.nothingLeft.report = [] ∧
      ran.2.transcript = Scene.cave.transcript := by
  decide +kernel

end TextAdventure
