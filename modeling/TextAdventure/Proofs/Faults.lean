import TextAdventure.Proofs.Stages
import TextAdventure.Proofs.Turns
/-!
# Who finds that nothing is left

Every stage of a command has faults of its own.  That nothing is left is found by the narrowing of a
list and by the end of the restrictions; no other stage gives a command up for it.
-/

namespace TextAdventure

variable {story : Story} {σ : Type}

/-! ## Reading -/

namespace Words

variable {words : Words} {memory : Memory} {flags : SlotFlags} {cursor : Nat} {stop : Stop}

theorem fault_of_phrase (read : words.phrase cursor = .error stop) :
    stop.error ≠ .nothingLeft := by
  unfold phrase at read
  dsimp only at read
  split at read
  · cases read
  · split at read
    · cases read
    · cases read
      simp

theorem fault_of_reference (read : words.reference memory cursor = .error stop) :
    stop.error ≠ .nothingLeft := by
  unfold reference at read
  split at read
  · cases read
  · exact fault_of_phrase read

theorem fault_of_references (read : words.references memory cursor = .error stop) :
    stop.error ≠ .nothingLeft := by
  fun_induction references words memory cursor with
  | case1 _ _ referenceRead => cases read; exact fault_of_reference referenceRead
  | case2 => cases read
  | case3 _ _ _ _ _ _ referencesRead ih => cases read; exact ih referencesRead
  | case4 => cases read
  | case5 => cases read

theorem fault_of_slot (read : words.slot memory flags cursor = .error stop) :
    stop.error ≠ .nothingLeft := by
  unfold slot exceptions at read
  dsimp only at read
  split at read
  · split at read
    · split at read
      · next exceptionsRead =>
        cases read
        split at exceptionsRead
        · next referencesRead =>
          cases exceptionsRead
          exact fault_of_references referencesRead
        · cases exceptionsRead
          simp
        · cases exceptionsRead
      · cases read
    · cases read
  · split at read
    · next referencesRead =>
      cases read
      exact fault_of_references referencesRead
    · cases read

theorem fault_of_position (read : words.position memory flags cursor = .error stop) :
    stop.error ≠ .nothingLeft := by
  unfold Words.position at read
  split at read
  · next slotRead =>
    cases read
    exact fault_of_slot slotRead
  · split at read
    · cases read
      simp
    · split at read
      · cases read
        simp
      · cases read

end Words

theorem Story.fault_of_readForm {words : Words} {memory : Memory} {table cursor : Nat}
    {stop : Stop} (read : story.readForm words memory table cursor = .error stop) :
    stop.error ≠ .nothingLeft := by
  have mismatched : ∀ cursor, mismatch words cursor ≠ .nothingLeft := by
    intro cursor
    unfold mismatch
    split <;> simp
  fun_induction Story.readForm story words memory table cursor generalizing stop with
  | case1 => cases read
  | case2 => cases read; simp
  | case3 _ _ _ _ _ _ _ positionRead =>
    cases read
    have fault := Words.fault_of_position positionRead
    exact fault
  | case4 _ _ _ _ _ _ _ _ _ _ formRead ih => cases read; exact ih formRead
  | case5 => cases read
  | case6 _ _ _ _ _ _ ih => exact ih read
  | case7 => cases read; exact mismatched _

theorem Story.fault_of_matchForm {words : Words} {memory : Memory} {verbWord : WordCode}
    {cursor : Nat} {stop : Stop}
    (read : story.matchForm words memory verbWord cursor = .error stop) :
    stop.error ≠ .nothingLeft := by
  unfold matchForm at read
  split at read
  · cases read
    simp
  · split at read
    · next formRead =>
      cases read
      exact fault_of_readForm formRead
    · cases read

/-! ## Settling -/

section Settling

variable {world : World story} {words : Words} {memory : Memory}

theorem Reference.fault_of_withCandidates (reference : Reference) :
    (reference.withCandidates words memory).fault ≠ some .nothingLeft := by
  unfold withCandidates
  split
  · simp [Attempt.fault_success]
  · next search =>
    intro stopped
    cases stopped
    unfold findCandidates at search
    split at search
    · split at search <;> cases search
    · unfold Words.pronounCandidates at search
      split at search <;> cases search
    · cases search
    · cases search

theorem Reference.fault_of_settle (omnipotent : Bool) (reference : Reference) :
    (reference.settle world words omnipotent).fault ≠ some .nothingLeft := by
  unfold settle
  split <;> simp [Attempt.fault_success]

namespace Position

theorem fault_of_expandThem (word : Nat) (position : Position) :
    (position.expandThem world words memory word).fault ≠ some .nothingLeft := by
  unfold expandThem
  dsimp only
  split
  · simp
  · simp [Attempt.fault_success]
  · split <;> simp [Attempt.fault_success]

theorem fault_of_findCandidates (position : Position) :
    (position.findCandidates world words memory).fault ≠ some .nothingLeft := by
  have searched : ∀ references,
      (Attempt.each (Reference.withCandidates words memory) references).fault ≠
        some .nothingLeft := by
    intro references stopped
    obtain ⟨reference, -, fault⟩ := Attempt.fault_of_each stopped
    exact reference.fault_of_withCandidates fault
  unfold findCandidates
  split
  · simp [Attempt.fault_success]
  · split
    · exact position.fault_of_expandThem _
    · split
      · unfold expandAll
        dsimp only
        split
        · simp
        · exact searched _
      · exact searched _

theorem fault_of_settle (position : Position) :
    (position.settle world words).fault ≠ some .nothingLeft := by
  have settled : ∀ references,
      (Attempt.each (Reference.settle world words position.flags.omnipotent) references).fault ≠
        some .nothingLeft := by
    intro references stopped
    obtain ⟨reference, -, fault⟩ := Attempt.fault_of_each stopped
    exact Reference.fault_of_settle _ reference fault
  unfold settle
  dsimp only
  split
  · exact settled _
  · split
    · simp [Attempt.fault_success]
    · exact settled _

end Position

theorem fault_of_settlePositions (positions : List Position) :
    (settlePositions world words memory positions).fault ≠ some .nothingLeft := by
  intro stopped
  rcases Attempt.fault_of_andThen stopped with searching | ⟨-, settling⟩
  · obtain ⟨position, -, fault⟩ := Attempt.fault_of_each searching
    exact position.fault_of_findCandidates fault
  · obtain ⟨position, -, fault⟩ := Attempt.fault_of_each settling
    exact position.fault_of_settle fault

end Settling

/-! ## Restrictions, verbs and movements -/

section Acting

variable {setting : Setting story σ}

theorem fault_of_applyTo (restriction : Restriction) (context : Context) (position : Position)
    (scene : Scene story σ) :
    ((restriction.applyTo setting context position).run scene).1.fault ≠ some .nothingLeft := by
  by_cases multiple : position.multiple = true
  · unfold Restriction.applyTo
    rw [if_pos multiple]
    intro stopped
    cases stopped
  · rw [Restriction.applyTo_of_single (Bool.eq_false_iff.mpr multiple)]
    split
    · simp [Attempt.fault_success]
    · unfold Restriction.reject
      split <;> simp

theorem fault_of_applyRestrictions (context : Context) (positions : List Position)
    (restrictions : List Restriction) (scene : Scene story σ) :
    ((applyRestrictions setting context positions restrictions).run scene).1.fault ≠
      some .nothingLeft := by
  induction restrictions generalizing positions scene with
  | nil =>
    intro stopped
    cases stopped
  | cons restriction rest ih =>
    cases found : entryAt positions restriction.parameter with
    | none =>
      obtain ⟨records, run⟩ := applyRestrictions_missing context rest scene found
      rw [run]
      exact ih _ _
    | some position =>
      rw [applyRestrictions_there context rest scene found]
      split
      · next stopped =>
        intro same
        cases same
        exact fault_of_applyTo restriction context position scene stopped
      · exact ih _ _

theorem fault_of_requireObjects (world : World story) (positions : List Position) :
    (requireObjects world positions).fault ≠ some .nothingLeft := by
  intro stopped
  rw [requireObjects, Attempt.map] at stopped
  obtain ⟨⟨position, number⟩, -, fault⟩ := Attempt.fault_of_each stopped
  have fault' : (position.requireObject world number).fault = some .nothingLeft := fault
  unfold Position.requireObject at fault'
  split at fault'
  · cases fault'
  · split at fault'
    · cases fault'
    · split at fault' <;> cases fault'

theorem fault_of_restrictPositions (verb : WordCode) (restrictions : List Restriction)
    (positions : List Position) (scene : Scene story σ) :
    ((restrictPositions setting verb restrictions positions).run scene).1.fault ≠
      some .nothingLeft := by
  rw [restrictPositions_run]
  intro stopped
  rcases Attempt.fault_of_andThen stopped with testing | ⟨-, compressing⟩
  · rcases Attempt.fault_of_andThen testing with applying | ⟨-, requiring⟩
    · exact fault_of_applyRestrictions _ _ _ _ applying
    · exact fault_of_requireObjects _ _ requiring
  · cases compressing

theorem fault_of_dispatch {verb : WordCode} {parameters : List InstanceId}
    {scene : Scene story σ} {fault : CommandError}
    (failed : ((dispatch setting verb parameters).run scene).1 = .error fault) :
    fault = .infeasible := by
  cases passed : ((allChecksPass setting verb parameters true
    (scene.world.alternatives verb parameters)).run scene).1 with
  | false =>
    rw [dispatch_run_of_failed passed] at failed
    cases failed
  | true =>
    cases active : anyAction (scene.world.alternatives verb parameters) with
    | false =>
      rw [dispatch_run_of_inactive passed active] at failed
      cases failed
      rfl
    | true =>
      rw [dispatch_run_of_passed passed active] at failed
      cases failed

theorem fault_of_dispatchTargets {verb : WordCode} {parameters : List InstanceId}
    {multiple : Option (Nat × List InstanceId)} {scene : Scene story σ} {fault : CommandError}
    (failed : ((dispatchTargets setting verb parameters multiple).run scene).1 = .error fault) :
    fault = .infeasible := by
  unfold dispatchTargets at failed
  split at failed
  · exact fault_of_dispatch failed
  · exact fault_of_dispatch failed
  · exact fault_of_dispatch failed
  · split at failed
    · cases failed
    · exact fault_of_dispatch failed

theorem fault_of_go {direction : WordCode} {scene : Scene story σ} {fault : CommandError}
    (failed : ((go setting direction).run scene).1 = .error fault) : fault ≠ .nothingLeft := by
  unfold go at failed
  rw [Play.run_bind] at failed
  dsimp only at failed
  split at failed
  · cases failed
    simp
  · rw [Play.run_bind, Play.run_pure] at failed
    cases failed

theorem fault_of_runMovement {words : Words} {cursor : Nat} {scene : Scene story σ} {stop : Stop}
    (failed : ((runMovement setting words cursor).run scene).1 = .error stop) :
    stop.error ≠ .nothingLeft := by
  unfold runMovement at failed
  dsimp only at failed
  split at failed
  · rw [Play.run_bind] at failed
    split at failed
    · next fault went =>
      cases failed
      exact fault_of_go went
    · cases failed
  · cases failed
    simp

end Acting

end TextAdventure
