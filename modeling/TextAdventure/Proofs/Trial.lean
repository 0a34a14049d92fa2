import TextAdventure.Proofs.Multiple
import TextAdventure.Proofs.Turns
/-!
# A trial foretells the run

Before all is cut down the verb is tried with every instance.  A trial goes through the checks as
the run of the verb does, but tells the player nothing of one that fails and performs nothing.  If
checks are pure, the run that is tried asks for the same values in the same order; only then does it
run statements, those of the check that failed or the bodies (`Play.Foretells`).
-/

namespace TextAdventure

variable {story : Story} {σ α β : Type}

namespace OnlyLooks

variable {looked acted : List Call}

theorem filter_not (looks : OnlyLooks looked) :
    looked.filter (!·.isExecution) = looked := by
  rw [List.filter_eq_self]
  intro call member
  rw [looks call member]
  rfl

theorem filter_append (looks : OnlyLooks looked) (acts : OnlyActs acted) :
    (looked ++ acted).filter (!·.isExecution) = looked := by
  have nothing : acted.filter (!·.isExecution) = [] := by
    rw [List.filter_eq_nil_iff]
    intro call member
    rw [acts call member]
    exact Bool.false_ne_true
  rw [List.filter_append, looks.filter_not, nothing, List.append_nil]

end OnlyLooks

theorem RunUntilFailure.onlyActs {due : List DueBody} {all : Bool} {calls : List Call}
    (ran : RunUntilFailure due all calls) : OnlyActs calls :=
  fun _ member => List.filter_eq_self.mp ran.filter _ member

/-! ## Steps and their trials -/

/-- What a trial and the run that it is made for come to, from scenes with the same world.  Both go
well or neither does.  Then the world is as before and nothing was run; otherwise the run may have
gone on to run statements. -/
structure Foretold (held : α → Bool) (s t : Scene story (σ × List Call))
    (tried ran : α × Scene story (σ × List Call)) : Prop where
  same : held tried.1 = held ran.1
  worlds : held ran.1 = true → tried.2.world = s.world ∧ ran.2.world = t.world
  calls : ∃ looked acted, tried.2.calls = s.calls ++ looked ∧
    ran.2.calls = t.calls ++ (looked ++ acted) ∧ OnlyLooks looked ∧ OnlyActs acted ∧
    (held ran.1 = true → acted = [])

/-- The first step is a trial of the second one. -/
def Play.Foretells (held : α → Bool) (trial real : Play story (σ × List Call) α) : Prop :=
  ∀ s t, s.world = t.world → Foretold held s t (trial.run s) (real.run t)

namespace Play.Foretells

variable {held : α → Bool} {trial real : Play story (σ × List Call) α}

/-- Steps that do nothing are trials of each other. -/
theorem pure (value : α) :
    Foretells held (Pure.pure value : Play story (σ × List Call) α) (Pure.pure value) := by
  intro s t _
  exact ⟨rfl, fun _ => ⟨rfl, rfl⟩, [], [], (List.append_nil _).symm, (List.append_nil _).symm,
    .nil, .nil, fun _ => rfl⟩

/-- A trial ends where something does not hold.  The run ends there as well, but may run statements
before it does. -/
theorem bind {held' : β → Bool} {next onward : α → Play story (σ × List Call) β}
    (first : Foretells held trial real)
    (goesOn : ∀ v w, held v = true → held w = true → Foretells held' (next v) (onward w))
    (stops : ∀ v, held v = false →
      Writes (next v) fun result calls => held' result = false ∧ calls = [])
    (stops' : ∀ w, held w = false →
      Writes (onward w) fun result calls => held' result = false ∧ OnlyActs calls) :
    Foretells held' (trial >>= next) (real >>= onward) := by
  intro s t sameWorld
  obtain ⟨same, worlds, looked, acted, triedCalls, ranCalls, looks, acts, quiet⟩ :=
    first s t sameWorld
  rw [run_bind, run_bind]
  cases ok : held (real.run t).1 with
  | true =>
    -- both go on, and nothing has been run
    obtain ⟨triedWorld, ranWorld⟩ := worlds ok
    have sameWorld' : (trial.run s).2.world = (real.run t).2.world := by
      rw [triedWorld, ranWorld, sameWorld]
    obtain ⟨same', worlds', looked', acted', triedCalls', ranCalls', looks', acts', quiet'⟩ :=
      goesOn _ _ (same.trans ok) ok _ _ sameWorld'
    rw [quiet ok, List.append_nil] at ranCalls
    refine ⟨same', fun ok' => ?_, looked ++ looked', acted', ?_, ?_, looks.append looks', acts',
      quiet'⟩
    · obtain ⟨triedWorld', ranWorld'⟩ := worlds' ok'
      exact ⟨triedWorld'.trans triedWorld, ranWorld'.trans ranWorld⟩
    · rw [triedCalls', triedCalls, List.append_assoc]
    · rw [ranCalls', ranCalls, List.append_assoc, List.append_assoc]
  | false =>
    obtain ⟨_, triedCalls', failed, rfl⟩ := stops _ (same.trans ok) (trial.run s).2
    obtain ⟨acted', ranCalls', failed', acts'⟩ := stops' _ ok (real.run t).2
    refine ⟨failed.trans failed'.symm, fun ok' => ?_, looked, acted ++ acted', ?_, ?_, looks,
      acts.append acts', fun ok' => ?_⟩
    · rw [failed'] at ok'
      cases ok'
    · rw [triedCalls', triedCalls, List.append_nil]
    · rw [ranCalls', ranCalls, List.append_assoc, List.append_assoc]
    · rw [failed'] at ok'
      cases ok'

end Play.Foretells

/-! ## Checks -/

/-- Checks have been gone through and hold. -/
def allHold : Except RuntimeFailure Bool → Bool
  | .ok passed => passed
  | .error _ => false

theorem eq_ok_of_allHold {passed : Except RuntimeFailure Bool} (held : allHold passed = true) :
    passed = .ok true := by
  rcases passed with failure | _ | _
  · cases held
  · cases held
  · rfl

section Checks

variable {setting : Setting story σ}

theorem holds_foretells (pure : setting.interpreter.ChecksPurely) (context : Context)
    (check : Check) :
    Play.Foretells allHold (check.holds setting.journaled context)
      (check.holds setting.journaled context) := by
  unfold Check.holds
  cases check.condition with
  | none => exact Play.Foretells.pure _
  | some condition =>
    intro s t same
    have steady := pure.steady condition context s.world s.state.1 t.state.1
    have kept := pure.keepsWorld condition context
    refine ⟨?_, fun _ => ⟨kept _ _, kept _ _⟩,
      [.evaluated condition context
        (setting.interpreter.evaluate condition context s.world s.state.1).result], [], rfl, ?_,
      ?_, .nil, fun _ => rfl⟩
    · show allHold (setting.interpreter.evaluate condition context s.world s.state.1).result =
        allHold (setting.interpreter.evaluate condition context t.world t.state.1).result
      rw [steady, same]
    · show t.calls ++ [.evaluated condition context
        (setting.interpreter.evaluate condition context t.world t.state.1).result] = _
      rw [List.append_nil, steady, same]
    · intro call member
      rw [List.mem_singleton.mp member]
      rfl

theorem checksPass_foretells (pure : setting.interpreter.ChecksPurely) (context : Context)
    (checks : List Check) :
    Play.Foretells allHold (checksPass setting.journaled context false checks)
      (checksPass setting.journaled context true checks) := by
  induction checks with
  | nil => exact Play.Foretells.pure _
  | cons check rest ih =>
    refine (holds_foretells pure context check).bind ?_ ?_ ?_
    · intro v w heldV heldW
      rw [eq_ok_of_allHold heldV, eq_ok_of_allHold heldW]
      exact ih
    · intro v failed
      rcases v with failure | _ | _
      · exact Play.Writes.pure ⟨rfl, rfl⟩
      · -- the trial leaves out the statements of the check
        exact Play.Writes.pure ⟨rfl, rfl⟩
      · cases failed
    · intro w failed
      rcases w with failure | _ | _
      · exact Play.Writes.pure ⟨rfl, .nil⟩
      · refine (executeAny_writes setting check.statements context).bind fun told calls acts => ?_
        have acts' : OnlyActs (calls ++ []) := by
          rw [List.append_nil]
          exact acts
        cases told with
        | ok => exact Play.Writes.pure ⟨rfl, acts'⟩
        | error failure => exact Play.Writes.pure ⟨rfl, acts'⟩
      · cases failed

theorem foretells_traceSection (title : String) :
    Play.Foretells (fun _ => true) (Play.onlyIf false (Play.traceSection setting.journaled title))
      (Play.onlyIf true (Play.traceSection setting.journaled title)) := by
  intro s t _
  have world : ((Play.traceSection setting.journaled title).run t).2.world = t.world := by
    unfold Play.traceSection
    rw [Play.run_onlyIf]
    split <;> rfl
  obtain ⟨_, ranCalls, rfl⟩ := Play.writes_traceSection setting.journaled title t
  exact ⟨rfl, fun _ => ⟨rfl, world⟩, [], [], (List.append_nil _).symm, ranCalls, .nil, .nil,
    fun _ => rfl⟩

theorem alternativeChecksPass_foretells (pure : setting.interpreter.ChecksPurely)
    (verb : WordCode) (parameters : List InstanceId) (alternative : Alternative) :
    Play.Foretells id (alternative.checksPass setting.journaled verb parameters false)
      (alternative.checksPass setting.journaled verb parameters true) := by
  refine (foretells_traceSection _).bind (fun _ _ _ _ => ?_) (by simp) (by simp)
  refine (checksPass_foretells pure _ _).bind ?_ ?_ ?_
  · intro v w heldV heldW
    rw [eq_ok_of_allHold heldV, eq_ok_of_allHold heldW]
    exact Play.Foretells.pure true
  · intro v failed
    rcases v with failure | _ | _
    · exact Play.Writes.pure ⟨rfl, rfl⟩
    · exact Play.Writes.pure ⟨rfl, rfl⟩
    · cases failed
  · intro w failed
    rcases w with failure | _ | _
    · refine (Play.writes_onlyIf true (Play.writes_note _)).bind ?_
      rintro _ _ rfl
      exact Play.Writes.pure ⟨rfl, .nil⟩
    · exact Play.Writes.pure ⟨rfl, .nil⟩
    · cases failed

/-- **The checks of a verb are tried as they are gone through.** -/
theorem allChecksPass_foretells (pure : setting.interpreter.ChecksPurely) (verb : WordCode)
    (parameters : List InstanceId) (alternatives : List Alternative) :
    Play.Foretells id (allChecksPass setting.journaled verb parameters false alternatives)
      (allChecksPass setting.journaled verb parameters true alternatives) := by
  induction alternatives with
  | nil => exact Play.Foretells.pure true
  | cons alternative rest ih =>
    unfold allChecksPass
    split
    · exact ih
    · refine (alternativeChecksPass_foretells pure verb parameters alternative).bind ?_ ?_ ?_
      · rintro _ _ rfl rfl
        exact ih
      · rintro _ rfl
        exact Play.Writes.pure ⟨rfl, rfl⟩
      · rintro _ rfl
        exact Play.Writes.pure ⟨rfl, .nil⟩

end Checks

/-! ## Verbs -/

section Verbs

variable {setting : Setting story σ} {verb : WordCode} {parameters : List InstanceId}

/-- After its checks a verb runs bodies and asks for nothing else.  It comes to something if and
only if all checks hold and there is something to do. -/
theorem dispatch_after_checks (setting : Setting story σ) (verb : WordCode)
    (parameters : List InstanceId) (scene : Scene story (σ × List Call)) :
    let alternatives := scene.world.alternatives verb parameters
    let checked := (allChecksPass setting.journaled verb parameters true alternatives).run scene
    let ran := (dispatch setting.journaled verb parameters).run scene
    ((ran.1 ≠ .ok .checkFailed ∧ ran.1 ≠ .error .infeasible) ↔
      checked.1 = true ∧ anyAction alternatives = true) ∧
    ∃ bodies, ran.2.calls = checked.2.calls ++ bodies ∧ OnlyActs bodies := by
  intro alternatives checked ran
  cases passed : checked.1 with
  | false =>
    have run : ran = (.ok .checkFailed, checked.2) := dispatch_run_of_failed passed
    rw [run]
    exact ⟨by simp, [], (List.append_nil _).symm, .nil⟩
  | true =>
    cases active : anyAction alternatives with
    | false =>
      have run : ran = (.error .infeasible, checked.2) := dispatch_run_of_inactive passed active
      rw [run]
      exact ⟨by simp, [], (List.append_nil _).symm, .nil⟩
    | true =>
      have fresh : ∀ a ∈ turns alternatives, a.done = false := fun a member =>
        World.done_of_mem_alternatives ((turns_subperm _).subset member)
      obtain ⟨bodies, after, performed⟩ :=
        performInTurn_writes setting verb parameters fresh checked.2
      have run := dispatch_run_of_passed passed active
      refine ⟨⟨fun _ => ⟨rfl, rfl⟩, fun _ => ?_⟩, bodies, ?_, performed.onlyActs⟩
      · rw [show ran.1 = .ok _ from congrArg Prod.fst run]
        exact ⟨by split <;> simp, by simp⟩
      · rw [show ran.2 = _ from congrArg Prod.snd run]
        exact after

end Verbs

/-- **A trial agrees with the run.**  Where checks are pure and silent, a verb is found possible if
and only if running it from the same scene neither ends with a check that fails nor finds nothing
to do.  Both ask for the values of the same conditions, in the same contexts and the same order; the
trial asks for nothing else, says nothing and leaves the world as it is.  The calls are those in the
journals, which change neither the trial nor the run. -/
theorem possible_iff_dispatch (setting : Setting story σ) (verb : WordCode)
    (parameters : List InstanceId) (scene : Scene story σ)
    (pure : setting.interpreter.ChecksPurely) (silent : setting.interpreter.ChecksSilently) :
    let tried := (possible setting.journaled verb parameters).run scene.journaled
    let ran := (dispatch setting.journaled verb parameters).run scene.journaled
    (tried.1, tried.2.forget) = (possible setting verb parameters).run scene ∧
      (ran.1, ran.2.forget) = (dispatch setting verb parameters).run scene ∧
      (tried.1 = true ↔ ran.1 ≠ .ok .checkFailed ∧ ran.1 ≠ .error .infeasible) ∧
      tried.2.calls = ran.2.calls.filter (!·.isExecution) ∧
      OnlyLooks tried.2.calls ∧
      tried.2.world = scene.world ∧ tried.2.transcript = scene.transcript := by
  intro tried ran
  have forget : (tried.1, tried.2.forget) = (possible setting verb parameters).run scene :=
    (possible_alike (looksAlike_journaled setting) verb parameters).forget_journaled scene
  have after : tried.2.forget = ((possible setting verb parameters).run scene).2 :=
    congrArg Prod.snd forget
  -- the checks are gone through twice, from the same scene
  obtain ⟨same, -, looked, acted, triedCalls, ranCalls, looks, acts, -⟩ :=
    allChecksPass_foretells pure verb parameters
      (scene.journaled.world.alternatives verb parameters) scene.journaled scene.journaled rfl
  obtain ⟨ended, bodies, bodyCalls, bodiesAct⟩ :=
    dispatch_after_checks setting verb parameters scene.journaled
  have looked_eq : tried.2.calls = looked := triedCalls
  have ran_eq : ran.2.calls = looked ++ (acted ++ bodies) := by
    rw [bodyCalls, ranCalls, Scene.calls_journaled, List.nil_append, List.append_assoc]
  refine ⟨forget, dispatch_journaled setting verb parameters scene, ?_, ?_, ?_, ?_, ?_⟩
  · rw [id_eq, id_eq] at same
    rw [ended, ← same]
    exact Bool.and_eq_true_iff
  · rw [looked_eq, ran_eq, looks.filter_append (acts.append bodiesAct)]
  · rw [looked_eq]
    exact looks
  · rw [← Scene.world_forget, after]
    exact pure.keepsWorld.eq_of_tries (possible_tries verb parameters .start)
  · rw [show tried.2.transcript = tried.2.forget.transcript from rfl, after]
    exact possible_keeps (keptByChecks_transcript silent scene.transcript) verb parameters rfl

/-- The check of the lantern fails: the run tells the player why, the trial does not. -/
theorem possible_iff_dispatch_lantern :
    let setting : Setting .lantern Recording := ⟨.scripted _ { conditions := [(5, false)] }, {}⟩
    let scene : Scene .lantern Recording := { world := .initial _, state := {} }
    let tried := (possible setting.journaled 1 [1]).run scene.journaled
    let ran := (dispatch setting.journaled 1 [1]).run scene.journaled
    setting.interpreter.ChecksPurely ∧ setting.interpreter.ChecksSilently ∧
      tried.1 = false ∧ ran.2.calls.map Call.isExecution = [false, true] ∧
      (tried.1, tried.2.forget) = (possible setting 1 [1]).run scene ∧
      (ran.1, ran.2.forget) = (dispatch setting 1 [1]).run scene ∧
      (tried.1 = true ↔ ran.1 ≠ .ok .checkFailed ∧ ran.1 ≠ .error .infeasible) ∧
      tried.2.calls = ran.2.calls.filter (!·.isExecution) ∧
      OnlyLooks tried.2.calls ∧
      tried.2.world = scene.world ∧ tried.2.transcript = scene.transcript := by
  intro setting scene tried ran
  have pure : setting.interpreter.ChecksPurely := Interpreter.checksPurely_scripted _ _
  have silent : setting.interpreter.ChecksSilently := Interpreter.checksSilently_scripted _ _
  exact ⟨pure, silent, by decide, by decide,
    possible_iff_dispatch setting 1 [1] scene pure silent⟩

end TextAdventure
