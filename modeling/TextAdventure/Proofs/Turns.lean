import TextAdventure.Interpreter.Scripted
import TextAdventure.Proofs.Journal
import TextAdventure.Proofs.Lists
import Mathlib.Data.List.Perm.Subperm
/-!
# The turns of a verb's bodies

Three passes over the alternatives of a verb, with a mark on each that has had its turn, run their
bodies in an order that can be read off the qualifiers (`turns`).  The passes are first shown to be
the run of that order (`performAll_eq_runInTurn`); the journal then shows the calls, which are those
of the order up to the first body that fails (`RunUntilFailure`).
-/

namespace TextAdventure

variable {story : Story} {σ α : Type}

/-! ## The order -/

/-- A list up to its first member that passes a test, with this member. -/
def through (test : α → Bool) : List α → List α
  | [] => []
  | a :: rest => if test a then [a] else a :: through test rest

theorem through_sublist (test : α → Bool) (as : List α) : (through test as).Sublist as := by
  induction as with
  | nil => exact List.Sublist.refl _
  | cons a rest ih =>
    unfold through
    split
    · exact (List.nil_sublist rest).cons_cons a
    · exact ih.cons_cons a

theorem through_eq_self {test : α → Bool} {as : List α} (none : as.any test = false) :
    through test as = as := by
  induction as with
  | nil => rfl
  | cons a rest ih =>
    rw [List.any_cons, Bool.or_eq_false_iff] at none
    rw [through, none.1, ih none.2]
    rfl

namespace Alternative

/-- The alternative has a qualifier. -/
def is (alternative : Alternative) (qualifier : Qualifier) : Bool :=
  alternative.body.qualifier == qualifier

end Alternative

/-- The alternatives that have a turn, in the order of their turns.  The given ones are in the order
from the outside in.  With an ONLY among them it is the turn of those before, from the inside out,
as far as the first ONLY on that way. -/
def turns (alternatives : List Alternative) : List Alternative :=
  let outwards := alternatives.reverse
  if alternatives.any (·.is .only) then
    (through (·.is .only) outwards).filter fun a => a.is .before || a.is .only
  else
    outwards.filter (·.is .before) ++ alternatives.filter (·.is .default) ++
      outwards.filter (·.is .after)

theorem count_filter_is (qualifier : Qualifier) (a : Alternative) (as : List Alternative) :
    (as.filter (·.is qualifier)).count a =
      if a.body.qualifier = qualifier then as.count a else 0 := by
  split
  · next same => exact List.count_filter (by simp [Alternative.is, same])
  · next differs =>
    refine List.count_eq_zero_of_not_mem fun member => differs ?_
    simpa [Alternative.is] using List.of_mem_filter member

/-- No alternative has more than one turn. -/
theorem turns_subperm (alternatives : List Alternative) :
    (turns alternatives).Subperm alternatives := by
  unfold turns
  split
  · refine (List.filter_sublist.trans (through_sublist _ _)).subperm.trans ?_
    exact (List.reverse_perm alternatives).subperm
  · rw [List.subperm_iff_count]
    intro a
    rw [List.count_append, List.count_append, count_filter_is, count_filter_is, count_filter_is,
      List.count_reverse]
    cases a.body.qualifier <;> simp

/-! ## Running bodies in turn -/

/-- Performs alternatives in the given order, as long as none fails; false if one did. -/
def performInTurn (setting : Setting story σ) (verb : WordCode) (parameters : List InstanceId) :
    List Alternative → Play story σ Bool
  | [] => return true
  | alternative :: rest => do
    if ← alternative.perform setting verb parameters then
      performInTurn setting verb parameters rest
    else return false

/-- How a command ends that performs alternatives in the given order. -/
def runInTurn (setting : Setting story σ) (verb : WordCode) (parameters : List InstanceId)
    (alternatives : List Alternative) : Play story σ Dispatch := do
  return if ← performInTurn setting verb parameters alternatives then .completed else .failed

section Passes

variable (setting : Setting story σ) (verb : WordCode) (parameters : List InstanceId)

theorem performInTurn_cons (a : Alternative) (rest : List Alternative) (scene : Scene story σ) :
    (performInTurn setting verb parameters (a :: rest)).run scene =
      let performed := (a.perform setting verb parameters).run scene
      if performed.1 then (performInTurn setting verb parameters rest).run performed.2
      else (false, performed.2) := by
  simp only [performInTurn, Play.run_bind]
  split <;> rfl

theorem performInTurn_append (first second : List Alternative) (scene : Scene story σ) :
    (performInTurn setting verb parameters (first ++ second)).run scene =
      let ran := (performInTurn setting verb parameters first).run scene
      if ran.1 then (performInTurn setting verb parameters second).run ran.2
      else (false, ran.2) := by
  induction first generalizing scene with
  | nil => rfl
  | cons a rest ih =>
    rw [List.cons_append, performInTurn_cons, performInTurn_cons]
    obtain ⟨performed, after⟩ := (a.perform setting verb parameters).run scene
    cases performed with
    | true => exact ih after
    | false => rfl

theorem runInTurn_append (first second : List Alternative) (scene : Scene story σ) :
    (runInTurn setting verb parameters (first ++ second)).run scene =
      let ran := (performInTurn setting verb parameters first).run scene
      if ran.1 then (runInTurn setting verb parameters second).run ran.2
      else (.failed, ran.2) := by
  rw [runInTurn, Play.run_bind, performInTurn_append]
  dsimp only
  split <;> rfl

/-- Those that have had their turn are passed over. -/
theorem performInTurn_filter (alternatives : List Alternative) :
    performInTurn setting verb parameters alternatives =
      performInTurn setting verb parameters (alternatives.filter (!·.done)) := by
  induction alternatives with
  | nil => rfl
  | cons a rest ih =>
    cases had : a.done with
    | true =>
      rw [List.filter_cons_of_neg (by simp [had]), ← ih]
      simp only [performInTurn, Alternative.perform, had, if_true]
      rfl
    | false =>
      rw [List.filter_cons_of_pos (by simp [had])]
      simp only [performInTurn, ih]

/-- An alternative after a pass that has gone by it. -/
def Pass.mark (pass : Pass) (alternative : Alternative) : Alternative :=
  if pass.selects alternative.body then { alternative with done := true } else alternative

/-- What is due in a pass: all that it selects, up to one that ends the command. -/
def Pass.due (pass : Pass) (alternatives : List Alternative) : List Alternative :=
  (through (pass.ends ·.body) alternatives).filter (pass.selects ·.body)

/-- How a pass ends a command, if it does. -/
def Pass.ending (pass : Pass) (alternatives : List Alternative) (succeeded : Bool) :
    Option Dispatch :=
  if !succeeded then some .failed
  else if alternatives.any fun a => pass.ends a.body then some .completed
  else none

variable {pass : Pass} {a : Alternative}

theorem Pass.run_of_not_selects (passedOver : pass.selects a.body = false)
    (rest : List Alternative) (scene : Scene story σ) :
    (pass.run setting verb parameters (a :: rest)).run scene =
      let passed := (pass.run setting verb parameters rest).run scene
      ((a :: passed.1.1, passed.1.2), passed.2) := by
  simp only [Pass.run, passedOver, Bool.false_eq_true, if_false]
  rfl

theorem Pass.run_of_selects (selected : pass.selects a.body = true) (rest : List Alternative)
    (scene : Scene story σ) :
    (pass.run setting verb parameters (a :: rest)).run scene =
      let performed := (a.perform setting verb parameters).run scene
      let marked := { a with done := true }
      if !performed.1 then ((marked :: rest, some .failed), performed.2)
      else if pass.ends a.body then ((marked :: rest, some .completed), performed.2)
      else
        let passed := (pass.run setting verb parameters rest).run performed.2
        ((marked :: passed.1.1, passed.1.2), passed.2) := by
  simp only [Pass.run, selected, if_true, Play.run_bind]
  split
  · rfl
  · split <;> rfl

/-- **One pass.**  It performs what is due, as far as nothing fails, and marks what it selects. -/
theorem Pass.run_eq (selective : ∀ body, pass.ends body = true → pass.selects body = true)
    (alternatives : List Alternative) (scene : Scene story σ) :
    let ran := (performInTurn setting verb parameters (pass.due alternatives)).run scene
    ∃ left, (pass.run setting verb parameters alternatives).run scene =
        ((left, pass.ending alternatives ran.1), ran.2) ∧
      (pass.ending alternatives ran.1 = none → left = alternatives.map pass.mark) := by
  induction alternatives generalizing scene with
  | nil => exact ⟨[], rfl, fun _ => rfl⟩
  | cons a rest ih =>
    cases selected : pass.selects a.body with
    | false =>
      -- one that is not selected does not end the command either
      have goesOn : pass.ends a.body = false := by
        cases ends : pass.ends a.body with
        | false => rfl
        | true => rw [selective _ ends] at selected; cases selected
      have due : pass.due (a :: rest) = pass.due rest := by
        simp [Pass.due, through, goesOn, selected]
      obtain ⟨left, passed, marked⟩ := ih scene
      rw [Pass.run_of_not_selects setting verb parameters selected, due, passed]
      simp only [Pass.ending, List.any_cons, goesOn, Bool.false_or] at marked ⊢
      refine ⟨a :: left, rfl, fun unended => ?_⟩
      rw [marked unended, List.map_cons, Pass.mark, selected]
      rfl
    | true =>
      rw [Pass.run_of_selects setting verb parameters selected]
      cases ends : pass.ends a.body with
      | true =>
        have due : pass.due (a :: rest) = [a] := by
          simp [Pass.due, through, ends, selected]
        rw [due, performInTurn_cons]
        obtain ⟨performed, after⟩ := (a.perform setting verb parameters).run scene
        simp only [Pass.ending, List.any_cons, ends, Bool.true_or]
        cases performed <;> exact ⟨_, rfl, fun unended => by cases unended⟩
      | false =>
        have due : pass.due (a :: rest) = a :: pass.due rest := by
          simp [Pass.due, through, ends, selected]
        rw [due, performInTurn_cons]
        obtain ⟨performed, after⟩ := (a.perform setting verb parameters).run scene
        cases performed with
        | false => exact ⟨_, rfl, fun unended => by cases unended⟩
        | true =>
          obtain ⟨left, passed, marked⟩ := ih after
          simp only [Pass.ending, List.any_cons, ends, Bool.false_or] at passed marked ⊢
          refine ⟨{ a with done := true } :: left, ?_, fun unended => ?_⟩
          · simp [passed]
          · rw [marked unended, List.map_cons, Pass.mark, selected]
            rfl

/-- A pass that nothing ends but a failure, with what comes after it. -/
theorem Pass.bind_of_endless
    (selective : ∀ body, pass.ends body = true → pass.selects body = true)
    {alternatives due rest : List Alternative}
    (endless : (alternatives.any fun a => pass.ends a.body) = false)
    (same : (alternatives.filter (pass.selects ·.body)).filter (!·.done) = due)
    {next : List Alternative × Option Dispatch → Play story σ Dispatch}
    (stops : ∀ left ending, next (left, some ending) = pure ending)
    (onward : ∀ scene, (next (alternatives.map pass.mark, none)).run scene =
      (runInTurn setting verb parameters rest).run scene) (scene : Scene story σ) :
    (pass.run setting verb parameters alternatives >>= next).run scene =
      (runInTurn setting verb parameters (due ++ rest)).run scene := by
  have due_eq : performInTurn setting verb parameters (pass.due alternatives) =
      performInTurn setting verb parameters due := by
    rw [Pass.due, through_eq_self endless, performInTurn_filter, same]
  obtain ⟨left, passed, marked⟩ := Pass.run_eq setting verb parameters selective alternatives scene
  rw [due_eq, Pass.ending, endless] at passed marked
  rw [Play.run_bind, passed, runInTurn_append]
  generalize (performInTurn setting verb parameters due).run scene = ran at marked ⊢
  obtain ⟨succeeded, after⟩ := ran
  cases succeeded with
  | false =>
    show (next (left, some .failed)).run after = _
    rw [stops]
    rfl
  | true =>
    rw [marked rfl]
    exact onward after

/-! ## Three passes -/

theorem Pass.before_selective (body : VerbBody) (ends : Pass.before.ends body = true) :
    Pass.before.selects body = true := by
  rw [Pass.before] at ends ⊢
  rw [Bool.or_eq_true]
  exact Or.inr ends

variable {alternatives : List Alternative}

/-- Without an ONLY those marked BEFORE are due in the first pass. -/
theorem left_for_before (fresh : ∀ a ∈ alternatives, a.done = false)
    (noOnly : alternatives.any (·.is .only) = false) :
    (alternatives.reverse.filter (Pass.before.selects ·.body)).filter (!·.done) =
      alternatives.reverse.filter (·.is .before) := by
  rw [List.filter_filter]
  refine List.filter_congr fun a member => ?_
  have unmarked := fresh a (List.mem_reverse.mp member)
  have notOnly : ¬ a.is .only = true :=
    List.any_eq_false.mp noOnly a (List.mem_reverse.mp member)
  cases qualifier : a.body.qualifier <;> simp_all [Alternative.is, Pass.before]

/-- Without an ONLY the first pass leaves just the unmarked default ones to the second. -/
theorem left_for_main (fresh : ∀ a ∈ alternatives, a.done = false)
    (noOnly : alternatives.any (·.is .only) = false) :
    ((alternatives.map Pass.before.mark).filter (Pass.main.selects ·.body)).filter (!·.done) =
      alternatives.filter (·.is .default) := by
  rw [List.filter_filter]
  refine filter_map_eq fun a member => ?_
  have unmarked := fresh a member
  have notOnly : ¬ a.is .only = true := List.any_eq_false.mp noOnly a member
  cases qualifier : a.body.qualifier <;>
    simp_all [Alternative.is, Pass.mark, Pass.before, Pass.main]

/-- The second pass leaves just the unmarked ones that come after to the third. -/
theorem left_for_after (fresh : ∀ a ∈ alternatives, a.done = false) :
    (((alternatives.map Pass.before.mark).map Pass.main.mark).reverse.filter
        (Pass.after.selects ·.body)).filter (!·.done) =
      alternatives.reverse.filter (·.is .after) := by
  rw [List.filter_filter, List.map_map, ← List.map_reverse]
  refine filter_map_eq fun a member => ?_
  have unmarked := fresh a (List.mem_reverse.mp member)
  cases qualifier : a.body.qualifier <;>
    simp_all [Alternative.is, Pass.mark, Pass.before, Pass.main, Pass.after]

theorem performAll_of_only (only : alternatives.any (·.is .only) = true)
    (scene : Scene story σ) :
    (performAll setting verb parameters alternatives).run scene =
      (runInTurn setting verb parameters (turns alternatives)).run scene := by
  have due : turns alternatives = Pass.before.due alternatives.reverse := by
    unfold turns
    rw [if_pos only]
    rfl
  have ends : (alternatives.reverse.any fun a => Pass.before.ends a.body) = true := by
    rw [List.any_reverse]
    exact only
  obtain ⟨left, passed, -⟩ := Pass.run_eq setting verb parameters Pass.before_selective
    alternatives.reverse scene
  rw [due, performAll, Play.run_bind, passed, Pass.ending, ends, runInTurn, Play.run_bind]
  generalize (performInTurn setting verb parameters _).run scene = ran
  obtain ⟨succeeded, after⟩ := ran
  cases succeeded <;> rfl

theorem performAll_of_noOnly (fresh : ∀ a ∈ alternatives, a.done = false)
    (noOnly : alternatives.any (·.is .only) = false) (scene : Scene story σ) :
    (performAll setting verb parameters alternatives).run scene =
      (runInTurn setting verb parameters (turns alternatives)).run scene := by
  have due : turns alternatives =
      alternatives.reverse.filter (·.is .before) ++ (alternatives.filter (·.is .default) ++
        (alternatives.reverse.filter (·.is .after) ++ [])) := by
    unfold turns
    rw [noOnly, List.append_nil, ← List.append_assoc]
    rfl
  rw [due]
  -- each pass hands what it has marked to the next one, in the opposite order
  refine Pass.bind_of_endless setting verb parameters Pass.before_selective ?_
    (left_for_before fresh noOnly) (fun _ _ => rfl) (fun scene => ?_) scene
  · rw [List.any_reverse]
    exact noOnly
  dsimp only
  rw [← List.map_reverse, List.reverse_reverse]
  refine Pass.bind_of_endless setting verb parameters ?_ ?_
    (left_for_main fresh noOnly) (fun _ _ => rfl) (fun scene => ?_) scene
  · exact fun _ ends => absurd ends Bool.false_ne_true
  · exact List.any_eq_false.mpr fun _ _ ends => absurd ends Bool.false_ne_true
  refine Pass.bind_of_endless setting verb parameters ?_ ?_
    (left_for_after fresh) (fun _ _ => rfl) (fun _ => rfl) scene
  · exact fun _ ends => absurd ends Bool.false_ne_true
  · exact List.any_eq_false.mpr fun _ _ ends => absurd ends Bool.false_ne_true

/-- **The passes are the turns.**  Three passes over alternatives that have not had their turn
perform them in the order of their turns. -/
theorem performAll_eq_runInTurn (fresh : ∀ a ∈ alternatives, a.done = false)
    (scene : Scene story σ) :
    (performAll setting verb parameters alternatives).run scene =
      (runInTurn setting verb parameters (turns alternatives)).run scene := by
  cases only : alternatives.any (·.is .only) with
  | true => exact performAll_of_only setting verb parameters only scene
  | false => exact performAll_of_noOnly setting verb parameters fresh only scene

end Passes

/-! ## What is run -/

/-- A body with the context that it runs in. -/
structure DueBody where
  statements : CodeAddress
  context : Context

/-- The call that runs a body. -/
def DueBody.call (body : DueBody) (result : Except RuntimeFailure Unit) : Call :=
  .executed body.statements body.context result

/-- The body of an alternative, if it has one; it runs for the alternative's own instance. -/
def Alternative.dueBody? (verb : WordCode) (parameters : List InstanceId)
    (alternative : Alternative) : Option DueBody :=
  alternative.body.action.map fun action => ⟨action, alternative.context verb parameters⟩

/-- The calls that run bodies one after another, up to the first that fails.  The truth value says
whether all have succeeded. -/
inductive RunUntilFailure : List DueBody → Bool → List Call → Prop where
  | done : RunUntilFailure [] true []
  | failed (body : DueBody) (rest : List DueBody) (failure : RuntimeFailure) :
      RunUntilFailure (body :: rest) false [body.call (.error failure)]
  | succeeded (body : DueBody) {rest : List DueBody} {all : Bool} {calls : List Call} :
      RunUntilFailure rest all calls →
      RunUntilFailure (body :: rest) all (body.call (.ok ()) :: calls)

theorem RunUntilFailure.filter {due : List DueBody} {all : Bool} {calls : List Call}
    (ran : RunUntilFailure due all calls) : calls.filter Call.isExecution = calls := by
  induction ran with
  | done => rfl
  | failed => rfl
  | succeeded body _ ih =>
    rw [List.filter_cons_of_pos rfl, ih]

theorem perform_writes (setting : Setting story σ) (verb : WordCode)
    (parameters : List InstanceId) {alternative : Alternative} (fresh : alternative.done = false) :
    Play.Writes (alternative.perform setting.journaled verb parameters) fun succeeded calls =>
      match alternative.dueBody? verb parameters with
      | none => succeeded = true ∧ calls = []
      | some body => (succeeded = true ∧ calls = [body.call (.ok ())]) ∨
          ∃ failure, succeeded = false ∧ calls = [body.call (.error failure)] := by
  unfold Alternative.perform Alternative.dueBody?
  rw [fresh]
  cases alternative.body.action with
  | none => exact Play.Writes.pure ⟨rfl, rfl⟩
  | some action =>
    refine (Play.writes_traceSection setting.journaled _).bind ?_
    rintro _ _ rfl
    refine (Play.writes_execute setting action _).bind ?_
    rintro result _ rfl
    cases result with
    | ok => exact Play.Writes.pure (Or.inl ⟨rfl, rfl⟩)
    | error failure => exact Play.Writes.pure (Or.inr ⟨failure, rfl, rfl⟩)

theorem performInTurn_writes (setting : Setting story σ) (verb : WordCode)
    (parameters : List InstanceId) {alternatives : List Alternative}
    (fresh : ∀ a ∈ alternatives, a.done = false) :
    Play.Writes (performInTurn setting.journaled verb parameters alternatives)
      (RunUntilFailure (alternatives.filterMap (·.dueBody? verb parameters))) := by
  induction alternatives with
  | nil => exact Play.Writes.pure .done
  | cons a rest ih =>
    have later := ih fun b member => fresh b (List.mem_cons_of_mem a member)
    refine (perform_writes setting verb parameters (fresh a (List.mem_cons_self ..))).bind ?_
    intro succeeded calls wrote
    rw [List.filterMap_cons]
    cases due : a.dueBody? verb parameters with
    | none =>
      rw [due] at wrote
      obtain ⟨rfl, rfl⟩ := wrote
      exact later
    | some body =>
      rw [due] at wrote
      rcases wrote with ⟨rfl, rfl⟩ | ⟨failure, rfl, rfl⟩
      · exact later.mono fun all calls ran => .succeeded body ran
      · exact Play.Writes.pure (.failed body _ failure)

/-! ## Dispatch -/

theorem World.done_of_mem_alternativesOf {world : World story} {verb : WordCode} {scope : Scope}
    {id : InstanceId} {a : Alternative} (member : a ∈ world.alternativesOf verb scope id) :
    a.done = false := by
  rw [World.alternativesOf, List.mem_append] at member
  rcases member with inherited | own
  · obtain ⟨cls, -, found⟩ := List.mem_filterMap.mp inherited
    obtain ⟨body, -, rfl⟩ := Option.map_eq_some_iff.mp found
    rfl
  · unfold World.ownAlternative at own
    split at own
    · cases own
    · obtain ⟨body, -, rfl⟩ := Option.map_eq_some_iff.mp (Option.mem_toList.mp own)
      rfl

/-- No alternative has had its turn when it is found. -/
theorem World.done_of_mem_alternatives {world : World story} {verb : WordCode}
    {parameters : List InstanceId} {a : Alternative}
    (member : a ∈ world.alternatives verb parameters) : a.done = false := by
  rw [World.alternatives, List.mem_append, List.mem_append] at member
  rcases member with (global | location) | parameter
  · obtain ⟨body, -, rfl⟩ := Option.map_eq_some_iff.mp (Option.mem_toList.mp global)
    rfl
  · exact World.done_of_mem_alternativesOf location
  · obtain ⟨entry, -, found⟩ := List.mem_flatMap.mp parameter
    exact World.done_of_mem_alternativesOf found

theorem dispatch_run_of_failed {setting : Setting story σ} {verb : WordCode}
    {parameters : List InstanceId} {scene : Scene story σ}
    (failed : ((allChecksPass setting verb parameters true
      (scene.world.alternatives verb parameters)).run scene).1 = false) :
    (dispatch setting verb parameters).run scene =
      (.ok .checkFailed, ((allChecksPass setting verb parameters true
        (scene.world.alternatives verb parameters)).run scene).2) := by
  simp only [dispatch, Play.run_bind, Play.run_world, failed, Bool.false_eq_true, if_false,
    Play.run_pure]

theorem dispatch_run_of_inactive {setting : Setting story σ} {verb : WordCode}
    {parameters : List InstanceId} {scene : Scene story σ}
    (passed : ((allChecksPass setting verb parameters true
      (scene.world.alternatives verb parameters)).run scene).1 = true)
    (inactive : anyAction (scene.world.alternatives verb parameters) = false) :
    (dispatch setting verb parameters).run scene =
      (.error .infeasible, ((allChecksPass setting verb parameters true
        (scene.world.alternatives verb parameters)).run scene).2) := by
  simp only [dispatch, Play.run_bind, Play.run_world, passed, inactive, Bool.false_eq_true,
    if_true, if_false, Play.run_pure]

/-- A dispatch whose checks hold is the run of the turns. -/
theorem dispatch_run_of_passed {setting : Setting story σ} {verb : WordCode}
    {parameters : List InstanceId} {scene : Scene story σ}
    (passed : ((allChecksPass setting verb parameters true
      (scene.world.alternatives verb parameters)).run scene).1 = true)
    (active : anyAction (scene.world.alternatives verb parameters) = true) :
    let checked := (allChecksPass setting verb parameters true
      (scene.world.alternatives verb parameters)).run scene
    let ran := (performInTurn setting verb parameters
      (turns (scene.world.alternatives verb parameters))).run checked.2
    (dispatch setting verb parameters).run scene =
      (.ok (if ran.1 then .completed else .failed), ran.2) := by
  intro checked ran
  have fresh : ∀ a ∈ scene.world.alternatives verb parameters, a.done = false :=
    fun a member => World.done_of_mem_alternatives member
  have performed := performAll_eq_runInTurn setting verb parameters fresh checked.2
  simp only [dispatch, Play.run_bind, Play.run_world, passed, active, if_true, Play.run_pure]
  rw [performed]
  rfl

/-- A lantern that does something before and, for its class, after what every thing does. -/
def Story.lantern : Story where
  classes := [
    { code := 1, name := "light", parent := 0,
      verbs := [{ code := 1, bodies := [{ qualifier := .after, action := some 30 }] }] }]
  instances := [
    { code := 1, name := "lantern", parent := 1, location := 0,
      verbs := [
        { code := 1,
          bodies := [
            { qualifier := .before, action := some 10, checks := [⟨some 5, some 6⟩] }] }] }]
  globalVerbs := [{ code := 1, bodies := [{ action := some 20 }] }]

end TextAdventure
