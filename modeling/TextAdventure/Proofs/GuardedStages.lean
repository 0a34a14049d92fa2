import TextAdventure.Proofs.GuardedReading
/-!
# The stages of a command with every access checked

The stages of a command find their way about positions, references and parameters by index: the only
candidate of a reference, the position with several targets, the slot of a parameter, the parameter
that a restriction is about.  Here every such access is checked and breaks the run if there is
nothing at the index, and what is written to a place stays there until something else is.

No stage breaks, and each does what it does without checks.  The decision for the only candidate is
made where there is one; a position that has several instances stays where it is; and the parameters
in the context of the restrictions follow the positions (`applyRestrictions_eq`).
-/

namespace TextAdventure

variable {story : Story} {σ α β : Type}

/-- A step in the course of a command, unless it breaks. -/
abbrev GuardedPlay (story : Story) (σ α : Type) : Type := StateT (Scene story σ) Option α

namespace GuardedPlay

/-- A step that does not break. -/
def sure (step : Play story σ α) : GuardedPlay story σ α := fun scene => some (step.run scene)

/-- A step too many. -/
def broken : GuardedPlay story σ α := fun _ => none

/-- What has been looked for must be there. -/
def check (found : Option α) : GuardedPlay story σ α := fun scene => found.map (·, scene)

theorem check_some (value : α) : (check (some value) : GuardedPlay story σ α) = pure value := rfl

theorem bind_run {step : GuardedPlay story σ α} {scene after : Scene story σ} {value : α}
    (ran : step scene = some (value, after)) (next : α → GuardedPlay story σ β) :
    (step >>= next) scene = next value after := by
  show (step scene).bind _ = _
  rw [ran]
  rfl

theorem sure_bind_run (step : Play story σ α) (next : α → GuardedPlay story σ β)
    (scene : Scene story σ) :
    (sure step >>= next) scene = next (step.run scene).1 (step.run scene).2 := rfl

/-- Steps that do not break do not break one after the other; of the second one this need be known
only for what the first one can come to. -/
theorem sure_bind_eq {step : Play story σ α} {next : α → Play story σ β}
    {guarded : α → GuardedPlay story σ β}
    (same : ∀ scene, guarded (step.run scene).1 = sure (next (step.run scene).1)) :
    sure step >>= guarded = sure (step >>= next) :=
  funext fun scene => congrFun (same scene) (step.run scene).2

end GuardedPlay

namespace Guarded

open GuardedPlay

/-- A list with another entry at an index, if there is one. -/
def put (entries : List α) (index : Nat) (entry : α) : Option (List α) :=
  if index < entries.length then some (entries.set index entry) else none

theorem put_eq {entries : List α} {index : Nat} (inRange : index < entries.length) (entry : α) :
    put entries index entry = some (entries.set index entry) :=
  if_pos inRange

/-! ## Settling references -/

/-- Chooses between candidates that are present and distant. -/
def choose (present distant : List InstanceId) (omnipotent : Bool) : Option Choice :=
  match Decision.ofCounts (.ofSize present.length) (.ofSize distant.length) omnipotent with
  | .noSuch => some .noSuch
  | .present => (present[0]?).map .settled
  | .distant => (distant[0]?).map .settled
  | .whichPresent => some (.whichOne present)
  | .whichDistant => some (.whichOne distant)

/-- Where the decision is for the only one, there is one. -/
theorem choose_eq (present distant : List InstanceId) (omnipotent : Bool) :
    choose present distant omnipotent = some (Choice.between present distant omnipotent) := by
  match present, distant, omnipotent with
  | [], [], _ => rfl
  | [], [_], false => rfl
  | [], [_], true => rfl
  | [], _ :: _ :: _, false => rfl
  | [], _ :: _ :: _, true => rfl
  | [_], _, _ => rfl
  | _ :: _ :: _, _, _ => rfl

/-- The reference settled to one of its candidates. -/
def settleReference (world : World story) (words : Words) (omnipotent : Bool)
    (reference : Reference) : Option (Attempt CommandError Reference) := do
  let (present, distant) := reference.candidates.partition world.reachable
  match ← choose present distant omnipotent with
  | .settled id => return .success { reference with id }
  | .noSuch => return .failure reference (.noSuch (reference.phrase words))
  | .whichOne candidates =>
    return .failure reference (.whichOne (candidates.map world.messageParameter))

theorem settleReference_eq (world : World story) (words : Words) (omnipotent : Bool)
    (reference : Reference) :
    settleReference world words omnipotent reference =
      some (reference.settle world words omnipotent) := by
  unfold settleReference Reference.settle Choice.ofCandidates
  dsimp only
  rw [choose_eq]
  cases Choice.between _ _ omnipotent <;> rfl

/-- Changes the members of a list in turn, up to the first that stops the operation. -/
def each {ε : Type} (change : α → Option (Attempt ε α)) : List α → Option (Attempt ε (List α))
  | [] => some (.success [])
  | x :: rest => do
    match ← change x with
    | ⟨y, some fault⟩ => return .failure (y :: rest) fault
    | ⟨y, none⟩ => return (← each change rest).map (y :: ·)

theorem each_eq {ε : Type} {guarded : α → Option (Attempt ε α)} {change : α → Attempt ε α}
    (same : ∀ x, guarded x = some (change x)) (xs : List α) :
    each guarded xs = some (Attempt.each change xs) := by
  induction xs with
  | nil => rfl
  | cons x rest ih =>
    unfold each Attempt.each
    rw [same, ih]
    cases changed : change x with
    | mk y fault => cases fault <;> rfl

/-- Settles the references that the player spelt out. -/
def settlePosition (world : World story) (words : Words) (position : Position) :
    Option (Attempt CommandError Position) :=
  let all := each (settleReference world words position.flags.omnipotent)
  if position.all then do
    return (← all position.exceptions).map fun exceptions => { position with exceptions }
  else if position.them then some (.success position)
  else do
    return (← all position.references).map fun references => { position with references }

theorem settlePosition_eq (world : World story) (words : Words) (position : Position) :
    settlePosition world words position = some (position.settle world words) := by
  unfold settlePosition Position.settle
  have all := each_eq (settleReference_eq world words position.flags.omnipotent)
  dsimp only
  rw [all, all]
  split
  · rfl
  · split <;> rfl

/-- Settles every reference of a command. -/
def settlePositions (world : World story) (words : Words) (memory : Memory)
    (positions : List Position) : Option (Attempt CommandError (List Position)) :=
  match Attempt.each (Position.findCandidates world words memory) positions with
  | ⟨found, some fault⟩ => some (.failure found fault)
  | ⟨found, none⟩ => each (settlePosition world words) found

theorem settlePositions_eq (world : World story) (words : Words) (memory : Memory)
    (positions : List Position) :
    settlePositions world words memory positions =
      some (TextAdventure.settlePositions world words memory positions) := by
  unfold settlePositions TextAdventure.settlePositions Attempt.andThen
  rcases Attempt.each (Position.findCandidates world words memory) positions with ⟨found, _ | fault⟩
  · exact each_eq (settlePosition_eq world words) found
  · rfl

/-! ## Several targets -/

section Several

variable {setting : Setting story σ} {words : Words} {verb : WordCode} {positions : List Position}
  {index : Nat}

/-- The instances in a slot that the verb could be applied to.  Each of them in turn takes the place
of the one before among the parameters. -/
def feasibleInstances (setting : Setting story σ) (verb : WordCode) (slot : Nat) :
    List InstanceId → List InstanceId → GuardedPlay story σ (List InstanceId)
  | _, [] => pure []
  | parameters, id :: rest => do
    let parameters ← check (put parameters slot id)
    let fits ← sure (feasible setting verb parameters slot id)
    let others ← feasibleInstances setting verb slot parameters rest
    return if fits then id :: others else others

/-- What stood in the slot before makes no difference. -/
theorem feasible_set (parameters : List InstanceId) (slot : Nat) (old id : InstanceId) :
    feasible setting verb (parameters.set slot old) slot id =
      feasible setting verb parameters slot id := by
  unfold feasible
  rw [List.set_set]

theorem feasibleInstances_set (parameters : List InstanceId) (slot : Nat) (old : InstanceId)
    (ids : List InstanceId) :
    TextAdventure.feasibleInstances setting verb (parameters.set slot old) slot ids =
      TextAdventure.feasibleInstances setting verb parameters slot ids := by
  induction ids with
  | nil => rfl
  | cons id rest ih =>
    unfold TextAdventure.feasibleInstances
    rw [feasible_set, ih]

theorem feasibleInstances_eq {slot : Nat} {parameters : List InstanceId}
    (inRange : slot < parameters.length) (ids : List InstanceId) :
    feasibleInstances setting verb slot parameters ids =
      sure (TextAdventure.feasibleInstances setting verb parameters slot ids) := by
  induction ids generalizing parameters with
  | nil => rfl
  | cons id rest ih =>
    unfold feasibleInstances TextAdventure.feasibleInstances
    rw [put_eq inRange, check_some, pure_bind, feasible_set]
    refine sure_bind_eq fun scene => ?_
    rw [ih (by rw [List.length_set]; exact inRange), feasibleInstances_set]
    exact sure_bind_eq fun _ => rfl

/-- The position at an index, cut down to the references that the command is about. -/
def narrow (setting : Setting story σ) (words : Words) (verb : WordCode)
    (positions : List Position) (index : Nat) :
    GuardedPlay story σ (Attempt CommandError Position) := do
  let position ← check positions[index]?
  if position.all then do
    let kept ← feasibleInstances setting verb index (parameterVector positions) position.instances
    return position.narrowAll words kept
  else return position.narrowList

theorem narrow_eq {position : Position} (there : positions[index]? = some position) :
    narrow setting words verb positions index =
      sure (position.narrow setting words verb positions index) := by
  have inRange : index < (parameterVector positions).length := by
    unfold parameterVector
    rw [List.length_map]
    exact (List.getElem?_eq_some_iff.mp there).1
  unfold narrow Position.narrow
  rw [there, check_some, pure_bind]
  split
  · rw [feasibleInstances_eq inRange]
    exact sure_bind_eq fun _ => rfl
  · rfl

/-- Settles the position that stands for several instances. -/
def settleMultiple (setting : Setting story σ) (words : Words) (verb : WordCode)
    (positions : List Position) :
    GuardedPlay story σ (Attempt CommandError (List Position × Option Nat)) :=
  match multiplePosition positions with
  | .error fault => pure (.failure (positions, none) fault)
  | .ok none => pure (.success (positions, none))
  | .ok (some index) => do
    let narrowed ← narrow setting words verb positions index
    let positions ← check (put positions index narrowed.value)
    return ⟨(positions, some index), narrowed.fault⟩

theorem settleMultiple_eq :
    settleMultiple setting words verb positions =
      sure (TextAdventure.settleMultiple setting words verb positions) := by
  unfold settleMultiple TextAdventure.settleMultiple
  cases place : multiplePosition positions with
  | error fault => rfl
  | ok place' =>
    cases place' with
    | none => rfl
    | some index =>
      obtain ⟨position, there, -⟩ := (multiplePosition_eq_some place index).mp rfl
      dsimp only
      rw [narrow_eq there, there]
      refine sure_bind_eq fun scene => ?_
      rw [put_eq (List.getElem?_eq_some_iff.mp there).1]
      rfl

end Several

/-! ## Restrictions -/

section Restrictions

variable {setting : Setting story σ} {restriction : Restriction} {context : Context}
  {positions : List Position} {position : Position} {index : Nat} {silent : Bool}

/-- Tells the player, unless it is to be done silently, that an instance of several does not meet a
restriction.  The instance stays among the parameters of the context. -/
def tell (setting : Setting story σ) (restriction : Restriction) (silent : Bool) (index : Nat)
    (id : InstanceId) (context : Context) : GuardedPlay story σ Context :=
  if silent then pure context
  else do
    let parameters ← check (put context.parameters index id)
    sure (restriction.refuseMember setting { context with parameters } id)
    return { context with parameters }

/-- Drops the reference at a place of the position at an index if it does not meet a restriction. -/
def dropAt (setting : Setting story σ) (restriction : Restriction) (silent : Bool)
    (index place : Nat) (context : Context) (positions : List Position) :
    GuardedPlay story σ (Context × List Position) := do
  let position ← check positions[index]?
  let reference ← check position.references[place]?
  let world ← sure Play.world
  if reference.id = 0 || world.meets restriction.requirement reference.id then
    return (context, positions)
  else do
    let context ← tell setting restriction silent index reference.id context
    let references ← check (put position.references place { reference with id := 0 })
    let positions ← check (put positions index { position with references })
    return (context, positions)

/-- Drops all references of the position at an index, from a place on, that do not meet a
restriction.  In the end the slot of the position is emptied. -/
def dropFrom (setting : Setting story σ) (restriction : Restriction) (silent : Bool) (index : Nat) :
    Nat → Nat → Context → List Position → GuardedPlay story σ (Context × List Position)
  | 0, _, context, positions => do
    let parameters ← check (put context.parameters index 0)
    return ({ context with parameters }, positions)
  | left + 1, place, context, positions => do
    let (context, positions) ← dropAt setting restriction silent index place context positions
    dropFrom setting restriction silent index left (place + 1) context positions

/-- The index of the position that a restriction is about. -/
def restrictedIndex? (positions : List Position) (restriction : Restriction) : Option Nat :=
  match restriction.parameter with
  | 0 => none
  | index + 1 => if index < positions.length then some index else none

theorem restrictedIndex?_eq (positions : List Position) (restriction : Restriction) :
    restrictedIndex? positions restriction =
      (entryAt positions restriction.parameter).map fun _ => restriction.parameter - 1 := by
  unfold restrictedIndex? entryAt
  cases restriction.parameter with
  | zero => rfl
  | succ index =>
    dsimp only
    split
    · next inRange => rw [List.getElem?_eq_getElem inRange, Option.map_some, Nat.add_sub_cancel]
    · next outside => rw [List.getElem?_eq_none (Nat.not_lt.mp outside), Option.map_none]

/-- Applies a restriction to the position at an index. -/
def applyAt (setting : Setting story σ) (restriction : Restriction) (index : Nat)
    (context : Context) (positions : List Position) :
    GuardedPlay story σ (Context × Attempt CommandError (List Position)) := do
  let position ← check positions[index]?
  if position.multiple then do
    let (context, positions) ← dropFrom setting restriction position.all index
      position.references.length 0 context positions
    let position ← check positions[index]?
    let positions ← check (put positions index { position with checked := true })
    return (context, .success positions)
  else do
    let world ← sure Play.world
    if world.meets restriction.requirement position.firstInstance then do
      let positions ← check (put positions index { position with checked := true })
      return (context, .success positions)
    else do
      let fault ← sure (restriction.reject setting context)
      return (context, .failure positions fault)

/-- Applies the restrictions of a form in turn. -/
def applyRestrictions (setting : Setting story σ) :
    Context → List Position → List Restriction →
      GuardedPlay story σ (Attempt CommandError (List Position))
  | _, positions, [] => pure (.success positions)
  | context, positions, restriction :: rest =>
    match restrictedIndex? positions restriction with
    | none => do
      sure (Play.note
        [.warning s!"Restriction for missing parameter #{restriction.parameter}"])
      applyRestrictions setting context positions rest
    | some index => do
      match ← applyAt setting restriction index context positions with
      | (_, ⟨positions, some fault⟩) => return .failure positions fault
      | (context, ⟨positions, none⟩) => applyRestrictions setting context positions rest

/-- The context with an instance in a slot. -/
def filled (context : Context) (index : Nat) (id : InstanceId) : Context :=
  { context with parameters := context.parameters.set index id }

theorem tell_run (setting : Setting story σ) (silent : Bool)
    (number : restriction.parameter = index + 1) (inRange : index < context.parameters.length)
    (old id : InstanceId) (scene : Scene story σ) :
    ∃ last, tell setting restriction silent index id (filled context index old) scene =
      some (filled context index last, ((Play.onlyIf (!silent)
        (restriction.refuseMember setting context id)).run scene).2) := by
  cases silent with
  | true => exact ⟨old, rfl⟩
  | false =>
    refine ⟨id, ?_⟩
    have told : restriction.refuseMember setting (filled context index id) id =
        restriction.refuseMember setting context id := by
      unfold Restriction.refuseMember filled
      dsimp only
      rw [number, Nat.add_sub_cancel, List.set_set]
    have there : put (filled context index old).parameters index id =
        some (filled context index id).parameters := by
      unfold filled
      dsimp only
      rw [put_eq (by rw [List.length_set]; exact inRange), List.set_set]
    unfold tell
    rw [if_neg Bool.false_ne_true, there, check_some, pure_bind]
    show some (filled context index id, ((restriction.refuseMember setting
      (filled context index id) id).run scene).2) = _
    rw [told]
    rfl

theorem dropAt_run (setting : Setting story σ) (silent : Bool)
    (number : restriction.parameter = index + 1)
    (inRange : index < context.parameters.length) (there : positions[index]? = some position)
    {place : Nat} {reference : Reference} (here : position.references[place]? = some reference)
    (old : InstanceId) (scene : Scene story σ) :
    let dropped := (restriction.dropMember setting context silent reference).run scene
    ∃ last, dropAt setting restriction silent index place (filled context index old)
        positions scene =
      some ((filled context index last, positions.set index
        { position with references := position.references.set place dropped.1 }), dropped.2) := by
  unfold dropAt
  rw [there, check_some, pure_bind, here, check_some, pure_bind, sure_bind_run, Play.run_world,
    Restriction.dropMember_run]
  dsimp only
  split
  · -- what is set is what is there already
    refine ⟨old, ?_⟩
    dsimp only
    rw [set_of_getElem? here, set_of_getElem? there]
    rfl
  · obtain ⟨last, told⟩ := tell_run setting silent number inRange old reference.id scene
    refine ⟨last, ?_⟩
    rw [bind_run told, put_eq (List.getElem?_eq_some_iff.mp here).1, check_some, pure_bind,
      put_eq (List.getElem?_eq_some_iff.mp there).1]
    rfl

/-- While references are dropped, whatever stands in the slot of their position is replaced before
anyone sees it, and behind the last one the slot is empty as before. -/
theorem dropFrom_eq (setting : Setting story σ) (silent : Bool)
    (number : restriction.parameter = index + 1)
    (inRange : index < context.parameters.length)
    (empty : context.parameters.set index 0 = context.parameters) (done rest : List Reference)
    (there : positions[index]? = some position)
    (parts : position.references = done ++ rest) (old : InstanceId) :
    dropFrom setting restriction silent index rest.length done.length
        (filled context index old) positions =
      sure (restriction.dropMembers setting context silent rest >>= fun left =>
        pure (context, positions.set index { position with references := done ++ left })) := by
  induction rest generalizing done old position positions with
  | nil =>
    have emptied : put (filled context index old).parameters index 0 =
        some context.parameters := by
      unfold filled
      dsimp only
      rw [put_eq (by rw [List.length_set]; exact inRange), List.set_set, empty]
    show (check (put (filled context index old).parameters index 0) >>= _) = _
    rw [emptied]
    funext scene
    show some ((context, positions), scene) =
      some ((context, positions.set index { position with references := done ++ [] }), scene)
    rw [← parts, set_of_getElem? there]
  | cons reference rest ih =>
    have here : position.references[done.length]? = some reference := by
      rw [parts, List.getElem?_append_right (Nat.le_refl _), Nat.sub_self]
      rfl
    funext scene
    obtain ⟨last, ran⟩ := dropAt_run setting silent number inRange there here old scene
    show (dropAt setting restriction silent index done.length (filled context index old)
      positions >>= _) scene = _
    rw [bind_run ran]
    show _ = some (((restriction.dropMember setting context silent reference >>= fun first =>
      restriction.dropMembers setting context silent rest >>= fun left =>
        pure (context, positions.set index
          { position with references := done ++ first :: left })) : Play story σ _).run scene)
    rw [Play.run_bind]
    generalize (restriction.dropMember setting context silent reference).run scene = dropped
    obtain ⟨first, after⟩ := dropped
    dsimp only
    have parts' : position.references.set done.length first = (done ++ [first]) ++ rest := by
      rw [parts, List.set_append_right _ _ (Nat.le_refl _), Nat.sub_self, List.append_assoc]
      rfl
    have there' := List.getElem?_set_self (a := { position with
      references := position.references.set done.length first })
      (List.getElem?_eq_some_iff.mp there).1
    have others := ih (done ++ [first]) there' parts' last
    rw [List.length_append, List.length_singleton] at others
    rw [others]
    simp only [List.set_set, List.append_assoc, List.singleton_append]
    rfl

theorem length_parameterVector (positions : List Position) :
    (parameterVector positions).length = positions.length :=
  List.length_map _

/-- The slot of a position with several instances is empty. -/
theorem parameterVector_empty (there : positions[index]? = some position)
    (multiple : position.multiple = true) :
    (parameterVector positions).set index 0 = parameterVector positions := by
  unfold parameterVector
  apply set_of_getElem?
  rw [List.getElem?_map, there, Option.map_some, if_pos multiple]

/-- The parameters of a command do not change with what restrictions change. -/
theorem parameterVector_set {q : Position} (there : positions[index]? = some position)
    (multiple : q.multiple = position.multiple)
    (first : position.multiple = false → q.firstInstance = position.firstInstance) :
    parameterVector (positions.set index q) = parameterVector positions := by
  unfold parameterVector
  rw [List.map_set]
  apply set_of_getElem?
  rw [List.getElem?_map, there, Option.map_some, multiple]
  cases several : position.multiple with
  | true => rfl
  | false => rw [first several]

theorem applyAt_of_multiple (number : restriction.parameter = index + 1)
    (there : positions[index]? = some position) (multiple : position.multiple = true)
    (follows : context.parameters = parameterVector positions) :
    applyAt setting restriction index context positions =
      sure (restriction.applyTo setting context position >>= fun applied =>
        pure (context, applied.map (positions.set index))) := by
  have inRange := (List.getElem?_eq_some_iff.mp there).1
  have inRange' : index < context.parameters.length := by
    rw [follows, length_parameterVector]
    exact inRange
  have empty : context.parameters.set index 0 = context.parameters := by
    rw [follows, parameterVector_empty there multiple]
  have start : filled context index 0 = context := by
    unfold filled
    rw [empty]
  have dropped := dropFrom_eq setting position.all number inRange' empty []
    position.references there rfl 0
  rw [start] at dropped
  unfold applyAt Restriction.applyTo
  rw [there, check_some, pure_bind, if_pos multiple, if_pos multiple]
  show (dropFrom setting restriction position.all index position.references.length
    ([] : List Reference).length context positions >>= _) = _
  rw [dropped]
  funext scene
  rw [sure_bind_run, Play.run_bind]
  generalize left : (restriction.dropMembers setting context position.all
    position.references).run scene = left'
  dsimp only [Play.run_pure, List.nil_append]
  rw [List.getElem?_set_self inRange, check_some, pure_bind, put_eq (by
    rw [List.length_set]
    exact inRange), check_some, pure_bind, List.set_set]
  show _ = some ((((restriction.dropMembers setting context position.all position.references >>=
    fun references => pure (Attempt.success { position with references, checked := true })) >>= _)
      : Play story σ _).run scene)
  rw [Play.run_bind, Play.run_bind, left]
  rfl

theorem applyAt_of_single (there : positions[index]? = some position)
    (single : position.multiple = false) :
    applyAt setting restriction index context positions =
      sure (restriction.applyTo setting context position >>= fun applied =>
        pure (context, applied.map (positions.set index))) := by
  have inRange := (List.getElem?_eq_some_iff.mp there).1
  unfold applyAt
  rw [there, check_some, pure_bind, if_neg (Bool.eq_false_iff.mp single)]
  funext scene
  show _ = some ((restriction.applyTo setting context position >>= _).run scene)
  rw [sure_bind_run, Play.run_world, Play.run_bind, Restriction.applyTo_of_single single]
  dsimp only
  split
  · rw [put_eq inRange]
    rfl
  · -- what is set is what is there already
    rw [sure_bind_run, Play.run_pure]
    unfold Attempt.failure Attempt.map
    dsimp only
    rw [set_of_getElem? there]
    rfl

theorem parameterVector_applied (setting : Setting story σ) (context : Context)
    (restriction : Restriction) (there : positions[index]? = some position)
    (scene : Scene story σ) :
    parameterVector (positions.set index
        ((restriction.applyTo setting context position).run scene).1.value) =
      parameterVector positions := by
  by_cases multiple : position.multiple = true
  · unfold Restriction.applyTo
    rw [if_pos multiple]
    exact parameterVector_set there rfl fun single =>
      absurd multiple (Bool.eq_false_iff.mp single)
  · rw [Restriction.applyTo_of_single (Bool.eq_false_iff.mpr multiple)]
    split <;> exact parameterVector_set there rfl fun _ => rfl

/-- As long as the parameters of the context follow the positions, a restriction finds its slot
there. -/
theorem applyRestrictions_eq (follows : context.parameters = parameterVector positions)
    (restrictions : List Restriction) :
    applyRestrictions setting context positions restrictions =
      sure (TextAdventure.applyRestrictions setting context positions restrictions) := by
  induction restrictions generalizing positions with
  | nil => rfl
  | cons restriction rest ih =>
    unfold applyRestrictions TextAdventure.applyRestrictions
    rw [restrictedIndex?_eq]
    cases entry : entryAt positions restriction.parameter with
    | none => exact sure_bind_eq fun _ => ih follows
    | some position =>
      obtain ⟨index, number, there⟩ := entryAt_eq_some.mp entry
      have applied : applyAt setting restriction index context positions =
          sure (restriction.applyTo setting context position >>= fun applied =>
            pure (context, applied.map (positions.set index))) := by
        cases multiple : position.multiple with
        | true => exact applyAt_of_multiple number there multiple follows
        | false => exact applyAt_of_single there multiple
      rw [Option.map_some, number, Nat.add_sub_cancel]
      dsimp only
      rw [applied]
      funext scene
      show _ = some ((restriction.applyTo setting context position >>= _).run scene)
      rw [sure_bind_run, Play.run_bind, Play.run_bind]
      have follows' := parameterVector_applied setting context restriction there scene
      generalize (restriction.applyTo setting context position).run scene = applied at follows' ⊢
      obtain ⟨⟨q, _ | fault⟩, after⟩ := applied
      · show applyRestrictions setting context (positions.set index q) rest after = _
        rw [ih (follows.trans follows'.symm)]
        rfl
      · rfl

/-- Applies the restrictions of a form to the positions of a command. -/
def restrictPositions (setting : Setting story σ) (verb : WordCode)
    (restrictions : List Restriction) (positions : List Position) :
    GuardedPlay story σ (Attempt CommandError (List Position)) := do
  let unchecked := positions.map Position.unchecked
  let context : Context := { verb, parameters := parameterVector unchecked }
  let restricted ← applyRestrictions setting context unchecked restrictions
  let world ← sure Play.world
  return (restricted.andThen (requireObjects world)).andThen fun positions =>
    .success (positions.map Position.compress)

theorem restrictPositions_eq (verb : WordCode) (restrictions : List Restriction) :
    restrictPositions setting verb restrictions positions =
      sure (TextAdventure.restrictPositions setting verb restrictions positions) := by
  unfold restrictPositions
  dsimp only
  rw [applyRestrictions_eq rfl]
  rfl

end Restrictions

/-! ## Dispatch -/

section Dispatching

variable {setting : Setting story σ} {verb : WordCode} {parameters : List InstanceId}

/-- Runs a verb for each target in a slot.  Each of them in turn takes the place of the one before
among the parameters. -/
def dispatchEach (setting : Setting story σ) (verb : WordCode) (slot : Nat) :
    Dispatch → List InstanceId → List InstanceId → GuardedPlay story σ Dispatch
  | ending, _, [] => pure ending
  | ending, parameters, target :: rest => do
    let parameters ← check (put parameters slot target)
    let ending ← sure (dispatchTarget setting verb parameters slot ending target)
    sure (Play.onlyIf (!rest.isEmpty) (Play.say [.paragraph]))
    dispatchEach setting verb slot ending parameters rest

theorem dispatchTarget_set (slot : Nat) (ending : Dispatch) (old target : InstanceId) :
    dispatchTarget setting verb (parameters.set slot old) slot ending target =
      dispatchTarget setting verb parameters slot ending target := by
  unfold dispatchTarget
  rw [List.set_set]

theorem dispatchEach_set (slot : Nat) (ending : Dispatch) (old : InstanceId)
    (targets : List InstanceId) :
    TextAdventure.dispatchEach setting verb (parameters.set slot old) slot ending targets =
      TextAdventure.dispatchEach setting verb parameters slot ending targets := by
  induction targets generalizing ending with
  | nil => rfl
  | cons target rest ih =>
    unfold TextAdventure.dispatchEach
    simp only [dispatchTarget_set, ih]

theorem dispatchEach_eq {slot : Nat} (inRange : slot < parameters.length) (ending : Dispatch)
    (targets : List InstanceId) :
    dispatchEach setting verb slot ending parameters targets =
      sure (TextAdventure.dispatchEach setting verb parameters slot ending targets) := by
  induction targets generalizing ending parameters with
  | nil => rfl
  | cons target rest ih =>
    unfold dispatchEach TextAdventure.dispatchEach
    rw [put_eq inRange, check_some, pure_bind, dispatchTarget_set]
    refine sure_bind_eq fun scene => sure_bind_eq fun _ => ?_
    rw [ih (by rw [List.length_set]; exact inRange), dispatchEach_set]

/-- Runs a verb, for every target if one of its slots has several. -/
def dispatchTargets (setting : Setting story σ) (verb : WordCode) (parameters : List InstanceId) :
    Option (Nat × List InstanceId) → GuardedPlay story σ (Except CommandError Dispatch)
  | some (slot, target :: other :: targets) =>
    if slot < parameters.length then do
      let ending ← dispatchEach setting verb slot .completed parameters (target :: other :: targets)
      return .ok ending
    else sure (dispatch setting verb parameters)
  | multiple => sure (TextAdventure.dispatchTargets setting verb parameters multiple)

theorem dispatchTargets_eq (multiple : Option (Nat × List InstanceId)) :
    dispatchTargets setting verb parameters multiple =
      sure (TextAdventure.dispatchTargets setting verb parameters multiple) := by
  match multiple with
  | none => rfl
  | some (_, []) => rfl
  | some (_, [_]) => rfl
  | some (slot, target :: other :: targets) =>
    show (if slot < parameters.length then _ else _) =
      sure (if slot < parameters.length then _ else _)
    by_cases inRange : slot < parameters.length
    · rw [if_pos inRange, if_pos inRange, dispatchEach_eq inRange]
      rfl
    · rw [if_neg inRange, if_neg inRange]

end Dispatching

end Guarded

end TextAdventure
