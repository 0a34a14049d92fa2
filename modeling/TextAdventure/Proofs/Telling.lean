import TextAdventure.Proofs.Restricting
/-!
# What restrictions tell the player

A member of a list that does not meet a restriction is named before it is dropped.  So a list that
restrictions empty has had a member named (`restrictPositions_names`).  What all has swept up is
dropped without a word, and so is what the requirement of an object takes away; where restrictions
are made on nothing else they say nothing (`restrictPositions_quiet`).
-/

namespace TextAdventure

variable {story : Story} {σ : Type}

/-! ## What acting keeps -/

/-- Running statements, speaking and writing to the log keep something that holds of the scene. -/
structure KeptByActs (setting : Setting story σ) (P : Scene story σ → Prop) : Prop where
  execute : ∀ statements context scene, P scene →
    P ((Play.execute setting statements context).run scene).2
  say : ∀ utterances scene, P scene → P ((Play.say utterances).run scene).2
  note : ∀ records scene, P scene → P ((Play.note records).run scene).2

section Keeping

variable {setting : Setting story σ} {P : Scene story σ → Prop} {context : Context}

/-- The transcript only grows. -/
theorem keptByActs_of_grows {Q : List Utterance → Prop}
    (grows : ∀ said more, Q said → Q (said ++ more)) :
    KeptByActs setting fun scene => Q scene.transcript :=
  ⟨fun _ _ _ holds => grows _ _ holds, fun _ _ holds => grows _ _ holds, fun _ _ holds => holds⟩

namespace Restriction

theorem trace_keeps (kept : KeptByActs setting P) (restriction : Restriction)
    {scene : Scene story σ} (holds : P scene) :
    P ((restriction.trace setting).run scene).2 := by
  unfold trace Play.traceSection
  rw [Play.run_onlyIf]
  split
  · exact kept.note _ _ holds
  · exact holds

theorem refuse_keeps (kept : KeptByActs setting P) (restriction : Restriction)
    {scene : Scene story σ} (holds : P scene) :
    P ((restriction.refuse setting context).run scene).2 := by
  have traced := restriction.trace_keeps kept holds
  unfold refuse
  rw [Play.run_bind]
  cases restriction.statements with
  | none => exact kept.say _ _ traced
  | some statements =>
    have ran := kept.execute statements context _ traced
    rw [Play.run_bind]
    split
    · exact ran
    · exact kept.note _ _ ran

theorem dropMember_keeps (kept : KeptByActs setting P) (restriction : Restriction) (silent : Bool)
    (reference : Reference) {scene : Scene story σ} (holds : P scene) :
    P ((restriction.dropMember setting context silent reference).run scene).2 := by
  rw [dropMember_run]
  split
  · exact holds
  · rw [Play.run_onlyIf]
    split
    · have named := kept.say [.marker (scene.world.messageParameter reference.id)] _ holds
      exact kept.say _ _ (restriction.refuse_keeps kept named)
    · exact holds

theorem dropMembers_keeps (kept : KeptByActs setting P) (restriction : Restriction)
    (silent : Bool) (references : List Reference) {scene : Scene story σ} (holds : P scene) :
    P ((restriction.dropMembers setting context silent references).run scene).2 := by
  induction references generalizing scene with
  | nil => exact holds
  | cons reference rest ih =>
    exact ih (restriction.dropMember_keeps kept silent reference holds)

theorem applyTo_keeps (kept : KeptByActs setting P) (restriction : Restriction)
    (position : Position) {scene : Scene story σ} (holds : P scene) :
    P ((restriction.applyTo setting context position).run scene).2 := by
  by_cases multiple : position.multiple = true
  · unfold applyTo
    rw [if_pos multiple]
    exact restriction.dropMembers_keeps kept _ _ holds
  · rw [applyTo_of_single (Bool.eq_false_iff.mpr multiple)]
    split
    · exact holds
    · unfold reject
      split
      · exact restriction.refuse_keeps kept holds
      · exact restriction.trace_keeps kept holds

end Restriction

theorem applyRestrictions_keeps (kept : KeptByActs setting P) (positions : List Position)
    (restrictions : List Restriction) {scene : Scene story σ} (holds : P scene) :
    P ((applyRestrictions setting context positions restrictions).run scene).2 := by
  induction restrictions generalizing positions scene with
  | nil => exact holds
  | cons restriction rest ih =>
    cases found : entryAt positions restriction.parameter with
    | none =>
      obtain ⟨records, run⟩ := applyRestrictions_missing context rest scene found
      rw [run]
      exact ih positions (kept.note records _ holds)
    | some position =>
      have applied : P ((restriction.applyTo setting context position).run scene).2 :=
        restriction.applyTo_keeps kept position holds
      rw [applyRestrictions_there context rest scene found]
      split
      · exact applied
      · exact ih _ applied

end Keeping

/-! ## Members that are named -/

/-- A target has been named since the transcript was as given. -/
def Names (before : List Utterance) (scene : Scene story σ) : Prop :=
  ∃ said parameter, scene.transcript = before ++ said ∧ .marker parameter ∈ said

section Naming

variable {setting : Setting story σ} {context : Context} {before : List Utterance}
  {scene : Scene story σ}

theorem keptByActs_transcript (setting : Setting story σ) (before : List Utterance) :
    KeptByActs setting fun scene => before <+: scene.transcript :=
  keptByActs_of_grows fun _ more grown => grown.trans (List.prefix_append _ more)

theorem keptByActs_names (setting : Setting story σ) (before : List Utterance) :
    KeptByActs setting (Names before) := by
  refine keptByActs_of_grows (Q := fun transcript =>
    ∃ said parameter, transcript = before ++ said ∧ .marker parameter ∈ said) ?_
  rintro _ more ⟨said, parameter, rfl, member⟩
  exact ⟨said ++ more, parameter, List.append_assoc .., List.mem_append_left more member⟩

namespace Restriction

/-- An instance that is dropped is named, unless this is to be silent. -/
theorem dropMember_names (restriction : Restriction) {reference : Reference}
    (filled : reference.id ≠ 0) (grown : before <+: scene.transcript) :
    ((restriction.dropMember setting context false reference).run scene).1.id ≠ 0 ∨
      Names before ((restriction.dropMember setting context false reference).run scene).2 := by
  rw [dropMember_run]
  split
  · exact Or.inl filled
  · right
    obtain ⟨said, same⟩ := grown
    let marker : Utterance := .marker (scene.world.messageParameter reference.id)
    have named : Names before ((Play.say [marker] : Play story σ Unit).run scene).2 := by
      refine ⟨said ++ [marker], _, ?_, List.mem_append_right said (List.mem_singleton_self marker)⟩
      rw [← List.append_assoc, same]
      rfl
    have kept := keptByActs_names setting before
    exact kept.say _ _ (restriction.refuse_keeps kept named)

theorem dropMembers_names (restriction : Restriction) {references : List Reference}
    (filled : ∃ r ∈ references, r.id ≠ 0) (grown : before <+: scene.transcript) :
    (∃ r ∈ ((restriction.dropMembers setting context false references).run scene).1, r.id ≠ 0) ∨
      Names before ((restriction.dropMembers setting context false references).run scene).2 := by
  induction references generalizing scene with
  | nil =>
    obtain ⟨_, member, -⟩ := filled
    cases member
  | cons reference rest ih =>
    let dropped := (restriction.dropMember setting context false reference).run scene
    have grown' : before <+: dropped.2.transcript :=
      restriction.dropMember_keeps (keptByActs_transcript setting before) false reference grown
    -- the members after this one may be dropped too, but what has been named stays named
    by_cases here : reference.id = 0
    · have later : ∃ r ∈ rest, r.id ≠ 0 := by
        obtain ⟨r, member, filled⟩ := filled
        rcases List.mem_cons.mp member with rfl | member
        · exact absurd here filled
        · exact ⟨r, member, filled⟩
      rcases ih later grown' with ⟨r, member, filled⟩ | named
      · exact Or.inl ⟨r, List.mem_cons_of_mem _ member, filled⟩
      · exact Or.inr named
    · rcases restriction.dropMember_names here grown with kept | named
      · exact Or.inl ⟨_, List.mem_cons_self .., kept⟩
      · exact Or.inr (restriction.dropMembers_keeps (keptByActs_names setting before) false rest
          named)

theorem applyTo_names (restriction : Restriction) {position left : Position}
    (several : position.multiple = true) (list : position.all = false)
    (filled : position.instances ≠ []) (grown : before <+: scene.transcript)
    (success : ((restriction.applyTo setting context position).run scene).1 = .success left) :
    left.instances ≠ [] ∨
      Names before ((restriction.applyTo setting context position).run scene).2 := by
  unfold applyTo at success ⊢
  rw [if_pos several, list] at success
  rw [if_pos several, list]
  cases success
  obtain ⟨id, member⟩ := List.exists_mem_of_ne_nil _ filled
  obtain ⟨isSome, r, there, rfl⟩ := Position.mem_instances.mp member
  rcases restriction.dropMembers_names ⟨r, there, isSome⟩ grown with ⟨r', there', isSome'⟩ | named
  · left
    exact List.ne_nil_of_mem (Position.mem_instances.mpr ⟨isSome', r', there', rfl⟩)
  · exact Or.inr named

end Restriction

/-- A list that restrictions have emptied has had a member named. -/
theorem applyRestrictions_names {restrictions : List Restriction} {positions left : List Position}
    {slot : Nat} {position : Position} (there : positions[slot]? = some position)
    (several : position.multiple = true) (list : position.all = false)
    (filled : position.instances ≠ []) (grown : before <+: scene.transcript)
    (success : ((applyRestrictions setting context positions restrictions).run scene).1 =
      .success left) :
    (∃ q, left[slot]? = some q ∧ q.instances ≠ []) ∨
      Names before ((applyRestrictions setting context positions restrictions).run scene).2 := by
  -- as long as there are members nothing need have been said
  induction restrictions generalizing positions position scene with
  | nil =>
    cases success
    exact Or.inl ⟨position, there, filled⟩
  | cons restriction rest ih =>
    cases found : entryAt positions restriction.parameter with
    | none =>
      obtain ⟨records, run⟩ := applyRestrictions_missing context rest scene found
      rw [run] at success ⊢
      exact ih there several list filled grown success
    | some other =>
      obtain ⟨q, applied, run⟩ := applyRestrictions_found found success
      rw [run] at success ⊢
      obtain ⟨index, parameter, there'⟩ := entryAt_eq_some.mp found
      rw [parameter, Nat.add_sub_cancel] at success ⊢
      have grown' :
          before <+: ((restriction.applyTo setting context other).run scene).2.transcript :=
        restriction.applyTo_keeps (keptByActs_transcript setting before) other grown
      by_cases here : index = slot
      · subst here
        rw [there] at there'
        cases there'
        obtain ⟨-, judged, -⟩ := Restriction.applyTo_eq_success
          (W := fun _ => True) (fun _ _ _ _ _ _ => trivial) trivial applied
        rcases restriction.applyTo_names several list filled grown applied with filled' | named
        · have inRange := (List.getElem?_eq_some_iff.mp there).1
          exact ih (List.getElem?_set_self inRange) (judged.multiple_eq.trans several)
            (judged.all_eq.trans list) filled' grown' success
        · exact Or.inr (applyRestrictions_keeps (keptByActs_names setting before) _ rest named)
      · exact ih (by rw [List.getElem?_set_ne here, there]) several list filled grown' success

theorem restrictPositions_names {verb : WordCode} {restrictions : List Restriction}
    {positions left : List Position} {slot : Nat} {position : Position}
    (there : positions[slot]? = some position) (several : position.multiple = true)
    (list : position.all = false) (filled : position.instances ≠ [])
    (restricted : (restrictions.any fun r => r.parameter = slot + 1) = true)
    (grown : before <+: scene.transcript)
    (success : ((restrictPositions setting verb restrictions positions).run scene).1 =
      .success left)
    (emptied : ((left[slot]?).map (·.instances)).getD [] = []) :
    Names before ((restrictPositions setting verb restrictions positions).run scene).2 := by
  rw [restrictPositions_run] at success ⊢
  dsimp only at success ⊢
  obtain ⟨objects, restrictedTo, same⟩ := Attempt.andThen_eq_success.mp success
  cases same
  obtain ⟨applied, first, second⟩ := Attempt.andThen_eq_success.mp restrictedTo
  have there' : (positions.map Position.unchecked)[slot]? = some position.unchecked := by
    rw [List.getElem?_map, there]
    rfl
  rcases applyRestrictions_names there' several list filled grown first with
    ⟨q, found, filled'⟩ | named
  · -- a slot with restrictions is not asked for objects, so what is left now stays
    exfalso
    obtain ⟨-, -, places⟩ := applyRestrictions_eq_success (W := fun _ => True)
      (fun _ _ _ _ _ _ _ _ _ _ => trivial) trivial first
    obtain ⟨q', found', judged, checked⟩ := places slot _ there'
    rw [found, Option.some_inj] at found'
    subst found'
    obtain ⟨-, required⟩ := requireObjects_eq_success second
    obtain ⟨r, foundLast, judgedLast⟩ := required slot q found
    rw [checked, restricted, Bool.or_true, if_pos rfl] at judgedLast
    have same := judgedLast.instances_eq_filter (judged.multiple_eq.trans several)
    rw [List.getElem?_map, foundLast] at emptied
    have empty : r.compress.instances = [] := emptied
    rw [Position.instances_compress, same] at empty
    exact filled' (by simpa using empty)
  · exact named

end Naming

/-! ## Members that go in silence -/

section Silence

variable {setting : Setting story σ} {context : Context} {scene : Scene story σ}

namespace Restriction

theorem dropMembers_quiet (restriction : Restriction) {silent : Bool} {references : List Reference}
    (quiet : ∀ r ∈ references, silent = true ∨ r.id = 0) :
    ((restriction.dropMembers setting context silent references).run scene).2 = scene := by
  induction references with
  | nil => rfl
  | cons reference rest ih =>
    have unchanged :
        ((restriction.dropMember setting context silent reference).run scene).2 = scene := by
      rw [dropMember_run]
      split
      · rfl
      · next fails =>
        rcases quiet reference (List.mem_cons_self ..) with rfl | empty
        · rfl
        · exact absurd (by rw [empty]; rfl) fails
    have others := ih fun r member => quiet r (List.mem_cons_of_mem _ member)
    show ((restriction.dropMembers setting context silent rest).run
      ((restriction.dropMember setting context silent reference).run scene).2).2 = scene
    rw [unchanged, others]

theorem applyTo_quiet (restriction : Restriction) {position left : Position}
    (quiet : position.multiple = true → position.all = true ∨ position.instances = [])
    (success : ((restriction.applyTo setting context position).run scene).1 = .success left) :
    ((restriction.applyTo setting context position).run scene).2 = scene := by
  by_cases multiple : position.multiple = true
  · unfold applyTo
    rw [if_pos multiple]
    refine restriction.dropMembers_quiet fun r member => ?_
    rcases quiet multiple with all | empty
    · exact Or.inl all
    · right
      by_contra filled
      have instance' := Position.mem_instances.mpr ⟨filled, r, member, rfl⟩
      rw [empty] at instance'
      cases instance'
  · rw [applyTo_of_single (Bool.eq_false_iff.mpr multiple)] at success ⊢
    split at success
    · next meets => rw [if_pos meets]
    · cases success

end Restriction

/-- No restriction is made on a list that has a member. -/
def Quiet (positions : List Position) (restrictions : List Restriction) : Prop :=
  ∀ restriction ∈ restrictions, ∀ position,
    entryAt positions restriction.parameter = some position → position.multiple = true →
      position.all = true ∨ position.instances = []

/-- If one position only has several targets, it is enough that this one gives no cause. -/
theorem quiet_of_only {positions : List Position} {restrictions : List Restriction} {slot : Nat}
    {position : Position} (there : positions[slot]? = some position)
    (only : ∀ index other, positions[index]? = some other → other.multiple = true → index = slot)
    (noCause : position.all = true ∨ (restrictions.any fun r => r.parameter = slot + 1) = false ∨
      position.instances = []) : Quiet positions restrictions := by
  intro restriction member other found multiple
  obtain ⟨index, parameter, there'⟩ := entryAt_eq_some.mp found
  have here := only index other there' multiple
  subst here
  rw [there] at there'
  cases there'
  rcases noCause with all | unrestricted | empty
  · exact Or.inl all
  · have restricted : (restrictions.any fun r => r.parameter = index + 1) = true :=
      List.any_eq_true.mpr ⟨restriction, member, decide_eq_true parameter⟩
    rw [unrestricted] at restricted
    cases restricted
  · exact Or.inr empty

theorem applyRestrictions_quiet {restrictions : List Restriction} {positions left : List Position}
    (quiet : Quiet positions restrictions)
    (success : ((applyRestrictions setting context positions restrictions).run scene).1 =
      .success left) :
    ((applyRestrictions setting context positions restrictions).run scene).2.transcript =
      scene.transcript := by
  induction restrictions generalizing positions scene with
  | nil => rfl
  | cons restriction rest ih =>
    have quiet' : Quiet positions rest :=
      fun later member => quiet later (List.mem_cons_of_mem _ member)
    cases found : entryAt positions restriction.parameter with
    | none =>
      obtain ⟨records, run⟩ := applyRestrictions_missing context rest scene found
      rw [run] at success ⊢
      exact ih quiet' success
    | some position =>
      have silent := quiet restriction (List.mem_cons_self ..) position found
      obtain ⟨q, applied, run⟩ := applyRestrictions_found found success
      rw [run] at success ⊢
      rw [restriction.applyTo_quiet silent applied] at success ⊢
      refine ih ?_ success
      obtain ⟨index, parameter, there⟩ := entryAt_eq_some.mp found
      rw [parameter, Nat.add_sub_cancel]
      intro later member p found' multiple
      obtain ⟨index', parameter', there'⟩ := entryAt_eq_some.mp found'
      by_cases here : index = index'
      · -- what a restriction leaves of a position is no more than there was
        subst here
        rw [List.getElem?_set_self (List.getElem?_eq_some_iff.mp there).1] at there'
        cases there'
        obtain ⟨-, judged, -⟩ := Restriction.applyTo_eq_success
          (W := fun _ => True) (fun _ _ _ _ _ _ => trivial) trivial applied
        rw [judged.multiple_eq] at multiple
        rcases silent multiple with all | empty
        · exact Or.inl (judged.all_eq.trans all)
        · right
          refine List.eq_nil_iff_forall_not_mem.mpr fun id member => ?_
          have before := (judged.passes_of_mem multiple member).1
          rw [empty] at before
          cases before
      · rw [List.getElem?_set_ne here] at there'
        exact quiet' later member p (entryAt_eq_some.mpr ⟨index', parameter', there'⟩) multiple

theorem restrictPositions_quiet {verb : WordCode} {restrictions : List Restriction}
    {positions left : List Position} (quiet : Quiet positions restrictions)
    (success : ((restrictPositions setting verb restrictions positions).run scene).1 =
      .success left) :
    ((restrictPositions setting verb restrictions positions).run scene).2.transcript =
      scene.transcript := by
  rw [restrictPositions_run] at success ⊢
  dsimp only at success ⊢
  obtain ⟨objects, restricted, -⟩ := Attempt.andThen_eq_success.mp success
  obtain ⟨applied, first, -⟩ := Attempt.andThen_eq_success.mp restricted
  refine applyRestrictions_quiet ?_ first
  intro restriction member position found multiple
  obtain ⟨index, parameter, there⟩ := entryAt_eq_some.mp found
  rw [List.getElem?_map, Option.map_eq_some_iff] at there
  obtain ⟨old, there, rfl⟩ := there
  exact quiet restriction member old (entryAt_eq_some.mpr ⟨index, parameter, there⟩) multiple

end Silence

end TextAdventure
