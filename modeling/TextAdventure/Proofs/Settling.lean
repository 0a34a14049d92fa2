import TextAdventure.Proofs.Lists
import TextAdventure.Proofs.Reading
import TextAdventure.Reference.Settling
/-!
# What settling makes of a position

If the references of a command are settled without a fault, every position has gone one of three
ways (`Position.Settles`): the targets of the previous command took the place of its references,
everything here did, or each reference was settled by itself.  Which instance a reference settles to
by itself is a question of its own (`Reference.settlesTo?`).
-/

namespace TextAdventure

/-! ## Attempts that go through -/

namespace Attempt

variable {ε α β : Type}

theorem map_eq_success {f : α → β} {attempt : Attempt ε α} {y : β} :
    attempt.map f = success y ↔ ∃ x, attempt = success x ∧ f x = y := by
  obtain ⟨value, fault⟩ := attempt
  simp only [map, success, Attempt.mk.injEq]
  constructor
  · rintro ⟨same, none⟩
    exact ⟨value, ⟨rfl, none⟩, same⟩
  · rintro ⟨_, ⟨rfl, none⟩, same⟩
    exact ⟨same, none⟩

theorem andThen_eq_success {next : α → Attempt ε α} {attempt : Attempt ε α} {y : α} :
    attempt.andThen next = success y ↔ ∃ x, attempt = success x ∧ next x = success y := by
  obtain ⟨value, fault⟩ := attempt
  cases fault <;> simp [andThen, success]

/-- A list is gone through to its end exactly if every member is. -/
theorem each_eq_success {change : α → Attempt ε α} {xs ys : List α} :
    each change xs = success ys ↔ List.Forall₂ (fun x y => change x = success y) xs ys := by
  induction xs generalizing ys with
  | nil =>
    cases ys with
    | nil => simp [each, success]
    | cons y rest => simp [each, success]
  | cons x rest ih =>
    rw [List.forall₂_cons_left_iff, each]
    obtain ⟨value, fault⟩ := change x
    cases fault with
    | some fault => simp [failure, success]
    | none =>
      rw [map_eq_success]
      simp only [ih]
      constructor
      · rintro ⟨zs, rest, rfl⟩
        exact ⟨value, zs, rfl, rest, rfl⟩
      · -- the member that goes through is the one that was made
        rintro ⟨y, zs, first, rest, rfl⟩
        cases first
        exact ⟨zs, rest, rfl⟩

theorem eq_success_of_fault {attempt : Attempt ε α} (through : attempt.fault = none) :
    attempt = success attempt.value := by
  obtain ⟨value, fault⟩ := attempt
  cases through
  rfl

/-- A list is gone through to its end if every member is. -/
theorem each_of_fault_none {change : α → Attempt ε α} {xs : List α}
    (through : ∀ x ∈ xs, (change x).fault = none) :
    each change xs = success (xs.map fun x => (change x).value) := by
  rw [each_eq_success, List.forall₂_map_right_iff, List.forall₂_same]
  intro x member
  exact eq_success_of_fault (through x member)

/-! ## Attempts that stop -/

variable {fault : ε}

theorem fault_of_andThen {next : α → Attempt ε α} {attempt : Attempt ε α}
    (stopped : (attempt.andThen next).fault = some fault) :
    attempt.fault = some fault ∨
      attempt.fault = none ∧ (next attempt.value).fault = some fault := by
  unfold andThen at stopped
  split at stopped
  · exact Or.inl stopped
  · next through => exact Or.inr ⟨through, stopped⟩

theorem fault_of_each {change : α → Attempt ε α} {xs : List α}
    (stopped : (each change xs).fault = some fault) : ∃ x ∈ xs, (change x).fault = some fault := by
  induction xs with
  | nil => cases stopped
  | cons x rest ih =>
    unfold each at stopped
    split at stopped
    · next changed =>
      exact ⟨x, List.mem_cons_self .., by rw [changed]; exact stopped⟩
    · obtain ⟨y, member, fault⟩ := ih stopped
      exact ⟨y, List.mem_cons_of_mem x member, fault⟩

/-- The first fault in a list stops the operation, so it stops there or before. -/
theorem each_stops {change : α → Attempt ε α} {xs : List α} {place : Nat} {x : α}
    (there : xs[place]? = some x) (stops : (change x).fault = some fault) :
    ∃ fault', (each change xs).fault = some fault' ∧ (fault' = fault ∨
      ∃ before y, before < place ∧ xs[before]? = some y ∧ (change y).fault = some fault') := by
  induction xs generalizing place with
  | nil => cases there
  | cons z rest ih =>
    unfold each
    split
    · next value fault' changed =>
      refine ⟨fault', rfl, ?_⟩
      cases place with
      | zero =>
        cases there
        rw [changed] at stops
        exact Or.inl (Option.some_inj.mp stops)
      | succ place => exact Or.inr ⟨0, z, Nat.succ_pos place, rfl, by rw [changed]⟩
    · next value changed =>
      cases place with
      | zero =>
        cases there
        rw [changed] at stops
        cases stops
      | succ place =>
        obtain ⟨fault', stopped, first⟩ := ih there
        refine ⟨fault', stopped, first.imp_right ?_⟩
        rintro ⟨before, y, lt, there', stops'⟩
        exact ⟨before + 1, y, Nat.succ_lt_succ lt, there', stops'⟩

end Attempt

/-! ## References -/

variable {story : Story}

theorem Choice.between_eq_settled {present distant : List InstanceId} {omnipotent : Bool}
    {id : InstanceId} (chosen : between present distant omnipotent = .settled id) :
    present = [id] ∨ (omnipotent = true ∧ present = [] ∧ distant = [id]) := by
  rcases present with _ | ⟨first, _ | ⟨second, rest⟩⟩
  · -- only what is out of reach is left
    rcases distant with _ | ⟨first, _ | ⟨second, rest⟩⟩
    · cases omnipotent <;> cases chosen
    · cases omnipotent with
      | false => cases chosen
      | true =>
        cases chosen
        exact Or.inr ⟨rfl, rfl, rfl⟩
    · cases omnipotent <;> cases chosen
  · cases chosen
    exact Or.inl rfl
  · cases chosen

/-- A reference in a slot that is not omnipotent is settled to what the hero can perceive. -/
theorem Choice.reachable_of_ofCandidates {world : World story} {candidates : List InstanceId}
    {id : InstanceId} (chosen : ofCandidates world candidates false = .settled id) :
    world.reachable id = true := by
  rw [ofCandidates, List.partition_eq_filter_filter] at chosen
  rcases between_eq_settled chosen with only | ⟨impossible, -⟩
  · have member : id ∈ candidates.filter world.reachable := by
      rw [only]
      exact List.mem_singleton_self id
    exact List.of_mem_filter member
  · cases impossible

/-- The instance that a reference settles to by itself, if it does. -/
def Reference.settlesTo? (world : World story) (words : Words) (memory : Memory)
    (omnipotent : Bool) (reference : Reference) : Option InstanceId :=
  match reference.findCandidates words memory with
  | .error _ => none
  | .ok candidates =>
    match Choice.ofCandidates world candidates omnipotent with
    | .settled id => some id
    | _ => none

namespace Reference

variable {world : World story} {words : Words} {memory : Memory} {omnipotent : Bool}
  {reference found settled : Reference}

/-- The second reference is the first one, settled by itself. -/
def Settles (world : World story) (words : Words) (memory : Memory) (omnipotent : Bool)
    (reference settled : Reference) : Prop :=
  reference.settlesTo? world words memory omnipotent = some settled.id ∧
    ∃ candidates, settled = { reference with id := settled.id, candidates }

theorem settles_of_success (candidates : reference.withCandidates words memory = .success found)
    (chosen : found.settle world words omnipotent = .success settled) :
    reference.Settles world words memory omnipotent settled := by
  unfold withCandidates at candidates
  split at candidates
  · next candidates' search =>
    cases candidates
    unfold settle at chosen
    split at chosen
    · next id choice =>
      cases chosen
      refine ⟨?_, candidates', rfl⟩
      unfold settlesTo?
      rw [search]
      dsimp only at choice ⊢
      rw [choice]
    · cases chosen
    · cases chosen
  · cases candidates

/-- A reference that settles in a slot that is not omnipotent settles to what the hero can
perceive. -/
theorem reachable_of_settlesTo? {id : InstanceId}
    (settles : reference.settlesTo? world words memory false = some id) :
    world.reachable id = true := by
  unfold settlesTo? at settles
  split at settles
  · cases settles
  · split at settles
    · next choice =>
      cases settles
      exact Choice.reachable_of_ofCandidates choice
    · cases settles

end Reference

/-! ## Instances of positions -/

namespace Position

variable {p : Position}

theorem mem_instances {id : InstanceId} :
    id ∈ p.instances ↔ id ≠ 0 ∧ ∃ r ∈ p.references, r.id = id := by
  unfold instances
  rw [List.mem_filter, List.mem_map, bne_iff_ne, and_comm]

theorem mem_instances_of_firstInstance (some : p.firstInstance ≠ 0) :
    p.firstInstance ∈ p.instances := by
  unfold firstInstance at some ⊢
  cases references : p.references with
  | nil =>
    rw [references] at some
    exact absurd rfl some
  | cons first rest =>
    rw [references] at some
    exact mem_instances.mpr ⟨some, first, by rw [references]; exact List.mem_cons_self .., rfl⟩

@[simp] theorem instances_compress (p : Position) : p.compress.instances = p.instances := by
  unfold compress instances
  rw [List.filter_map, List.filter_map, List.filter_filter]
  simp only [Function.comp_def, Bool.and_self]

end Position

/-! ## Positions -/

/-- The targets of the previous command that the hero can still perceive. -/
def Memory.recalled (memory : Memory) (world : World story) : List InstanceId :=
  memory.previous.filter world.reachable

namespace Position

variable {world : World story} {words : Words} {memory : Memory}
  {position found settled : Position}

/-- What settling makes of a position. -/
inductive Settles (world : World story) (words : Words) (memory : Memory) (position : Position) :
    Position → Prop where
  /-- A them word at its beginning stands for the whole position. -/
  | recalled (first : Reference) (begins : position.references.head? = some first)
      (them : first.kind = .them) (some : memory.recalled world ≠ []) :
      Settles world words memory position
        { position with
          them := true
          multiple := position.multiple || decide (1 < (memory.recalled world).length)
          references := (memory.recalled world).map (Reference.settled first.first) }
  /-- An all word stands for everything here. -/
  | everything (word : Nat) (exceptions : List Reference) (all : position.all = true)
      (settled : List.Forall₂
        (Reference.Settles world words memory position.flags.omnipotent)
        position.exceptions exceptions) :
      Settles world words memory position
        { position with
          references := world.everythingHere.map (Reference.settled word)
          exceptions }
  /-- Other references are settled one by one. -/
  | oneByOne (first : Reference) (begins : position.references.head? = some first)
      (notThem : first.kind ≠ .them) (notAll : position.all = false) (references : List Reference)
      (settled : List.Forall₂
        (Reference.Settles world words memory position.flags.omnipotent)
        position.references references) :
      Settles world words memory position { position with references }

theorem expandThem_eq_success {word : Nat}
    (expanded : position.expandThem world words memory word = .success found) :
    memory.recalled world ≠ [] ∧ found =
      { position with
        them := true
        multiple := position.multiple || decide (1 < (memory.recalled world).length)
        references := (memory.recalled world).map (Reference.settled word) } := by
  unfold expandThem at expanded
  rw [← Memory.recalled] at expanded
  generalize memory.recalled world = targets at expanded ⊢
  rcases targets with _ | ⟨id, _ | ⟨other, rest⟩⟩
  · cases expanded
  · cases expanded
    exact ⟨List.cons_ne_nil _ _, by simp⟩
  · dsimp only at expanded
    split at expanded
    · cases expanded
      exact ⟨List.cons_ne_nil _ _, by simp⟩
    · cases expanded

theorem expandAll_eq_success {word : Nat}
    (expanded : position.expandAll world words memory word = .success found) :
    ∃ exceptions, List.Forall₂ (fun r r' => Reference.withCandidates words memory r = .success r')
        position.exceptions exceptions ∧
      found = { position with
        references := world.everythingHere.map (Reference.settled word)
        exceptions } := by
  unfold expandAll at expanded
  dsimp only at expanded
  split at expanded
  · cases expanded
  · obtain ⟨exceptions, each, rfl⟩ := Attempt.map_eq_success.mp expanded
    exact ⟨exceptions, Attempt.each_eq_success.mp each, rfl⟩

theorem references_settle {references candidates settled : List Reference} {omnipotent : Bool}
    (found : List.Forall₂ (fun r r' => Reference.withCandidates words memory r = .success r')
      references candidates)
    (chosen : Attempt.each (Reference.settle world words omnipotent) candidates =
      .success settled) :
    List.Forall₂ (Reference.Settles world words memory omnipotent) references settled := by
  refine (forall₂_comp found (Attempt.each_eq_success.mp chosen)).imp ?_
  rintro reference settled ⟨between, candidates, chosen⟩
  exact Reference.settles_of_success candidates chosen

theorem settles_of_success (read : position.Read)
    (candidates : position.findCandidates world words memory = .success found)
    (chosen : found.settle world words = .success settled) :
    position.Settles world words memory settled := by
  unfold findCandidates at candidates
  split at candidates
  · next empty => exact absurd empty read.references_ne_nil
  · next first rest begins =>
    have begins' : position.references.head? = some first := by rw [begins]; rfl
    split at candidates
    · next them =>
      -- what was expanded is settled already
      have notAll : position.all = false := by
        cases all : position.all with
        | false => rfl
        | true =>
          have plain := read.plain_of_all all first (by rw [begins]; exact List.mem_cons_self ..)
          rw [plain] at them
          cases them
      obtain ⟨some, rfl⟩ := expandThem_eq_success candidates
      unfold settle at chosen
      dsimp only at chosen
      rw [if_neg (Bool.eq_false_iff.mp notAll), if_pos rfl] at chosen
      cases chosen
      exact .recalled first begins' them some
    · next notThem =>
      split at candidates
      · next all =>
        obtain ⟨exceptions, searched, rfl⟩ := expandAll_eq_success candidates
        unfold settle at chosen
        dsimp only at chosen
        rw [if_pos all] at chosen
        obtain ⟨settled, each, rfl⟩ := Attempt.map_eq_success.mp chosen
        exact .everything first.first settled all (references_settle searched each)
      · next notAll =>
        obtain ⟨references, searched, rfl⟩ := Attempt.map_eq_success.mp candidates
        unfold settle at chosen
        dsimp only at chosen
        rw [if_neg notAll, if_neg (Bool.eq_false_iff.mp read.them_eq_false)] at chosen
        obtain ⟨settled, each, rfl⟩ := Attempt.map_eq_success.mp chosen
        exact .oneByOne first begins' notThem (Bool.eq_false_iff.mpr notAll) settled
          (references_settle (Attempt.each_eq_success.mp searched) each)

theorem Settles.all_eq (settles : position.Settles world words memory settled) :
    settled.all = position.all := by
  cases settles <;> rfl

theorem Settles.flags_eq (settles : position.Settles world words memory settled) :
    settled.flags = position.flags := by
  cases settles <;> rfl

/-- All never stands for a single instance. -/
theorem Settles.all_eq_false (settles : position.Settles world words memory settled)
    (read : position.Read) (single : settled.multiple = false) : position.all = false := by
  have wasSingle : position.multiple = false := by
    cases settles with
    | recalled => exact (Bool.or_eq_false_iff.mp single).1
    | everything => exact single
    | oneByOne => exact single
  rw [read.multiple_eq] at wasSingle
  exact (Bool.or_eq_false_iff.mp wasSingle).1

/-- A position that stands for one instance has one reference. -/
theorem Settles.single_reference (settles : position.Settles world words memory settled)
    (read : position.Read) (single : settled.multiple = false) :
    ∃ reference, settled.references = [reference] := by
  have one : position.multiple = false → position.references.length = 1 := by
    intro single
    rw [read.multiple_eq, Bool.or_eq_false_iff, decide_eq_false_iff_not] at single
    have some := List.length_pos_iff.mpr read.references_ne_nil
    omega
  cases settles with
  | recalled first begins them some =>
    obtain ⟨-, few⟩ := Bool.or_eq_false_iff.mp single
    rw [decide_eq_false_iff_not] at few
    have some' := List.length_pos_iff.mpr some
    refine List.length_eq_one_iff.mp ?_
    rw [List.length_map]
    omega
  | everything word exceptions all settled =>
    rw [Settles.all_eq_false (.everything word exceptions all settled) read single] at all
    cases all
  | oneByOne first begins notThem notAll references settled =>
    exact List.length_eq_one_iff.mp (settled.length_eq ▸ one single)

/-! Several instances are found only in slots that allow them. -/

theorem allowed_of_expandThem {word : Nat}
    (expanded : position.expandThem world words memory word = .success found)
    (allowed : position.multiple = true → position.flags.multiple = true)
    (several : found.multiple = true) : found.flags.multiple = true := by
  unfold expandThem at expanded
  dsimp only at expanded
  split at expanded
  · cases expanded
  · cases expanded
    exact allowed several
  · -- two or more are recalled, and the slot is asked
    split at expanded
    · next allows =>
      cases expanded
      exact allows
    · cases expanded

theorem allowed_of_findCandidates
    (candidates : position.findCandidates world words memory = .success found)
    (allowed : position.multiple = true → position.flags.multiple = true)
    (several : found.multiple = true) : found.flags.multiple = true := by
  unfold findCandidates at candidates
  split at candidates
  · cases candidates
    exact allowed several
  · split at candidates
    · exact allowed_of_expandThem candidates allowed several
    · split at candidates
      · obtain ⟨exceptions, -, rfl⟩ := expandAll_eq_success candidates
        exact allowed several
      · obtain ⟨references, -, rfl⟩ := Attempt.map_eq_success.mp candidates
        exact allowed several

/-- Settling a position changes its references and exceptions only. -/
theorem eq_of_settle (chosen : position.settle world words = .success settled) :
    settled = { position with
      references := settled.references, exceptions := settled.exceptions } := by
  unfold settle at chosen
  dsimp only at chosen
  split at chosen
  · obtain ⟨exceptions, -, rfl⟩ := Attempt.map_eq_success.mp chosen
    rfl
  · split at chosen
    · cases chosen
      rfl
    · obtain ⟨references, -, rfl⟩ := Attempt.map_eq_success.mp chosen
      rfl

end Position

/-- A position settled by itself, without regard to the others. -/
def Position.resolve (world : World story) (words : Words) (memory : Memory)
    (position : Position) : Attempt CommandError Position :=
  (position.findCandidates world words memory).andThen (Position.settle world words)

/-- Positions that are settled together have each been settled by itself. -/
theorem settlePositions_resolves {world : World story} {words : Words} {memory : Memory}
    {positions settled : List Position}
    (success : settlePositions world words memory positions = .success settled) :
    List.Forall₂ (fun position settled => position.resolve world words memory = .success settled)
      positions settled := by
  obtain ⟨candidates, searched, chosen⟩ := Attempt.andThen_eq_success.mp success
  refine (forall₂_comp (Attempt.each_eq_success.mp searched)
    (Attempt.each_eq_success.mp chosen)).imp ?_
  intro position settled both
  exact Attempt.andThen_eq_success.mpr both

/-- If they stop, one of them stops by itself. -/
theorem fault_of_settlePositions_resolve {world : World story} {words : Words} {memory : Memory}
    {positions : List Position} {fault : CommandError}
    (stopped : (settlePositions world words memory positions).fault = some fault) :
    ∃ position ∈ positions, (position.resolve world words memory).fault = some fault := by
  rcases Attempt.fault_of_andThen stopped with searching | ⟨through, settling⟩
  · obtain ⟨position, member, stops⟩ := Attempt.fault_of_each searching
    refine ⟨position, member, ?_⟩
    unfold Position.resolve Attempt.andThen
    rw [stops]
    exact stops
  · -- all were looked up, and one of them then does not settle
    obtain ⟨found, foundMember, stops⟩ := Attempt.fault_of_each settling
    have searched := Attempt.each_eq_success.mp (Attempt.eq_success_of_fault through)
    obtain ⟨position, member, candidates⟩ := forall₂_right searched foundMember
    refine ⟨position, member, ?_⟩
    unfold Position.resolve
    rw [candidates]
    exact stops

/-- **Every position settles.**  If the references of a command are settled without a fault, each
position has been settled in its own way. -/
theorem settlePositions_eq_success {world : World story} {words : Words} {memory : Memory}
    {positions settled : List Position} (read : ∀ position ∈ positions, position.Read)
    (success : settlePositions world words memory positions = .success settled) :
    List.Forall₂ (Position.Settles world words memory) positions settled := by
  refine (List.forall₂_and_left _ _).mpr ⟨read, settlePositions_resolves success⟩ |>.imp ?_
  rintro position settled ⟨asRead, resolved⟩
  obtain ⟨found, candidates, chosen⟩ := Attempt.andThen_eq_success.mp resolved
  exact Position.settles_of_success asRead candidates chosen

/-- A position settles to several instances only where its slot allows them. -/
theorem allowed_of_settlePositions {world : World story} {words : Words} {memory : Memory}
    {positions settled : List Position} (read : ∀ position ∈ positions, position.Read)
    (success : settlePositions world words memory positions = .success settled)
    {position : Position} (member : position ∈ settled) (several : position.multiple = true) :
    position.flags.multiple = true := by
  obtain ⟨candidates, searched, chosen⟩ := Attempt.andThen_eq_success.mp success
  obtain ⟨found, foundMember, chosen⟩ :=
    forall₂_right (Attempt.each_eq_success.mp chosen) member
  obtain ⟨before, beforeMember, searched⟩ :=
    forall₂_right (Attempt.each_eq_success.mp searched) foundMember
  have same := Position.eq_of_settle chosen
  have several' : found.multiple = true := by
    rw [same] at several
    exact several
  have allowed := Position.allowed_of_findCandidates searched
    (read before beforeMember).multiple_allowed several'
  rw [same]
  exact allowed

end TextAdventure
