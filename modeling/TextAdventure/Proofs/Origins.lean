import TextAdventure.Proofs.Inheritance
import TextAdventure.Proofs.Lists
/-!
# Where alternatives come from

The bodies of a verb are looked for in one verb table after another: that for all commands, then for
the current location and for each parameter those of its classes, from the root down, and its own.
Each such table is an origin (`World.origins`) and offers one body or none, the first that fits of
the first entry for the verb (`Offers`).  What is found is described by where it comes from, and
this leaves nothing open (`eq_alternatives_iff_collects`).
-/

namespace TextAdventure

variable {story : Story}

/-! ## First members -/

section First

variable {α : Type}

/-- The member of a list is the first one with a property. -/
def IsFirst (P : α → Prop) (xs : List α) (x : α) : Prop :=
  ∃ before after, xs = before ++ x :: after ∧ P x ∧ ∀ earlier ∈ before, ¬ P earlier

theorem find?_eq_some_iff_isFirst {test : α → Bool} {xs : List α} {x : α} :
    xs.find? test = some x ↔ IsFirst (test · = true) xs x := by
  simp only [List.find?_eq_some_iff_append, IsFirst, Bool.not_eq_true', ← Bool.not_eq_true]
  constructor
  · rintro ⟨passes, before, after, rfl, earlier⟩
    exact ⟨before, after, rfl, passes, earlier⟩
  · rintro ⟨before, after, rfl, passes, earlier⟩
    exact ⟨passes, before, after, rfl, earlier⟩

end First

/-! ## Bodies that fit -/

/-- The body belongs to no parameter, or to the one of the scope.  In the scopes of all commands and
of the location there is none. -/
def VerbBody.BelongsTo (body : VerbBody) (scope : Scope) : Prop :=
  body.parameter = 0 ∨ scope = .parameter body.parameter

theorem VerbBody.fits_iff {body : VerbBody} {scope : Scope} :
    body.fits scope = true ↔ body.BelongsTo scope := by
  unfold fits BelongsTo
  rw [Bool.or_eq_true, beq_iff_eq, beq_iff_eq]
  refine or_congr_right ?_
  cases scope <;> simp [Scope.number?]

/-- The body is the one that a verb table offers: the first that fits the scope, of the first entry
for the verb. -/
def Offers (verbs : List Verb) (verb : WordCode) (scope : Scope) (body : VerbBody) : Prop :=
  ∃ entry, IsFirst (·.code = verb) verbs entry ∧ IsFirst (·.BelongsTo scope) entry.bodies body

theorem bodyFor_eq_some_iff {verbs : List Verb} {verb : WordCode} {scope : Scope}
    {body : VerbBody} :
    bodyFor verbs verb scope = some body ↔ Offers verbs verb scope body := by
  unfold bodyFor Offers
  rw [Option.bind_eq_some_iff]
  simp only [find?_eq_some_iff_isFirst, VerbBody.fits_iff, beq_iff_eq]

theorem Offers.belongsTo {verbs : List Verb} {verb : WordCode} {scope : Scope} {body : VerbBody}
    (offers : Offers verbs verb scope body) : body.BelongsTo scope := by
  obtain ⟨entry, -, before, after, -, belongs, -⟩ := offers
  exact belongs

/-! ## Origins -/

/-- Where a body is looked for: in a scope and for an instance, in the verbs of one of its classes
or, with class 0, in its own ones. -/
structure Origin where
  scope : Scope
  owner : InstanceId
  cls : ClassId
deriving DecidableEq, Repr

/-- Where an alternative was found. -/
def Alternative.origin (alternative : Alternative) : Origin :=
  ⟨alternative.scope, alternative.owner, alternative.cls⟩

namespace Origin

/-- The verb table of an origin. -/
def verbs (story : Story) (origin : Origin) : List Verb :=
  match origin.scope with
  | .global => story.globalVerbs
  | _ =>
    if origin.cls = 0 then ((story.instance? origin.owner).map (·.verbs)).getD []
    else ((story.class? origin.cls).map (·.verbs)).getD []

/-- The alternative that an origin has for a verb. -/
def alternative? (story : Story) (verb : WordCode) (origin : Origin) : Option Alternative :=
  (bodyFor (origin.verbs story) verb origin.scope).map fun body =>
    { body, scope := origin.scope, owner := origin.owner, cls := origin.cls }

end Origin

/-- The alternative has not had its turn yet and is what its origin offers for the verb. -/
def Alternative.IsOffered (story : Story) (verb : WordCode) (alternative : Alternative) : Prop :=
  alternative.done = false ∧
    Offers (alternative.origin.verbs story) verb alternative.scope alternative.body

theorem Origin.alternative?_eq_some_iff {verb : WordCode} {origin : Origin}
    {alternative : Alternative} :
    origin.alternative? story verb = some alternative ↔
      alternative.origin = origin ∧ alternative.IsOffered story verb := by
  unfold alternative?
  rw [Option.map_eq_some_iff]
  simp only [bodyFor_eq_some_iff]
  constructor
  · rintro ⟨body, offers, rfl⟩
    exact ⟨rfl, rfl, offers⟩
  · rintro ⟨rfl, fresh, offers⟩
    refine ⟨alternative.body, offers, ?_⟩
    rw [← fresh]
    rfl

namespace World

/-- The origins in the scope of an instance: its classes, from the root down, and then its own
verbs, which a literal has none of. -/
def originsOf (world : World story) (scope : Scope) (id : InstanceId) : List Origin :=
  (story.classChain (world.verbClass id)).map (⟨scope, id, ·⟩) ++
    if (world.literal? id).isSome then [] else [⟨scope, id, 0⟩]

/-- All origins of a command, from the outermost scope to the innermost one. -/
def origins (world : World story) (parameters : List InstanceId) : List Origin :=
  ⟨.global, 0, 0⟩ :: world.originsOf .location world.here ++
    (parameters.zipIdx 1).flatMap fun entry => world.originsOf (.parameter entry.2) entry.1

variable {world : World story} {verb : WordCode} {scope : Scope} {id : InstanceId}

theorem bodyFor_getD {α : Type} (table : α → List Verb) (found : Option α) :
    bodyFor ((found.map table).getD []) verb scope =
      found.bind fun entry => bodyFor (table entry) verb scope := by
  cases found <;> rfl

/-- In the scope of an instance each origin is asked in turn. -/
theorem alternativesOf_eq (inner : scope ≠ .global) :
    world.alternativesOf verb scope id =
      (world.originsOf scope id).filterMap (·.alternative? story verb) := by
  have table : ∀ cls, (Origin.mk scope id cls).verbs story =
      if cls = 0 then ((story.instance? id).map (·.verbs)).getD []
      else ((story.class? cls).map (·.verbs)).getD [] := by
    intro cls
    cases scope with
    | global => exact absurd rfl inner
    | location => rfl
    | parameter number => rfl
  unfold alternativesOf originsOf
  rw [List.filterMap_append, List.filterMap_map]
  refine congrArg₂ (· ++ ·) ?_ ?_
  · refine List.filterMap_congr fun cls member => ?_
    have some : cls ≠ 0 := (Story.mem_classChain.mp member).1
    simp only [Function.comp_apply, Origin.alternative?, table, if_neg some, bodyFor_getD]
  · unfold ownAlternative
    split
    · rfl
    · simp only [List.filterMap_cons, List.filterMap_nil, Origin.alternative?, table, if_true,
        bodyFor_getD]
      cases (story.instance? id).bind fun entry => bodyFor entry.verbs verb scope <;> rfl

/-- **Every origin is asked once.**  The alternatives of a command are those of its origins, in
their order. -/
theorem alternatives_eq (world : World story) (verb : WordCode) (parameters : List InstanceId) :
    world.alternatives verb parameters =
      (world.origins parameters).filterMap (·.alternative? story verb) := by
  unfold alternatives origins
  rw [List.filterMap_append, List.filterMap_cons, List.filterMap_flatMap,
    alternativesOf_eq (by simp)]
  have each : ∀ entry : InstanceId × Nat, world.alternativesOf verb (.parameter entry.2) entry.1 =
      (world.originsOf (.parameter entry.2) entry.1).filterMap (·.alternative? story verb) :=
    fun _ => alternativesOf_eq (by simp)
  simp only [each]
  unfold Story.globalAlternative Origin.alternative? Origin.verbs
  cases bodyFor story.globalVerbs verb .global <;> rfl

/-! ## No origin comes twice -/

theorem scope_of_mem_originsOf {origin : Origin} (member : origin ∈ world.originsOf scope id) :
    origin.scope = scope := by
  unfold originsOf at member
  rcases List.mem_append.mp member with inherited | own
  · obtain ⟨cls, -, rfl⟩ := List.mem_map.mp inherited
    rfl
  · split at own
    · cases own
    · rw [List.mem_singleton.mp own]

theorem nodup_originsOf (acyclic : story.Acyclic) : (world.originsOf scope id).Nodup := by
  unfold originsOf
  refine List.nodup_append.mpr ⟨?_, ?_, ?_⟩
  · refine (Story.isLineage_classChain acyclic _).nodup.map fun cls other same => ?_
    exact congrArg Origin.cls same
  · split <;> simp
  · intro origin inherited own isOwn same
    obtain ⟨cls, member, rfl⟩ := List.mem_map.mp inherited
    subst same
    split at isOwn
    · cases isOwn
    · -- no class has the number 0
      have zero : cls = 0 := congrArg Origin.cls (List.mem_singleton.mp isOwn)
      exact (Story.mem_classChain.mp member).1 zero

theorem nodup_origins (acyclic : story.Acyclic) (parameters : List InstanceId) :
    (world.origins parameters).Nodup := by
  -- origins in different scopes are different
  have numbers : (parameters.zipIdx 1).Pairwise fun entry other => entry.2 ≠ other.2 := by
    rw [← List.pairwise_map, List.zipIdx_map_snd]
    exact List.nodup_range' ..
  have ofParameters : ((parameters.zipIdx 1).flatMap fun entry =>
      world.originsOf (.parameter entry.2) entry.1).Nodup := by
    refine List.nodup_flatMap.mpr ⟨fun _ _ => nodup_originsOf acyclic, numbers.imp ?_⟩
    intro entry other differ origin member isOther
    have scope := (scope_of_mem_originsOf member).symm.trans (scope_of_mem_originsOf isOther)
    exact differ (Scope.parameter.inj scope)
  unfold origins
  refine List.nodup_append.mpr
    ⟨List.nodup_cons.mpr ⟨fun member => ?_, nodup_originsOf acyclic⟩, ofParameters, ?_⟩
  · cases scope_of_mem_originsOf member
  · intro origin member other isOther same
    subst same
    obtain ⟨entry, -, inScope⟩ := List.mem_flatMap.mp isOther
    have scope := scope_of_mem_originsOf inScope
    rcases List.mem_cons.mp member with rfl | atLocation
    · cases scope
    · rw [scope_of_mem_originsOf atLocation] at scope
      cases scope

/-! ## What is found -/

/-- The list has the alternatives of a verb: they are what the origins of the command offer for it,
in the order of the origins and not more than one from each. -/
structure Collects (world : World story) (verb : WordCode) (parameters : List InstanceId)
    (found : List Alternative) : Prop where
  ordered : (found.map (·.origin)).Sublist (world.origins parameters)
  once : (found.map (·.origin)).Nodup
  mem_iff : ∀ alternative, alternative ∈ found ↔
    alternative.origin ∈ world.origins parameters ∧ alternative.IsOffered story verb

theorem collects_alternatives (acyclic : story.Acyclic) (world : World story) (verb : WordCode)
    (parameters : List InstanceId) :
    world.Collects verb parameters (world.alternatives verb parameters) := by
  rw [alternatives_eq]
  have keyed : ∀ (origin : Origin) (alternative : Alternative),
      origin.alternative? story verb = some alternative → alternative.origin = origin :=
    fun _ _ found => (Origin.alternative?_eq_some_iff.mp found).1
  have ordered := map_filterMap_sublist keyed (world.origins parameters)
  refine ⟨ordered, ordered.nodup (nodup_origins acyclic parameters), fun alternative => ?_⟩
  rw [List.mem_filterMap]
  simp only [Origin.alternative?_eq_some_iff]
  exact ⟨fun ⟨_, member, rfl, offered⟩ => ⟨member, offered⟩,
    fun ⟨member, offered⟩ => ⟨_, member, rfl, offered⟩⟩

/-- There is one such list only. -/
theorem Collects.eq_alternatives (acyclic : story.Acyclic) {parameters : List InstanceId}
    {found : List Alternative} (collects : world.Collects verb parameters found) :
    found = world.alternatives verb parameters := by
  rw [alternatives_eq]
  exact eq_filterMap_of_sublist (fun _ _ => Origin.alternative?_eq_some_iff)
    (nodup_origins acyclic parameters) collects.ordered collects.mem_iff

end World

/-- **The alternatives of a verb.**  Where no class inherits from itself, a list has the
alternatives of a verb, from the outermost scope to the innermost one, exactly if it has what each
origin of the command offers, in the order of the origins and once.  A body that belongs to a
parameter is found for this parameter only.  The classes that are origins for an instance lead from
the root down to its class; so they do for a literal if integers can be told from strings by their
class, and otherwise to the class that it is taken for. -/
theorem eq_alternatives_iff_collects (acyclic : story.Acyclic) (world : World story)
    (verb : WordCode) (parameters : List InstanceId) :
    (∀ found, found = world.alternatives verb parameters ↔
      world.Collects verb parameters found) ∧
    (∀ alternative ∈ world.alternatives verb parameters, alternative.body.parameter ≠ 0 →
      alternative.scope = .parameter alternative.body.parameter) ∧
    ∀ id, story.IsLineage (world.verbClass id) (story.classChain (world.verbClass id)) ∧
      (world.literal? id = none ∨ story.TellsLiterals → world.verbClass id = world.classOf id) := by
  have collects := World.collects_alternatives acyclic world verb parameters
  refine ⟨fun found => ⟨?_, World.Collects.eq_alternatives acyclic⟩, ?_, fun id => ⟨?_, ?_⟩⟩
  · rintro rfl
    exact collects
  · intro alternative member numbered
    have offered := ((collects.mem_iff alternative).mp member).2
    exact offered.2.belongsTo.resolve_left numbered
  · exact Story.isLineage_classChain acyclic _
  · rintro (ordinary | tells)
    · exact World.verbClass_of_none ordinary
    · exact World.verbClass_eq_classOf tells id

/-- In the museum the verb is tried with the mummy and with a number: the mummy has a body from the
class of objects, and the number none, as the body for integers belongs to the first parameter. -/
theorem eq_alternatives_iff_collects_museum :
    let story := Story.museum
    let world := ((World.initial story).createLiteral (.integer 5)).2
    let found : List Alternative :=
      [{ body := { action := some 100 }, scope := .parameter 1, owner := 2, cls := 1 }]
    story.Acyclic ∧
    world.alternatives 7 [2, 4] = found ∧ (world.alternatives 7 [4, 2]).length = 2 ∧
    world.Collects 7 [2, 4] found ∧
    (∀ alternative ∈ world.alternatives 7 [2, 4], alternative.body.parameter ≠ 0 →
      alternative.scope = .parameter alternative.body.parameter) ∧
    story.IsLineage (world.verbClass 4) (story.classChain (world.verbClass 4)) := by
  intro story world found
  have acyclic : story.Acyclic := by decide
  have computed : world.alternatives 7 [2, 4] = found := by decide
  obtain ⟨collects, numbered, lineage⟩ := eq_alternatives_iff_collects acyclic world 7 [2, 4]
  exact ⟨acyclic, computed, by decide, (collects found).mp computed.symm, numbered,
    (lineage 4).1⟩

end TextAdventure
