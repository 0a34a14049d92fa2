import TextAdventure.Proofs.Surroundings
import TextAdventure.Verb.Alternative
import Mathlib.Data.List.Chain
import Mathlib.Logic.Relation
/-!
# Inheritance

The way up from a class goes from parent to parent.  It is cut off after as many steps as there are
classes and one more, which leaves nothing out (`Story.mem_classChain`), and where no class inherits
from itself it holds each class once (`Story.isLineage_classChain`).

An instance belongs to the classes on the way up from its own.  Where the bodies of a verb are
looked for, the way begins at a class that is found in another manner (`World.verbClass`); it is
that of the instance as long as integers have a class and strings do not inherit from it.
-/

namespace TextAdventure

open Relation (ReflTransGen TransGen)

variable {story : Story}

namespace Story

variable {cls ancestor parent : ClassId}

/-! ## Parents -/

/-- A class has another one as its parent.  0 is no parent. -/
def HasParent (story : Story) (cls parent : ClassId) : Prop :=
  parent ≠ 0 ∧ story.parentOf cls = parent

/-- A class is another one or inherits from it: this is come to from parent to parent. -/
def Inherits (story : Story) (cls ancestor : ClassId) : Prop :=
  ancestor ≠ 0 ∧ ReflTransGen story.HasParent cls ancestor

/-- No class inherits from itself. -/
def Acyclic (story : Story) : Prop := ∀ cls, ¬ TransGen story.HasParent cls cls

/-- Literals can be told apart by their class: integers have one, and strings do not inherit from
it. -/
structure TellsLiterals (story : Story) : Prop where
  integers : story.predefined.integer ≠ 0
  strings : story.Inherits story.predefined.string story.predefined.integer →
    story.predefined.string = story.predefined.integer

/-- Only a class of the story has a parent. -/
theorem class_of_parentOf_ne_zero (cls : ClassId) (some : story.parentOf cls ≠ 0) :
    cls ≠ 0 ∧ cls ≤ story.classes.length := by
  unfold parentOf at some
  cases found : story.class? cls with
  | none =>
    rw [found] at some
    exact absurd rfl some
  | some entry => exact bounds_of_entryAt found

theorem HasParent.ne_zero (step : story.HasParent cls parent) : cls ≠ 0 := by
  obtain ⟨some, rfl⟩ := step
  exact (class_of_parentOf_ne_zero cls some).1

theorem Inherits.ne_zero (inherits : story.Inherits cls ancestor) : cls ≠ 0 := by
  obtain ⟨some, way⟩ := inherits
  rcases way.cases_head with rfl | ⟨parent, step, -⟩
  · exact some
  · exact step.ne_zero

theorem Inherits.self (some : cls ≠ 0) : story.Inherits cls cls := ⟨some, .refl⟩

/-- What a class inherits from over one step or more, its parent does over none or more. -/
theorem transGen_iff_inherits :
    TransGen story.HasParent cls ancestor ↔ story.Inherits (story.parentOf cls) ancestor := by
  constructor
  · intro way
    obtain ⟨parent, ⟨some, rfl⟩, upward⟩ := TransGen.head'_iff.mp way
    refine ⟨?_, upward⟩
    rcases upward.cases_tail with rfl | ⟨child, -, step⟩
    · exact some
    · exact step.1
  · intro inherits
    exact TransGen.head' ⟨inherits.ne_zero, rfl⟩ inherits.2

/-- An ancestor is come to by so and so many steps. -/
theorem inherits_iff_iterate :
    story.Inherits cls ancestor ↔ ancestor ≠ 0 ∧ ∃ k, story.parentOf^[k] cls = ancestor := by
  refine and_congr_right fun some => ⟨fun way => ?_, ?_⟩
  · clear some
    induction way with
    | refl => exact ⟨0, rfl⟩
    | tail _ step ih =>
      obtain ⟨k, rfl⟩ := ih
      exact ⟨k + 1, (Function.iterate_succ_apply' ..).trans step.2⟩
  · rintro ⟨k, rfl⟩
    induction k with
    | zero => exact .refl
    | succ k ih =>
      rw [Function.iterate_succ_apply'] at some ⊢
      exact (ih (class_of_parentOf_ne_zero _ some).1).tail ⟨some, rfl⟩

/-! ## The way up -/

theorem mem_lineage (bound : Nat) :
    ancestor ∈ story.lineage bound cls ↔
      ancestor ≠ 0 ∧ ∃ k < bound, story.parentOf^[k] cls = ancestor := by
  induction bound generalizing cls with
  | zero => simp [lineage]
  | succ bound ih =>
    unfold lineage
    split
    · next none =>
      -- the way up from no class stays there
      subst none
      refine iff_of_false List.not_mem_nil ?_
      rintro ⟨some, k, -, rfl⟩
      exact some (Function.iterate_fixed rfl k)
    · next some =>
      rw [List.mem_cons, ih]
      constructor
      · rintro (rfl | ⟨some', k, lt, rfl⟩)
        · exact ⟨some, 0, Nat.succ_pos bound, rfl⟩
        · exact ⟨some', k + 1, Nat.succ_lt_succ lt, rfl⟩
      · rintro ⟨some', k, lt, rfl⟩
        cases k with
        | zero => exact .inl rfl
        | succ k => exact .inr ⟨some', k, Nat.lt_of_succ_lt_succ lt, rfl⟩

/-- **The way up that is found is the whole one.**  Cutting it off leaves no ancestor out, also if
it leads in circles or ends at a number that names no class. -/
theorem mem_classChain : ancestor ∈ story.classChain cls ↔ story.Inherits cls ancestor := by
  unfold classChain
  rw [List.mem_reverse, mem_lineage, inherits_iff_iterate]
  refine and_congr_right fun some => ⟨fun ⟨k, _, reached⟩ => ⟨k, reached⟩, ?_⟩
  rintro ⟨k, rfl⟩
  obtain ⟨j, -, within, reached⟩ := exists_iterate_le class_of_parentOf_ne_zero some
  exact ⟨j, Nat.lt_succ_of_le within, reached⟩

instance (story : Story) (cls ancestor : ClassId) : Decidable (story.Inherits cls ancestor) :=
  decidable_of_iff _ mem_classChain

theorem acyclic_iff :
    story.Acyclic ↔
      ∀ cls ∈ List.range (story.classes.length + 1), ¬ story.Inherits (story.parentOf cls) cls := by
  simp only [Acyclic, transGen_iff_inherits]
  refine ⟨fun acyclic cls _ => acyclic cls, fun acyclic cls inherits => ?_⟩
  have known := class_of_parentOf_ne_zero cls inherits.ne_zero
  exact acyclic cls (List.mem_range.mpr (Nat.lt_succ_of_le known.2)) inherits

instance (story : Story) : Decidable story.Acyclic := decidable_of_iff _ acyclic_iff.symm

/-- Whoever comes later on the way up is an ancestor. -/
theorem pairwise_lineage (bound : Nat) (cls : ClassId) :
    (story.lineage bound cls).Pairwise (TransGen story.HasParent) := by
  induction bound generalizing cls with
  | zero => exact .nil
  | succ bound ih =>
    unfold lineage
    split
    · exact .nil
    · refine .cons (fun ancestor member => ?_) (ih _)
      rw [mem_lineage] at member
      obtain ⟨some, k, -, reached⟩ := member
      exact transGen_iff_inherits.mpr (inherits_iff_iterate.mpr ⟨some, k, reached⟩)

/-- On the way up each class is followed by its parent. -/
theorem isChain_lineage (bound : Nat) (cls : ClassId) :
    (story.lineage bound cls).IsChain story.HasParent := by
  induction bound generalizing cls with
  | zero => exact .nil
  | succ bound ih =>
    unfold lineage
    split
    · exact .nil
    · refine (ih _).cons fun parent first => ?_
      cases bound with
      | zero => cases first
      | succ bound =>
        unfold lineage at first
        split at first
        · cases first
        · next some =>
          cases first
          exact ⟨some, rfl⟩

/-- The list leads from the root of a class down to the class itself. -/
structure IsLineage (story : Story) (cls : ClassId) (classes : List ClassId) : Prop where
  /-- It has the class and all that it inherits from. -/
  mem_iff : ∀ ancestor, ancestor ∈ classes ↔ story.Inherits cls ancestor
  /-- It has each of them once. -/
  nodup : classes.Nodup
  /-- The root, which has no parent, comes first. -/
  root : ∀ first, classes.head? = some first → story.parentOf first = 0
  /-- Each class comes right after its parent. -/
  parents : classes.IsChain fun parent child => story.HasParent child parent
  /-- The class itself comes last. -/
  last : cls ≠ 0 → classes.getLast? = some cls

/-- **The way down to a class.**  Where no class inherits from itself there is just one root on it,
and nothing is met twice. -/
theorem isLineage_classChain (acyclic : story.Acyclic) (cls : ClassId) :
    story.IsLineage cls (story.classChain cls) := by
  have onward : (story.classChain cls).Pairwise fun ancestor child =>
      TransGen story.HasParent child ancestor :=
    List.pairwise_reverse.mpr (pairwise_lineage _ cls)
  refine ⟨fun _ => mem_classChain, ?_, ?_, ?_, ?_⟩
  · refine onward.imp fun way same => ?_
    subst same
    exact acyclic _ way
  · intro first head
    by_contra some
    obtain ⟨rest, split⟩ := List.head?_eq_some_iff.mp head
    have inherits : story.Inherits cls first := by
      rw [← mem_classChain, split]
      exact List.mem_cons_self ..
    -- the parent of the root would be further down, and so inherit from the root
    have member : story.parentOf first ∈ story.classChain cls :=
      mem_classChain.mpr ⟨some, inherits.2.tail ⟨some, rfl⟩⟩
    have step : TransGen story.HasParent first (story.parentOf first) := .single ⟨some, rfl⟩
    rw [split] at member onward
    rcases List.mem_cons.mp member with same | below
    · rw [same] at step
      exact acyclic _ step
    · exact acyclic _ (step.trans ((List.pairwise_cons.mp onward).1 _ below))
  · exact List.isChain_reverse.mpr (isChain_lineage _ cls)
  · intro some
    unfold classChain lineage
    rw [List.getLast?_reverse, if_neg some, List.head?_cons]

end Story

/-! ## The classes of an instance -/

namespace World

variable {world : World story} {id : InstanceId} {cls : ClassId}

theorem isA_iff : world.isA id cls = true ↔ story.Inherits (world.classOf id) cls := by
  unfold isA
  rw [Bool.and_eq_true, List.contains_iff_mem, Story.mem_classChain, bne_iff_ne]
  exact ⟨And.right, fun inherits => ⟨inherits.1, inherits⟩⟩

/-- The search for the bodies of an instance begins at its class. -/
theorem verbClass_of_none (ordinary : world.literal? id = none) :
    world.verbClass id = world.classOf id := by
  simp only [verbClass, classOf, ordinary]

/-- So does that for a literal, if integers can be told from strings by their class. -/
theorem verbClass_eq_classOf (tells : story.TellsLiterals) (id : InstanceId) :
    world.verbClass id = world.classOf id := by
  cases found : world.literal? id with
  | none => exact verbClass_of_none found
  | some literal =>
    unfold verbClass
    rw [found]
    dsimp only
    cases literal with
    | integer value =>
      have isClass : world.classOf id = story.predefined.integer := by simp only [classOf, found]
      rw [isClass, if_pos]
      rw [isA_iff, isClass]
      exact .self tells.integers
    | string value =>
      have isClass : world.classOf id = story.predefined.string := by simp only [classOf, found]
      rw [isClass]
      split
      · next isInteger =>
        rw [isA_iff, isClass] at isInteger
        exact (tells.strings isInteger).symm
      · rfl

/-- The alternatives that are inherited are those of the classes on the way down to the one where
the search begins. -/
theorem mem_inheritedAlternatives {verb : WordCode} {scope : Scope} {alternative : Alternative} :
    alternative ∈ world.inheritedAlternatives verb scope id ↔
      ∃ cls entry body, cls ∈ story.classChain (world.verbClass id) ∧
        story.class? cls = some entry ∧ bodyFor entry.verbs verb scope = some body ∧
        alternative = { body, scope, owner := id, cls } := by
  unfold inheritedAlternatives
  rw [List.mem_filterMap]
  refine exists_congr fun cls => ?_
  simp only [Option.map_eq_some_iff, Option.bind_eq_some_iff]
  constructor
  · rintro ⟨member, body, ⟨entry, found, first⟩, rfl⟩
    exact ⟨entry, body, member, found, first, rfl⟩
  · rintro ⟨entry, body, member, found, first, rfl⟩
    exact ⟨member, body, ⟨entry, found, first⟩, rfl⟩

end World

/-- **To belong to a class is to inherit from it.**  In every hierarchy an instance or a literal
belongs to its class and to what this inherits from, and to nothing else.  If integers have a class
and strings do not inherit from it, these are the classes in whose verbs its bodies are looked for.
If no class inherits from itself, the way down to a class has each of them once, from the root to
the class itself. -/
theorem membership_is_inheritance (world : World story) :
    (∀ id cls, world.isA id cls = true ↔ story.Inherits (world.classOf id) cls) ∧
    (story.TellsLiterals → ∀ id,
      (∀ cls, cls ∈ story.classChain (world.verbClass id) ↔ world.isA id cls = true) ∧
      ∀ verb scope alternative,
        alternative ∈ world.inheritedAlternatives verb scope id ↔
          ∃ cls entry body, world.isA id cls = true ∧ story.class? cls = some entry ∧
            bodyFor entry.verbs verb scope = some body ∧
            alternative = { body, scope, owner := id, cls }) ∧
    (story.Acyclic → ∀ cls, story.IsLineage cls (story.classChain cls)) := by
  refine ⟨fun id cls => World.isA_iff, fun tells id => ?_, Story.isLineage_classChain⟩
  have searched : ∀ cls,
      cls ∈ story.classChain (world.verbClass id) ↔ world.isA id cls = true := by
    intro cls
    rw [World.verbClass_eq_classOf tells, Story.mem_classChain, World.isA_iff]
  refine ⟨searched, fun verb scope alternative => ?_⟩
  simp only [World.mem_inheritedAlternatives, searched]

/-- A museum with a mummy in it.  The classes stand in no order, and strings have a parent that is
no class of the story. -/
def Story.museum : Story where
  predefined := { entity := 2, thing := 3, object := 1, literal := 5, integer := 6, string := 4 }
  hero := 1
  classes := [
    { code := 1, name := "object", parent := 3,
      verbs := [{ code := 7, bodies := [{ action := some 100 }] }] },
    { code := 2, name := "entity", parent := 0 },
    { code := 3, name := "thing", parent := 2 },
    { code := 4, name := "string", parent := 9 },
    { code := 5, name := "literal", parent := 2 },
    { code := 6, name := "integer", parent := 5,
      verbs := [{ code := 7, bodies := [{ parameter := 1, action := some 200 }] }] }]
  instances := [
    { code := 1, name := "hero", parent := 3, location := 3 },
    { code := 2, name := "mummy", parent := 1, location := 3 },
    { code := 3, name := "museum", parent := 2, location := 0 }]

/-- The number 5 has the number 4 here, and belongs to no class but those of integers. -/
theorem membership_is_inheritance_museum :
    let story := Story.museum
    let world := ((World.initial story).createLiteral (.integer 5)).2
    story.TellsLiterals ∧ story.Acyclic ∧
    story.classChain (world.verbClass 4) = [2, 5, 6] ∧
    (world.isA 4 5 = true ↔ story.Inherits (world.classOf 4) 5) ∧
    (∀ cls, cls ∈ story.classChain (world.verbClass 4) ↔ world.isA 4 cls = true) ∧
    (∀ alternative, alternative ∈ world.inheritedAlternatives 7 (.parameter 1) 4 ↔
      ∃ cls entry body, world.isA 4 cls = true ∧ story.class? cls = some entry ∧
        bodyFor entry.verbs 7 (.parameter 1) = some body ∧
        alternative = { body, scope := .parameter 1, owner := 4, cls }) ∧
    story.IsLineage 1 (story.classChain 1) := by
  intro story world
  have tells : story.TellsLiterals := ⟨by decide, by decide⟩
  have acyclic : story.Acyclic := by decide
  obtain ⟨belongs, searches, lineage⟩ := membership_is_inheritance world
  obtain ⟨searched, found⟩ := searches tells 4
  exact ⟨tells, acyclic, by decide, belongs 4 5, searched, found 7 (.parameter 1),
    lineage acyclic 1⟩

end TextAdventure
