import Mathlib.Data.List.Forall2
import Mathlib.Data.List.Induction
import Mathlib.Data.List.Infix
import Mathlib.Data.List.Nodup
/-!
# Lists in general

Facts of lists that have nothing to do with stories, one section for each kind: lists that
correspond member by member, lists without repetitions, what a search finds first, members that are
taken or changed, and places.
-/

namespace TextAdventure

variable {α β γ : Type}

/-! ## Lists that correspond -/

section Correspondence

variable {R : α → β → Prop} {xs : List α} {ys : List β}

theorem forall₂_comp {S : β → γ → Prop} {zs : List γ} (first : List.Forall₂ R xs ys)
    (second : List.Forall₂ S ys zs) : List.Forall₂ (fun x z => ∃ y, R x y ∧ S y z) xs zs := by
  induction first generalizing zs with
  | nil =>
    cases second
    exact .nil
  | cons head _ ih =>
    cases second with
    | cons head' tail => exact .cons ⟨_, head, head'⟩ (ih tail)

theorem forall₂_left (all : List.Forall₂ R xs ys) {x : α} (member : x ∈ xs) :
    ∃ y ∈ ys, R x y := by
  induction all with
  | nil => cases member
  | cons head _ ih =>
    rcases List.mem_cons.mp member with rfl | member
    · exact ⟨_, List.mem_cons_self .., head⟩
    · obtain ⟨y, found, related⟩ := ih member
      exact ⟨y, List.mem_cons_of_mem _ found, related⟩

theorem forall₂_right (all : List.Forall₂ R xs ys) {y : β} (member : y ∈ ys) :
    ∃ x ∈ xs, R x y := by
  obtain ⟨x, found, related⟩ := forall₂_left all.flip member
  exact ⟨x, found, related⟩

theorem forall₂_getElem? (all : List.Forall₂ R xs ys) {i : Nat} {x : α} (found : xs[i]? = some x) :
    ∃ y, ys[i]? = some y ∧ R x y := by
  induction all generalizing i with
  | nil => cases found
  | cons head _ ih =>
    cases i with
    | zero =>
      cases found
      exact ⟨_, rfl, head⟩
    | succ i => exact ih found

end Correspondence

/-! ## Lists without repetitions -/

section Repetitions

variable [DecidableEq α] [DecidableEq β]

theorem eraseDups_concat (xs : List α) (x : α) :
    (xs ++ [x]).eraseDups = if x ∈ xs then xs.eraseDups else xs.eraseDups ++ [x] := by
  rw [List.eraseDups_append]
  by_cases member : x ∈ xs <;> simp [List.removeAll, member, List.eraseDups_cons]

theorem nodup_eraseDups (xs : List α) : xs.eraseDups.Nodup := by
  induction xs using List.reverseRecOn with
  | nil => simp
  | append_singleton xs x ih =>
    rw [eraseDups_concat]
    split
    · exact ih
    · next fresh =>
      apply List.nodup_append.mpr
      refine ⟨ih, List.nodup_singleton x, ?_⟩
      intro y member z isLast same
      rw [List.mem_singleton.mp isLast] at same
      exact fresh (same ▸ List.mem_eraseDups.mp member)

/-- What different members are mapped to is different, so it makes no difference which repetitions
are erased. -/
theorem eraseDups_filterMap {f : α → Option β}
    (injective : ∀ x y z, f x = some z → f y = some z → x = y) (xs : List α) :
    (xs.filterMap f).eraseDups = xs.eraseDups.filterMap f := by
  induction xs using List.reverseRecOn with
  | nil => simp
  | append_singleton xs x ih =>
    rw [List.filterMap_append, eraseDups_concat]
    cases image : f x with
    | none =>
      have nothing : [x].filterMap f = [] := by simp [image]
      rw [nothing, List.append_nil, ih]
      split <;> simp [image]
    | some y =>
      have one : [x].filterMap f = [y] := by simp [image]
      have again : y ∈ xs.filterMap f ↔ x ∈ xs := by
        rw [List.mem_filterMap]
        constructor
        · rintro ⟨x', member, image'⟩
          exact injective x' x y image' image ▸ member
        · intro member
          exact ⟨x, member, image⟩
      rw [one, eraseDups_concat, ih]
      simp only [again]
      split
      · rfl
      · rw [List.filterMap_append, one]

/-- A repetition is never what is found first. -/
theorem findSome?_eraseDups (f : α → Option γ) (xs : List α) :
    xs.eraseDups.findSome? f = xs.findSome? f := by
  induction xs using List.reverseRecOn with
  | nil => rfl
  | append_singleton xs x ih =>
    rw [eraseDups_concat, List.findSome?_append, List.findSome?_singleton]
    split
    · next known =>
      rw [ih]
      cases found : xs.findSome? f with
      | some y => rfl
      | none => rw [List.findSome?_eq_none_iff.mp found x known]; rfl
    · rw [List.findSome?_append, ih, List.findSome?_singleton]

end Repetitions

/-! ## What is found first -/

theorem findSome?_filterMap (f : α → Option β) (g : β → Option γ) (xs : List α) :
    (xs.filterMap f).findSome? g = xs.findSome? fun x => (f x).bind g := by
  induction xs with
  | nil => rfl
  | cons x xs ih => cases h : f x <;> simp [h, ih, List.findSome?_cons]

/-- What is found first in two lists that stand for the same. -/
theorem findSome?_eq_of_map {f : α → Option γ} {g : β → Option γ} {m : α → Option β}
    (alike : ∀ x y, m x = some y → f x = g y) {xs : List α} {ys : List β}
    (same : xs.map m = ys.map some) : xs.findSome? f = ys.findSome? g := by
  induction xs generalizing ys with
  | nil =>
    cases List.map_eq_nil_iff.mp same.symm
    rfl
  | cons x xs ih =>
    obtain ⟨y, ys, rfl, first, rest⟩ := List.map_eq_cons_iff.mp same.symm
    rw [List.findSome?_cons, List.findSome?_cons, alike x y first.symm, ih rest.symm]

/-- What is found first among more is found first among less, if it is there. -/
theorem find?_eq_of_imp {p q : α → Bool} {xs : List α} {x : α} (found : xs.find? p = some x)
    (here : q x = true) (imp : ∀ y, q y = true → p y = true) : xs.find? q = some x := by
  obtain ⟨-, before, behind, rfl, others⟩ := List.find?_eq_some_iff_append.mp found
  refine List.find?_eq_some_iff_append.mpr ⟨here, before, behind, rfl, ?_⟩
  intro y member
  rw [Bool.not_eq_true', Bool.eq_false_iff]
  intro holds
  have missed := others y member
  rw [imp y holds] at missed
  cases missed

theorem lookup_zipIdx [DecidableEq α] (xs : List α) (x : α) (start : Nat) :
    (xs.zipIdx start).lookup x = (xs.idxOf? x).map (· + start) := by
  induction xs generalizing start with
  | nil => rfl
  | cons first rest ih =>
    rw [List.zipIdx_cons, List.lookup_cons, List.idxOf?_cons]
    by_cases here : x = first
    · simp [here]
    · have elsewhere : (x == first) = false := beq_eq_false_iff_ne.mpr here
      have elsewhere' : (first == x) = false := beq_eq_false_iff_ne.mpr (Ne.symm here)
      rw [elsewhere, elsewhere', ih]
      simp [Function.comp_def, Nat.add_assoc, Nat.add_comm 1 start]

/-! ## Members that are taken -/

theorem filter_contains_filter [DecidableEq α] (xs : List α) (admits : α → Bool) :
    xs.filter (xs.filter admits).contains = xs.filter admits := by
  refine List.filter_congr fun x member => ?_
  rw [Bool.eq_iff_iff, List.contains_iff_mem, List.mem_filter]
  exact and_iff_right member

/-- Each list only takes members away. -/
theorem mem_foldl_filter [DecidableEq α] {rest : List (List α)} {first : List α} {x : α} :
    x ∈ rest.foldl (fun running members => running.filter members.contains) first ↔
      x ∈ first ∧ ∀ list ∈ rest, x ∈ list := by
  induction rest generalizing first with
  | nil => simp
  | cons list rest ih => simp [ih, and_assoc]

/-- The members of a list that pass one test after a change are those that pass another before it,
if the change leaves these as they are. -/
theorem filter_map_eq {change : α → α} {late early : α → Bool} {xs : List α}
    (agree : ∀ x ∈ xs, late (change x) = early x ∧ (early x = true → change x = x)) :
    (xs.map change).filter late = xs.filter early := by
  induction xs with
  | nil => rfl
  | cons x rest ih =>
    obtain ⟨same, kept⟩ := agree x (List.mem_cons_self ..)
    have rest' := ih fun y member => agree y (List.mem_cons_of_mem x member)
    rw [List.map_cons, List.filter_cons, List.filter_cons, same, rest']
    split
    · next passes => rw [kept passes]
    · rfl

/-- Those that fail here come first and the others later. -/
theorem filterMap_perm (xs : List α) (fails : α → Bool) (here : α → β) (later : α → Option β) :
    (xs.filterMap fun x => if fails x then some (here x) else later x).Perm
      ((xs.filter fails).map here ++ (xs.filter (!fails ·)).filterMap later) := by
  have parts := (List.filter_append_perm fails xs).symm.filterMap
    fun x => if fails x then some (here x) else later x
  refine parts.trans (List.Perm.of_eq ?_)
  rw [List.filterMap_append]
  congr 1
  · rw [List.filterMap_eq_map_iff_forall_eq_some]
    intro x member
    rw [if_pos (List.of_mem_filter member)]
  · apply List.filterMap_congr
    intro x member
    have passes := List.of_mem_filter member
    rw [Bool.not_eq_true'] at passes
    rw [if_neg (Bool.eq_false_iff.mp passes)]

section Keys

variable {f : α → Option β} {key : β → α} {P : β → Prop}

/-- Where a value tells what it was found for, the values that are found are in the order of what
they were looked for. -/
theorem map_filterMap_sublist (keyed : ∀ x y, f x = some y → key y = x) (xs : List α) :
    ((xs.filterMap f).map key).Sublist xs := by
  induction xs with
  | nil => exact .slnil
  | cons x rest ih =>
    rw [List.filterMap_cons]
    cases found : f x with
    | none => exact ih.cons x
    | some y =>
      rw [List.map_cons, keyed x y found]
      exact ih.cons_cons x

/-- The values that are found are given by their order and by which there are. -/
theorem eq_filterMap_of_sublist (found : ∀ x y, f x = some y ↔ key y = x ∧ P y) {xs : List α}
    {ys : List β} (distinct : xs.Nodup) (ordered : (ys.map key).Sublist xs)
    (mem_iff : ∀ y, y ∈ ys ↔ key y ∈ xs ∧ P y) : ys = xs.filterMap f := by
  induction xs generalizing ys with
  | nil => exact List.map_eq_nil_iff.mp (List.sublist_nil.mp ordered)
  | cons x rest ih =>
    obtain ⟨fresh, apart⟩ := List.nodup_cons.mp distinct
    rcases List.sublist_cons_iff.mp ordered with skipped | ⟨keys, listed, within⟩
    · -- nothing is listed for the first one, so nothing was found for it
      have inRest : ∀ y ∈ ys, key y ∈ rest :=
        fun y member => skipped.subset (List.mem_map_of_mem member)
      have none : f x = none := by
        rw [Option.eq_none_iff_forall_ne_some]
        intro y some
        obtain ⟨rfl, good⟩ := (found x y).mp some
        exact fresh (inRest y ((mem_iff y).mpr ⟨List.mem_cons_self .., good⟩))
      rw [List.filterMap_cons_none none]
      refine ih apart skipped fun y => ⟨fun member => ?_, fun ⟨isIn, good⟩ => ?_⟩
      · exact ⟨inRest y member, ((mem_iff y).mp member).2⟩
      · exact (mem_iff y).mpr ⟨List.mem_cons_of_mem x isIn, good⟩
    · -- what is listed first was found for the first one
      obtain ⟨y, later, rfl, rfl, rfl⟩ := List.map_eq_cons_iff.mp listed
      have first : f (key y) = some y :=
        (found _ y).mpr ⟨rfl, ((mem_iff y).mp (List.mem_cons_self ..)).2⟩
      rw [List.filterMap_cons_some first]
      refine congrArg (y :: ·) (ih apart within fun z => ⟨fun member => ?_, ?_⟩)
      · exact ⟨within.subset (List.mem_map_of_mem member),
          ((mem_iff z).mp (List.mem_cons_of_mem y member)).2⟩
      · rintro ⟨isIn, good⟩
        have member := (mem_iff z).mpr ⟨List.mem_cons_of_mem _ isIn, good⟩
        refine (List.mem_cons.mp member).resolve_left ?_
        rintro rfl
        exact fresh isIn

end Keys

/-! ## Places -/

/-- A place gets what it holds. -/
theorem set_of_getElem? {xs : List α} {i : Nat} {x : α} (there : xs[i]? = some x) :
    xs.set i x = xs := by
  obtain ⟨inRange, rfl⟩ := List.getElem?_eq_some_iff.mp there
  exact List.set_getElem_self inRange

theorem map_modify_of_eq {f : α → β} (change : α → α) (same : ∀ x, f (change x) = f x)
    (xs : List α) (i : Nat) : (xs.modify i change).map f = xs.map f := by
  apply List.ext_getElem?
  intro place
  simp only [List.getElem?_map, List.getElem?_modify]
  cases xs[place]? with
  | none => rfl
  | some x => by_cases here : i = place <;> simp [here, same]

theorem getElem?_concat_eq_some {xs : List α} {x y : α} {i : Nat} :
    (xs ++ [x])[i]? = some y ↔ xs[i]? = some y ∨ i = xs.length ∧ x = y := by
  rw [List.getElem?_append]
  split
  · next inside => simp [Nat.ne_of_lt inside]
  · next outside =>
    rw [List.getElem?_eq_none (Nat.le_of_not_lt outside)]
    rcases Nat.eq_or_lt_of_le (Nat.le_of_not_lt outside) with rfl | beyond
    · simp
    · simp [Nat.ne_of_gt beyond, Nat.sub_ne_zero_of_lt beyond]

theorem concat_prefix_iff {xs ys : List α} {a : α} :
    xs ++ [a] <+: ys ↔ xs <+: ys ∧ ys[xs.length]? = some a := by
  constructor
  · rintro ⟨rest, rfl⟩
    simp
  · rintro ⟨⟨rest, rfl⟩, there⟩
    rw [List.getElem?_append_right (Nat.le_refl _), Nat.sub_self] at there
    obtain ⟨rest', rfl⟩ := List.head?_eq_some_iff.mp (List.head?_eq_getElem? ▸ there)
    exact ⟨rest', by simp⟩

/-! ## Texts of lists -/

theorem join_map_flatMap (text : β → String) (f : α → List β) (xs : List α) :
    String.join ((xs.flatMap f).map text) =
      String.join (xs.map fun x => String.join ((f x).map text)) := by
  induction xs with
  | nil => rfl
  | cons x xs ih => simp [String.join_append, ih]

end TextAdventure
