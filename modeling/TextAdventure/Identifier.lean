/-!
# Numbers that name things

Classes and instances are numbered from 1; 0 stands for none.  Words carry codes, which verbs,
directions and prepositions are told apart by, and pieces of compiled code have addresses.
-/

namespace TextAdventure

/-- The number of an instance: an ordinary one of the story, or after those a literal that the
player typed.  0 is no instance. -/
abbrev InstanceId : Type := Nat

/-- The number of a class; 0 is no class. -/
abbrev ClassId : Type := Nat

/-- The code of a word, which synonyms share. -/
abbrev WordCode : Type := Nat

/-- Where a piece of compiled code, an expression or statements, lies. -/
abbrev CodeAddress : Type := Nat

/-- The number of an attribute. -/
abbrev AttributeId : Type := Nat

/-- The entry of a table for a number counted from 1. -/
def entryAt {α : Type} (entries : List α) (number : Nat) : Option α :=
  match number with
  | 0 => none
  | index + 1 => entries[index]?

@[simp] theorem entryAt_zero {α : Type} (entries : List α) : entryAt entries 0 = none := rfl

@[simp] theorem entryAt_succ {α : Type} (entries : List α) (index : Nat) :
    entryAt entries (index + 1) = entries[index]? := rfl

theorem entryAt_eq_some {α : Type} {entries : List α} {number : Nat} {entry : α} :
    entryAt entries number = some entry ↔
      ∃ index, number = index + 1 ∧ entries[index]? = some entry := by
  cases number with
  | zero => simp [entryAt]
  | succ index => simp [entryAt]

/-- Only a number of the table has an entry. -/
theorem bounds_of_entryAt {α : Type} {entries : List α} {number : Nat} {entry : α}
    (found : entryAt entries number = some entry) : number ≠ 0 ∧ number ≤ entries.length := by
  obtain ⟨index, rfl, there⟩ := entryAt_eq_some.mp found
  exact ⟨Nat.succ_ne_zero index, (List.getElem?_eq_some_iff.mp there).1⟩

/-- What a table holds it holds with more entries behind. -/
theorem entryAt_append {α : Type} {entries : List α} {number : Nat} {entry : α}
    (found : entryAt entries number = some entry) (more : List α) :
    entryAt (entries ++ more) number = some entry := by
  obtain ⟨index, rfl, there⟩ := entryAt_eq_some.mp found
  rw [entryAt_succ, List.getElem?_append_left (List.getElem?_eq_some_iff.mp there).1, there]

theorem entryAt_inj {α : Type} {entries : List α} (distinct : entries.Nodup) {a b : Nat} {x : α}
    (at_a : entryAt entries a = some x) (at_b : entryAt entries b = some x) : a = b := by
  obtain ⟨i, rfl, there⟩ := entryAt_eq_some.mp at_a
  obtain ⟨j, rfl, there'⟩ := entryAt_eq_some.mp at_b
  have inside := (List.getElem?_eq_some_iff.mp there).1
  rw [(List.getElem?_inj inside distinct).mp (there.trans there'.symm)]

/-- A table with the entry for a number counted from 1 changed, if there is one. -/
def updateAt {α : Type} (entries : List α) (number : Nat) (change : α → α) : List α :=
  match number with
  | 0 => entries
  | index + 1 => entries.modify index change

@[simp] theorem length_updateAt {α : Type} (entries : List α) (number : Nat) (change : α → α) :
    (updateAt entries number change).length = entries.length := by
  cases number <;> simp [updateAt]

theorem entryAt_updateAt {α : Type} (entries : List α) (number : Nat) (change : α → α) :
    entryAt (updateAt entries number change) number = (entryAt entries number).map change := by
  cases number <;> simp [updateAt]

theorem entryAt_updateAt_of_ne {α : Type} (entries : List α) {number other : Nat}
    (change : α → α) (ne : other ≠ number) :
    entryAt (updateAt entries number change) other = entryAt entries other := by
  cases number with
  | zero => rfl
  | succ index =>
    cases other with
    | zero => rfl
    | succ place =>
      have differ : index ≠ place := fun same => ne (congrArg Nat.succ same.symm)
      rw [updateAt, entryAt_succ, List.getElem?_modify_ne _ _ differ, entryAt_succ]

/-- A value filed under a key: the value of a key that is there is replaced where it stands, and a
new key comes last. -/
def put {κ ν : Type} [BEq κ] (key : κ) (value : ν) : List (κ × ν) → List (κ × ν)
  | [] => [(key, value)]
  | entry :: rest =>
    if entry.1 == key then (entry.1, value) :: rest else entry :: put key value rest

end TextAdventure
