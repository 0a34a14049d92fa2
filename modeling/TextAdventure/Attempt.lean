/-!
# Attempts

An operation that changes a value in steps can stop half way.  An attempt holds the value as it was
left and the fault that stopped the operation, if one did; both are of interest, since what has been
done up to the fault remains.
-/

namespace TextAdventure

/-- A value that an operation left behind, and the fault that stopped it. -/
structure Attempt (ε α : Type) where
  value : α
  fault : Option ε := none

namespace Attempt

variable {ε α β : Type}

/-- The operation went through. -/
def success (value : α) : Attempt ε α := ⟨value, none⟩

/-- The operation stopped. -/
def failure (value : α) (fault : ε) : Attempt ε α := ⟨value, some fault⟩

theorem fault_success (value : α) : (success value : Attempt ε α).fault = none := rfl

@[simp] theorem fault_failure (value : α) (fault : ε) :
    (failure value fault).fault = some fault := rfl

/-- The value seen as part of another one. -/
def map (f : α → β) (attempt : Attempt ε α) : Attempt ε β := ⟨f attempt.value, attempt.fault⟩

/-- Goes on with a second operation if the first one went through. -/
def andThen (attempt : Attempt ε α) (next : α → Attempt ε α) : Attempt ε α :=
  match attempt.fault with
  | some _ => attempt
  | none => next attempt.value

/-- Changes the members of a list in turn, up to the first that stops the operation; those after it
stay as they were. -/
def each (change : α → Attempt ε α) : List α → Attempt ε (List α)
  | [] => success []
  | x :: rest =>
    match change x with
    | ⟨y, some fault⟩ => failure (y :: rest) fault
    | ⟨y, none⟩ => (each change rest).map (y :: ·)

end Attempt

end TextAdventure
