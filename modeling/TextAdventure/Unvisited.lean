/-!
# Unvisited numbers

A walk over a graph whose nodes are numbers below a bound ends because every step leaves fewer of
them unvisited.
-/

namespace TextAdventure

/-- How many of the numbers below a bound have not been visited. -/
def unvisited (bound : Nat) (visited : List Nat) : Nat :=
  ((List.range bound).filter fun node => !visited.contains node).length

/-- A visit to a new node leaves fewer. -/
theorem unvisited_cons_lt {bound node : Nat} {visited : List Nat} (inside : node < bound)
    (fresh : ¬ visited.contains node = true) :
    unvisited bound (node :: visited) < unvisited bound visited := by
  -- what stays unvisited is what was unvisited before, without the node
  have narrowed : (List.range bound).filter (fun n => !(node :: visited).contains n) =
      ((List.range bound).filter fun n => !visited.contains n).filter fun n => n != node := by
    rw [List.filter_filter]
    congr 1
    funext n
    simp only [List.contains_cons, Bool.not_or, bne]
  rw [unvisited, unvisited, narrowed, List.length_filter_lt_length_iff_exists]
  refine ⟨node, ?_, by simp⟩
  simp only [List.mem_filter, List.mem_range]
  exact ⟨inside, by simpa using fresh⟩

end TextAdventure
