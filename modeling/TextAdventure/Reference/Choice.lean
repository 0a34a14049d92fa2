import TextAdventure.World
/-!
# Choosing between candidates

The candidates of a reference are split into those that the hero can perceive and the distant ones.
What happens depends only on whether there are none, one or many of each:

    present   distant   ordinary slot        omnipotent slot
    none      none      no such thing        no such thing
    none      one       no such thing        the distant one
    none      many      no such thing        which of the distant ones
    one       any       the present one      the present one
    many      any       which of the         which of the
                        present ones         present ones

Distant candidates are never listed beside present ones, so the player learns nothing about what is
out of sight.
-/

namespace TextAdventure

/-- None, one or more of something. -/
inductive Count where
  | none
  | one
  | many
deriving DecidableEq, Repr

/-- The count of a number of things. -/
def Count.ofSize : Nat → Count
  | 0 => .none
  | 1 => .one
  | _ => .many

/-- What to do about the candidates of a reference. -/
inductive Decision where
  | noSuch
  | present
  | distant
  | whichPresent
  | whichDistant
deriving DecidableEq, Repr

/-- The decision for the counts of present and distant candidates. -/
def Decision.ofCounts : Count → Count → Bool → Decision
  | .none, .none, _ => .noSuch
  | .none, _, false => .noSuch
  | .none, .one, true => .distant
  | .none, .many, true => .whichDistant
  | .one, _, _ => .present
  | .many, _, _ => .whichPresent

/-- What becomes of a reference. -/
inductive Choice where
  | settled (id : InstanceId)
  | noSuch
  | whichOne (candidates : List InstanceId)
deriving DecidableEq, Repr

namespace Choice

/-- The only member of a list that has just one. -/
def only : List InstanceId → Choice
  | id :: _ => .settled id
  | [] => .noSuch

/-- Chooses between candidates that are present and distant. -/
def between (present distant : List InstanceId) (omnipotent : Bool) : Choice :=
  match Decision.ofCounts (.ofSize present.length) (.ofSize distant.length) omnipotent with
  | .noSuch => .noSuch
  | .present => only present
  | .distant => only distant
  | .whichPresent => .whichOne present
  | .whichDistant => .whichOne distant

/-- Chooses between the candidates of a reference. -/
def ofCandidates {story : Story} (world : World story) (candidates : List InstanceId)
    (omnipotent : Bool) : Choice :=
  let (present, distant) := candidates.partition world.reachable
  between present distant omnipotent

end Choice

end TextAdventure
