/-!
# Literals

Numbers and quoted texts that the player types.
-/

namespace TextAdventure

/-- A value that the player typed. -/
inductive Literal where
  | integer (value : Int)
  | string (value : String)
deriving DecidableEq, Repr

namespace Literal

/-- The value as the player would type it. -/
def typed : Literal → String
  | .integer value => toString value
  | .string value => "\"" ++ value ++ "\""

/-- The value as it is told to the player. -/
def told : Literal → String
  | .integer value => toString value
  | .string value => value

end Literal

end TextAdventure
