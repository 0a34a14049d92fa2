/-!
# Substitution

Every occurrence of a pattern in a text is replaced, from left to right, each search going on after
the occurrence before it.  An empty pattern occurs nowhere.
-/

namespace TextAdventure.Text

/-- Replaces the occurrences of `pattern` after skipping the first `skip` characters. -/
def replaceFrom (pattern replacement : List Char) : Nat → List Char → List Char
  | _, [] => []
  | skip + 1, _ :: rest => replaceFrom pattern replacement skip rest
  | 0, c :: rest =>
    if !pattern.isEmpty && pattern.isPrefixOf (c :: rest) then
      replacement ++ replaceFrom pattern replacement (pattern.length - 1) rest
    else c :: replaceFrom pattern replacement 0 rest

/-- Replaces every occurrence of `pattern` in `text`. -/
def replaceAll (pattern replacement text : String) : String :=
  String.ofList (replaceFrom pattern.toList replacement.toList 0 text.toList)

end TextAdventure.Text
