/-!
# The log

Remarks about a command for whoever runs the story.  The player does not see them and nothing in the
course of a command depends on them.  There are two levels of them; finer remarks, for whoever looks
for a fault in the interpreter itself, are not kept.
-/

namespace TextAdventure

/-- How much a remark matters. -/
inductive LogLevel where
  | info
  | warning
deriving DecidableEq, Repr

/-- A remark. -/
structure LogRecord where
  level : LogLevel
  text : String
deriving DecidableEq, Repr

/-- The remark that something happened. -/
def LogRecord.info (text : String) : LogRecord := ⟨.info, text⟩

/-- The remark that something is not as it should be. -/
def LogRecord.warning (text : String) : LogRecord := ⟨.warning, text⟩

end TextAdventure
