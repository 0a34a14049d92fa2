import TextAdventure.Message
import TextAdventure.Scene
import TextAdventure.Toml.Document
/-!
# Configuration

A TOML document can say what is traced in the log and replace message templates:

    [trace]
    sections = true

    [messages]
    no_such = "There is no $1 in sight."

Settings that are not known are ignored, but every key under `messages` must be the name of a kind
of message.
-/

namespace TextAdventure

/-- What can be configured. -/
structure Config where
  tracing : Tracing := {}
  /-- The message templates that are replaced, in the order of the document. -/
  overrides : List (MessageKind × String) := []
deriving DecidableEq, Repr

namespace Config

/-- A truth value. -/
def boolean? : Toml.Value → Option Bool
  | .boolean value => some value
  | _ => none

/-- A setting that may be missing. -/
def setting? {α : Type} (read : Toml.Value → Option α) (usual : α) : Option Toml.Value → Option α
  | none => some usual
  | some value => read value

/-- A truth value that may be missing, and is false then. -/
def flag? (value : Option Toml.Value) : Option Bool := setting? boolean? false value

/-- What is traced: a table, or a list of the two flags in order.  A date is a table of a kind, and
one without flags. -/
def tracing? : Toml.Value → Option Tracing
  | .table _ entries => do
    return ⟨← flag? (entries.lookup "sections"), ← flag? (entries.lookup "parsing")⟩
  | .array items => do
    return ⟨← flag? items[0]?, ← flag? items[1]?⟩
  | .dateTime _ => some {}
  | _ => none

/-- A message template that is replaced. -/
def override? (entry : String × Toml.Value) : Option (MessageKind × String) := do
  let kind ← MessageKind.ofName entry.1
  match entry.2 with
  | .string text => return (kind, text)
  | _ => none

/-- The message templates that are replaced. -/
def overrides? : Toml.Value → Option (List (MessageKind × String))
  | .table _ entries => entries.mapM override?
  | _ => none

/-- The configuration in the entries of a document. -/
def ofEntries (entries : Toml.Entries) : Option Config := do
  let tracing ← setting? tracing? {} (entries.lookup "trace")
  let overrides ← setting? overrides? [] (entries.lookup "messages")
  return { tracing, overrides }

/-- The configuration in a TOML document, if it is one and its settings are what they should be. -/
def ofToml (source : String) : Option Config := (Toml.parse source).bind ofEntries

/-- The message templates of a configuration. -/
def templates (config : Config) : Templates := Templates.ofOverrides config.overrides

end Config

end TextAdventure
