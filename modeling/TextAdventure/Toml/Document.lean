import TextAdventure.Toml.Scalar
import TextAdventure.Toml.Text
/-!
# TOML documents

A document is read line by line.  A header opens a table, to which the entries below it are added;
before the first header entries go to the document itself.
-/

namespace TextAdventure.Toml

/-! ## Values -/

/-- The rest of an array, items with commas between them and perhaps one after the last. -/
def arrayItems (item : Reader Value) : Nat → Reader (List Value)
  | 0, _ => none
  | items + 1, cs =>
    match skipFiller cs with
    | ']' :: rest => some ([], rest)
    | cs => do
      let (value, rest) ← item cs
      match skipFiller rest with
      | ',' :: rest =>
        let (values, rest) ← arrayItems item items rest
        return (value :: values, rest)
      | ']' :: rest => return ([value], rest)
      | _ => none

/-- A key with its value. -/
def keyValue (value : Reader Value) (cs : List Char) :
    Option (((List String × String) × Value) × List Char) := do
  let (path, rest) ← keyPath cs
  match rest with
  | '=' :: rest =>
    let (v, rest) ← value (skipBlanks rest)
    return ((path, v), rest)
  | _ => none

/-- The rest of a table in braces, added to the entries before it. -/
def braceEntries (value : Reader Value) (entries : Entries) : Nat → Reader Entries
  | 0, _ => none
  | items + 1, cs => do
    let (((path, key), v), rest) ← keyValue value cs
    let entries ← entries.insert path key v
    match skipBlanks rest with
    | ',' :: rest => braceEntries value entries items rest
    | '}' :: rest => return (entries, rest)
    | _ => none

/-- A table in braces, from after the first brace on. -/
def braceTable (value : Reader Value) (cs : List Char) : Option (Value × List Char) :=
  match skipBlanks cs with
  | '}' :: rest => some (.table .braces [], rest)
  | cs => (braceEntries value [] cs.length cs).map fun read => (.table .braces read.1, read.2)

/-- A value that holds at most `depth` arrays and tables inside each other. -/
def value : Nat → Reader Value
  | _, '"' :: rest =>
    (stringValue ('"' :: rest)).map fun read => (.string read.1, read.2)
  | _, '\'' :: rest =>
    (stringValue ('\'' :: rest)).map fun read => (.string read.1, read.2)
  | depth + 1, '[' :: rest =>
    (arrayItems (value depth) (rest.length + 1) rest).map fun read => (.array read.1, read.2)
  | depth + 1, '{' :: rest => braceTable (value depth) rest
  | _, cs => scalarValue cs

/-! ## Lines -/

/-- A document that has been read up to some line. -/
structure Document where
  entries : Entries := []
  /-- The path of the table that entries are added to. -/
  current : List String := []

namespace Document

/-- Adds an entry to the current table. -/
def addEntry (document : Document) (path : List String) (key : String) (v : Value) :
    Option Document := do
  let entries ← document.entries.within false
    (fun _ inner => Entries.insert path key v inner) .header document.current
  return { document with entries }

/-- The key of a header, from after its opening bracket on. -/
def headerKey (cs : List Char) : Option ((List String × String) × List Char) := do
  let (path, rest) ← keyPath cs
  match rest with
  | ']' :: rest => return (path, rest)
  | _ => none

/-- One line that is not blank; the rest begins after its last bracket or value. -/
def line (document : Document) : List Char → Option (Document × List Char)
  | '[' :: '[' :: rest => do
    let ((path, key), rest) ← headerKey rest
    match rest with
    | ']' :: rest =>
      return (⟨← document.entries.openElement path key, path ++ [key]⟩, rest)
    | _ => none
  | '[' :: rest => do
    let ((path, key), rest) ← headerKey rest
    return (⟨← document.entries.openTable path key, path ++ [key]⟩, rest)
  | cs => do
    let (((path, key), v), rest) ← keyValue (value nestingLimit) cs
    return (← document.addEntry path key v, rest)

/-- The line is blank or a comment. -/
def isBlankLine (cs : List Char) : Bool :=
  match skipBlanks cs with
  | [] => true
  | c :: _ => c == '#' || c == '\n' || c == '\r'

/-- One line, blank or not, up to its trailer. -/
def anyLine (document : Document) (cs : List Char) : Option (Document × List Char) :=
  if isBlankLine cs then some (document, cs) else document.line (skipBlanks cs)

/-- At most `count` lines. -/
def lines (document : Document) : Nat → List Char → Option Document
  | _, [] => some document
  | 0, _ => none
  | count + 1, cs => do
    let (document, rest) ← document.anyLine cs
    document.lines count (← lineTrailer rest)

end Document

/-- The entries of a document, which may begin with a byte order mark. -/
def parse (source : String) : Option Entries :=
  let cs := match source.toList with
    | '\uFEFF' :: rest => rest
    | cs => cs
  (({} : Document).lines cs.length cs).map (·.entries)

end TextAdventure.Toml
