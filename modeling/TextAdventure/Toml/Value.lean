/-!
# TOML values

The values of a TOML document, tables with their entries in the order of the file.  Numbers with a
fraction, dates and times are kept as they are written, since no setting needs more of them.

A table remembers how it came about, because that decides what may still be added to it.
-/

namespace TextAdventure.Toml

/-- How a table came about. -/
inductive Origin where
  /-- It was written in braces and is closed. -/
  | braces
  /-- It has a header of its own. -/
  | header
  /-- The header of a table inside it implies it. -/
  | implied
  /-- The dotted key of an entry inside it implies it. -/
  | dotted
deriving DecidableEq, Repr

/-- A value. -/
inductive Value where
  | string (text : String)
  | integer (value : Int)
  | float (written : String)
  | boolean (value : Bool)
  | dateTime (written : String)
  | array (items : List Value)
  | table (origin : Origin) (entries : List (String × Value))
  /-- The tables under a header in double brackets, in order. -/
  | tables (elements : List (List (String × Value)))
deriving Repr

/-- The entries of a table. -/
abbrev Entries : Type := List (String × Value)

/-- Reads something from the beginning of a text and gives the rest of it. -/
abbrev Reader (α : Type) : Type := List Char → Option (α × List Char)

/-! ## Adding entries -/

/-- The entries with the value of a key replaced. -/
def Entries.replace (key : String) (value : Value) (entries : Entries) : Entries :=
  entries.map fun entry => if entry.1 == key then (key, value) else entry

/-- Changes the entries of the table that a path leads to.  A table that is missing on the way is
created, implied by dots or by a header; with double brackets the way goes through the last table.
Dots do not lead into a table that has a header, and nothing leads into one in braces. -/
def Entries.within (dots : Bool) (change : Origin → Entries → Option Entries) :
    Origin → List String → Entries → Option Entries
  | origin, [], entries => change origin entries
  | _, key :: path, entries =>
    match entries.lookup key with
    | none =>
      let origin := if dots then Origin.dotted else .implied
      (within dots change origin path []).map fun inner => entries ++ [(key, .table origin inner)]
    | some (.table origin inner) =>
      if origin = .braces || dots && origin = .header then none
      else
        (within dots change origin path inner).map fun inner =>
          entries.replace key (.table origin inner)
    | some (.tables elements) =>
      match elements.reverse with
      | [] => none
      | last :: before =>
        (within dots change .header path last).map fun last =>
          entries.replace key (.tables (before.reverse ++ [last]))
    | some _ => none

/-- Adds an entry whose key has the path `path` before it.  The key must be new, and a table that is
reached by dots must have come about by dots. -/
def Entries.insert (path : List String) (key : String) (value : Value) (entries : Entries) :
    Option Entries :=
  entries.within true (fun origin inner =>
    if (inner.lookup key).isSome || !path.isEmpty && origin != .dotted then none
    else some (inner ++ [(key, value)])) .header path

/-- Opens the table of a header.  It must be new or so far only implied by the headers of tables
inside it. -/
def Entries.openTable (path : List String) (key : String) (entries : Entries) : Option Entries :=
  entries.within false (fun _ inner =>
    match inner.lookup key with
    | none => some (inner ++ [(key, .table .header [])])
    | some (.table .implied contents) => some (inner.replace key (.table .header contents))
    | some _ => none) .header path

/-- Opens one more table of a header in double brackets. -/
def Entries.openElement (path : List String) (key : String) (entries : Entries) : Option Entries :=
  entries.within false (fun _ inner =>
    match inner.lookup key with
    | none => some (inner ++ [(key, .tables [[]])])
    | some (.tables elements) => some (inner.replace key (.tables (elements ++ [[]])))
    | some _ => none) .header path

end TextAdventure.Toml
