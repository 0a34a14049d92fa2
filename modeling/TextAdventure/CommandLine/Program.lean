import TextAdventure.CommandLine.Session
import TextAdventure.Story.GrammarGraph
import TextAdventure.Story.Summary
/-!
# The programs

`arun` plays a story with the tracing interpreter and `acode-dump` prints what is in one.  A program
is a function of its arguments, the files that it can read and its standard input; the answer is
what it prints and its exit status.
-/

namespace TextAdventure

/-- What a program prints, and its exit status. -/
structure ProgramResult where
  output : String
  status : Nat
deriving DecidableEq, Repr

/-- The files that a program can read, by name. -/
abbrev Files : Type := String → Option (List UInt8)

namespace ProgramResult

/-- The program did what it was asked. -/
def success (output : String) : ProgramResult := ⟨output, 0⟩

/-- The program gave up after it had printed something. -/
def failure (output : String) : ProgramResult := ⟨output, 1⟩

end ProgramResult

/-! ## Input lines -/

/-- The lines of a text, each with the line feed that ends it; the last one need not be ended. -/
def splitLines : List Char → List (List Char)
  | [] => []
  | c :: rest =>
    if c = '\n' then [c] :: splitLines rest
    else
      match splitLines rest with
      | [] => [[c]]
      | line :: lines => (c :: line) :: lines

/-- A line without the line feed that ends it and a carriage return before that. -/
def chompLine (line : List Char) : String :=
  match line.reverse with
  | '\n' :: '\r' :: before => String.ofList before.reverse
  | '\n' :: before => String.ofList before.reverse
  | _ => String.ofList line

/-- The lines of standard input. -/
def inputLines (input : String) : List String := (splitLines input.toList).map chompLine

/-! ## arun -/

/-- How to call `arun`. -/
def playUsage (program : String) : String :=
  "arun - command interpreter for compiled Alan stories\n\n" ++
  s!"Usage: {program} <story.a3c> [--config file.toml]\n\n" ++
  "Reads player commands from standard input and shows which verb\n" ++
  "bodies each command would run. Set RUST_LOG=info to see the trace.\n"

/-- The configuration that the arguments name, if it can be read. -/
def argumentConfig (files : Files) (args : List String) : Option Config :=
  match args.dropWhile (· != "--config") with
  | [] => some {}
  | [_] => none
  | _ :: name :: _ => do Config.ofToml (← Text.Utf8.decodeStrict (← files name))

/-- The story and configuration that the arguments of `arun` name, if both can be read. -/
def playArguments (files : Files) (args : List String) (storyName : String) :
    Option (Story × Config) := do
  let config ← argumentConfig files args
  let bytes ← files storyName
  let story ← (Story.ofBytes bytes).toOption
  return (story, config)

/-- What is printed before the first line is read. -/
def firstPrompt : String := "> "

/-- What is printed for a sequence of lines. -/
def playLines {story : Story} {σ : Type} (session : Session story σ) : List String → String
  | [] => ""
  | line :: rest =>
    let (response, session) := session.respond line
    response ++ playLines session rest

/-- The program `arun`; the first argument is its own name. -/
def playProgram (files : Files) (input : String) (args : List String) : ProgramResult :=
  match args with
  | [] => .failure ""
  | [program] => .success (playUsage program)
  | _ :: storyName :: _ =>
    match playArguments files args storyName with
    | none => .failure ""
    | some (story, config) =>
      .success (firstPrompt ++ playLines (Session.tracing story config) (inputLines input) ++ "\n")

/-! ## acode-dump -/

/-- The program `acode-dump`; the first argument is its own name. -/
def dumpProgram (files : Files) (args : List String) : ProgramResult :=
  match args with
  | [] => .failure ""
  | [program] => .success s!"Usage: {program} <story.a3c>\n"
  | _ :: storyName :: _ =>
    let opened : Option (Image × Header) := do
      let image ← (Image.ofBytes (← files storyName)).toOption
      return (image, ← (Header.ofImage image).toOption)
    match opened with
    | none => .failure ""
    | some (image, header) =>
      let shown := header.describe ++ "\n"
      match image.story header with
      | .error _ => .failure shown
      | .ok story =>
        .success (shown ++ story.dictionary.describe ++ "\n" ++ story.describe ++ "\n")

end TextAdventure
