import TextAdventure.CommandLine.Program
/-!
# The command line

One executable holds both programs; its first argument says which of them runs, and the others are
the arguments of that program.  Here files and standard input are read and the answers are printed.
-/

namespace TextAdventure

/-- The bytes of a file, if it can be read. -/
def readFile? (name : String) : IO (Option (List UInt8)) := do
  try
    return some (← IO.FS.readBinFile name).toList
  catch _ => return none

/-- The files that any of the arguments names. -/
def readArguments (args : List String) : IO Files := do
  let contents ← args.mapM fun name => return (name, ← readFile? name)
  return fun name => (contents.lookup name).join

/-- Prints a text and shows it at once. -/
def printNow (text : String) : IO Unit := do
  IO.print text
  (← IO.getStdout).flush

/-- Reads lines and prints the responses to them until the input ends. -/
partial def converse {story : Story} {σ : Type} (session : Session story σ) : IO Unit := do
  let line ← (← IO.getStdin).getLine
  if line.isEmpty then IO.println ""
  else
    let (response, session) := session.respond (chompLine line.toList)
    printNow response
    converse session

/-- Prints what a program that needs no input has to say. -/
def conclude (result : ProgramResult) : IO UInt32 := do
  IO.print result.output
  return result.status.toUInt32

end TextAdventure

open TextAdventure in
/-- Runs `arun` or `acode-dump` with the remaining arguments. -/
def main (args : List String) : IO UInt32 := do
  let files ← readArguments args
  match args with
  | "acode-dump" :: _ => conclude (dumpProgram files args)
  | "arun" :: storyName :: _ =>
    match playArguments files args storyName with
    | none => return 1
    | some (story, config) =>
      printNow firstPrompt
      converse (Session.tracing story config)
      return 0
  | _ => conclude (playProgram files "" args)
