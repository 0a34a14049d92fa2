import TextAdventure.Interpreter
/-!
# The tracing interpreter

It lets every check pass and, instead of running a body, shows its address; this tells which bodies
a command would run.
-/

namespace TextAdventure

/-- What the tracing interpreter keeps. -/
structure Trail where
  /-- The bodies that were to be run, in order. -/
  executed : List CodeAddress := []
deriving DecidableEq, Repr

/-- The interpreter that only shows what it is asked to run. -/
def Interpreter.tracing (story : Story) : Interpreter story Trail where
  evaluate address context world trail :=
    { result := .ok true
      world
      state := trail
      logged := [.info
        ("evaluate " ++ Text.hexAddress address ++ s!" (verb {context.verb}, parameters " ++
          Text.numberList context.parameters ++ ")")] }
  execute address context world trail :=
    { result := .ok ()
      world
      state := ⟨trail.executed ++ [address]⟩
      said := [.print (Text.bracketed [Text.hexAddress address])]
      logged := [.info
        ("execute " ++ Text.hexAddress address ++ s!" (verb {context.verb}, parameters " ++
          Text.numberList context.parameters ++ s!", instance {context.owner})")] }

end TextAdventure
