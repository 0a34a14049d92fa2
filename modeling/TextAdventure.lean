import TextAdventure.Main
import TextAdventure.Interpreter.Scripted
import TextAdventure.Story.Draft
import TextAdventure.Proofs.AllTargets
import TextAdventure.Proofs.InSight
import TextAdventure.Proofs.KeptReferences
import TextAdventure.Proofs.Trial
import TextAdventure.Proofs.Validity
import TextAdventure.Proofs.NothingLeft
import TextAdventure.Proofs.Remembering
import TextAdventure.Proofs.Recalling
import TextAdventure.Proofs.Joining
import TextAdventure.Proofs.Repetition
import TextAdventure.Proofs.Refusals
import TextAdventure.Proofs.Loading
import TextAdventure.Proofs.GuardedLines
import TextAdventure.Proofs.Tracing
import TextAdventure.Proofs.Reachability
import TextAdventure.Proofs.Sifting
import TextAdventure.Proofs.Verdicts
import TextAdventure.Proofs.Choosing
import TextAdventure.Proofs.PhraseCandidates
import TextAdventure.Proofs.Pronouns
import TextAdventure.Proofs.Inheritance
import TextAdventure.Proofs.StepLimit
import TextAdventure.Proofs.Origins
import TextAdventure.Proofs.Passage
import TextAdventure.Proofs.Layouts
import TextAdventure.Proofs.Placeholders
import TextAdventure.Proofs.Rescanning
import TextAdventure.Proofs.Watching
import TextAdventure.Proofs.TypedLiterals
import TextAdventure.Proofs.TrailingData
import TextAdventure.Proofs.Drawing
import TextAdventure.Proofs.WellDrafted
import TextAdventure.Proofs.DeclaredForms
