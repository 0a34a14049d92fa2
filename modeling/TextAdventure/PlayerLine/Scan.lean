import TextAdventure.CommandError
import TextAdventure.PlayerLine.Token
import TextAdventure.PlayerLine.Words
import TextAdventure.World
/-!
# Scanning a player's line

Words are looked up in the dictionary, and one that is not there ends the scan.  Noise words and
unknown punctuation are dropped.  Literals become instances of the world in the order of the line;
they stay there even if a later word is unknown.
-/

namespace TextAdventure

/-- The word is there to be passed over and has no other use. -/
def Dictionary.isNoise (dictionary : Dictionary) (index : Nat) : Bool :=
  ((dictionary.entry? index).map (·.classes == .noise)).getD false

/-- A literal as a word of the player. -/
def PlayerWord.ofLiteral {story : Story} (world : World story) (literal : Literal) :
    PlayerWord × World story :=
  let (id, world) := world.createLiteral literal
  (.value literal id, world)

/-- The words of a list of tokens.  The world is given back in every case. -/
def scanTokens {story : Story} (world : World story) :
    List Token → Except CommandError (List PlayerWord) × World story
  | [] => (.ok [], world)
  | .word text :: rest =>
    match story.dictionary.lookup text with
    | none => (.error (.unknownWord text), world)
    | some entry =>
      let (words, world) := scanTokens world rest
      (if story.dictionary.isNoise entry then words
        else words.map (.known entry text :: ·), world)
  | .punctuation c :: rest =>
    let text := String.singleton c
    let (words, world) := scanTokens world rest
    match story.dictionary.lookup text with
    | none => (words, world)
    | some entry => (words.map (.known entry text :: ·), world)
  | .integer value :: rest =>
    let (word, world) := PlayerWord.ofLiteral world (.integer value)
    let (words, world) := scanTokens world rest
    (words.map (word :: ·), world)
  | .quoted text :: rest =>
    let (word, world) := PlayerWord.ofLiteral world (.string text)
    let (words, world) := scanTokens world rest
    (words.map (word :: ·), world)

/-- The words of a line. -/
def scan {story : Story} (world : World story) (line : String) :
    Except CommandError (List PlayerWord) × World story :=
  scanTokens world (Token.ofChars line.toList)

end TextAdventure
