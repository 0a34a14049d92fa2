import TextAdventure.Image
import TextAdventure.Identifier
/-!
# The header of a story image

The first words of an image say where its tables lie, how many classes and instances there are and
which numbers the classes have that every story defines.
-/

namespace TextAdventure

/-- The numbers of the classes that every story defines. -/
structure PredefinedClasses where
  entity : ClassId := 0
  thing : ClassId := 0
  object : ClassId := 0
  location : ClassId := 0
  actor : ClassId := 0
  literal : ClassId := 0
  integer : ClassId := 0
  string : ClassId := 0
deriving DecidableEq, Repr

/-- Where the parts of a story lie in its image. -/
structure Header where
  /-- The version of the format, four bytes in one word. -/
  version : UInt32
  /-- The size of the image in words. -/
  size : Nat
  classTable : Nat
  classMax : Nat
  predefined : PredefinedClasses
  instanceTable : Nat
  instanceMax : Nat
  hero : InstanceId
  dictionary : Nat
  grammarTable : Nat
  parameterMapTable : Nat
  verbTable : Nat
  opaqueAttribute : AttributeId
deriving DecidableEq, Repr

namespace Header

/-- Reads the fields of the header but for its size. -/
def ofFields (image : Image) (size : Nat) : Except LoadError Header := do
  let number := fun (address : Nat) => (·.toNat) <$> image.word address
  return {
    version := ← image.word 1
    size := size
    classTable := ← number 3
    classMax := ← number 4
    predefined := {
      entity := ← number 5
      thing := ← number 6
      object := ← number 7
      location := ← number 8
      actor := ← number 9
      literal := ← number 10
      integer := ← number 11
      string := ← number 12 }
    instanceTable := ← number 13
    instanceMax := ← number 14
    hero := ← number 15
    dictionary := ← number 16
    grammarTable := ← number 17
    parameterMapTable := ← number 18
    verbTable := ← number 19
    opaqueAttribute := ← number 20 }

/-- Reads the header, after making sure that the image is as long as it says. -/
def ofImage (image : Image) : Except LoadError Header := do
  let size ← image.word 2
  if image.size < size.toNat then .error (.truncated (size.toNat * 4) (image.size * 4))
  else ofFields image size.toNat

/-- The version as it is shown: three numbers and a letter. -/
def versionText (header : Header) : String :=
  match (Image.bytesOfWord header.version).map (·.toNat) with
  | [major, minor, correction, letter] =>
    s!"{major}.{minor}.{correction}" ++ String.singleton (Char.ofNat letter)
  | _ => ""

/-- The report of a header. -/
def describe (header : Header) : String :=
  let address := Text.hexAddress
  "\nACODE version:            " ++ header.versionText ++
  "\nImage size (words):       " ++ address header.size ++
  "\nClass table address:      " ++ address header.classTable ++ s!" ({header.classMax} classes)" ++
  "\nInstance table address:   " ++ address header.instanceTable ++
    s!" ({header.instanceMax} instances)" ++
  "\nHero:                     " ++ toString header.hero ++
  "\nDictionary address:       " ++ address header.dictionary ++
  "\nSyntax table address:     " ++ address header.grammarTable ++
  "\nParameter map address:    " ++ address header.parameterMapTable ++
  "\nVerb table address:       " ++ address header.verbTable ++
  "\nOpaque attribute:         " ++ toString header.opaqueAttribute ++ "\n"

end Header

end TextAdventure
