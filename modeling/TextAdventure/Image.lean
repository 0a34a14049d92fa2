import TextAdventure.Text.Columns
import TextAdventure.Text.Utf8
/-!
# Story images

A compiled story is a sequence of 32-bit words, the most significant byte first; an address is the
number of a word.  Besides single words and fixed-size records an image holds tables, which are rows
of one width up to an end marker, and texts, which are a byte count followed by the bytes, four to a
word.  The address 0 is the empty table and the empty text.
-/

namespace TextAdventure

/-- Why a story cannot be loaded. -/
inductive LoadError where
  /-- The image does not begin with the tag of a story. -/
  | badTag (tag : String)
  /-- The image ends too early; sizes in bytes. -/
  | truncated (needed size : Nat)
  /-- An address lies outside the image; the size in words. -/
  | addressOutOfRange (address size : Nat)
  /-- A table runs to the end of the image. -/
  | missingTerminator (table : String) (address : Nat)
  /-- A verb body has a qualifier that does not exist. -/
  | unknownQualifier (word : Nat)
deriving DecidableEq, Repr

/-- What the user is told. -/
def LoadError.message : LoadError → String
  | .badTag tag => s!"not a story image, tag was '{tag}'"
  | .truncated needed size => s!"image truncated: need {needed} bytes, have {size}"
  | .addressOutOfRange address size =>
    "address " ++ Text.hexAddress address ++ " outside image of " ++ Text.hexAddress size ++
      " words"
  | .missingTerminator table address =>
    table ++ " table at " ++ Text.hexAddress address ++ " has no end marker"
  | .unknownQualifier word => s!"unknown verb qualifier {word}"

/-- The words of a compiled story. -/
structure Image where
  words : Array UInt32
deriving DecidableEq, Repr

namespace Image

/-- Marks the end of a table. -/
def endMarker : UInt32 := 0xFFFFFFFF

/-- The four bytes that a story image begins with. -/
def tag : List UInt8 := "ALAN".toUTF8.toList

/-- How many words the header of a story takes. -/
def headerSize : Nat := 21

/-- The word of four bytes, the most significant first. -/
def wordOfBytes (a b c d : UInt8) : UInt32 :=
  UInt32.ofNat (((a.toNat * 256 + b.toNat) * 256 + c.toNat) * 256 + d.toNat)

/-- The four bytes of a word, the most significant first. -/
def bytesOfWord (word : UInt32) : List UInt8 :=
  [UInt8.ofNat (word.toNat / 0x1000000), UInt8.ofNat (word.toNat / 0x10000),
   UInt8.ofNat (word.toNat / 0x100), UInt8.ofNat word.toNat]

/-- The whole words in a byte sequence; up to three bytes at its end are left over. -/
def wordsOfBytes : List UInt8 → List UInt32
  | a :: b :: c :: d :: rest => wordOfBytes a b c d :: wordsOfBytes rest
  | _ => []

/-- The bytes of a word sequence. -/
def bytesOfWords (words : List UInt32) : List UInt8 := words.flatMap bytesOfWord

/-- The image in a story file, which must have room for a header and begin with the tag. -/
def ofBytes (bytes : List UInt8) : Except LoadError Image :=
  if bytes.length < headerSize * 4 then .error (.truncated (headerSize * 4) bytes.length)
  else if bytes.take 4 ≠ tag then .error (.badTag (Text.Utf8.decodeLossy (bytes.take 4)))
  else .ok ⟨(wordsOfBytes bytes).toArray⟩

/-- How many words there are. -/
def size (image : Image) : Nat := image.words.size

/-- The word at an address. -/
def word (image : Image) (address : Nat) : Except LoadError UInt32 :=
  match image.words[address]? with
  | some w => .ok w
  | none => .error (.addressOutOfRange address image.size)

/-- `length` words from an address on. -/
def record (image : Image) (address length : Nat) : Except LoadError (Vector UInt32 length) :=
  if h : address + length ≤ image.words.size then
    .ok ⟨image.words.extract address (address + length), by simp; omega⟩
  else .error (.addressOutOfRange (address + length) image.size)

/-- The rows of a table that began at `start`, from `current` up to the end marker.  Empty rows
never come to an end marker. -/
def rowsFrom (image : Image) (table : String) (start width current : Nat) :
    Except LoadError (List (Vector UInt32 width)) :=
  if _ : current < image.words.size then
    if image.words[current] = endMarker then .ok []
    else if _ : width = 0 then .error (.missingTerminator table start)
    else do
      let row ← image.record current width
      let rows ← rowsFrom image table start width (current + width)
      return row :: rows
  else .error (.missingTerminator table start)
termination_by image.words.size - current
decreasing_by omega

/-- The rows of the table at an address.  The name of the table is for the error message. -/
def table (image : Image) (address width : Nat) (name : String) :
    Except LoadError (List (Vector UInt32 width)) :=
  if address = 0 then .ok [] else image.rowsFrom name address width address

/-- The text at an address. -/
def text (image : Image) (address : Nat) : Except LoadError String :=
  if address = 0 then .ok ""
  else do
    let length ← image.word address
    let packed ← image.record (address + 1) ((length.toNat + 3) / 4)
    return Text.Utf8.decodeLossy ((bytesOfWords packed.toList).take length.toNat)

end Image

end TextAdventure
