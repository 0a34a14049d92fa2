/-!
# Reading UTF-8

Bytes are read one at a time.  A `Pending` character holds what its bytes so far have given and
which bytes may come next, so a sequence is refused at the first byte that rules it out: the bytes
up to there are one ill-formed piece, and the byte itself is looked at afresh.

`decode` keeps the ill-formed pieces apart, as `none`; `decodeLossy` shows each as one replacement
character, and `decodeStrict` refuses them.
-/

namespace TextAdventure.Text.Utf8

/-- A character of several bytes, not yet complete. -/
structure Pending where
  /-- The bits that have been read. -/
  bits : Nat
  /-- How many bytes still belong to it. -/
  owed : Nat
  /-- The least byte that may come next. -/
  least : Nat
  /-- The greatest byte that may come next. -/
  greatest : Nat
deriving DecidableEq, Repr

/-- What a byte leads to. -/
inductive Step where
  | complete (c : Char)
  | pending (p : Pending)
  | illFormed

/-- The first byte of a character. -/
def first (byte : Nat) : Step :=
  if byte ≤ 0x7F then .complete (Char.ofNat byte)
  else if 0xC2 ≤ byte ∧ byte ≤ 0xDF then .pending ⟨byte - 0xC0, 1, 0x80, 0xBF⟩
  else if byte = 0xE0 then .pending ⟨0, 2, 0xA0, 0xBF⟩
  else if byte = 0xED then .pending ⟨0xD, 2, 0x80, 0x9F⟩
  else if 0xE1 ≤ byte ∧ byte ≤ 0xEF then .pending ⟨byte - 0xE0, 2, 0x80, 0xBF⟩
  else if byte = 0xF0 then .pending ⟨0, 3, 0x90, 0xBF⟩
  else if 0xF1 ≤ byte ∧ byte ≤ 0xF3 then .pending ⟨byte - 0xF0, 3, 0x80, 0xBF⟩
  else if byte = 0xF4 then .pending ⟨4, 3, 0x80, 0x8F⟩
  else .illFormed

/-- A further byte of a character. -/
def next (p : Pending) (byte : Nat) : Step :=
  if p.least ≤ byte ∧ byte ≤ p.greatest then
    let bits := p.bits * 64 + (byte - 0x80)
    if p.owed ≤ 1 then .complete (Char.ofNat bits) else .pending ⟨bits, p.owed - 1, 0x80, 0xBF⟩
  else .illFormed

/-- The characters of a byte sequence that goes on with a pending character, if there is one;
`none` stands for an ill-formed piece. -/
def decodeFrom : Option Pending → List UInt8 → List (Option Char)
  | none, [] => []
  | some _, [] => [none]
  | none, byte :: rest =>
    match first byte.toNat with
    | .complete c => some c :: decodeFrom none rest
    | .pending p => decodeFrom (some p) rest
    | .illFormed => none :: decodeFrom none rest
  | some p, byte :: rest =>
    match next p byte.toNat with
    | .complete c => some c :: decodeFrom none rest
    | .pending q => decodeFrom (some q) rest
    | .illFormed =>
      none ::
        match first byte.toNat with
        | .complete c => some c :: decodeFrom none rest
        | .pending q => decodeFrom (some q) rest
        | .illFormed => none :: decodeFrom none rest

/-- The characters of a byte sequence, `none` for each ill-formed piece. -/
def decode (bytes : List UInt8) : List (Option Char) := decodeFrom none bytes

/-- The text of a byte sequence, with `U+FFFD` for each ill-formed piece. -/
def decodeLossy (bytes : List UInt8) : String :=
  String.ofList ((decode bytes).map (·.getD '\uFFFD'))

/-- The text of a well-formed byte sequence. -/
def decodeStrict (bytes : List UInt8) : Option String :=
  ((decode bytes).mapM id).map String.ofList

end TextAdventure.Text.Utf8
