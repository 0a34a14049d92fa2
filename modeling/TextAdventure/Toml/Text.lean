import TextAdventure.Toml.Value
/-!
# TOML text

Blanks, comments, line ends, keys and the four kinds of string.  Of the control characters only the
tab may stand in a comment or a string, and a carriage return only before a line feed.
-/

namespace TextAdventure.Toml

/-- A blank within a line. -/
def isBlank (c : Char) : Bool := c == ' ' || c == '\t'

/-- A character that comments and strings may hold. -/
def isTextChar (c : Char) : Bool := c == '\t' || 0x20 ≤ c.toNat && c.toNat != 0x7F

/-- The text without the blanks before it. -/
def skipBlanks (cs : List Char) : List Char := cs.dropWhile isBlank

/-- The text without a comment before it. -/
def skipComment : List Char → List Char
  | '#' :: rest => rest.dropWhile isTextChar
  | cs => cs

/-- The end of a line. -/
def lineEnd : Reader Unit
  | '\n' :: rest => some ((), rest)
  | '\r' :: '\n' :: rest => some ((), rest)
  | _ => none

/-- Blanks, a comment and the end of the line or of the document. -/
def lineTrailer (cs : List Char) : Option (List Char) :=
  match skipComment (skipBlanks cs) with
  | [] => some []
  | rest => (lineEnd rest).map (·.2)

/-- The text without the blanks, comments and line ends before it. -/
def skipFiller : List Char → List Char
  | '#' :: rest => skipFiller (rest.dropWhile isTextChar)
  | ' ' :: rest => skipFiller rest
  | '\t' :: rest => skipFiller rest
  | '\n' :: rest => skipFiller rest
  | '\r' :: '\n' :: rest => skipFiller rest
  | cs => cs
termination_by cs => cs.length
decreasing_by
  · have := (List.dropWhile_sublist (l := rest) isTextChar).length_le
    simp only [List.length_cons]
    omega
  all_goals
    simp only [List.length_cons]
    omega

/-- The text without the blanks and line ends before it. -/
def skipBlankLines : List Char → List Char
  | ' ' :: rest => skipBlankLines rest
  | '\t' :: rest => skipBlankLines rest
  | '\n' :: rest => skipBlankLines rest
  | '\r' :: '\n' :: rest => skipBlankLines rest
  | cs => cs

theorem length_skipBlankLines_le (cs : List Char) : (skipBlankLines cs).length ≤ cs.length := by
  fun_induction skipBlankLines cs with
  | case1 rest ih => exact Nat.le_succ_of_le ih
  | case2 rest ih => exact Nat.le_succ_of_le ih
  | case3 rest ih => exact Nat.le_succ_of_le ih
  | case4 rest ih => exact Nat.le_succ_of_le (Nat.le_succ_of_le ih)
  | case5 => exact Nat.le_refl _

/-! ## Strings -/

/-- The value of a hexadecimal digit. -/
def hexDigit? (c : Char) : Option Nat :=
  if c.isDigit then some (c.toNat - '0'.toNat)
  else if 'a' ≤ c && c ≤ 'f' then some (c.toNat - 'a'.toNat + 10)
  else if 'A' ≤ c && c ≤ 'F' then some (c.toNat - 'A'.toNat + 10)
  else none

/-- The character with a code in hexadecimal digits. -/
def scalar (digits : List Char) : Option Char := do
  let values ← digits.mapM hexDigit?
  let code := values.foldl (fun value digit => value * 16 + digit) 0
  if code.isValidChar then some (Char.ofNat code) else none

/-- The character that a letter after a backslash stands for. -/
def escaped? : Char → Option Char
  | 'b' => some '\x08'
  | 't' => some '\t'
  | 'n' => some '\n'
  | 'f' => some '\x0c'
  | 'r' => some '\r'
  | '"' => some '"'
  | '\\' => some '\\'
  | _ => none

/-- The character of an escape, from after the backslash on. -/
def escape : Reader Char
  | 'u' :: rest => (scalar (rest.take 4)).map fun c => (c, rest.drop 4)
  | 'U' :: rest => (scalar (rest.take 8)).map fun c => (c, rest.drop 8)
  | letter :: rest => (escaped? letter).map fun c => (c, rest)
  | [] => none

theorem length_lt_of_escape {cs rest : List Char} {c : Char} (read : escape cs = some (c, rest)) :
    rest.length < cs.length := by
  unfold escape at read
  split at read <;> simp only [Option.map_eq_some_iff, reduceCtorEq] at read
  all_goals
    obtain ⟨_, _, same⟩ := read
    cases same
    simp only [List.length_cons, List.length_drop]
    omega

/-- The rest of a string in double quotes. -/
def basicString : Reader (List Char)
  | '"' :: rest => some ([], rest)
  | '\\' :: rest =>
    match _ : escape rest with
    | none => none
    | some (c, rest) => (basicString rest).map fun read => (c :: read.1, read.2)
  | c :: rest =>
    if isTextChar c then (basicString rest).map fun read => (c :: read.1, read.2) else none
  | [] => none
termination_by cs => cs.length
decreasing_by
  · have := length_lt_of_escape ‹escape _ = some _›
    simp only [List.length_cons]
    omega
  · simp

/-- The rest of a string in single quotes. -/
def literalString : Reader (List Char)
  | '\'' :: rest => some ([], rest)
  | c :: rest =>
    if isTextChar c then (literalString rest).map fun read => (c :: read.1, read.2) else none
  | [] => none

/-- The end of a string of several lines: three quotes, with up to two more before them that belong
to the string. -/
def closing (quote : Char) (cs : List Char) : Option (List Char × List Char) :=
  let quotes := min 5 (cs.takeWhile (· == quote)).length
  if quotes < 3 then none else some (cs.take (quotes - 3), cs.drop quotes)

/-- A backslash that ends a line takes away the line end and all blanks and line ends after it. -/
def continuation (cs : List Char) : Option (List Char) :=
  match lineEnd (skipBlanks cs) with
  | none => none
  | some (_, rest) => some (skipBlankLines rest)

theorem length_le_of_lineEnd {cs rest : List Char} (read : lineEnd cs = some ((), rest)) :
    rest.length ≤ cs.length := by
  unfold lineEnd at read
  split at read <;> cases read <;> simp only [List.length_cons] <;> omega

theorem length_le_of_continuation {cs rest : List Char} (read : continuation cs = some rest) :
    rest.length ≤ cs.length := by
  unfold continuation at read
  split at read
  · cases read
  · next rest' ended =>
    cases read
    have := length_skipBlankLines_le rest'
    have := length_le_of_lineEnd ended
    have : (skipBlanks cs).length ≤ cs.length := (List.dropWhile_sublist isBlank).length_le
    omega

/-- The rest of a string of several lines in double quotes. -/
def basicLines (cs : List Char) : Option (List Char × List Char) :=
  match closing '"' cs with
  | some closed => some closed
  | none =>
    match cs with
    | '\\' :: rest =>
      match _ : continuation rest with
      | some rest => basicLines rest
      | none =>
        match _ : escape rest with
        | none => none
        | some (c, rest) => (basicLines rest).map fun read => (c :: read.1, read.2)
    | '\r' :: '\n' :: rest => (basicLines rest).map fun read => ('\n' :: read.1, read.2)
    | c :: rest =>
      if isTextChar c || c == '\n' then
        (basicLines rest).map fun read => (c :: read.1, read.2)
      else none
    | [] => none
termination_by cs.length
decreasing_by
  · have := length_le_of_continuation ‹continuation _ = some _›
    simp only [List.length_cons]
    omega
  · have := length_lt_of_escape ‹escape _ = some _›
    simp only [List.length_cons]
    omega
  all_goals
    simp only [List.length_cons]
    omega

/-- The rest of a string of several lines in single quotes. -/
def literalLines (cs : List Char) : Option (List Char × List Char) :=
  match closing '\'' cs with
  | some closed => some closed
  | none =>
    match cs with
    | '\r' :: '\n' :: rest => (literalLines rest).map fun read => ('\n' :: read.1, read.2)
    | c :: rest =>
      if isTextChar c || c == '\n' then
        (literalLines rest).map fun read => (c :: read.1, read.2)
      else none
    | [] => none
termination_by cs.length

/-- The text without a line end right at its beginning. -/
def skipFirstLineEnd (cs : List Char) : List Char := ((lineEnd cs).map (·.2)).getD cs

/-- A string of one of the four kinds. -/
def stringValue (cs : List Char) : Option (String × List Char) :=
  let read := match cs with
    | '"' :: '"' :: '"' :: rest => basicLines (skipFirstLineEnd rest)
    | '\'' :: '\'' :: '\'' :: rest => literalLines (skipFirstLineEnd rest)
    | '"' :: rest => basicString rest
    | '\'' :: rest => literalString rest
    | _ => none
  read.map fun read => (String.ofList read.1, read.2)

/-! ## Keys -/

/-- A character of a key without quotes. -/
def isKeyChar (c : Char) : Bool := c.isAlphanum || c == '-' || c == '_'

/-- A key: in quotes, or a run of letters, digits, hyphens and underscores. -/
def simpleKey (cs : List Char) : Option (String × List Char) :=
  match cs with
  | '"' :: rest => (basicString rest).map fun read => (String.ofList read.1, read.2)
  | '\'' :: rest => (literalString rest).map fun read => (String.ofList read.1, read.2)
  | _ =>
    match cs.takeWhile isKeyChar with
    | [] => none
    | key => some (String.ofList key, cs.dropWhile isKeyChar)

/-- At most `parts` keys joined by dots, with blanks around them. -/
def dottedKey : Nat → Reader (List String)
  | 0, _ => none
  | parts + 1, cs => do
    let (key, rest) ← simpleKey (skipBlanks cs)
    match skipBlanks rest with
    | '.' :: rest =>
      let (keys, rest) ← dottedKey parts rest
      return (key :: keys, rest)
    | rest => return ([key], rest)

/-- How deep tables and arrays may be nested, and how many parts a key may have. -/
def nestingLimit : Nat := 79

/-- A dotted key: the keys before the last dot, and the last one. -/
def keyPath (cs : List Char) : Option ((List String × String) × List Char) := do
  let (keys, rest) ← dottedKey nestingLimit cs
  let key ← keys.getLast?
  return ((keys.dropLast, key), rest)

end TextAdventure.Toml
