import TextAdventure.Image
/-!
# Tables and texts as they are laid out

What an image gives back at an address depends on nothing but its words from there on.  A table of
rows is there if these words begin with the rows and an end marker (`IsTable`), and a text if they
begin with its length and its bytes, four to a word (`IsText`).  Whatever else is there is refused:
a table that runs off the image between two rows or inside one (`RunsOff`), and a text whose length
or whose bytes lie past the image.
-/

namespace TextAdventure.Image

/-! ## Words of an image -/

/-- The words of an image from an address on. -/
def wordsFrom (image : Image) (address : Nat) : List UInt32 := image.words.toList.drop address

section Words

variable {image : Image} {address : Nat}

theorem length_wordsFrom : (image.wordsFrom address).length = image.size - address := by
  rw [wordsFrom, List.length_drop, Array.length_toList, size]

theorem wordsFrom_add (offset : Nat) :
    image.wordsFrom (address + offset) = (image.wordsFrom address).drop offset := by
  rw [wordsFrom, wordsFrom, List.drop_drop]

theorem getElem?_words (image : Image) (address : Nat) :
    image.words[address]? = (image.wordsFrom address).head? := by
  rw [wordsFrom, List.head?_drop, Array.getElem?_toList]

/-- Whatever lies before a layout, it is what the words begin with at its address. -/
theorem wordsFrom_mk {before rest : List UInt32} (place : before.length = address) :
    wordsFrom ⟨(before ++ rest).toArray⟩ address = rest := by
  rw [wordsFrom, List.toList_toArray, ← place, List.drop_left]

theorem word_eq (image : Image) (address : Nat) :
    image.word address =
      match (image.wordsFrom address).head? with
      | some word => .ok word
      | none => .error (.addressOutOfRange address image.size) := by
  rw [← getElem?_words]
  rfl

/-- A record is what the words begin with. -/
theorem record_eq_ok_iff {length : Nat} (inside : address ≤ image.size)
    {record : Vector UInt32 length} :
    image.record address length = .ok record ↔ record.toList <+: image.wordsFrom address := by
  have extracted : (image.words.extract address (address + length)).toList =
      (image.wordsFrom address).take length := by
    rw [Array.toList_extract, List.extract_eq_take_drop, wordsFrom, Nat.add_sub_cancel_left]
  unfold Image.record
  split
  · rw [Except.ok.injEq, List.prefix_iff_eq_take, Vector.length_toList, ← extracted,
      ← Vector.toList_inj]
    exact eq_comm
  · next short =>
    refine iff_of_false (by simp) fun beginning => short ?_
    have enough := beginning.length_le
    rw [Vector.length_toList, length_wordsFrom] at enough
    rw [size] at enough inside
    omega

theorem record_eq_error_iff {length : Nat} (inside : address ≤ image.size) {fault : LoadError} :
    image.record address length = .error fault ↔
      (image.wordsFrom address).length < length ∧
        fault = .addressOutOfRange (address + length) image.size := by
  rw [length_wordsFrom]
  unfold Image.record
  rw [size] at *
  split
  · next enough => exact iff_of_false (by simp) fun short => absurd short.1 (by omega)
  · next short =>
    rw [Except.error.injEq, eq_comm, and_iff_right (by omega)]

end Words

/-! ## Tables -/

section Tables

variable {width : Nat}

/-- The words of rows, one row after the other. -/
def wordsOfRows (rows : List (Vector UInt32 width)) : List UInt32 := rows.flatMap Vector.toList

/-- The words are these rows, none of which begins with the end marker, and the rest. -/
structure Rows (rows : List (Vector UInt32 width)) (rest words : List UInt32) : Prop where
  unmarked : ∀ row ∈ rows, row.toList.head? ≠ some endMarker
  words_eq : words = wordsOfRows rows ++ rest

/-- The words begin with these rows and the end marker behind them. -/
def IsTable (rows : List (Vector UInt32 width)) (words : List UInt32) : Prop :=
  ∃ after, Rows rows (endMarker :: after) words

/-- There is less than one row behind these rows, and it does not begin with the end marker. -/
def RunsOff (rows : List (Vector UInt32 width)) (rest words : List UInt32) : Prop :=
  Rows rows rest words ∧ rest.length < width ∧ rest.head? ≠ some endMarker

/-- What is wrong with a table that runs off: there is nothing behind its rows, or a row of which
some words are missing. -/
def runOffFault (image : Image) (name : String) (start width : Nat) : List UInt32 → LoadError
  | [] => .missingTerminator name start
  | _ :: behind => .addressOutOfRange (image.size + (width - (behind.length + 1))) image.size

theorem Rows.nil (words : List UInt32) : Rows ([] : List (Vector UInt32 width)) words words :=
  ⟨List.forall_mem_nil _, rfl⟩

theorem Rows.cons {row : Vector UInt32 width} {rows : List (Vector UInt32 width)}
    {rest words : List UInt32} (unmarked : row.toList.head? ≠ some endMarker)
    (later : Rows rows rest words) : Rows (row :: rows) rest (row.toList ++ words) := by
  refine ⟨List.forall_mem_cons.mpr ⟨unmarked, later.unmarked⟩, ?_⟩
  rw [later.words_eq, ← List.append_assoc]
  rfl

/-- Words are rows up to the end marker or to where no further row has room. -/
theorem exists_rows (positive : 0 < width) (words : List UInt32) :
    ∃ (rows : List (Vector UInt32 width)) (rest : List UInt32), Rows rows rest words ∧
      (rest.head? = some endMarker ∨ rest.length < width) := by
  induction size : words.length using Nat.strongRecOn generalizing words with
  | _ count ih =>
    by_cases ends : words.head? = some endMarker ∨ words.length < width
    · exact ⟨[], words, .nil words, ends⟩
    · rw [not_or, Nat.not_lt] at ends
      have whole : (words.take width).length = width := List.length_take_of_le ends.2
      have less : (words.drop width).length < count := by
        rw [List.length_drop]
        omega
      obtain ⟨rows, rest, there, ended⟩ := ih _ less (words.drop width) rfl
      have beginning : (words.take width).head? = words.head? := by
        rw [List.head?_take, if_neg (Nat.ne_of_gt positive)]
      let row : Vector UInt32 width := ⟨(words.take width).toArray, by simpa using whole⟩
      have first : Rows (row :: rows) rest (words.take width ++ words.drop width) :=
        there.cons fun marked => ends.1 (beginning ▸ marked)
      rw [List.take_append_drop] at first
      exact ⟨_, rest, first, ended⟩

variable {image : Image} {name : String} {start current : Nat}

/-- A table ends where the words do, and where the end marker is. -/
theorem rowsFrom_eq (positive : 0 < width) :
    image.rowsFrom name start width current =
      match (image.wordsFrom current).head? with
      | none => .error (.missingTerminator name start)
      | some word =>
        if word = endMarker then .ok []
        else do
          let row ← image.record current width
          let rows ← image.rowsFrom name start width (current + width)
          return row :: rows := by
  rw [← getElem?_words]
  by_cases inside : current < image.words.size
  · rw [rowsFrom, dif_pos inside, Array.getElem?_eq_getElem inside,
      dif_neg (Nat.ne_of_gt positive)]
  · rw [rowsFrom, dif_neg inside, Array.getElem?_eq_none (Nat.le_of_not_lt inside)]

/-- Where words are rows up to an end, the reading of a table finds just these rows. -/
theorem Rows.rowsFrom_eq (positive : 0 < width) {rows : List (Vector UInt32 width)}
    {rest : List UInt32} (there : Rows rows rest (image.wordsFrom current))
    (ended : rest.head? = some endMarker ∨ rest.length < width) :
    image.rowsFrom name start width current =
      if rest.head? = some endMarker then .ok rows
      else .error (image.runOffFault name start width rest) := by
  induction rows generalizing current with
  | nil =>
    have words : image.wordsFrom current = rest := there.words_eq
    rw [Image.rowsFrom_eq positive, words]
    cases rest with
    | nil => rfl
    | cons word behind =>
      simp only [List.head?_cons, Option.some.injEq] at ended ⊢
      split
      · rfl
      · next unmarked =>
        -- a row begins here, but the image has no room for all of it
        have short := ended.resolve_left unmarked
        have room := @length_wordsFrom image current
        rw [words, List.length_cons] at room
        have cut : image.record current width =
            .error (.addressOutOfRange (current + width) image.size) :=
          (record_eq_error_iff (by omega)).mpr ⟨words ▸ short, rfl⟩
        have place : current + width = image.size + (width - (behind.length + 1)) := by
          rw [List.length_cons] at short
          omega
        rw [cut, place]
        rfl
  | cons row rows ih =>
    have whole : image.wordsFrom current = row.toList ++ (wordsOfRows rows ++ rest) := by
      rw [there.words_eq, ← List.append_assoc]
      rfl
    obtain ⟨word, others, begins⟩ := List.exists_cons_of_ne_nil
      (List.ne_nil_of_length_pos (Vector.length_toList.symm ▸ positive : 0 < row.toList.length))
    have unmarked := there.unmarked row (List.mem_cons_self ..)
    rw [begins, List.head?_cons, Ne, Option.some_inj] at unmarked
    have first : (image.wordsFrom current).head? = some word := by
      rw [whole, begins]
      rfl
    have later : Rows rows rest (image.wordsFrom (current + width)) := by
      refine ⟨fun other member => there.unmarked other (List.mem_cons_of_mem _ member), ?_⟩
      rw [wordsFrom_add, whole, List.drop_left' Vector.length_toList]
    have inside : current ≤ image.size := by
      have room := congrArg List.length whole
      rw [length_wordsFrom, List.length_append, Vector.length_toList] at room
      omega
    have read : image.record current width = .ok row :=
      (record_eq_ok_iff inside).mpr (whole ▸ List.prefix_append ..)
    rw [Image.rowsFrom_eq positive, first]
    dsimp only
    rw [if_neg unmarked, read, ih later]
    split <;> rfl

/-- A table reads back exactly the rows that are laid out at its address. -/
theorem rowsFrom_eq_ok_iff (positive : 0 < width) {rows : List (Vector UInt32 width)} :
    image.rowsFrom name start width current = .ok rows ↔
      IsTable rows (image.wordsFrom current) := by
  constructor
  · intro read
    obtain ⟨rows', rest, there, ended⟩ := exists_rows positive (image.wordsFrom current)
    rw [there.rowsFrom_eq positive ended] at read
    split at read
    · next marked =>
      cases read
      obtain ⟨after, rfl⟩ := List.head?_eq_some_iff.mp marked
      exact ⟨after, there⟩
    · cases read
  · rintro ⟨after, there⟩
    exact (there.rowsFrom_eq positive (Or.inl rfl)).trans (if_pos rfl)

theorem rowsFrom_eq_error_iff (positive : 0 < width) {fault : LoadError} :
    image.rowsFrom name start width current = .error fault ↔
      ∃ (rows : List (Vector UInt32 width)) (rest : List UInt32),
        RunsOff rows rest (image.wordsFrom current) ∧
        fault = image.runOffFault name start width rest := by
  constructor
  · intro read
    obtain ⟨rows, rest, there, ended⟩ := exists_rows positive (image.wordsFrom current)
    rw [there.rowsFrom_eq positive ended] at read
    split at read
    · cases read
    · next unmarked =>
      cases read
      exact ⟨rows, rest, ⟨there, ended.resolve_left unmarked, unmarked⟩, rfl⟩
  · rintro ⟨rows, rest, ⟨there, short, unmarked⟩, rfl⟩
    rw [there.rowsFrom_eq positive (Or.inr short), if_neg unmarked]

end Tables

/-! ## Texts -/

section Texts

/-- The words begin with the number of bytes and these bytes, four to a word, the most significant
first.  What the last word holds behind them is of no account. -/
def IsText (bytes : List UInt8) (words : List UInt32) : Prop :=
  ∃ packed : List UInt32, packed.length = (bytes.length + 3) / 4 ∧ bytes <+: bytesOfWords packed ∧
    bytes.length < UInt32.size ∧ UInt32.ofNat bytes.length :: packed <+: words

/-- Bytes as they are written, the last word filled up with zeros. -/
def pack (bytes : List UInt8) : List UInt32 := wordsOfBytes (bytes ++ [0, 0, 0])

theorem bytesOfWord_wordOfBytes (a b c d : UInt8) :
    bytesOfWord (wordOfBytes a b c d) = [a, b, c, d] := by
  have := a.toNat_lt
  have := b.toNat_lt
  have := c.toNat_lt
  have := d.toNat_lt
  unfold bytesOfWord wordOfBytes
  simp only [UInt32.toNat_ofNat', List.cons.injEq, ← UInt8.toNat_inj, UInt8.toNat_ofNat']
  refine ⟨?_, ?_, ?_, ?_, trivial⟩ <;> omega

theorem length_bytesOfWords (words : List UInt32) :
    (bytesOfWords words).length = 4 * words.length := by
  induction words with
  | nil => rfl
  | cons word words ih =>
    rw [bytesOfWords, List.flatMap_cons, List.length_append, ← bytesOfWords, ih, List.length_cons,
      bytesOfWord]
    simp only [List.length_cons, List.length_nil]
    omega

/-- Fewer than four bytes make no word. -/
theorem length_lt_of_wordsOfBytes_nil {bytes : List UInt8}
    (few : ∀ a b c d rest, bytes = a :: b :: c :: d :: rest → False) : bytes.length < 4 := by
  rcases bytes with _ | ⟨a, _ | ⟨b, _ | ⟨c, _ | ⟨d, rest⟩⟩⟩⟩
  case cons.cons.cons.cons => exact absurd rfl (few a b c d rest)
  all_goals simp

theorem length_wordsOfBytes (bytes : List UInt8) :
    (wordsOfBytes bytes).length = bytes.length / 4 := by
  fun_induction wordsOfBytes bytes with
  | case1 a b c d rest ih =>
    simp only [List.length_cons, ih]
    omega
  | case2 bytes few =>
    have := length_lt_of_wordsOfBytes_nil few
    rw [List.length_nil]
    omega

/-- Whole words give back the bytes that they were made of. -/
theorem bytesOfWords_wordsOfBytes (bytes : List UInt8) :
    bytesOfWords (wordsOfBytes bytes) <+: bytes := by
  fun_induction wordsOfBytes bytes with
  | case1 a b c d rest ih =>
    rw [bytesOfWords, List.flatMap_cons, bytesOfWord_wordOfBytes, ← bytesOfWords]
    exact List.prefix_append_right_inj [a, b, c, d] |>.mpr ih
  | case2 bytes few => exact List.nil_prefix

theorem length_pack (bytes : List UInt8) : (pack bytes).length = (bytes.length + 3) / 4 := by
  rw [pack, length_wordsOfBytes, List.length_append]
  rfl

theorem prefix_bytesOfWords_pack (bytes : List UInt8) : bytes <+: bytesOfWords (pack bytes) := by
  refine List.prefix_of_prefix_length_le (List.prefix_append bytes [0, 0, 0])
    (bytesOfWords_wordsOfBytes _) ?_
  show bytes.length ≤ (bytesOfWords (pack bytes)).length
  rw [length_bytesOfWords, length_pack]
  omega

/-- A text as it is written. -/
theorem isText_pack {bytes : List UInt8} (fits : bytes.length < UInt32.size)
    (after : List UInt32) : IsText bytes (UInt32.ofNat bytes.length :: pack bytes ++ after) :=
  ⟨pack bytes, length_pack bytes, prefix_bytesOfWords_pack bytes, fits, List.prefix_append ..⟩

variable {image : Image} {address : Nat}

/-- What is wrong with a text that is not all there: its length or its bytes lie past the image. -/
inductive TextRunsOff (image : Image) (address : Nat) : LoadError → Prop where
  | length (none : image.wordsFrom address = []) :
      TextRunsOff image address (.addressOutOfRange address image.size)
  | bytes {length : UInt32} {behind : List UInt32}
      (there : image.wordsFrom address = length :: behind)
      (short : behind.length < (length.toNat + 3) / 4) :
      TextRunsOff image address
        (.addressOutOfRange (address + 1 + (length.toNat + 3) / 4) image.size)

theorem wordsFrom_succ {word : UInt32} {behind : List UInt32}
    (there : image.wordsFrom address = word :: behind) :
    image.wordsFrom (address + 1) = behind := by
  rw [wordsFrom_add, there]
  rfl

theorem lt_size_of_wordsFrom {word : UInt32} {behind : List UInt32}
    (there : image.wordsFrom address = word :: behind) : address < image.size := by
  have room := congrArg List.length there
  rw [length_wordsFrom, List.length_cons] at room
  omega

/-- Bytes that are there are read, up to the length. -/
theorem text_of_packed (somewhere : 0 < address) {length : UInt32} {behind packed : List UInt32}
    (there : image.wordsFrom address = length :: behind)
    (count : packed.length = (length.toNat + 3) / 4) (beginning : packed <+: behind) :
    image.text address =
      .ok (Text.Utf8.decodeLossy ((bytesOfWords packed).take length.toNat)) := by
  have read : image.record (address + 1) ((length.toNat + 3) / 4) =
      .ok ⟨packed.toArray, by simpa using count⟩ :=
    (record_eq_ok_iff (lt_size_of_wordsFrom there)).mpr (wordsFrom_succ there ▸ beginning)
  rw [text, if_neg (Nat.ne_of_gt somewhere), word_eq, there]
  simp only [List.head?_cons, bind, Except.bind]
  rw [read]
  rfl

theorem text_of_runsOff (somewhere : 0 < address) {fault : LoadError}
    (off : TextRunsOff image address fault) : image.text address = .error fault := by
  rw [text, if_neg (Nat.ne_of_gt somewhere), word_eq]
  cases off with
  | length none =>
    rw [none]
    rfl
  | @bytes length behind there short =>
    have read : image.record (address + 1) ((length.toNat + 3) / 4) =
        .error (.addressOutOfRange (address + 1 + (length.toNat + 3) / 4) image.size) :=
      (record_eq_error_iff (lt_size_of_wordsFrom there)).mpr ⟨wordsFrom_succ there ▸ short, rfl⟩
    rw [there]
    simp only [List.head?_cons, bind, Except.bind]
    rw [read]

/-- At every address there is a text, or there is not enough room for one. -/
theorem isText_or_runsOff (image : Image) (address : Nat) :
    (∃ bytes, IsText bytes (image.wordsFrom address)) ∨
      ∃ fault, TextRunsOff image address fault := by
  cases there : image.wordsFrom address with
  | nil => exact Or.inr ⟨_, .length there⟩
  | cons length behind =>
    by_cases short : behind.length < (length.toNat + 3) / 4
    · exact Or.inr ⟨_, .bytes there short⟩
    · obtain ⟨packed, whole, beginning⟩ :
          ∃ packed, packed.length = (length.toNat + 3) / 4 ∧ packed <+: behind :=
        ⟨_, List.length_take_of_le (Nat.le_of_not_lt short), List.take_prefix _ _⟩
      have count : ((bytesOfWords packed).take length.toNat).length = length.toNat := by
        rw [List.length_take, length_bytesOfWords, whole]
        omega
      refine Or.inl ⟨(bytesOfWords packed).take length.toNat, packed, ?_, List.take_prefix _ _,
        ?_, ?_⟩
      · rw [whole, count]
      · rw [count]
        exact length.toNat_lt_size
      · rw [count, UInt32.ofNat_toNat, List.prefix_cons_inj]
        exact beginning

theorem IsText.text_eq (somewhere : 0 < address) {bytes : List UInt8}
    (there : IsText bytes (image.wordsFrom address)) :
    image.text address = .ok (Text.Utf8.decodeLossy bytes) := by
  obtain ⟨packed, count, beginning, fits, after, words⟩ := there
  have length : (UInt32.ofNat bytes.length).toNat = bytes.length := UInt32.toNat_ofNat_of_lt fits
  rw [← length] at count
  rw [text_of_packed somewhere words.symm count (List.prefix_append ..), length,
    ← List.prefix_iff_eq_take.mp beginning]

/-- A text reads back exactly the bytes that are laid out at its address. -/
theorem text_eq_ok_iff (somewhere : 0 < address) {text : String} :
    image.text address = .ok text ↔
      ∃ bytes, IsText bytes (image.wordsFrom address) ∧ text = Text.Utf8.decodeLossy bytes := by
  constructor
  · intro read
    rcases image.isText_or_runsOff address with ⟨bytes, there⟩ | ⟨fault, off⟩
    · rw [there.text_eq somewhere] at read
      cases read
      exact ⟨bytes, there, rfl⟩
    · rw [text_of_runsOff somewhere off] at read
      cases read
  · rintro ⟨bytes, there, rfl⟩
    exact there.text_eq somewhere

theorem text_eq_error_iff (somewhere : 0 < address) {fault : LoadError} :
    image.text address = .error fault ↔ TextRunsOff image address fault := by
  constructor
  · intro read
    rcases image.isText_or_runsOff address with ⟨bytes, there⟩ | ⟨fault', off⟩
    · rw [there.text_eq somewhere] at read
      cases read
    · rw [text_of_runsOff somewhere off] at read
      cases read
      exact off
  · exact text_of_runsOff somewhere

end Texts

/-! ## Reading back -/

/-- **What is laid out reads back.**  A table at an address that is not 0 gives rows exactly if the
words from there on are these rows, none of which begins with the end marker, and the end marker
behind them; otherwise it runs off the image, and the fault says how.  A text gives exactly the
bytes whose number and which themselves the words from there on begin with; it is refused exactly if
its length or a word of its bytes lies past the image.  So whatever is written among other words is
what is read. -/
theorem layouts_read_back (image : Image) {address width : Nat} (somewhere : 0 < address)
    (positive : 0 < width) (name : String) :
    (∀ rows : List (Vector UInt32 width), image.table address width name = .ok rows ↔
      IsTable rows (image.wordsFrom address)) ∧
    (∀ fault, image.table address width name = .error fault ↔
      ∃ (rows : List (Vector UInt32 width)) (rest : List UInt32),
        RunsOff rows rest (image.wordsFrom address) ∧
        fault = image.runOffFault name address width rest) ∧
    (∀ (rows : List (Vector UInt32 width)) (before after : List UInt32), before.length = address →
      (∀ row ∈ rows, row.toList.head? ≠ some endMarker) →
      table ⟨(before ++ (wordsOfRows rows ++ endMarker :: after)).toArray⟩ address width name =
        .ok rows) ∧
    (∀ text, image.text address = .ok text ↔
      ∃ bytes, IsText bytes (image.wordsFrom address) ∧ text = Text.Utf8.decodeLossy bytes) ∧
    (∀ fault, image.text address = .error fault ↔ TextRunsOff image address fault) ∧
    ∀ (bytes : List UInt8) (before after : List UInt32), before.length = address →
      bytes.length < UInt32.size →
      text ⟨(before ++ (UInt32.ofNat bytes.length :: pack bytes ++ after)).toArray⟩ address =
        .ok (Text.Utf8.decodeLossy bytes) := by
  have begins : ∀ other : Image, other.table address width name =
      other.rowsFrom name address width address := by
    intro other
    rw [table, if_neg (Nat.ne_of_gt somewhere)]
  refine ⟨fun rows => ?_, fun fault => ?_, ?_, fun _ => text_eq_ok_iff somewhere,
    fun _ => text_eq_error_iff somewhere, ?_⟩
  · rw [begins]
    exact rowsFrom_eq_ok_iff positive
  · rw [begins]
    exact rowsFrom_eq_error_iff positive
  · intro rows before after place unmarked
    rw [begins, rowsFrom_eq_ok_iff positive, wordsFrom_mk place]
    exact ⟨after, unmarked, rfl⟩
  · intro bytes before after place fits
    refine IsText.text_eq somewhere ?_
    rw [wordsFrom_mk place]
    exact isText_pack fits after

/-- Two rows and the text "lantern", with a word behind them that is the length of no text. -/
theorem layouts_read_back_lantern :
    let rows : List (Vector UInt32 2) := [#v[1, 2], #v[3, 4]]
    let bytes : List UInt8 := [0x6C, 0x61, 0x6E, 0x74, 0x65, 0x72, 0x6E]
    let image : Image :=
      ⟨#[0, 1, 2, 3, 4, 0xFFFFFFFF, 7, 0x6C616E74, 0x65726E00, 9]⟩
    0 < 1 ∧ 0 < 6 ∧ 0 < 9 ∧ 0 < 2 ∧ image.table 1 2 "rows" = .ok rows ∧
    image.table 6 2 "rows" = .error (.missingTerminator "rows" 6) ∧
    image.text 6 = .ok (Text.Utf8.decodeLossy bytes) ∧
    image.text 9 = .error (.addressOutOfRange 13 10) := by
  intro rows bytes image
  have one : 0 < 1 := by decide
  have six : 0 < 6 := by decide
  have nine : 0 < 9 := by decide
  have two : 0 < 2 := by decide
  obtain ⟨found, -⟩ := layouts_read_back image one two "rows"
  obtain ⟨-, refused, -, -, -, written⟩ := layouts_read_back image six two "rows"
  obtain ⟨-, -, -, -, short, -⟩ := layouts_read_back image nine two "rows"
  have unmarked : ∀ row ∈ rows, row.toList.head? ≠ some endMarker :=
    List.forall_mem_cons.mpr ⟨by decide, List.forall_mem_singleton.mpr (by decide)⟩
  refine ⟨one, six, nine, two, (found rows).mpr ⟨[7, 0x6C616E74, 0x65726E00, 9], unmarked, rfl⟩,
    (refused _).mpr ⟨[#v[7, 0x6C616E74], #v[0x65726E00, 9]], [], ?_, rfl⟩,
    written bytes [0, 1, 2, 3, 4, 0xFFFFFFFF] [9] rfl (by decide),
    (short _).mpr (@TextRunsOff.bytes image 9 9 [] rfl (by decide))⟩
  have unmarked' : ∀ row ∈ [#v[7, 0x6C616E74], #v[0x65726E00, 9]],
      row.toList.head? ≠ some endMarker :=
    List.forall_mem_cons.mpr ⟨by decide, List.forall_mem_singleton.mpr (by decide)⟩
  exact ⟨⟨unmarked', rfl⟩, by decide, by decide⟩

end TextAdventure.Image
