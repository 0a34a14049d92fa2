import TextAdventure.Proofs.Layouts
import TextAdventure.Proofs.Loading
import Mathlib.Data.List.Infix
/-!
# What follows a story

A story file may go on behind the story: whatever can be read from an image is read from every image
that begins with it (`Lasting`).  This holds of a word, a record, a table and a text, and it is kept
by everything that is put together from them, up to the story itself.  Only the code, which is all
the words that there are, becomes longer (`Story.loads_whatever_follows`).
-/

namespace TextAdventure

namespace Image

variable {α β : Type} {image longer : Image}

/-- The second image begins with the words of the first one. -/
def Begins (image longer : Image) : Prop := image.words.toList <+: longer.words.toList

/-- What a reader finds in an image, it finds in every image that begins with it.  Nothing is said
about faults: more words may mend one, or put another one in its place. -/
def Lasting (read : Image → Except LoadError α) : Prop :=
  ∀ ⦃image longer : Image⦄, image.Begins longer →
    ∀ ⦃value : α⦄, read image = .ok value → read longer = .ok value

theorem Lasting.eq_ok {read : Image → Except LoadError α} (lasts : Lasting read)
    (begins : image.Begins longer) {value : α} (there : read image = .ok value) :
    read longer = .ok value :=
  lasts begins there

theorem Begins.wordsFrom (begins : image.Begins longer) (address : Nat) :
    image.wordsFrom address <+: longer.wordsFrom address :=
  List.IsPrefix.drop begins address

theorem Begins.size_le (begins : image.Begins longer) : image.size ≤ longer.size := by
  simpa [size] using begins.length_le

/-! ## Readers that are put together -/

theorem lasting_const (result : Except LoadError α) : Lasting fun _ => result :=
  fun _ _ _ _ read => read

theorem Lasting.bind {first : Image → Except LoadError α}
    {next : α → Image → Except LoadError β} (lasts : Lasting first)
    (lasts' : ∀ value, Lasting (next value)) :
    Lasting fun image => first image >>= fun value => next value image := by
  intro image longer begins result read
  obtain ⟨value, there, read⟩ := ok_of_bind read
  show (first longer >>= fun value => next value longer) = .ok result
  rw [lasts begins there]
  exact lasts' value begins read

theorem Lasting.map {read : Image → Except LoadError α} (lasts : Lasting read) (f : α → β) :
    Lasting fun image => f <$> read image := by
  intro image longer begins result mapped
  dsimp only at mapped ⊢
  cases there : read image with
  | error fault => simp [there] at mapped
  | ok value =>
    rw [lasts begins there]
    rwa [there] at mapped

theorem Lasting.mapM {read : Image → α → Except LoadError β}
    (lasts : ∀ entry, Lasting fun image => read image entry) (entries : List α) :
    Lasting fun image => entries.mapM (read image) := by
  induction entries with
  | nil => exact lasting_const _
  | cons entry entries ih =>
    simp only [List.mapM_cons]
    refine (lasts entry).bind fun value => ih.bind fun values => ?_
    exact lasting_const _

/-! ## Words, records, tables and texts -/

theorem lasting_word (address : Nat) : Lasting fun image => image.word address := by
  intro image longer begins value read
  simp only [word_eq] at read ⊢
  cases there : image.wordsFrom address with
  | nil => simp [there] at read
  | cons first rest =>
    -- the word is the first one from the address on, and stays it
    obtain ⟨behind, whole⟩ := begins.wordsFrom address
    rw [there] at read whole
    rw [← whole]
    exact read

theorem lasting_record (address length : Nat) :
    Lasting fun image => image.record address length := by
  intro image longer begins record read
  have inside : address ≤ image.size := by
    by_contra outside
    have short : ¬ address + length ≤ image.words.size := by
      simp only [size] at outside
      omega
    simp [Image.record, short] at read
  have inside' : address ≤ longer.size := Nat.le_trans inside begins.size_le
  apply (record_eq_ok_iff inside').mpr
  exact ((record_eq_ok_iff inside).mp read).trans (begins.wordsFrom address)

/-- A table ends at its marker, whatever lies behind it. -/
theorem IsTable.mono {width : Nat} {rows : List (Vector UInt32 width)}
    {words more : List UInt32} (there : IsTable rows words) (begins : words <+: more) :
    IsTable rows more := by
  obtain ⟨after, unmarked, rfl⟩ := there
  obtain ⟨behind, rfl⟩ := begins
  exact ⟨after ++ behind, unmarked, by simp⟩

theorem IsText.mono {bytes : List UInt8} {words more : List UInt32}
    (there : IsText bytes words) (begins : words <+: more) : IsText bytes more := by
  obtain ⟨packed, count, beginning, fits, within⟩ := there
  exact ⟨packed, count, beginning, fits, within.trans begins⟩

theorem lasting_table (address : Nat) {width : Nat} (positive : 0 < width) (name : String) :
    Lasting fun image => image.table address width name := by
  intro image longer begins rows read
  simp only [table] at read ⊢
  split at read
  · next nowhere => simpa [nowhere] using read
  · next somewhere =>
    rw [if_neg somewhere]
    apply (rowsFrom_eq_ok_iff positive).mpr
    exact ((rowsFrom_eq_ok_iff positive).mp read).mono (begins.wordsFrom address)

theorem lasting_text (address : Nat) : Lasting fun image => image.text address := by
  intro image longer begins text read
  by_cases nowhere : address = 0
  · simpa [Image.text, nowhere] using read
  · have somewhere : 0 < address := Nat.pos_of_ne_zero nowhere
    obtain ⟨bytes, there, rfl⟩ := (text_eq_ok_iff somewhere).mp read
    apply (text_eq_ok_iff somewhere).mpr
    exact ⟨bytes, there.mono (begins.wordsFrom address), rfl⟩

/-! ## Tables of records -/

theorem lasting_checks (address : Nat) : Lasting fun image => image.checks address :=
  (lasting_table address (by decide) _).bind fun _ => lasting_const _

theorem lasting_verbBody (row : Vector UInt32 4) : Lasting fun image => image.verbBody row :=
  (lasting_const _).bind fun _ => (lasting_checks _).bind fun _ => lasting_const _

theorem lasting_verb (row : Vector UInt32 2) : Lasting fun image => image.verb row :=
  (lasting_table _ (by decide) _).bind fun rows =>
    (Lasting.mapM lasting_verbBody rows).bind fun _ => lasting_const _

theorem lasting_verbs (address : Nat) : Lasting fun image => image.verbs address :=
  (lasting_table address (by decide) _).bind fun rows => Lasting.mapM lasting_verb rows

theorem lasting_exit (row : Vector UInt32 4) : Lasting fun image => image.exit row :=
  (lasting_checks _).bind fun _ => lasting_const _

theorem lasting_exits (address : Nat) : Lasting fun image => image.exits address :=
  (lasting_table address (by decide) _).bind fun rows => Lasting.mapM lasting_exit rows

theorem lasting_attributes (address : Nat) : Lasting fun image => image.attributes address :=
  (lasting_table address (by decide) _).bind fun _ => lasting_const _

theorem lasting_storyClass (address : Nat) : Lasting fun image => image.storyClass address :=
  (lasting_record address 4).bind fun _ => (lasting_text _).bind fun _ =>
    (lasting_verbs _).bind fun _ => lasting_const _

theorem lasting_storyInstance (address : Nat) :
    Lasting fun image => image.storyInstance address :=
  (lasting_record address 8).bind fun _ => (lasting_attributes _).bind fun _ =>
    (lasting_text _).bind fun _ => (lasting_verbs _).bind fun _ =>
      (lasting_exits _).bind fun _ => lasting_const _

theorem lasting_records {read : Image → Nat → Except LoadError α}
    (lasts : ∀ address, Lasting fun image => read image address) (width address count : Nat) :
    Lasting fun image => records (read image) width address count := by
  induction count generalizing address with
  | zero => exact lasting_const _
  | succ count ih =>
    exact (lasts address).bind fun _ => (ih (address + width)).bind fun _ => lasting_const _

theorem lasting_references (address : Nat) : Lasting fun image => image.references address :=
  (lasting_table address (by decide) _).bind fun _ => lasting_const _

theorem lasting_dictionaryEntry (row : Vector UInt32 6) :
    Lasting fun image => image.dictionaryEntry row :=
  (lasting_text _).bind fun _ => (lasting_references _).bind fun _ =>
    (lasting_references _).bind fun _ => (lasting_references _).bind fun _ => lasting_const _

theorem lasting_dictionary (address : Nat) : Lasting fun image => image.dictionary address :=
  (lasting_table address (by decide) _).bind fun rows =>
    (Lasting.mapM lasting_dictionaryEntry rows).bind fun _ => lasting_const _

theorem lasting_restrictions (address : Nat) : Lasting fun image => image.restrictions address :=
  (lasting_table address (by decide) _).bind fun _ => lasting_const _

theorem lasting_parameterMap (row : Vector UInt32 3) :
    Lasting fun image => image.parameterMap row :=
  (lasting_table _ (by decide) _).bind fun _ => lasting_const _

theorem lasting_parameterMaps (address : Nat) :
    Lasting fun image => image.parameterMaps address :=
  (lasting_table address (by decide) _).bind fun rows => Lasting.mapM lasting_parameterMap rows

/-! ## The grammar -/

theorem lasting_element (survey : GrammarSurvey) (row : Vector UInt32 3) :
    Lasting fun image => image.element survey row := by
  unfold element
  simp only
  by_cases parameter : (tripleOf row).1 = 0
  · simp only [parameter, if_true]
    exact lasting_const _
  · simp only [parameter, if_false]
    by_cases closes : (tripleOf row).1 = formMarker
    · simp only [closes, if_true]
      exact (lasting_restrictions _).bind fun _ => lasting_const _
    · simp only [closes, if_false]
      exact lasting_const _

theorem lasting_elementRows (survey : GrammarSurvey) (rows : List (Vector UInt32 3)) :
    Lasting fun image => image.elementRows survey rows := by
  induction rows generalizing survey with
  | nil => exact lasting_const _
  | cons row rows ih =>
    exact (lasting_element survey row).bind fun entry =>
      (ih entry.2).bind fun _ => lasting_const _

theorem readWaiting_of_again {survey : GrammarSurvey} {address : Nat} {waiting : List Nat}
    (next : survey.waiting = address :: waiting)
    (again : survey.readAddresses.contains address = true) :
    image.readWaiting survey = image.readWaiting { survey with waiting } := by
  rw [readWaiting.eq_def]
  split
  · next none => simp [none] at next
  · next same =>
    rw [next] at same
    cases same
    rw [dif_pos again]

/-- The tables are found in the same order, for it is the rows that lead from one to the next. -/
theorem lasting_readWaiting (survey : GrammarSurvey) :
    Lasting fun image => image.readWaiting survey := by
  intro image longer begins later read
  dsimp only at read ⊢
  fun_induction readWaiting image survey with
  | case1 survey none =>
    rw [readWaiting_of_none none]
    exact read
  | case2 survey address waiting next again ih =>
    rw [readWaiting_of_again next again]
    exact ih read
  | case3 => cases read
  | case4 => cases read
  | case5 survey address waiting next fresh rows there entries mid rowsRead ih =>
    have unread : address ∉ survey.readAddresses := by
      intro member
      exact fresh (List.contains_iff_mem.mpr member)
    have there' := (lasting_table address (by decide) "elements").eq_ok begins there
    have rowsRead' := (lasting_elementRows _ rows).eq_ok begins rowsRead
    rw [readWaiting_of_next next unread, there']
    show (longer.elementRows { survey with waiting } rows >>= _) = _
    rw [rowsRead']
    exact ih read

theorem lasting_grammarTable (survey : GrammarSurvey) (address : Nat) :
    Lasting fun image => image.grammarTable survey address :=
  (lasting_readWaiting (survey.reach address).2).bind fun _ => lasting_const _

theorem lasting_grammarRows (survey : GrammarSurvey) (rows : List (Vector UInt32 2)) :
    Lasting fun image => image.grammarRows survey rows := by
  induction rows generalizing survey with
  | nil => exact lasting_const _
  | cons row rows ih =>
    exact (lasting_grammarTable survey _).bind fun table =>
      (ih table.2).bind fun _ => lasting_const _

theorem lasting_grammars (address : Nat) : Lasting fun image => image.grammars address :=
  (lasting_table address (by decide) _).bind fun rows =>
    (lasting_grammarRows {} rows).bind fun _ => lasting_const _

/-! ## Headers and stories -/

theorem lasting_ofFields (size : Nat) : Lasting fun image => Header.ofFields image size := by
  refine (lasting_word 1).bind fun _ => ?_
  -- the other fields are numbers
  iterate 18 refine ((lasting_word _).map _).bind fun _ => ?_
  exact lasting_const _

/-- An image that is as long as its header says is so with more words, too. -/
theorem lasting_ofImage : Lasting Header.ofImage := by
  intro image longer begins header read
  obtain ⟨size, there, read⟩ := ok_of_bind read
  have long : ¬ longer.size < size.toNat ∧ Header.ofFields image size.toNat = .ok header := by
    split at read
    · cases read
    · next long =>
      have := begins.size_le
      exact ⟨by omega, read⟩
  unfold Header.ofImage
  rw [(lasting_word 2).eq_ok begins there]
  show (if longer.size < size.toNat then _ else _) = _
  rw [if_neg long.1]
  exact lasting_ofFields _ begins long.2

/-- A story lasts but for its code, which is whatever words there are. -/
theorem story_of_begins (begins : image.Begins longer) {header : Header} {story : Story}
    (read : image.story header = .ok story) :
    longer.story header = .ok { story with code := longer.words.toList } ∧
      story.code = image.words.toList := by
  obtain ⟨classes, isClasses, read⟩ := ok_of_bind read
  obtain ⟨instances, isInstances, read⟩ := ok_of_bind read
  obtain ⟨dictionary, isDictionary, read⟩ := ok_of_bind read
  obtain ⟨grammars, isGrammars, read⟩ := ok_of_bind read
  obtain ⟨parameterMaps, isMaps, read⟩ := ok_of_bind read
  obtain ⟨globalVerbs, isVerbs, read⟩ := ok_of_bind read
  cases read
  refine ⟨?_, rfl⟩
  unfold Image.story
  rw [(lasting_records lasting_storyClass _ _ _).eq_ok begins isClasses,
    (lasting_records lasting_storyInstance _ _ _).eq_ok begins isInstances,
    (lasting_dictionary _).eq_ok begins isDictionary, (lasting_grammars _).eq_ok begins isGrammars,
    (lasting_parameterMaps _).eq_ok begins isMaps, (lasting_verbs _).eq_ok begins isVerbs]
  rfl

/-- Bytes that made no whole word may make one with those behind them. -/
theorem wordsOfBytes_append (bytes more : List UInt8) :
    wordsOfBytes bytes <+: wordsOfBytes (bytes ++ more) := by
  fun_induction wordsOfBytes bytes with
  | case1 a b c d rest ih =>
    simp only [List.cons_append, wordsOfBytes, List.prefix_cons_inj]
    exact ih
  | case2 => exact List.nil_prefix

theorem words_of_ofBytes {bytes : List UInt8} (read : Image.ofBytes bytes = .ok image) :
    image = ⟨(wordsOfBytes bytes).toArray⟩ := by
  unfold Image.ofBytes at read
  split at read
  · cases read
  · split at read <;> cases read
    rfl

theorem ofBytes_append {bytes : List UInt8} (read : Image.ofBytes bytes = .ok image)
    (more : List UInt8) :
    Image.ofBytes (bytes ++ more) = .ok ⟨(wordsOfBytes (bytes ++ more)).toArray⟩ := by
  unfold Image.ofBytes at read ⊢
  split at read
  · cases read
  · next long =>
    split at read
    · cases read
    · next tagged =>
      have long' : ¬ (bytes ++ more).length < headerSize * 4 := by
        rw [List.length_append]
        omega
      have beginning : (bytes ++ more).take 4 = bytes.take 4 := by
        apply List.take_append_of_le_length
        simp only [headerSize] at long
        omega
      rw [if_neg long', beginning, if_neg tagged]

end Image

/-- **What follows a story is no part of it.**  If some bytes are a story file, they are one with
whatever bytes behind them, and the story is the same in everything but its code, which is all the
words of the file and begins with those that it was before. -/
theorem Story.loads_whatever_follows {bytes : List UInt8} {story : Story}
    (loaded : Story.ofBytes bytes = .ok story) (more : List UInt8) :
    Story.ofBytes (bytes ++ more) =
        .ok { story with code := Image.wordsOfBytes (bytes ++ more) } ∧
      story.code = Image.wordsOfBytes bytes ∧
      story.code <+: Image.wordsOfBytes (bytes ++ more) := by
  obtain ⟨image, isImage, loaded⟩ := ok_of_bind loaded
  obtain ⟨header, isHeader, loaded⟩ := ok_of_bind loaded
  have isLonger := Image.ofBytes_append isImage more
  obtain rfl := Image.words_of_ofBytes isImage
  -- the image of the longer file begins with that of the shorter one
  have begins : Image.Begins ⟨(Image.wordsOfBytes bytes).toArray⟩
      ⟨(Image.wordsOfBytes (bytes ++ more)).toArray⟩ := by
    simpa [Image.Begins] using Image.wordsOfBytes_append bytes more
  obtain ⟨isStory, code⟩ := Image.story_of_begins begins loaded
  have code : story.code = Image.wordsOfBytes bytes := by simpa using code
  refine ⟨?_, code, code ▸ Image.wordsOfBytes_append bytes more⟩
  unfold Story.ofBytes
  rw [isLonger]
  show (Header.ofImage _ >>= _) = _
  rw [Image.lasting_ofImage.eq_ok begins isHeader]
  show Image.story _ header = _
  simpa using isStory

/-- A file that ends inside a word: the two bytes that are left over make a word with the next
two. -/
theorem Story.loads_whatever_follows_roundabout :
    ∃ story, Story.ofBytes (Story.roundaboutFile ++ [0, 1]) = .ok story ∧
      story.tables = [[.parameter {} 1], [.word 7 0, .finish 5 []]] ∧
      Image.wordsOfBytes (Story.roundaboutFile ++ [0, 1] ++ [2, 3, 4]) =
        story.code ++ [0x10203] ∧
      Story.ofBytes (Story.roundaboutFile ++ [0, 1] ++ [2, 3, 4]) =
        .ok { story with
          code := Image.wordsOfBytes (Story.roundaboutFile ++ [0, 1] ++ [2, 3, 4]) } ∧
      story.code = Image.wordsOfBytes (Story.roundaboutFile ++ [0, 1]) ∧
      story.code <+: Image.wordsOfBytes (Story.roundaboutFile ++ [0, 1] ++ [2, 3, 4]) := by
  let story : Story :=
    { grammars := [⟨1, 0⟩, ⟨2, 1⟩]
      tables := [[.parameter {} 1], [.word 7 0, .finish 5 []]]
      code := Image.wordsOfBytes (Story.roundaboutFile ++ [0, 1]) }
  have ran : (Story.load (Story.roundaboutFile ++ [0, 1])).run = some (.ok story) := by
    decide +kernel
  have loaded : Story.ofBytes (Story.roundaboutFile ++ [0, 1]) = .ok story := by
    rw [Story.load_eq] at ran
    exact Option.some_inj.mp ran
  exact ⟨story, loaded, rfl, by decide +kernel, Story.loads_whatever_follows loaded [2, 3, 4]⟩

end TextAdventure
