import TextAdventure.Proofs.Remembering
import TextAdventure.Proofs.Stages
/-!
# What is understood is understood again

A token is written out as the player could have typed it.  The tokens of an ASCII line are legible:
written out and followed by a blank or by nothing, each of them is found again, so that a line made
of their texts has just these tokens (`ofChars_intercalate`).  The words of a line are what its kept
tokens stand for, and their texts are those of the tokens; noise words and unknown punctuation leave
no trace in either.
-/

namespace TextAdventure

namespace Token

/-- A token as the player would type it. -/
def typed : Token → String
  | .word text => text
  | .integer value => (Literal.integer value).typed
  | .quoted text => (Literal.string text).typed
  | .punctuation c => String.singleton c

/-- The literal that a token stands for. -/
def literal? : Token → Option Literal
  | .integer value => some (.integer value)
  | .quoted text => some (.string text)
  | _ => none

/-- The token is not passed over.  An unknown word is not, since it ends the scan. -/
def isKept (dictionary : Dictionary) : Token → Bool
  | .word text => !(dictionary.lookup text).any dictionary.isNoise
  | .punctuation c => (dictionary.lookup (String.singleton c)).isSome
  | _ => true

/-! ## ASCII characters -/

section Ascii

variable {c : Char} {cs : List Char}

/-- What holds of the first 128 characters holds of each ASCII character. -/
theorem of_ascii {P : Char → Prop} (each : ∀ n : Fin 128, P (Char.ofNat n))
    (ascii : c.toNat < 128) : P c := by
  have there := each ⟨c.toNat, ascii⟩
  rwa [Char.ofNat_toNat] at there

theorem not_blank_of_isWordChar (ascii : c.toNat < 128) :
    isWordChar c = true → Text.isBlank c = false ∧ c ≠ '"' :=
  @of_ascii c (fun c => isWordChar c = true → Text.isBlank c = false ∧ c ≠ '"') (by decide) ascii

/-- A small letter is a word character where the capital one is, it is small itself, and it is no
part of a number unless it is the same character. -/
theorem toLower_facts (ascii : c.toNat < 128) :
    c.toLower.toNat < 128 ∧ isWordChar c.toLower = isWordChar c ∧ c.toLower.toLower = c.toLower ∧
      (c.toLower.isDigit = true ∨ c.toLower = '-' → c.toLower = c) :=
  @of_ascii c (fun c => c.toLower.toNat < 128 ∧ isWordChar c.toLower = isWordChar c ∧
    c.toLower.toLower = c.toLower ∧ (c.toLower.isDigit = true ∨ c.toLower = '-' → c.toLower = c))
    (by decide) ascii

theorem ascii_of_isDigit (digit : c.isDigit = true) : c.toNat < 128 := by
  have range := (Char.isDigit_iff_toNat.mp digit).2
  have nine : '9'.toNat = 57 := rfl
  omega

theorem isWordChar_of_isDigit (digit : c.isDigit = true) : isWordChar c = true :=
  @of_ascii c (fun c => c.isDigit = true → isWordChar c = true) (by decide)
    (ascii_of_isDigit digit) digit

/-- In ASCII a text is put in lower case letter by letter. -/
theorem lowerAfter_eq_map (before : List Char) (ascii : ∀ c ∈ cs, c.toNat < 128) :
    Text.lowerAfter before cs = cs.map Char.toLower := by
  induction cs generalizing before with
  | nil => rfl
  | cons c rest ih =>
    have first := ascii c (List.mem_cons_self ..)
    have sigma : (c == 'Σ') = false := by
      rw [beq_eq_false_iff_ne]
      rintro rfl
      exact absurd first (by decide)
    rw [Text.lowerAfter, sigma, if_neg Bool.false_ne_true, Text.lowerLetters, if_pos first,
      ih _ fun d member => ascii d (List.mem_cons_of_mem _ member)]
    rfl

theorem map_toLower_eq_self (small : ∀ c ∈ cs, c.toLower = c) : cs.map Char.toLower = cs :=
  (List.map_congr_left small).trans (List.map_id' cs)

theorem toList_lowerCase (ascii : ∀ c ∈ cs, c.toNat < 128) :
    (Text.lowerCase (String.ofList cs)).toList = cs.map Char.toLower := by
  rw [Text.lowerCase, String.toList_ofList, String.toList_ofList, lowerAfter_eq_map [] ascii]

end Ascii

/-! ## Numbers -/

section Numbers

variable {cs : List Char}

theorem digits?_toDigits (n : Nat) : digits? (Nat.toDigits 10 n) = some n := by
  have digits : (Nat.toDigits 10 n).all Char.isDigit = true :=
    List.all_eq_true.mpr fun c member =>
      Nat.isDigit_of_mem_toDigits (by decide) (by decide) member
  rw [digits?, if_pos ⟨Nat.toDigits_ne_nil, digits⟩]
  refine congrArg some (Eq.trans ?_ (@Nat.ofDigitChars_ten_toDigits n))
  rw [Nat.ofDigitChars_eq_foldl]
  simp only [Nat.mul_comm]

theorem integer?_of_not_minus (plain : cs.head? ≠ some '-') :
    integer? cs =
      (digits? cs).bind fun n => if n < 0x8000000000000000 then some (n : Int) else none := by
  unfold integer?
  split
  · exact absurd rfl plain
  · rfl

/-- The numbers of 64 bits. -/
def Fits (value : Int) : Prop := -0x8000000000000000 ≤ value ∧ value < 0x8000000000000000

theorem fits_of_integer? {value : Int} (reads : integer? cs = some value) : Fits value := by
  unfold integer? at reads
  unfold Fits
  split at reads
  all_goals
    obtain ⟨n, -, read⟩ := Option.bind_eq_some_iff.mp reads
    split at read <;> cases read
    omega

/-- The digits of a number, with a minus sign before them or not. -/
inductive Spells : Int → List Char → Prop where
  | natural (n : Nat) : Spells n (Nat.toDigits 10 n)
  | negative (n : Nat) : Spells (-n) ('-' :: Nat.toDigits 10 n)

theorem spells_typed (value : Int) : Spells value (Literal.integer value).typed.toList := by
  rw [Literal.typed, Int.toString_eq_repr, Int.repr_eq_if]
  split
  · next natural =>
    rw [Nat.repr_eq_ofList_toDigits, String.toList_ofList]
    have same : (value.toNat : Int) = value := Int.toNat_of_nonneg natural
    exact same ▸ .natural value.toNat
  · next negative =>
    rw [Nat.repr_eq_ofList_toDigits, String.toList_append, @String.toList_ofList (Nat.toDigits _ _)]
    have same : value = -((-value).toNat : Int) := by omega
    generalize (-value).toNat = n at same
    exact same ▸ .negative n

theorem Spells.integer? {value : Int} (spells : Spells value cs) (fits : Fits value) :
    Token.integer? cs = some value := by
  unfold Fits at fits
  cases spells with
  | natural n =>
    have plain : (Nat.toDigits 10 n).head? ≠ some '-' := by
      intro minus
      have member := List.mem_of_mem_head? minus
      have digit := Nat.isDigit_of_mem_toDigits (by decide) (by decide) member
      exact absurd digit (by decide)
    rw [integer?_of_not_minus plain, digits?_toDigits, Option.bind_some, if_pos (by omega)]
  | negative n =>
    show (digits? _).bind _ = _
    rw [digits?_toDigits, Option.bind_some, if_pos (by omega)]

theorem Spells.isWordChar {value : Int} (spells : Spells value cs) :
    cs ≠ [] ∧ ∀ c ∈ cs, c.toNat < 128 ∧ Token.isWordChar c = true := by
  have digits (n : Nat) : ∀ c ∈ Nat.toDigits 10 n, c.toNat < 128 ∧ Token.isWordChar c = true := by
    intro c member
    have digit := Nat.isDigit_of_mem_toDigits (by decide) (by decide) member
    exact ⟨ascii_of_isDigit digit, isWordChar_of_isDigit digit⟩
  cases spells with
  | natural n => exact ⟨Nat.toDigits_ne_nil, digits n⟩
  | negative n => exact ⟨List.cons_ne_nil _ _, List.forall_mem_cons.mpr ⟨by decide, digits n⟩⟩

theorem digits_of_digits? {n : Nat} (reads : digits? cs = some n) :
    ∀ c ∈ cs, c.isDigit = true := by
  unfold digits? at reads
  split at reads
  · next digits => exact List.all_eq_true.mp digits.2
  · cases reads

theorem chars_of_integer? {value : Int} (reads : integer? cs = some value) :
    ∀ c ∈ cs, c.isDigit = true ∨ c = '-' := by
  unfold integer? at reads
  split at reads
  all_goals
    obtain ⟨n, digits, -⟩ := Option.bind_eq_some_iff.mp reads
    have each := digits_of_digits? digits
  · exact List.forall_mem_cons.mpr ⟨Or.inr rfl, fun c member => Or.inl (each c member)⟩
  · exact fun c member => Or.inl (each c member)

/-- A word in lower case is a number only if it was one before. -/
theorem integer?_map_toLower (ascii : ∀ c ∈ cs, c.toNat < 128) (plain : integer? cs = none) :
    integer? (cs.map Char.toLower) = none := by
  cases reads : integer? (cs.map Char.toLower) with
  | none => rfl
  | some value =>
    have same : cs.map Char.toLower = cs := by
      refine map_toLower_eq_self fun c member => ?_
      have part := chars_of_integer? reads c.toLower (List.mem_map_of_mem member)
      exact (toLower_facts (ascii c member)).2.2.2 part
    rw [same, plain] at reads
    cases reads

end Numbers

/-! ## Legible tokens -/

/-- Written out, the token can be read again. -/
inductive Legible : Token → Prop where
  | word {text : String} (some : text.toList ≠ [])
      (chars : ∀ c ∈ text.toList, c.toNat < 128 ∧ isWordChar c = true)
      (small : ∀ c ∈ text.toList, c.toLower = c) (plain : integer? text.toList = none) :
      Legible (.word text)
  | integer {value : Int} (fits : Fits value) : Legible (.integer value)
  | quoted {text : String} (unquoted : '"' ∉ text.toList) : Legible (.quoted text)
  | punctuation {c : Char} (blank : Text.isBlank c = false) (quote : c ≠ '"')
      (other : isWordChar c = false) : Legible (.punctuation c)

section Legible

variable {cs rest : List Char}

theorem legible_ofWord (some : cs ≠ []) (chars : ∀ c ∈ cs, c.toNat < 128 ∧ isWordChar c = true) :
    Legible (ofWord cs) := by
  have ascii := fun c member => (chars c member).1
  unfold ofWord
  split
  · next value reads => exact .integer (fits_of_integer? reads)
  · next plain =>
    have text := toList_lowerCase ascii
    refine .word ?_ ?_ ?_ ?_
    · rw [text]
      exact fun none => some (List.map_eq_nil_iff.mp none)
    · rw [text, List.forall_mem_map]
      intro c member
      obtain ⟨ascii', same, -⟩ := toLower_facts (ascii c member)
      exact ⟨ascii', same.trans (chars c member).2⟩
    · rw [text, List.forall_mem_map]
      exact fun c member => (toLower_facts (ascii c member)).2.2.1
    · rw [text]
      exact integer?_map_toLower ascii plain

/-- The tokens of an ASCII line are legible. -/
theorem legible_of_mem (ascii : ∀ c ∈ cs, c.toNat < 128) : ∀ t ∈ ofChars cs, Legible t := by
  fun_induction ofChars cs with
  | case1 => exact List.forall_mem_nil _
  | case2 c rest blank ih => exact ih fun d member => ascii d (List.mem_cons_of_mem _ member)
  | case3 c rest blank quote ih =>
    refine List.forall_mem_cons.mpr ⟨.quoted fun member => ?_, ih fun d member => ?_⟩
    · rw [String.toList_ofList] at member
      have open' := List.all_eq_true.mp (@List.all_takeWhile _ (· != '"') rest) _ member
      exact absurd open' (by decide)
    · have inside := (List.drop_sublist ..).trans (List.dropWhile_sublist ..) |>.subset member
      exact ascii d (List.mem_cons_of_mem _ inside)
  | case4 c rest blank quote word ih =>
    refine List.forall_mem_cons.mpr
      ⟨legible_ofWord (List.cons_ne_nil _ _) ?_, ih fun d member => ?_⟩
    · refine List.forall_mem_cons.mpr ⟨⟨ascii c (List.mem_cons_self ..), word⟩, fun d member => ?_⟩
      have inside := (List.takeWhile_sublist ..).subset member
      exact ⟨ascii d (List.mem_cons_of_mem _ inside),
        List.all_eq_true.mp List.all_takeWhile _ member⟩
    · have inside := (List.dropWhile_sublist ..).subset member
      exact ascii d (List.mem_cons_of_mem _ inside)
  | case5 c rest blank quote word ih =>
    refine List.forall_mem_cons.mpr ⟨.punctuation ?_ ?_ ?_, ih fun d member => ?_⟩
    · exact Bool.eq_false_iff.mpr blank
    · simpa using quote
    · exact Bool.eq_false_iff.mpr word
    · exact ascii d (List.mem_cons_of_mem _ member)

theorem ofChars_nil : ofChars [] = [] := ofChars.eq_def []

theorem ofChars_cons (c : Char) (rest : List Char) :
    ofChars (c :: rest) =
      if Text.isBlank c then ofChars rest
      else if c == '"' then
        .quoted (String.ofList (rest.takeWhile (· != '"'))) ::
          ofChars ((rest.dropWhile (· != '"')).drop 1)
      else if isWordChar c then
        ofWord (c :: rest.takeWhile isWordChar) :: ofChars (rest.dropWhile isWordChar)
      else .punctuation c :: ofChars rest :=
  ofChars.eq_def (c :: rest)

/-- A run of word characters is one token. -/
theorem ofChars_append (some : cs ≠ []) (chars : ∀ c ∈ cs, c.toNat < 128 ∧ isWordChar c = true)
    (ended : rest.takeWhile isWordChar = []) :
    ofChars (cs ++ rest) = ofWord cs :: ofChars rest := by
  obtain ⟨c, others, rfl⟩ := List.exists_cons_of_ne_nil some
  obtain ⟨first, later⟩ := List.forall_mem_cons.mp chars
  obtain ⟨blank, quote⟩ := not_blank_of_isWordChar first.1 first.2
  have dropped : rest.dropWhile isWordChar = rest := by
    have whole := @List.takeWhile_append_dropWhile _ isWordChar rest
    rwa [ended] at whole
  rw [List.cons_append, ofChars_cons, blank, if_neg Bool.false_ne_true,
    if_neg (by simpa using quote), if_pos first.2,
    List.takeWhile_append_of_pos fun d member => (later d member).2,
    List.dropWhile_append_of_pos fun d member => (later d member).2, ended, dropped,
    List.append_nil]

theorem Legible.ofChars_append {token : Token} (legible : Legible token)
    (ended : rest.takeWhile isWordChar = []) :
    ofChars (token.typed.toList ++ rest) = token :: ofChars rest := by
  cases legible with
  | @word text some chars small plain =>
    have same : Text.lowerCase text = text := by
      rw [← String.toList_inj]
      have := toList_lowerCase fun c member => (chars c member).1
      rw [String.ofList_toList] at this
      rw [this]
      exact map_toLower_eq_self small
    show ofChars (text.toList ++ rest) = _
    rw [Token.ofChars_append some chars ended, ofWord, plain, String.ofList_toList]
    dsimp only
    rw [same]
  | @integer value fits =>
    have spells := spells_typed value
    show ofChars ((Literal.integer value).typed.toList ++ rest) = _
    rw [Token.ofChars_append spells.isWordChar.1 spells.isWordChar.2 ended, ofWord,
      spells.integer? fits]
  | @quoted text unquoted =>
    have whole : (typed (.quoted text)).toList ++ rest = '"' :: (text.toList ++ '"' :: rest) := by
      simp [typed, Literal.typed]
    have each : ∀ c ∈ text.toList, (c != '"') = true := by
      intro c member
      rw [bne_iff_ne]
      rintro rfl
      exact unquoted member
    rw [whole, ofChars_cons, if_neg (by decide), if_pos (by decide),
      List.takeWhile_append_of_pos each, List.dropWhile_append_of_pos each]
    simp
  | @punctuation c blank quote other =>
    show ofChars ((String.singleton c).toList ++ rest) = _
    rw [String.toList_singleton, List.singleton_append, ofChars_cons, blank, other,
      if_neg Bool.false_ne_true, if_neg (by simpa using quote), if_neg Bool.false_ne_true]

/-- Legible tokens are the tokens of the line that they are written out to. -/
theorem ofChars_intercalate {tokens : List Token} (legible : ∀ t ∈ tokens, Legible t) :
    ofChars (" ".intercalate (tokens.map typed)).toList = tokens := by
  rw [String.toList_intercalate]
  induction tokens with
  | nil => exact ofChars_nil
  | cons token others ih =>
    obtain ⟨first, later⟩ := List.forall_mem_cons.mp legible
    rw [List.map_cons, List.map_cons]
    cases others with
    | nil =>
      have alone := @Legible.ofChars_append [] token first rfl
      rw [List.append_nil, ofChars_nil] at alone
      rwa [List.map_nil, List.map_nil, List.intercalate_singleton]
    | cons next others =>
      have later := ih later
      have ended (tail : List Char) : (" ".toList ++ tail).takeWhile isWordChar = [] :=
        List.takeWhile_cons_of_neg (by decide)
      rw [List.map_cons, List.map_cons] at later ⊢
      rw [List.intercalate_cons_cons, List.append_assoc, first.ofChars_append (ended _)]
      refine congrArg (token :: ·) (Eq.trans ?_ later)
      show ofChars (' ' :: _) = _
      rw [ofChars_cons, if_pos (by decide)]
      rfl

end Legible

end Token

/-! ## Words -/

/-- A word as the player would type it. -/
def PlayerWord.typed : PlayerWord → String
  | .known _ text => text
  | .value literal _ => literal.typed

theorem Words.spanText_all (words : List PlayerWord) (dictionary : Dictionary) :
    (⟨words, dictionary⟩ : Words).spanText 0 (words.length - 1) =
      " ".intercalate (words.map PlayerWord.typed) := by
  have count : min (words.length - 1 + 1) words.length - 0 = words.length := by omega
  have texts : (List.range' 0 words.length).map (⟨words, dictionary⟩ : Words).text =
      words.map PlayerWord.typed := by
    refine List.ext_getElem (by simp) fun index inside _ => ?_
    have place : index < words.length := by simpa using inside
    simp only [List.getElem_map, List.getElem_range', Nat.zero_add, Nat.one_mul, text, word?,
      List.getElem?_eq_getElem place]
    cases words[index] <;> rfl
  unfold spanText
  show " ".intercalate ((List.range' 0 (min (words.length - 1 + 1) words.length - 0)).map _) = _
  rw [count, texts]

section Scanning

variable {story : Story} {world : World story}

/-- What is passed over makes no difference to the scan. -/
theorem scanTokens_filter (tokens : List Token) :
    scanTokens world (tokens.filter (Token.isKept story.dictionary)) = scanTokens world tokens := by
  induction tokens generalizing world with
  | nil => rfl
  | cons token rest ih =>
    rw [List.filter_cons]
    cases token with
    | word text =>
      cases found : story.dictionary.lookup text with
      | none => simp [Token.isKept, scanTokens, found]
      | some entry =>
        cases noise : story.dictionary.isNoise entry <;>
          simp [Token.isKept, scanTokens, found, noise, ih]
    | punctuation c =>
      cases found : story.dictionary.lookup (String.singleton c) <;>
        simp [Token.isKept, scanTokens, found, ih]
    | integer value => simp [Token.isKept, scanTokens, ih]
    | quoted text => simp [Token.isKept, scanTokens, ih]

/-- The tokens stand for these words, and the literals among them have been added to the world. -/
inductive Scans : World story → List Token → List PlayerWord → World story → Prop where
  | done {world : World story} : Scans world [] [] world
  | passed {world after : World story} {token : Token} {rest : List Token}
      {words : List PlayerWord} (dropped : token.isKept story.dictionary = false)
      (later : Scans world rest words after) : Scans world (token :: rest) words after
  | known {world after : World story} {token : Token} {rest : List Token}
      {words : List PlayerWord} {entry : Nat} (kept : token.isKept story.dictionary = true)
      (plain : token.literal? = none) (later : Scans world rest words after) :
      Scans world (token :: rest) (.known entry token.typed :: words) after
  | value {world after : World story} {token : Token} {rest : List Token}
      {words : List PlayerWord} {literal : Literal} (stands : token.literal? = some literal)
      (later : Scans (world.createLiteral literal).2 rest words after) :
      Scans world (token :: rest) (.value literal (world.createLiteral literal).1 :: words) after

theorem exists_of_map_ok {ε α β : Type} {f : α → β} {result : Except ε α} {value : β}
    (ok : result.map f = .ok value) : ∃ inner, result = .ok inner ∧ value = f inner := by
  cases result with
  | error fault => cases ok
  | ok inner =>
    cases ok
    exact ⟨inner, rfl, rfl⟩

theorem scans_of_scanTokens {tokens : List Token} {words : List PlayerWord}
    (scanned : (scanTokens world tokens).1 = .ok words) :
    Scans world tokens words (scanTokens world tokens).2 := by
  induction tokens generalizing world words with
  | nil =>
    cases scanned
    exact .done
  | cons token rest ih =>
    cases token with
    | word text =>
      unfold scanTokens at scanned ⊢
      split at scanned
      · cases scanned
      · next entry found =>
        dsimp only at scanned ⊢
        cases noise : story.dictionary.isNoise entry with
        | true =>
          rw [noise, if_pos rfl] at scanned
          exact .passed (by simp [Token.isKept, found, noise]) (ih scanned)
        | false =>
          rw [noise, if_neg Bool.false_ne_true] at scanned
          obtain ⟨later, ok, rfl⟩ := exists_of_map_ok scanned
          exact .known (by simp [Token.isKept, found, noise]) rfl (ih ok)
    | punctuation c =>
      unfold scanTokens at scanned ⊢
      dsimp only at scanned ⊢
      cases found : story.dictionary.lookup (String.singleton c) with
      | none =>
        rw [found] at scanned
        exact .passed (by simp [Token.isKept, found]) (ih scanned)
      | some entry =>
        rw [found] at scanned
        obtain ⟨later, ok, rfl⟩ := exists_of_map_ok scanned
        exact .known (by simp [Token.isKept, found]) rfl (ih ok)
    | integer value =>
      unfold scanTokens at scanned ⊢
      obtain ⟨later, ok, rfl⟩ := exists_of_map_ok scanned
      exact .value rfl (ih ok)
    | quoted text =>
      unfold scanTokens at scanned ⊢
      obtain ⟨later, ok, rfl⟩ := exists_of_map_ok scanned
      exact .value rfl (ih ok)

theorem Token.facts_of_literal? {token : Token} {literal : Literal}
    (stands : token.literal? = some literal) (dictionary : Dictionary) :
    token.isKept dictionary = true ∧ token.typed = literal.typed := by
  cases token <;> cases stands
  all_goals exact ⟨rfl, rfl⟩

/-- The texts of the words are those of the tokens that are kept. -/
theorem Scans.typed {after : World story} {tokens : List Token} {words : List PlayerWord}
    (scans : Scans world tokens words after) :
    words.map PlayerWord.typed =
      (tokens.filter (Token.isKept story.dictionary)).map Token.typed := by
  induction scans with
  | done => rfl
  | passed dropped later ih => rw [ih, List.filter_cons_of_neg (by simp [dropped])]
  | known kept plain later ih =>
    rw [List.filter_cons_of_pos kept, List.map_cons, List.map_cons, ih]
    rfl
  | value stands later ih =>
    obtain ⟨kept, typed⟩ := Token.facts_of_literal? stands story.dictionary
    rw [List.filter_cons_of_pos kept, List.map_cons, List.map_cons, ih, typed]
    rfl

/-- **What is understood is understood again.**  If an ASCII line is scanned in a world without
literals, then the texts of its words with blanks between them are scanned to the same words in any
world of the story that has no literals: the same entries of the dictionary, the same texts, and the
same literals under the same numbers. -/
theorem scan_spanText {world other : World story} {line : String} {words : List PlayerWord}
    (ascii : ∀ c ∈ line.toList, c.toNat < 128) (none : world.literals = [])
    (none' : other.literals = []) (scanned : (scan world line).1 = .ok words) :
    (scan other ((⟨words, story.dictionary⟩ : Words).spanText 0 (words.length - 1))).1 =
      .ok words := by
  let kept := (Token.ofChars line.toList).filter (Token.isKept story.dictionary)
  have legible : ∀ t ∈ kept, t.Legible := fun t member =>
    Token.legible_of_mem ascii t (List.mem_of_mem_filter member)
  have texts : words.map PlayerWord.typed = kept.map Token.typed :=
    (scans_of_scanTokens scanned).typed
  calc
    _ = (scanTokens other kept).1 := by
      rw [scan, Words.spanText_all, texts, Token.ofChars_intercalate legible]
    _ = (scanTokens world kept).1 := scanTokens_congr kept (none'.trans none.symm)
    _ = (scan world line).1 := congrArg Prod.fst (scanTokens_filter _)
    _ = _ := scanned

/-- Capitals, leading zeros and a comma that is no word are gone, the quote has been closed, and the
hero has climbed onto the apple. -/
theorem scan_spanText_scales :
    let world := World.initial Story.scales
    let other := world.locate 2 3
    let words : List PlayerWord :=
      [.known 0 "weigh", .value (.integer 7) 4, .value (.string "Ab") 5]
    (scan world "Weigh, 007 \"Ab").1 = .ok words ∧ (scan other "weigh 7 \"Ab\"").1 = .ok words := by
  intro world other words
  have scanned : (scan world "Weigh, 007 \"Ab").1 = .ok words := by decide +kernel
  have text : (⟨words, Story.scales.dictionary⟩ : Words).spanText 0 (words.length - 1) =
      "weigh 7 \"Ab\"" := by decide
  have again : (scan other ((⟨words, Story.scales.dictionary⟩ : Words).spanText 0
      (words.length - 1))).1 = .ok words := scan_spanText (by simp) rfl rfl scanned
  rw [text] at again
  exact ⟨scanned, again⟩

end Scanning

end TextAdventure
