import TextAdventure.Transcript
/-!
# Templates with their places filled in

A template is read from left to right.  A `$` with the number of a parameter behind it is a place;
where several numbers could be meant it is the longest one, so that the digits of a number are never
cut short.  All else stands for itself (`Renders`).  The narrator fills in one parameter after the
other, the highest number first.  Between two of these steps the text is the template in which the
places of the higher numbers have been filled in and the others are still there (`shownAbove`),
provided that a text that has been filled in does not make a place of its own (`Harmless`).
-/

namespace TextAdventure

/-! ## Numbers -/

/-- What a number without a leading zero begins with is such a number again, and no greater one. -/
theorem exists_of_prefix_toDigits {n : Nat} (positive : 0 < n) {digits : List Char}
    (some : digits ≠ []) (beginning : digits <+: Nat.toDigits 10 n) :
    ∃ m, 0 < m ∧ m ≤ n ∧ digits = Nat.toDigits 10 m := by
  induction n using Nat.strongRecOn with
  | _ n ih =>
    by_cases small : n < 10
    · rw [Nat.toDigits_of_lt_base small, ← List.nil_append [_], List.prefix_concat_iff] at beginning
      have whole := beginning.resolve_right fun none => some (List.prefix_nil.mp none)
      exact ⟨n, positive, Nat.le_refl n, whole.trans (Nat.toDigits_of_lt_base small).symm⟩
    · rw [Nat.toDigits_of_base_le (by omega) (by omega), List.prefix_concat_iff] at beginning
      rcases beginning with whole | shorter
      · exact ⟨n, positive, Nat.le_refl n,
          whole.trans (Nat.toDigits_of_base_le (by omega) (by omega)).symm⟩
      · obtain ⟨m, positive', le, eq⟩ := ih (n / 10) (by omega) (by omega) shorter
        exact ⟨m, positive', by omega, eq⟩

theorem toDigits_injective {m n : Nat} (same : Nat.toDigits 10 m = Nat.toDigits 10 n) : m = n := by
  rw [← @Nat.ofDigitChars_ten_toDigits m, same, Nat.ofDigitChars_ten_toDigits]

theorem le_of_toDigits_prefix {m n : Nat} (positive : 0 < n)
    (beginning : Nat.toDigits 10 m <+: Nat.toDigits 10 n) : m ≤ n := by
  obtain ⟨m', -, le, eq⟩ := exists_of_prefix_toDigits positive Nat.toDigits_ne_nil beginning
  exact toDigits_injective eq ▸ le

theorem isDigit_of_mem {n : Nat} {c : Char} (member : c ∈ Nat.toDigits 10 n) :
    c.isDigit = true :=
  Nat.isDigit_of_mem_toDigits (by omega) (by omega) member

namespace Template

/-! ## Templates -/

/-- The text begins with the number of one of `count` parameters. -/
structure Names (count n : Nat) (text : List Char) : Prop where
  positive : 0 < n
  counted : n ≤ count
  begins : Nat.toDigits 10 n <+: text

/-- The number has as many digits as there can be at the beginning of the text. -/
structure Longest (count n : Nat) (text : List Char) : Prop extends Names count n text where
  most : ∀ m, Names count m text → (Nat.toDigits 10 m).length ≤ (Nat.toDigits 10 n).length

/-- A template with `count` parameters reads like this if its places are shown so.  What is shown is
not read again. -/
inductive Renders (count : Nat) (shown : Nat → List Char) : List Char → List Char → Prop where
  | done : Renders count shown [] []
  /-- A place, with the longest number that there is. -/
  | place {n : Nat} {after rendered : List Char}
      (longest : Longest count n (Nat.toDigits 10 n ++ after))
      (later : Renders count shown after rendered) :
      Renders count shown ('$' :: (Nat.toDigits 10 n ++ after)) (shown n ++ rendered)
  /-- Any other character, also a `$` with no such number behind it. -/
  | other {c : Char} {after rendered : List Char} (plain : c = '$' → ∀ n, ¬ Names count n after)
      (later : Renders count shown after rendered) :
      Renders count shown (c :: after) (c :: rendered)

section Renders

variable {count : Nat} {shown : Nat → List Char}

/-- Behind a `$` there is a longest number, or none. -/
theorem exists_longest {n : Nat} {text : List Char} (names : Names count n text) :
    ∃ m, Longest count m text := by
  -- a number that is not the longest makes room for a longer one, up to the length of the text
  induction room : text.length - (Nat.toDigits 10 n).length using Nat.strongRecOn
    generalizing n with
  | _ room' ih =>
    subst room
    by_cases most : ∀ m, Names count m text →
        (Nat.toDigits 10 m).length ≤ (Nat.toDigits 10 n).length
    · exact ⟨n, names, most⟩
    · simp only [Classical.not_forall, Nat.not_le] at most
      obtain ⟨m, names', longer⟩ := most
      have fits := names'.begins.length_le
      exact ih _ (by omega) names' rfl

theorem Longest.unique {m n : Nat} {text : List Char} (one : Longest count m text)
    (other : Longest count n text) : m = n := by
  have sizes := Nat.le_antisymm (other.most m one.toNames) (one.most n other.toNames)
  exact toDigits_injective
    ((List.prefix_of_prefix_length_le one.begins other.begins (Nat.le_of_eq sizes)).eq_of_length
      sizes)

/-- A template reads in one way only. -/
theorem Renders.unique {template one another : List Char} (first : Renders count shown template one)
    (second : Renders count shown template another) : one = another := by
  induction first generalizing another with
  | done =>
    cases second
    rfl
  | @place n after rendered longest later ih =>
    generalize whole : '$' :: (Nat.toDigits 10 n ++ after) = template at second
    cases second with
    | done => cases whole
    | @place n' after' rendered' longest' later' =>
      rw [List.cons.injEq, and_iff_right rfl] at whole
      obtain rfl := longest.unique (whole ▸ longest')
      obtain rfl := List.append_cancel_left whole
      rw [ih later']
    | other plain later' =>
      obtain ⟨rfl, rfl⟩ := List.cons.inj whole
      exact absurd longest.toNames (plain rfl n)
  | @other c after rendered plain later ih =>
    generalize whole : c :: after = template at second
    cases second with
    | done => cases whole
    | place longest' later' =>
      obtain ⟨rfl, rfl⟩ := List.cons.inj whole
      exact absurd longest'.toNames (plain rfl _)
    | other plain' later' =>
      obtain ⟨rfl, rfl⟩ := List.cons.inj whole
      rw [ih later']

/-- Where every place is shown as itself, so is the template. -/
theorem renders_self (same : ∀ n, n ≤ count → shown n = '$' :: Nat.toDigits 10 n)
    (template : List Char) : Renders count shown template template := by
  induction size : template.length using Nat.strongRecOn generalizing template with
  | _ size' ih =>
    subst size
    match template with
    | [] => exact .done
    | c :: after =>
      by_cases names : c = '$' ∧ ∃ n, Names count n after
      · obtain ⟨rfl, _, names⟩ := names
        obtain ⟨n, longest⟩ := exists_longest names
        obtain ⟨behind, rfl⟩ := longest.begins
        have shorter : behind.length < ('$' :: (Nat.toDigits 10 n ++ behind)).length := by
          rw [List.length_cons, List.length_append]
          omega
        have later := ih behind.length shorter behind rfl
        have place := Renders.place longest later
        rwa [same n longest.counted] at place
      · refine .other (fun sign n there => names ⟨sign, n, there⟩) ?_
        exact ih after.length (by simp) after rfl

theorem Renders.congr {shown' : Nat → List Char} {template rendered : List Char}
    (same : ∀ n, 0 < n → n ≤ count → shown n = shown' n)
    (renders : Renders count shown template rendered) : Renders count shown' template rendered := by
  induction renders with
  | done => exact .done
  | place longest later ih =>
    rw [same _ longest.positive longest.counted]
    exact .place longest ih
  | other plain later ih => exact .other plain ih

/-- Text without a `$` stands for itself. -/
theorem Renders.plain_append {text template rendered : List Char} (plain : '$' ∉ text)
    (later : Renders count shown template rendered) :
    Renders count shown (text ++ template) (text ++ rendered) := by
  induction text with
  | nil => exact later
  | cons c text ih =>
    rw [List.mem_cons, not_or] at plain
    exact .other (fun sign => absurd sign.symm plain.1) (ih plain.2)

/-- With less than ten parameters a place has one digit. -/
theorem longest_of_few (few : count < 10) {n : Nat} (positive : 0 < n) (counted : n ≤ count)
    (after : List Char) : Longest count n (Nat.toDigits 10 n ++ after) := by
  refine ⟨⟨positive, counted, List.prefix_append ..⟩, fun m names => ?_⟩
  rw [Nat.toDigits_of_lt_base (Nat.lt_of_le_of_lt names.counted few),
    Nat.toDigits_of_lt_base (Nat.lt_of_le_of_lt counted few)]
  exact Nat.le_refl 1

end Renders

end Template

/-! ## One replacement -/

namespace Text

section Replacement

variable {pattern replacement : List Char}

theorem replaceFrom_length (before rest : List Char) :
    replaceFrom pattern replacement before.length (before ++ rest) =
      replaceFrom pattern replacement 0 rest := by
  induction before with
  | nil => rfl
  | cons c before ih => exact ih

theorem replaceFrom_pattern (some : pattern ≠ []) (rest : List Char) :
    replaceFrom pattern replacement 0 (pattern ++ rest) =
      replacement ++ replaceFrom pattern replacement 0 rest := by
  obtain ⟨c, others, rfl⟩ := List.exists_cons_of_ne_nil some
  rw [List.cons_append, replaceFrom, if_pos (by simp), List.length_cons, Nat.add_sub_cancel,
    replaceFrom_length]

theorem replaceFrom_cons {c : Char} {rest : List Char} (elsewhere : ¬ pattern <+: c :: rest) :
    replaceFrom pattern replacement 0 (c :: rest) =
      c :: replaceFrom pattern replacement 0 rest := by
  rw [replaceFrom, if_neg]
  rw [Bool.and_eq_true, List.isPrefixOf_iff_prefix]
  exact fun both => elsewhere both.2

end Replacement

end Text

namespace Template

/-- Every `$` of the text has a character behind it that is no digit. -/
def Closed (text : List Char) : Prop :=
  ∀ before after, text = before ++ '$' :: after → ∃ c rest, after = c :: rest ∧ c.isDigit = false

/-- There is no `$` and no other place right before, which a text that is filled in behind it could
make a different place of. -/
structure Apart (count : Nat) (before : List Char) : Prop where
  sign : ¬ ['$'] <:+ before
  place : ∀ m, 0 < m → m ≤ count → ¬ ('$' :: Nat.toDigits 10 m) <:+ before

/-- The text of a parameter makes no place of its own in the template: not by itself, and not with
what stands before the places of the parameter. -/
structure Harmless (count n : Nat) (template text : List Char) : Prop where
  closed : Closed text
  apart : (∃ c rest, text = c :: rest ∧ c.isDigit = false) ∨
    ∀ before after, template = before ++ '$' :: (Nat.toDigits 10 n ++ after) → Apart count before

section Harmless

variable {count : Nat}

theorem closed_of_plain {text : List Char} (plain : '$' ∉ text) : Closed text := by
  rintro before after rfl
  exact absurd (List.mem_append_right before (List.mem_cons_self ..)) plain

theorem Closed.tail {c : Char} {text : List Char} (closed : Closed (c :: text)) : Closed text :=
  fun before after whole => closed (c :: before) after (congrArg (c :: ·) whole)

theorem closed_toDigits (n : Nat) : Closed (Nat.toDigits 10 n) := by
  intro before after whole
  have digit := @isDigit_of_mem n '$' (whole ▸ List.mem_append_right _ (List.mem_cons_self ..))
  exact absurd digit (by decide)

theorem Apart.of_append {first before : List Char} (apart : Apart count (first ++ before)) :
    Apart count before := by
  have inside := List.suffix_append first before
  exact ⟨fun sign => apart.sign (sign.trans inside), fun m positive counted place =>
    apart.place m positive counted (place.trans inside)⟩

theorem Harmless.of_append {n : Nat} {first template text : List Char}
    (harmless : Harmless count n (first ++ template) text) : Harmless count n template text := by
  refine ⟨harmless.closed, harmless.apart.imp_right fun apart before after whole => ?_⟩
  refine (apart (first ++ before) after ?_).of_append
  rw [whole, List.append_assoc]

/-- A number does not begin with anything but a digit. -/
theorem not_toDigits_prefix {n : Nat} {c : Char} {rest : List Char} (plain : c.isDigit = false) :
    ¬ Nat.toDigits 10 n <+: c :: rest := by
  intro beginning
  obtain ⟨d, others, digits⟩ := List.exists_cons_of_ne_nil (@Nat.toDigits_ne_nil n 10)
  have digit := @isDigit_of_mem n d (digits ▸ List.mem_cons_self ..)
  rw [digits, List.cons_prefix_cons] at beginning
  rw [beginning.1, plain] at digit
  cases digit

/-- A text that is closed is passed over by any replacement of a place. -/
theorem replaceFrom_of_closed {n : Nat} {replacement text : List Char} (closed : Closed text)
    (rest : List Char) :
    Text.replaceFrom ('$' :: Nat.toDigits 10 n) replacement 0 (text ++ rest) =
      text ++ Text.replaceFrom ('$' :: Nat.toDigits 10 n) replacement 0 rest := by
  induction text with
  | nil => rfl
  | cons c text ih =>
    rw [List.cons_append, Text.replaceFrom_cons, ih closed.tail, List.cons_append]
    intro beginning
    obtain ⟨rfl, digits⟩ := List.cons_prefix_cons.mp beginning
    obtain ⟨d, others, rfl, plain⟩ := closed [] text rfl
    exact not_toDigits_prefix plain digits

end Harmless

/-! ## One parameter after the other -/

/-- What is shown for the places while only the parameters above `m` have been filled in. -/
def shownAbove (shown : Nat → List Char) (m n : Nat) : List Char :=
  if m < n then shown n else '$' :: Nat.toDigits 10 n

section Step

variable {count m : Nat} {shown : Nat → List Char}

theorem shownAbove_of_lt {n : Nat} (above : m < n) : shownAbove shown m n = shown n := if_pos above

theorem shownAbove_of_le {n : Nat} (below : n ≤ m) :
    shownAbove shown m n = '$' :: Nat.toDigits 10 n :=
  if_neg (Nat.not_lt.mpr below)

/-- Digits behind a `$`, or behind the place with a number, are digits of the template. -/
theorem exists_digit {digits after rendered : List Char}
    (nothing : digits = [] ∨ ∃ n, 0 < n ∧ n ≤ count ∧ digits = Nat.toDigits 10 n)
    (later : Renders count (shownAbove shown m) after rendered)
    (harmless : ∀ n, m < n → n ≤ count → Harmless count n ('$' :: (digits ++ after)) (shown n))
    {c : Char} {others : List Char} (digit : c.isDigit = true) (begins : c :: others <+: rendered) :
    ∃ after', after = c :: after' := by
  cases later with
  | done => cases List.prefix_nil.mp begins
  | @other d after' rendered' plain later' =>
    obtain ⟨rfl, -⟩ := List.cons_prefix_cons.mp begins
    exact ⟨after', rfl⟩
  | @place n after' rendered' longest later' =>
    by_cases above : m < n
    · have there := harmless n above longest.counted
      rw [shownAbove_of_lt above] at begins
      rcases there.apart with ⟨d, rest, text, plain⟩ | apart
      · rw [text, List.cons_append, List.cons_prefix_cons] at begins
        rw [begins.1, plain] at digit
        cases digit
      · have apart := apart ('$' :: digits) after' rfl
        rcases nothing with rfl | ⟨j, positive, counted, rfl⟩
        · exact absurd (List.suffix_refl _) apart.sign
        · exact absurd (List.suffix_refl _) (apart.place j positive counted)
    · rw [shownAbove_of_le (Nat.le_of_not_lt above), List.cons_append,
        List.cons_prefix_cons] at begins
      rw [begins.1] at digit
      cases digit

/-- Behind a `$` the parameters that have been filled in do not make a number any longer. -/
theorem length_toDigits_le {digits after rendered : List Char}
    (nothing : digits = [] ∨ ∃ n, 0 < n ∧ n ≤ count ∧ digits = Nat.toDigits 10 n)
    (most : ∀ q, Names count q (digits ++ after) → (Nat.toDigits 10 q).length ≤ digits.length)
    (later : Renders count (shownAbove shown m) after rendered)
    (harmless : ∀ n, m < n → n ≤ count → Harmless count n ('$' :: (digits ++ after)) (shown n))
    {q : Nat} (positive : 0 < q) (counted : q ≤ count)
    (begins : Nat.toDigits 10 q <+: digits ++ rendered) :
    (Nat.toDigits 10 q).length ≤ digits.length := by
  refine Nat.le_of_not_lt fun longer => ?_
  obtain ⟨more, whole⟩ :=
    List.prefix_of_prefix_length_le (List.prefix_append digits rendered) begins
      (Nat.le_of_lt longer)
  rw [← whole, List.prefix_append_right_inj] at begins
  match more with
  | [] =>
    rw [← whole, List.append_nil] at longer
    exact Nat.lt_irrefl _ longer
  | c :: others =>
    have digit : c.isDigit = true :=
      @isDigit_of_mem q c (whole ▸ List.mem_append_right _ (List.mem_cons_self ..))
    obtain ⟨after', rfl⟩ := exists_digit nothing later harmless digit begins
    -- the digits and this one are a number too, which stands in the template
    have shorter : digits ++ [c] <+: Nat.toDigits 10 q := by
      rw [← whole, List.prefix_append_right_inj]
      exact ⟨others, rfl⟩
    obtain ⟨r, positive', le, eq⟩ := exists_of_prefix_toDigits positive (by simp) shorter
    have names : Names count r (digits ++ c :: after') :=
      ⟨positive', Nat.le_trans le counted, eq ▸ ⟨after', by simp⟩⟩
    have short := most r names
    rw [← eq, List.length_append, List.length_singleton] at short
    exact Nat.not_succ_le_self _ short

/-- To fill in one more parameter is to replace its places in what there is. -/
theorem Renders.replaceFrom {template rendered : List Char} (counted : m < count)
    (renders : Renders count (shownAbove shown (m + 1)) template rendered)
    (harmless : ∀ n, m + 1 < n → n ≤ count → Harmless count n template (shown n)) :
    Renders count (shownAbove shown m) template
      (Text.replaceFrom ('$' :: Nat.toDigits 10 (m + 1)) (shown (m + 1)) 0 rendered) := by
  induction renders with
  | done => exact .done
  | @place n after rendered longest later ih =>
    have later' := ih fun j above counted =>
      @Harmless.of_append count j ('$' :: Nat.toDigits 10 n) _ _ (harmless j above counted)
    have place := Renders.place longest later'
    rcases Nat.lt_trichotomy n (m + 1) with below | rfl | above
    · -- the place of a lower number stays
      rw [shownAbove_of_le (by omega)] at place ⊢
      rw [List.cons_append, Text.replaceFrom_cons, replaceFrom_of_closed (closed_toDigits n)]
      · exact place
      · intro beginning
        have beginning := (List.cons_prefix_cons.mp beginning).2
        have short := length_toDigits_le
          (Or.inr ⟨n, longest.positive, longest.counted, rfl⟩) longest.most later harmless
          (Nat.succ_pos m) counted beginning
        have inside := List.prefix_of_prefix_length_le beginning (List.prefix_append ..) short
        have := le_of_toDigits_prefix longest.positive inside
        omega
    · rw [shownAbove_of_le (Nat.le_refl _), Text.replaceFrom_pattern (List.cons_ne_nil _ _)]
      rwa [shownAbove_of_lt (Nat.lt_succ_self m)] at place
    · -- what has been filled in stays
      rw [shownAbove_of_lt (by omega)] at place ⊢
      rw [replaceFrom_of_closed (harmless n above longest.counted).closed]
      exact place
  | @other c after rendered plain later ih =>
    have later' := ih fun j above counted =>
      @Harmless.of_append count j [c] _ _ (harmless j above counted)
    rw [Text.replaceFrom_cons]
    · exact .other plain later'
    · intro beginning
      obtain ⟨rfl, digits⟩ := List.cons_prefix_cons.mp beginning
      have short := length_toDigits_le (Or.inl rfl)
        (fun q names => absurd names (plain rfl q)) later harmless (Nat.succ_pos m) counted digits
      exact Nat.toDigits_ne_nil (List.eq_nil_of_length_eq_zero (Nat.le_zero.mp short))

end Step

end Template

/-! ## Messages -/

namespace Narrator

open Template

variable (narrator : Narrator)

/-- The text of a parameter. -/
def shown (parameters : List MessageParameter) (n : Nat) : List Char :=
  ((entryAt parameters n).elim "" narrator.name).toList

/-- The texts of the parameters from the second one on make no places of their own.  The first one
is filled in last, so that its text may be any. -/
def Undisturbed (template : String) (parameters : List MessageParameter) : Prop :=
  ∀ n, 1 < n → n ≤ parameters.length →
    Harmless parameters.length n template.toList (narrator.shown parameters n)

theorem toList_placeholder (n : Nat) : (placeholder n).toList = '$' :: Nat.toDigits 10 n := by
  rw [placeholder, String.toList_append, Nat.toString_eq_ofList_toDigits,
    @String.toList_ofList (Nat.toDigits 10 n)]
  rfl

theorem toList_fillIn_step (text : String) (parameter : MessageParameter) (n : Nat) :
    (Text.replaceAll (placeholder n) (narrator.name parameter) text).toList =
      Text.replaceFrom ('$' :: Nat.toDigits 10 n) (narrator.name parameter).toList 0
        text.toList := by
  rw [Text.replaceAll, String.toList_ofList, toList_placeholder]

variable {narrator}

/-- After the last parameters have been filled in, only the places of the others are left. -/
theorem Undisturbed.foldr {template : String} {first last : List MessageParameter}
    (undisturbed : narrator.Undisturbed template (first ++ last)) :
    let parameters := first ++ last
    Renders parameters.length (shownAbove (narrator.shown parameters) first.length) template.toList
      ((last.zipIdx (first.length + 1)).foldr
        (fun entry text => Text.replaceAll (placeholder entry.2) (narrator.name entry.1) text)
        template).toList := by
  intro parameters
  induction last generalizing first with
  | nil =>
    refine renders_self (fun n counted => shownAbove_of_le ?_) _
    simpa [parameters] using counted
  | cons parameter last ih =>
    have whole : first ++ parameter :: last = (first ++ [parameter]) ++ last := by simp
    have later := ih (whole ▸ undisturbed)
    rw [← whole, List.length_append, List.length_singleton] at later
    have text : narrator.shown parameters (first.length + 1) =
        (narrator.name parameter).toList := by
      simp [shown, entryAt, parameters]
    rw [List.zipIdx_cons, List.foldr_cons, toList_fillIn_step, ← text]
    refine later.replaceFrom (by simp [parameters]) fun n above counted => ?_
    exact undisturbed n (by omega) counted

theorem Undisturbed.renders {template : String} {parameters : List MessageParameter}
    (undisturbed : narrator.Undisturbed template parameters) :
    Renders parameters.length (narrator.shown parameters) template.toList
      (narrator.fillIn template parameters).toList :=
  (@Undisturbed.foldr narrator template [] parameters undisturbed).congr
    fun _ positive _ => shownAbove_of_lt positive

/-- What is said of two words with the usual template. -/
theorem renders_butAll (shown : Nat → List Char) :
    Renders 2 shown MessageKind.butAll.template.toList
      ("You can only use '".toList ++ (shown 1 ++ ("' AFTER '".toList ++
        (shown 2 ++ "'.".toList)))) := by
  have few : 2 < 10 := by decide
  have second : Renders 2 shown ('$' :: (Nat.toDigits 10 2 ++ "'.".toList))
      (shown 2 ++ "'.".toList) :=
    .place (longest_of_few few (by decide) (by decide) _)
      (@Renders.plain_append 2 shown "'.".toList [] [] (by decide) .done)
  have first : Renders 2 shown
      ('$' :: (Nat.toDigits 10 1 ++ ("' AFTER '".toList ++
        '$' :: (Nat.toDigits 10 2 ++ "'.".toList))))
      (shown 1 ++ ("' AFTER '".toList ++ (shown 2 ++ "'.".toList))) :=
    .place (longest_of_few few (by decide) (by decide) _) (second.plain_append (by decide))
  exact @Renders.plain_append 2 shown "You can only use '".toList _ _ (by decide) first

/-- **All places are filled in at once.**  Let no text of a parameter but the first make a place of
its own: each `$` in it has a character behind it that is no digit, and if it is empty or begins
with a digit, its places do not follow a `$` or another place.  Then what a message adds is the one
text that its template reads as, every place being shown as the text of the parameter with the
longest number there, and all else as it stands. -/
theorem tell_message_renders (narrator : Narrator) (kind : MessageKind)
    (parameters : List MessageParameter)
    (undisturbed : narrator.Undisturbed (narrator.templates.template kind) parameters) :
    ∃ rendered : String,
      (∀ before, narrator.tell before (.message kind parameters) = append before rendered) ∧
      ∀ other : String,
        Renders parameters.length (narrator.shown parameters)
            (narrator.templates.template kind).toList other.toList ↔
          other = rendered := by
  refine ⟨narrator.fillIn (narrator.templates.template kind) parameters, fun before => rfl, ?_⟩
  intro other
  constructor
  · intro renders
    exact String.toList_inj.mp (renders.unique undisturbed.renders)
  · rintro rfl
    exact undisturbed.renders

/-- Nothing in `all` can be mistaken for a place. -/
theorem tell_message_renders_butAll :
    let narrator : Narrator := {}
    let parameters : List MessageParameter := [.words "except", .words "all"]
    narrator.Undisturbed (narrator.templates.template .butAll) parameters ∧
    ∀ other : String,
      Renders 2 (narrator.shown parameters) (narrator.templates.template .butAll).toList
          other.toList ↔
        other = "You can only use 'except' AFTER 'all'." := by
  intro narrator parameters
  have undisturbed : narrator.Undisturbed (narrator.templates.template .butAll) parameters := by
    intro n above counted
    obtain rfl : n = 2 := Nat.le_antisymm counted above
    refine ⟨fun before after whole => ?_, Or.inl ⟨'a', ['l', 'l'], by decide, by decide⟩⟩
    have sign : '$' ∈ narrator.shown parameters 2 :=
      whole ▸ List.mem_append_right _ (List.mem_cons_self ..)
    exact absurd sign (by decide)
  obtain ⟨rendered, told, renders⟩ := tell_message_renders narrator .butAll parameters undisturbed
  have text : rendered = "You can only use 'except' AFTER 'all'." :=
    calc
      rendered = append "" rendered := by simp [append]
      _ = narrator.tell "" (.message .butAll parameters) := (told "").symm
      _ = _ := by decide
  exact ⟨undisturbed, text ▸ renders⟩

/-- Where the second word is `$1` itself, the first one is filled in there too. -/
theorem tell_message_refilled :
    let narrator : Narrator := {}
    let parameters : List MessageParameter := [.words "except", .words "$1"]
    narrator.tell "" (.message .butAll parameters) =
      "You can only use 'except' AFTER 'except'." ∧
    ∀ other : String,
      Renders 2 (narrator.shown parameters) (narrator.templates.template .butAll).toList
          other.toList ↔
        other = "You can only use 'except' AFTER '$1'." := by
  intro narrator parameters
  have text : "You can only use '".toList ++ (narrator.shown parameters 1 ++
      ("' AFTER '".toList ++ (narrator.shown parameters 2 ++ "'.".toList))) =
        "You can only use 'except' AFTER '$1'.".toList := by decide
  have renders := text ▸ renders_butAll (narrator.shown parameters)
  refine ⟨by decide, fun other => ⟨fun renders' => ?_, ?_⟩⟩
  · exact String.toList_inj.mp (renders'.unique renders)
  · rintro rfl
    exact renders

end Narrator

end TextAdventure
