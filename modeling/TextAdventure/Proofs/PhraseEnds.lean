import TextAdventure.Proofs.Phrases
/-!
# Where a phrase ends

A word can be an adjective and a noun at once.  The reading takes such a word for the noun that ends
the phrase unless a noun comes right behind it; it does not look further.  So of adjectives and a
noun it reads the words up to the first noun that no noun follows, and this is the whole phrase if
and only if every noun among the adjectives is followed by another noun (`whole_phrase_read_iff`).
Otherwise the phrase is torn apart (`orange_torn_from_shiny_ball`).
-/

namespace TextAdventure

namespace Words

/-- From the first to the last place there are adjectives and a noun, which can refer to nothing by
themselves, and what stands behind them is no adjective, no noun and no conjunction. -/
structure IsPhrase (words : Words) (first last : Nat) : Prop where
  le : first ≤ last
  adjectives : ∀ index < last, first ≤ index → words.is index .adjective = true
  noun : words.is last .noun = true
  plain : ∀ index ≤ last, first ≤ index → words.is index .them = false ∧
    words.is index .pronoun = false ∧ words.is index .all = false
  /-- There are no literals among them. -/
  known : ∀ index ≤ last, first ≤ index → (words.entryIndex? index).isSome = true
  behind : words.is (last + 1) .adjective = false ∧ words.is (last + 1) .noun = false ∧
    words.is (last + 1) .conjunction = false

/-- A place is that of the first noun, from another place on, that no noun follows. -/
structure EndsAt (words : Words) (first head : Nat) : Prop where
  le : first ≤ head
  isLastNoun : words.isLastNoun head = true
  earlier : ∀ index < head, first ≤ index → words.isLastNoun index = false

/-- Every noun from one place on and before another one is followed by a noun. -/
def NounsFollowed (words : Words) (first last : Nat) : Prop :=
  ∀ index < last, first ≤ index → words.is index .noun = true →
    words.is (index + 1) .noun = true

instance (words : Words) (first last : Nat) : Decidable (words.NounsFollowed first last) :=
  inferInstanceAs (Decidable (∀ index < last, _))

variable {words : Words} {memory : Memory} {flags : SlotFlags} {first last head : Nat}

theorem isPhrase_iff :
    words.IsPhrase first last ↔ first ≤ last ∧
      (∀ index < last, first ≤ index → words.is index .adjective = true) ∧
      words.is last .noun = true ∧
      (∀ index ≤ last, first ≤ index → words.is index .them = false ∧
        words.is index .pronoun = false ∧ words.is index .all = false) ∧
      (∀ index ≤ last, first ≤ index → (words.entryIndex? index).isSome = true) ∧
      words.is (last + 1) .adjective = false ∧ words.is (last + 1) .noun = false ∧
        words.is (last + 1) .conjunction = false := by
  constructor
  · rintro ⟨le, adjectives, noun, plain, known, behind⟩
    exact ⟨le, adjectives, noun, plain, known, behind⟩
  · rintro ⟨le, adjectives, noun, plain, known, behind⟩
    exact ⟨le, adjectives, noun, plain, known, behind⟩

instance (words : Words) (first last : Nat) : Decidable (words.IsPhrase first last) :=
  decidable_of_iff _ isPhrase_iff.symm

/-! ## The place where the reading stops -/

theorem isLastNoun_eq_false_iff {index : Nat} :
    words.isLastNoun index = false ↔
      (words.is index .noun = true → words.is (index + 1) .noun = true) := by
  simp [isLastNoun]

theorem IsPhrase.isLastNoun_last (phrase : words.IsPhrase first last) :
    words.isLastNoun last = true := by
  simp [isLastNoun, phrase.noun, phrase.behind]

/-- An adjective that does not end the phrase is passed over. -/
theorem IsPhrase.tail (phrase : words.IsPhrase first last)
    (goesOn : words.isLastNoun first = false) : words.IsPhrase (first + 1) last where
  le := by
    have le := phrase.le
    have ne : first ≠ last := by
      rintro rfl
      rw [phrase.isLastNoun_last] at goesOn
      cases goesOn
    omega
  adjectives index lt ge := phrase.adjectives index lt (by omega)
  noun := phrase.noun
  plain index le ge := phrase.plain index le (by omega)
  known index le ge := phrase.known index le (by omega)
  behind := phrase.behind

/-- The adjectives of a phrase are passed over up to the first noun that no noun follows. -/
theorem IsPhrase.endsAt_adjectivesEnd (phrase : words.IsPhrase first last) :
    words.EndsAt first (words.adjectivesEnd first) ∧ words.adjectivesEnd first ≤ last := by
  fun_induction adjectivesEnd words first with
  | case1 cursor _ ends =>
    refine ⟨⟨Nat.le_refl _, ends, fun index lt ge => ?_⟩, phrase.le⟩
    omega
  | case2 cursor _ goesOn ih =>
    have goesOn := Bool.eq_false_iff.mpr goesOn
    obtain ⟨⟨ge, ends, earlier⟩, le⟩ := ih (phrase.tail goesOn)
    refine ⟨⟨by omega, ends, fun index lt ge => ?_⟩, le⟩
    rcases Nat.eq_or_lt_of_le ge with rfl | gt
    · exact goesOn
    · exact earlier index lt gt
  | case3 cursor notAdjective =>
    -- only the last word of a phrase may be no adjective
    have isLast : cursor = last := by
      by_contra other
      have le := phrase.le
      exact notAdjective (phrase.adjectives cursor (by omega) (Nat.le_refl _))
    subst isLast
    refine ⟨⟨Nat.le_refl _, phrase.isLastNoun_last, fun index lt ge => ?_⟩, Nat.le_refl _⟩
    omega

/-- This noun is the last word if and only if every noun before the last word is followed by one. -/
theorem EndsAt.eq_iff_nounsFollowed (endsAt : words.EndsAt first head) (le : head ≤ last) :
    head = last ↔ words.NounsFollowed first last := by
  constructor
  · rintro rfl index lt ge
    exact isLastNoun_eq_false_iff.mp (endsAt.earlier index lt ge)
  · intro followed
    by_contra other
    have goesOn := isLastNoun_eq_false_iff.mpr (followed head (by omega) endsAt.le)
    rw [endsAt.isLastNoun] at goesOn
    cases goesOn

/-! ## What is read -/

theorem IsPhrase.loneKind?_eq (phrase : words.IsPhrase first last) (memory : Memory) :
    words.loneKind? memory first = none := by
  obtain ⟨notThem, notPronoun, -⟩ := phrase.plain first phrase.le (Nat.le_refl _)
  have known := phrase.known first phrase.le (Nat.le_refl _)
  unfold loneKind?
  rw [notThem, notPronoun]
  dsimp only
  split
  · next recalls => cases recalls
  · split
    · next literal =>
      rw [entryIndex?, literal] at known
      cases known
    · rfl

/-- The first reference goes up to the first noun that no noun follows. -/
theorem IsPhrase.reference_eq (phrase : words.IsPhrase first last) (memory : Memory) :
    words.reference memory first =
      .ok (some { first, last := words.adjectivesEnd first }, words.adjectivesEnd first + 1) := by
  obtain ⟨endsAt, -⟩ := phrase.endsAt_adjectivesEnd
  have noun : words.is (words.adjectivesEnd first) .noun = true := by
    have ends := endsAt.isLastNoun
    rw [isLastNoun, Bool.and_eq_true] at ends
    exact ends.1
  unfold reference
  rw [phrase.loneKind?_eq memory]
  dsimp only
  unfold Words.phrase
  dsimp only
  rw [if_pos noun]

/-- The references of a slot begin with the one that is read first. -/
theorem head?_references {references : List Reference} {reference : Reference} {next next' : Nat}
    (read : words.references memory first = .ok (references, next))
    (one : words.reference memory first = .ok (some reference, next')) :
    references.head? = some reference := by
  rw [references_eq, one] at read
  dsimp only at read
  split at read
  · split at read
    · cases read
    · cases read
      rfl
  · cases read
    rfl

/-- If nothing is joined to the first reference, the slot holds no other. -/
theorem IsPhrase.position_eq (phrase : words.IsPhrase first last)
    (alone : words.joinsReferences (words.adjectivesEnd first + 1) = false) (memory : Memory)
    (flags : SlotFlags) :
    words.position memory flags first =
      .ok ({ references := [{ first, last := words.adjectivesEnd first }], flags },
        words.adjectivesEnd first + 1) := by
  obtain ⟨-, -, notAll⟩ := phrase.plain first phrase.le (Nat.le_refl _)
  have references : words.references memory first =
      .ok ([{ first, last := words.adjectivesEnd first }], words.adjectivesEnd first + 1) := by
    rw [references_eq, phrase.reference_eq memory]
    dsimp only
    rw [if_neg (Bool.eq_false_iff.mp alone)]
  unfold Words.position slot
  simp [notAll, references]

/-- A slot that holds one reference holds the first one. -/
theorem IsPhrase.last_eq_of_position (phrase : words.IsPhrase first last) {next : Nat}
    (read : words.position memory flags first =
      .ok ({ references := [{ first, last := head }], flags }, next)) :
    head = words.adjectivesEnd first := by
  obtain ⟨slotRead, -, -⟩ := position_eq_ok read
  rcases slot_eq_ok slotRead with ⟨exceptions, all⟩ | ⟨references, referencesRead, same⟩
  · cases all
  · cases same
    have only := head?_references referencesRead (phrase.reference_eq memory)
    cases only
    rfl

end Words

/-- **How far a phrase is read.**  Of adjectives and a noun, the words up to the first noun that no
noun follows are read as the first reference, and the reading of the slot ends there unless a
conjunction comes next.  So the whole phrase is read as one reference if and only if every noun
before its last word is followed by another noun. -/
theorem whole_phrase_read_iff {words : Words} {first last : Nat}
    (phrase : words.IsPhrase first last) (memory : Memory) (flags : SlotFlags) :
    (∃ head, words.EndsAt first head ∧ head ≤ last ∧
      words.reference memory first = .ok (some { first, last := head }, head + 1) ∧
      (words.joinsReferences (head + 1) = false →
        words.position memory flags first =
          .ok ({ references := [{ first, last := head }], flags }, head + 1))) ∧
    (words.position memory flags first =
        .ok ({ references := [{ first, last }], flags }, last + 1) ↔
      words.NounsFollowed first last) := by
  obtain ⟨endsAt, le⟩ := phrase.endsAt_adjectivesEnd
  refine ⟨⟨words.adjectivesEnd first, endsAt, le, phrase.reference_eq memory,
    fun alone => phrase.position_eq alone memory flags⟩, ?_⟩
  rw [← endsAt.eq_iff_nounsFollowed le]
  constructor
  · intro read
    exact (phrase.last_eq_of_position read).symm
  · intro whole
    have alone : words.joinsReferences (words.adjectivesEnd first + 1) = false := by
      rw [whole, Words.joinsReferences, phrase.behind.2.2, Bool.false_and]
    rw [phrase.position_eq alone memory flags, whole]

section Stall

/-- A stall with an orange shiny ball, an orange and a red ball. -/
def Story.stall : Story :=
  { Story.cave with
    instances := [
      { code := 1, name := "stall", parent := 4, location := 0 },
      { code := 2, name := "hero", parent := 5, location := 1 },
      { code := 3, name := "orange shiny ball", parent := 3, location := 1 },
      { code := 4, name := "orange", parent := 3, location := 1 },
      { code := 5, name := "red ball", parent := 3, location := 1 }]
    dictionary := { entries := [
      { word := "take", code := 1, classes := .verb },
      { word := "orange", code := 2, classes := .adjective ||| .noun, adjectiveOf := [3],
        nounOf := [4] },
      { word := "shiny", code := 3, classes := .adjective, adjectiveOf := [3] },
      { word := "red", code := 4, classes := .adjective, adjectiveOf := [5] },
      { word := "ball", code := 5, classes := .noun, nounOf := [3, 5] }] } }

def Setting.stall : Setting .stall Recording := ⟨.scripted _ {}, {}⟩

def Scene.stall : Scene .stall Recording := { world := .initial _, state := {} }

/-- The words of a line at the stall, by their places in its dictionary. -/
def Words.ofStall (entries : List Nat) : Words where
  words := entries.map fun index =>
    .known index (((Story.stall.dictionary.entries[index]?).map (·.word)).getD "")
  dictionary := Story.stall.dictionary

/-- Take shiny orange ball: the ball comes right behind the orange. -/
theorem whole_phrase_read_iff_stall :
    let words := Words.ofStall [0, 2, 1, 4]
    words.IsPhrase 1 3 ∧ words.NounsFollowed 1 3 ∧
    (∃ head, words.EndsAt 1 head ∧ head ≤ 3 ∧
      words.reference {} 1 = .ok (some { first := 1, last := head }, head + 1) ∧
      (words.joinsReferences (head + 1) = false →
        words.position {} {} 1 =
          .ok ({ references := [{ first := 1, last := head }] }, head + 1))) ∧
    (words.position {} {} 1 = .ok ({ references := [{ first := 1, last := 3 }] }, 4) ↔
      words.NounsFollowed 1 3) := by
  intro words
  have phrase : words.IsPhrase 1 3 := by decide
  exact ⟨phrase, by decide, whole_phrase_read_iff phrase {} {}⟩

/-- **The orange is torn from the shiny ball.**  Take orange shiny ball: these are two adjectives
and a noun, but the first of them is a noun too and is read as the whole reference.  There is
nothing in the form for what follows, so the line is not understood, although it is if the two
adjectives change places. -/
theorem orange_torn_from_shiny_ball :
    let words := Words.ofStall [0, 1, 2, 4]
    let swapped := Words.ofStall [0, 2, 1, 4]
    let played := (interpretLine Setting.stall {} "take orange shiny ball").run Scene.stall
    words.IsPhrase 1 3 ∧
    (words.position {} {} 1).toOption = some ({ references := [{ first := 1, last := 1 }] }, 2) ∧
    words.position {} {} 1 ≠ .ok ({ references := [{ first := 1, last := 3 }] }, 4) ∧
    played.2.transcript = [.message .what []] ∧
    ((parseCommand Setting.stall {} swapped 0).run Scene.stall).1.toOption =
      some ({ verb := 1, parameters := [3] }, 4) := by
  intro words swapped played
  have torn : (words.position {} {} 1).toOption =
      some ({ references := [{ first := 1, last := 1 }] }, 2) := by decide +kernel
  refine ⟨by decide, torn, ?_, by decide +kernel, by decide +kernel⟩
  intro whole
  rw [whole] at torn
  revert torn
  decide

end Stall

end TextAdventure
