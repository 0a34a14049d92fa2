import TextAdventure.Proofs.PhraseEnds
/-!
# What a phrase can stand for

A phrase stands for the instances that each of its adjectives can describe and its noun can name.
Every word of a phrase that the reading finds is in the dictionary, so none of them is passed over
(`Words.ReadsPlain.span`), and each word that is put in front can only take candidates away.  A
phrase that is left with none cannot be settled, and the player is told its words.
-/

namespace TextAdventure

/-! ## The order of the candidates -/

/-- The order is that of the first list. -/
theorem commonMembers_sublist (first : List InstanceId) (rest : List (List InstanceId)) :
    (commonMembers (first :: rest)).Sublist first := by
  show (rest.foldl (fun running members => running.filter members.contains) first).Sublist first
  induction rest generalizing first with
  | nil => exact List.Sublist.refl first
  | cons list rest ih => exact (ih _).trans List.filter_sublist

/-! ## Words and what they refer to -/

namespace Words

/-- The instances that the word at a place can describe. -/
def adjectiveOf (words : Words) (index : Nat) : List InstanceId :=
  ((words.entry? index).map (·.adjectiveOf)).getD []

/-- The instances that the word at a place can name. -/
def nounOf (words : Words) (index : Nat) : List InstanceId :=
  ((words.entry? index).map (·.nounOf)).getD []

/-- What the word at a place refers to in a phrase with some last word. -/
def refersTo (words : Words) (last index : Nat) : List InstanceId :=
  if index = last then words.nounOf index else words.adjectiveOf index

variable {words : Words} {memory : Memory} {index first last : Nat}

/-- Only literals are words without an entry, and they are of no class but their own. -/
theorem isSome_entry?_of_is {cls : WordClasses} (has : words.is index cls = true)
    (notLiteral : WordClasses.literal.contains cls = false) :
    (words.entry? index).isSome = true := by
  unfold is classes at has
  split at has
  · rw [notLiteral] at has
    cases has
  · cases entry : words.entry? index with
    | some e => rfl
    | none =>
      rw [entry] at has
      exact absurd has (Bool.eq_false_iff.mp (WordClasses.none_contains cls))
  · exact absurd has (Bool.eq_false_iff.mp (WordClasses.none_contains cls))

/-- From the first to the last place there are words of the dictionary. -/
structure Known (words : Words) (first last : Nat) : Prop where
  le : first ≤ last
  entry : ∀ index, first ≤ index → index ≤ last → (words.entry? index).isSome = true

theorem Known.lt_size (known : words.Known first last) : last < words.size := by
  have entry := known.entry last known.le (Nat.le_refl last)
  apply Nat.lt_of_not_le
  intro ended
  have absent : words.word? last = none := List.getElem?_eq_none ended
  unfold entry? entryIndex? at entry
  rw [absent] at entry
  cases entry

theorem Known.phraseCandidates_eq (known : words.Known first last) :
    words.phraseCandidates first last =
      commonMembers ((List.range' first (last + 1 - first)).map (words.refersTo last)) := by
  have stop : min (last + 1) words.size = last + 1 := Nat.min_eq_left known.lt_size
  unfold phraseCandidates
  dsimp only
  rw [stop, List.filterMap_eq_map_iff_forall_eq_some.mpr]
  intro index member
  rw [List.mem_range'_1] at member
  obtain ⟨entry, found⟩ :=
    Option.isSome_iff_exists.mp (known.entry index member.1 (by omega))
  unfold phraseReferences? refersTo adjectiveOf nounOf
  rw [found]
  split <;> rfl

/-- A phrase stands for what its adjectives can describe and its noun can name. -/
theorem Known.mem_phraseCandidates (known : words.Known first last) {id : InstanceId} :
    id ∈ words.phraseCandidates first last ↔
      (∀ index, first ≤ index → index < last → id ∈ words.adjectiveOf index) ∧
        id ∈ words.nounOf last := by
  have le := known.le
  rw [known.phraseCandidates_eq, mem_commonMembers]
  simp only [List.forall_mem_map, List.mem_range'_1]
  constructor
  · rintro ⟨-, all⟩
    refine ⟨fun index ge lt => ?_, ?_⟩
    · have member := all index (by omega)
      rwa [refersTo, if_neg (by omega)] at member
    · have member := all last (by omega)
      rwa [refersTo, if_pos rfl] at member
  · rintro ⟨adjectives, noun⟩
    refine ⟨by simp; omega, fun index bounds => ?_⟩
    unfold refersTo
    split
    · next here => exact here ▸ noun
    · exact adjectives index bounds.1 (by omega)

theorem Known.phraseCandidates_sublist (known : words.Known first last) :
    (words.phraseCandidates first last).Sublist (words.refersTo last first) := by
  have le := known.le
  rw [known.phraseCandidates_eq, show last + 1 - first = (last - first) + 1 by omega,
    List.range'_succ, List.map_cons]
  exact commonMembers_sublist _ _

/-! ## Phrases that are read -/

/-- The reference is what the reading of some slot takes for a phrase, or for all. -/
def ReadsPlain (words : Words) (reference : Reference) : Prop :=
  reference.kind = .plain ∧ ∃ memory flags cursor next position,
    words.position memory flags cursor = .ok (position, next) ∧
      reference ∈ position.references ++ position.exceptions

theorem ReadsOne.known {reference : Reference} {cursor next : Nat}
    (one : words.ReadsOne memory reference cursor next) (plain : reference.kind = .plain) :
    words.Known reference.first reference.last := by
  cases one with
  | them => cases plain
  | literal => cases plain
  | pronoun => cases plain
  | phrase _ _ le adjectives noun =>
    refine ⟨le, fun index ge le => ?_⟩
    rcases Nat.lt_or_eq_of_le le with lt | rfl
    · exact isSome_entry?_of_is (adjectives index ge lt) (by decide)
    · exact isSome_entry?_of_is noun (by decide)

theorem ReadsAll.readsOne_of_mem {references : List Reference} {cursor next : Nat}
    (all : words.ReadsAll memory references cursor next) {reference : Reference}
    (member : reference ∈ references) :
    ∃ cursor next, words.ReadsOne memory reference cursor next := by
  induction all with
  | one first =>
    rw [List.mem_singleton.mp member]
    exact ⟨_, _, first⟩
  | joined first _ _ ih =>
    rcases List.mem_cons.mp member with rfl | later
    · exact ⟨_, _, first⟩
    · exact ih later

/-- No word of a phrase is missing from the dictionary. -/
theorem ReadsPlain.known {reference : Reference} (read : words.ReadsPlain reference) :
    words.Known reference.first reference.last := by
  obtain ⟨plain, memory, flags, cursor, next, position, positionRead, member⟩ := read
  have listed : ∀ {references cursor next}, words.ReadsAll memory references cursor next →
      reference ∈ references → words.Known reference.first reference.last := by
    intro references cursor next all member
    obtain ⟨_, _, one⟩ := all.readsOne_of_mem member
    exact one.known plain
  have isAll : ∀ {cursor}, words.is cursor .all = true → words.Known cursor cursor := by
    intro cursor isAll
    refine ⟨Nat.le_refl cursor, fun index ge le => ?_⟩
    rw [Nat.le_antisymm le ge]
    exact isSome_entry?_of_is isAll (by decide)
  cases fills_of_position positionRead with
  | all all =>
    rw [List.mem_singleton.mp member]
    exact isAll all
  | allExcept all _ excepted =>
    rcases List.mem_append.mp member with word | exception
    · rw [List.mem_singleton.mp word]
      exact isAll all
    · exact listed excepted exception
  | references _ all =>
    rw [List.append_nil] at member
    exact listed all member

/-- The second phrase, of other words perhaps, is the first one with any number of words put in
front. -/
structure Lengthens (words : Words) (short : Reference) (words' : Words) (long : Reference) :
    Prop where
  length_le : short.last - short.first ≤ long.last - long.first
  tail : ∀ back, back ≤ short.last - short.first →
    words'.entry? (long.last - back) = words.entry? (short.last - back)

/-- More words leave fewer candidates. -/
theorem Lengthens.narrows {words' : Words} {short long : Reference}
    (lengthens : words.Lengthens short words' long) (known : words.Known short.first short.last)
    (known' : words'.Known long.first long.last) {id : InstanceId}
    (member : id ∈ words'.phraseCandidates long.first long.last) :
    id ∈ words.phraseCandidates short.first short.last := by
  obtain ⟨length_le, tail⟩ := lengthens
  have le := known.le
  have le' := known'.le
  obtain ⟨adjectives, noun⟩ := known'.mem_phraseCandidates.mp member
  refine known.mem_phraseCandidates.mpr ⟨fun index ge lt => ?_, ?_⟩
  · have same := tail (short.last - index) (by omega)
    rw [show short.last - (short.last - index) = index by omega] at same
    have member' := adjectives (long.last - (short.last - index)) (by omega) (by omega)
    unfold adjectiveOf at member' ⊢
    rwa [same] at member'
  · have same := tail 0 (Nat.zero_le _)
    rw [Nat.sub_zero, Nat.sub_zero] at same
    unfold nounOf at noun ⊢
    rwa [same] at noun

end Words

/-- Settling a reference without candidates fails, whatever the world. -/
theorem Reference.settle_of_nil {story : Story} {world : World story} {words : Words}
    {omnipotent : Bool} {reference : Reference} (none : reference.candidates = []) :
    reference.settle world words omnipotent =
      .failure reference (.noSuch (reference.phrase words)) := by
  unfold settle
  rw [none]
  cases omnipotent <;> rfl

/-- **What a phrase stands for.**  The candidates of a phrase that has been read are the instances
that all its adjectives can describe and its noun can name, in the order of its first word.  A
longer phrase that ends in the same words has no others.  If there are none, settling the phrase
fails in every world, and the fault quotes the words of the phrase. -/
theorem phrase_stands_for {words : Words} {reference : Reference}
    (read : words.ReadsPlain reference) (memory : Memory) :
    ∃ candidates, reference.findCandidates words memory = .ok candidates ∧
      (∀ id, id ∈ candidates ↔
        (∀ index, reference.first ≤ index → index < reference.last →
          id ∈ words.adjectiveOf index) ∧ id ∈ words.nounOf reference.last) ∧
      candidates.Sublist (words.refersTo reference.last reference.first) ∧
      ((words.refersTo reference.last reference.first).Nodup → candidates.Nodup) ∧
      (∀ words' long candidates', words'.ReadsPlain long →
        words.Lengthens reference words' long →
        long.findCandidates words' memory = .ok candidates' → candidates' ⊆ candidates) ∧
      (candidates = [] → ∀ (story : Story) (world : World story) (omnipotent : Bool),
        (reference.withCandidates words memory).andThen
            (Reference.settle world words omnipotent) =
          .failure { reference with candidates := [] }
            (.noSuch (" ".intercalate ((List.range' reference.first
              (reference.last + 1 - reference.first)).map words.text)))) := by
  have known := read.known
  have found : reference.findCandidates words memory =
      .ok (words.phraseCandidates reference.first reference.last) := by
    unfold Reference.findCandidates
    rw [read.1]
  have sublist := known.phraseCandidates_sublist
  refine ⟨_, found, fun id => known.mem_phraseCandidates, sublist,
    fun once => once.sublist sublist, ?_, ?_⟩
  · intro words' long candidates' read' lengthens found'
    have same : long.findCandidates words' memory =
        .ok (words'.phraseCandidates long.first long.last) := by
      unfold Reference.findCandidates
      rw [read'.1]
    rw [same] at found'
    cases found'
    exact fun id member => lengthens.narrows known read'.known member
  · intro none story world omnipotent
    unfold Reference.withCandidates
    rw [found, none]
    show Reference.settle world words omnipotent { reference with candidates := [] } = _
    rw [Reference.settle_of_nil rfl]
    unfold Reference.phrase
    rw [Words.spanText_eq known.lt_size]

/-- Take red orange: a ball is red and a fruit is an orange, but nothing is both. -/
theorem phrase_stands_for_stall :
    let words := Words.ofStall [0, 3, 1]
    let reference : Reference := { first := 1, last := 2 }
    words.ReadsPlain reference ∧ reference.findCandidates words {} = .ok [] ∧
    ∃ candidates, reference.findCandidates words {} = .ok candidates ∧
      (∀ id, id ∈ candidates ↔
        (∀ index, 1 ≤ index → index < 2 → id ∈ words.adjectiveOf index) ∧
          id ∈ words.nounOf 2) ∧
      candidates.Sublist (words.refersTo 2 1) ∧
      ((words.refersTo 2 1).Nodup → candidates.Nodup) ∧
      (∀ words' long candidates', words'.ReadsPlain long →
        words.Lengthens reference words' long →
        long.findCandidates words' {} = .ok candidates' → candidates' ⊆ candidates) ∧
      (candidates = [] → ∀ (story : Story) (world : World story) (omnipotent : Bool),
        (reference.withCandidates words {}).andThen (Reference.settle world words omnipotent) =
          .failure { reference with candidates := [] }
            (.noSuch (" ".intercalate ((List.range' 1 2).map words.text)))) := by
  intro words reference
  have positionRead : words.position {} {} 1 = .ok ({ references := [reference] }, 3) :=
    eq_ok_of_toOption (by decide +kernel)
  have read : words.ReadsPlain reference :=
    ⟨rfl, {}, {}, 1, 3, _, positionRead, List.mem_singleton_self _⟩
  exact ⟨read, rfl, phrase_stands_for read {}⟩

end TextAdventure
