import TextAdventure.Proofs.Placeholders
import TextAdventure.Proofs.Stages
/-!
# What a choice gives away

A reference with several candidates is settled by looking at those of them that the hero can
perceive.  The others count only where there is none of these and the slot is omnipotent; anywhere
else they could be added, left out or put in another order, and the player would not notice
(`Choice.ofCandidates_congr`).  When he is asked which one he means, he is told the name of each
candidate that is offered, once and in order (`CommandError.report_whichOne`), and no other.
-/

namespace TextAdventure

variable {story : Story}

/-! ## The choice, case by case -/

namespace Choice

variable {present distant : List InstanceId} {omnipotent : Bool}

theorem between_nil_nil : between [] [] omnipotent = .noSuch := rfl

theorem between_one (id : InstanceId) : between [id] distant omnipotent = .settled id := rfl

theorem between_many (first second : InstanceId) (rest : List InstanceId) :
    between (first :: second :: rest) distant omnipotent =
      .whichOne (first :: second :: rest) := rfl

/-- Where nothing is present, an ordinary slot has no candidates. -/
theorem between_nil_ordinary : between [] distant false = .noSuch := by
  rcases distant with _ | ⟨_, _ | ⟨_, _⟩⟩ <;> rfl

/-- Where nothing is present, what is distant is as good as present for an omnipotent slot. -/
theorem between_nil_omnipotent : between [] distant true = between distant [] true := by
  rcases distant with _ | ⟨_, _ | ⟨_, _⟩⟩ <;> rfl

theorem between_eq_settled_iff {id : InstanceId} :
    between present distant omnipotent = .settled id ↔
      present = [id] ∨ (omnipotent = true ∧ present = [] ∧ distant = [id]) := by
  constructor
  · exact between_eq_settled
  · rintro (rfl | ⟨rfl, rfl, rfl⟩)
    · rfl
    · rfl

theorem between_eq_whichOne_iff {ids : List InstanceId} :
    between present distant omnipotent = .whichOne ids ↔
      2 ≤ ids.length ∧ (ids = present ∨ (omnipotent = true ∧ present = [] ∧ ids = distant)) := by
  rcases present with _ | ⟨first, _ | ⟨second, rest⟩⟩
  · cases omnipotent with
    | false => grind [between_nil_ordinary]
    | true =>
      rw [between_nil_omnipotent]
      rcases distant with _ | ⟨first, _ | ⟨second, rest⟩⟩
      · grind [between_nil_nil]
      · grind [between_one]
      · grind [between_many]
  · grind [between_one]
  · grind [between_many]

theorem between_eq_noSuch_iff :
    between present distant omnipotent = .noSuch ↔
      present = [] ∧ (omnipotent = false ∨ distant = []) := by
  rcases present with _ | ⟨first, _ | ⟨second, rest⟩⟩
  · cases omnipotent with
    | false => simp [between_nil_ordinary]
    | true =>
      rw [between_nil_omnipotent]
      rcases distant with _ | ⟨first, _ | ⟨second, rest⟩⟩
      · simp [between_nil_nil]
      · simp [between_one]
      · simp [between_many]
  · simp [between_one]
  · simp [between_many]

/-- What is distant counts only where nothing is present and the slot is omnipotent. -/
theorem between_congr (counts : present ≠ [] ∨ omnipotent = false) (other : List InstanceId) :
    between present other omnipotent = between present distant omnipotent := by
  rcases present with _ | ⟨first, _ | ⟨second, rest⟩⟩
  · have ordinary : omnipotent = false := counts.resolve_left (by simp)
    rw [between_eq_noSuch_iff.mpr ⟨rfl, Or.inl ordinary⟩,
      between_eq_noSuch_iff.mpr ⟨rfl, Or.inl ordinary⟩]
  · rfl
  · rfl

/-! ## What is present decides -/

variable {world : World story} {candidates : List InstanceId}

theorem ofCandidates_eq (world : World story) (candidates : List InstanceId) (omnipotent : Bool) :
    ofCandidates world candidates omnipotent =
      between (candidates.filter world.reachable)
        (candidates.filter fun id => !world.reachable id) omnipotent := by
  rw [ofCandidates, List.partition_eq_filter_filter]
  rfl

/-- Where nothing is present, everything is distant. -/
theorem distant_eq_self (none : candidates.filter world.reachable = []) :
    candidates.filter (fun id => !world.reachable id) = candidates := by
  rw [List.filter_eq_self]
  intro id member
  rw [Bool.not_eq_true']
  exact Bool.eq_false_iff.mpr (List.filter_eq_nil_iff.mp none id member)

theorem ofCandidates_eq_settled_iff {id : InstanceId} :
    ofCandidates world candidates omnipotent = .settled id ↔
      candidates.filter world.reachable = [id] ∨
        (omnipotent = true ∧ candidates.filter world.reachable = [] ∧ candidates = [id]) := by
  rw [ofCandidates_eq, between_eq_settled_iff]
  refine or_congr_right (and_congr_right fun _ => and_congr_right fun none => ?_)
  rw [distant_eq_self none]

theorem ofCandidates_eq_whichOne_iff {ids : List InstanceId} :
    ofCandidates world candidates omnipotent = .whichOne ids ↔
      2 ≤ ids.length ∧ (ids = candidates.filter world.reachable ∨
        (omnipotent = true ∧ candidates.filter world.reachable = [] ∧ ids = candidates)) := by
  rw [ofCandidates_eq, between_eq_whichOne_iff]
  refine and_congr_right fun _ => or_congr_right ?_
  refine and_congr_right fun _ => and_congr_right fun none => ?_
  rw [distant_eq_self none]

theorem ofCandidates_eq_noSuch_iff :
    ofCandidates world candidates omnipotent = .noSuch ↔
      candidates.filter world.reachable = [] ∧ (omnipotent = false ∨ candidates = []) := by
  rw [ofCandidates_eq, between_eq_noSuch_iff]
  refine and_congr_right fun none => ?_
  rw [distant_eq_self none]

/-- Two lists with the same present candidates come to the same. -/
theorem ofCandidates_congr {other : List InstanceId}
    (counts : (∃ id ∈ candidates, world.reachable id = true) ∨ omnipotent = false)
    (same : other.filter world.reachable = candidates.filter world.reachable) :
    ofCandidates world other omnipotent = ofCandidates world candidates omnipotent := by
  have counts' : candidates.filter world.reachable ≠ [] ∨ omnipotent = false := by
    refine counts.imp_left ?_
    rintro ⟨id, member, present⟩
    exact List.ne_nil_of_mem (List.mem_filter.mpr ⟨member, present⟩)
  rw [ofCandidates_eq, ofCandidates_eq, same]
  exact between_congr counts' _

end Choice

/-! ## The question which one is meant -/

namespace CommandError

theorem listRest_concat (middle : List MessageParameter) (last : MessageParameter) :
    listRest (middle ++ [last]) =
      (middle.map fun candidate => .message .whichOneComma [candidate]) ++
        [.message .whichOneOr [last]] := by
  induction middle with
  | nil => rfl
  | cons candidate rest ih =>
    rw [List.map_cons, List.cons_append, List.cons_append, ← ih]
    cases rest <;> rfl

/-- Every candidate has a message of its own, in their order, and there is no other message. -/
theorem report_whichOne (first : MessageParameter) (middle : List MessageParameter)
    (last : MessageParameter) :
    (whichOne (first :: (middle ++ [last]))).report =
      .message .whichOneStart [first] ::
        ((middle.map fun candidate => .message .whichOneComma [candidate]) ++
          [.message .whichOneOr [last]]) := by
  rw [← listRest_concat]
  rfl

end CommandError

namespace Narrator

variable (narrator : Narrator)

/-- In a template with one place the name of what the message is about goes there. -/
theorem fillIn_onePlace {start rest : String} (plain : '$' ∉ start.toList)
    (plain' : '$' ∉ rest.toList) (parameter : MessageParameter) :
    narrator.fillIn (start ++ placeholder 1 ++ rest) [parameter] =
      start ++ narrator.name parameter ++ rest := by
  have behind : Text.replaceFrom ('$' :: Nat.toDigits 10 1) (narrator.name parameter).toList 0
      rest.toList = rest.toList := by
    simpa [Text.replaceFrom] using
      Template.replaceFrom_of_closed (Template.closed_of_plain plain') []
  rw [← String.toList_inj]
  show (Text.replaceAll (placeholder 1) (narrator.name parameter)
    (start ++ placeholder 1 ++ rest)).toList = _
  rw [toList_fillIn_step, String.toList_append, String.toList_append, toList_placeholder,
    List.append_assoc, Template.replaceFrom_of_closed (Template.closed_of_plain plain),
    Text.replaceFrom_pattern (List.cons_ne_nil _ _), behind]
  simp

/-- No blank comes before a comma or another blank. -/
theorem append_attached {before added : String} {c : Char}
    (begins : added.toList.head? = some c) (attached : c = ',' ∨ c = ' ') :
    append before added = before ++ added := by
  unfold append
  simp only [begins]
  rcases attached with rfl | rfl <;> simp

variable {narrator}

/-- A usual template with one place is told with the name there. -/
theorem tell_onePlace (usual : narrator.templates = {}) {kind : MessageKind} {start rest : String}
    (template : kind.template = start ++ placeholder 1 ++ rest) (plain : '$' ∉ start.toList)
    (plain' : '$' ∉ rest.toList) (before : String) (parameter : MessageParameter) :
    narrator.tell before (.message kind [parameter]) =
      append before (start ++ narrator.name parameter ++ rest) := by
  rw [← narrator.fillIn_onePlace plain plain', ← template]
  show append before (narrator.fillIn (narrator.templates.template kind) _) = _
  rw [usual]
  rfl

theorem foldl_tell_whichOneComma (usual : narrator.templates = {}) (before : String)
    (middle : List MessageParameter) :
    (middle.map fun candidate => Utterance.message .whichOneComma [candidate]).foldl
        narrator.tell before =
      before ++ String.join (middle.map fun candidate => ", the " ++ narrator.name candidate) := by
  induction middle generalizing before with
  | nil => simp
  | cons candidate rest ih =>
    have template : MessageKind.whichOneComma.template = ", the " ++ placeholder 1 ++ "" := by
      decide
    have tells : narrator.tell before (.message .whichOneComma [candidate]) =
        before ++ (", the " ++ narrator.name candidate) := by
      rw [tell_onePlace usual template (by decide) (by decide), String.append_empty]
      exact append_attached (by simp) (Or.inl rfl)
    rw [List.map_cons, List.foldl_cons, tells, ih, List.map_cons, String.join_cons,
      String.append_assoc]

/-- With the usual templates the list is one sentence. -/
theorem render_whichOne (usual : narrator.templates = {}) (first : MessageParameter)
    (middle : List MessageParameter) (last : MessageParameter) :
    narrator.render (CommandError.whichOne (first :: (middle ++ [last]))).report =
      "I don't know if you mean the " ++ narrator.name first ++
        String.join (middle.map fun candidate => ", the " ++ narrator.name candidate) ++
        (" or the " ++ narrator.name last ++ ".") := by
  have opening : narrator.tell "" (.message .whichOneStart [first]) =
      "I don't know if you mean the " ++ narrator.name first := by
    have template : MessageKind.whichOneStart.template =
        "I don't know if you mean the " ++ placeholder 1 ++ "" := by decide
    rw [tell_onePlace usual template (by decide) (by decide), String.append_empty]
    simp [append]
  have closing : MessageKind.whichOneOr.template = " or the " ++ placeholder 1 ++ "." := by decide
  rw [CommandError.report_whichOne, render, List.foldl_cons, List.foldl_append, opening,
    foldl_tell_whichOneComma usual, List.foldl_cons, List.foldl_nil,
    tell_onePlace usual closing (by decide) (by decide)]
  exact append_attached (by simp) (Or.inr rfl)

end Narrator

theorem Reference.settle_of_whichOne {world : World story} {words : Words} {omnipotent : Bool}
    {reference : Reference} {ids : List InstanceId}
    (chosen : Choice.ofCandidates world reference.candidates omnipotent = .whichOne ids) :
    reference.settle world words omnipotent =
      .failure reference (.whichOne (ids.map world.messageParameter)) := by
  unfold settle
  rw [chosen]

/-- **What is out of sight is neither chosen nor named.**  If a candidate is present or the slot is
not omnipotent, the choice is the same for any other list with the same present candidates.  A
candidate is settled on if it is the only one present or, in an omnipotent slot, the only one at
all; the player is asked if there are several present or, in an omnipotent slot, none present and
several distant; otherwise there is no such thing.  The question names those that it is about, each
once and in order, and nothing else. -/
theorem chosen_by_what_is_present (world : World story) (candidates : List InstanceId)
    (omnipotent : Bool) :
    let present := candidates.filter world.reachable
    let choice := Choice.ofCandidates world candidates omnipotent
    ((∃ id ∈ candidates, world.reachable id = true) ∨ omnipotent = false →
      ∀ other, other.filter world.reachable = present →
        Choice.ofCandidates world other omnipotent = choice) ∧
    (∀ id, choice = .settled id ↔
      present = [id] ∨ (omnipotent = true ∧ present = [] ∧ candidates = [id])) ∧
    (∀ ids, choice = .whichOne ids ↔
      2 ≤ ids.length ∧ (ids = present ∨ (omnipotent = true ∧ present = [] ∧ ids = candidates))) ∧
    (choice = .noSuch ↔ present = [] ∧ (omnipotent = false ∨ candidates = [])) ∧
    ∀ ids, choice = .whichOne ids →
      let fault := CommandError.whichOne (ids.map world.messageParameter)
      (∀ (words : Words) (reference : Reference), reference.candidates = candidates →
        reference.settle world words omnipotent = .failure reference fault) ∧
      ∃ first middle last, ids = first :: (middle ++ [last]) ∧
        fault.report = .message .whichOneStart [world.messageParameter first] ::
          ((middle.map fun id => .message .whichOneComma [world.messageParameter id]) ++
            [.message .whichOneOr [world.messageParameter last]]) ∧
        ∀ narrator : Narrator, narrator.templates = {} →
          let name := fun id => narrator.name (world.messageParameter id)
          narrator.render fault.report =
            "I don't know if you mean the " ++ name first ++
              String.join (middle.map fun id => ", the " ++ name id) ++
              (" or the " ++ name last ++ ".") := by
  intro present choice
  refine ⟨fun counts other same => Choice.ofCandidates_congr counts same,
    fun id => Choice.ofCandidates_eq_settled_iff, fun ids => Choice.ofCandidates_eq_whichOne_iff,
    Choice.ofCandidates_eq_noSuch_iff, ?_⟩
  intro ids chosen fault
  refine ⟨?_, ?_⟩
  · rintro words reference rfl
    exact Reference.settle_of_whichOne chosen
  · -- there are two at least, a first and a last one
    obtain ⟨several, -⟩ := Choice.ofCandidates_eq_whichOne_iff.mp chosen
    obtain ⟨first, rest, rfl⟩ := List.exists_cons_of_length_pos (by omega : 0 < ids.length)
    have some : rest ≠ [] := by
      rintro rfl
      exact absurd several (by simp)
    obtain ⟨middle, last, rfl⟩ := rest.eq_nil_or_concat.resolve_left some
    have entries : fault = .whichOne (world.messageParameter first ::
        (middle.map world.messageParameter ++ [world.messageParameter last])) := by
      simp [fault]
    refine ⟨first, middle, last, by simp, ?_, ?_⟩
    · rw [entries, CommandError.report_whichOne, List.map_map]
      rfl
    · intro narrator usual name
      rw [entries, Narrator.render_whichOne usual, List.map_map]
      rfl

/-- Of coin, lamp and key, the coin is not there: the hero is asked about the other two, as if there
were no coin or two of them. -/
theorem chosen_by_what_is_present_cave :
    let world := World.initial Story.cave
    let candidates := [6, 3, 4]
    let choice := Choice.ofCandidates world candidates true
    (∃ id ∈ candidates, world.reachable id = true) ∧
    ([3, 6, 4, 6].filter world.reachable = candidates.filter world.reachable) ∧
    Choice.ofCandidates world [3, 6, 4, 6] true = choice ∧ choice = .whichOne [3, 4] := by
  intro world candidates choice
  have present : ∃ id ∈ candidates, world.reachable id = true := ⟨3, by decide, by decide⟩
  have same : [3, 6, 4, 6].filter world.reachable = candidates.filter world.reachable := by decide
  obtain ⟨blind, -, whichOne, -⟩ := chosen_by_what_is_present world candidates true
  refine ⟨present, same, blind (Or.inl present) _ same, ?_⟩
  exact (whichOne [3, 4]).mpr ⟨by decide, Or.inl (by decide)⟩

end TextAdventure
