import TextAdventure.Proofs.Lists
import TextAdventure.Proofs.Remembering
/-!
# What a command makes of memory

Memory changes when a command has been read and before it is dispatched.  A verb command that cannot
be read leaves it as it was, a command without parameters or without a verb empties it, and any
other one puts its own targets and the pronouns of its own parameters in its place
(`memory_of_commands`).  How the dispatch ends makes no difference, and nothing of an earlier
command is left beside what the last one brought.
-/

namespace TextAdventure

variable {story : Story} {σ : Type}

/-! ## Pronouns of instances -/

/-- The entry is a pronoun that can stand for an instance. -/
def DictionaryEntry.IsPronounOf (entry : DictionaryEntry) (id : InstanceId) : Prop :=
  entry.classes.contains .pronoun = true ∧ id ∈ entry.pronounFor

/-- The code is that of the first pronoun in the dictionary that can stand for an instance. -/
def Dictionary.FirstPronoun (dictionary : Dictionary) (id : InstanceId) (code : WordCode) : Prop :=
  ∃ before entry after, dictionary.entries = before ++ entry :: after ∧ entry.code = code ∧
    entry.IsPronounOf id ∧ ∀ earlier ∈ before, ¬ earlier.IsPronounOf id

theorem Dictionary.pronounFor_eq_some {dictionary : Dictionary} {id : InstanceId}
    {code : WordCode} :
    dictionary.pronounFor id = some code ↔ dictionary.FirstPronoun id code := by
  have isPronoun : ∀ entry : DictionaryEntry,
      (decide (entry.classes.contains .pronoun = true ∧ entry.pronounFor.contains id = true) =
        true) ↔ entry.IsPronounOf id := by
    intro entry
    rw [decide_eq_true_eq, List.contains_iff_mem]
    rfl
  unfold pronounFor FirstPronoun
  rw [List.find?_filter, Option.map_eq_some_iff]
  simp only [List.find?_eq_some_iff_append, Bool.not_eq_true', ← Bool.not_eq_true, isPronoun]
  constructor
  · rintro ⟨entry, ⟨pronoun, before, after, entries, earlier⟩, code⟩
    exact ⟨before, entry, after, entries, code, pronoun, earlier⟩
  · rintro ⟨before, entry, after, entries, code, pronoun, earlier⟩
    exact ⟨entry, ⟨pronoun, before, after, entries, earlier⟩, code⟩

instance (dictionary : Dictionary) (id : InstanceId) (code : WordCode) :
    Decidable (dictionary.FirstPronoun id code) :=
  decidable_of_iff _ Dictionary.pronounFor_eq_some

namespace Memory

variable {dictionary : Dictionary} {memory : Memory}

theorem binding?_eq_some {id : InstanceId} {binding : PronounBinding} :
    binding? dictionary id = some binding ↔
      binding.id = id ∧ dictionary.FirstPronoun id binding.pronoun := by
  unfold binding?
  rw [Option.map_eq_some_iff]
  constructor
  · rintro ⟨pronoun, registered, rfl⟩
    exact ⟨rfl, Dictionary.pronounFor_eq_some.mp registered⟩
  · rintro ⟨rfl, first⟩
    exact ⟨binding.pronoun, Dictionary.pronounFor_eq_some.mpr first, rfl⟩

theorem foldl_addBinding (new : List PronounBinding) :
    new.foldl addBinding [] = new.eraseDups := by
  induction new using List.reverseRecOn with
  | nil => rfl
  | append_singleton rest binding ih =>
    rw [List.foldl_append, ih, eraseDups_concat]
    show addBinding rest.eraseDups binding = _
    unfold addBinding
    simp only [List.contains_iff_mem, List.mem_eraseDups]

/-- The bindings are those of the parameters in order, each parameter counted once. -/
theorem bindings_eq (dictionary : Dictionary) (parameters : List InstanceId) :
    bindings dictionary parameters =
      (parameters.eraseDups.filter (· != 0)).filterMap (binding? dictionary) := by
  unfold bindings
  rw [foldl_addBinding, List.filterMap_filter, List.filterMap_filter]
  apply eraseDups_filterMap
  intro x y binding ofX ofY
  -- a binding names the parameter that it was made for
  obtain ⟨-, ofX⟩ := Option.ite_none_right_eq_some.mp ofX
  obtain ⟨-, ofY⟩ := Option.ite_none_right_eq_some.mp ofY
  rw [← (binding?_eq_some.mp ofX).1, ← (binding?_eq_some.mp ofY).1]

/-- Every instance has at most one pronoun, and it is its own. -/
structure BindsOnce (dictionary : Dictionary) (memory : Memory) : Prop where
  once : (memory.pronouns.map (·.id)).Nodup
  own : ∀ binding ∈ memory.pronouns,
    binding.id ≠ 0 ∧ dictionary.FirstPronoun binding.id binding.pronoun

namespace BindsOnce

theorem empty (dictionary : Dictionary) : BindsOnce dictionary {} :=
  ⟨List.nodup_nil, List.forall_mem_nil _⟩

/-- So a pronoun stands for different instances, and never for none. -/
theorem instances (binds : memory.BindsOnce dictionary) (pronoun : WordCode) :
    (memory.pronounInstances pronoun).Nodup ∧ 0 ∉ memory.pronounInstances pronoun := by
  unfold pronounInstances
  constructor
  · exact binds.once.sublist (List.filter_sublist.map _)
  · intro member
    obtain ⟨binding, kept, none⟩ := List.mem_map.mp member
    exact (binds.own binding (List.mem_of_mem_filter kept)).1 none

theorem ofCommand (dictionary : Dictionary) (parameters targets : List InstanceId) :
    BindsOnce dictionary (Memory.ofCommand dictionary parameters targets) := by
  unfold Memory.ofCommand
  split
  · exact empty dictionary
  · have bound : ∀ binding ∈ bindings dictionary parameters, ∃ id,
        id ∈ parameters.eraseDups.filter (· != 0) ∧ binding? dictionary id = some binding := by
      intro binding member
      rw [bindings_eq] at member
      exact List.mem_filterMap.mp member
    refine ⟨?_, ?_⟩
    · show ((bindings dictionary parameters).map (·.id)).Nodup
      rw [bindings_eq, List.map_filterMap]
      apply List.Nodup.filterMap _ ((nodup_eraseDups parameters).filter _)
      -- what is left of a binding is the parameter itself
      have same : ∀ id id', id' ∈ ((binding? dictionary id).map (·.id)) → id' = id := by
        intro id id' member
        obtain ⟨binding, found, rfl⟩ := Option.map_eq_some_iff.mp member
        exact (binding?_eq_some.mp found).1
      intro x y id ofX ofY
      rw [← same x id ofX, ← same y id ofY]
    · intro binding member
      obtain ⟨id, kept, found⟩ := bound binding member
      obtain ⟨rfl, first⟩ := binding?_eq_some.mp found
      have some := List.of_mem_filter kept
      exact ⟨bne_iff_ne.mp some, first⟩

end BindsOnce

end Memory

/-! ## One command -/

/-- What a command makes of memory is settled when it has been read. -/
theorem runCommand_memory (setting : Setting story σ) (words : Words) (memory : Memory)
    (cursor : Nat) (scene : Scene story σ) :
    ((runCommand setting words memory cursor).run scene).1.1 =
      if words.is cursor .verb then
        match ((parseCommand setting memory words cursor).run scene).1 with
        | .error _ => memory
        | .ok (command, _) =>
          Memory.ofCommand words.dictionary command.parameters command.targets
      else {} := by
  unfold runCommand
  split
  · rw [Play.run_bind]
    cases ((parseCommand setting memory words cursor).run scene).1 with
    | error stop => rfl
    | ok parsed =>
      obtain ⟨command, next⟩ := parsed
      dsimp only
      rw [Play.run_bind]
      -- however the dispatch ends
      split <;> rfl
  · split
    · rfl
    · rfl

/-- A command that has been read is remembered, however its dispatch ends. -/
theorem runCommand_memory_of_parsed {setting : Setting story σ} {words : Words} {memory : Memory}
    {cursor next : Nat} {scene : Scene story σ} {command : ParsedCommand}
    (verb : words.is cursor .verb = true)
    (parsed : ((parseCommand setting memory words cursor).run scene).1 = .ok (command, next)) :
    ((runCommand setting words memory cursor).run scene).1.1 =
      Memory.ofCommand words.dictionary command.parameters command.targets := by
  rw [runCommand_memory, if_pos verb, parsed]

/-! ## All commands of a session -/

/-- The memories that any number of commands leads to, in whatever lines and scenes they are
run. -/
inductive Memory.Reached (setting : Setting story σ) : Memory → Prop where
  | start : Reached setting {}
  | command {memory : Memory} (words : Words) (own : words.dictionary = story.dictionary)
      (cursor : Nat) (scene : Scene story σ) :
      Reached setting memory →
        Reached setting ((runCommand setting words memory cursor).run scene).1.1

theorem Memory.reached_interpretLine {setting : Setting story σ} {memory : Memory}
    (reached : memory.Reached setting) (line : String) (scene : Scene story σ) :
    (((interpretLine setting memory line).run scene).1).Reached setting := by
  unfold interpretLine
  simp only [Play.run_bind, Play.run_world]
  generalize scan scene.world.clearLiterals line = scan
  obtain ⟨scanned, world⟩ := scan
  cases scanned with
  | error fault => exact reached
  | ok scanned =>
    apply runWords_keeps _ 0 _ reached
    intro memory cursor scene reached
    exact .command _ rfl cursor scene reached

/-- What a session remembers after any lines is among them. -/
theorem Session.reached_after {session : Session story σ}
    (reached : session.memory.Reached session.setting) (lines : List String) :
    (session.after lines).memory.Reached session.setting := by
  induction lines generalizing session with
  | nil => exact reached
  | cons line rest ih =>
    have entered : (session.enter line).2.memory.Reached (session.enter line).2.setting :=
      Memory.reached_interpretLine reached line session.scene
    exact ih entered

/-- One step. -/
theorem Memory.BindsOnce.of_runCommand {setting : Setting story σ} {words : Words}
    {memory : Memory} (own : words.dictionary = story.dictionary)
    (binds : memory.BindsOnce story.dictionary) (cursor : Nat) (scene : Scene story σ) :
    (((runCommand setting words memory cursor).run scene).1.1).BindsOnce story.dictionary := by
  rw [runCommand_memory]
  split
  · split
    · exact binds
    · rw [own]
      exact .ofCommand ..
  · exact .empty _

/-- Every run. -/
theorem Memory.Reached.bindsOnce {setting : Setting story σ} {memory : Memory}
    (reached : memory.Reached setting) : memory.BindsOnce story.dictionary := by
  induction reached with
  | start => exact .empty _
  | command words own cursor scene _ ih => exact ih.of_runCommand own cursor scene

/-- What the command at the cursor makes of memory, whatever becomes of it after it has been
read. -/
structure Memory.FollowsFrom (setting : Setting story σ) (words : Words) (cursor : Nat)
    (scene : Scene story σ) (memory after : Memory) : Prop where
  empty_of_noVerb : words.is cursor .verb = false → after = {}
  same_of_unread : words.is cursor .verb = true → ∀ stop,
    ((parseCommand setting memory words cursor).run scene).1 = .error stop → after = memory
  empty_of_noParameters : words.is cursor .verb = true → ∀ command next,
    ((parseCommand setting memory words cursor).run scene).1 = .ok (command, next) →
      command.parameters = [] → after = {}
  /-- Nothing of the old memory is left: the targets and, in the order of the parameters and without
  repetitions, the instances with their pronouns. -/
  replaced : words.is cursor .verb = true → ∀ command next,
    ((parseCommand setting memory words cursor).run scene).1 = .ok (command, next) →
      command.parameters ≠ [] → after.previous = command.targets ∧
        after.pronouns = (command.parameters.eraseDups.filter (· != 0)).filterMap
          fun id => (words.dictionary.pronounFor id).map fun pronoun => ⟨pronoun, id⟩

theorem Memory.followsFrom_runCommand (setting : Setting story σ) (words : Words) (cursor : Nat)
    (scene : Scene story σ) (memory : Memory) :
    FollowsFrom setting words cursor scene memory
      ((runCommand setting words memory cursor).run scene).1.1 := by
  constructor
  · intro noVerb
    rw [runCommand_memory, noVerb]
    rfl
  · intro verb stop failed
    rw [runCommand_memory, if_pos verb, failed]
  · intro verb command next read none
    rw [runCommand_memory_of_parsed verb read, ofCommand, none]
    rfl
  · intro verb command next read some
    have remembered : Memory.ofCommand words.dictionary command.parameters command.targets =
        ⟨bindings words.dictionary command.parameters, command.targets⟩ :=
      if_neg (by simpa using some)
    rw [runCommand_memory_of_parsed verb read, remembered]
    exact ⟨rfl, bindings_eq _ _⟩

/-- **What commands remember.**  In a memory that commands have led to, every instance is bound at
most once, to its own pronoun, and a pronoun stands for different instances.  The next command keeps
this memory if it has a verb and cannot be read, and empties it if it has no verb or no parameters.
Otherwise its targets and the bindings of its parameters take the place of all that was remembered,
whatever becomes of it. -/
theorem memory_of_commands {setting : Setting story σ} {memory : Memory}
    (reached : memory.Reached setting) :
    memory.BindsOnce story.dictionary ∧
      (∀ pronoun, (memory.pronounInstances pronoun).Nodup ∧
        0 ∉ memory.pronounInstances pronoun) ∧
      ∀ (words : Words) (cursor : Nat) (scene : Scene story σ),
        Memory.FollowsFrom setting words cursor scene memory
          ((runCommand setting words memory cursor).run scene).1.1 := by
  have binds := reached.bindsOnce
  refine ⟨binds, binds.instances, ?_⟩
  intro words cursor scene
  exact Memory.followsFrom_runCommand setting words cursor scene memory

/-! ## A story with pronouns -/

/-- A shop with scissors, that are called them, and with needle and thread, each of which is called
it. -/
def Story.shop : Story where
  predefined := { entity := 1, thing := 2, object := 3, location := 4, actor := 5 }
  hero := 2
  classes := [
    { code := 1, name := "entity", parent := 0 },
    { code := 2, name := "thing", parent := 1 },
    { code := 3, name := "object", parent := 2 },
    { code := 4, name := "location", parent := 1 },
    { code := 5, name := "actor", parent := 2 }]
  instances := [
    { code := 1, name := "shop", parent := 4, location := 0 },
    { code := 2, name := "hero", parent := 5, location := 1 },
    { code := 3, name := "scissors", parent := 3, location := 1 },
    { code := 4, name := "needle", parent := 3, location := 1 },
    { code := 5, name := "thread", parent := 3, location := 1 }]
  dictionary := { entries := [
    { word := "cut", code := 1, classes := .verb },
    { word := "take", code := 2, classes := .verb },
    { word := "with", code := 3, classes := .preposition },
    { word := "and", code := 4, classes := .conjunction },
    { word := "them", code := 5, classes := .them ||| .pronoun, pronounFor := [3] },
    { word := "it", code := 6, classes := .pronoun, pronounFor := [4, 5] },
    { word := "scissors", code := 7, classes := .noun, nounOf := [3] },
    { word := "needle", code := 8, classes := .noun, nounOf := [4] },
    { word := "thread", code := 9, classes := .noun, nounOf := [5] }] }
  grammars := [{ verb := 1, table := 0 }, { verb := 2, table := 4 }]
  tables := [
    [.parameter {} 1], [.word 3 2], [.parameter {} 3], [.finish 1 []],
    [.parameter { multiple := true } 5], [.finish 2 []]]
  parameterMaps := [
    { form := 1, verb := 1, sources := [1, 2] }, { form := 2, verb := 2, sources := [1] }]
  globalVerbs := [
    { code := 1, bodies := [{ action := some 100 }] },
    { code := 2, bodies := [{ action := some 101 }] }]

def Setting.shop : Setting .shop Recording := ⟨.scripted _ {}, {}⟩

/-- The words of a line in the shop, by their places in its dictionary. -/
def Words.ofShop (entries : List Nat) : Words where
  words := entries.map fun index =>
    .known index (((Story.shop.dictionary.entries[index]?).map (·.word)).getD "")
  dictionary := Story.shop.dictionary

/-- After the thread has been cut with the scissors, each has its pronoun; to cut the needle with
the thread brings both under one. -/
theorem memory_of_commands_shop :
    let session : Session .shop Recording := .start Setting.shop {} {}
    let memory := (session.after ["cut thread with scissors"]).memory
    let next := ((runCommand Setting.shop (.ofShop [0, 7, 2, 8]) memory 0).run session.scene).1.1
    memory = ⟨[⟨6, 5⟩, ⟨5, 3⟩], []⟩ ∧ next = ⟨[⟨6, 4⟩, ⟨6, 5⟩], []⟩ ∧
    memory.Reached Setting.shop ∧ memory.BindsOnce Story.shop.dictionary ∧
    (∀ pronoun, (memory.pronounInstances pronoun).Nodup ∧
      0 ∉ memory.pronounInstances pronoun) ∧
    ∀ (words : Words) (cursor : Nat) (scene : Scene .shop Recording),
      Memory.FollowsFrom Setting.shop words cursor scene memory
        ((runCommand Setting.shop words memory cursor).run scene).1.1 := by
  intro session memory next
  have started : session.memory.Reached session.setting := .start
  have reached : memory.Reached Setting.shop :=
    Session.reached_after started ["cut thread with scissors"]
  exact ⟨by decide +kernel, by decide +kernel, reached, memory_of_commands reached⟩

end TextAdventure
