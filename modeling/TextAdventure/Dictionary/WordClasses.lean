/-!
# Word classes

The set of parts that a word can play in a command, one bit each.  `contains` asks for all the
classes of another set and `intersects` for one of them; nothing contains the empty set.
-/

namespace TextAdventure

/-- A set of word classes. -/
structure WordClasses where
  bits : UInt32
deriving DecidableEq, Repr, Inhabited

namespace WordClasses

def none : WordClasses := ⟨0⟩
def synonym : WordClasses := ⟨0x0001⟩
def adjective : WordClasses := ⟨0x0002⟩
def all : WordClasses := ⟨0x0004⟩
def except : WordClasses := ⟨0x0008⟩
def conjunction : WordClasses := ⟨0x0010⟩
def preposition : WordClasses := ⟨0x0020⟩
def direction : WordClasses := ⟨0x0040⟩
def it : WordClasses := ⟨0x0080⟩
def noise : WordClasses := ⟨0x0100⟩
def noun : WordClasses := ⟨0x0200⟩
def actor : WordClasses := ⟨0x0400⟩
def them : WordClasses := ⟨0x0800⟩
def verb : WordClasses := ⟨0x1000⟩
def pronoun : WordClasses := ⟨0x2000⟩

/-- Numbers and quoted texts; no dictionary word has this class, only what the player types. -/
def literal : WordClasses := ⟨0x4000⟩

/-- The classes and their names, by rising bit. -/
def names : List (WordClasses × String) :=
  [(synonym, "synonym"), (adjective, "adjective"), (all, "all"), (except, "except"),
   (conjunction, "conjunction"), (preposition, "preposition"), (direction, "direction"),
   (it, "it"), (noise, "noise"), (noun, "noun"), (actor, "actor"), (them, "them"),
   (verb, "verb"), (pronoun, "pronoun"), (literal, "literal")]

/-- The classes of both sets. -/
def union (a b : WordClasses) : WordClasses := ⟨a.bits ||| b.bits⟩

instance : OrOp WordClasses := ⟨union⟩

/-- Every class of `b`, which has some, is in `a`. -/
def contains (a b : WordClasses) : Bool := b.bits != 0 && a.bits &&& b.bits == b.bits

/-- Some class of `b` is in `a`. -/
def intersects (a b : WordClasses) : Bool := a.bits &&& b.bits != 0

/-- The names of the classes in a set, by rising bit. -/
def describe (classes : WordClasses) : String :=
  "|".intercalate ((names.filter fun entry => classes.contains entry.1).map (·.2))

theorem none_contains (classes : WordClasses) : none.contains classes = false := by
  rw [Bool.eq_false_iff]
  intro has
  simp only [contains, none, UInt32.zero_and, Bool.and_eq_true, bne_iff_ne, beq_iff_eq] at has
  exact has.1 has.2.symm

end WordClasses

end TextAdventure
