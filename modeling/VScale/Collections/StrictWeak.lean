import Mathlib.Data.Set.Basic
import Mathlib.Order.Defs.LinearOrder

/-!
# Strict weak orders on a set

A relation is a strict weak order on a set of values when it is irreflexive,
asymmetric and transitive there and values it does not distinguish form classes.
These are the comparisons by which a list can be sorted.
-/

namespace Collections

variable {α β : Type*}

/-- Neither value comes before the other. -/
def Incomparable (less : α → α → Prop) (first second : α) : Prop :=
  ¬ less first second ∧ ¬ less second first

theorem Incomparable.symm
    {less : α → α → Prop}
    {first second : α}
    (same : Incomparable less first second) : Incomparable less second first :=
  ⟨same.2, same.1⟩

/-- The relation is a strict weak order on a set. -/
structure StrictWeakOn (less : α → α → Prop) (domain : Set α) : Prop where
  irrefl : ∀ a ∈ domain, ¬ less a a
  asymm : ∀ a ∈ domain, ∀ b ∈ domain, less a b → ¬ less b a
  trans : ∀ a ∈ domain, ∀ b ∈ domain, ∀ c ∈ domain, less a b → less b c → less a c
  incomparable_trans : ∀ a ∈ domain, ∀ b ∈ domain, ∀ c ∈ domain,
    Incomparable less a b → Incomparable less b c → Incomparable less a c

namespace StrictWeakOn

variable {less : α → α → Prop} {domain : Set α}

theorem mono
    {smaller : Set α}
    (order : StrictWeakOn less domain)
    (inside : smaller ⊆ domain) :
    StrictWeakOn less smaller where
  irrefl := fun a inA => order.irrefl a (inside inA)
  asymm := fun a inA b inB => order.asymm a (inside inA) b (inside inB)
  trans := fun a inA b inB c inC => order.trans a (inside inA) b (inside inB) c (inside inC)
  incomparable_trans := fun a inA b inB c inC =>
    order.incomparable_trans a (inside inA) b (inside inB) c (inside inC)

/-- The reversed relation is a strict weak order as well. -/
theorem flip (order : StrictWeakOn less domain) :
    StrictWeakOn (fun first second => less second first) domain where
  irrefl := order.irrefl
  asymm := fun a inA b inB => order.asymm b inB a inA
  trans := fun a inA b inB c inC first second => order.trans c inC b inB a inA second first
  incomparable_trans := by
    intro a inA b inB c inC first second
    exact (order.incomparable_trans a inA b inB c inC first.symm second.symm).symm

/-- Values are compared by what a function makes of them. -/
theorem image_iff
    {f : β → α}
    {domain : Set β} :
    StrictWeakOn less (f '' domain) ↔
      StrictWeakOn (fun first second => less (f first) (f second)) domain := by
  constructor
  · intro order
    exact
      { irrefl := fun a inA => order.irrefl _ ⟨a, inA, rfl⟩
        asymm := fun a inA b inB => order.asymm _ ⟨a, inA, rfl⟩ _ ⟨b, inB, rfl⟩
        trans := fun a inA b inB c inC =>
          order.trans _ ⟨a, inA, rfl⟩ _ ⟨b, inB, rfl⟩ _ ⟨c, inC, rfl⟩
        incomparable_trans := fun a inA b inB c inC =>
          order.incomparable_trans _ ⟨a, inA, rfl⟩ _ ⟨b, inB, rfl⟩ _ ⟨c, inC, rfl⟩ }
  · intro order
    constructor
    · rintro _ ⟨a, inA, rfl⟩
      exact order.irrefl a inA
    · rintro _ ⟨a, inA, rfl⟩ _ ⟨b, inB, rfl⟩
      exact order.asymm a inA b inB
    · rintro _ ⟨a, inA, rfl⟩ _ ⟨b, inB, rfl⟩ _ ⟨c, inC, rfl⟩
      exact order.trans a inA b inB c inC
    · rintro _ ⟨a, inA, rfl⟩ _ ⟨b, inB, rfl⟩ _ ⟨c, inC, rfl⟩
      exact order.incomparable_trans a inA b inB c inC

/-- Relations that agree on the set are strict weak orders together. -/
theorem congr
    {other : α → α → Prop}
    (order : StrictWeakOn less domain)
    (agree : ∀ a ∈ domain, ∀ b ∈ domain, other a b ↔ less a b) : StrictWeakOn other domain where
  irrefl := fun a inA => fun before => order.irrefl a inA ((agree a inA a inA).mp before)
  asymm := by
    intro a inA b inB ahead behind
    exact order.asymm a inA b inB ((agree a inA b inB).mp ahead) ((agree b inB a inA).mp behind)
  trans := by
    intro a inA b inB c inC first second
    exact (agree a inA c inC).mpr (order.trans a inA b inB c inC
      ((agree a inA b inB).mp first) ((agree b inB c inC).mp second))
  incomparable_trans := by
    have level : ∀ x ∈ domain, ∀ y ∈ domain, Incomparable other x y ↔ Incomparable less x y :=
      fun x inX y inY => and_congr (not_congr (agree x inX y inY)) (not_congr (agree y inY x inX))
    intro a inA b inB c inC first second
    exact (level a inA c inC).mpr (order.incomparable_trans a inA b inB c inC
      ((level a inA b inB).mp first) ((level b inB c inC).mp second))

variable {a b c : α}

/-- Not coming before is transitive. -/
theorem not_less_trans
    (order : StrictWeakOn less domain)
    (inA : a ∈ domain)
    (inB : b ∈ domain)
    (inC : c ∈ domain)
    (first : ¬ less b a)
    (second : ¬ less c b) : ¬ less c a := by
  intro before
  have apartAB : ¬ less a b := fun ahead => second (order.trans c inC a inA b inB before ahead)
  have apartBC : ¬ less b c := fun ahead => first (order.trans b inB c inC a inA ahead before)
  exact (order.incomparable_trans a inA b inB c inC ⟨apartAB, first⟩ ⟨apartBC, second⟩).2 before

/-- What comes before a value also comes before those that do not come before it. -/
theorem less_of_less_of_not_less
    (order : StrictWeakOn less domain)
    (inA : a ∈ domain)
    (inB : b ∈ domain)
    (inC : c ∈ domain)
    (first : less a b)
    (second : ¬ less c b) : less a c := by
  by_contra apart
  exact order.not_less_trans inB inC inA second apart first

/-- The strict part of a linear order. -/
theorem of_linearOrder
    [LinearOrder α]
    (domain : Set α) :
    StrictWeakOn (fun first second : α => first < second) domain where
  irrefl := fun a _ => lt_irrefl a
  asymm := fun _ _ _ _ first second => lt_asymm first second
  trans := fun _ _ _ _ _ _ first second => lt_trans first second
  incomparable_trans := by
    intro a _ b _ c _ first second
    have sameAB : a = b := le_antisymm (not_lt.mp first.2) (not_lt.mp first.1)
    rw [sameAB]
    exact second

/-- The relation that distinguishes nothing. -/
theorem of_empty (domain : Set α) : StrictWeakOn (fun _ _ : α => False) domain where
  irrefl := fun _ _ => id
  asymm := fun _ _ _ _ nothing => nothing.elim
  trans := fun _ _ _ _ _ _ nothing => nothing.elim
  incomparable_trans := fun _ _ _ _ _ _ _ _ => ⟨id, id⟩

/-- Values that the first relation does not distinguish are compared by the second. -/
theorem lexicographic
    {later : α → α → Prop}
    (order : StrictWeakOn less domain)
    (ties : StrictWeakOn later domain) :
    StrictWeakOn
      (fun first second => less first second ∨
        Incomparable less first second ∧ later first second) domain where
  irrefl := by
    rintro a inA (ahead | ⟨_, ahead⟩)
    · exact order.irrefl a inA ahead
    · exact ties.irrefl a inA ahead
  asymm := by
    rintro a inA b inB (ahead | ⟨tied, ahead⟩) (behind | ⟨other, behind⟩)
    · exact order.asymm a inA b inB ahead behind
    · exact other.2 ahead
    · exact tied.2 behind
    · exact ties.asymm a inA b inB ahead behind
  trans := by
    rintro a inA b inB c inC (first | ⟨tiedAB, first⟩) (second | ⟨tiedBC, second⟩)
    · exact Or.inl (order.trans a inA b inB c inC first second)
    · exact Or.inl (order.less_of_less_of_not_less inA inB inC first tiedBC.2)
    · left
      by_contra apart
      exact order.not_less_trans inC inA inB apart tiedAB.2 second
    · exact Or.inr ⟨order.incomparable_trans a inA b inB c inC tiedAB tiedBC,
        ties.trans a inA b inB c inC first second⟩
  incomparable_trans := by
    intro a inA b inB c inC first second
    have tied : ∀ {x y}, Incomparable (fun first second => less first second ∨
        Incomparable less first second ∧ later first second) x y →
        Incomparable less x y ∧ Incomparable later x y := by
      rintro x y ⟨ahead, behind⟩
      have level : Incomparable less x y :=
        ⟨fun before => ahead (Or.inl before), fun before => behind (Or.inl before)⟩
      exact ⟨level, fun before => ahead (Or.inr ⟨level, before⟩),
        fun before => behind (Or.inr ⟨level.symm, before⟩)⟩
    have level := order.incomparable_trans a inA b inB c inC (tied first).1 (tied second).1
    have last := ties.incomparable_trans a inA b inB c inC (tied first).2 (tied second).2
    constructor
    · rintro (before | ⟨_, before⟩)
      · exact level.1 before
      · exact last.1 before
    · rintro (before | ⟨_, before⟩)
      · exact level.2 before
      · exact last.2 before

end StrictWeakOn

end Collections
