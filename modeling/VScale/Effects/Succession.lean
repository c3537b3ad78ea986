import VScale.Effects.Interpret

/-!
# What an operation is followed by

Some operations leave a duty behind: whatever they are answered, the program must go
on with a certain operation.  A program that never evades its duties keeps to them
in every composition.
-/

namespace Effects
namespace Prog

variable {sig target first second : Signature}

/-- The operation a program performs first. -/
def head : Prog sig α → Option sig.Op
  | .pure _ => none
  | .perform op _ => some op

/-- Whatever an operation is answered, the program goes on with what is due. -/
def Succeeds (due : (op : sig.Op) → sig.Answer op → Option sig.Op → Prop) : Prog sig α → Prop
  | .pure _ => True
  | .perform op next => ∀ answer, due op answer (next answer).head ∧ (next answer).Succeeds due

/-- An operation that may be the last one of a program may be followed by any other. -/
def Lenient (due : (op : sig.Op) → sig.Answer op → Option sig.Op → Prop) : Prop :=
  ∀ op answer, due op answer none → ∀ head, due op answer head

variable {due : (op : sig.Op) → sig.Answer op → Option sig.Op → Prop}

variable {program : Prog sig α}

/-- Operations that owe nothing may come in any order. -/
theorem succeeds_of_only
    {allowed : sig.Op → Prop}
    (idle : ∀ op answer head, allowed op → due op answer head)
    (only : program.Only allowed) : program.Succeeds due := by
  induction program with
  | pure value => trivial
  | perform op next ih =>
      intro answer
      exact ⟨idle op answer _ only.1, ih answer (only.2 answer)⟩

theorem succeeds_mono
    {owed : (op : sig.Op) → sig.Answer op → Option sig.Op → Prop}
    (implies : ∀ op answer head, due op answer head → owed op answer head)
    (succeeds : program.Succeeds due) : program.Succeeds owed := by
  induction program with
  | pure value => trivial
  | perform op next ih =>
      intro answer
      obtain ⟨here, there⟩ := succeeds answer
      exact ⟨implies op answer _ here, ih answer there⟩

/-- Two programs in sequence leave nothing due. -/
theorem succeeds_bind
    (lenient : Lenient due)
    {rest : α → Prog sig β}
    (one : program.Succeeds due)
    (other : ∀ value, (rest value).Succeeds due) :
    (program >>= rest).Succeeds due := by
  induction program with
  | pure value => exact other value
  | perform op next ih =>
      intro answer
      obtain ⟨owed, follows⟩ := one answer
      refine ⟨?_, ih answer follows⟩
      change due op answer (next answer >>= rest).head
      generalize next answer = program at owed
      cases program with
      | pure value => exact lenient op answer owed _
      | perform op next => exact owed

/-- A translation leaves nothing due when each operation does. -/
theorem succeeds_interpret
    {owed : (op : target.Op) → target.Answer op → Option target.Op → Prop}
    (lenient : Lenient owed)
    {translate : (op : sig.Op) → Prog target (sig.Answer op)}
    (translated : ∀ op, (translate op).Succeeds owed)
    (program : Prog sig α) :
    (program.interpret translate).Succeeds owed := by
  induction program with
  | pure value => trivial
  | perform op next ih =>
      exact succeeds_bind lenient (translated op) ih

theorem head_left (program : Prog first α) :
    (program.left : Prog (first.sum second) α).head = program.head.map Sum.inl := by
  cases program with
  | pure | perform => rfl

theorem succeeds_left
    {owed : (op : (first.sum second).Op) → (first.sum second).Answer op →
      Option (first.sum second).Op → Prop}
    {program : Prog first α}
    (succeeds : program.Succeeds fun op answer head => owed (.inl op) answer (head.map Sum.inl)) :
    (program.left : Prog (first.sum second) α).Succeeds owed := by
  induction program with
  | pure value => trivial
  | perform op next ih =>
      intro answer
      obtain ⟨here, there⟩ := succeeds answer
      refine ⟨?_, ih answer there⟩
      rw [head_left]
      exact here

end Prog
end Effects
