import Mathlib.Tactic.Common

/-!
# Programs over an effect signature

A program performs atomic operations one at a time and may continue
differently on every answer.  The same program is executed in two ways: alone,
against a strategy that fixes every answer the environment may choose, and as
one of several calls that interleave between any two operations.  The second
reading is captured by a weakest precondition that lets an environment
interfere before every operation and records what each own operation does.
-/

namespace Effects

/-- The atomic operations of an effect, each with the type of its answers. -/
structure Signature where
  /-- The operations a program may perform. -/
  Op : Type
  /-- The answers an operation may return. -/
  Answer : Op → Type

/-- A finite program over a signature, given by its operations and what follows
each of their answers. -/
inductive Prog
    (sig : Signature)
    (α : Type)
  | pure (value : α)
  | perform (op : sig.Op) (next : sig.Answer op → Prog sig α)

namespace Prog

/-- Sequential composition. -/
def bind : Prog sig α → (α → Prog sig β) → Prog sig β
  | .pure value, rest => rest value
  | .perform op next, rest => .perform op fun answer => (next answer).bind rest

instance : Monad (Prog sig) where
  pure := Prog.pure
  bind := Prog.bind

@[simp] theorem bind_perform
    (op : sig.Op)
    (next : sig.Answer op → Prog sig α)
    (rest : α → Prog sig β) :
    (Prog.perform op next >>= rest) =
      .perform op fun answer => next answer >>= rest := rfl

/-- Composition is associative. -/
theorem bind_assoc
    (program : Prog sig α)
    (second : α → Prog sig β)
    (third : β → Prog sig γ) :
    (program >>= second >>= third) = program >>= fun value => second value >>= third := by
  induction program with
  | pure value => rfl
  | perform op next ih =>
      exact congrArg (Prog.perform op) (funext ih)

end Prog

/-- How the world answers operations.  A choice settles whatever the operation
leaves open, and a move is something the environment does on its own. -/
structure Machine (sig : Signature) (Caller World Choice Move : Type) where
  /-- The effect of one operation on behalf of a caller. -/
  act : Caller → (op : sig.Op) → Choice → World → sig.Answer op × World
  /-- The effect of one move of the environment. -/
  disturb : Move → World → World

/-- A complete plan for the environment: the moves it makes before each
operation and the choice it makes for it. -/
structure Strategy (sig : Signature) (World Choice Move : Type) where
  /-- Moves made just before an operation. -/
  moves : World → sig.Op → List Move
  /-- The choice that settles an operation. -/
  choice : World → sig.Op → Choice

/-- A strategy is quiet when the environment makes no moves of its own. -/
def Strategy.Quiet (strategy : Strategy sig World Choice Move) : Prop :=
  ∀ world op, strategy.moves world op = []

namespace Prog

variable {Caller World Choice Move : Type}

/-- Execute a program alone against a strategy. -/
def run
    (machine : Machine sig Caller World Choice Move)
    (caller : Caller)
    (strategy : Strategy sig World Choice Move) :
    Prog sig α → World → α × World
  | .pure value, world => (value, world)
  | .perform op next, world =>
      let disturbed :=
        (strategy.moves world op).foldl (fun world move => machine.disturb move world) world
      let outcome := machine.act caller op (strategy.choice disturbed op) disturbed
      (next outcome.1).run machine caller strategy outcome.2

section Runs

variable
  (machine : Machine sig Caller World Choice Move)
  (caller : Caller)
  (strategy : Strategy sig World Choice Move)

@[simp] theorem run_pure
    (value : α)
    (world : World) :
    (Prog.pure value).run machine caller strategy world = (value, world) := rfl

/-- Running a composition runs the first part and then the second. -/
@[simp] theorem run_bind
    (program : Prog sig α)
    (rest : α → Prog sig β)
    (world : World) :
    (program >>= rest).run machine caller strategy world =
      (rest (program.run machine caller strategy world).1).run machine caller strategy
        (program.run machine caller strategy world).2 := by
  induction program generalizing world with
  | pure value => rfl
  | perform op next ih =>
      simp only [bind_perform, run]
      exact ih _ _

end Runs

/-- Against a quiet strategy an operation sees the world as the program left it. -/
theorem run_perform_of_quiet
    {strategy : Strategy sig World Choice Move}
    (quiet : strategy.Quiet)
    (machine : Machine sig Caller World Choice Move)
    (caller : Caller)
    (op : sig.Op)
    (next : sig.Answer op → Prog sig α)
    (world : World) :
    (Prog.perform op next).run machine caller strategy world =
      (next (machine.act caller op (strategy.choice world op) world).1).run
        machine caller strategy
        (machine.act caller op (strategy.choice world op) world).2 := by
  simp only [run, quiet world op, List.foldl_nil]

end Prog

/-- What a call relies on of everyone else, and what each of its own operations
guarantees to them. -/
structure Contract (World : Type) where
  /-- How others may change the world between two own operations. -/
  rely : World → World → Prop
  /-- How an own operation may change the world. -/
  guarantee : World → World → Prop
  /-- Others may do nothing. -/
  rely_refl : ∀ world, rely world world
  /-- Others may act repeatedly. -/
  rely_trans : ∀ {first second third}, rely first second → rely second third → rely first third

namespace Prog

variable {World : Type}

/-- The worlds from which a program keeps its guarantee and establishes its
postcondition, whatever others do within the rely before every operation. -/
def wp
    (contract : Contract World)
    (step : (op : sig.Op) → World → sig.Answer op → World → Prop) :
    Prog sig α → (α → World → Prop) → World → Prop
  | .pure value, post, world =>
      ∀ later, contract.rely world later → post value later
  | .perform op next, post, world =>
      ∀ before, contract.rely world before →
        ∀ answer after, step op before answer after →
          contract.guarantee before after ∧ (next answer).wp contract step post after

variable {sig : Signature} {contract : Contract World}
variable {step : (op : sig.Op) → World → sig.Answer op → World → Prop}

variable {world : World} {allowed : sig.Op → Prop}

variable {program : Prog sig α} {rest : α → Prog sig β}

/-- Interference preserves weakest preconditions. -/
theorem wp_of_rely
    {post : α → World → Prop}
    {later : World}
    (holds : program.wp contract step post world)
    (interference : contract.rely world later) :
    program.wp contract step post later := by
  cases program with
  | pure value =>
      intro final reached
      exact holds final (contract.rely_trans interference reached)
  | perform op next =>
      intro before reached
      exact holds before (contract.rely_trans interference reached)

/-- A weakest precondition may be used for any weaker postcondition. -/
theorem wp_mono
    {strong weak : α → World → Prop}
    (holds : program.wp contract step strong world)
    (implies : ∀ value later, strong value later → weak value later) :
    program.wp contract step weak world := by
  induction program generalizing world with
  | pure value =>
      intro later reached
      exact implies value later (holds later reached)
  | perform op next ih =>
      intro before reached answer after stepped
      obtain ⟨kept, rest⟩ := holds before reached answer after stepped
      exact ⟨kept, ih answer rest⟩

/-- A program that meets two postconditions meets both at once. -/
theorem wp_and
    {first second : α → World → Prop}
    (one : program.wp contract step first world)
    (other : program.wp contract step second world) :
    program.wp contract step (fun value later => first value later ∧ second value later) world := by
  induction program generalizing world with
  | pure value => exact fun later reached => ⟨one later reached, other later reached⟩
  | perform op next ih =>
      intro before reached answer after stepped
      obtain ⟨kept, rest⟩ := one before reached answer after stepped
      exact ⟨kept, ih answer rest (other before reached answer after stepped).2⟩

/-- A composition meets its postcondition when its first part establishes the
weakest precondition of the second. -/
theorem wp_bind
    {post : β → World → Prop}
    (holds : program.wp contract step
      (fun value later => (rest value).wp contract step post later) world) :
    (program >>= rest).wp contract step post world := by
  induction program generalizing world with
  | pure value => exact holds world (contract.rely_refl world)
  | perform op next ih =>
      intro before reached answer after stepped
      obtain ⟨kept, continued⟩ := holds before reached answer after stepped
      exact ⟨kept, ih answer continued⟩

/-- The rest of a program starts where its first part has ended. -/
theorem wp_seq
    {middle : α → World → Prop}
    {post : β → World → Prop}
    (holds : program.wp contract step middle world)
    (follows : ∀ value later, middle value later → (rest value).wp contract step post later) :
    (program >>= rest).wp contract step post world :=
  wp_bind (wp_mono holds follows)

/-- A program that has nothing to guarantee. -/
theorem wp_of_free
    (free : ∀ before after, contract.guarantee before after)
    (program : Prog sig α)
    (world : World) :
    program.wp contract step (fun _ _ => True) world := by
  induction program generalizing world with
  | pure value => exact fun _ _ => trivial
  | perform op next ih =>
      exact fun before _ answer after _ => ⟨free before after, ih answer after⟩

/-- A program performs only operations of some kind, whatever it is answered. -/
def Only (allowed : sig.Op → Prop) : Prog sig α → Prop
  | .pure _ => True
  | .perform op next => allowed op ∧ ∀ answer, (next answer).Only allowed

theorem only_mono
    {strong weak : sig.Op → Prop}
    (implies : ∀ op, strong op → weak op)
    (only : program.Only strong) : program.Only weak := by
  induction program with
  | pure value => trivial
  | perform op next ih =>
      exact ⟨implies op only.1, fun answer => ih answer (only.2 answer)⟩

theorem only_bind
    (first : program.Only allowed)
    (second : ∀ value, (rest value).Only allowed) :
    (program >>= rest).Only allowed := by
  induction program with
  | pure value => exact second value
  | perform op next ih =>
      exact ⟨first.1, fun answer => ih answer (first.2 answer)⟩

/-- What others and every allowed operation preserve is preserved by the program. -/
theorem wp_of_only
    {invariant : World → Prop}
    (stable : ∀ before after, contract.rely before after → invariant before → invariant after)
    (preserved : ∀ op before answer after, allowed op → step op before answer after →
      invariant before → contract.guarantee before after ∧ invariant after)
    (only : program.Only allowed)
    (holds : invariant world) :
    program.wp contract step (fun _ later => invariant later) world := by
  induction program generalizing world with
  | pure value =>
      intro later reached
      exact stable world later reached holds
  | perform op next ih =>
      intro before reached answer after stepped
      obtain ⟨kept, still⟩ := preserved op before answer after only.1 stepped
        (stable world before reached holds)
      exact ⟨kept, ih answer (only.2 answer) still⟩

end Prog

/-- What one operation of a caller does under a fixed choice. -/
def Machine.StepsBy
    (machine : Machine sig Caller World Choice Move)
    (choice : Choice)
    (caller : Caller)
    (op : sig.Op)
    (before : World)
    (answer : sig.Answer op)
    (after : World) : Prop :=
  machine.act caller op choice before = (answer, after)

/-- The strategy that makes no moves and always chooses the same. -/
def Strategy.constant (choice : Choice) : Strategy sig World Choice Move where
  moves := fun _ _ => []
  choice := fun _ _ => choice

theorem Strategy.constant_quiet (choice : Choice) :
    (constant choice : Strategy sig World Choice Move).Quiet :=
  fun _ _ => rfl

/-- The contract of a call that nobody interferes with. -/
def Contract.alone (World : Type) : Contract World where
  rely := Eq
  guarantee := fun _ _ => True
  rely_refl := fun _ => rfl
  rely_trans := Eq.trans

namespace Prog

variable {Caller World Choice Move : Type} {sig : Signature}

variable {caller : Caller} {machine : Machine sig Caller World Choice Move} {world : World}

variable {post : α → World → Prop} {program : Prog sig α}

/-- A weakest precondition predicts every run against a strategy whose moves
stay within the rely and whose choices lead to allowed steps. -/
theorem run_of_wp
    {contract : Contract World}
    {step : (op : sig.Op) → World → sig.Answer op → World → Prop}
    {strategy : Strategy sig World Choice Move}
    (relied : ∀ world op, contract.rely world
      ((strategy.moves world op).foldl (fun world move => machine.disturb move world) world))
    (chosen : ∀ world op, step op world
      (machine.act caller op (strategy.choice world op) world).1
      (machine.act caller op (strategy.choice world op) world).2)
    (holds : program.wp contract step post world) :
    post (program.run machine caller strategy world).1
      (program.run machine caller strategy world).2 := by
  induction program generalizing world with
  | pure value => exact holds world (contract.rely_refl world)
  | perform op next ih =>
      exact ih _ (holds _ (relied world op) _ _ (chosen _ op)).2

/-- A run under a fixed choice. -/
theorem run_constant_of_wp
    {choice : Choice}
    (holds : program.wp (Contract.alone World) (machine.StepsBy choice caller) post world) :
    post (program.run machine caller (Strategy.constant choice) world).1
      (program.run machine caller (Strategy.constant choice) world).2 :=
  run_of_wp (fun _ _ => rfl) (fun _ _ => rfl) holds

section Alone

variable {step : (op : sig.Op) → World → sig.Answer op → World → Prop}

variable {world : World}

variable {post : α → World → Prop}

/-- Alone, an operation is followed by the rest of the program. -/
theorem wp_perform_alone
    {op : sig.Op}
    {next : sig.Answer op → Prog sig α}
    (follows : ∀ answer after, step op world answer after →
      (next answer).wp (Contract.alone World) step post after) :
    (Prog.perform op next).wp (Contract.alone World) step post world := by
  intro before same answer after stepped
  cases same
  exact ⟨trivial, follows answer after stepped⟩

/-- Alone and under a fixed choice, the answer of an operation is known. -/
theorem wp_perform_by
    {choice : Choice}
    {op : sig.Op}
    {next : sig.Answer op → Prog sig α}
    {answer : sig.Answer op}
    {after : World}
    (stepped : machine.act caller op choice world = (answer, after))
    (follows : (next answer).wp (Contract.alone World) (machine.StepsBy choice caller) post after) :
    (Prog.perform op next).wp (Contract.alone World) (machine.StepsBy choice caller) post
      world := by
  apply wp_perform_alone
  intro found later same
  cases stepped.symm.trans same
  exact follows

theorem wp_pure_alone
    {value : α}
    (holds : post value world) :
    (Prog.pure value : Prog sig α).wp (Contract.alone World) step post world := by
  intro later same
  cases same
  exact holds

end Alone

end Prog

end Effects
