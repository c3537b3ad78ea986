import VScale.Effects.Program

/-!
# Steps and traces of programs

The steps of a run are its operations with the worlds they found and the choices
that settled them; its trace lists the operations with their answers.  A program
is determined by the answers it gets, so what it returns can be read off the
trace alone, and a weakest precondition may use what is known of the steps.
-/

namespace Effects

/-- One operation of a run. -/
structure Step (sig : Signature) (World Choice : Type) where
  before : World
  op : sig.Op
  choice : Choice

/-- What the operation was answered. -/
def Step.answer
    (machine : Machine sig Caller World Choice Move)
    (caller : Caller)
    (step : Step sig World Choice) : sig.Answer step.op :=
  (machine.act caller step.op step.choice step.before).1

/-- Operations with their answers, oldest first. -/
abbrev Trace (sig : Signature) := List (Sigma fun op : sig.Op => sig.Answer op)

/-- What an operation of a caller may do when only some steps are allowed. -/
def Machine.StepsWhen
    (machine : Machine sig Caller World Choice Move)
    (allowed : Step sig World Choice → Prop)
    (caller : Caller)
    (op : sig.Op)
    (before : World)
    (answer : sig.Answer op)
    (after : World) : Prop :=
  ∃ choice, allowed ⟨before, op, choice⟩ ∧ machine.act caller op choice before = (answer, after)

namespace Prog

variable {Caller World Choice Move : Type} {sig : Signature}

/-- The steps of a run. -/
def steps
    (machine : Machine sig Caller World Choice Move)
    (caller : Caller)
    (strategy : Strategy sig World Choice Move) :
    Prog sig α → World → List (Step sig World Choice)
  | .pure _, _ => []
  | .perform op next, world =>
      let disturbed :=
        (strategy.moves world op).foldl (fun world move => machine.disturb move world) world
      let outcome := machine.act caller op (strategy.choice disturbed op) disturbed
      ⟨disturbed, op, strategy.choice disturbed op⟩ ::
        (next outcome.1).steps machine caller strategy outcome.2

/-- The operations of a run with their answers. -/
def trace
    (machine : Machine sig Caller World Choice Move)
    (caller : Caller)
    (strategy : Strategy sig World Choice Move)
    (program : Prog sig α)
    (world : World) : Trace sig :=
  (program.steps machine caller strategy world).map fun step =>
    ⟨step.op, step.answer machine caller⟩

/-- The trace of a composition is the trace of its parts. -/
theorem trace_bind
    (machine : Machine sig Caller World Choice Move)
    (caller : Caller)
    (strategy : Strategy sig World Choice Move)
    (program : Prog sig α)
    (rest : α → Prog sig β)
    (world : World) :
    (program >>= rest).trace machine caller strategy world =
      program.trace machine caller strategy world ++
        (rest (program.run machine caller strategy world).1).trace machine caller strategy
          (program.run machine caller strategy world).2 := by
  induction program generalizing world with
  | pure value => rfl
  | perform op next ih =>
      exact congrArg (List.cons _) (ih _ _)

/-- A program returns a value when its operations are answered as in a trace. -/
inductive Follows : Prog sig α → Trace sig → α → Prop
  | pure (value : α) : Follows (.pure value) [] value
  | perform {op : sig.Op} {next : sig.Answer op → Prog sig α} {rest : Trace sig} {value : α}
      (answer : sig.Answer op) (follows : Follows (next answer) rest value) :
      Follows (.perform op next) (⟨op, answer⟩ :: rest) value

/-- A run follows its own trace. -/
theorem follows_run
    (machine : Machine sig Caller World Choice Move)
    (caller : Caller)
    (strategy : Strategy sig World Choice Move)
    (program : Prog sig α)
    (world : World) :
    program.Follows (program.trace machine caller strategy world)
      (program.run machine caller strategy world).1 := by
  induction program generalizing world with
  | pure value => exact Follows.pure value
  | perform op next ih =>
      exact Follows.perform _ (ih _ _)

/-- The machine may answer as in a trace when others change the world within a
relation before every operation. -/
def Happens
    (machine : Machine sig Caller World Choice Move)
    (caller : Caller)
    (others : World → World → Prop) : World → Trace sig → Prop
  | _, [] => True
  | world, entry :: rest =>
      ∃ before choice, others world before ∧
        (machine.act caller entry.1 choice before).1 = entry.2 ∧
        Happens machine caller others (machine.act caller entry.1 choice before).2 rest

variable {strategy : Strategy sig World Choice Move} {world : World} {contract : Contract World}

variable {caller : Caller} {machine : Machine sig Caller World Choice Move} {program : Prog sig α}

/-- Every answer in the trace of a run is given by the machine. -/
theorem answer_of_mem_trace
    {entry : Sigma fun op : sig.Op => sig.Answer op}
    (present : entry ∈ program.trace machine caller strategy world) :
    ∃ choice before, entry.2 = (machine.act caller entry.1 choice before).1 := by
  obtain ⟨step, _, rfl⟩ := List.mem_map.mp present
  exact ⟨step.choice, step.before, rfl⟩

namespace Follows

variable {trace : Trace sig}

variable {value : α} {program : Prog sig α}

/-- The first entry of a trace answers the first operation. -/
theorem perform_inv
    {op : sig.Op}
    {next : sig.Answer op → Prog sig α}
    (follows : Follows (.perform op next) trace value) :
    ∃ answer rest, trace = ⟨op, answer⟩ :: rest ∧ Follows (next answer) rest value := by
  cases follows with
  | perform answer rest => exact ⟨answer, _, rfl, rest⟩

theorem pure_inv
    {result : α}
    (follows : Follows (Prog.pure value) trace result) :
    trace = [] ∧ result = value := by
  cases follows with
  | pure => exact ⟨rfl, rfl⟩

/-- The trace of a composition splits where the first part returns. -/
theorem bind_inv
    {rest : α → Prog sig β}
    {result : β}
    (follows : Follows (program >>= rest) trace result) :
    ∃ first second value, trace = first ++ second ∧
      Follows program first value ∧ Follows (rest value) second result := by
  induction program generalizing trace with
  | pure value => exact ⟨[], trace, value, rfl, .pure value, follows⟩
  | perform op next ih =>
      obtain ⟨answer, later, rfl, continued⟩ := perform_inv follows
      obtain ⟨first, second, value, rfl, before, after⟩ := ih answer continued
      exact ⟨⟨op, answer⟩ :: first, second, value, rfl, .perform answer before, after⟩

/-- A program of allowed operations leaves only such operations in its trace. -/
theorem allowed_of_only
    {allowed : sig.Op → Prop}
    (follows : program.Follows trace value)
    (only : program.Only allowed) :
    ∀ entry ∈ trace, allowed entry.1 := by
  induction follows with
  | pure value => exact List.forall_mem_nil _
  | perform answer follows ih =>
      exact List.forall_mem_cons.mpr ⟨only.1, ih (only.2 answer)⟩

end Follows

/-- Under a fixed choice, the entries of a trace are the first one and those of the
rest. -/
theorem forall_trace_constant
    {choice : Choice}
    {op : sig.Op}
    {next : sig.Answer op → Prog sig α}
    {holds : (Sigma fun op : sig.Op => sig.Answer op) → Prop}
    (first : holds ⟨op, (machine.act caller op choice world).1⟩)
    (rest : ∀ entry ∈ (next (machine.act caller op choice world).1).trace machine caller
      (Strategy.constant choice) (machine.act caller op choice world).2, holds entry) :
    ∀ entry ∈ (Prog.perform op next).trace machine caller (Strategy.constant choice) world,
      holds entry :=
  List.forall_mem_cons.mpr ⟨first, rest⟩

/-- One operation among those of others, whatever is guaranteed to them. -/
theorem wp_perform_when
    {allowed : Step sig World Choice → Prop}
    {op : sig.Op}
    {next : sig.Answer op → Prog sig α}
    {post : α → World → Prop}
    (follows : ∀ before choice, contract.rely world before → allowed ⟨before, op, choice⟩ →
      (next (machine.act caller op choice before).1).wp contract
        (machine.StepsWhen allowed caller) post (machine.act caller op choice before).2)
    (free : ∀ before after, contract.guarantee before after := by exact fun _ _ => trivial) :
    (Prog.perform op next).wp contract (machine.StepsWhen allowed caller) post world := by
  rintro before reached answer after ⟨choice, permitted, stepped⟩
  obtain ⟨rfl, rfl⟩ := Prod.ext_iff.mp stepped
  exact ⟨free _ _, follows before choice reached permitted⟩

section Relied

variable
  (relied : ∀ world op, contract.rely world
    ((strategy.moves world op).foldl (fun world move => machine.disturb move world) world))
include relied

/-- A weakest precondition predicts every run that consists of allowed steps. -/
theorem run_of_wp_steps
    {allowed : Step sig World Choice → Prop}
    {post : α → World → Prop}
    (all : ∀ step ∈ program.steps machine caller strategy world, allowed step)
    (holds : program.wp contract (machine.StepsWhen allowed caller) post world) :
    post (program.run machine caller strategy world).1
      (program.run machine caller strategy world).2 := by
  induction program generalizing world with
  | pure value => exact holds world (contract.rely_refl world)
  | perform op next ih =>
      obtain ⟨first, rest⟩ := List.forall_mem_cons.mp all
      exact ih _ rest (holds _ (relied world op) _ _ ⟨_, first, rfl⟩).2

/-- The same for runs that consist of operations with allowed answers. -/
theorem run_of_wp_trace
    {allowed : (op : sig.Op) → sig.Answer op → Prop}
    {post : α → World → Prop}
    (answers : ∀ entry ∈ program.trace machine caller strategy world, allowed entry.1 entry.2)
    (holds : program.wp contract
      (machine.StepsWhen (fun step => allowed step.op (step.answer machine caller)) caller)
      post world) :
    post (program.run machine caller strategy world).1
      (program.run machine caller strategy world).2 := by
  apply run_of_wp_steps relied ?_ holds
  intro step present
  exact answers _ (List.mem_map_of_mem present)

end Relied

/-- A program returns a value in a world that others change between its
operations.  All its own steps are allowed. -/
inductive Returns
    (machine : Machine sig Caller World Choice Move)
    (caller : Caller)
    (others : World → World → Prop)
    (allowed : Step sig World Choice → Prop) : Prog sig α → World → α → World → Prop
  | pure (value : α) (world : World) :
      Returns machine caller others allowed (.pure value) world value world
  | others {program : Prog sig α} {world changed final : World} {value : α}
      (change : others world changed)
      (later : Returns machine caller others allowed program changed value final) :
      Returns machine caller others allowed program world value final
  | perform {op : sig.Op} {next : sig.Answer op → Prog sig α} {world final : World} {value : α}
      (choice : Choice) (fine : allowed ⟨world, op, choice⟩)
      (later : Returns machine caller others allowed
        (next (machine.act caller op choice world).1) (machine.act caller op choice world).2
        value final) :
      Returns machine caller others allowed (.perform op next) world value final

namespace Returns

variable {machine : Machine sig Caller World Choice Move} {caller : Caller}
variable {others : World → World → Prop} {allowed : Step sig World Choice → Prop}

variable {world : World}

variable {program : Prog sig α}

/-- A weakest precondition predicts what a program returns among others. -/
theorem post
    {contract : Contract World}
    (relied : ∀ before after, others before after → contract.rely before after)
    {post : α → World → Prop}
    {final : World}
    {value : α}
    (returns : Returns machine caller others allowed program world value final)
    (holds : program.wp contract (machine.StepsWhen allowed caller) post world) :
    post value final := by
  induction returns with
  | pure value world => exact holds world (contract.rely_refl world)
  | others change _ ih =>
      exact ih (wp_of_rely holds (relied _ _ change))
  | @perform op next world _ _ choice fine _ ih =>
      exact ih
        (holds world (contract.rely_refl world) _ _ ⟨choice, fine, rfl⟩).2

/-- A run against a quiet strategy is one of the ways to return. -/
theorem of_run
    {strategy : Strategy sig World Choice Move}
    (quiet : strategy.Quiet)
    (all : ∀ step ∈ program.steps machine caller strategy world, allowed step) :
    Returns machine caller others allowed program world
      (program.run machine caller strategy world).1
      (program.run machine caller strategy world).2 := by
  induction program generalizing world with
  | pure value => exact .pure value world
  | perform op next ih =>
      simp only [steps, run, quiet world op, List.foldl_nil] at all ⊢
      obtain ⟨first, rest⟩ := List.forall_mem_cons.mp all
      exact .perform _ first (ih _ rest)

end Returns

end Prog

end Effects
