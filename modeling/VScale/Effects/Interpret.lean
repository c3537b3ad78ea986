import Mathlib.Logic.Function.Basic
import VScale.Effects.Trace

/-!
# Programs on top of programs

A program over one signature becomes a program over another when every operation
is translated.  Two machines side by side answer the operations of both their
signatures, and a program of the first one neither sees nor changes the second.
-/

namespace Effects

/-- The operations of two signatures. -/
abbrev Signature.sum (first second : Signature) : Signature where
  Op := first.Op ⊕ second.Op
  Answer := fun op =>
    match op with
    | .inl op => first.Answer op
    | .inr op => second.Answer op

namespace Prog

variable {sig target first second : Signature}

/-- Replace every operation by a program. -/
def interpret (translate : (op : sig.Op) → Prog target (sig.Answer op)) :
    Prog sig α → Prog target α
  | .pure value => .pure value
  | .perform op next => translate op >>= fun answer => (next answer).interpret translate

theorem interpret_bind
    (translate : (op : sig.Op) → Prog target (sig.Answer op))
    (program : Prog sig α)
    (rest : α → Prog sig β) :
    (program >>= rest).interpret translate =
      program.interpret translate >>= fun value => (rest value).interpret translate := by
  induction program with
  | pure value => rfl
  | perform op next ih =>
      change translate op >>= (fun answer => (next answer >>= rest).interpret translate) = _
      rw [funext ih]
      exact (bind_assoc _ _ _).symm

variable {program : Prog sig α}

/-- What a program performs through translated operations. -/
theorem only_interpret
    {allowed : target.Op → Prop}
    {translate : (op : sig.Op) → Prog target (sig.Answer op)}
    (only : program.Only fun op => (translate op).Only allowed) :
    (program.interpret translate).Only allowed := by
  induction program with
  | pure value => trivial
  | perform op next ih =>
      exact only_bind only.1 fun answer => ih answer (only.2 answer)

/-- A program of the first of two signatures. -/
def left : Prog first α → Prog (first.sum second) α
  | .pure value => .pure value
  | .perform op next => .perform (.inl op) fun answer => (next answer).left

/-- What a program of the first signature performs on top of another. -/
theorem only_left
    {allowed : (first.sum second).Op → Prop}
    {program : Prog first α}
    (only : program.Only fun op => allowed (.inl op)) :
    (program.left : Prog (first.sum second) α).Only allowed := by
  induction program with
  | pure value => trivial
  | perform op next ih =>
      exact ⟨only.1, fun answer => ih answer (only.2 answer)⟩

/-- The operations of a run are among those its program performs. -/
theorem forall_steps_of_only
    {Caller World Choice Move : Type}
    {machine : Machine sig Caller World Choice Move}
    {caller : Caller}
    {strategy : Strategy sig World Choice Move}
    {allowed : sig.Op → Prop}
    (only : program.Only allowed)
    (world : World) :
    ∀ step ∈ program.steps machine caller strategy world, allowed step.op := by
  induction program generalizing world with
  | pure value => exact List.forall_mem_nil _
  | perform op next ih =>
      exact List.forall_mem_cons.mpr ⟨only.1, ih _ (only.2 _) _⟩

end Prog

/-- Two machines side by side.  Who acts on the first one may depend on the state
of the second. -/
def Machine.beside
    (first : Machine sig Actor World Choice Move)
    (second : Machine other Caller State Decision Change)
    (actor : Caller → State → Actor) :
    Machine (sig.sum other) Caller (World × State) (Choice × Decision) (Move ⊕ Change) where
  act := fun caller op choice world =>
    match op with
    | .inl op =>
        let outcome := first.act (actor caller world.2) op choice.1 world.1
        (outcome.1, (outcome.2, world.2))
    | .inr op =>
        let outcome := second.act caller op choice.2 world.2
        (outcome.1, (world.1, outcome.2))
  disturb := fun move world =>
    match move with
    | .inl move => (first.disturb move world.1, world.2)
    | .inr move => (world.1, second.disturb move world.2)

/-- A machine that is used by callers of another kind. -/
def Machine.usedBy
    (machine : Machine sig Caller World Choice Move)
    (caller : Party → Caller) :
    Machine sig Party World Choice Move where
  act := fun party => machine.act (caller party)
  disturb := machine.disturb

/-- A machine of its own for every caller. -/
def Machine.each (machine : Machine sig Unit World Choice Move) :
    Machine sig Nat (Nat → World) Choice (Nat × Move) where
  act := fun caller op choice worlds =>
    let outcome := machine.act () op choice (worlds caller)
    (outcome.1, Function.update worlds caller outcome.2)
  disturb := fun move worlds =>
    Function.update worlds move.1 (machine.disturb move.2 (worlds move.1))

namespace Prog

variable {first second : Signature} {World State : Type}

/-- How a contract on two worlds and the steps in it look from the first one, while
the second stays within a set of states. -/
structure Embeds
    (contract : Contract (World × State))
    (steps : (op : (first.sum second).Op) → World × State → (first.sum second).Answer op →
      World × State → Prop)
    (here : Contract World)
    (hereSteps : (op : first.Op) → World → first.Answer op → World → Prop)
    (inside : State → Prop) : Prop where
  rely : ∀ {world state other}, inside state → contract.rely (world, state) other →
    here.rely world other.1 ∧ inside other.2
  guarantee : ∀ {world state other}, inside state → here.guarantee world other →
    contract.guarantee (world, state) (other, state)
  steps : ∀ {op world state answer after}, inside state →
    steps (.inl op) (world, state) answer after →
    hereSteps op world answer after.1 ∧ after.2 = state

/-- How a contract on two worlds and the steps in it look from the first one, while
the second stays as it is. -/
structure Projects
    (contract : Contract (World × State))
    (steps : (op : (first.sum second).Op) → World × State → (first.sum second).Answer op →
      World × State → Prop)
    (here : Contract World)
    (hereSteps : (op : first.Op) → World → first.Answer op → World → Prop)
    (state : State) : Prop where
  rely : ∀ {world other}, contract.rely (world, state) other →
    here.rely world other.1 ∧ other.2 = state
  guarantee : ∀ {world other}, here.guarantee world other →
    contract.guarantee (world, state) (other, state)
  steps : ∀ {op world answer after}, steps (.inl op) (world, state) answer after →
    hereSteps op world answer after.1 ∧ after.2 = state

variable {contract : Contract (World × State)}
variable {steps : (op : (first.sum second).Op) → World × State → (first.sum second).Answer op →
  World × State → Prop}
variable {here : Contract World}
variable {hereSteps : (op : first.Op) → World → first.Answer op → World → Prop}
variable {inside : State → Prop} {state : State}

variable {world : World}

variable {post : α → World × State → Prop} {program : Prog first α}

/-- What is known of a program of the first machine holds beside the second. -/
theorem wp_left_of_embeds
    (embeds : Embeds contract steps here hereSteps inside)
    (start : inside state)
    (holds : program.wp here hereSteps
      (fun value later => ∀ state, inside state → post value (later, state)) world) :
    (program.left : Prog (first.sum second) α).wp contract steps post (world, state) := by
  induction program generalizing world state with
  | pure value =>
      rintro ⟨later, others⟩ relied
      obtain ⟨reached, still⟩ := embeds.rely start relied
      exact holds later reached others still
  | perform op next ih =>
      rintro ⟨before, others⟩ relied answer ⟨after, left⟩ stepped
      obtain ⟨reached, still⟩ := embeds.rely start relied
      obtain ⟨own, rfl⟩ := embeds.steps still stepped
      obtain ⟨kept, rest⟩ := holds before reached answer after own
      exact ⟨embeds.guarantee still kept, ih answer still rest⟩

theorem Projects.embeds (projects : Projects contract steps here hereSteps state) :
    Embeds contract steps here hereSteps (fun other => other = state) where
  rely := by
    rintro world _ other rfl relied
    exact projects.rely relied
  guarantee := by
    rintro world _ other rfl kept
    exact projects.guarantee kept
  steps := by
    rintro op world _ answer after rfl stepped
    exact projects.steps stepped

theorem wp_left
    (projects : Projects contract steps here hereSteps state)
    (holds : program.wp here hereSteps (fun value later => post value (later, state)) world) :
    (program.left : Prog (first.sum second) α).wp contract steps post (world, state) := by
  refine wp_left_of_embeds projects.embeds rfl (wp_mono holds ?_)
  rintro value later met _ rfl
  exact met

end Prog

end Effects
