import Mathlib.Data.List.Count

/-!
# Calls that advance in small steps

A call is at a stage, which says what it does next and what it remembers.  Any
number of calls share a world; they advance in any order, each by one step of
its own, and the environment makes moves in between.

An invariant is about the world together with the stages of all calls.
-/

namespace Effects

/-- How calls advance. -/
structure Threads (Stage World Choice Move : Type) where
  /-- The stages at which a call may start. -/
  starts : Stage → Bool
  /-- The next step of a numbered call, unless it has returned.  A choice settles
  what the step leaves open. -/
  advance : Nat → Choice → Stage → World → Option (Stage × World)
  /-- The effect of one move of the environment. -/
  disturb : Move → World → World

namespace Threads

variable {Stage World Choice Move : Type}

/-- The world with the stage of every call, in the order they came in. -/
structure State (Stage World : Type) where
  calls : List Stage
  world : World

/-- What happens next. -/
inductive Label (Stage Choice Move : Type)
  | invoke (stage : Stage)
  | advance (number : Nat) (choice : Choice)
  | move (move : Move)

variable (threads : Threads Stage World Choice Move)

/-- One step of one of the calls or of the environment. -/
inductive Step : State Stage World → Label Stage Choice Move → State Stage World → Prop
  | invoke {calls : List Stage} {world : World} {stage : Stage}
      (starts : threads.starts stage = true) :
      Step ⟨calls, world⟩ (.invoke stage) ⟨calls ++ [stage], world⟩
  | advance {before later : List Stage} {stage stage' : Stage} {world world' : World}
      {choice : Choice}
      (advanced : threads.advance before.length choice stage world = some (stage', world')) :
      Step ⟨before ++ stage :: later, world⟩ (.advance before.length choice)
        ⟨before ++ stage' :: later, world'⟩
  | move {calls : List Stage} {world : World} (move : Move) :
      Step ⟨calls, world⟩ (.move move) ⟨calls, threads.disturb move world⟩

/-- The states reached by steps that are all allowed. -/
inductive Reaches
    (allowed : State Stage World → Label Stage Choice Move → Prop)
    (start : State Stage World) : State Stage World → Prop
  | start : Reaches allowed start start
  | step {state later : State Stage World} {label : Label Stage Choice Move}
      (earlier : Reaches allowed start state)
      (stepped : threads.Step state label later)
      (permitted : allowed state label) : Reaches allowed start later

variable {threads}
variable {allowed : State Stage World → Label Stage Choice Move → Prop}
variable {start state : State Stage World}

/-- What holds at first and is kept by every step holds in every state reached. -/
theorem Reaches.invariant
    {holds : State Stage World → Prop}
    (first : holds start)
    (kept : ∀ {state label later}, threads.Reaches allowed start state → holds state →
      threads.Step state label later → allowed state label → holds later)
    (reaches : threads.Reaches allowed start state) : holds state := by
  induction reaches with
  | start => exact first
  | step earlier stepped permitted ih =>
      exact kept earlier ih stepped permitted

/-- Fewer steps reach fewer states. -/
theorem Reaches.mono
    {loose : State Stage World → Label Stage Choice Move → Prop}
    (weaker : ∀ state label, allowed state label → loose state label)
    (reaches : threads.Reaches allowed start state) : threads.Reaches loose start state := by
  induction reaches with
  | start => exact .start
  | step earlier stepped permitted ih =>
      exact .step ih stepped (weaker _ _ permitted)

variable {before later : List Stage} {stage : Stage}

/-- What holds of all calls and of the one that has advanced. -/
theorem forall_calls
    {holds : Stage → Prop}
    {stage' : Stage}
    (all : ∀ other ∈ before ++ stage :: later, holds other)
    (own : holds stage') :
    ∀ other ∈ before ++ stage' :: later, holds other := by
  intro other present
  rcases List.mem_append.mp present with earlier | rest
  · exact all other (List.mem_append_left _ earlier)
  · rcases List.mem_cons.mp rest with rfl | after
    · exact own
    · exact all other (List.mem_append_right _ (List.mem_cons_of_mem _ after))

theorem getElem?_calls
    (before later : List Stage)
    (stage : Stage) :
    (before ++ stage :: later)[before.length]? = some stage := by
  rw [List.getElem?_append_right (Nat.le_refl _), Nat.sub_self, List.getElem?_cons_zero]

theorem mem_calls : stage ∈ before ++ stage :: later :=
  List.mem_append_right _ List.mem_cons_self

/-- What one call has in hand is counted besides what the others have. -/
theorem count_filterMap_calls
    [DecidableEq α]
    (hand : Stage → Option α)
    (before later : List Stage)
    (stage : Stage)
    (held : α) :
    ((before ++ stage :: later).filterMap hand).count held =
      (hand stage).toList.count held + ((before ++ later).filterMap hand).count held := by
  rw [List.filterMap_append, List.filterMap_append, List.count_append, List.count_append]
  cases given : hand stage with
  | none =>
      rw [List.filterMap_cons_none given, Option.toList_none, List.count_nil]
      omega
  | some value =>
      rw [List.filterMap_cons_some given, Option.toList_some, List.count_cons, List.count_cons,
        List.count_nil]
      omega

theorem countP_calls
    (counts : Stage → Bool)
    (before later : List Stage)
    (stage : Stage) :
    (before ++ stage :: later).countP counts =
      (counts stage).toNat + (before ++ later).countP counts := by
  rw [List.countP_append, List.countP_append, List.countP_cons]
  cases counts stage with
  | false =>
      rw [if_neg Bool.false_ne_true, Bool.toNat_false]
      omega
  | true =>
      rw [if_pos rfl, Bool.toNat_true]
      omega

section Runs

variable (threads)

/-- The step a label asks for, if it is possible. -/
def next (state : State Stage World) : Label Stage Choice Move → Option (State Stage World)
  | .invoke stage =>
      if threads.starts stage then some ⟨state.calls ++ [stage], state.world⟩ else none
  | .advance number choice =>
      match state.calls[number]? with
      | none => none
      | some stage =>
          match threads.advance number choice stage state.world with
          | none => none
          | some (stage', world') => some ⟨state.calls.set number stage', world'⟩
  | .move move => some ⟨state.calls, threads.disturb move state.world⟩

variable (allowed) in
/-- Take the steps of a list as long as they are possible and allowed. -/
def run [∀ state label, Decidable (allowed state label)] :
    List (Label Stage Choice Move) → State Stage World → Option (State Stage World)
  | [], state => some state
  | label :: labels, state =>
      if allowed state label then (threads.next state label).bind (run labels) else none

variable {threads}

variable {later : State Stage World}

theorem step_of_next
    {label : Label Stage Choice Move}
    (stepped : threads.next state label = some later) : threads.Step state label later := by
  obtain ⟨calls, world⟩ := state
  cases label with
  | invoke stage =>
      simp only [next] at stepped
      split at stepped
      · rename_i starts
        rw [← Option.some.inj stepped]
        exact .invoke starts
      · cases stepped
  | advance number choice =>
      simp only [next] at stepped
      split at stepped
      · cases stepped
      · rename_i stage found
        split at stepped
        · cases stepped
        · rename_i stage' world' advanced
          obtain ⟨inside, there⟩ := List.getElem?_eq_some_iff.mp found
          have counted : (calls.take number).length = number :=
            List.length_take_of_le (Nat.le_of_lt inside)
          have split : calls = calls.take number ++ stage :: calls.drop (number + 1) := by
            rw [← there, ← List.drop_eq_getElem_cons inside, List.take_append_drop]
          have replaced : calls.set number stage' =
              calls.take number ++ stage' :: calls.drop (number + 1) :=
            List.set_eq_take_append_cons_drop.trans (if_pos inside)
          rw [← Option.some.inj stepped, replaced]
          rw [← counted] at advanced
          have taken : threads.Step
              ⟨calls.take number ++ stage :: calls.drop (number + 1), world⟩
              (.advance (calls.take number).length choice)
              ⟨calls.take number ++ stage' :: calls.drop (number + 1), world'⟩ :=
            .advance advanced
          rw [← split, counted] at taken
          exact taken
  | move move =>
      rw [← Option.some.inj stepped]
      exact .move move

theorem reaches_of_run
    [∀ state label, Decidable (allowed state label)]
    {labels : List (Label Stage Choice Move)}
    (earlier : threads.Reaches allowed start state)
    (ran : threads.run allowed labels state = some later) :
    threads.Reaches allowed start later := by
  induction labels generalizing state with
  | nil =>
      rw [← Option.some.inj ran]
      exact earlier
  | cons label labels ih =>
      rw [run] at ran
      split at ran
      · rename_i permitted
        obtain ⟨middle, stepped, rest⟩ := Option.bind_eq_some_iff.mp ran
        exact ih (.step earlier (step_of_next stepped) permitted) rest
      · cases ran

end Runs

end Threads
end Effects
