import VScale.Tablet.Outcomes

/-!
# The reaper of transactions

The reaper collects the ids of stale transactions in one critical section and
rolls them back in later ones.  A transaction that is used in between is rolled
back all the same.
-/

namespace VScale
namespace TxCalls

open Collections Effects

/-- The transactions a reaper has collected and has yet to roll back. -/
def Stage.victims : Stage → List Nat
  | .seeking _ id (some rest) => id :: rest
  | .finishing _ id (some rest) => id :: rest
  | .removing _ _ _ (some rest) => rest
  | .releasing _ _ _ _ (some rest) => rest
  | _ => []

/-- The open transaction that a reaper rolls back in its next step. -/
def Stage.takes (w : World) : Stage → Option Nat
  | .finishing _ id (some _) => if (w.transactions id).closed then none else some id
  | _ => none

/-- Whenever a reaper rolls a transaction back, the time since its last use
exceeds the timeout. -/
def TakesIdle (state : Threads.State Stage World) : Prop :=
  ∀ stage ∈ state.calls, ∀ id, stage.takes state.world = some id →
    state.world.idleTimeout <
      state.world.clock - (state.world.transactions id).lastUsed

/-- The transaction that a call uses in its next step. -/
def Stage.uses : Stage → Option Nat
  | .working _ id => some id
  | _ => none

/-- No statement is executed in a transaction that a reaper has collected and has
yet to roll back. -/
def SparesVictims (state : Threads.State Stage World) : Threads.Label Stage Choice Nat → Prop
  | .advance number _ =>
      ∀ id ∈ state.calls[number]?.bind Stage.uses, ∀ stage ∈ state.calls, id ∉ stage.victims
  | _ => True

instance : ∀ state label, Decidable (SparesVictims state label)
  | _, .invoke _ => inferInstanceAs (Decidable True)
  | state, .advance number _ =>
      inferInstanceAs (Decidable (∀ id ∈ state.calls[number]?.bind Stage.uses,
        ∀ stage ∈ state.calls, id ∉ stage.victims))
  | _, .move _ => inferInstanceAs (Decidable True)

/-- Collected transactions are in the map or were, and stay stale. -/
def VictimsIdle (state : Threads.State Stage World) : Prop :=
  ∀ stage ∈ state.calls, ∀ id ∈ stage.victims,
    state.world.Stored id ∧ state.world.stale id = true

section Steps

variable {call : Nat} {before later : List Stage} {stage stage' : Stage} {w w' : World}
variable {events : List Event}

theorem victims_rollbackEach (ids : List Nat) : (rollbackEach ids).victims = ids := by
  cases ids with
  | nil | cons => rfl

variable {id : Nat}

/-- A reaper takes its victims from the stale transactions in the map. -/
theorem Advances.victims
    (advances : Advances call stage w events stage' w')
    (victim : id ∈ stage'.victims) :
    id ∈ stage.victims ∨ id ∈ w.txns ∧ w.stale id = true := by
  have later : ∀ rest, id ∈ (afterwards rest).victims → ∃ ids, rest = some ids ∧ id ∈ ids := by
    intro rest collected
    cases rest with
    | none => cases collected
    | some ids =>
        rw [afterwards, victims_rollbackEach] at collected
        exact ⟨ids, rfl, collected⟩
  cases advances with
  | @notSought _ ending other rest missing =>
      obtain ⟨ids, rfl, collected⟩ := later rest victim
      exact Or.inl (List.mem_cons_of_mem other collected)
  | @sought _ ending other rest present =>
      cases rest with
      | none => cases victim
      | some ids => exact Or.inl victim
  | @finishedClosed _ ending other rest closed =>
      cases rest with
      | none => cases victim
      | some ids => exact Or.inl (List.mem_cons_of_mem other victim)
  | @finished _ ending other rest running verdict =>
      cases rest with
      | none => cases victim
      | some ids => exact Or.inl (List.mem_cons_of_mem other victim)
  | @notRemoved _ ending other failure rest missing =>
      obtain ⟨ids, rfl, collected⟩ := later rest victim
      exact Or.inl collected
  | @removed _ ending other failure rest present =>
      cases rest with
      | none => cases victim
      | some ids => exact Or.inl victim
  | @released _ ending other conn failure rest =>
      obtain ⟨ids, rfl, collected⟩ := later rest victim
      exact Or.inl collected
  | collected order =>
      rw [victims_rollbackEach, List.mem_filter, RangeOrder.mem_visit] at victim
      exact Or.inr victim
  | _ => cases victim

/-- A call with victims has used nothing. -/
theorem Advances.uses_of_victims
    (advances : Advances call stage w events stage' w')
    {other : Nat}
    (victim : id ∈ stage'.victims) : stage.uses ≠ some other := by
  cases advances with
  | usedClosed | useFailed | used => cases victim
  | _ => rintro ⟨⟩

theorem stale_emit
    (events : List Event)
    (w : World)
    (id : Nat) :
    (w.emit events).stale id = w.stale id := rfl

theorem stale_touch
    {used : Nat}
    (other : id ≠ used) :
    (w.touch used).stale id = w.stale id := by
  simp only [World.stale, World.touch, World.change, Function.update_of_ne other]

theorem stale_insert
    {new conn : Nat}
    (other : id ≠ new) :
    (w.insert new conn).stale id = w.stale id := by
  simp only [World.stale, World.insert, World.change, Function.update_of_ne other]

theorem stale_close (ended id : Nat) : (w.close ended).stale id = w.stale id := by
  by_cases same : id = ended
  · rw [same]
    simp only [World.stale, World.close, World.change, Function.update_self]
  · simp only [World.stale, World.close, World.change, Function.update_of_ne same]

/-- A transaction stays stale unless it is used or inserted. -/
theorem Advances.stale
    (advances : Advances call stage w events stage' w')
    (unused : stage.uses ≠ some id)
    (old : stage.numbered ≠ some id) :
    w'.stale id = w.stale id := by
  cases advances with
  | inserted =>
      rw [stale_emit]
      exact stale_insert fun same => old (congrArg some same.symm)
  | usedClosed | useFailed | used =>
      rw [stale_emit]
      exact stale_touch fun same => unused (congrArg some same.symm)
  | @finished _ ending ended rest running verdict =>
      rw [stale_emit]
      exact stale_close ended id
  | _ => rfl

theorem victimsIdle_advance
    (conserved : Conserved ⟨before ++ stage :: later, w⟩)
    (idle : VictimsIdle ⟨before ++ stage :: later, w⟩)
    (advances : Advances before.length stage w events stage' w')
    (spared : ∀ id, stage.uses = some id →
      ∀ other ∈ before ++ stage :: later, id ∉ other.victims) :
    VictimsIdle ⟨before ++ stage' :: later, w'⟩ := by
  have kept : ∀ id, w.Stored id → w.stale id = true → stage.uses ≠ some id →
      w'.Stored id ∧ w'.stale id = true := by
    intro id stored stale unused
    refine ⟨advances.stored_mono stored, ?_⟩
    rw [advances.stale unused fun numbered => conserved.not_stored numbered stored]
    exact stale
  have still : ∀ other ∈ before ++ stage :: later, ∀ id ∈ other.victims,
      w'.Stored id ∧ w'.stale id = true := by
    intro other present id victim
    obtain ⟨stored, stale⟩ := idle other present id victim
    exact kept id stored stale fun uses => spared id uses other present victim
  refine Threads.forall_calls still fun id victim => ?_
  rcases advances.victims victim with earlier | ⟨present, stale⟩
  · exact still stage Threads.mem_calls id earlier
  · exact kept id (Or.inl present) stale (advances.uses_of_victims victim)

end Steps

theorem victims_starts {stage : Stage} (starts : stage.starts = true) : stage.victims = [] := by
  cases stage with
  | acquiring | looking | collecting => rfl
  | seeking ending id rest =>
      cases rest with
      | none => rfl
      | some ids => cases starts
  | _ => cases starts

variable {state : Threads.State Stage World}

/-- As long as no statement is executed in a collected transaction, victims stay
stale. -/
theorem victimsIdle_of_spared
    {idleTimeout : Nat}
    (reached : threads.Reaches SparesVictims (initial idleTimeout) state) :
    VictimsIdle state := by
  have first : VictimsIdle (initial idleTimeout) := fun stage present => nomatch present
  refine Threads.Reaches.invariant first ?_ reached
  intro state label later reached idle stepped spared
  have anyhow : Reached idleTimeout state := reached.mono fun _ _ _ => trivial
  cases stepped with
  | @invoke calls world stage starts =>
      intro other present id victim
      rcases List.mem_append.mp present with earlier | new
      · exact idle other earlier id victim
      · rw [List.mem_singleton.mp new, victims_starts starts] at victim
        cases victim
  | @advance before later stage stage' world world' choice advanced =>
      obtain ⟨events, advances⟩ := advances_of_advance advanced
      refine victimsIdle_advance (conserved_of_reached anyhow) idle advances ?_
      intro id uses
      refine spared id ?_
      rw [Threads.getElem?_calls before later stage]
      exact uses
  | move elapsed =>
      intro other present id victim
      obtain ⟨stored, stale⟩ := idle other present id victim
      refine ⟨stored, decide_eq_true ?_⟩
      have waited := of_decide_eq_true stale
      simp only [threads, tick] at waited ⊢
      omega

/-- A reaper rolls back a transaction that it has collected. -/
theorem mem_victims_of_takes
    {stage : Stage}
    {w : World}
    {id : Nat}
    (taken : stage.takes w = some id) : id ∈ stage.victims := by
  unfold Stage.takes at taken
  split at taken
  · obtain rfl := Option.some.inj (Option.ite_none_left_eq_some.mp taken).2
    exact List.mem_cons_self
  · cases taken

/-- Transaction 1 has not been used for 31 time units when the reaper comes. -/
def forgotten : List (Threads.Label Stage Choice Nat) :=
  [.invoke begin, .advance 0 {}, .advance 0 {}, .advance 0 {}, .advance 0 {}, .move 31,
    .invoke reapOnce, .advance 1 {}, .advance 1 {}]

/-- A statement is executed in transaction 1 after the reaper has collected it. -/
def usedTooLate : List (Threads.Label Stage Choice Nat) :=
  [.invoke begin, .advance 0 {}, .advance 0 {}, .advance 0 {}, .advance 0 {}, .move 31,
    .invoke reapOnce, .advance 1 {}, .invoke (execute 1), .advance 2 {}, .advance 2 {},
    .advance 1 {}]

end TxCalls
end VScale
