import VScale.Tablet.Connections

/-!
# A transaction of a tablet has one outcome

Calls keep pointing to a transaction that another call has ended and removed.
What such a call still may do is decided by the closed flag: it is set under the
mutex by the first commit or rollback, before the transaction is removed and its
connection released.
-/

namespace VScale
namespace TxCalls

open Collections Effects

namespace World

/-- A transaction has been put into the map. -/
def Stored (w : World) (id : Nat) : Prop :=
  id ∈ w.txns ∨ id ∈ w.removedIDs

/-- The database has ended a transaction. -/
def Ended (w : World) (id : Nat) : Prop :=
  ∃ outcome, .ended id outcome ∈ w.log

theorem closed_touch
    (w : World)
    (used id : Nat) :
    ((w.touch used).transactions id).closed = (w.transactions id).closed := by
  by_cases same : id = used
  · rw [same]
    simp only [touch, change, Function.update_self]
  · simp only [touch, change, Function.update_of_ne same]

theorem closed_close
    (w : World)
    (ended id : Nat) :
    ((w.close ended).transactions id).closed = true ↔
      (w.transactions id).closed = true ∨ id = ended := by
  by_cases same : id = ended
  · rw [same]
    simp [close, change]
  · simp [close, change, same]

end World

namespace Stage

/-- The transaction a call has looked up. -/
def pointer : Stage → Option Nat
  | .working _ id => some id
  | .finishing _ id _ => some id
  | .removing _ id _ _ => some id
  | .releasing _ id _ _ _ => some id
  | _ => none

/-- The transaction that a call has tried to end. -/
def leaving : Stage → Option Nat
  | .removing _ id _ _ => some id
  | .releasing _ id _ _ _ => some id
  | _ => none

end Stage

theorem pointer_afterwards (rest : Option (List Nat)) : (afterwards rest).pointer = none := by
  rcases rest with _ | _ | ⟨id, ids⟩
  · rfl
  · rfl
  · rfl

theorem leaving_afterwards (rest : Option (List Nat)) : (afterwards rest).leaving = none := by
  rcases rest with _ | _ | ⟨id, ids⟩
  · rfl
  · rfl
  · rfl

/-- The closed flag of a stored transaction says whether it has ended, and a
call that has tried to end a transaction finds it ended. -/
structure Flagged (state : Threads.State Stage World) : Prop where
  stored : ∀ id, state.world.Ended id → state.world.Stored id
  closed : ∀ id, state.world.Stored id →
    ((state.world.transactions id).closed = true ↔ state.world.Ended id)
  pointed : ∀ stage ∈ state.calls, ∀ id, stage.pointer = some id → state.world.Stored id
  left : ∀ stage ∈ state.calls, ∀ id, stage.leaving = some id → state.world.Ended id
  removed : ∀ id ∈ state.world.removedIDs, state.world.Ended id

section Steps

variable {call : Nat} {before later : List Stage} {stage stage' : Stage} {w w' : World}
variable {events : List Event}

variable {id : Nat}

section Advances

variable (advances : Advances call stage w events stage' w')
include advances

theorem Advances.ended_mono (ended : w.Ended id) : w'.Ended id := by
  obtain ⟨outcome, logged⟩ := ended
  refine ⟨outcome, ?_⟩
  rw [advances.log]
  exact List.mem_append_right events logged

theorem Advances.stored_mono (stored : w.Stored id) : w'.Stored id := by
  have removed : id ∈ w.removedIDs → id ∈ w'.removedIDs := by
    intro gone
    rw [World.removedIDs, advances.log, List.filterMap_append]
    exact List.mem_append_right _ gone
  rcases stored with present | gone
  · cases advances with
    | inserted => exact Or.inl (List.mem_cons_of_mem _ present)
    | @removed _ ending other failure rest there =>
        by_cases same : id = other
        · exact Or.inr (same ▸ List.mem_cons_self)
        · exact Or.inl ((List.mem_erase_of_ne same).mpr present)
    | _ => exact Or.inl present
  · exact Or.inr (removed gone)

/-- Only a step under the mutex of an open transaction ends it. -/
theorem Advances.ended_new
    {outcome : TxStatus}
    (logged : .ended id outcome ∈ events) :
    stage.pointer = some id ∧ (w.transactions id).closed = false ∧
      (w'.transactions id).closed = true := by
  cases advances with
  | @finished _ ending other rest running verdict =>
      obtain ⟨rfl, _⟩ : id = other ∧ outcome = ending.outcome verdict := by simpa using logged
      refine ⟨rfl, running, ?_⟩
      simp only [World.emit, World.close, World.change, Function.update_self]
  | _ => simp at logged

/-- The closed flag of a transaction that is not being inserted. -/
theorem Advances.closed_iff
    (other : stage.numbered ≠ some id) :
    (w'.transactions id).closed = true ↔
      (w.transactions id).closed = true ∨ ∃ outcome, .ended id outcome ∈ events := by
  cases advances with
  | @inserted _ conn new =>
      have different : id ≠ new := fun same => other (congrArg some same.symm)
      simp [World.emit, World.insert, World.change, different]
  | usedClosed | useFailed | used => simp [World.emit, World.closed_touch]
  | finished running verdict => simp [World.emit, World.closed_close]
  | _ => simp [World.emit, World.delete]

/-- A transaction is looked up in the map. -/
theorem Advances.pointer
    (pointed : stage'.pointer = some id) : stage.pointer = some id ∨ id ∈ w.txns := by
  cases advances with
  | found present | sought present =>
      rw [← Option.some.inj pointed]
      exact Or.inr present
  | finishedClosed | finished | removed => exact Or.inl pointed
  | notSought | notRemoved | released =>
      rw [pointer_afterwards] at pointed
      cases pointed
  | collected order =>
      have nowhere := pointer_afterwards (some ((order.visit w.txns).filter w.stale))
      cases nowhere.symm.trans pointed
  | _ => cases pointed

/-- A call that has tried to end a transaction has found it closed or has closed
it. -/
theorem Advances.leaving
    (left : stage'.leaving = some id) :
    stage.leaving = some id ∨
      stage.pointer = some id ∧
        ((w.transactions id).closed = true ∨ ∃ outcome, .ended id outcome ∈ events) := by
  cases advances with
  | finishedClosed closed =>
      rw [← Option.some.inj left]
      exact Or.inr ⟨rfl, Or.inl closed⟩
  | finished running verdict =>
      rw [← Option.some.inj left]
      exact Or.inr ⟨rfl, Or.inr ⟨_, List.mem_cons_self⟩⟩
  | removed present => exact Or.inl left
  | notSought | notRemoved | released =>
      rw [leaving_afterwards] at left
      cases left
  | collected order =>
      have nowhere := leaving_afterwards (some ((order.visit w.txns).filter w.stale))
      cases nowhere.symm.trans left
  | _ => cases left

/-- What is newly removed was in the map, and a call had tried to end it. -/
theorem Advances.removed_new
    (gone : id ∈ w'.removedIDs) :
    id ∈ w.removedIDs ∨ stage.leaving = some id ∧ id ∈ w.txns := by
  cases advances with
  | removed present =>
      rcases List.mem_cons.mp gone with rfl | earlier
      · exact Or.inr ⟨rfl, present⟩
      · exact Or.inl earlier
  | _ => exact Or.inl gone

/-- What is new in the map comes from a call that inserts it. -/
theorem Advances.stored_new
    (stored : w'.Stored id) :
    w.Stored id ∨ stage.numbered = some id ∧ (w'.transactions id).closed = false ∧
      ∀ outcome, .ended id outcome ∉ events := by
  rcases stored with present | gone
  · cases advances with
    | inserted =>
        rcases List.mem_cons.mp present with rfl | earlier
        · refine Or.inr ⟨rfl, ?_, by simp⟩
          simp only [World.emit, World.insert, World.change, Function.update_self]
        · exact Or.inl (Or.inl earlier)
    | removed there => exact Or.inl (Or.inl (List.mem_of_mem_erase present))
    | _ => exact Or.inl (Or.inl present)
  · rcases advances.removed_new gone with earlier | ⟨_, present⟩
    · exact Or.inl (Or.inr earlier)
    · exact Or.inl (Or.inl present)

end Advances

theorem ended_append
    {id : Nat}
    (log : w'.log = events ++ w.log) :
    w'.Ended id ↔ (∃ outcome, .ended id outcome ∈ events) ∨ w.Ended id := by
  simp only [World.Ended, log, List.mem_append, exists_or]

/-- An id that a call is about to insert has not been stored. -/
theorem Conserved.not_stored
    (conserved : Conserved ⟨before ++ stage :: later, w⟩)
    (numbered : stage.numbered = some id) : ¬ w.Stored id :=
  not_or.mpr (conserved.fresh numbered)

/-- Each advance keeps the closed flags in step. -/
theorem flagged_advance
    (conserved : Conserved ⟨before ++ stage :: later, w⟩)
    (flagged : Flagged ⟨before ++ stage :: later, w⟩)
    (advances : Advances before.length stage w events stage' w') :
    Flagged ⟨before ++ stage' :: later, w'⟩ := by
  have grown := @ended_append w w' events
  have here : stage ∈ before ++ stage :: later := Threads.mem_calls
  constructor
  · intro id ended
    rcases (grown advances.log).mp ended with ⟨outcome, logged⟩ | earlier
    · exact advances.stored_mono (flagged.pointed stage here id (advances.ended_new logged).1)
    · exact advances.stored_mono (flagged.stored id earlier)
  · intro id stored
    rw [grown advances.log]
    rcases advances.stored_new stored with earlier | ⟨numbered, running, none⟩
    · have other : stage.numbered ≠ some id := fun numbered =>
        conserved.not_stored numbered earlier
      rw [advances.closed_iff other, flagged.closed id earlier]
      exact or_comm
    · have new := conserved.not_stored numbered
      rw [running]
      refine iff_of_false Bool.false_ne_true ?_
      rintro (⟨outcome, logged⟩ | ended)
      · exact none outcome logged
      · exact new (flagged.stored id ended)
  · refine Threads.forall_calls (fun other present id pointed =>
      advances.stored_mono (flagged.pointed other present id pointed)) fun id pointed => ?_
    rcases advances.pointer pointed with earlier | present
    · exact advances.stored_mono (flagged.pointed stage here id earlier)
    · exact advances.stored_mono (Or.inl present)
  · refine Threads.forall_calls (fun other present id left =>
      advances.ended_mono (flagged.left other present id left)) fun id left => ?_
    rcases advances.leaving left with earlier | ⟨pointed, closed | ended⟩
    · exact advances.ended_mono (flagged.left stage here id earlier)
    · have stored := flagged.pointed stage here id pointed
      exact advances.ended_mono ((flagged.closed id stored).mp closed)
    · exact (grown advances.log).mpr (Or.inl ended)
  · intro id gone
    rcases advances.removed_new gone with earlier | ⟨left, _⟩
    · exact advances.ended_mono (flagged.removed id earlier)
    · exact advances.ended_mono (flagged.left stage here id left)

end Steps

/-- A call that starts points to no transaction. -/
theorem pointer_starts
    {stage : Stage}
    (starts : stage.starts = true) :
    stage.pointer = none ∧ stage.leaving = none := by
  cases stage with
  | acquiring | looking | seeking | collecting => exact ⟨rfl, rfl⟩
  | _ => cases starts

variable {idleTimeout call id : Nat} {events : List Event}

/-- The closed flags are in step in every reached state. -/
theorem flagged_of_reached
    {state : Threads.State Stage World}
    (reached : Reached idleTimeout state) : Flagged state := by
  have first : Flagged (initial idleTimeout) := by
    refine ⟨?_, ?_, nofun, nofun, nofun⟩
    · rintro id ⟨outcome, logged⟩
      cases logged
    · rintro id (present | gone)
      · cases present
      · cases gone
  refine Threads.Reaches.invariant first ?_ reached
  intro state label later reached flagged stepped _
  cases stepped with
  | @invoke calls world stage starts =>
      have idle := pointer_starts starts
      refine ⟨flagged.stored, flagged.closed, ?_, ?_, flagged.removed⟩
      · intro other present id pointed
        rcases List.mem_append.mp present with earlier | new
        · exact flagged.pointed other earlier id pointed
        · rw [List.mem_singleton.mp new, idle.1] at pointed
          cases pointed
      · intro other present id left
        rcases List.mem_append.mp present with earlier | new
        · exact flagged.left other earlier id left
        · rw [List.mem_singleton.mp new, idle.2] at left
          cases left
  | advance advanced =>
      obtain ⟨events, advances⟩ := advances_of_advance advanced
      exact flagged_advance (conserved_of_reached reached) flagged advances
  | move elapsed =>
      exact ⟨flagged.stored, flagged.closed, flagged.pointed, flagged.left, flagged.removed⟩

/-- The database ends this transaction. -/
def Event.ends (id : Nat) : Event → Bool
  | .ended other _ => other = id
  | _ => false

/-- A commit or rollback of this transaction returns nil. -/
def Event.endsNil (id : Nat) : Event → Bool
  | .answered _ (.ending _ other) none => other = id
  | _ => false

/-- A call will return nil for its commit or rollback of this transaction. -/
def Stage.owesNil (id : Nat) : Stage → Bool
  | .removing _ other none _ => other = id
  | .releasing _ other _ none _ => other = id
  | _ => false

theorem owesNil_afterwards
    (rest : Option (List Nat))
    (id : Nat) :
    (afterwards rest).owesNil id = false := by
  rcases rest with _ | _ | ⟨id, ids⟩
  · rfl
  · rfl
  · rfl

/-- A success is owed only by a call that ended the transaction. -/
theorem Advances.nils
    {stage stage' : Stage}
    {w w' : World}
    (advances : Advances call stage w events stage' w')
    (id : Nat) :
    events.countP (Event.endsNil id) + (stage'.owesNil id).toNat ≤
      events.countP (Event.ends id) + (stage.owesNil id).toNat := by
  cases advances with
  | notSought missing =>
      rw [owesNil_afterwards]
      simp [Event.endsNil]
  | @finished _ ending other rest running verdict =>
      cases verdict.failure with
      | none =>
          by_cases same : other = id
          · simp [Event.endsNil, Event.ends, Stage.owesNil, same]
          · simp [Event.endsNil, Stage.owesNil, same]
      | some failure => simp [Event.endsNil, Stage.owesNil]
  | @notRemoved _ ending other failure rest missing =>
      rw [owesNil_afterwards]
      cases failure with
      | none =>
          by_cases same : other = id
          · simp [Event.endsNil, Stage.owesNil, same]
          · simp [Event.endsNil, same]
      | some failure => simp [Event.endsNil]
  | @removed _ ending other failure rest present =>
      cases failure with
      | none | some => simp [Event.endsNil, Stage.owesNil]
  | @released _ ending other conn failure rest =>
      rw [owesNil_afterwards]
      cases failure with
      | none =>
          by_cases same : other = id
          · simp [Event.endsNil, Stage.owesNil, same]
          · simp [Event.endsNil, same]
      | some failure => simp [Event.endsNil]
  | collected order =>
      rw [show (rollbackEach ((order.visit w.txns).filter w.stale)).owesNil id = false from
        owesNil_afterwards (some _) id]
      simp
  | _ => simp [Event.endsNil, Stage.owesNil]

/-- A transaction is ended once, and every nil that a commit or rollback of it
returns or is about to return stands for that. -/
def EndedOnce (state : Threads.State Stage World) : Prop :=
  ∀ id, state.world.log.countP (Event.ends id) ≤ 1 ∧
    state.world.log.countP (Event.endsNil id) + state.calls.countP (Stage.owesNil id) ≤
      state.world.log.countP (Event.ends id)

theorem countP_ends_eq_zero
    {w : World}
    (running : ¬ w.Ended id) :
    w.log.countP (Event.ends id) = 0 := by
  rw [List.countP_eq_zero]
  intro event logged ends
  cases event with
  | ended other outcome =>
      have same : other = id := of_decide_eq_true ends
      exact running ⟨outcome, same ▸ logged⟩
  | _ => cases ends

/-- One advance ends a transaction at most once. -/
theorem Advances.ends
    {stage stage' : Stage}
    {w w' : World}
    (advances : Advances call stage w events stage' w')
    (id : Nat) :
    events.countP (Event.ends id) = 0 ∨
      events.countP (Event.ends id) = 1 ∧ stage.pointer = some id ∧
        (w.transactions id).closed = false := by
  cases advances with
  | @finished _ ending other rest running verdict =>
      by_cases same : other = id
      · rw [← same]
        exact Or.inr ⟨by simp [Event.ends], rfl, running⟩
      · exact Or.inl (by simp [Event.ends, same])
  | _ => exact Or.inl (by simp [Event.ends])

/-- Each advance ends only what is still running. -/
theorem endedOnce_advance
    {before later : List Stage}
    {stage stage' : Stage}
    {w w' : World}
    (flagged : Flagged ⟨before ++ stage :: later, w⟩)
    (once : EndedOnce ⟨before ++ stage :: later, w⟩)
    (advances : Advances before.length stage w events stage' w') :
    EndedOnce ⟨before ++ stage' :: later, w'⟩ := by
  intro id
  obtain ⟨ended, owed⟩ := once id
  have ended : w.log.countP (Event.ends id) ≤ 1 := ended
  have nils := advances.nils id
  have ends := advances.ends id
  have running : events.countP (Event.ends id) = 1 → w.log.countP (Event.ends id) = 0 := by
    intro new
    rcases ends with none | ⟨_, pointed, unclosed⟩
    · omega
    · have stored := flagged.pointed stage Threads.mem_calls id pointed
      refine countP_ends_eq_zero fun ended => ?_
      have closed : (w.transactions id).closed = true := (flagged.closed id stored).mpr ended
      rw [unclosed] at closed
      cases closed
  simp only [Threads.countP_calls] at owed ⊢
  rw [advances.log, List.countP_append, List.countP_append]
  rcases ends with none | ⟨one, _⟩
  · omega
  · have first := running one
    omega

theorem owesNil_starts
    {stage : Stage}
    (starts : stage.starts = true)
    (id : Nat) :
    stage.owesNil id = false := by
  cases stage with
  | acquiring | looking | seeking | collecting => rfl
  | _ => cases starts

/-- No transaction is ended twice. -/
theorem endedOnce_of_reached
    {state : Threads.State Stage World}
    (reached : Reached idleTimeout state) : EndedOnce state := by
  have first : EndedOnce (initial idleTimeout) := fun id => ⟨Nat.zero_le 1, Nat.le_refl 0⟩
  refine Threads.Reaches.invariant first ?_ reached
  intro state label later reached once stepped _
  cases stepped with
  | @invoke calls world stage starts =>
      intro id
      have owes : (calls ++ [stage]).countP (Stage.owesNil id) =
          calls.countP (Stage.owesNil id) := by
        rw [List.countP_append, List.countP_singleton, owesNil_starts starts id,
          if_neg Bool.false_ne_true, Nat.add_zero]
      rw [owes]
      exact once id
  | advance advanced =>
      obtain ⟨events, advances⟩ := advances_of_advance advanced
      exact endedOnce_advance (flagged_of_reached reached) once advances
  | move elapsed => exact once

/-- A call will return nil for its commit of this transaction. -/
def Stage.owesCommit : Stage → Option Nat
  | .removing .commit id none _ => some id
  | .releasing .commit id _ none _ => some id
  | _ => none

theorem owesCommit_afterwards (rest : Option (List Nat)) : (afterwards rest).owesCommit = none := by
  rcases rest with _ | _ | ⟨id, ids⟩
  · rfl
  · rfl
  · rfl

/-- The database has committed what a commit has returned nil for or is about to. -/
structure Honest (state : Threads.State Stage World) : Prop where
  owed : ∀ stage ∈ state.calls, ∀ id, stage.owesCommit = some id →
    .ended id .committed ∈ state.world.log
  told : ∀ call id, .answered call (.ending .commit id) none ∈ state.world.log →
    .ended id .committed ∈ state.world.log

section Steps

variable {call : Nat} {before later : List Stage} {stage stage' : Stage} {w w' : World}
variable {events : List Event}

variable {id : Nat}

theorem Advances.owesCommit
    (advances : Advances call stage w events stage' w')
    (owes : stage'.owesCommit = some id) :
    stage.owesCommit = some id ∨ .ended id .committed ∈ events := by
  cases advances with
  | @finished _ ending other rest running verdict =>
      cases ending with
      | rollback => cases owes
      | commit =>
          cases answered : verdict.failure with
          | some failure =>
              rw [answered] at owes
              cases owes
          | none =>
              rw [answered] at owes
              have committed : Ending.commit.outcome verdict = .committed :=
                if_pos (Or.inl answered)
              rw [committed, ← Option.some.inj owes]
              exact Or.inr List.mem_cons_self
  | @finishedClosed _ ending other rest closed =>
      cases ending with
      | rollback | commit => cases owes
  | @removed _ ending other failure rest present =>
      cases ending with
      | rollback => cases owes
      | commit =>
          cases failure with
          | some failure => cases owes
          | none => exact Or.inl owes
  | notSought | notRemoved | released =>
      rw [owesCommit_afterwards] at owes
      cases owes
  | collected order =>
      have nothing := owesCommit_afterwards (some ((order.visit w.txns).filter w.stale))
      cases nothing.symm.trans owes
  | _ => cases owes

/-- A call is told of a commit that it made. -/
theorem Advances.told
    (advances : Advances call stage w events stage' w')
    {answered : Nat}
    (told : .answered answered (.ending .commit id) none ∈ events) :
    stage.owesCommit = some id := by
  cases advances with
  | @notRemoved _ ending other failure rest missing =>
      obtain ⟨_, ⟨rfl, rfl⟩, rfl⟩ :
          answered = call ∧ (.commit = ending ∧ id = other) ∧ none = failure := by
        simpa using told
      rfl
  | @released _ ending other conn failure rest =>
      obtain ⟨_, ⟨rfl, rfl⟩, rfl⟩ :
          answered = call ∧ (.commit = ending ∧ id = other) ∧ none = failure := by
        simpa using told
      rfl
  | _ => simp at told

/-- Each advance keeps the answers honest. -/
theorem honest_advance
    (honest : Honest ⟨before ++ stage :: later, w⟩)
    (advances : Advances before.length stage w events stage' w') :
    Honest ⟨before ++ stage' :: later, w'⟩ := by
  have grown : ∀ {event}, event ∈ w.log → event ∈ w'.log := by
    intro event logged
    rw [advances.log]
    exact List.mem_append_right events logged
  constructor
  · refine Threads.forall_calls
      (fun other present id owes => grown (honest.owed other present id owes)) fun id owes => ?_
    rcases advances.owesCommit owes with earlier | new
    · exact grown (honest.owed stage Threads.mem_calls id earlier)
    · rw [advances.log]
      exact List.mem_append_left _ new
  · intro answered id told
    rw [advances.log] at told
    rcases List.mem_append.mp told with new | earlier
    · exact grown (honest.owed stage Threads.mem_calls id (advances.told new))
    · exact grown (honest.told answered id earlier)

end Steps

theorem owesCommit_starts
    {stage : Stage}
    (starts : stage.starts = true) :
    stage.owesCommit = none := by
  cases stage with
  | acquiring | looking | seeking | collecting => rfl
  | _ => cases starts

/-- Answers are honest in every reached state. -/
theorem honest_of_reached
    {state : Threads.State Stage World}
    (reached : Reached idleTimeout state) : Honest state := by
  have first : Honest (initial idleTimeout) := ⟨nofun, nofun⟩
  refine Threads.Reaches.invariant first ?_ reached
  intro state label later reached honest stepped _
  cases stepped with
  | @invoke calls world stage starts =>
      refine ⟨?_, honest.told⟩
      intro other present id owes
      rcases List.mem_append.mp present with earlier | new
      · exact honest.owed other earlier id owes
      · rw [List.mem_singleton.mp new, owesCommit_starts starts] at owes
        cases owes
  | advance advanced =>
      obtain ⟨events, advances⟩ := advances_of_advance advanced
      exact honest_advance honest advances
  | move elapsed => exact ⟨honest.owed, honest.told⟩

/-- Nothing is sent over a connection after its release, and nothing runs in a
transaction after its end. -/
def Event.MayFollow (newer older : Event) : Prop :=
  (∀ conn, older = .released conn → newer ≠ .sent conn) ∧
    ∀ id outcome call, older = .ended id outcome → newer ≠ .ran call id

/-- The log keeps to that order, and statements that were answered with success
have run. -/
structure Ordered (state : Threads.State Stage World) : Prop where
  pairwise : state.world.log.Pairwise Event.MayFollow
  ran : ∀ call use id, .answered call (.use use id) none ∈ state.world.log →
    .ran call id ∈ state.world.log

section Steps

variable {call : Nat} {before later : List Stage} {stage stage' : Stage} {w w' : World}
variable {events : List Event}

section Advances

variable (advances : Advances call stage w events stage' w')
include advances

/-- Something is sent over the connection of a begin or of an open transaction. -/
theorem Advances.sent
    {conn : Nat}
    (sent : .sent conn ∈ events) :
    stage.opening = some conn ∨
      ∃ id, stage.pointer = some id ∧ (w.transactions id).closed = false ∧
        (w.transactions id).conn = conn := by
  cases advances with
  | beginFailed | begun =>
      obtain rfl : conn = _ := by simpa using sent
      exact Or.inl rfl
  | useFailed running failure | used running | finished running verdict =>
      obtain rfl : conn = _ := by simpa using sent
      exact Or.inr ⟨_, rfl, running, rfl⟩
  | _ => simp at sent

variable {id : Nat}

/-- A statement runs while its transaction is open. -/
theorem Advances.ran
    {runner : Nat}
    (ran : .ran runner id ∈ events) :
    stage.pointer = some id ∧ (w.transactions id).closed = false := by
  cases advances with
  | used running =>
      obtain ⟨_, rfl⟩ : runner = call ∧ id = _ := by simpa using ran
      exact ⟨rfl, running⟩
  | _ => simp at ran

theorem Advances.answered
    {runner id : Nat}
    {use : Use}
    (answered : .answered runner (.use use id) none ∈ events) :
    .ran runner id ∈ events := by
  cases advances with
  | used running =>
      obtain ⟨rfl, rfl, rfl⟩ : runner = call ∧ use = _ ∧ id = _ := by simpa using answered
      exact List.mem_cons_of_mem _ List.mem_cons_self
  | _ => simp at answered

/-- The events of one step keep to the order. -/
theorem Advances.pairwise :
    events.Pairwise Event.MayFollow := by
  cases advances with
  | _ => simp [Event.MayFollow]

end Advances

/-- An open transaction that a call points to is in the map. -/
theorem Flagged.mem_txns
    (flagged : Flagged ⟨before ++ stage :: later, w⟩)
    (pointed : stage.pointer = some id)
    (running : (w.transactions id).closed = false) :
    id ∈ w.txns ∧ ¬ w.Ended id := by
  have stored := flagged.pointed stage Threads.mem_calls id pointed
  have unended : ¬ w.Ended id := by
    intro ended
    have closed : (w.transactions id).closed = true := (flagged.closed id stored).mpr ended
    rw [running] at closed
    cases closed
  rcases stored with present | gone
  · exact ⟨present, unended⟩
  · exact absurd (flagged.removed id gone) unended

/-- Each advance keeps the order of the events. -/
theorem ordered_advance
    (conserved : Conserved ⟨before ++ stage :: later, w⟩)
    (flagged : Flagged ⟨before ++ stage :: later, w⟩)
    (ordered : Ordered ⟨before ++ stage :: later, w⟩)
    (advances : Advances before.length stage w events stage' w') :
    Ordered ⟨before ++ stage' :: later, w'⟩ := by
  constructor
  · rw [advances.log, List.pairwise_append]
    refine ⟨advances.pairwise, ordered.pairwise, fun newer new older old => ⟨?_, ?_⟩⟩
    · rintro conn rfl rfl
      have given : conn ∈ w.released := List.mem_filterMap.mpr ⟨_, old, rfl⟩
      have elsewhere := conserved.not_released given
      rcases advances.sent new with opening | ⟨id, pointed, running, rfl⟩
      · exact elsewhere.2 stage Threads.mem_calls opening
      · have present := (flagged.mem_txns pointed running).1
        exact elsewhere.1 (List.mem_map.mpr ⟨id, present, rfl⟩)
    · rintro id outcome runner rfl rfl
      obtain ⟨pointed, running⟩ := advances.ran new
      exact (flagged.mem_txns pointed running).2 ⟨outcome, old⟩
  · intro runner use id answered
    rw [advances.log] at answered ⊢
    rcases List.mem_append.mp answered with new | old
    · exact List.mem_append_left _ (advances.answered new)
    · exact List.mem_append_right _ (ordered.ran runner use id old)

end Steps

/-- Nothing runs in a transaction after its end. -/
theorem ordered_of_reached
    {state : Threads.State Stage World}
    (reached : Reached idleTimeout state) : Ordered state := by
  have first : Ordered (initial idleTimeout) := ⟨.nil, nofun⟩
  refine Threads.Reaches.invariant first ?_ reached
  intro state label later reached ordered stepped _
  cases stepped with
  | invoke | move => exact ⟨ordered.pairwise, ordered.ran⟩
  | advance advanced =>
      obtain ⟨events, advances⟩ := advances_of_advance advanced
      exact ordered_advance (conserved_of_reached reached) (flagged_of_reached reached) ordered
        advances

/-- A transaction that is ended once has one outcome. -/
theorem ended_unique
    {log : List Event}
    (once : log.countP (Event.ends id) ≤ 1)
    {first second : TxStatus}
    (one : .ended id first ∈ log)
    (other : .ended id second ∈ log) :
    first = second := by
  rw [List.countP_eq_length_filter] at once
  have ends : ∀ outcome, Event.ended id outcome ∈ log →
      .ended id outcome ∈ log.filter (Event.ends id) := by
    intro outcome logged
    exact List.mem_filter.mpr ⟨logged, decide_eq_true rfl⟩
  have here := ends first one
  have there := ends second other
  generalize log.filter (Event.ends id) = endings at once here there
  match endings, once with
  | [event], _ =>
      have same := (List.mem_singleton.mp here).trans (List.mem_singleton.mp there).symm
      exact (Event.ended.inj same).2

/-- In every state that calls reach in any order: at most one commit or rollback
of a transaction has returned nil; a commit has returned nil only if the
database committed the transaction and did nothing else to it; a statement that
was answered with success ran before the database ended the transaction; and
nothing is sent over a connection after its release. -/
theorem transaction_has_one_outcome
    {idleTimeout : Nat}
    {state : Threads.State Stage World}
    (reached : Reached idleTimeout state) :
    (∀ id, state.world.log.countP (Event.endsNil id) ≤ 1) ∧
      (∀ call id, .answered call (.ending .commit id) none ∈ state.world.log →
        .ended id .committed ∈ state.world.log ∧
          ∀ outcome, .ended id outcome ∈ state.world.log → outcome = .committed) ∧
      (∀ call use id, .answered call (.use use id) none ∈ state.world.log →
        ∃ later earlier, state.world.log = later ++ .ran call id :: earlier ∧
          ∀ outcome, .ended id outcome ∉ earlier) ∧
      ∀ conn later earlier, state.world.log = later ++ .released conn :: earlier →
        .sent conn ∉ later := by
  have once := endedOnce_of_reached reached
  have honest := honest_of_reached reached
  have ordered := ordered_of_reached reached
  refine ⟨fun id => ?_, fun call id told => ?_, fun call use id answered => ?_,
    fun conn later earlier split sent => ?_⟩
  · obtain ⟨ended, owed⟩ := once id
    omega
  · have committed := honest.told call id told
    refine ⟨committed, fun outcome ended => ?_⟩
    exact ended_unique (once id).1 ended committed
  · obtain ⟨later, earlier, split⟩ := List.append_of_mem (ordered.ran call use id answered)
    refine ⟨later, earlier, split, fun outcome ended => ?_⟩
    have pairwise := ordered.pairwise
    rw [split, List.pairwise_append, List.pairwise_cons] at pairwise
    exact (pairwise.2.1.1 _ ended).2 id outcome call rfl rfl
  · have pairwise := ordered.pairwise
    rw [split, List.pairwise_append] at pairwise
    exact (pairwise.2.2 _ sent _ List.mem_cons_self).1 conn rfl rfl

/-- The reaper has collected transaction 1 when a client commits it; both end it,
and a statement of another client comes too late. -/
def reapedDuringCommit : List (Threads.Label Stage Choice Nat) :=
  [.invoke begin, .advance 0 {}, .advance 0 {}, .advance 0 {}, .advance 0 {},
    .invoke (execute 1), .advance 1 {}, .advance 1 {}, .move 31,
    .invoke reapOnce, .advance 2 {}, .invoke (commit 1), .advance 3 {}, .advance 2 {},
    .invoke (query 1), .advance 4 {}, .advance 3 {}, .advance 2 {}, .advance 2 {}, .advance 2 {},
    .advance 3 {}, .advance 4 {}]

theorem reaped_during_commit_one_outcome :
    ∃ state, threads.run (fun _ _ => True) reapedDuringCommit (initial 30) = some state ∧
      state.calls = [.returned, .returned, .returned, .returned, .returned] ∧
      .answered 3 (.ending .commit 1) none ∈ state.world.log ∧
      .ended 1 .committed ∈ state.world.log ∧
      state.world.log.countP (Event.endsNil 1) ≤ 1 := by
  refine ⟨_, rfl, rfl, by decide, ?_⟩
  have ran : threads.run (fun _ _ => True) reapedDuringCommit (initial 30) = some _ := rfl
  have reached : Reached 30 _ := Threads.reaches_of_run .start ran
  have outcome := transaction_has_one_outcome reached
  exact ⟨(outcome.2.1 3 1 (by decide)).1, outcome.1 1⟩

end TxCalls
end VScale
