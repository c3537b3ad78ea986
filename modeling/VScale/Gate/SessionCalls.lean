import VScale.Tablet.Reaper

/-!
# Concurrent calls of the session manager

The calls of the session manager in small steps: one critical section under the
lock of the manager, or one under the lock of a session.  A session is named by
its id, also after it has left the map.  Of a session only the time of its last
use matters here.
-/

namespace VScale
namespace SessionCalls

open Collections Effects

/-- The sessions of the manager and when they were last used. -/
structure World where
  clock : Nat
  idleTimeout : Nat
  nextID : Nat
  lastUsed : Nat → Nat
  sessions : List Nat

/-- A manager without sessions. -/
def newManager (idleTimeout : Nat) : World where
  clock := 0
  idleTimeout := idleTimeout
  nextID := 0
  lastUsed := fun _ => 0
  sessions := []

namespace World

/-- The session is used now. -/
def touch (id : Nat) (w : World) : World :=
  { w with lastUsed := Function.update w.lastUsed id w.clock }

/-- The session has been idle for longer than allowed. -/
def isStale (w : World) (id : Nat) : Bool :=
  w.idleTimeout < w.clock - w.lastUsed id

end World

/-- What a call does next.  The ids with a removal by the reaper are those it still
has to remove after it. -/
inductive Stage
  | numbering
  | storing (id : Nat)
  | looking (id : Nat)
  | touching (id : Nat)
  | removing (id : Nat) (rest : Option (List Nat))
  | collecting
  | returned
  deriving DecidableEq

/-- Create a session. -/
def create : Stage := .numbering

/-- Look a session up. -/
def get (id : Nat) : Stage := .looking id

/-- Remove a session. -/
def remove (id : Nat) : Stage := .removing id none

/-- Remove the stale sessions. -/
def reapOnce : Stage := .collecting

/-- The reaper removes one session after the other. -/
def removeEach : List Nat → Stage
  | [] => .returned
  | id :: rest => .removing id (some rest)

/-- What the caller of a removal does next. -/
def afterwards : Option (List Nat) → Stage
  | none => .returned
  | some ids => removeEach ids

/-- The first stages of calls. -/
def Stage.starts : Stage → Bool
  | .numbering => true
  | .looking _ => true
  | .removing _ none => true
  | .collecting => true
  | _ => false

/-- One step of a call; the order is the one in which the map is visited. -/
def Stage.advance (order : RangeOrder) : Stage → World → Option (Stage × World)
  | .numbering, w =>
      some (.storing (w.nextID + 1), { w with nextID := w.nextID + 1 }.touch (w.nextID + 1))
  | .storing id, w => some (.returned, { w with sessions := id :: w.sessions })
  | .looking id, w => some (if id ∈ w.sessions then .touching id else .returned, w)
  | .touching id, w => some (.returned, w.touch id)
  | .removing id rest, w =>
      some (afterwards rest, { w with sessions := w.sessions.erase id })
  | .collecting, w => some (removeEach ((order.visit w.sessions).filter w.isStale), w)
  | .returned, _ => none

/-- The environment lets time pass. -/
def tick (elapsed : Nat) (w : World) : World :=
  { w with clock := w.clock + elapsed }

/-- The calls of one session manager. -/
def threads : Threads Stage World RangeOrder Nat where
  starts := Stage.starts
  advance := fun _ => Stage.advance
  disturb := tick

/-- The state before the first call. -/
def initial (idleTimeout : Nat) : Threads.State Stage World :=
  ⟨[], newManager idleTimeout⟩

/-- The sessions a reaper has collected and has yet to remove. -/
def Stage.victims : Stage → List Nat
  | .removing id (some rest) => id :: rest
  | _ => []

/-- The session that a reaper removes in its next step. -/
def Stage.takes (w : World) : Stage → Option Nat
  | .removing id (some _) => if id ∈ w.sessions then some id else none
  | _ => none

/-- Whenever a reaper removes a session, the time since its last use exceeds the
timeout. -/
def TakesIdle (state : Threads.State Stage World) : Prop :=
  ∀ stage ∈ state.calls, ∀ id, stage.takes state.world = some id →
    state.world.idleTimeout < state.world.clock - state.world.lastUsed id

/-- The session that a call touches in its next step. -/
def Stage.touches : Stage → Option Nat
  | .touching id => some id
  | _ => none

/-- No session is touched that a reaper has collected and has yet to remove. -/
def SparesVictims (state : Threads.State Stage World) : Threads.Label Stage RangeOrder Nat → Prop
  | .advance number _ =>
      ∀ id ∈ state.calls[number]?.bind Stage.touches, ∀ stage ∈ state.calls, id ∉ stage.victims
  | _ => True

instance : ∀ state label, Decidable (SparesVictims state label)
  | _, .invoke _ => inferInstanceAs (Decidable True)
  | state, .advance number _ =>
      inferInstanceAs (Decidable (∀ id ∈ state.calls[number]?.bind Stage.touches,
        ∀ stage ∈ state.calls, id ∉ stage.victims))
  | _, .move _ => inferInstanceAs (Decidable True)

/-- Ids in the map and in calls have been issued, and collected sessions stay
stale. -/
structure VictimsIdle (state : Threads.State Stage World) : Prop where
  issued : ∀ id ∈ state.world.sessions, id ≤ state.world.nextID
  storing : ∀ stage ∈ state.calls, ∀ id, stage = .storing id → id ≤ state.world.nextID
  victims : ∀ stage ∈ state.calls, ∀ id ∈ stage.victims,
    id ≤ state.world.nextID ∧ state.world.isStale id = true

theorem victims_removeEach (ids : List Nat) : (removeEach ids).victims = ids := by
  cases ids with
  | nil | cons => rfl

theorem isStale_touch
    {w : World}
    {used id : Nat}
    (other : id ≠ used) :
    (w.touch used).isStale id = w.isStale id := by
  simp only [World.isStale, World.touch, Function.update_of_ne other]

section Steps

variable {before later : List Stage} {stage stage' : Stage} {w w' : World} {order : RangeOrder}

variable {id : Nat}

/-- A session stays stale unless it is touched or created. -/
theorem isStale_advance
    (advanced : stage.advance order w = some (stage', w'))
    (issued : id ≤ w.nextID)
    (untouched : stage.touches ≠ some id) :
    w'.isStale id = w.isStale id := by
  cases stage with
  | numbering =>
      cases advanced
      have other : id ≠ w.nextID + 1 := Nat.ne_of_lt (Nat.lt_succ_of_le issued)
      have waiting : World.isStale { w with nextID := w.nextID + 1 } id = w.isStale id := rfl
      rw [← waiting]
      exact isStale_touch other
  | touching used =>
      cases advanced
      exact isStale_touch fun same => untouched (congrArg some same.symm)
  | returned => cases advanced
  | _ =>
      cases advanced
      rfl

theorem nextID_advance (advanced : stage.advance order w = some (stage', w')) :
    w.nextID ≤ w'.nextID := by
  cases stage with
  | numbering =>
      cases advanced
      exact Nat.le_succ w.nextID
  | returned => cases advanced
  | _ =>
      cases advanced
      exact Nat.le_refl w.nextID

/-- What is new in the map comes from a call that stores it. -/
theorem sessions_advance
    (advanced : stage.advance order w = some (stage', w'))
    (present : id ∈ w'.sessions) : id ∈ w.sessions ∨ stage = .storing id := by
  cases stage with
  | storing new =>
      cases advanced
      rcases List.mem_cons.mp present with rfl | earlier
      · exact Or.inr rfl
      · exact Or.inl earlier
  | removing other rest =>
      cases advanced
      exact Or.inl (List.mem_of_mem_erase present)
  | returned => cases advanced
  | _ =>
      cases advanced
      exact Or.inl present

theorem afterwards_ne_storing
    (rest : Option (List Nat))
    (id : Nat) :
    afterwards rest ≠ .storing id := by
  rcases rest with _ | _ | ⟨first, others⟩
  · rintro ⟨⟩
  · rintro ⟨⟩
  · rintro ⟨⟩

theorem storing_advance
    (advanced : stage.advance order w = some (stage', w'))
    (stores : stage' = .storing id) : id ≤ w'.nextID := by
  cases stage with
  | numbering =>
      cases advanced
      rw [← Stage.storing.inj stores]
      exact Nat.le_refl (w.nextID + 1)
  | storing | touching =>
      cases advanced
      cases stores
  | looking sought =>
      cases advanced
      split at stores
      · cases stores
      · cases stores
  | removing other rest =>
      cases advanced
      exact absurd stores (afterwards_ne_storing rest id)
  | collecting =>
      cases advanced
      exact absurd stores (afterwards_ne_storing (some _) id)
  | returned => cases advanced

/-- A reaper takes its victims from the stale sessions in the map. -/
theorem victims_advance
    (advanced : stage.advance order w = some (stage', w'))
    (victim : id ∈ stage'.victims) :
    id ∈ stage.victims ∨ stage = .collecting ∧ id ∈ w.sessions ∧ w.isStale id = true := by
  cases stage with
  | numbering | storing | touching =>
      cases advanced
      cases victim
  | looking sought =>
      cases advanced
      split at victim
      · cases victim
      · cases victim
  | removing other rest =>
      cases advanced
      cases rest with
      | none => cases victim
      | some ids =>
          rw [afterwards, victims_removeEach] at victim
          exact Or.inl (List.mem_cons_of_mem other victim)
  | collecting =>
      cases advanced
      rw [victims_removeEach, List.mem_filter, RangeOrder.mem_visit] at victim
      exact Or.inr ⟨rfl, victim⟩
  | returned => cases advanced

theorem victimsIdle_advance
    (idle : VictimsIdle ⟨before ++ stage :: later, w⟩)
    (advanced : stage.advance order w = some (stage', w'))
    (spared : ∀ id, stage.touches = some id →
      ∀ other ∈ before ++ stage :: later, id ∉ other.victims) :
    VictimsIdle ⟨before ++ stage' :: later, w'⟩ := by
  have grown := nextID_advance advanced
  have still : ∀ other ∈ before ++ stage :: later, ∀ id ∈ other.victims,
      id ≤ w'.nextID ∧ w'.isStale id = true := by
    intro other present id victim
    obtain ⟨issued, stale⟩ := idle.victims other present id victim
    refine ⟨Nat.le_trans issued grown, ?_⟩
    rw [isStale_advance advanced issued fun touches => spared id touches other present victim]
    exact stale
  constructor
  · intro id present
    rcases sessions_advance advanced present with earlier | stores
    · exact Nat.le_trans (idle.issued id earlier) grown
    · exact Nat.le_trans (idle.storing stage Threads.mem_calls id stores) grown
  · exact Threads.forall_calls
      (fun other present id stores => Nat.le_trans (idle.storing other present id stores) grown)
      fun id stores => storing_advance advanced stores
  · refine Threads.forall_calls still fun id victim => ?_
    rcases victims_advance advanced victim with earlier | ⟨rfl, present, stale⟩
    · exact still stage Threads.mem_calls id earlier
    · have issued := idle.issued id present
      refine ⟨Nat.le_trans issued grown, ?_⟩
      rw [isStale_advance advanced issued nofun]
      exact stale

end Steps

theorem victims_starts
    {stage : Stage}
    (starts : stage.starts = true) :
    stage.victims = [] ∧ ∀ id, stage ≠ .storing id := by
  cases stage with
  | numbering | looking | collecting => exact ⟨rfl, nofun⟩
  | removing id rest =>
      cases rest with
      | none => exact ⟨rfl, nofun⟩
      | some ids => cases starts
  | _ => cases starts

variable {state : Threads.State Stage World}

/-- As long as no collected session is touched, victims stay stale. -/
theorem victimsIdle_of_spared
    {idleTimeout : Nat}
    (reached : threads.Reaches SparesVictims (initial idleTimeout) state) :
    VictimsIdle state := by
  have first : VictimsIdle (initial idleTimeout) := ⟨nofun, nofun, nofun⟩
  refine Threads.Reaches.invariant first ?_ reached
  intro state label later reached idle stepped spared
  cases stepped with
  | @invoke calls world stage starts =>
      have harmless := victims_starts starts
      refine ⟨idle.issued, ?_, ?_⟩
      · intro other present id stores
        rcases List.mem_append.mp present with earlier | new
        · exact idle.storing other earlier id stores
        · exact absurd ((List.mem_singleton.mp new).symm.trans stores) (harmless.2 id)
      · intro other present id victim
        rcases List.mem_append.mp present with earlier | new
        · exact idle.victims other earlier id victim
        · rw [List.mem_singleton.mp new, harmless.1] at victim
          cases victim
  | @advance before later stage stage' world world' order advanced =>
      refine victimsIdle_advance idle advanced ?_
      intro id touches
      refine spared id ?_
      rw [Threads.getElem?_calls before later stage]
      exact touches
  | move elapsed =>
      refine ⟨idle.issued, idle.storing, ?_⟩
      intro other present id victim
      obtain ⟨issued, stale⟩ := idle.victims other present id victim
      refine ⟨issued, decide_eq_true ?_⟩
      have waited := of_decide_eq_true stale
      simp only [threads, tick] at waited ⊢
      omega

/-- A reaper removes a session that it has collected. -/
theorem mem_victims_of_takes
    {stage : Stage}
    {w : World}
    {id : Nat}
    (taken : stage.takes w = some id) : id ∈ stage.victims := by
  unfold Stage.takes at taken
  split at taken
  · obtain rfl := Option.some.inj (Option.ite_none_right_eq_some.mp taken).2
    exact List.mem_cons_self
  · cases taken

/-- Session 1 has not been used for 301 time units when the reaper comes. -/
def forgotten : List (Threads.Label Stage RangeOrder Nat) :=
  [.invoke create, .advance 0 .stored, .advance 0 .stored, .move 301, .invoke reapOnce,
    .advance 1 .stored]

/-- Session 1 is looked up and touched after the reaper has collected it. -/
def usedTooLate : List (Threads.Label Stage RangeOrder Nat) :=
  forgotten ++ [.invoke (get 1), .advance 2 .stored, .advance 2 .stored]

end SessionCalls

open Effects

/-- Whenever a reaper rolls back a transaction or removes a session, the time
since its last use exceeds the timeout, in every run in which no transaction is
used and no session touched between its collection and the rollback or removal. -/
theorem reapers_take_idle_when_spared (idleTimeout : Nat) :
    (∀ state, TxCalls.threads.Reaches TxCalls.SparesVictims (TxCalls.initial idleTimeout) state →
      TxCalls.TakesIdle state) ∧
      ∀ state, SessionCalls.threads.Reaches SessionCalls.SparesVictims
        (SessionCalls.initial idleTimeout) state → SessionCalls.TakesIdle state := by
  constructor
  · intro state reached stage present id taken
    have victim := TxCalls.mem_victims_of_takes taken
    exact of_decide_eq_true (TxCalls.victimsIdle_of_spared reached stage present id victim).2
  · intro state reached stage present id taken
    have idle := SessionCalls.victimsIdle_of_spared reached
    exact of_decide_eq_true
      (idle.victims stage present id (SessionCalls.mem_victims_of_takes taken)).2

/-- A forgotten session is idle. -/
theorem forgotten_ones_are_idle :
    (∃ state, TxCalls.threads.run TxCalls.SparesVictims TxCalls.forgotten (TxCalls.initial 30) =
        some state ∧
      state.calls = [.returned, .finishing .rollback 1 (some [])] ∧ TxCalls.TakesIdle state) ∧
      ∃ state, SessionCalls.threads.run SessionCalls.SparesVictims SessionCalls.forgotten
          (SessionCalls.initial 300) = some state ∧
        state.calls = [.returned, .removing 1 (some [])] ∧ SessionCalls.TakesIdle state := by
  constructor
  · refine ⟨_, rfl, rfl, (reapers_take_idle_when_spared 30).1 _ ?_⟩
    exact Threads.reaches_of_run .start
      (rfl : TxCalls.threads.run TxCalls.SparesVictims TxCalls.forgotten _ = some _)
  · refine ⟨_, rfl, rfl, (reapers_take_idle_when_spared 300).2 _ ?_⟩
    exact Threads.reaches_of_run .start
      (rfl : SessionCalls.threads.run SessionCalls.SparesVictims SessionCalls.forgotten _ = some _)

/-- The reapers take a transaction in which a statement has just been executed,
and a session that has just been looked up. -/
theorem used_victims_are_taken :
    (∃ state, TxCalls.threads.run (fun _ _ => True) TxCalls.usedTooLate (TxCalls.initial 30) =
        some state ∧
      .answered 2 (.use .execute 1) none ∈ state.world.log ∧
      state.world.clock - (state.world.transactions 1).lastUsed = 0 ∧
      state.calls[1]? = some (.finishing .rollback 1 (some [])) ∧ ¬ TxCalls.TakesIdle state ∧
      ∃ later, TxCalls.threads.next state (.advance 1 {}) = some later ∧
        .ended 1 .rolledBack ∈ later.world.log) ∧
      ∃ state, SessionCalls.threads.run (fun _ _ => True) SessionCalls.usedTooLate
          (SessionCalls.initial 300) = some state ∧
        state.calls = [.returned, .removing 1 (some []), .returned] ∧
        state.world.clock - state.world.lastUsed 1 = 0 ∧ ¬ SessionCalls.TakesIdle state ∧
        ∃ later, SessionCalls.threads.next state (.advance 1 .stored) = some later ∧
          later.world.sessions = [] := by
  constructor
  · refine ⟨_, rfl, by decide, rfl, rfl, fun idle => ?_, _, rfl, by decide⟩
    exact absurd (idle _ (List.mem_cons_of_mem _ List.mem_cons_self) 1 rfl) (by decide)
  · refine ⟨_, rfl, rfl, rfl, fun idle => ?_, _, rfl, rfl⟩
    exact absurd (idle _ (List.mem_cons_of_mem _ List.mem_cons_self) 1 rfl) (by decide)

end VScale
