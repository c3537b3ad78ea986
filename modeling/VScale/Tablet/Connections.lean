import Mathlib.Data.List.Range
import VScale.Tablet.TxCalls

/-!
# Connections are conserved

Every connection a BEGIN has taken from the pool is somewhere: it was given back,
belongs to a transaction in the map, or is in the hands of one call.
-/

namespace VScale
namespace TxCalls

open Collections Effects

/-- The connection on which no transaction could be begun. -/
def Event.failedConn : Event → Option Nat
  | .beginFailed conn => some conn
  | _ => none

/-- The connection of a transaction that leaves the map. -/
def Event.removedConn : Event → Option Nat
  | .removed _ conn => some conn
  | _ => none

/-- The transaction that leaves the map. -/
def Event.removedID : Event → Option Nat
  | .removed id _ => some id
  | _ => none

/-- The connection that is given back. -/
def Event.releasedConn : Event → Option Nat
  | .released conn => some conn
  | _ => none

namespace World

/-- The connections on which no transaction could be begun. -/
def failed (w : World) : List Nat := w.log.filterMap Event.failedConn

/-- The connections of the transactions that have been removed from the map. -/
def removedConns (w : World) : List Nat := w.log.filterMap Event.removedConn

/-- The transactions that have been removed from the map. -/
def removedIDs (w : World) : List Nat := w.log.filterMap Event.removedID

/-- The connections that have been given back, once for each time. -/
def released (w : World) : List Nat := w.log.filterMap Event.releasedConn

/-- The connections of the transactions in the map. -/
def mapped (w : World) : List Nat := w.txns.map fun id => (w.transactions id).conn

theorem mapped_change
    (w : World)
    (id : Nat)
    {update : Transaction → Transaction}
    (kept : (update (w.transactions id)).conn = (w.transactions id).conn) :
    (w.change id update).mapped = w.mapped := by
  refine List.map_congr_left fun other _ => ?_
  by_cases same : other = id
  · rw [same]
    simp only [change, Function.update_self, kept]
  · simp only [change, Function.update_of_ne same]

theorem mapped_touch (w : World) (id : Nat) : (w.touch id).mapped = w.mapped :=
  w.mapped_change id rfl

theorem mapped_close (w : World) (id : Nat) : (w.close id).mapped = w.mapped :=
  w.mapped_change id rfl

variable {id : Nat} {w : World}

/-- A new id brings its connection into the map. -/
theorem mapped_insert
    (absent : id ∉ w.txns)
    (conn : Nat) :
    (w.insert id conn).mapped = conn :: w.mapped := by
  refine congrArg₂ List.cons ?_ (List.map_congr_left fun other present => ?_)
  · simp only [insert, change, Function.update_self]
  · have different : other ≠ id := fun same => absent (same ▸ present)
    simp only [insert, change, Function.update_of_ne different]

/-- A deleted id takes its connection out of the map. -/
theorem mapped_delete (present : id ∈ w.txns) :
    w.mapped.Perm ((w.transactions id).conn :: (w.delete id).mapped) :=
  (List.perm_cons_erase present).map fun id => (w.transactions id).conn

end World

namespace Stage

/-- The connection a call has acquired and has yet to insert. -/
def opening : Stage → Option Nat
  | .beginning conn => some conn
  | .numbering conn => some conn
  | .inserting conn _ => some conn
  | _ => none

/-- The connection a call is about to release. -/
def closing : Stage → Option Nat
  | .abandoning conn _ => some conn
  | .releasing _ _ conn _ _ => some conn
  | _ => none

/-- The id a call is about to insert. -/
def numbered : Stage → Option Nat
  | .inserting _ id => some id
  | _ => none

/-- The connection of a call between acquire and insert or between delete and
release. -/
def inHand (stage : Stage) : Option Nat :=
  stage.opening.or stage.closing

end Stage

/-- Acquired connections and issued ids are all accounted for. -/
structure Conserved (state : Threads.State Stage World) : Prop where
  conns : (List.range state.world.acquired).Perm
    (state.world.failed ++ (state.world.removedConns ++
      (state.world.mapped ++ state.calls.filterMap Stage.opening)))
  released : (state.world.failed ++ state.world.removedConns).Perm
    (state.world.released ++ state.calls.filterMap Stage.closing)
  ids : (List.range' 1 state.world.nextID).Perm
    (state.world.txns ++ (state.world.removedIDs ++ state.calls.filterMap Stage.numbered))

section Steps

variable {before later : List Stage} {stage stage' : Stage} {w w' : World} {events : List Event}

/-- What a step takes from one place it puts into another. -/
structure Balances
    (events : List Event)
    (stage : Stage)
    (w : World)
    (stage' : Stage)
    (w' : World) : Prop where
  log : w'.log = events ++ w.log
  conns : ∀ conn,
    (List.range w'.acquired).count conn + (w.mapped.count conn + stage.opening.toList.count conn) =
      (List.range w.acquired).count conn + ((events.filterMap Event.failedConn).count conn +
        ((events.filterMap Event.removedConn).count conn +
          (w'.mapped.count conn + stage'.opening.toList.count conn)))
  released : ∀ conn,
    (events.filterMap Event.failedConn).count conn +
        ((events.filterMap Event.removedConn).count conn + stage.closing.toList.count conn) =
      (events.filterMap Event.releasedConn).count conn + stage'.closing.toList.count conn
  ids : ∀ id,
    (List.range' 1 w'.nextID).count id + (w.txns.count id + stage.numbered.toList.count id) =
      (List.range' 1 w.nextID).count id + (w'.txns.count id +
        ((events.filterMap Event.removedID).count id + stage'.numbered.toList.count id))

theorem Balances.conserved
    (balances : Balances events stage w stage' w')
    (conserved : Conserved ⟨before ++ stage :: later, w⟩) :
    Conserved ⟨before ++ stage' :: later, w'⟩ := by
  obtain ⟨conns, released, ids⟩ := conserved
  have failed : w'.failed = events.filterMap Event.failedConn ++ w.failed := by
    rw [World.failed, balances.log, List.filterMap_append]
    rfl
  have removedConns : w'.removedConns =
      events.filterMap Event.removedConn ++ w.removedConns := by
    rw [World.removedConns, balances.log, List.filterMap_append]
    rfl
  have releasedConns : w'.released = events.filterMap Event.releasedConn ++ w.released := by
    rw [World.released, balances.log, List.filterMap_append]
    rfl
  have removedIDs : w'.removedIDs = events.filterMap Event.removedID ++ w.removedIDs := by
    rw [World.removedIDs, balances.log, List.filterMap_append]
    rfl
  simp only [List.perm_iff_count, List.count_append, Threads.count_filterMap_calls]
    at conns released ids
  constructor
  · simp only [List.perm_iff_count, List.count_append, Threads.count_filterMap_calls, failed,
      removedConns]
    intro conn
    have moved := balances.conns conn
    have counted := conns conn
    omega
  · simp only [List.perm_iff_count, List.count_append, Threads.count_filterMap_calls, failed,
      removedConns, releasedConns]
    intro conn
    have moved := balances.released conn
    have counted := released conn
    omega
  · simp only [List.perm_iff_count, List.count_append, Threads.count_filterMap_calls, removedIDs]
    intro id
    have moved := balances.ids id
    have counted := ids id
    omega

theorem conns_unmoved
    (acquired : w'.acquired = w.acquired)
    (mapped : w'.mapped = w.mapped)
    (failed : events.filterMap Event.failedConn = [])
    (removed : events.filterMap Event.removedConn = [])
    (opening : stage'.opening = stage.opening)
    (conn : Nat) :
    (List.range w'.acquired).count conn + (w.mapped.count conn + stage.opening.toList.count conn) =
      (List.range w.acquired).count conn + ((events.filterMap Event.failedConn).count conn +
        ((events.filterMap Event.removedConn).count conn +
          (w'.mapped.count conn + stage'.opening.toList.count conn))) := by
  rw [acquired, mapped, failed, removed, opening, List.count_nil, Nat.zero_add, Nat.zero_add]

theorem released_unmoved
    (failed : events.filterMap Event.failedConn = [])
    (removed : events.filterMap Event.removedConn = [])
    (released : events.filterMap Event.releasedConn = [])
    (closing : stage'.closing = stage.closing)
    (conn : Nat) :
    (events.filterMap Event.failedConn).count conn +
        ((events.filterMap Event.removedConn).count conn + stage.closing.toList.count conn) =
      (events.filterMap Event.releasedConn).count conn + stage'.closing.toList.count conn := by
  rw [failed, removed, released, closing, List.count_nil, Nat.zero_add, Nat.zero_add]

theorem ids_unmoved
    (nextID : w'.nextID = w.nextID)
    (txns : w'.txns = w.txns)
    (removedIDs : events.filterMap Event.removedID = [])
    (numbered : stage'.numbered = stage.numbered)
    (id : Nat) :
    (List.range' 1 w'.nextID).count id + (w.txns.count id + stage.numbered.toList.count id) =
      (List.range' 1 w.nextID).count id + (w'.txns.count id +
        ((events.filterMap Event.removedID).count id + stage'.numbered.toList.count id)) := by
  rw [nextID, txns, removedIDs, numbered, List.count_nil, Nat.zero_add]

/-- A step that moves no connection and issues no id. -/
theorem balances_unmoved
    (log : w'.log = events ++ w.log)
    (acquired : w'.acquired = w.acquired)
    (nextID : w'.nextID = w.nextID)
    (mapped : w'.mapped = w.mapped)
    (txns : w'.txns = w.txns)
    (failed : events.filterMap Event.failedConn = [])
    (removed : events.filterMap Event.removedConn = [])
    (released : events.filterMap Event.releasedConn = [])
    (removedIDs : events.filterMap Event.removedID = [])
    (opening : stage'.opening = stage.opening)
    (closing : stage'.closing = stage.closing)
    (numbered : stage'.numbered = stage.numbered) :
    Balances events stage w stage' w' :=
  ⟨log, conns_unmoved acquired mapped failed removed opening,
    released_unmoved failed removed released closing, ids_unmoved nextID txns removedIDs numbered⟩

/-- An acquired connection is with the call. -/
theorem balances_acquired (w : World) :
    Balances [.acquired w.acquired] .acquiring w (.beginning w.acquired)
      ({ w with acquired := w.acquired + 1 }.emit [.acquired w.acquired]) := by
  refine ⟨rfl, fun conn => ?_, released_unmoved rfl rfl rfl rfl, ids_unmoved rfl rfl rfl rfl⟩
  change (List.range (w.acquired + 1)).count conn + (w.mapped.count conn + 0) =
    (List.range w.acquired).count conn +
      (0 + (0 + (w.mapped.count conn + [w.acquired].count conn)))
  rw [List.range_succ, List.count_append]
  omega

/-- After a failed begin the call is about to release its connection. -/
theorem balances_beginFailed
    (w : World)
    (conn : Nat)
    (failure : String) :
    Balances [.beginFailed conn, .sent conn] (.beginning conn) w (.abandoning conn failure)
      (w.emit [.beginFailed conn, .sent conn]) := by
  refine ⟨rfl, fun other => ?_, fun other => ?_, ids_unmoved rfl rfl rfl rfl⟩
  · change (List.range w.acquired).count other + (w.mapped.count other + [conn].count other) =
      (List.range w.acquired).count other +
        ([conn].count other + (0 + (w.mapped.count other + 0)))
    omega
  · change [conn].count other + (0 + 0) = 0 + [conn].count other
    omega

/-- The call gives back the connection it has in hand. -/
theorem balances_released
    {conn : Nat}
    (held : stage.closing = some conn)
    (freed : stage'.closing = none)
    (opening : stage'.opening = stage.opening)
    (numbered : stage'.numbered = stage.numbered)
    (answer : Nat)
    (request : Request)
    (failure : Option String) :
    Balances [.answered answer request failure, .released conn] stage w stage'
      (w.emit [.answered answer request failure, .released conn]) := by
  refine ⟨rfl, conns_unmoved rfl rfl rfl rfl opening, fun other => ?_,
    ids_unmoved rfl rfl rfl numbered⟩
  rw [held, freed]
  change 0 + (0 + [conn].count other) = [conn].count other + 0
  omega

theorem balances_numbered
    (w : World)
    (conn : Nat) :
    Balances [] (.numbering conn) w (.inserting conn (w.nextID + 1))
      { w with nextID := w.nextID + 1 } := by
  refine ⟨rfl, conns_unmoved rfl rfl rfl rfl rfl, released_unmoved rfl rfl rfl rfl, fun id => ?_⟩
  change (List.range' 1 (w.nextID + 1)).count id + (w.txns.count id + 0) =
    (List.range' 1 w.nextID).count id + (w.txns.count id + (0 + [w.nextID + 1].count id))
  rw [List.range'_concat, List.count_append, Nat.one_mul, Nat.add_comm 1]
  omega

variable {id : Nat}

/-- The connection goes from the call into the map. -/
theorem balances_inserted
    (absent : id ∉ w.txns)
    (conn call : Nat) :
    Balances [.answered call .begin none, .inserted id] (.inserting conn id) w .returned
      ((w.insert id conn).emit [.answered call .begin none, .inserted id]) := by
  refine ⟨rfl, fun other => ?_, released_unmoved rfl rfl rfl rfl, fun other => ?_⟩
  · change (List.range w.acquired).count other + (w.mapped.count other + [conn].count other) =
      (List.range w.acquired).count other +
        (0 + (0 + ((w.insert id conn).mapped.count other + 0)))
    rw [World.mapped_insert absent conn, List.count_cons, List.count_cons, List.count_nil]
    omega
  · change (List.range' 1 w.nextID).count other + (w.txns.count other + [id].count other) =
      (List.range' 1 w.nextID).count other + (([id] ++ w.txns).count other + (0 + 0))
    rw [List.count_append]
    omega

/-- The connection goes from the map to the call. -/
theorem balances_removed
    (present : id ∈ w.txns)
    (ending : Ending)
    (failure : Option String)
    (rest : Option (List Nat)) :
    Balances [.removed id (w.transactions id).conn] (.removing ending id failure rest) w
      (.releasing ending id (w.transactions id).conn failure rest)
      ((w.delete id).emit [.removed id (w.transactions id).conn]) := by
  have mapped := (World.mapped_delete present).count
  have erased := (List.perm_cons_erase present).count
  refine ⟨rfl, fun other => ?_, fun other => ?_, fun other => ?_⟩
  · change (List.range w.acquired).count other + (w.mapped.count other + 0) =
      (List.range w.acquired).count other +
        (0 + ([(w.transactions id).conn].count other + ((w.delete id).mapped.count other + 0)))
    rw [mapped other, List.count_cons, List.count_cons, List.count_nil]
    omega
  · change 0 + ([(w.transactions id).conn].count other + 0) =
      0 + [(w.transactions id).conn].count other
    omega
  · change (List.range' 1 w.nextID).count other + (w.txns.count other + 0) =
      (List.range' 1 w.nextID).count other +
        ((w.txns.erase id).count other + ([id].count other + 0))
    rw [erased other, List.count_cons, List.count_cons, List.count_nil]
    omega

theorem opening_afterwards (rest : Option (List Nat)) : (afterwards rest).opening = none := by
  rcases rest with _ | _ | ⟨id, ids⟩
  · rfl
  · rfl
  · rfl

theorem closing_afterwards (rest : Option (List Nat)) : (afterwards rest).closing = none := by
  rcases rest with _ | _ | ⟨id, ids⟩
  · rfl
  · rfl
  · rfl

theorem numbered_afterwards (rest : Option (List Nat)) : (afterwards rest).numbered = none := by
  rcases rest with _ | _ | ⟨id, ids⟩
  · rfl
  · rfl
  · rfl

/-- An id that a call is about to insert has never been in the map. -/
theorem Conserved.fresh
    (conserved : Conserved ⟨before ++ stage :: later, w⟩)
    (numbered : stage.numbered = some id) : id ∉ w.txns ∧ id ∉ w.removedIDs := by
  have counted := conserved.ids.count id
  simp only [List.count_append, Threads.count_filterMap_calls, numbered, Option.toList_some,
    List.count_singleton_self] at counted
  have issued := List.nodup_iff_count_le_one.mp (List.nodup_range' (s := 1) (n := w.nextID)) id
  constructor
  · intro present
    have there := List.count_pos_iff.mpr present
    omega
  · intro gone
    have there := List.count_pos_iff.mpr gone
    omega

theorem Advances.balances
    (advances : Advances before.length stage w events stage' w')
    (conserved : Conserved ⟨before ++ stage :: later, w⟩) :
    Balances events stage w stage' w' := by
  cases advances with
  | unacquired | notFound | found | sought | finishedClosed =>
      exact balances_unmoved rfl rfl rfl rfl rfl rfl rfl rfl rfl rfl rfl rfl
  | acquired => exact balances_acquired w
  | beginFailed failure => exact balances_beginFailed w _ failure
  | begun => exact balances_unmoved rfl rfl rfl rfl rfl rfl rfl rfl rfl rfl rfl rfl
  | @abandoned _ conn failure =>
      exact @balances_released (.abandoning conn failure) .returned w conn rfl rfl rfl rfl
        _ _ _
  | numbered => exact balances_numbered w _
  | inserted => exact balances_inserted (conserved.fresh rfl).1 _ _
  | usedClosed | useFailed | used =>
      exact balances_unmoved rfl rfl rfl (w.mapped_touch _) rfl rfl rfl rfl rfl rfl rfl rfl
  | @notSought _ ending id rest missing =>
      exact balances_unmoved rfl rfl rfl rfl rfl rfl rfl rfl rfl (opening_afterwards rest)
        (closing_afterwards rest) (numbered_afterwards rest)
  | finished running verdict =>
      exact balances_unmoved rfl rfl rfl (w.mapped_close _) rfl rfl rfl rfl rfl rfl rfl rfl
  | @notRemoved _ ending id failure rest missing =>
      exact balances_unmoved rfl rfl rfl rfl rfl rfl rfl rfl rfl (opening_afterwards rest)
        (closing_afterwards rest) (numbered_afterwards rest)
  | removed present => exact balances_removed present _ _ _
  | @released _ ending id conn failure rest =>
      exact @balances_released (.releasing ending id conn failure rest) (afterwards rest) w conn
        rfl (closing_afterwards rest) (opening_afterwards rest) (numbered_afterwards rest) _ _ _
  | collected order =>
      exact balances_unmoved rfl rfl rfl rfl rfl rfl rfl rfl rfl (opening_afterwards (some _))
        (closing_afterwards (some _)) (numbered_afterwards (some _))

end Steps

/-- A call that starts has nothing in hand. -/
theorem conserved_invoke
    {calls : List Stage}
    {stage : Stage}
    {w : World}
    (conserved : Conserved ⟨calls, w⟩)
    (starts : stage.starts = true) :
    Conserved ⟨calls ++ [stage], w⟩ := by
  have hands : ∀ hand : Stage → Option Nat, hand stage = none →
      (calls ++ [stage]).filterMap hand = calls.filterMap hand := by
    intro hand empty
    rw [List.filterMap_append, List.filterMap_cons_none empty, List.filterMap_nil,
      List.append_nil]
  have empty : stage.opening = none ∧ stage.closing = none ∧ stage.numbered = none := by
    cases stage with
    | acquiring | looking | seeking | collecting => exact ⟨rfl, rfl, rfl⟩
    | _ => cases starts
  obtain ⟨conns, released, ids⟩ := conserved
  constructor
  · rw [hands _ empty.1]
    exact conns
  · rw [hands _ empty.2.1]
    exact released
  · rw [hands _ empty.2.2]
    exact ids

variable {state : Threads.State Stage World}

theorem conserved_of_reached
    {idleTimeout : Nat}
    (reached : Reached idleTimeout state) : Conserved state := by
  have first : Conserved (initial idleTimeout) := ⟨.nil, .nil, .nil⟩
  refine Threads.Reaches.invariant first ?_ reached
  intro state label later _ conserved stepped _
  cases stepped with
  | invoke starts => exact conserved_invoke conserved starts
  | advance advanced =>
      obtain ⟨events, advances⟩ := advances_of_advance advanced
      exact (advances.balances conserved).conserved conserved
  | move elapsed => exact ⟨conserved.conns, conserved.released, conserved.ids⟩

/-- A call has at most one connection in hand. -/
theorem countP_inHand (calls : List Stage) :
    calls.countP (fun stage => stage.inHand.isSome) =
      (calls.filterMap Stage.closing).length + (calls.filterMap Stage.opening).length := by
  induction calls with
  | nil => rfl
  | cons stage calls ih =>
      rw [List.countP_cons, ih]
      cases stage with
      | _ =>
        simp only [Stage.inHand, Stage.opening, Stage.closing, Option.or, Option.isSome,
          List.filterMap_cons, List.length_cons, if_true, Bool.false_eq_true, if_false]
        omega

/-- An acquired connection is at one place. -/
theorem Conserved.accounted (conserved : Conserved state) :
    (List.range state.world.acquired).Perm
      ((state.world.released ++ state.calls.filterMap Stage.closing) ++
        (state.world.mapped ++ state.calls.filterMap Stage.opening)) := by
  have conns := conserved.conns
  rw [← List.append_assoc] at conns
  exact conns.trans (conserved.released.append_right _)

/-- A released connection belongs neither to the map nor to a begin. -/
theorem Conserved.not_released
    (conserved : Conserved state)
    {conn : Nat}
    (given : conn ∈ state.world.released) :
    conn ∉ state.world.mapped ∧ ∀ stage ∈ state.calls, stage.opening ≠ some conn := by
  have distinct := List.nodup_append'.mp (conserved.accounted.nodup_iff.mp List.nodup_range)
  have apart := distinct.2.2 (List.mem_append_left _ given)
  refine ⟨fun mapped => apart (List.mem_append_left _ mapped), fun stage present held => ?_⟩
  exact apart (List.mem_append_right _ (List.mem_filterMap.mpr ⟨stage, present, held⟩))

/-- In every state that calls reach in any order, no connection is released
twice, a connection has been released exactly when its id was removed from the
map or its begin failed and no call is about to release it, and the acquired
connections are the released ones, those of the ids in the map and those of the
calls between acquire and insert or between delete and release. -/
theorem connections_conserved
    {idleTimeout : Nat}
    {state : Threads.State Stage World}
    (reached : Reached idleTimeout state) :
    state.world.released.Nodup ∧
      (∀ conn, conn ∈ state.world.released ↔
        (conn ∈ state.world.failed ∨ conn ∈ state.world.removedConns) ∧
          ∀ stage ∈ state.calls, stage.closing ≠ some conn) ∧
      state.world.acquired = state.world.released.length +
        (state.world.txns.length + state.calls.countP fun stage => stage.inHand.isSome) := by
  have released := (conserved_of_reached reached).released
  have accounted := (conserved_of_reached reached).accounted
  have distinct := List.nodup_append'.mp (accounted.nodup_iff.mp List.nodup_range)
  have separate := List.nodup_append'.mp distinct.1
  refine ⟨separate.1, fun conn => ?_, ?_⟩
  · have moved : conn ∈ state.world.failed ∨ conn ∈ state.world.removedConns ↔
        conn ∈ state.world.released ∨ conn ∈ state.calls.filterMap Stage.closing := by
      rw [← List.mem_append, ← List.mem_append]
      exact released.mem_iff
    have about : conn ∈ state.calls.filterMap Stage.closing ↔
        ∃ stage ∈ state.calls, stage.closing = some conn := List.mem_filterMap
    constructor
    · intro given
      refine ⟨moved.mpr (Or.inl given), fun stage present held => ?_⟩
      exact separate.2.2 given (about.mpr ⟨stage, present, held⟩)
    · rintro ⟨gone, unheld⟩
      rcases moved.mp gone with given | held
      · exact given
      · obtain ⟨stage, present, closing⟩ := about.mp held
        exact absurd closing (unheld stage present)
  · have counted := accounted.length_eq
    rw [List.length_range, List.length_append, List.length_append, List.length_append] at counted
    have mapped : state.world.mapped.length = state.world.txns.length := List.length_map _
    rw [countP_inHand]
    omega

/-- A commit and a rollback both find transaction 1; the commit ends it and both
try to remove it. -/
def racingFinishers : List (Threads.Label Stage Choice Nat) :=
  [.invoke begin, .advance 0 {}, .advance 0 {}, .advance 0 {}, .advance 0 {},
    .invoke (commit 1), .invoke (rollback 1), .advance 1 {}, .advance 2 {},
    .advance 1 {}, .advance 2 {}, .advance 2 {}, .advance 1 {}]

theorem racing_finishers_conserve :
    ∃ state, threads.run (fun _ _ => True) racingFinishers (initial 30) = some state ∧
      state.calls = [.returned, .returned, .releasing .rollback 1 0 (some errTxClosed) none] ∧
      state.world.released.Nodup ∧
      state.world.acquired = state.world.released.length +
        (state.world.txns.length + state.calls.countP fun stage => stage.inHand.isSome) := by
  refine ⟨_, rfl, rfl, ?_⟩
  have ran : threads.run (fun _ _ => True) racingFinishers (initial 30) = some _ := rfl
  have reached : Reached 30 _ := Threads.reaches_of_run .start ran
  have conserved := connections_conserved reached
  exact ⟨conserved.1, conserved.2.2⟩

end TxCalls
end VScale
