import VScale.Pgwire.Front

/-!
# Freeing a connection

A `ROLLBACK` frees a connection when the manager still finds its session and the
session is in a transaction.  In every other case the gateway refuses it, and the
connection keeps a transaction it can never end.
-/

namespace VScale
namespace Pgwire

open Aggregate Effects Tree

section Rollback

variable {ext : Externals} {parse : String → SqlText} {conn : Nat} {session : Int}

/-- Others leave a session as it is. -/
def keepsSession (session : Int) : Contract World where
  rely := fun before after => after.sessions session = before.sessions session
  guarantee := fun _ _ => True
  rely_refl := fun _ => rfl
  rely_trans := fun first second => second.trans first

/-- Others leave a session and the connections as they are. -/
def keepsConnection (session : Int) : Contract Front where
  rely := fun before after =>
    after.1.sessions session = before.1.sessions session ∧ after.2 = before.2
  guarantee := fun _ _ => True
  rely_refl := fun _ => ⟨rfl, rfl⟩
  rely_trans := fun first second => ⟨second.1.trans first.1, second.2.trans first.2⟩

/-- The steps of a connection. -/
abbrev connSteps (ext : Externals) (conn : Nat) :=
  (Front.machine ext).StepsWhen (fun _ => True) conn

theorem projects_gate (conns : Nat → Wire) :
    Prog.Projects (keepsConnection session) (connSteps ext conn) (keepsSession session)
      ((World.machine ext).StepsWhen (fun _ => True) (actsAs conn conns)) conns where
  rely := fun relied => relied
  guarantee := fun _ => trivial
  steps := by
    rintro op world answer after ⟨choice, _, stepped⟩
    obtain ⟨rfl, rfl⟩ := Prod.mk.inj stepped
    exact ⟨⟨choice.1, trivial, rfl⟩, rfl⟩

/-- A rollback succeeds exactly when the session is in a transaction. -/
def RollsBack (inside : Prop) (outcome : Outcome) : Prop :=
  (inside → ∃ resp, outcome = .ok resp) ∧ (¬ inside → ∃ failure, outcome = .error (.error failure))

variable {caller : Caller} {w : World} {f : Front}

theorem wp_rollback : (Coordinator.rollback session).wp (keepsSession session)
      ((World.machine ext).StepsWhen (fun _ => True) caller)
      (fun outcome _ => RollsBack ((w.sessions session).state = .inTransaction) outcome) w := by
  intro before same answer after ⟨choice, _, stepped⟩
  obtain ⟨rfl, rfl⟩ := Prod.mk.inj stepped
  rw [show before.sessions session = w.sessions session from same]
  refine ⟨trivial, ?_⟩
  beta_reduce
  split
  · rename_i outside
    intro later _ printed after _
    exact ⟨trivial, fun _ _ => ⟨fun inside => absurd inside outside, fun _ => ⟨_, rfl⟩⟩⟩
  · rename_i inside
    apply Prog.wp_seq (Prog.wp_of_free (fun _ _ => trivial) _ _)
    intro complaint later _ beforeSet _ answer afterSet _
    refine ⟨trivial, ?_⟩
    intro beforeClear _ answer afterClear _
    refine ⟨trivial, fun _ _ => ⟨fun _ => ⟨_, rfl⟩, fun outside => ?_⟩⟩
    exact absurd (not_ne_iff.mp inside) outside

/-- The transaction is over exactly under a condition. -/
def Releases (inside : Prop) (outcome : Outcome) : Prop :=
  (inside → ∃ resp, outcome = .ok resp ∧ resp.transactionId = TxID.zero) ∧
    (¬ inside → ∃ failure, outcome = .error (.error failure))

/-- The gateway once it has looked for the session. -/
def afterGet (session : Int) (found : Bool) : GateM Outcome :=
  if found then do
    let outcome ← Coordinator.rollback session
    pure (Gateway.concludeWith "gateway: rollback failed: " outcome)
  else
    GateM.fail ("gateway: cannot rollback invalid transaction " ++ Decimal.formatInt session ++
      ": " ++ Gateway.errSessionNotFound)

theorem wp_afterGet (found : Bool) :
    (afterGet session found).wp (keepsSession session)
      ((World.machine ext).StepsWhen (fun _ => True) caller)
      (fun outcome _ =>
        Releases (found = true ∧ (w.sessions session).state = .inTransaction) outcome) w := by
  cases found with
  | false =>
      intro later _
      exact ⟨fun inside => absurd inside.1 nofun, fun _ => ⟨_, rfl⟩⟩
  | true =>
      apply Prog.wp_seq wp_rollback
      intro outcome later rollsBack _ _
      constructor
      · rintro ⟨_, inside⟩
        obtain ⟨resp, rfl⟩ := rollsBack.1 inside
        exact ⟨_, rfl, rfl⟩
      · intro outside
        obtain ⟨failure, rfl⟩ := rollsBack.2 fun inside => outside ⟨rfl, inside⟩
        exact ⟨_, rfl⟩

/-- What a connection does with the outcome of a `ROLLBACK`. -/
def afterRollback
    (ext : Externals)
    (parse : String → SqlText)
    (outcome : Outcome) :
    FrontM Handled :=
  overGate ext parse
    (match outcome with
    | .error .crash => .pure (.error .crash)
    | .error (.error failure) => Conn.sendError failure
    | .ok resp =>
        .perform (.setTxID resp.transactionId.id) fun _ =>
          Conn.send (.commandComplete "ROLLBACK"))

theorem wp_afterRollback
    {inside : Prop}
    {outcome : Outcome}
    (releases : Releases inside outcome)
    (nonzero : (f.2 conn).txID ≠ 0) :
    (afterRollback ext parse outcome).wp (keepsConnection session) (connSteps ext conn)
      (fun _ final => (final.2 conn).txID = 0 ↔ inside) f := by
  have keeps : ∀ {program : FrontM Handled} {f : Front} {txID : Int}, program.Only IsSend →
      (f.2 conn).txID = txID →
      program.wp (keepsConnection session) (connSteps ext conn)
        (fun _ final => (final.2 conn).txID = txID) f := by
    intro program f txID only start
    refine Prog.wp_of_only ?_ ?_ only start
    · rintro before after ⟨_, same⟩ kept
      rw [same]
      exact kept
    · intro op before answer after sends stepped kept
      exact ⟨trivial, (txID_of_send sends stepped).trans kept⟩
  by_cases isInside : inside
  · obtain ⟨resp, rfl, ended⟩ := releases.1 isInside
    rintro before ⟨_, same⟩ answer after ⟨choice, _, stepped⟩
    obtain ⟨rfl, rfl⟩ := Prod.mk.inj stepped
    refine ⟨trivial, ?_⟩
    apply Prog.wp_mono (keeps (only_send _) ?_)
    · intro handled final released
      exact iff_of_true released isInside
    · change (Function.update before.2 conn _ conn).txID = 0
      rw [Function.update_self]
      change (resp.transactionId.id : Int) = 0
      rw [ended]
      rfl
  · obtain ⟨failure, rfl⟩ := releases.2 isInside
    apply Prog.wp_mono (keeps (only_sendError _) rfl)
    intro handled final kept
    refine iff_of_false ?_ isInside
    rw [kept]
    exact nonzero

/-- Once the gateway has looked for the session, the outcome is settled. -/
theorem wp_settled
    (nonzero : (f.2 conn).txID ≠ 0)
    (found : Bool) :
    ((afterGet session found).left >>= afterRollback ext parse).wp (keepsConnection session)
      (connSteps ext conn)
      (fun _ final => (final.2 conn).txID = 0 ↔
        found = true ∧ (f.1.sessions session).state = .inTransaction) f := by
  apply Prog.wp_bind
  apply Prog.wp_left (projects_gate f.2)
  apply Prog.wp_mono (wp_afterGet found)
  intro outcome later releases
  exact wp_afterRollback releases nonzero

/-- The gateway looks for the session once. -/
theorem only_settled (found : Bool) :
    ((afterGet session found).left >>= afterRollback ext parse).Only
      fun op : front.Op => op ≠ .inl (.get session) := by
  have sends : ∀ op : front.Op, IsSend op → op ≠ .inl (.get session) := by
    rintro op ⟨message, rfl⟩
    rintro ⟨⟩
  apply Prog.only_bind
  · apply Prog.only_left
    cases found with
    | false => trivial
    | true =>
        apply Prog.only_bind
        · exact Coordinator.only_rollback ⟨nofun, fun _ => nofun, fun _ _ => nofun⟩
            nofun nofun nofun
        · exact fun _ => trivial
  · intro outcome
    rcases outcome with (failure | _) | resp
    · exact Prog.only_mono sends (only_sendError failure)
    · trivial
    · exact ⟨nofun, fun _ => Prog.only_mono sends (only_send _)⟩

/-- The moves of the environment leave sessions and connections as they are. -/
theorem relied_moves
    (moves : List FrontMove)
    (f : Front) :
    (keepsConnection session).rely f
      (moves.foldl (fun f move => (Front.machine ext).disturb move f) f) := by
  induction moves generalizing f with
  | nil => exact ⟨rfl, rfl⟩
  | cons move moves ih =>
      apply (keepsConnection session).rely_trans ?_ (ih _)
      rcases move with move | ⟨_, move⟩
      · cases move with
        | reap | restart | sync | reapSession => exact ⟨rfl, rfl⟩
      · cases move

/-- The manager finds the session, and it is in a transaction. -/
def FindsOpen (session : Int) (step : Step front Front FrontChoice) : Prop :=
  step.op = .inl (.get session) →
    step.before.1.present session = true ∧
      (step.before.1.sessions session).state = .inTransaction

/-- The gateway's part of a `ROLLBACK`, from looking for the session on. -/
def rollsBackOf (ext : Externals) (parse : String → SqlText) (session : Int) : FrontM Handled :=
  .perform (.inl (.get session)) fun (found : Bool) =>
    (afterGet session found).left >>= afterRollback ext parse

theorem frees_iff_of_looking
    (nonzero : (f.2 conn).txID ≠ 0)
    (strategy : Strategy front Front FrontChoice FrontMove) :
    (((rollsBackOf ext parse session).run (Front.machine ext) conn strategy f).2.2 conn).txID = 0 ↔
      ∀ step ∈ (rollsBackOf ext parse session).steps (Front.machine ext) conn strategy f,
        FindsOpen session step := by
  have relied : (keepsConnection session).rely f
      ((strategy.moves f (.inl (.get session))).foldl
        (fun f move => (Front.machine ext).disturb move f) f) := relied_moves _ _
  rw [rollsBackOf, Prog.steps, Prog.run, List.forall_mem_cons]
  generalize (strategy.moves f (.inl (.get session))).foldl
    (fun f move => (Front.machine ext).disturb move f) f = before at relied ⊢
  have others : ∀ found f, ∀ step ∈ ((afterGet session found).left >>=
      afterRollback ext parse).steps (Front.machine ext) conn strategy f,
      FindsOpen session step := by
    intro found f step listed looks
    exact absurd looks (Prog.forall_steps_of_only (only_settled found) f step listed)
  have held : (before.2 conn).txID ≠ 0 := by
    rw [relied.2]
    exact nonzero
  have settled : ((((afterGet session (before.1.present session)).left >>=
      afterRollback ext parse).run (Front.machine ext) conn strategy before).2.2 conn).txID = 0 ↔
        before.1.present session = true ∧ (before.1.sessions session).state = .inTransaction :=
    Prog.run_of_wp (fun _ _ => relied_moves _ _) (fun _ _ => ⟨_, trivial, rfl⟩)
      (wp_settled held _)
  rw [and_iff_left (others _ _)]
  exact settled.trans ⟨fun finds _ => finds, fun finds => finds rfl⟩

/-- Handling a `ROLLBACK` frees the connection exactly when the manager finds the
session of its transaction and the session is in a transaction. -/
theorem rollback_frees_iff_finds_open
    (ext : Externals)
    (parse : String → SqlText)
    (conn : Nat)
    (strategy : Strategy front Front FrontChoice FrontMove)
    (f : Front)
    (parses : parse "ROLLBACK" = .ok [⟨.rollbackTransaction, "ROLLBACK"⟩])
    (holds : (f.2 conn).txID ≠ 0) :
    (((overGate ext parse Conn.handleRollback).run (Front.machine ext) conn strategy f).2.2
        conn).txID = 0 ↔
      ∀ step ∈ (overGate ext parse Conn.handleRollback).steps (Front.machine ext) conn strategy f,
        FindsOpen (f.2 conn).txID step := by
  have looks : ∀ session, session ≠ 0 →
      ((Gateway.execute ext ⟨parse "ROLLBACK", session⟩).left >>= afterRollback ext parse) =
        rollsBackOf ext parse session := by
    intro session nonzero
    rw [parses]
    change (Gateway.handleRollback session).left >>= _ = _
    rw [Gateway.handleRollback, if_neg nonzero]
    rfl
  have shape : overGate ext parse Conn.handleRollback = .perform (.inr .txID) fun (txID : Int) =>
      (Gateway.execute ext ⟨parse "ROLLBACK", txID⟩).left >>= afterRollback ext parse := rfl
  have relied : (keepsConnection 0).rely f
      ((strategy.moves f (.inr .txID)).foldl
        (fun f move => (Front.machine ext).disturb move f) f) := relied_moves _ _
  rw [shape, Prog.steps, Prog.run, List.forall_mem_cons]
  generalize (strategy.moves f (.inr .txID)).foldl
    (fun f move => (Front.machine ext).disturb move f) f = before at relied ⊢
  have same : ∀ choice, (Front.machine ext).act conn (.inr .txID) choice before =
      ((f.2 conn).txID, before) := by
    intro choice
    rw [← relied.2]
    change ((before.2 conn).txID, (before.1, Function.update before.2 conn (before.2 conn))) = _
    rw [Function.update_eq_self]
  simp only [same]
  rw [looks _ holds]
  have held : (before.2 conn).txID ≠ 0 := by
    rw [relied.2]
    exact holds
  rw [frees_iff_of_looking held, and_iff_right]
  rintro ⟨⟩

end Rollback

/-- A parser that knows `BEGIN` and reads every other text as `ROLLBACK`. -/
def readsControl (sql : String) : SqlText :=
  if sql = "BEGIN" then .ok [⟨.beginTransaction, "BEGIN"⟩]
  else .ok [⟨.rollbackTransaction, "ROLLBACK"⟩]

/-- A gate without tablets and without connections. -/
def freshFront : Front :=
  ({ router := .newRouter { keyspace := "main", shardedTables := ∅ } }, fun _ => {})

/-- A connection that has begun the first session. -/
def begunFront : Front :=
  ({ freshFront.1 with
      sessions := fun _ => { state := .inTransaction }, present := fun session => session == 1 },
    fun _ => { txID := 1 })

/-- An environment that does nothing of its own. -/
def quietFront : Strategy front Front FrontChoice FrontMove :=
  .constant ({}, {})

/-- A lookup finds its session open. -/
def findsOpen (step : Step front Front FrontChoice) : Bool :=
  match step.op with
  | .inl (.get session) =>
      step.before.1.present session &&
        decide ((step.before.1.sessions session).state = .inTransaction)
  | _ => true

/-- A `ROLLBACK` that finds its session open frees the connection. -/
theorem begun_rollback_frees :
    (((overGate integralExternals readsControl Conn.handleRollback).run
        (Front.machine integralExternals) 0 quietFront begunFront).2.2 0).txID = 0 := by
  have finds : ((overGate integralExternals readsControl Conn.handleRollback).steps
      (Front.machine integralExternals) 0 quietFront begunFront).all findsOpen = true := by decide
  refine (rollback_frees_iff_finds_open integralExternals readsControl 0 quietFront begunFront rfl
    (by decide)).mpr ?_
  intro step present looks
  have found := List.all_eq_true.mp finds step present
  simp only [findsOpen, looks, Bool.and_eq_true, decide_eq_true_eq] at found
  exact found

/-- A client that begins a transaction and rolls it back after the manager has
removed the session. -/
def reapedMeanwhile : Strategy front Front FrontChoice FrontMove where
  moves := fun f op =>
    match op with
    | .inr .receive => if (f.2 0).txID = 1 then [.inl (.reapSession 1)] else []
    | _ => []
  choice := fun f _ =>
    ({}, { message := .ok (.query (if (f.2 0).txID = 0 then "BEGIN" else "ROLLBACK")) })

/-- The `ROLLBACK` is refused and the connection keeps its transaction. -/
theorem reaped_session_keeps_connection :
    let final := ((overGate integralExternals readsControl
      (Conn.run integralExternals readsControl 1 2)).run (Front.machine integralExternals) 0
        reapedMeanwhile freshFront).2
    (final.2 0).txID = 1 ∧ (final.2 0).log[7]? = some (.received (.query "ROLLBACK") 1) :=
  ⟨rfl, rfl⟩

end Pgwire
end VScale
