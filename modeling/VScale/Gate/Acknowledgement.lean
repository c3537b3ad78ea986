import VScale.Gate.Evolution
import VScale.Gate.Executions

/-!
# What a call has run

The log tells where the statements of a call were sent and where they ran.  A
call that is over keeps its events, and a running call adds to its own only.
-/

namespace VScale

open Collections Effects Tree

/-- A statement is sent or run. -/
def Event.Runs : Event → Prop
  | .sent _ _ _ => True
  | .tablet _ _ (.ran _ _ _) => True
  | _ => False

namespace World

/-- What a call ran, it ran inside transactions with a property. -/
def RanInside (w : World) (caller : Caller) (property : String → TxID → Prop) : Prop :=
  ∀ addr place stmt succeeded,
    Event.tablet (some caller) addr (.ran place stmt succeeded) ∈ w.log →
      ∃ id, place = some id ∧ property addr id

/-- The statements a call sent were run wherever they were sent. -/
def RanAll (w : World) (caller : Caller) : Prop :=
  ∀ addr sql, Event.sent caller addr sql ∈ w.log →
    ∃ stmts, sql = .ok stmts ∧ ∀ stmt ∈ stmts, ∃ place,
      Event.tablet (some caller) addr (.ran place stmt true) ∈ w.log

/-- A transaction is recorded in a session. -/
def Recorded (w : World) (session : Int) (addr : String) (id : TxID) : Prop :=
  (w.sessions session).shardTxIDs.lookup addr = some id

variable {caller : Caller} {property : String → TxID → Prop} {w before after : World}

theorem RanInside.mono
    {weaker : String → TxID → Prop}
    (ran : w.RanInside caller property)
    (implies : ∀ addr id, property addr id → weaker addr id) : w.RanInside caller weaker := by
  intro addr place stmt succeeded present
  obtain ⟨id, inside, holds⟩ := ran addr place stmt succeeded present
  exact ⟨id, inside, implies addr id holds⟩

variable {new : List Event} {outcome : Outcome} {past : Caller}

theorem runsNothing_returned
    (past : Caller)
    (outcome : Outcome)
    (caller : Caller) :
    ∀ event ∈ [Event.returned past outcome], event.caller = some caller → ¬ event.Runs :=
  List.forall_mem_singleton.mpr fun _ runs => runs

/-- Events that run nothing for a call leave what it has run. -/
theorem RanInside.append
    (ran : before.RanInside caller property)
    (logged : after.log = new ++ before.log)
    (foreign : ∀ event ∈ new, event.caller = some caller → ¬ event.Runs) :
    after.RanInside caller property := by
  intro addr place stmt succeeded present
  rw [logged] at present
  rcases List.mem_append.mp present with now | earlier
  · exact absurd trivial (foreign _ now rfl)
  · exact ran addr place stmt succeeded earlier

theorem RanAll.append
    (ran : before.RanAll caller)
    (logged : after.log = new ++ before.log)
    (foreign : ∀ event ∈ new, event.caller = some caller → ¬ event.Runs) :
    after.RanAll caller := by
  intro addr sql present
  rw [logged] at present
  rcases List.mem_append.mp present with now | earlier
  · exact absurd trivial (foreign _ now rfl)
  · obtain ⟨stmts, parsed, all⟩ := ran addr sql earlier
    refine ⟨stmts, parsed, fun stmt listed => ?_⟩
    obtain ⟨place, there⟩ := all stmt listed
    refine ⟨place, ?_⟩
    rw [logged]
    exact List.mem_append_right new there

/-- A call without events has run nothing. -/
theorem ran_of_fresh (fresh : ∀ event ∈ w.log, event.caller ≠ some caller) :
    w.RanInside caller property ∧ w.RanAll caller :=
  ⟨fun _ _ _ _ present => absurd rfl (fresh _ present),
    fun _ _ present => absurd rfl (fresh _ present)⟩

section Records

variable {ext : Externals} {choice : Choice} {session other : Int} {addr target : String}
variable {id held : TxID}

/-- What is recorded after one more record. -/
theorem recorded_setLocalTxID_iff :
    (w.act ext caller (.setLocalTxID session addr id) choice).2.Recorded other target held ↔
      if other = session ∧ target = addr then id = held else w.Recorded other target held := by
  unfold Recorded
  by_cases same : other = session
  · subst same
    simp only [act, updateSession, Function.update_self, true_and]
    by_cases here : target = addr
    · subst here
      rw [AList.lookup_insert, if_pos rfl, Option.some.injEq]
    · rw [AList.lookup_insert_ne here, if_neg here]
  · rw [sessions_act ext caller (.setLocalTxID session addr id) choice w same,
      if_neg fun both => same both.1]

theorem recorded_self :
    (w.act ext caller (.setLocalTxID session addr id) choice).2.Recorded session addr id := by
  rw [recorded_setLocalTxID_iff, if_pos ⟨rfl, rfl⟩]

/-- Recording a fresh tablet forgets no other. -/
theorem Recorded.kept
    (recorded : w.Recorded other target held)
    (fresh : (w.sessions session).shardTxIDs.lookup addr = none) :
    (w.act ext caller (.setLocalTxID session addr id) choice).2.Recorded other target held := by
  rw [recorded_setLocalTxID_iff, if_neg]
  · exact recorded
  · rintro ⟨rfl, rfl⟩
    rw [Recorded, fresh] at recorded
    cases recorded

theorem recorded_of_create
    (recorded : (w.act ext caller .create choice).2.Recorded other addr id) :
    other ≠ w.nextID + 1 ∧ w.Recorded other addr id := by
  by_cases same : other = w.nextID + 1
  · subst same
    simp only [Recorded, act, Function.update_self] at recorded
    cases recorded
  · rw [Recorded, sessions_act ext caller .create choice w same] at recorded
    exact ⟨same, recorded⟩

theorem recorded_of_clear
    (recorded : (w.act ext caller (.clearParticipants session) choice).2.Recorded other addr id) :
    other ≠ session ∧ w.Recorded other addr id := by
  by_cases same : other = session
  · subst same
    simp only [Recorded, act, updateSession, Function.update_self] at recorded
    cases recorded
  · rw [Recorded, sessions_act ext caller (.clearParticipants session) choice w same] at recorded
    exact ⟨same, recorded⟩

end Records

/-- What other calls do, and the environment as long as no tablet restarts. -/
structure Others (caller : Caller) (before after : World) : Prop where
  kept : before.Keeps after
  epochs : ∀ addr, (after.tablets addr).tx.epoch = (before.tablets addr).tx.epoch
  logged : ∃ new, after.log = new ++ before.log ∧
    ∀ event ∈ new, event.caller ≠ some caller ∧
      ∀ past outcome, Event.returned past outcome ∈ before.log → event.caller ≠ some past

theorem Others.refl (caller : Caller) (w : World) : Others caller w w where
  kept := fun _ => TxManager.Later.refl _
  epochs := fun _ => rfl
  logged := ⟨[], rfl, List.forall_mem_nil _⟩

theorem Others.trans
    {middle : World}
    (first : Others caller before middle)
    (second : Others caller middle after) : Others caller before after where
  kept := fun addr => (first.kept addr).trans (second.kept addr)
  epochs := fun addr => (second.epochs addr).trans (first.epochs addr)
  logged := by
    obtain ⟨early, early_eq, earlyOthers⟩ := first.logged
    obtain ⟨late, late_eq, lateOthers⟩ := second.logged
    refine ⟨late ++ early, by rw [late_eq, early_eq, List.append_assoc], ?_⟩
    intro event present
    rcases List.mem_append.mp present with here | there
    · obtain ⟨foreign, settled⟩ := lateOthers event here
      refine ⟨foreign, fun past outcome returned => settled past outcome ?_⟩
      rw [early_eq]
      exact List.mem_append_right early returned
    · exact earlyOthers event there

variable (others : Others caller before after)
include others

/-- Others leave what a call has run inside its transactions. -/
theorem Others.ranInside (ran : before.RanInside caller property) :
    after.RanInside caller property := by
  obtain ⟨new, logged, foreign⟩ := others.logged
  exact ran.append logged fun event present own => absurd own (foreign event present).1

theorem Others.ranAll (ran : before.RanAll caller) : after.RanAll caller := by
  obtain ⟨new, logged, foreign⟩ := others.logged
  exact ran.append logged fun event present own => absurd own (foreign event present).1

/-- Others leave what a past call has run. -/
theorem Others.ranInside_of_over
    (returned : Event.returned past outcome ∈ before.log)
    (ran : before.RanInside past property) : after.RanInside past property := by
  obtain ⟨new, logged, foreign⟩ := others.logged
  exact ran.append logged fun event present own =>
    absurd own ((foreign event present).2 past outcome returned)

theorem Others.ranAll_of_over
    (returned : Event.returned past outcome ∈ before.log)
    (ran : before.RanAll past) : after.RanAll past := by
  obtain ⟨new, logged, foreign⟩ := others.logged
  exact ran.append logged fun event present own =>
    absurd own ((foreign event present).2 past outcome returned)

omit others

/-- The events of a handler that runs nothing. -/
theorem log_callTablet_of_silent
    (w : World)
    (caller : Caller)
    (choice : Choice)
    (addr : String)
    {handler : Executor → Reply Executor α}
    (silent : ∀ event ∈ (handler (w.tablets addr)).events,
      ¬ (Event.tablet (some caller) addr event).Runs) :
    ∃ new, (w.callTablet caller choice addr handler).2.log = new ++ w.log ∧
      ∀ event ∈ new, ¬ event.Runs := by
  have absorbed : ∀ event ∈ ((handler (w.tablets addr)).events.map
      (Event.tablet caller addr)).reverse, ¬ event.Runs := by
    intro event present
    obtain ⟨done, listed, rfl⟩ := List.mem_map.mp (List.mem_reverse.mp present)
    exact silent done listed
  unfold callTablet
  cases choice.network with
  | answered | replyLost => exact ⟨_, rfl, absorbed⟩
  | lost failure => exact ⟨[], rfl, List.forall_mem_nil _⟩

theorem endReply_runs_nothing
    {e : Executor}
    {id : TxID}
    {verdict : Verdict}
    {outcome : TxStatus}
    {accept : Option String → β}
    {reply : Reply Executor β}
    (ended : TabletHandler.EndReply e id verdict outcome accept reply)
    (caller : Caller)
    (addr : String) :
    ∀ event ∈ reply.events, ¬ (Event.tablet (some caller) addr event).Runs := by
  cases ended with
  | ignored | unknown => exact List.forall_mem_nil _
  | ended nonzero tx active => exact List.forall_mem_singleton.mpr fun runs => runs

/-- Silent operations send and run nothing. -/
theorem log_of_silent
    (ext : Externals)
    (caller : Caller)
    (choice : Choice)
    (w : World)
    {op : GateOp}
    (silent : op.Silent) :
    ∃ new, (w.act ext caller op choice).2.log = new ++ w.log ∧ ∀ event ∈ new, ¬ event.Runs := by
  have one : ∀ {after : World} {event : Event}, after.log = event :: w.log → ¬ event.Runs →
      ∃ new, after.log = new ++ w.log ∧ ∀ event ∈ new, ¬ event.Runs :=
    fun logged nothing => ⟨[_], logged, List.forall_mem_singleton.mpr nothing⟩
  cases op with
  | create | shardCount | participatingShardsMap => exact one rfl id
  | setState session state =>
      simp only [act]
      split
      · exact one rfl id
      · exact ⟨[], rfl, List.forall_mem_nil _⟩
  | begin tc =>
      rw [act_begin]
      apply log_callTablet_of_silent
      have begun := TabletHandler.execute_begin caller choice.verdicts (w.tablets tc.target)
      generalize TabletHandler.execute caller choice.verdicts beginText TxID.zero
        (w.tablets tc.target) = reply at begun ⊢
      cases begun with
      | refused failure => exact List.forall_mem_nil _
      | begun verdict granted => exact List.forall_mem_singleton.mpr id
  | execute | prepare => exact False.elim silent
  | commit tc txID =>
      rw [act_commit]
      apply log_callTablet_of_silent
      exact endReply_runs_nothing (TabletHandler.commit_reply choice.verdicts txID _) _ _
  | rollback tc txID =>
      rw [act_rollback]
      apply log_callTablet_of_silent
      exact endReply_runs_nothing (TabletHandler.rollback_reply choice.verdicts txID _) _ _
  | _ => exact ⟨[], rfl, List.forall_mem_nil _⟩

/-- A text without transaction control. -/
def Plain (sql : SqlText) : Prop :=
  ∀ stmts, sql = .ok stmts → ∀ stmt ∈ stmts, Parser.isTxControl stmt = false

theorem plain_single
    {stmt : Statement}
    (plain : Parser.isTxControl stmt = false) :
    Plain (.ok [stmt]) := by
  intro stmts parsed other listed
  injection parsed with same
  rw [← same] at listed
  rw [List.mem_singleton.mp listed]
  exact plain

/-- The events of a tablet that runs a plain text. -/
structure Runs
    (e : Executor)
    (sql : SqlText)
    (txID : TxID)
    (reply : Reply Executor QueryResponse) : Prop where
  same : reply.state = e
  placed : ∀ event ∈ reply.events, ∃ stmt succeeded, event = .ran (e.place txID) stmt succeeded
  all : ∀ resp, reply.answer = .ok resp → ∃ stmts, sql = .ok stmts ∧
    ∀ stmt ∈ stmts, TabletEvent.ran (e.place txID) stmt true ∈ reply.events

variable {sql : SqlText}

/-- A plain text runs as far as it succeeds. -/
theorem runs_execute
    (plain : Plain sql)
    (owner : Caller)
    (verdicts : Nat → Verdict)
    (txID : TxID)
    (e : Executor) :
    Runs e sql txID (TabletHandler.execute owner verdicts sql txID e) := by
  cases sql with
  | error failure => exact ⟨rfl, List.forall_mem_nil _, fun _ answered => nomatch answered⟩
  | ok stmts =>
      have replies := TabletHandler.execute_plain owner verdicts txID e (plain stmts rfl)
      generalize TabletHandler.execute owner verdicts (.ok stmts) txID e = reply at replies ⊢
      cases replies with
      | done results ready counted =>
          refine ⟨rfl, ?_, ?_⟩
          · intro event present
            obtain ⟨stmt, _, rfl⟩ := List.mem_map.mp present
            exact ⟨stmt, true, rfl⟩
          · intro resp _
            exact ⟨stmts, rfl, fun stmt listed =>
              List.mem_map_of_mem (f := fun stmt => TabletEvent.ran (e.place txID) stmt true)
                listed⟩
      | stopped failure finished stmt tail events split ready last =>
          refine ⟨rfl, ?_, fun _ answered => nomatch answered⟩
          intro event present
          rcases List.mem_append.mp present with early | late
          · obtain ⟨stmt, _, rfl⟩ := List.mem_map.mp early
            exact ⟨stmt, true, rfl⟩
          · rcases last with none | one
            · rw [none] at late
              cases late
            · rw [one] at late
              exact ⟨stmt, false, List.mem_singleton.mp late⟩

/-- What an execution of a plain text adds to the log. -/
theorem log_execute
    (ext : Externals)
    (caller : Caller)
    (choice : Choice)
    (w : World)
    (tc : TabletClient)
    (txID : TxID)
    (plain : Plain sql) :
    ∃ events : List TabletEvent,
      (w.act ext caller (.execute tc sql txID) choice).2.log =
        (events.map (Event.tablet caller tc.target)).reverse ++
          .sent caller tc.target sql :: w.log ∧
      (∀ event ∈ events, ∃ stmt succeeded,
        event = .ran ((w.tablets tc.target).place txID) stmt succeeded) ∧
      ∀ resp, (w.act ext caller (.execute tc sql txID) choice).1 = .ok resp →
        ∃ stmts, sql = .ok stmts ∧ ∀ stmt ∈ stmts,
          TabletEvent.ran ((w.tablets tc.target).place txID) stmt true ∈ events := by
  have runs := runs_execute plain caller choice.verdicts txID (w.tablets tc.target)
  have answers : ∀ resp, (w.act ext caller (.execute tc sql txID) choice).1 = .ok resp →
      ∃ stmts, sql = .ok stmts ∧ ∀ stmt ∈ stmts,
        TabletEvent.ran ((w.tablets tc.target).place txID) stmt true ∈
          (TabletHandler.execute caller choice.verdicts sql txID (w.tablets tc.target)).events := by
    intro resp answered
    rw [act_execute] at answered
    exact runs.all resp (answered_of_callTablet (Prod.ext answered rfl)).1
  rw [act_execute] at answers ⊢
  unfold callTablet at answers ⊢
  cases network : choice.network with
  | lost failure =>
      exact ⟨[], rfl, List.forall_mem_nil _, fun _ answered => nomatch answered⟩
  | replyLost failure =>
      exact ⟨_, rfl, runs.placed, fun _ answered => nomatch answered⟩
  | answered =>
      rw [network] at answers
      exact ⟨_, rfl, runs.placed, answers⟩

section Own

variable {ext : Externals} {choice : Choice} {op : GateOp}

/-- Silent operations run nothing. -/
theorem RanInside.silent
    (ran : w.RanInside caller property)
    (silent : op.Silent) :
    (w.act ext caller op choice).2.RanInside caller property := by
  obtain ⟨new, logged, nothing⟩ := log_of_silent ext caller choice w silent
  exact ran.append logged fun event present _ => nothing event present

theorem RanAll.silent
    (ran : w.RanAll caller)
    (silent : op.Silent) :
    (w.act ext caller op choice).2.RanAll caller := by
  obtain ⟨new, logged, nothing⟩ := log_of_silent ext caller choice w silent
  exact ran.append logged fun event present _ => nothing event present

variable {tc : TabletClient} {sql : SqlText} {txID : TxID}

/-- A text runs in the transaction its id denotes. -/
theorem RanInside.execute
    (ran : w.RanInside caller property)
    (plain : Plain sql)
    (inside : txID.id ≠ 0)
    (holds : property tc.target ((w.tablets tc.target).tx.resolve txID)) :
    (w.act ext caller (.execute tc sql txID) choice).2.RanInside caller property := by
  obtain ⟨events, logged, placed, _⟩ := log_execute ext caller choice w tc txID plain
  intro addr place stmt succeeded present
  rw [logged] at present
  rcases List.mem_append.mp present with now | earlier
  · obtain ⟨event, listed, same⟩ := List.mem_map.mp (List.mem_reverse.mp now)
    obtain ⟨_, _, ran_eq⟩ := placed event listed
    rw [ran_eq, Executor.place, if_neg inside] at same
    injection same with _ addr_eq event_eq
    injection event_eq with place_eq
    exact ⟨_, place_eq.symm, by rw [← addr_eq]; exact holds⟩
  · rcases List.mem_cons.mp earlier with sent | old
    · cases sent
    · exact ran addr place stmt succeeded old

/-- A text that is answered has been run as a whole. -/
theorem RanAll.execute
    (ran : w.RanAll caller)
    (plain : Plain sql)
    {resp : QueryResponse}
    (answered : (w.act ext caller (.execute tc sql txID) choice).1 = .ok resp) :
    (w.act ext caller (.execute tc sql txID) choice).2.RanAll caller := by
  obtain ⟨events, logged, _, all⟩ := log_execute ext caller choice w tc txID plain
  intro addr sent present
  rw [logged] at present ⊢
  rcases List.mem_append.mp present with now | earlier
  · obtain ⟨event, _, same⟩ := List.mem_map.mp (List.mem_reverse.mp now)
    cases same
  · rcases List.mem_cons.mp earlier with here | old
    · injection here with _ addr_eq sql_eq
      obtain ⟨stmts, parsed, ranAll⟩ := all resp answered
      refine ⟨stmts, sql_eq.trans parsed, fun stmt listed =>
        ⟨(w.tablets tc.target).place txID, ?_⟩⟩
      apply List.mem_append_left
      rw [addr_eq]
      exact List.mem_reverse.mpr
        (List.mem_map_of_mem (f := Event.tablet (some caller) tc.target) (ranAll stmt listed))
    · obtain ⟨stmts, parsed, ranAll⟩ := ran addr sent old
      refine ⟨stmts, parsed, fun stmt listed => ?_⟩
      obtain ⟨place, there⟩ := ranAll stmt listed
      exact ⟨place, List.mem_append_right _ (List.mem_cons_of_mem _ there)⟩

/-- A commit that a tablet confirms has ended the transaction. -/
theorem committed_of_act
    {resp : CommitResponse}
    (stepped : w.act ext caller (.commit tc txID) choice = (.ok resp, after))
    (confirmed : resp.committed = true)
    (inside : txID.id ≠ 0) :
    after.Committed tc.target ((w.tablets tc.target).tx.resolve txID) ∧
      Event.tablet (some caller) tc.target
        (.ended ((w.tablets tc.target).tx.resolve txID) .committed) ∈ after.log := by
  rw [act_commit] at stepped
  obtain ⟨answered, rfl⟩ := answered_of_callTablet stepped
  have ended := TabletHandler.commit_reply choice.verdicts txID (w.tablets tc.target)
  unfold Committed absorb
  simp only [Function.update_self]
  generalize TabletHandler.commit choice.verdicts txID (w.tablets tc.target) = reply
    at answered ended ⊢
  cases ended with
  | ignored zero => exact absurd zero inside
  | unknown nonzero missing =>
      injection answered with same
      rw [← same] at confirmed
      cases confirmed
  | ended nonzero tx active =>
      injection answered with same
      rw [← same] at confirmed
      have taken : TxManager.commitOutcome (choice.verdicts 0) = .committed :=
        if_pos (Or.inl (Option.isNone_iff_eq_none.mp confirmed))
      rw [taken]
      exact ⟨(TxManager.committed_finish active .committed _).mpr (Or.inr ⟨rfl, rfl⟩),
        List.mem_cons_self⟩

end Own

end World

section Calls

variable {Request : Type} {pool : Pool gate Request Outcome World}

/-- Events belong to calls that have come in, and calls that have returned are over. -/
structure CallLog (pool : Pool gate Request Outcome World) : Prop where
  known : ∀ event ∈ pool.world.log, ∀ caller, event.caller = some caller →
    caller.call < pool.started
  past : ∀ caller outcome, Event.returned caller outcome ∈ pool.world.log →
    pool.calls caller.call = none

namespace CallLog

theorem initial
    {w : World}
    (silent : w.log = []) :
    CallLog (Pool.initial w : Pool gate Request Outcome World) where
  known := by
    intro event present
    rw [show (Pool.initial w : Pool gate Request Outcome World).world.log = [] from silent]
      at present
    cases present
  past := fun _ _ _ => rfl

section Calls

variable (calls : CallLog pool)
include calls

theorem not_over
    {number : Nat}
    {call : Call gate Request Outcome}
    (found : pool.calls number = some call)
    {past : Caller}
    {outcome : Outcome}
    (returned : Event.returned past outcome ∈ pool.world.log) : past.call ≠ number := by
  rintro rfl
  rw [calls.past past outcome returned] at found
  cases found

theorem enter (call : Call gate Request Outcome) : CallLog (pool.enter call) where
  known := fun event present caller own =>
    Nat.lt_succ_of_lt (calls.known event present caller own)
  past := by
    intro caller outcome returned
    have earlier := calls.known _ returned caller rfl
    simp only [Pool.enter, Function.update_of_ne (Nat.ne_of_lt earlier)]
    exact calls.past caller outcome returned

/-- A call without events so far. -/
theorem fresh
    {caller : Caller}
    (next : caller.call = pool.started) :
    ∀ event ∈ pool.world.log, event.caller ≠ some caller := by
  intro event present own
  have earlier := calls.known event present caller own
  rw [next] at earlier
  exact Nat.lt_irrefl _ earlier

section Step

variable {number : Nat} {caller : Caller} {call : Call gate Request Outcome}
variable {world : World} {new : List Event}

/-- A step of one call that logs its own events only. -/
theorem proceed
    (found : pool.calls number = some call)
    (running : number < pool.started)
    (numbered : caller.call = number)
    {replaced : Option (Call gate Request Outcome)}
    (logged : world.log = new ++ pool.world.log)
    (own : ∀ event ∈ new, event.caller = some caller)
    (ends : ∀ event ∈ new, event.Inner ∨ replaced = none) :
    CallLog (pool.proceed number running world replaced) where
  known := by
    intro event present other called
    rcases List.mem_append.mp (logged ▸ present) with now | earlier
    · rw [own event now] at called
      rw [← Option.some.inj called, numbered]
      exact running
    · exact calls.known event earlier other called
  past := by
    intro other outcome returned
    rcases List.mem_append.mp (logged ▸ returned) with now | earlier
    · obtain rfl : caller = other := Option.some.inj (own _ now).symm
      rcases ends _ now with inner | gone
      · exact inner.elim
      · simp only [Pool.proceed, gone, numbered]
        exact Function.update_self ..
    · simp only [Pool.proceed, Function.update_of_ne (calls.not_over found earlier)]
      exact calls.past other outcome earlier

/-- What the others rely on when a call takes a step. -/
theorem others
    (found : pool.calls number = some call)
    (numbered : caller.call = number)
    {other : Caller}
    (different : other.call ≠ number)
    (kept : pool.world.Keeps world)
    (epochs : ∀ addr, (world.tablets addr).tx.epoch = (pool.world.tablets addr).tx.epoch)
    (logged : world.log = new ++ pool.world.log)
    (own : ∀ event ∈ new, event.caller = some caller) :
    World.Others other pool.world world := by
  refine ⟨kept, epochs, new, logged, ?_⟩
  intro event present
  rw [own event present]
  refine ⟨fun same => ?_, fun past outcome returned same => ?_⟩
  · rw [← Option.some.inj same] at different
    exact different numbered
  · apply calls.not_over found returned
    rw [← Option.some.inj same]
    exact numbered

end Step

/-- What happens on its own belongs to no call. -/
theorem disturb (move : Move) : CallLog { pool with world := pool.world.disturb move } := by
  obtain ⟨new, logged, nobody⟩ := World.log_disturb move pool.world
  refine ⟨?_, ?_⟩
  · intro event present caller own
    rcases List.mem_append.mp (logged ▸ present) with now | earlier
    · rw [nobody event now] at own
      cases own
    · exact calls.known event earlier caller own
  · intro caller outcome returned
    rcases List.mem_append.mp (logged ▸ returned) with now | earlier
    · cases nobody _ now
    · exact calls.past caller outcome earlier

end Calls

end CallLog

end Calls

/-- A call returns a success. -/
def Event.acknowledges (caller : Caller) : Event → Bool
  | .returned past (.ok _) => past = caller
  | _ => false

theorem returned_of_any
    {events : List Event}
    {caller : Caller}
    (found : events.any (Event.acknowledges caller) = true) :
    ∃ resp, Event.returned caller (.ok resp) ∈ events := by
  obtain ⟨event, present, acknowledges⟩ := List.any_eq_true.mp found
  unfold Event.acknowledges at acknowledges
  split at acknowledges
  · rename_i past resp
    rw [of_decide_eq_true acknowledges] at present
    exact ⟨resp, present⟩
  · cases acknowledges

variable {move : Move}

theorem epochs_disturb
    (running : ∀ addr, move ≠ .restart addr)
    (w : World)
    (addr : String) :
    ((w.disturb move).tablets addr).tx.epoch = (w.tablets addr).tx.epoch := by
  cases move with
  | reap target victim =>
      by_cases same : addr = target
      · subst same
        simp only [World.disturb, World.absorb, Function.update_self]
        exact TxManager.epoch_terminate _ _ _ _
      · simp only [World.disturb, World.absorb, Function.update_of_ne same]
  | restart target => exact absurd rfl (running target)
  | sync | reapSession => rfl

/-- Moves other than restarts are those of others. -/
theorem others_disturb
    (running : ∀ addr, move ≠ .restart addr)
    (caller : Caller)
    (w : World) : World.Others caller w (w.disturb move) := by
  obtain ⟨new, logged, nobody⟩ := World.log_disturb move w
  refine ⟨World.kept_disturb move w, epochs_disturb running w, new, logged, ?_⟩
  intro event present
  rw [nobody event present]
  exact ⟨nofun, fun _ _ _ => nofun⟩

end VScale
