import VScale.Gate.AccountedRequests
import VScale.Gate.Separation

/-!
# A reported commit is complete

Requests of one session that do not overlap keep the accounts of all sessions,
so a commit that succeeds is complete in every run of the gate.
-/

namespace VScale

open Collections Effects

/-- No two calls in progress work on the same session. -/
def Separate (ext : Externals) (pool : GatePool) : Prop :=
  ∀ number other call rival, number ≠ other →
    pool.calls number = some call → pool.calls other = some rival →
    ∀ session, pool.world.WorksOn ((gateService ext).caller number call.request) session →
      ¬ pool.world.WorksOn ((gateService ext).caller other rival.request) session

/-- Requests have one statement, those of one session do not overlap, and no
tablet restarts. -/
structure TakesTurns
    (ext : Externals)
    (pool : GatePool)
    (label : GateLabel)
    (later : GatePool) :
    Prop where
  separate : Separate ext later
  single : ∀ req, label = .invoke req → req.Single
  running : ∀ addr, label ≠ .move (.restart addr)

/-- The accounts of all sessions, whose calls do not overlap. -/
structure Ledger (ext : Externals) (pool : GatePool) : Prop where
  accounts : pool.world.Accounts
  separate : Separate ext pool
  calls : CallLog pool

/-- All calls of the gate keep the accounts. -/
def accountsDiscipline (ext : Externals) : Discipline (gateService ext) where
  invariant := Ledger ext
  contract := fun number req => accounting ((gateService ext).caller number req)
  steps := fun number req => StepsAccounted ext ((gateService ext).caller number req)
  post := fun number req outcome w => ∀ session,
    ((gateService ext).caller number req).session = some session →
      OnSuccess (Served req ((gateService ext).caller number req) session) outcome w

section Discipline

variable {ext : Externals}

theorem unchanged_disturb
    (move : Move)
    (session : Int)
    (w : World) :
    World.Unchanged session w (w.disturb move) := by
  obtain ⟨new, logged, nobody⟩ := World.log_disturb move w
  refine ⟨congrFun (sessions_disturb move w) session, World.acknowledged_append logged ?_⟩
  intro event present
  have own := nobody event present
  cases event with
  | begun | returned => cases own
  | _ => exact ⟨rfl, fun _ _ returned => nomatch returned⟩

variable {w : World} {outcome : Outcome} {past caller : Caller} {session : Int}

/-- What is not a restart keeps the accounts. -/
theorem accounts_disturb
    {move : Move}
    (running : ∀ addr, move ≠ .restart addr)
    (accounts : w.Accounts) : (w.disturb move).Accounts := by
  refine ⟨targetsOwn_disturb move accounts.own, ?_, ?_⟩
  · intro session
    rw [sessions_disturb]
    refine (accounts.numbered session).imp ?_
    intro addr id proper
    rw [epochs_disturb running]
    exact proper
  · intro session caller state acknowledged
    have same := unchanged_disturb move session w
    have others := others_disturb running caller w
    rw [same.same] at state
    obtain ⟨inside, all⟩ := accounts.backed session caller state
      ((same.acknowledged caller).mp acknowledged)
    refine ⟨(others.ranInside inside).mono ?_, others.ranAll all⟩
    intro addr id recorded
    rw [World.Recorded, same.same]
    exact recorded

theorem acknowledged_returned
    (acknowledged : (w.addEvent (.returned past outcome)).Acknowledged session caller) :
    w.Acknowledged session caller ∨
      caller = past ∧ past.session = some session ∧ ∃ resp, outcome = .ok resp := by
  obtain ⟨own, resp, present⟩ := acknowledged
  have since : (w.addEvent (.returned past outcome)).sinceBegin session =
      .returned past outcome :: w.sinceBegin session :=
    List.takeWhile_cons_of_pos rfl
  rw [since] at present
  rcases List.mem_cons.mp present with now | earlier
  · injection now with same succeeded
    rw [same] at own
    exact Or.inr ⟨same, own, resp, succeeded.symm⟩
  · exact Or.inl ⟨own, resp, earlier⟩

theorem backed_returned
    (backed : w.Backed session caller)
    (past : Caller)
    (outcome : Outcome) :
    (w.addEvent (.returned past outcome)).Backed session caller := by
  have logged : (w.addEvent (.returned past outcome)).log = [.returned past outcome] ++ w.log := rfl
  have foreign := World.runsNothing_returned past outcome caller
  exact ⟨backed.1.append logged foreign, backed.2.append logged foreign⟩

/-- The return of a served call keeps the accounts. -/
theorem accounts_returned
    (accounts : w.Accounts)
    {req : QueryRequest}
    (served : ∀ session, past.session = some session →
      OnSuccess (Served req past session) outcome w) :
    (w.addEvent (.returned past outcome)).Accounts := by
  refine ⟨accounts.own, accounts.numbered, ?_⟩
  intro session caller state acknowledged
  apply backed_returned
  rcases acknowledged_returned acknowledged with earlier | ⟨rfl, own, resp, succeeded⟩
  · exact accounts.backed session caller state earlier
  · exact (served session own resp succeeded).backed state

/-- Calls of one session that do not overlap keep the accounts. -/
theorem accountsDiscipline_sound (ext : Externals) :
    (accountsDiscipline ext).Sound (TakesTurns ext) where
  invoked := by
    intro pool req turns ledger
    exact ⟨⟨ledger.accounts, turns.separate, ledger.calls.enter _⟩,
      served_gateway (turns.single req rfl) _ (World.ran_of_fresh (ledger.calls.fresh rfl))⟩
  stepped := by
    intro pool number choice later req op next _ found ledger
    refine ⟨ledger.accounts, fun outcome returned => ?_, choice, rfl⟩
    exact ledger.calls.not_over found returned rfl
  shared := by
    intro pool number choice req op next found turns ledger serving
    obtain ⟨new, logged, own⟩ := World.Serving.logged serving
    have ofCall : ∀ event ∈ new,
        event.caller = some ((gateService ext).caller number req) :=
      fun event present => (own event present).1
    refine ⟨⟨serving.accounts, turns.separate, ledger.calls.proceed found _ rfl logged ofCall
      fun event present => Or.inl (own event present).2⟩, ?_⟩
    intro other rival different running
    refine ⟨ledger.calls.others found rfl different serving.kept serving.epochs logged ofCall,
      fun session theirs => serving.others session fun works => ?_⟩
    exact turns.separate other number rival _ different
      ((Function.update_of_ne different _ _).trans running) (Function.update_self ..) session
      (Or.inl theirs) works
  finished := by
    intro pool number req value found turns ledger served
    have logged : (pool.world.addEvent
        (.returned ((gateService ext).caller number req) value)).log =
        [Event.returned ((gateService ext).caller number req) value] ++ pool.world.log := rfl
    have ofCall : ∀ event ∈ [Event.returned ((gateService ext).caller number req) value],
        event.caller = some ((gateService ext).caller number req) :=
      List.forall_mem_singleton.mpr rfl
    refine ⟨⟨accounts_returned ledger.accounts served, turns.separate,
      ledger.calls.proceed found _ rfl logged ofCall fun _ _ => Or.inr rfl⟩, ?_⟩
    intro other rival different running
    refine ⟨ledger.calls.others found rfl different
      (fun addr => TxManager.Later.refl _) (fun _ => rfl) logged ofCall, ?_⟩
    intro session theirs
    refine ⟨rfl, World.acknowledged_append logged (List.forall_mem_singleton.mpr ⟨rfl, ?_⟩)⟩
    intro past outcome returned own
    injection returned with same
    rw [← same] at own
    exact ledger.separate other number rival _ different running found session
      (Or.inl theirs) (Or.inl own)
  moved := by
    intro pool move turns ledger
    have running : ∀ addr, move ≠ .restart addr :=
      fun addr same => turns.running addr (congrArg Label.move same)
    refine ⟨⟨accounts_disturb running ledger.accounts, turns.separate,
      ledger.calls.disturb move⟩, ?_⟩
    intro number call _
    exact ⟨others_disturb running _ pool.world,
      fun session _ => unchanged_disturb move session pool.world⟩

end Discipline

variable {w : World} {caller : Caller} {session : Int} {pool : GatePool}

theorem World.Unused.accounts (unused : w.Unused) : w.Accounts where
  own := unused.own
  numbered := by
    intro session
    rw [unused.participants session]
    exact Map.all_empty
  backed := by
    intro session caller _ acknowledged
    obtain ⟨resp, returned⟩ := acknowledged.returned
    rw [unused.log] at returned
    cases returned

/-- When a commit is about to report success, everything its session has
acknowledged since its begin was run inside transactions that are committed. -/
theorem reported_commit_complete
    (ext : Externals)
    {w : World}
    (unused : w.Unused)
    {pool : GatePool}
    (reaches : (gateService ext).Reaches (TakesTurns ext) (Pool.initial w) pool)
    {number : Nat}
    {stmt : Tree.Statement}
    {session : Int}
    {resp : QueryResponse}
    (commits : Parser.isCommit stmt = true)
    (inside : session ≠ 0)
    (returns : pool.calls number = some ⟨⟨.ok [stmt], session⟩, .pure (.ok resp)⟩) :
    (pool.world.sessions session).state = .committed ∧
      (pool.world.sessions session).shardTxIDs = ∅ ∧
      ∀ caller, pool.world.Acknowledged session caller →
        pool.world.RanInside caller pool.world.Committed ∧ pool.world.RanAll caller := by
  have start : Ledger ext (Pool.initial w) :=
    ⟨unused.accounts, fun _ _ _ _ _ found => (nomatch found), CallLog.initial unused.log⟩
  have governs := Discipline.governs_of_reaches (accountsDiscipline_sound ext) start reaches
  have own : ((gateService ext).caller number ⟨.ok [stmt], session⟩).session = some session :=
    if_neg inside
  obtain ⟨settled, empty⟩ :=
    (governs.post returns session own resp rfl).committed ⟨stmt, rfl, commits⟩
  exact ⟨settled.state, empty, settled.complete⟩

/-- The session an event creates for a call. -/
def Event.creation (caller : Caller) : Event → Option Int
  | .created other session => if other = caller then some session else none
  | _ => none

/-- The sessions a call works on. -/
def World.sessionsOf (w : World) (caller : Caller) : List Int :=
  caller.session.toList ++ w.log.filterMap (Event.creation caller)

/-- The sessions of a call are those it works on. -/
theorem mem_sessionsOf : session ∈ w.sessionsOf caller ↔ w.WorksOn caller session := by
  have creates : ∀ event : Event, event.creation caller = some session ↔
      event = .created caller session := by
    intro event
    cases event with
    | created other made =>
        simp only [Event.creation, Option.ite_none_right_eq_some, Option.some.injEq,
          Event.created.injEq]
    | _ => exact ⟨nofun, nofun⟩
  simp only [World.sessionsOf, World.WorksOn, List.mem_append, Option.mem_toList,
    List.mem_filterMap, creates, exists_eq_right]

/-- The sessions a numbered call works on while it is in progress. -/
def sessionsAt (ext : Externals) (pool : GatePool) (number : Nat) : List Int :=
  match pool.calls number with
  | none => []
  | some call => pool.world.sessionsOf ((gateService ext).caller number call.request)

variable {ext : Externals}

theorem mem_sessionsAt {number : Nat} :
    session ∈ sessionsAt ext pool number ↔ ∃ call, pool.calls number = some call ∧
      pool.world.WorksOn ((gateService ext).caller number call.request) session := by
  unfold sessionsAt
  cases pool.calls number with
  | none => simp
  | some call => simp [mem_sessionsOf]

theorem separate_iff : (∀ number < pool.started, ∀ other < pool.started,
      ∀ session ∈ sessionsAt ext pool number,
        session ∈ sessionsAt ext pool other → number = other) ↔
      Separate ext pool := by
  simp only [mem_sessionsAt]
  constructor
  · intro bounded number other call rival different found there session works clash
    exact different (bounded number (Pool.lt_of_found found) other (Pool.lt_of_found there)
      session ⟨call, found, works⟩ ⟨rival, there, clash⟩)
  · rintro separate number _ other _ session ⟨call, found, works⟩ ⟨rival, there, clash⟩
    by_contra different
    exact separate number other call rival different found there session works clash

instance (ext : Externals) (pool : GatePool) : Decidable (Separate ext pool) :=
  decidable_of_iff _ separate_iff

instance (req : QueryRequest) : Decidable req.Single :=
  decidable_of_iff (∀ stmts ∈ req.sql.toOption, stmts.length ≤ 1) (by
    unfold QueryRequest.Single
    cases req.sql with
    | error failure => exact ⟨fun _ _ => nofun, fun _ _ => nofun⟩
    | ok stmts =>
        refine ⟨fun all other same => all other ?_, fun all other same => all other ?_⟩
        · rw [Except.ok.inj same]
          rfl
        · rw [Option.some.inj same])

instance (ext : Externals) (pool : GatePool) (label : GateLabel) (later : GatePool) :
    Decidable (TakesTurns ext pool label later) :=
  match label with
  | .invoke req => decidable_of_iff (Separate ext later ∧ req.Single)
      ⟨fun ⟨separate, single⟩ => ⟨separate, fun _ same => Label.invoke.inj same ▸ single, nofun⟩,
        fun turns => ⟨turns.separate, turns.single req rfl⟩⟩
  | .move (.restart addr) => isFalse fun turns => turns.running addr rfl
  | .move (.reap _ _) | .move (.sync _ _ _) | .move (.reapSession _)
  | .advance _ _ | .finish _ => decidable_of_iff (Separate ext later)
      ⟨fun separate => ⟨separate, nofun, nofun⟩, fun turns => turns.separate⟩

/-- The statement and the session of a call that is about to succeed. -/
def succeeding : Option (Call gate QueryRequest Outcome) → Option (Tree.Statement × Int)
  | some ⟨⟨.ok [stmt], session⟩, .pure (.ok _)⟩ => some (stmt, session)
  | _ => none

theorem call_of_succeeding
    {call : Option (Call gate QueryRequest Outcome)}
    {stmt : Tree.Statement}
    (succeeds : succeeding call = some (stmt, session)) :
    ∃ resp, call = some ⟨⟨.ok [stmt], session⟩, .pure (.ok resp)⟩ := by
  unfold succeeding at succeeds
  split at succeeds
  · rename_i found there resp
    obtain ⟨rfl, rfl⟩ := Prod.mk.inj (Option.some.inj succeeds)
    exact ⟨resp, rfl⟩
  · cases succeeds

/-- A session inserts a user and commits. -/
def insertAndCommit : List GateLabel :=
  insertInSession ++ .invoke ⟨.ok [commitStatement], 1⟩ :: List.replicate 8 (.advance 2 {})

/-- An INSERT and its COMMIT on two shards. -/
theorem insert_and_commit_complete :
    ∃ pool stmt resp,
      (gateService integralExternals).runs (TakesTurns integralExternals) insertAndCommit
          (Pool.initial twoShardWorld) = some pool ∧
        pool.calls 2 = some ⟨⟨.ok [stmt], 1⟩, .pure (.ok resp)⟩ ∧
        pool.world.Acknowledged 1 ⟨1, some 1⟩ ∧
        (pool.world.sessions 1).state = .committed ∧
        pool.world.RanInside ⟨1, some 1⟩ pool.world.Committed ∧
        pool.world.RanAll ⟨1, some 1⟩ := by
  have ran : ((gateService integralExternals).runs (TakesTurns integralExternals) insertAndCommit
      (Pool.initial twoShardWorld)).map
        (fun pool => ((succeeding (pool.calls 2)).map fun call => (Parser.isCommit call.1, call.2),
          (pool.world.sinceBegin 1).any (Event.acknowledges ⟨1, some 1⟩))) =
      some (some (true, 1), true) := by decide
  obtain ⟨pool, reached, found⟩ := Option.map_eq_some_iff.mp ran
  obtain ⟨succeeds, any⟩ := Prod.mk.inj found
  obtain ⟨⟨stmt, session⟩, known, same⟩ := Option.map_eq_some_iff.mp succeeds
  obtain ⟨commits, rfl⟩ := Prod.mk.inj same
  obtain ⟨resp, returns⟩ := call_of_succeeding known
  have acknowledged : pool.world.Acknowledged 1 ⟨1, some 1⟩ := ⟨rfl, returned_of_any any⟩
  obtain ⟨state, _, complete⟩ := reported_commit_complete integralExternals twoShardWorld_unused
    (Service.reaches_of_runs _ .start reached) commits (by decide) returns
  exact ⟨pool, stmt, resp, reached, returns, acknowledged, state,
    complete ⟨1, some 1⟩ acknowledged⟩

end VScale
