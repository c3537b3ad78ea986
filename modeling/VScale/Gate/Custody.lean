import VScale.Gate.LiveParticipants

/-!
# Who keeps the record of an open transaction

A session that the manager finds keeps the only record of the transactions begun
for it on the tablets.  An operation may end transactions, and it may begin one
for its caller; as long as calls to tablets are answered and no text begins
transactions of its own, nothing else opens one.

What a call relies on is that others leave the participants of its session alone
and begin nothing in its name.
-/

namespace VScale

open Collections Effects Tree

/-! ### What a tablet opens -/

/-- No statement of a text begins a transaction. -/
def BeginsNone (sql : SqlText) : Prop :=
  match sql with
  | .error _ => True
  | .ok stmts => ∀ stmt ∈ stmts, Parser.isBegin stmt = false

instance : ∀ sql, Decidable (BeginsNone sql)
  | .error _ => .isTrue trivial
  | .ok stmts => inferInstanceAs (Decidable (∀ stmt ∈ stmts, Parser.isBegin stmt = false))

/-- No transaction is added. -/
def TxManager.AddsNone (before after : TxManager) : Prop :=
  ∀ id, before.txns id = none → after.txns id = none

namespace Executor

variable {e : Executor} {txID : TxID}

theorem addsNone_terminate
    (verdict : Verdict)
    (outcome : TxStatus) :
    TxManager.AddsNone e.tx (e.tx.terminate verdict outcome txID).state := by
  intro id unknown
  unfold TxManager.terminate
  cases e.tx.get txID with
  | none => exact unknown
  | some tx =>
      by_cases same : id = e.tx.resolve txID
      · subst same
        simp only [TxManager.finish, Function.update_self, unknown, Option.map_none]
      · exact (Function.update_of_ne same _ _).trans unknown

/-- Only a BEGIN adds a transaction. -/
theorem addsNone_executeStatement
    (owner : Caller)
    (verdict : Verdict)
    {stmt : Statement}
    (begins : Parser.isBegin stmt = false) :
    TxManager.AddsNone e.tx (e.executeStatement owner verdict txID stmt).state.tx := by
  unfold executeStatement
  rw [if_neg (by rw [begins]; exact Bool.false_ne_true)]
  split
  · exact addsNone_terminate verdict _
  · split
    · exact addsNone_terminate verdict _
    · have plain := plainReply_executePlain verdict e txID stmt
      generalize e.executePlain verdict txID stmt = reply at plain
      cases plain with
      | refused | failed | done => exact fun _ unknown => unknown

theorem addsNone_executeStatements
    (owner : Caller)
    (verdicts : Nat → Verdict)
    {stmts : List Statement}
    (begins : ∀ stmt ∈ stmts, Parser.isBegin stmt = false) :
    TxManager.AddsNone e.tx (executeStatements owner verdicts e txID stmts).state.tx := by
  induction stmts generalizing verdicts e txID with
  | nil => exact fun _ unknown => unknown
  | cons stmt stmts ih =>
      obtain ⟨here, there⟩ := List.forall_mem_cons.mp begins
      have first : TxManager.AddsNone e.tx
          (e.executeStatement owner (verdicts 0) txID stmt).state.tx :=
        addsNone_executeStatement owner (verdicts 0) here
      rw [executeStatements]
      cases answer : (e.executeStatement owner (verdicts 0) txID stmt).answer with
      | error failure => exact first
      | ok value =>
          intro id unknown
          exact ih (fun index => verdicts (index + 1)) there id (first id unknown)

end Executor

theorem TabletHandler.addsNone_execute
    (owner : Caller)
    (verdicts : Nat → Verdict)
    {sql : SqlText}
    (begins : BeginsNone sql)
    (txID : TxID)
    (e : Executor) :
    TxManager.AddsNone e.tx (execute owner verdicts sql txID e).state.tx := by
  cases sql with
  | error failure => exact fun _ unknown => unknown
  | ok stmts => exact Executor.addsNone_executeStatements owner verdicts begins

theorem TabletHandler.addsNone_endReply
    {e : Executor}
    {id : TxID}
    {verdict : Verdict}
    {outcome : TxStatus}
    {accept : Option String → β}
    {reply : Reply Executor β}
    (ended : EndReply e id verdict outcome accept reply) :
    TxManager.AddsNone e.tx reply.state.tx := by
  cases ended with
  | ignored | unknown => exact fun _ unknown => unknown
  | ended nonzero tx active =>
      intro other unknown
      by_cases same : other = e.tx.resolve id
      · subst same
        simp only [TxManager.finish, Function.update_self, unknown, Option.map_none]
      · exact (Function.update_of_ne same _ _).trans unknown

namespace World

/-- A transaction of a tablet is over. -/
def EndedAt (w : World) (addr : String) (id : TxID) : Prop :=
  ∃ tx, (w.tablets addr).tx.txns id = some tx ∧ tx.status ≠ .active

/-- A transaction that a call has begun is open. -/
def OpenBy (w : World) (call : Nat) (addr : String) (id : TxID) : Prop :=
  ∃ tx, (w.tablets addr).tx.txns id = some tx ∧ tx.status = .active ∧ tx.owner.call = call

/-- A session that the manager finds records a transaction. -/
def Holds (w : World) (session : Int) (addr : String) (id : TxID) : Prop :=
  w.present session = true ∧ w.Recorded session addr id

section States

variable {w before after : World} {addr : String} {id : TxID} {call : Nat}

theorem OpenBy.openAt (opened : w.OpenBy call addr id) : w.OpenAt addr id := by
  obtain ⟨tx, found, active, _⟩ := opened
  exact ⟨tx, found, active⟩

theorem EndedAt.not_openAt (ended : w.EndedAt addr id) : ¬ w.OpenAt addr id := by
  obtain ⟨tx, found, past⟩ := ended
  rintro ⟨other, known, active⟩
  rw [found] at known
  injection known with same
  rw [same] at past
  exact past active

/-- What is known and not open has ended. -/
theorem endedAt_of_known
    (known : (w.tablets addr).tx.txns id ≠ none)
    (closed : ¬ w.OpenAt addr id) : w.EndedAt addr id := by
  obtain ⟨tx, found⟩ := Option.ne_none_iff_exists'.mp known
  exact ⟨tx, found, fun active => closed ⟨tx, found, active⟩⟩

theorem Keeps.known
    (keeps : Keeps before after)
    (known : (before.tablets addr).tx.txns id ≠ none) :
    (after.tablets addr).tx.txns id ≠ none := by
  obtain ⟨tx, found⟩ := Option.ne_none_iff_exists'.mp known
  obtain ⟨later, still, _⟩ := (keeps addr).kept id tx found
  rw [still]
  exact Option.some_ne_none later

/-- What has ended stays ended. -/
theorem Keeps.endedAt
    (keeps : Keeps before after)
    (ended : before.EndedAt addr id) :
    after.EndedAt addr id := by
  obtain ⟨tx, found, past⟩ := ended
  obtain ⟨later, still, _, same⟩ := (keeps addr).kept id tx found
  rw [same past] at still
  exact ⟨tx, still, past⟩

/-- What is open and was known was open before, for the same owner. -/
theorem Keeps.openAt
    (keeps : Keeps before after)
    (known : (before.tablets addr).tx.txns id ≠ none)
    (opened : after.OpenAt addr id) : before.OpenAt addr id := by
  by_contra closed
  exact (keeps.endedAt (endedAt_of_known known closed)).not_openAt opened

theorem Keeps.openBy
    (keeps : Keeps before after)
    (earlier : before.OpenAt addr id)
    (opened : after.OpenBy call addr id) : before.OpenBy call addr id := by
  obtain ⟨tx, found, active⟩ := earlier
  obtain ⟨later, still, owner, _⟩ := (keeps addr).kept id tx found
  obtain ⟨other, known, _, begun⟩ := opened
  rw [still] at known
  injection known with same
  rw [← same, owner] at begun
  exact ⟨tx, found, active, begun⟩

end States

/-! ### What an operation opens -/

/-- Clients are found, and texts begin no transactions. -/
def Careful (w : World) : GateOp → Prop
  | .getClient addr => w.router.getClient addr ≠ none
  | .execute _ sql _ => BeginsNone sql
  | _ => True

instance (w : World) : ∀ op, Decidable (w.Careful op)
  | .getClient _ => inferInstanceAs (Decidable (_ ≠ none))
  | .execute _ sql _ => inferInstanceAs (Decidable (BeginsNone sql))
  | .create | .get _ | .getState _ | .setState _ _ | .shardCount _ | .isParticipating _ _
  | .participatingShardsMap _ | .clearParticipants _ | .setLocalTxID _ _ _ | .getLocalTxID _ _
  | .route _ _ | .begin _ | .prepare _ _ | .commit _ _ | .rollback _ _ => .isTrue trivial

end World

/-- The answer says that a transaction was begun. -/
inductive GateOp.Begins : (op : GateOp) → op.Answer → String → TxID → Prop
  | begun (tc : TabletClient) (resp : QueryResponse) :
      Begins (.begin tc) (.ok resp) tc.target resp.transactionId

namespace World

variable {ext : Externals} {caller : Caller} {w : World} {choice : Choice}

variable {addr : String} {id : TxID} {op : GateOp}

/-- A handler that adds none opens none. -/
theorem openAt_callTablet
    {target : String}
    {handler : Executor → Reply Executor α}
    (adds : TxManager.AddsNone (w.tablets target).tx (handler (w.tablets target)).state.tx)
    (keeps : w.Keeps (w.callTablet caller choice target handler).2)
    (opened : (w.callTablet caller choice target handler).2.OpenAt addr id) :
    w.OpenAt addr id := by
  refine keeps.openAt ?_ opened
  intro unknown
  obtain ⟨tx, found, _⟩ := opened
  rw [callTablet_tablets] at found
  split at found
  · by_cases same : addr = target
    · subst same
      rw [Function.update_self, adds id unknown] at found
      cases found
    · rw [Function.update_of_ne same, unknown] at found
      cases found
  · rw [unknown] at found
    cases found

/-- Only a begin opens a transaction. -/
theorem openAt_act
    (careful : w.Careful op)
    (answered : choice.network = .answered)
    (opened : (w.act ext caller op choice).2.OpenAt addr id) :
    w.OpenAt addr id ∨ op.Begins (w.act ext caller op choice).1 addr id := by
  have keeps : w.Keeps (w.act ext caller op choice).2 :=
    (evolves_act ext caller op choice w).kept
  cases op with
  | setState session state =>
      simp only [act] at opened
      split at opened
      · exact Or.inl opened
      · exact Or.inl opened
  | begin tc =>
      by_cases known : (w.tablets addr).tx.txns id = none
      · have begun := TabletHandler.execute_begin caller choice.verdicts (w.tablets tc.target)
        obtain ⟨tx, found, _⟩ := opened
        rw [act_begin] at found ⊢
        simp only [callTablet, answered, absorb] at found ⊢
        generalize TabletHandler.execute caller choice.verdicts beginText TxID.zero
          (w.tablets tc.target) = reply at begun found
        by_cases same : addr = tc.target
        · subst same
          rw [Function.update_self] at found
          cases begun with
          | refused failure =>
              rw [known] at found
              cases found
          | begun verdict granted =>
              simp only [TxManager.begin, granted] at found
              by_cases new : id = ⟨(w.tablets tc.target).tx.nextID + 1,
                  (w.tablets tc.target).tx.epoch⟩
              · subst new
                exact Or.inr (.begun tc _)
              · rw [Function.update_of_ne new, known] at found
                cases found
        · rw [Function.update_of_ne same, known] at found
          cases found
      · exact Or.inl (keeps.openAt known opened)
  | execute tc sql txID =>
      rw [act_execute] at opened keeps
      have earlier : (w.addEvent (.sent caller tc.target sql)).OpenAt addr id :=
        openAt_callTablet (TabletHandler.addsNone_execute caller choice.verdicts careful txID _)
          keeps opened
      exact Or.inl earlier
  | prepare tc txID =>
      rw [act_prepare] at opened keeps
      refine Or.inl (openAt_callTablet ?_ keeps opened)
      rw [TabletHandler.state_prepareReply (TabletHandler.prepare_reply choice.verdicts txID _)]
      exact fun _ unknown => unknown
  | commit tc txID =>
      rw [act_commit] at opened keeps
      exact Or.inl (openAt_callTablet
        (TabletHandler.addsNone_endReply (TabletHandler.commit_reply choice.verdicts txID _))
        keeps opened)
  | rollback tc txID =>
      rw [act_rollback] at opened keeps
      exact Or.inl (openAt_callTablet
        (TabletHandler.addsNone_endReply (TabletHandler.rollback_reply choice.verdicts txID _))
        keeps opened)
  | _ => exact Or.inl opened

/-- What a begin is answered with is open for its caller. -/
theorem openBy_of_begins
    {answer : op.Answer}
    {after : World}
    (stepped : w.act ext caller op choice = (answer, after))
    (begins : op.Begins answer addr id) : after.OpenBy caller.call addr id := by
  cases begins with
  | begun tc resp =>
      obtain ⟨found, _⟩ := begun_of_act stepped
      exact ⟨_, found, rfl, rfl⟩

/-! ### Worlds in order -/

/-- Recorded ids were issued, open transactions belong to running processes, what a
session outside a transaction records is over, and sessions are numbered from one. -/
structure InOrder (w : World) : Prop where
  own : w.router.TargetsOwn
  issued : ∀ session addr id, w.Recorded session addr id → (w.tablets addr).tx.txns id ≠ none
  current : ∀ addr id, w.OpenAt addr id → id.epoch = (w.tablets addr).tx.epoch
  settled : ∀ session addr id, (w.sessions session).state ≠ .inTransaction →
    w.Recorded session addr id → ¬ w.OpenAt addr id
  numbered : ∀ session, w.present session = true → 0 < session ∧ session ≤ w.nextID
  counted : 0 ≤ w.nextID

/-- The manager still finds a session with the same participants, and nobody has ended
its transaction. -/
structure SessionKept (session : Int) (before after : World) : Prop where
  present : after.present session = true
  participants : (after.sessions session).shardTxIDs = (before.sessions session).shardTxIDs
  state : (after.sessions session).state = (before.sessions session).state ∨
    (after.sessions session).state = .inTransaction

/-- What a step of a call that acts for a session leaves to the others, and what it
does with the records of its own session. -/
structure Honours (session : Int) (call : Nat) (before after : World) : Prop where
  inOrder : after.InOrder
  kept : before.Keeps after
  found : ∀ other, before.present other = true → after.present other = true
  others : ∀ other, other ≠ session → before.present other = true →
    SessionKept other before after
  opened : ∀ addr id, after.OpenAt addr id → before.OpenAt addr id ∨ after.OpenBy call addr id
  held : ∀ addr id, before.Holds session addr id → after.OpenAt addr id →
    after.Holds session addr id
  recorded : ∀ other addr id, after.Recorded other addr id →
    before.Recorded other addr id ∨ before.present other = true

/-- Everything a call has open is recorded in its session. -/
def Entrusts (w : World) (call : Nat) (session : Int) : Prop :=
  ∀ addr id, w.OpenBy call addr id → session ≠ 0 ∧ w.Holds session addr id

/-- A call has nothing open. -/
def Free (w : World) (call : Nat) : Prop :=
  ∀ addr id, ¬ w.OpenBy call addr id

/-- Everything a session records is over. -/
structure Closed (w : World) (session : Int) : Prop where
  present : w.present session = true
  ended : ∀ addr id, w.Recorded session addr id → w.EndedAt addr id

end World

/-- A call that acts for a session relies on its participants being left alone, and on
nobody beginning transactions in its name. -/
def custody (session : Int) (call : Nat) : Contract World where
  rely := fun before after =>
    before.Keeps after ∧
      (before.present session = true → World.SessionKept session before after) ∧
      ∀ addr id, after.OpenBy call addr id → before.OpenBy call addr id
  guarantee := World.Honours session call
  rely_refl := fun w =>
    ⟨fun _ => TxManager.Later.refl _, fun present => ⟨present, rfl, Or.inl rfl⟩,
      fun _ _ opened => opened⟩
  rely_trans := by
    rintro first second third ⟨keeps, session, opened⟩ ⟨laterKeeps, laterSession, laterOpened⟩
    refine ⟨fun addr => (keeps addr).trans (laterKeeps addr), ?_, fun addr id now =>
      opened addr id (laterOpened addr id now)⟩
    intro present
    have one := session present
    have two := laterSession one.present
    refine ⟨two.present, two.participants.trans one.participants, ?_⟩
    rcases two.state with same | inside
    · rw [same]
      exact one.state
    · exact Or.inr inside

section Custody

variable {session : Int} {call : Nat} {w before after : World} {addr : String} {id : TxID}

theorem custody_recorded
    (reached : (custody session call).rely before after)
    (present : before.present session = true) :
    after.Recorded session addr id ↔ before.Recorded session addr id := by
  rw [World.Recorded, (reached.2.1 present).participants]
  exact Iff.rfl

/-- Others leave what a session holds. -/
theorem custody_holds
    (reached : (custody session call).rely before after)
    (holds : before.Holds session addr id) : after.Holds session addr id :=
  ⟨(reached.2.1 holds.1).present, (custody_recorded reached holds.1).mpr holds.2⟩

/-- Others leave what a call has entrusted. -/
theorem World.Entrusts.rely
    (entrusts : before.Entrusts call session)
    (reached : (custody session call).rely before after) : after.Entrusts call session := by
  intro addr id opened
  obtain ⟨nonzero, holds⟩ := entrusts addr id (reached.2.2 addr id opened)
  exact ⟨nonzero, custody_holds reached holds⟩

/-- Others leave a closed session closed. -/
theorem World.Closed.rely
    (closed : before.Closed session)
    (reached : (custody session call).rely before after) : after.Closed session where
  present := (reached.2.1 closed.present).present
  ended := fun addr id recorded => reached.1.endedAt
    (closed.ended addr id ((custody_recorded reached closed.present).mp recorded))

/-- Sessions are closed by what they record and by the tablets. -/
theorem World.Closed.same
    (closed : before.Closed session)
    (present : after.present session = before.present session)
    (participants : (after.sessions session).shardTxIDs = (before.sessions session).shardTxIDs)
    (tablets : after.tablets = before.tablets) : after.Closed session := by
  refine ⟨present.trans closed.present, ?_⟩
  intro addr id recorded
  rw [World.Recorded, participants] at recorded
  rw [World.EndedAt, tablets]
  exact closed.ended addr id recorded

theorem World.Entrusts.same
    (entrusts : before.Entrusts call session)
    (present : after.present session = before.present session)
    (participants : (after.sessions session).shardTxIDs = (before.sessions session).shardTxIDs)
    (tablets : after.tablets = before.tablets) : after.Entrusts call session := by
  intro addr id opened
  rw [World.OpenBy, tablets] at opened
  obtain ⟨nonzero, found, recorded⟩ := entrusts addr id opened
  refine ⟨nonzero, present.trans found, ?_⟩
  rw [World.Recorded, participants]
  exact recorded

theorem World.Free.rely
    (free : before.Free call)
    (reached : (custody session call).rely before after) : after.Free call :=
  fun addr id opened => free addr id (reached.2.2 addr id opened)

theorem World.Free.same
    (free : before.Free call)
    (tablets : after.tablets = before.tablets) :
    after.Free call := by
  intro addr id opened
  rw [World.OpenBy, tablets] at opened
  exact free addr id opened

/-- What has nothing open is entrusted to any session. -/
theorem World.Free.entrusts (free : w.Free call) (session : Int) : w.Entrusts call session :=
  fun addr id opened => absurd opened (free addr id)

theorem World.Entrusts.free_of_zero (entrusts : w.Entrusts call 0) : w.Free call :=
  fun addr id opened => (entrusts addr id opened).1 rfl

/-- A call whose session records nothing open has nothing open. -/
theorem World.Entrusts.free
    (entrusts : w.Entrusts call session)
    (closed : w.Closed session) :
    w.Free call := by
  intro addr id opened
  obtain ⟨_, _, recorded⟩ := entrusts addr id opened
  exact (closed.ended addr id recorded).not_openAt opened.openAt

/-- What a session outside a transaction records is over. -/
theorem World.InOrder.closed
    (inOrder : w.InOrder)
    (present : w.present session = true)
    (outside : (w.sessions session).state ≠ .inTransaction) : w.Closed session :=
  ⟨present, fun addr id recorded => World.endedAt_of_known (inOrder.issued session addr id recorded)
    (inOrder.settled session addr id outside recorded)⟩

end Custody

/-! ### Operations that leave the sessions alone -/

/-- An operation that changes no session and begins nothing. -/
def GateOp.Steady : GateOp → Prop
  | .create => False
  | .setState _ _ => False
  | .setLocalTxID _ _ _ => False
  | .clearParticipants _ => False
  | .begin _ => False
  | _ => True

theorem GateOp.inert_of_steady {op : GateOp} (steady : op.Steady) : op.Inert := by
  cases op with
  | create | setState | setLocalTxID | clearParticipants => exact False.elim steady
  | _ => exact trivial

namespace World

variable {ext : Externals} {caller : Caller} {w : World} {choice : Choice} {session : Int}
variable {op : GateOp}

theorem sessions_of_inert (inert : op.Inert) :
    (w.act ext caller op choice).2.sessions = w.sessions :=
  funext fun session => sessions_act ext caller op choice w (untouched_of_inert inert w session)

theorem manager_of_inert (inert : op.Inert) :
    (w.act ext caller op choice).2.present = w.present ∧
      (w.act ext caller op choice).2.nextID = w.nextID := by
  cases op with
  | create | setState | setLocalTxID | clearParticipants => exact False.elim inert
  | begin | execute | prepare | commit | rollback => exact (callTablet_frame _ _ _ _ _).2.2
  | _ => exact ⟨rfl, rfl⟩

variable {addr : String} {id : TxID} {after : World}

theorem holds_of_inert (inert : op.Inert) :
    (w.act ext caller op choice).2.Holds session addr id ↔ w.Holds session addr id := by
  rw [Holds, Holds, (manager_of_inert inert).1, recorded_of_inert ext caller inert]

theorem sessionKept_of_inert
    (inert : op.Inert)
    (present : w.present session = true) :
    SessionKept session w (w.act ext caller op choice).2 := by
  rw [← (manager_of_inert inert : (w.act ext caller op choice).2.present = _ ∧ _).1] at present
  exact ⟨present, congrArg Session.shardTxIDs (congrFun (sessions_of_inert inert) session),
    Or.inl (congrArg Session.state (congrFun (sessions_of_inert inert) session))⟩

/-- What a begin opens belongs to the running process and is recorded nowhere yet. -/
theorem new_of_begins
    {answer : op.Answer}
    (stepped : w.act ext caller op choice = (answer, after))
    (begins : op.Begins answer addr id) :
    id.epoch = (w.tablets addr).tx.epoch ∧ (w.tablets addr).tx.txns id = none := by
  cases begins with
  | begun tc resp => exact ⟨(begun_of_act stepped).2.2, unknown_of_begun stepped⟩

/-- An operation on no session keeps a world in order. -/
theorem InOrder.inert
    (inOrder : w.InOrder)
    (inert : op.Inert)
    (careful : w.Careful op)
    (answered : choice.network = .answered) : (w.act ext caller op choice).2.InOrder := by
  have evolves := evolves_act ext caller op choice w
  obtain ⟨present, nextID⟩ := (manager_of_inert inert :
    (w.act ext caller op choice).2.present = w.present ∧ _)
  have recorded : ∀ session addr id,
      (w.act ext caller op choice).2.Recorded session addr id ↔ w.Recorded session addr id :=
    fun _ _ _ => recorded_of_inert ext caller inert choice
  refine ⟨targetsOwn_act ext caller op choice inOrder.own, ?_, ?_, ?_, ?_, ?_⟩
  · intro session addr id found
    have keeps : w.Keeps (w.act ext caller op choice).2 := evolves.kept
    exact keeps.known (inOrder.issued session addr id ((recorded session addr id).mp found))
  · intro addr id opened
    rw [evolves.epochs]
    rcases openAt_act careful answered opened with earlier | begins
    · exact inOrder.current addr id earlier
    · exact (new_of_begins rfl begins).1
  · intro session addr id outside found opened
    have known := (recorded session addr id).mp found
    rw [sessions_of_inert inert] at outside
    rcases openAt_act careful answered opened with earlier | begins
    · exact inOrder.settled session addr id outside known earlier
    · exact inOrder.issued session addr id known (new_of_begins rfl begins).2
  · rw [present, nextID]
    exact inOrder.numbered
  · rw [nextID]
    exact inOrder.counted

/-- Inert operations honour every session. -/
theorem Honours.inert
    (inOrder : w.InOrder)
    (inert : op.Inert)
    (careful : w.Careful op)
    (answered : choice.network = .answered) :
    Honours session caller.call w (w.act ext caller op choice).2 where
  inOrder := inOrder.inert inert careful answered
  kept := (evolves_act ext caller op choice w).kept
  found := fun _ present => (sessionKept_of_inert inert present).present
  others := fun _ _ present => sessionKept_of_inert inert present
  opened := fun _ _ opened =>
    (openAt_act careful answered opened).imp_right fun begins => openBy_of_begins rfl begins
  held := fun _ _ holds _ => (holds_of_inert inert).mpr holds
  recorded := fun _ _ _ found => Or.inl ((recorded_of_inert ext caller inert choice).mp found)

/-- A steady operation of the call itself is no more than what it may rely on. -/
theorem rely_of_steady
    (steady : op.Steady)
    (careful : w.Careful op)
    (answered : choice.network = .answered) :
    (custody session call).rely w (w.act ext caller op choice).2 := by
  have inert := GateOp.inert_of_steady steady
  have keeps : w.Keeps (w.act ext caller op choice).2 :=
    (evolves_act ext caller op choice w).kept
  refine ⟨keeps, fun present => sessionKept_of_inert inert present, ?_⟩
  intro addr id opened
  rcases openAt_act careful answered opened.openAt with earlier | begins
  · exact keeps.openBy earlier opened
  · generalize (w.act ext caller op choice).1 = answer at begins
    cases begins with
    | begun tc resp => exact False.elim steady

/-! ### Operations on sessions -/

/-- An operation that leaves the tablets alone is judged by what it records. -/
theorem Honours.of_tablets
    (inOrder : w.InOrder)
    (own : after.router.TargetsOwn)
    (tablets : after.tablets = w.tablets)
    (recorded : ∀ other addr id, after.Recorded other addr id → w.Recorded other addr id ∨
      w.present other = true ∧ (w.tablets addr).tx.txns id ≠ none)
    (settled : ∀ other addr id, (after.sessions other).state ≠ .inTransaction →
      after.Recorded other addr id → ¬ w.OpenAt addr id)
    (numbered : ∀ other, after.present other = true → 0 < other ∧ other ≤ after.nextID)
    (counted : 0 ≤ after.nextID)
    (found : ∀ other, w.present other = true → after.present other = true)
    (others : ∀ other, other ≠ session → w.present other = true → SessionKept other w after)
    (held : ∀ addr id, w.Holds session addr id → w.OpenAt addr id → after.Holds session addr id) :
    Honours session call w after := by
  have open_iff : ∀ addr id, after.OpenAt addr id ↔ w.OpenAt addr id := by
    intro addr id
    rw [OpenAt, tablets]
    exact Iff.rfl
  refine ⟨⟨own, ?_, ?_, ?_, numbered, counted⟩, ?_, found, others, ?_, ?_, ?_⟩
  · intro other addr id found
    rw [tablets]
    rcases recorded other addr id found with earlier | ⟨_, known⟩
    · exact inOrder.issued other addr id earlier
    · exact known
  · intro addr id opened
    rw [tablets]
    exact inOrder.current addr id ((open_iff addr id).mp opened)
  · intro other addr id outside found opened
    exact settled other addr id outside found ((open_iff addr id).mp opened)
  · intro addr
    rw [tablets]
    exact TxManager.Later.refl _
  · intro addr id opened
    exact Or.inl ((open_iff addr id).mp opened)
  · intro addr id holds opened
    exact held addr id holds ((open_iff addr id).mp opened)
  · intro other addr id found
    exact (recorded other addr id found).imp_right And.left

theorem Honours.create (inOrder : w.InOrder) :
    Honours session call w (w.act ext caller .create choice).2 := by
  have old : ∀ other, w.present other = true → other ≠ w.nextID + 1 := by
    intro other present same
    have bound := (inOrder.numbered other present).2
    omega
  have kept : ∀ other, w.present other = true →
      SessionKept other w (w.act ext caller .create choice).2 := by
    intro other present
    have same := sessions_act ext caller .create choice w (old other present)
    exact ⟨(Function.update_of_ne (old other present) _ _).trans present,
      congrArg Session.shardTxIDs same, Or.inl (congrArg Session.state same)⟩
  refine .of_tablets inOrder inOrder.own rfl ?_ ?_ ?_ ?_ (fun other present =>
    (kept other present).present) ?_ ?_
  · exact fun other addr id found => Or.inl (recorded_of_create found).2
  · intro other addr id outside found
    obtain ⟨different, earlier⟩ := recorded_of_create found
    rw [sessions_act ext caller .create choice w different] at outside
    exact inOrder.settled other addr id outside earlier
  · intro other present
    change 0 < other ∧ other ≤ w.nextID + 1
    have counted := inOrder.counted
    by_cases new : other = w.nextID + 1
    · omega
    · have found : w.present other = true := (Function.update_of_ne new _ _).symm.trans present
      have numbered := inOrder.numbered other found
      omega
  · change 0 ≤ w.nextID + 1
    have counted := inOrder.counted
    omega
  · exact fun other _ present => kept other present
  · rintro addr id ⟨present, found⟩ _
    refine ⟨(kept session present).present, ?_⟩
    rw [Recorded, (kept session present).participants]
    exact found

theorem setState_frame
    (target : Int)
    (state : SessionState) :
    (w.act ext caller (.setState target state) choice).2.router = w.router ∧
      (w.act ext caller (.setState target state) choice).2.tablets = w.tablets ∧
      (w.act ext caller (.setState target state) choice).2.present = w.present ∧
      (w.act ext caller (.setState target state) choice).2.nextID = w.nextID := by
  simp only [act]
  split
  · exact ⟨rfl, rfl, rfl, rfl⟩
  · exact ⟨rfl, rfl, rfl, rfl⟩

theorem participants_setState
    (target : Int)
    (state : SessionState)
    (other : Int) :
    ((w.act ext caller (.setState target state) choice).2.sessions other).shardTxIDs =
      (w.sessions other).shardTxIDs := by
  by_cases same : other = target
  · subst same
    rw [session_setState]
  · rw [sessions_act ext caller (.setState target state) choice w same]

/-- A session may enter a transaction, and leave one when all it records is over. -/
theorem Honours.setState
    (inOrder : w.InOrder)
    {target : Int}
    {state : SessionState}
    (allowed : state = .inTransaction ∨ target = session ∧ w.Closed session) :
    Honours session call w (w.act ext caller (.setState target state) choice).2 := by
  obtain ⟨router, tablets, present, nextID⟩ := (setState_frame target state :
    (w.act ext caller (.setState target state) choice).2.router = w.router ∧ _)
  have participants : ∀ other,
      ((w.act ext caller (.setState target state) choice).2.sessions other).shardTxIDs =
        (w.sessions other).shardTxIDs := fun other => participants_setState target state other
  have recorded : ∀ other addr id,
      (w.act ext caller (.setState target state) choice).2.Recorded other addr id ↔
        w.Recorded other addr id := by
    intro other addr id
    rw [Recorded, participants]
    exact Iff.rfl
  refine .of_tablets inOrder (by rw [router]; exact inOrder.own) tablets ?_ ?_ ?_ ?_
    (fun other => by rw [present]; exact id) ?_ ?_
  · exact fun other addr id found => Or.inl ((recorded other addr id).mp found)
  · intro other addr id outside found
    have earlier := (recorded other addr id).mp found
    by_cases same : other = target
    · subst same
      rw [session_setState] at outside
      obtain ⟨rfl, closed⟩ := allowed.resolve_left outside
      exact (closed.ended addr id earlier).not_openAt
    · rw [sessions_act ext caller (.setState target state) choice w same] at outside
      exact inOrder.settled other addr id outside earlier
  · rw [present, nextID]
    exact inOrder.numbered
  · rw [nextID]
    exact inOrder.counted
  · intro other different found
    refine ⟨by rw [present]; exact found, participants other, ?_⟩
    by_cases same : other = target
    · subst same
      rw [session_setState]
      exact Or.inr (allowed.resolve_right fun own => different own.1)
    · rw [sessions_act ext caller (.setState target state) choice w same]
      exact Or.inl rfl
  · rintro addr id ⟨found, earlier⟩ _
    exact ⟨by rw [present]; exact found, (recorded session addr id).mpr earlier⟩

/-- Participants may be forgotten when they are all over. -/
theorem Honours.clear
    (inOrder : w.InOrder)
    (closed : w.Closed session) :
    Honours session call w (w.act ext caller (.clearParticipants session) choice).2 := by
  refine .of_tablets inOrder inOrder.own rfl ?_ ?_ inOrder.numbered inOrder.counted
    (fun _ present => present) ?_ ?_
  · exact fun other addr id found => Or.inl (recorded_of_clear found).2
  · intro other addr id outside found
    obtain ⟨different, earlier⟩ := recorded_of_clear found
    rw [sessions_act ext caller (.clearParticipants session) choice w different] at outside
    exact inOrder.settled other addr id outside earlier
  · intro other different present
    have same := sessions_act ext caller (.clearParticipants session) choice w different
    exact ⟨present, congrArg Session.shardTxIDs same, Or.inl (congrArg Session.state same)⟩
  · rintro addr id ⟨_, earlier⟩ opened
    exact absurd opened (closed.ended addr id earlier).not_openAt

/-- A session in a transaction may record a known transaction of a new participant. -/
theorem Honours.record
    (inOrder : w.InOrder)
    (present : w.present session = true)
    (inside : (w.sessions session).state = .inTransaction)
    (new : (w.sessions session).shardTxIDs.lookup addr = none)
    (known : (w.tablets addr).tx.txns id ≠ none) :
    Honours session call w (w.act ext caller (.setLocalTxID session addr id) choice).2 := by
  refine .of_tablets inOrder inOrder.own rfl ?_ ?_ inOrder.numbered inOrder.counted
    (fun _ present => present) ?_ ?_
  · intro other target held found
    rw [recorded_setLocalTxID_iff] at found
    split at found
    · rename_i here
      obtain ⟨rfl, rfl⟩ := here
      rw [← found]
      exact Or.inr ⟨present, known⟩
    · exact Or.inl found
  · intro other target held outside found
    by_cases same : other = session
    · subst same
      simp only [act, updateSession, Function.update_self] at outside
      exact absurd inside outside
    · rw [sessions_act ext caller (.setLocalTxID session addr id) choice w same] at outside
      rw [recorded_setLocalTxID_iff, if_neg fun both => same both.1] at found
      exact inOrder.settled other target held outside found
  · intro other different found
    have same := sessions_act ext caller (.setLocalTxID session addr id) choice w different
    exact ⟨found, congrArg Session.shardTxIDs same, Or.inl (congrArg Session.state same)⟩
  · rintro target held ⟨_, found⟩ _
    exact ⟨present, found.kept new⟩

/-! ### What others see of a step -/

theorem OpenBy.call_eq
    {call other : Nat}
    (one : w.OpenBy call addr id)
    (two : w.OpenBy other addr id) : call = other := by
  obtain ⟨tx, found, _, rfl⟩ := one
  obtain ⟨same, known, _, rfl⟩ := two
  rw [found] at known
  injection known with equal
  rw [equal]

section Honours

variable {call : Nat} {before after : World}

variable {addr : String} {id : TxID} {other : Nat} {served : Int}

section Honours

variable (honours : Honours session call before after) (different : other ≠ call)
include honours different

/-- Nobody begins a transaction in the name of another call. -/
theorem Honours.openBy (opened : after.OpenBy other addr id) : before.OpenBy other addr id := by
  rcases honours.opened addr id opened.openAt with earlier | own
  · exact honours.kept.openBy earlier opened
  · exact absurd (opened.call_eq own) different

theorem Honours.free (free : before.Free other) : after.Free other :=
  fun addr id opened => free addr id (honours.openBy different opened)

/-- A step is what a call for another session relies on. -/
theorem Honours.rely
    (apart : before.present served = true → served ≠ session) :
    (custody served other).rely before after :=
  ⟨honours.kept, fun present => honours.others served (apart present) present,
    fun _ _ opened => honours.openBy different opened⟩

end Honours

/-- What is recorded stays recorded until it is over. -/
theorem Honours.holds
    (honours : Honours session call before after)
    (holds : before.Holds served addr id)
    (opened : after.OpenAt addr id) : after.Holds served addr id := by
  by_cases own : served = session
  · subst own
    exact honours.held addr id holds opened
  · have kept := honours.others served own holds.1
    refine ⟨kept.present, ?_⟩
    rw [Recorded, kept.participants]
    exact holds.2

/-- Sessions with open participants are found by the manager. -/
def Housed (w : World) : Prop :=
  ∀ session addr id, w.Recorded session addr id → w.OpenAt addr id → w.present session = true

/-- What honours the sessions keeps them housed. -/
theorem Honours.housed
    (honours : Honours session call before after)
    (inOrder : before.InOrder)
    (housed : before.Housed) : after.Housed := by
  intro served addr id recorded opened
  apply honours.found
  rcases honours.recorded served addr id recorded with earlier | present
  · exact housed served addr id earlier
      (honours.kept.openAt (inOrder.issued served addr id earlier) opened)
  · exact present

end Honours

/-! ### The environment -/

section Environment

variable {move : Move} {addr : String} {id : TxID}

/-- Nothing is opened by itself. -/
theorem openAt_disturb (opened : (w.disturb move).OpenAt addr id) : w.OpenAt addr id := by
  have keeps : w.Keeps (w.disturb move) := kept_disturb move w
  refine keeps.openAt ?_ opened
  intro unknown
  obtain ⟨tx, found, _⟩ := opened
  cases move with
  | reap target victim =>
      by_cases same : addr = target
      · subst same
        simp only [disturb, absorb, Function.update_self] at found
        have none : ((w.tablets addr).tx.rollback {} victim).state.txns id = none :=
          Executor.addsNone_terminate {} .rolledBack id unknown
        cases none.symm.trans found
      · simp only [disturb, absorb, Function.update_of_ne same, unknown] at found
        cases found
  | restart target =>
      by_cases same : addr = target
      · subst same
        simp only [disturb, Function.update_self, TxManager.restart, unknown] at found
        cases found
      · simp only [disturb, Function.update_of_ne same, unknown] at found
        cases found
  | sync | reapSession =>
      simp only [disturb, unknown] at found
      cases found

variable {call : Nat} {session : Int}

/-- Moves of others open nothing. -/
theorem openBy_disturb (opened : (w.disturb move).OpenBy call addr id) : w.OpenBy call addr id := by
  have keeps : w.Keeps (w.disturb move) := kept_disturb move w
  exact keeps.openBy (openAt_disturb opened.openAt) opened

theorem recorded_disturb :
    (w.disturb move).Recorded session addr id ↔ w.Recorded session addr id := by
  rw [Recorded, sessions_disturb]
  exact Iff.rfl

/-- Only reaping removes a session, and only the one it names. -/
theorem present_disturb
    (move : Move)
    (w : World)
    (session : Int) :
    (w.disturb move).present session = w.present session ∨
      move = .reapSession session ∧ (w.disturb move).present session = false := by
  cases move with
  | reapSession other =>
      by_cases same : session = other
      · subst same
        exact Or.inr ⟨rfl, Function.update_self ..⟩
      · exact Or.inl (Function.update_of_ne same _ _)
  | _ => exact Or.inl rfl

/-- Transactions that are open after a move belong to the running process. -/
theorem current_disturb
    (inOrder : w.InOrder)
    (opened : (w.disturb move).OpenAt addr id) :
    id.epoch = ((w.disturb move).tablets addr).tx.epoch := by
  have earlier := inOrder.current addr id (openAt_disturb opened)
  cases move with
  | reap target victim =>
      by_cases same : addr = target
      · subst same
        simp only [disturb, absorb, Function.update_self]
        exact earlier.trans (TxManager.epoch_terminate _ _ _ _).symm
      · simp only [disturb, absorb, Function.update_of_ne same]
        exact earlier
  | restart target =>
      by_cases same : addr = target
      · subst same
        obtain ⟨tx, found, active⟩ := opened
        simp only [disturb, Function.update_self, TxManager.restart, Option.map_eq_some_iff]
          at found
        obtain ⟨before, _, rfl⟩ := found
        split at active
        · cases active
        · rename_i past
          exact absurd active past
      · simp only [disturb, Function.update_of_ne same]
        exact earlier
  | sync | reapSession => exact earlier

theorem InOrder.disturb (inOrder : w.InOrder) : (w.disturb move).InOrder := by
  have keeps : w.Keeps (w.disturb move) := kept_disturb move w
  have found : ∀ session, (w.disturb move).present session = true → w.present session = true := by
    intro session present
    rcases present_disturb move w session with same | ⟨_, gone⟩
    · rw [← same]
      exact present
    · rw [gone] at present
      cases present
  have nextID : (w.disturb move).nextID = w.nextID := by
    cases move with
    | _ => rfl
  refine ⟨targetsOwn_disturb move inOrder.own, ?_, ?_, ?_, ?_, ?_⟩
  · intro session addr id recorded
    exact keeps.known (inOrder.issued session addr id (recorded_disturb.mp recorded))
  · exact fun addr id opened => current_disturb inOrder opened
  · intro session addr id outside recorded opened
    rw [sessions_disturb] at outside
    exact inOrder.settled session addr id outside (recorded_disturb.mp recorded)
      (openAt_disturb opened)
  · intro session present
    rw [nextID]
    exact inOrder.numbered session (found session present)
  · rw [nextID]
    exact inOrder.counted

/-- A move is what a call relies on unless its session is reaped. -/
theorem rely_disturb (spared : move ≠ .reapSession session) :
    (custody session call).rely w (w.disturb move) := by
  refine ⟨kept_disturb move w, ?_, fun _ _ opened => openBy_disturb opened⟩
  intro present
  have same := congrFun (sessions_disturb move w) session
  rcases present_disturb move w session with kept | ⟨reaped, _⟩
  · exact ⟨kept.trans present, congrArg Session.shardTxIDs same,
      Or.inl (congrArg Session.state same)⟩
  · exact absurd reaped spared

end Environment

end World

end VScale
