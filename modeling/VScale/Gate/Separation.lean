import VScale.Gate.Evolution

/-!
# Sessions and the transactions begun for them

A session owns its transactions only by pairs of an address and a number.  As
long as a number is used while the process that issued it is still running, it
denotes a transaction begun for the same session.
-/

namespace VScale

open Collections Effects

/-- The call acts for whom the owner began a transaction: the same session, or
the same call outside any session. -/
def Caller.ActsFor (caller owner : Caller) : Prop :=
  caller.session = owner.session ∧ (caller.session = none → caller.call = owner.call)

namespace World

/-- A transaction was begun for a session. -/
def BegunFor (w : World) (session : Int) (addr : String) (id : TxID) : Prop :=
  ∃ tx, (w.tablets addr).tx.txns id = some tx ∧ tx.owner.session = some session

/-- A call acts for the owner of a transaction. -/
def Serves (w : World) (caller : Caller) (addr : String) (id : TxID) : Prop :=
  ∃ tx, (w.tablets addr).tx.txns id = some tx ∧ caller.ActsFor tx.owner

/-- Sessions record only transactions begun for them, and what has been applied
to a transaction came from its owner. -/
structure Apart (w : World) : Prop where
  own : w.router.TargetsOwn
  recorded : ∀ session,
    (w.sessions session).shardTxIDs.All fun addr id => w.BegunFor session addr id
  applied : ∀ caller addr done id, Event.tablet (some caller) addr done ∈ w.log →
    done.target = some id → w.Serves caller addr id

variable {w before after : World}

variable {addr : String} {id : TxID} {session : Int} {caller : Caller}

theorem Keeps.begunFor
    (keeps : Keeps before after)
    (begun : before.BegunFor session addr id) : after.BegunFor session addr id := by
  obtain ⟨tx, found, owner⟩ := begun
  obtain ⟨later, kept, same, _⟩ := (keeps addr).kept id tx found
  exact ⟨later, kept, by rw [same, owner]⟩

/-- Transactions keep serving their caller. -/
theorem Keeps.serves
    (keeps : Keeps before after)
    (serves : before.Serves caller addr id) : after.Serves caller addr id := by
  obtain ⟨tx, found, acts⟩ := serves
  obtain ⟨later, kept, same, _⟩ := (keeps addr).kept id tx found
  exact ⟨later, kept, by rw [same]; exact acts⟩

theorem BegunFor.serves
    (begun : w.BegunFor session addr id)
    (acts : caller.session = some session) : w.Serves caller addr id := by
  obtain ⟨tx, found, owner⟩ := begun
  refine ⟨tx, found, acts.trans owner.symm, ?_⟩
  intro none
  rw [acts] at none
  cases none

end World

/-- The operation is sent only for transactions of the caller's session. -/
def GateOp.Entitled (op : GateOp) (caller : Caller) (w : World) : Prop :=
  match op with
  | .setLocalTxID session addr id => w.BegunFor session addr id
  | op => ∀ request ∈ op.request, request.2.id ≠ 0 →
      ∃ session, caller.session = some session ∧ w.BegunFor session request.1 request.2

/-- The process that issued an id is still running when the id is used. -/
def GateOp.Current (op : GateOp) (w : World) : Prop :=
  ∀ request ∈ op.request, request.2.id ≠ 0 → request.2.epoch = (w.tablets request.1).tx.epoch

instance (op : GateOp) (w : World) : Decidable (op.Current w) :=
  inferInstanceAs (Decidable (∀ request ∈ op.request, _ → _))

variable {addr : String} {id : TxID}

variable {caller : Caller} {op : GateOp} {w : World}

theorem entitled_request
    (entitled : op.Entitled caller w)
    {txID : TxID}
    (sent : op.request = some (addr, txID))
    (inside : txID.id ≠ 0) :
    ∃ session, caller.session = some session ∧ w.BegunFor session addr txID := by
  cases op with
  | setLocalTxID session other id => cases sent
  | _ => exact entitled (addr, txID) sent inside

/-- An operation that is entitled to a current id reaches a transaction of its
own session. -/
theorem serves_of_aims
    (entitled : op.Entitled caller w)
    (current : op.Current w)
    (aims : op.Aims w addr id) :
    w.Serves caller addr id := by
  obtain ⟨txID, sent, inside, rfl⟩ := aims
  obtain ⟨session, acts, begun⟩ := entitled_request entitled sent inside
  have same : (w.tablets addr).tx.resolve txID = txID := by
    rw [TxManager.resolve, ← current (addr, txID) sent inside]
  rw [same]
  exact begun.serves acts

/-- Entitled operations on current ids keep the sessions apart. -/
theorem apart_act
    (ext : Externals)
    (caller : Caller)
    (choice : Choice)
    (apart : w.Apart)
    (entitled : op.Entitled caller w)
    (current : op.Current w) :
    (w.act ext caller op choice).2.Apart := by
  have evolves := World.evolves_act ext caller op choice w
  have keeps : w.Keeps (w.act ext caller op choice).2 := evolves.kept
  refine ⟨World.targetsOwn_act ext caller op choice apart.own, ?_, ?_⟩
  · intro session
    have recorded := World.all_participants_act ext caller op choice (apart.recorded session)
      (by rintro addr id rfl; exact entitled)
    exact recorded.imp fun _ _ begun => keeps.begunFor begun
  · intro k addr done id present target
    obtain ⟨new, logged, own⟩ := evolves.logged
    rw [logged] at present
    rcases List.mem_append.mp present with now | earlier
    · obtain ⟨called, _, within⟩ := own _ now
      injection called with same
      rw [same]
      rcases within id target with aims | ⟨tx, found, owner⟩
      · exact keeps.serves (serves_of_aims entitled current aims)
      · exact ⟨tx, found, by rw [owner]; exact ⟨rfl, fun _ => rfl⟩⟩
    · exact keeps.serves (apart.applied k addr done id earlier target)

/-- The environment keeps the sessions apart. -/
theorem apart_disturb (move : Move) (apart : w.Apart) : (w.disturb move).Apart := by
  have keeps : w.Keeps (w.disturb move) := World.kept_disturb move w
  refine ⟨targetsOwn_disturb move apart.own, ?_, ?_⟩
  · intro session
    rw [sessions_disturb]
    exact (apart.recorded session).imp fun _ _ begun => keeps.begunFor begun
  · intro caller addr done id present target
    obtain ⟨new, logged, nobody⟩ := World.log_disturb move w
    rw [logged] at present
    rcases List.mem_append.mp present with now | earlier
    · cases nobody _ now
    · exact keeps.serves (apart.applied caller addr done id earlier target)

/-- Calls rely on transactions being kept, and keep the sessions apart. -/
def separation : Contract World where
  rely := World.Keeps
  guarantee := fun before after => after.Apart ∧ before.Keeps after
  rely_refl := fun w addr => TxManager.Later.refl (w.tablets addr).tx
  rely_trans := fun first second addr => (first addr).trans (second addr)

/-- Steps on current ids in worlds that keep the sessions apart. -/
def StepsApart
    (ext : Externals)
    (caller : Caller)
    (op : GateOp)
    (before : World)
    (answer : op.Answer)
    (after : World) : Prop :=
  before.Apart ∧ op.Current before ∧ ∃ choice, before.act ext caller op choice = (answer, after)

/-- From a world the program keeps the sessions apart and all transactions. -/
def SeparatesFrom (ext : Externals) (caller : Caller) (program : GateM α) (w : World) : Prop :=
  program.wp separation (StepsApart ext caller) (fun _ later => w.Keeps later) w

/-- It does so from any world. -/
def Separates (ext : Externals) (caller : Caller) (program : GateM α) : Prop :=
  ∀ w, SeparatesFrom ext caller program w

/-- It does so when some transactions were begun for the session. -/
def SeparatesFor
    (ext : Externals)
    (caller : Caller)
    (session : Int)
    (shards : List (String × TxID))
    (program : GateM α) : Prop :=
  ∀ w : World, (∀ shard ∈ shards, w.BegunFor session shard.1 shard.2) →
    SeparatesFrom ext caller program w

/-- Operations that need no transaction. -/
def GateOp.Free : GateOp → Prop
  | .setLocalTxID _ _ _ => False
  | .execute _ _ txID | .prepare _ txID | .commit _ txID | .rollback _ txID => txID.id = 0
  | _ => True

section Programs

variable {ext : Externals} {caller : Caller} {session : Int}

variable {op : GateOp} {w : World} {shards : List (String × TxID)}

theorem entitled_of_request
    {addr : String}
    {txID : TxID}
    (sent : op.request = some (addr, txID))
    (begun : txID.id ≠ 0 →
      ∃ session, caller.session = some session ∧ w.BegunFor session addr txID) :
    op.Entitled caller w := by
  have all : ∀ request ∈ op.request, request.2.id ≠ 0 →
      ∃ session, caller.session = some session ∧ w.BegunFor session request.1 request.2 := by
    intro request present
    rw [sent] at present
    cases present
    exact begun
  cases op with
  | setLocalTxID session other id => cases sent
  | _ => exact all

/-- Free operations need no transaction. -/
theorem entitled_of_free (free : op.Free) (w : World) : op.Entitled caller w := by
  cases op with
  | setLocalTxID session addr id => exact False.elim free
  | execute | prepare | commit | rollback =>
      exact entitled_of_request rfl fun inside => absurd free inside
  | _ => exact fun _ none => nomatch none

variable {program : GateM α} {next : op.Answer → GateM α} {rest : α → GateM β}

theorem SeparatesFrom.after
    {middle : World}
    (separates : SeparatesFrom ext caller program middle)
    (keeps : w.Keeps middle) :
    program.wp separation (StepsApart ext caller) (fun _ later => w.Keeps later) middle :=
  Prog.wp_mono separates fun _ _ kept => separation.rely_trans keeps kept

/-- One operation that is entitled when it happens. -/
theorem separates_entitled
    (entitled : ∀ before, w.Keeps before → before.Apart → op.Entitled caller before)
    (follows : ∀ (before : World) choice answer after, w.Keeps after → before.Apart →
      before.act ext caller op choice = (answer, after) →
      SeparatesFrom ext caller (next answer) after) :
    SeparatesFrom ext caller (Prog.perform op next) w := by
  rintro before reached answer after ⟨apart, current, choice, stepped⟩
  have still := apart_act ext caller choice apart (entitled before reached apart) current
  have keeps : before.Keeps (before.act ext caller op choice).2 :=
    (World.evolves_act ext caller op choice before).kept
  rw [stepped] at still keeps
  have kept : w.Keeps after := separation.rely_trans reached keeps
  exact ⟨⟨still, keeps⟩, (follows before choice answer after kept apart stepped).after kept⟩

theorem separates_perform
    (free : op.Free)
    (follows : ∀ answer, Separates ext caller (next answer)) :
    Separates ext caller (Prog.perform op next) :=
  fun _ => separates_entitled (fun before _ _ => entitled_of_free free before)
    fun _ _ answer after _ _ _ => follows answer after

theorem separates_pure (value : α) : Separates ext caller (Prog.pure value : GateM α) :=
  fun _ _ reached => reached

/-- Two programs in sequence. -/
theorem separatesFor_bind
    (first : SeparatesFor ext caller session shards program)
    (second : ∀ value, SeparatesFor ext caller session shards (rest value)) :
    SeparatesFor ext caller session shards (program >>= rest) := by
  intro w begun
  apply Prog.wp_seq (first w begun)
  intro value later kept
  exact (second value later fun shard present => kept.begunFor (begun shard present)).after kept

theorem Separates.anyway
    (separates : Separates ext caller program) : SeparatesFor ext caller session shards program :=
  fun w _ => separates w

theorem SeparatesFor.always
    (separates : SeparatesFor ext caller session [] program) : Separates ext caller program :=
  fun w => separates w (List.forall_mem_nil _)

theorem separates_bind
    (first : Separates ext caller program)
    (second : ∀ value, Separates ext caller (rest value)) :
    Separates ext caller (program >>= rest) := by
  have both : SeparatesFor ext caller 0 [] (program >>= rest) :=
    separatesFor_bind first.anyway fun value => (second value).anyway
  exact both.always

theorem separates_of_only (only : program.Only GateOp.Free) : Separates ext caller program := by
  induction program with
  | pure value => exact separates_pure value
  | perform op next ih =>
      exact separates_perform only.1 fun answer => ih answer (only.2 answer)

end Programs

/-- Operations that carry an id to a tablet. -/
def GateOp.Carries (op : TabletClient → TxID → GateOp) : Prop :=
  ∀ tc id, (op tc id).request = some (tc.target, id)

section Participants

variable {ext : Externals} {caller : Caller} {session : Int}
variable {op : TabletClient → TxID → GateOp}

variable {shards : List (String × TxID)}
variable {request : TabletClient → TxID → GateM (Except String (Option String))}

/-- The client found for an address reaches it. -/
theorem separates_getClient
    {addr : String}
    {next : Option TabletClient → GateM α}
    (missing : Separates ext caller (next none))
    (found : ∀ tc, tc.target = addr → SeparatesFor ext caller session shards (next (some tc))) :
    SeparatesFor ext caller session shards (Prog.perform (.getClient addr) next) := by
  intro w begun
  have free : GateOp.Free (.getClient addr) := trivial
  apply separates_entitled (fun before _ _ => entitled_of_free free before)
  intro before choice answer after kept apart stepped
  have answer_eq : before.router.getClient addr = answer := congrArg Prod.fst stepped
  cases answer with
  | none => exact missing after
  | some tc =>
      exact found tc (apart.own addr tc answer_eq) after
        fun shard present => kept.begunFor (begun shard present)

/-- A request for a participant's transaction. -/
theorem separates_request
    (carries : GateOp.Carries op)
    (acts : caller.session = some session)
    {tc : TabletClient}
    {id : TxID}
    (present : (tc.target, id) ∈ shards)
    {next : (op tc id).Answer → GateM α}
    (follows : ∀ answer, SeparatesFor ext caller session shards (next answer)) :
    SeparatesFor ext caller session shards (Prog.perform (op tc id) next) := by
  intro w begun
  apply separates_entitled
  · intro before reached _
    exact entitled_of_request (carries tc id) fun _ =>
      ⟨session, acts, reached.begunFor (begun (tc.target, id) present)⟩
  · intro _ _ answer after kept _ _
    exact follows answer after fun shard listed => kept.begunFor (begun shard listed)

/-- Participants are asked one after the other. -/
theorem separates_fanOut
    {all : List (String × TxID)}
    (requests : ∀ tc id, (tc.target, id) ∈ all →
      SeparatesFor ext caller session all (request tc id))
    (step refusal : String)
    (listed : shards ⊆ all) :
    SeparatesFor ext caller session all
      (Coordinator.fanOut (Coordinator.askShard step refusal request) shards) := by
  induction shards with
  | nil => exact (separates_pure none).anyway
  | cons shard shards ih =>
      have ask : SeparatesFor ext caller session all
          (Coordinator.askShard step refusal request shard.1 shard.2) := by
        apply separates_getClient
        · exact separates_pure _
        · intro tc target
          apply separatesFor_bind
          · apply requests
            rw [target]
            exact listed List.mem_cons_self
          · intro answer
            cases answer with
            | error failure => exact (separates_pure _).anyway
            | ok reason =>
                cases reason with
                | none | some => exact (separates_pure _).anyway
      apply separatesFor_bind ask
      intro complaint
      apply separatesFor_bind
        (ih fun entry present => listed (List.mem_cons_of_mem _ present))
      intro later
      exact (separates_pure _).anyway

/-- The participants read from a session were begun for it. -/
theorem separates_participatingShardsMap
    {next : List (String × TxID) → GateM α}
    (follows : ∀ shards, SeparatesFor ext caller session shards (next shards)) :
    Separates ext caller (Prog.perform (.participatingShardsMap session) next) := by
  intro w
  have free : GateOp.Free (.participatingShardsMap session) := trivial
  apply separates_entitled (fun before _ _ => entitled_of_free free before)
  intro before choice shards after kept apart stepped
  have shards_eq : ((choice.order.visit (before.sessions session).shardTxIDs.entries).map
      fun entry => (entry.1, entry.2)) = shards := congrArg Prod.fst stepped
  have after_eq : before.addEvent (.read caller session (before.sessions session).shardTxIDs) =
      after := congrArg Prod.snd stepped
  apply follows shards
  intro shard present
  rw [← shards_eq] at present
  obtain ⟨entry, visited, rfl⟩ := List.mem_map.mp present
  rw [← after_eq]
  exact (apart.recorded session).of_mem_entries ((RangeOrder.visit_perm _ _).mem_iff.mp visited)

/-- Each participant is asked with its own id. -/
theorem separates_askAll
    (requests : ∀ shards tc id, (tc.target, id) ∈ shards →
      SeparatesFor ext caller session shards (request tc id))
    (sentinel step refusal : String) :
    Separates ext caller
      (Coordinator.askAll sentinel (Coordinator.askShard step refusal request) session) := by
  apply separates_participatingShardsMap
  intro shards
  apply separatesFor_bind (separates_fanOut (requests shards) step refusal (List.Subset.refl _))
  intro complaint
  exact (separates_pure _).anyway

theorem free_concludeCommit (session : Int) :
    (Coordinator.concludeCommit session).Only GateOp.Free :=
  ⟨trivial, fun _ => ⟨trivial, fun _ => trivial⟩⟩

section Session

variable (acts : caller.session = some session)
include acts

theorem separates_prepareAll : Separates ext caller (Coordinator.prepareAll session) := by
  apply separates_askAll
  intro shards tc id present
  exact separates_request (fun _ _ => rfl) acts present fun _ => (separates_pure _).anyway

theorem separates_commitAll : Separates ext caller (Coordinator.commitAll session) := by
  apply separates_askAll
  intro shards tc id present
  exact separates_request (fun _ _ => rfl) acts present fun _ => (separates_pure _).anyway

theorem separates_rollbackAll : Separates ext caller (Coordinator.rollbackAll session) := by
  apply separates_askAll
  intro shards tc id present
  exact separates_request (fun _ _ => rfl) acts present fun _ => (separates_pure _).anyway

theorem separates_abort (message : String) :
    Separates ext caller (Coordinator.abort session message) :=
  separates_bind (separates_rollbackAll acts) fun _ => separates_pure _

theorem separates_commitEach
    {all : List (String × TxID)}
    {shards : List (String × TxID)}
    (listed : shards ⊆ all) :
    SeparatesFor ext caller session all (Coordinator.commitEach session shards) := by
  induction shards with
  | nil =>
      exact (separates_of_only (free_concludeCommit session)).anyway
  | cons shard shards ih =>
      apply separates_getClient
      · exact separates_pure _
      · intro tc target
        have present : (tc.target, shard.2) ∈ all := by
          rw [target]
          exact listed List.mem_cons_self
        apply separates_request (fun _ _ => rfl) acts present
        intro answer
        cases answer with
        | error failure => exact (separates_abort acts _).anyway
        | ok resp =>
            simp only
            split
            · exact ih fun entry member => listed (List.mem_cons_of_mem _ member)
            · exact (separates_abort acts _).anyway

theorem separates_commitInPhases :
    Separates ext caller (Coordinator.commitInPhases session) := by
  apply separates_bind (separates_prepareAll acts)
  intro unprepared
  cases unprepared with
  | some failure => exact separates_abort acts failure
  | none =>
      apply separates_bind (separates_commitAll acts)
      intro uncommitted
      cases uncommitted with
      | some failure => exact separates_pure _
      | none => exact separates_of_only (free_concludeCommit session)

/-- A commit reaches own transactions only. -/
theorem separates_commit : Separates ext caller (Coordinator.commit session) := by
  refine separates_perform trivial fun state => ?_
  simp only
  split
  · exact separates_perform trivial fun _ => separates_pure _
  · refine separates_perform trivial fun shardCount => ?_
    split
    · exact separates_perform trivial fun _ => separates_pure _
    · split
      · apply separates_participatingShardsMap
        intro shards
        exact separates_commitEach acts (List.Subset.refl _)
      · exact separates_commitInPhases acts

/-- So does a rollback. -/
theorem separates_rollback : Separates ext caller (Coordinator.rollback session) := by
  refine separates_perform trivial fun state => ?_
  simp only
  split
  · exact separates_perform trivial fun _ => separates_pure _
  · apply separates_bind (separates_rollbackAll acts)
    intro complaint
    exact separates_perform trivial fun _ => separates_perform trivial fun _ => separates_pure _

/-- A new transaction is recorded for the session it was begun for. -/
theorem separates_beginOnAll (tablets : List TabletClient) :
    Separates ext caller (Coordinator.beginOnAll session tablets) := by
  induction tablets with
  | nil => exact separates_pure _
  | cons tc tablets ih =>
      refine separates_perform trivial fun participating => ?_
      cases participating with
      | true => exact ih
      | false =>
          intro w
          have free : GateOp.Free (.begin tc) := trivial
          apply separates_entitled (fun before _ _ => entitled_of_free free before)
          intro before choice answer after kept apart stepped
          cases answer with
          | error failure =>
              exact separates_bind (separates_rollbackAll acts) (fun _ => separates_pure _) after
          | ok resp =>
              have begun : after.BegunFor session tc.target resp.transactionId :=
                ⟨_, (World.begun_of_act stepped).1, acts⟩
              apply separates_entitled
              · intro later reached _
                exact reached.begunFor begun
              · intro _ _ _ final _ _ _
                exact ih final

omit acts in
/-- The id a session holds was begun for it. -/
theorem separates_getLocalTxID
    {addr : String}
    {next : Option TxID → GateM α}
    (follows : ∀ held : Option TxID,
      SeparatesFor ext caller session (held.toList.map fun id => (addr, id)) (next held)) :
    Separates ext caller (Prog.perform (.getLocalTxID session addr) next) := by
  intro w
  have free : GateOp.Free (.getLocalTxID session addr) := trivial
  apply separates_entitled (fun before _ _ => entitled_of_free free before)
  intro before choice held after kept apart stepped
  have held_eq : (before.sessions session).shardTxIDs.lookup addr = held :=
    congrArg Prod.fst stepped
  have after_eq : before = after := congrArg Prod.snd stepped
  apply follows held
  rw [← after_eq]
  cases held with
  | none => exact List.forall_mem_nil _
  | some id => exact List.forall_mem_singleton.mpr (apart.recorded session _ _ held_eq)

/-- A statement runs with the id the session holds for the tablet, or with none. -/
theorem separates_execute
    {tc : TabletClient}
    {sql : SqlText}
    (held : Option TxID)
    {next : Except String QueryResponse → GateM α}
    (follows : ∀ answer, Separates ext caller (next answer)) :
    SeparatesFor ext caller session (held.toList.map fun id => (tc.target, id))
      (Prog.perform (.execute tc sql (held.getD TxID.zero)) next) := by
  cases held with
  | none =>
      have free : GateOp.Free (.execute tc sql TxID.zero) := rfl
      exact (separates_perform free follows).anyway
  | some id =>
      have carries : GateOp.Carries fun tc => .execute tc sql := fun _ _ => rfl
      exact separates_request carries acts List.mem_cons_self
        fun answer => (follows answer).anyway

/-- A scatter runs in own transactions only. -/
theorem separates_scatterLoop
    (sql : SqlText)
    (tablets : List TabletClient) :
    Separates ext caller (Coordinator.scatterLoop session sql tablets) := by
  induction tablets with
  | nil => exact separates_pure _
  | cons tc tablets ih =>
      refine separates_getLocalTxID fun held => separates_execute acts held fun answer => ?_
      apply separates_bind ih
      intro later
      cases answer with
      | error | ok => exact separates_pure _

theorem separates_executeScatter
    (sql : SqlText)
    (tablets : List TabletClient) :
    Separates ext caller (Coordinator.executeScatter ext session sql tablets) := by
  apply separates_bind (separates_scatterLoop acts _ tablets)
  rintro ⟨failed, results⟩
  cases failed with
  | some failure => exact separates_abort acts failure
  | none =>
      simp only
      split
      · split
        · exact separates_abort acts _
        · exact separates_pure _
        · exact separates_pure _
      · exact separates_pure _

/-- So does every statement of a session. -/
theorem separates_coordinator (sql : SqlText) :
    Separates ext caller (Coordinator.execute ext session sql) := by
  refine separates_perform trivial fun state => ?_
  simp only
  split
  · exact separates_perform trivial fun _ => separates_pure _
  · refine separates_perform trivial fun result => ?_
    split
    · exact separates_pure _
    · apply separates_bind (separates_beginOnAll acts result.tablets)
      intro failed
      cases failed with
      | some failure => exact separates_pure _
      | none =>
          simp only
          split
          · exact separates_getLocalTxID fun held =>
              separates_execute acts held fun _ => separates_pure _
          · exact separates_executeScatter acts sql _

end Session

end Participants

theorem free_executeAutocommit
    (ext : Externals)
    (sql : SqlText) :
    (Gateway.executeAutocommit ext sql).Only GateOp.Free :=
  Gateway.only_executeAutocommit ext trivial (fun _ => rfl) (fun _ => rfl)

section Requests

variable {ext : Externals}

/-- Every request keeps the sessions apart. -/
theorem separates_gateway
    (number : Nat)
    (req : QueryRequest) :
    Separates ext ((gateService ext).caller number req) (Gateway.execute ext req) := by
  have acts : req.transactionId ≠ 0 →
      ((gateService ext).caller number req).session = some req.transactionId :=
    fun inside => if_neg inside
  refine Gateway.Assembles.request ?_
  constructor
  case answers => exact separates_pure
  case looks =>
    intro txID missing rest separates
    refine separates_perform trivial fun found => ?_
    split
    · exact separates
    · exact separates_pure _
  case concludes => exact fun _ _ separates => separates_bind separates fun _ => separates_pure _
  case begins =>
    exact separates_of_only (Gateway.only_handleBegin trivial trivial trivial (fun _ => trivial)
      trivial)
  case commits => exact fun inside => separates_commit (acts inside)
  case rollbacks => exact fun inside => separates_rollback (acts inside)
  case forwards => exact separates_of_only (free_executeAutocommit ext _)
  case executes => exact fun inside => separates_coordinator (acts inside) _

end Requests

/-- Every id is used while the process that issued it is running. -/
def UsesCurrentIds (pool : GatePool) (label : GateLabel) (_ : GatePool) : Prop :=
  ∀ step ∈ pool.operation label, step.2.Current pool.world

instance (pool : GatePool) (label : GateLabel) (later : GatePool) :
    Decidable (UsesCurrentIds pool label later) :=
  inferInstanceAs (Decidable (∀ step ∈ pool.operation label, step.2.Current pool.world))

/-- All calls of the gate keep the sessions apart. -/
def apartDiscipline (ext : Externals) : Discipline (gateService ext) where
  invariant := fun pool => pool.world.Apart
  contract := fun _ _ => separation
  steps := fun number req => StepsApart ext ((gateService ext).caller number req)
  post := fun _ _ _ _ => True

/-- The discipline keeps the sessions apart. -/
theorem apartDiscipline_sound (ext : Externals) : (apartDiscipline ext).Sound UsesCurrentIds where
  invoked := by
    intro pool req _ apart
    exact ⟨apart, Prog.wp_mono (separates_gateway pool.started req pool.world)
      fun _ _ _ => trivial⟩
  stepped := by
    intro pool number choice later req op next current found apart
    exact ⟨apart, current _ (Pool.operation_advance found choice), choice, rfl⟩
  shared := fun _ _ _ guaranteed => ⟨guaranteed.1, fun _ _ _ _ => guaranteed.2⟩
  finished := by
    intro pool number req value found _ apart _
    have keeps : pool.world.Keeps pool.world := separation.rely_refl _
    refine ⟨⟨apart.own, apart.recorded, ?_⟩, fun _ _ _ _ => keeps⟩
    intro caller addr done id present target
    rcases List.mem_cons.mp present with returned | earlier
    · cases returned
    · exact apart.applied caller addr done id earlier target
  moved := fun _ apart =>
    ⟨apart_disturb _ apart, fun _ _ _ => World.kept_disturb _ _⟩

/-- The gate before its first request. -/
structure World.Unused (w : World) : Prop where
  own : w.router.TargetsOwn
  participants : ∀ session, (w.sessions session).shardTxIDs = ∅
  log : w.log = []

theorem World.Unused.apart (unused : w.Unused) : w.Apart where
  own := unused.own
  recorded := by
    intro session
    rw [unused.participants session]
    exact Map.all_empty
  applied := by
    intro caller addr done id present
    rw [unused.log] at present
    cases present

/-- As long as every id is used by the process that issued it, whatever a call
does to a transaction is done for the session the transaction was begun for. -/
theorem sessions_apart_of_current_ids
    (ext : Externals)
    {w : World}
    (unused : w.Unused)
    {pool : GatePool}
    (reaches : (gateService ext).Reaches UsesCurrentIds (Pool.initial w) pool)
    {caller : Caller}
    {addr : String}
    {done : TabletEvent}
    {id : TxID}
    (applied : Event.tablet (some caller) addr done ∈ pool.world.log)
    (target : done.target = some id) :
    ∃ tx, (pool.world.tablets addr).tx.txns id = some tx ∧ caller.ActsFor tx.owner :=
  (Discipline.governs_of_reaches (apartDiscipline_sound ext) unused.apart reaches).1.applied
    caller addr done id applied target

theorem twoShardWorld_unused : twoShardWorld.Unused :=
  ⟨targetsOwn_of_entries (by decide), fun _ => rfl, rfl⟩

/-- The event applies something of a caller to a transaction. -/
def Event.applies
    (caller : Caller)
    (addr : String)
    (id : TxID) : Event → Bool
  | .tablet (some other) place done => other = caller && place = addr && done.target = some id
  | _ => false

theorem applied_of_any (found : w.log.any (Event.applies caller addr id) = true) :
    ∃ done, Event.tablet (some caller) addr done ∈ w.log ∧ done.target = some id := by
  obtain ⟨event, present, applies⟩ := List.any_eq_true.mp found
  unfold Event.applies at applies
  split at applies
  · rename_i other place done
    simp only [Bool.and_eq_true, decide_eq_true_eq] at applies
    obtain ⟨⟨rfl, rfl⟩, target⟩ := applies
    exact ⟨done, present, target⟩
  · cases applies

/-- A session inserts a user. -/
def insertInSession : List GateLabel :=
  inTurn 0 2 ⟨.ok [beginStatement], 0⟩ ++ inTurn 1 8 ⟨.ok [Router.insertUser "1"], 1⟩

theorem insert_in_session_apart :
    ∃ pool tx,
      (gateService integralExternals).runs UsesCurrentIds insertInSession
          (Pool.initial twoShardWorld) = some pool ∧
        (pool.world.tablets "a:1").tx.txns ⟨1, 0⟩ = some tx ∧
        Caller.ActsFor ⟨1, some 1⟩ tx.owner := by
  have ran : ((gateService integralExternals).runs UsesCurrentIds insertInSession
      (Pool.initial twoShardWorld)).map
        (fun pool => pool.world.log.any (Event.applies ⟨1, some 1⟩ "a:1" ⟨1, 0⟩)) =
      some true := by decide
  obtain ⟨pool, reached, found⟩ := Option.map_eq_some_iff.mp ran
  obtain ⟨done, applied, target⟩ := applied_of_any found
  obtain ⟨tx, known, acts⟩ := sessions_apart_of_current_ids integralExternals
    twoShardWorld_unused (Service.reaches_of_runs _ .start reached) applied target
  exact ⟨pool, tx, reached, known, acts⟩

/-- Two sessions insert users on a tablet that restarts in between. -/
def insertsAroundRestart : List GateLabel :=
  inTurn 0 2 ⟨.ok [beginStatement], 0⟩ ++ inTurn 1 2 ⟨.ok [beginStatement], 0⟩ ++
    inTurn 2 8 ⟨.ok [Router.insertUser "1"], 1⟩ ++ [.move (.restart "a:1")] ++
    inTurn 3 8 ⟨.ok [Router.insertUser "2"], 2⟩ ++ inTurn 4 6 ⟨.ok [Router.insertUser "3"], 1⟩

/-- A statement of the first session runs in the transaction of the second. -/
theorem restart_mixes_sessions :
    ∃ pool done tx,
      (gateService integralExternals).Reaches (fun _ _ _ => True) (Pool.initial twoShardWorld)
          pool ∧
        Event.tablet (some ⟨4, some 1⟩) "a:1" done ∈ pool.world.log ∧
        done.target = some ⟨1, 1⟩ ∧
        (pool.world.tablets "a:1").tx.txns ⟨1, 1⟩ = some tx ∧
        tx.owner = ⟨3, some 2⟩ ∧ ¬ Caller.ActsFor ⟨4, some 1⟩ tx.owner := by
  have ran : ((gateService integralExternals).runs (fun _ _ _ => True) insertsAroundRestart
      (Pool.initial twoShardWorld)).map
        (fun pool => (pool.world.log.any (Event.applies ⟨4, some 1⟩ "a:1" ⟨1, 1⟩),
          ((pool.world.tablets "a:1").tx.txns ⟨1, 1⟩).map LocalTx.owner)) =
      some (true, some ⟨3, some 2⟩) := by decide
  obtain ⟨pool, reached, found⟩ := Option.map_eq_some_iff.mp ran
  obtain ⟨any, owners⟩ := Prod.mk.inj found
  obtain ⟨done, applied, target⟩ := applied_of_any any
  obtain ⟨tx, known, owner⟩ := Option.map_eq_some_iff.mp owners
  refine ⟨pool, done, tx, Service.reaches_of_runs _ .start reached, applied, target, known,
    owner, ?_⟩
  rintro ⟨same, _⟩
  rw [owner] at same
  exact absurd same (by decide)

end VScale
