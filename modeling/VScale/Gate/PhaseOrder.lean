import VScale.Gate.CommitAtomicity
import VScale.Gate.Evolution
import VScale.Gate.Goroutines

/-!
# The order of the two phases

A commit of several participants sends a commit only after all of them have
answered that they are prepared, sends at most one to each of them, and rolls
nothing back afterwards.  This holds for every order in which the goroutines of
a phase proceed, and none of them ever blocks.
-/

namespace VScale

open Collections Effects Coordinator

/-- The runs of a commit of a session whose requests do not overlap. -/
abbrev CommitRuns (ext : Externals) (caller : Caller) (session : Int) :=
  Job.Runs (World.machine ext) caller (Elsewhere ext session) (Goroutines.commit session)

/-- A commit is sent to an address. -/
def commitsAt (addr : String) : Activity gate → Bool
  | .issued (.commit tc _) => tc.target = addr
  | _ => false

/-- The order of the two phases. -/
structure TwoPhaseOrder
    (participants : Map String TxID)
    (history : List (Activity gate)) :
    Prop where
  /-- When a commit is sent, every participant has answered that it is prepared. -/
  prepared : ∀ before tc txID, before ++ [.issued (.commit tc txID)] <+: history →
    ∀ addr id, participants.lookup addr = some id →
      ∃ client resp, client.target = addr ∧ resp.prepared = true ∧
        .answered (.prepare client id) (.ok resp) ∈ before
  /-- No address is sent two commits. -/
  once : ∀ addr, history.countP (commitsAt addr) ≤ 1
  /-- When a rollback is sent, no commit has been sent. -/
  forward : ∀ before tc txID, before ++ [.issued (.rollback tc txID)] <+: history →
    ∀ client id, .issued (.commit client id) ∉ before

/-- Nothing has been done to forget the participants. -/
def Remembers (session : Int) (history : List (Activity gate)) : Prop :=
  .issued (.clearParticipants session) ∉ history

/-- The answers of a history agree with the participants of a session. -/
structure Told
    (session : Int)
    (participants : Map String TxID)
    (history : List (Activity gate)) : Prop where
  clients : ∀ addr tc, .answered (.getClient addr) (some tc) ∈ history → tc.target = addr
  counted : ∀ before count,
    before ++ [.answered (.shardCount session) count] <+: history → Remembers session before →
      count = participants.entries.length
  listed : ∀ before shards,
    before ++ [.answered (.participatingShardsMap session) shards] <+: history →
      Remembers session before →
        shards.Perm (participants.entries.map fun entry => (entry.1, entry.2))

variable {entry : α}

variable {before : List α}

theorem prefix_concat
    {history : List α}
    {last : α}
    (starts : before ++ [entry] <+: history ++ [last]) :
    before = history ∧ entry = last ∨ before ++ [entry] <+: history := by
  rcases List.prefix_concat_iff.mp starts with whole | inner
  · obtain ⟨same, ends⟩ := List.append_inj' whole rfl
    exact Or.inl ⟨same, List.singleton_inj.mp ends⟩
  · exact Or.inr inner

/-- A point of a history in two parts lies in the first part or after it. -/
theorem prefix_append_cases
    {first second : List α}
    (starts : before ++ [entry] <+: first ++ second) :
    before ++ [entry] <+: first ∨ first <+: before ∧ entry ∈ second := by
  rcases List.prefix_or_prefix_of_prefix starts (List.prefix_append first second) with
    inner | outer
  · exact Or.inl inner
  · rcases List.prefix_concat_iff.mp outer with whole | within
    · exact Or.inl (whole ▸ List.prefix_rfl)
    · obtain ⟨rest, rfl⟩ := within
      rw [List.append_assoc, List.prefix_append_right_inj] at starts
      exact Or.inr ⟨List.prefix_append first rest, starts.subset List.mem_concat_self⟩

section Telling

variable {ext : Externals} {caller : Caller} {session : Int} {participants : Map String TxID}
variable {w : World} {history : List (Activity gate)}

theorem told_nil : Told session participants [] where
  clients := fun _ _ present => nomatch present
  counted := fun _ _ starts => by simp at starts
  listed := fun _ _ starts => by simp at starts

theorem Told.of_prefix
    {earlier : List (Activity gate)}
    (told : Told session participants history)
    (starts : earlier <+: history) :
    Told session participants earlier where
  clients := fun addr tc present => told.clients addr tc (starts.subset present)
  counted := fun before count within => told.counted before count (within.trans starts)
  listed := fun before shards within => told.listed before shards (within.trans starts)

theorem Told.issued
    (told : Told session participants history)
    (op : GateOp) :
    Told session participants (history ++ [.issued op]) where
  clients := by
    intro addr tc present
    rcases List.mem_append.mp present with before | last
    · exact told.clients addr tc before
    · cases List.mem_singleton.mp last
  counted := by
    intro before count starts remembers
    rcases prefix_concat starts with ⟨_, same⟩ | inner
    · cases same
    · exact told.counted before count inner remembers
  listed := by
    intro before shards starts remembers
    rcases prefix_concat starts with ⟨_, same⟩ | inner
    · cases same
    · exact told.listed before shards inner remembers

/-- The world answers as the participants and the clients are. -/
theorem Told.answered
    (told : Told session participants history)
    (own : w.router.TargetsOwn)
    (held : Remembers session history → (w.sessions session).shardTxIDs = participants)
    (op : GateOp)
    (choice : Choice) :
    Told session participants (history ++ [.answered op (w.act ext caller op choice).1]) where
  clients := by
    intro addr tc present
    rcases List.mem_append.mp present with before | last
    · exact told.clients addr tc before
    · have same := List.mem_singleton.mp last
      injection same with kind found
      subst kind
      exact own addr tc (eq_of_heq found).symm
  counted := by
    intro before count starts remembers
    rcases prefix_concat starts with ⟨rfl, same⟩ | inner
    · injection same with kind found
      subst kind
      rw [eq_of_heq found, ← held remembers]
      rfl
    · exact told.counted before count inner remembers
  listed := by
    intro before shards starts remembers
    rcases prefix_concat starts with ⟨rfl, same⟩ | inner
    · injection same with kind found
      subst kind
      rw [eq_of_heq found, ← held remembers]
      exact (choice.order.visit_perm _).map _
    · exact told.listed before shards inner remembers

/-- What is known at every point of a commit. -/
structure Observed
    (session : Int)
    (participants : Map String TxID)
    (history : List (Activity gate))
    (w : World) : Prop where
  own : w.router.TargetsOwn
  held : Remembers session history → (w.sessions session).shardTxIDs = participants
  told : Told session participants history

/-- One own operation of a commit. -/
theorem Observed.answered
    (observed : Observed session participants history w)
    {op : GateOp}
    (ends : op.Ends)
    (issued : .issued op ∈ history)
    (choice : Choice) :
    Observed session participants (history ++ [.answered op (w.act ext caller op choice).1])
      (w.act ext caller op choice).2 where
  own := World.targetsOwn_act ext caller op choice observed.own
  held := by
    intro remembers
    have before : Remembers session history := fun present =>
      remembers (List.mem_append_left _ present)
    rcases participants_of_ends ext caller choice w ends session with kept | ⟨_, rfl⟩
    · exact kept.trans (observed.held before)
    · exact absurd issued before
  told := observed.told.answered observed.own observed.held op choice

theorem observed_of_runs
    {first : World}
    {state : Job.State gate String Outcome}
    (own : first.router.TargetsOwn)
    (runs : CommitRuns ext caller session first state w history) :
    Observed session (first.sessions session).shardTxIDs history w := by
  induction runs with
  | start => exact ⟨own, fun _ => rfl, told_nil⟩
  | others _ changed ih =>
      obtain ⟨same, targets⟩ := elsewhere_keeps changed
      exact ⟨targets ih.own, by rw [same]; exact ih.held,
        ih.told⟩
  | internal _ _ ih => exact ih
  | @issue _ _ _ _ op _ _ ih =>
      exact ⟨ih.own,
        fun remembers => ih.held fun present =>
          remembers (List.mem_append_left _ present),
        ih.told.issued op⟩
  | answer choice earlier stepped ih =>
      have issued := earlier.standing.issued_of_answer stepped
      exact ih.answered
        (Job.allowed_of_history earlier.standing.happened
          (Goroutines.only_commit (ends_commits session)) issued) issued choice

end Telling

section Goroutine

variable {op : TabletClient → TxID → GateOp}
variable {read : (tc : TabletClient) → (txID : TxID) → (op tc txID).Answer →
  Except String (Option String)}

/-- How far the goroutine of a participant may have come. -/
theorem partly_askShard
    {step refusal addr : String}
    {id : TxID}
    {log : List (Activity gate)}
    {rest : GateM (Option String)}
    (partly : (askShard step refusal (fun tc txID => .perform (op tc txID) fun answer =>
      .pure (read tc txID answer)) addr id).Partly log rest) :
    (log = [] ∧ ∃ next, rest = .perform (.getClient addr) next) ∨
      (log = [.issued (.getClient addr), .answered (.getClient addr) none] ∧
        ∃ complaint, rest = .pure (some complaint)) ∨
      (∃ tc next, log = [.issued (.getClient addr), .answered (.getClient addr) (some tc)] ∧
        rest = .perform (op tc id) next) ∨
      ∃ tc answer complaint,
        log = [.issued (.getClient addr), .answered (.getClient addr) (some tc),
          .issued (op tc id), .answered (op tc id) answer] ∧
        rest = .pure complaint ∧ (complaint = none → read tc id answer = .ok none) := by
  cases partly with
  | refl => exact Or.inl ⟨rfl, _, rfl⟩
  | perform client later =>
      cases client with
      | none =>
          cases later with
          | refl => exact Or.inr (Or.inl ⟨rfl, _, rfl⟩)
      | some tc =>
          cases later with
          | refl => exact Or.inr (Or.inr (Or.inl ⟨tc, _, rfl, rfl⟩))
          | perform answer later =>
              refine Or.inr (Or.inr (Or.inr ⟨tc, answer, ?_⟩))
              dsimp only at later
              cases outcome : read tc id answer with
              | error failure =>
                  rw [outcome] at later
                  cases later with
                  | refl => exact ⟨_, rfl, rfl, by rintro ⟨⟩⟩
              | ok reason =>
                  rw [outcome] at later
                  cases reason with
                  | some reason =>
                      cases later with
                      | refl => exact ⟨_, rfl, rfl, by rintro ⟨⟩⟩
                  | none =>
                      cases later with
                      | refl => exact ⟨_, rfl, rfl, fun _ => rfl⟩

end Goroutine

variable {addr : String} {id : TxID} {log : List (Activity gate)}

/-- A goroutine that prepares without complaint has been answered so. -/
theorem prepared_of_partly (partly : (prepareShard addr id).Partly log (.pure none)) :
    ∃ tc resp, .answered (.getClient addr) (some tc) ∈ log ∧ resp.prepared = true ∧
      .answered (.prepare tc id) (.ok resp) ∈ log := by
  rcases partly_askShard partly with
    ⟨_, _, same⟩ | ⟨_, _, same⟩ | ⟨_, _, _, same⟩ | ⟨tc, answer, complaint, rfl, same, accepted⟩
  · cases same
  · cases same
  · cases same
  · have yes := accepted (Prog.pure.inj same).symm
    cases answer with
    | error failure => cases yes
    | ok resp =>
        refine ⟨tc, resp, by simp, ?_, by simp⟩
        by_contra refused
        simp [Except.map, refused] at yes

/-- The goroutine of a participant sends it one commit at most, and no commit to
anyone else. -/
theorem commits_of_accounts
    {shard : String}
    {worker : Worker gate String}
    {sent : List String}
    (accounts : Worker.Accounts (commitShard shard id) worker log sent)
    (clients : ∀ addr tc, .answered (.getClient addr) (some tc) ∈ log → tc.target = addr) :
    log.countP (commitsAt addr) ≤ [shard].count addr := by
  have target : ∀ tc, .answered (.getClient shard) (some tc) ∈ log →
      List.countP (commitsAt addr) [.issued (.commit tc id)] ≤ [shard].count addr := by
    intro tc answered
    rw [List.countP_singleton, List.count_singleton, commitsAt, clients shard tc answered]
    simp
  have settled : ∀ {rest}, (commitShard shard id).Partly log rest →
      log.countP (commitsAt addr) ≤ [shard].count addr := by
    intro rest partly
    rcases partly_askShard partly with
      ⟨rfl, _⟩ | ⟨rfl, _⟩ | ⟨tc, _, rfl, _⟩ | ⟨tc, answer, _, rfl, _⟩
    · exact Nat.zero_le _
    · exact Nat.zero_le _
    · exact Nat.zero_le _
    · exact target tc (by simp)
  cases accounts with
  | ready partly | done partly => exact settled partly
  | waiting partly =>
      rcases partly_askShard partly with
        ⟨rfl, _, same⟩ | ⟨_, _, same⟩ | ⟨tc, _, rfl, same⟩ | ⟨_, _, _, _, same, _⟩
      · injection same with asked
        subst asked
        exact Nat.zero_le _
      · cases same
      · injection same with asked
        subst asked
        exact target tc (by simp)
      · cases same

section Phases

variable {session : Int} {participants : Map String TxID} {history : List (Activity gate)}

/-- No commit has been sent. -/
def NoCommit (history : List (Activity gate)) : Prop :=
  ∀ tc id, .issued (.commit tc id) ∉ history

variable {job : GateJob α}

theorem noCommit_of_keeps
    (happened : job.History history)
    (keeps : job.Only GateOp.Keeps) : NoCommit history :=
  fun _ _ present => Job.allowed_of_history happened keeps present

variable {first second before later : List (Activity gate)}

theorem NoCommit.append
    (early : NoCommit first)
    (late : NoCommit second) : NoCommit (first ++ second) := by
  intro tc id present
  rcases List.mem_append.mp present with before | after
  · exact early tc id before
  · exact late tc id after

theorem Remembers.append
    (early : Remembers session first)
    (late : Remembers session second) : Remembers session (first ++ second) := by
  intro present
  rcases List.mem_append.mp present with before | after
  · exact early before
  · exact late after

theorem countP_commitsAt_of_noCommit
    (none : NoCommit history)
    (addr : String) :
    history.countP (commitsAt addr) = 0 := by
  rw [List.countP_eq_zero]
  intro entry present sends
  unfold commitsAt at sends
  split at sends
  · rename_i tc id
    exact none tc id present
  · exact Bool.false_ne_true sends

/-- While no commit has been sent, the order is kept. -/
theorem order_of_noCommit (none : NoCommit history) : TwoPhaseOrder participants history where
  prepared := by
    intro before tc txID starts
    exact absurd (starts.subset List.mem_concat_self) (none tc txID)
  once := by
    intro addr
    rw [countP_commitsAt_of_noCommit none]
    exact Nat.zero_le 1
  forward := by
    intro before tc txID starts client id present
    exact none client id (starts.subset (List.mem_append_left _ present))

/-- Every participant has answered that it is prepared. -/
def AllPrepared (participants : Map String TxID) (history : List (Activity gate)) : Prop :=
  ∀ addr id, participants.lookup addr = some id →
    ∃ client resp, client.target = addr ∧ resp.prepared = true ∧
      .answered (.prepare client id) (.ok resp) ∈ history

/-- A first phase in which everyone is prepared may be followed by commits. -/
theorem order_of_phases
    (none : NoCommit first)
    (all : AllPrepared participants first)
    (once : ∀ addr, second.countP (commitsAt addr) ≤ 1)
    (forward : ∀ tc id, .issued (.rollback tc id) ∉ second) :
    TwoPhaseOrder participants (first ++ second) where
  prepared := by
    intro before tc txID starts addr id found
    obtain ⟨client, resp, target, yes, answered⟩ := all addr id found
    refine ⟨client, resp, target, yes, ?_⟩
    rcases prefix_append_cases starts with inside | ⟨after, _⟩
    · exact absurd (inside.subset List.mem_concat_self) (none tc txID)
    · exact after.subset answered
  once := by
    intro addr
    rw [List.countP_append, countP_commitsAt_of_noCommit none, Nat.zero_add]
    exact once addr
  forward := by
    intro before tc txID starts client id sent
    rcases prefix_append_cases starts with inside | ⟨_, late⟩
    · exact none client id (inside.subset (List.mem_append_left _ sent))
    · exact forward tc txID late

/-- A phase reads the participants of the session. -/
theorem Told.shards
    {shards : List (String × TxID)}
    (told : Told session participants (before ++
      .issued (.participatingShardsMap session) ::
        .answered (.participatingShardsMap session) shards :: later))
    (remembers : Remembers session before) :
    shards.Perm (participants.entries.map fun entry => (entry.1, entry.2)) := by
  refine told.listed (before ++ [.issued (.participatingShardsMap session)]) shards
    ⟨later, by simp⟩ ?_
  intro present
  rcases List.mem_append.mp present with early | last
  · exact remembers early
  · cases List.mem_singleton.mp last

/-- After the first phase everyone is prepared. -/
theorem prepared_of_prepareAll
    (remembers : Remembers session before)
    (told : Told session participants (before ++ first))
    (completed : (Goroutines.prepareAll session).Partly first (.pure none)) :
    AllPrepared participants first := by
  intro addr id found
  cases completed with
  | @perform _ _ _ _ shards later =>
      cases later with
      | @fork _ _ _ forked rest _ complaint joins later =>
          cases complaint with
          | some complaint => cases later
          | none =>
              have present : prepareShard addr id ∈
                  shards.map fun shard => prepareShard shard.1 shard.2 := by
                refine List.mem_map.mpr ⟨(addr, id), ?_, rfl⟩
                refine (told.shards remembers).mem_iff.mpr ?_
                exact List.mem_map.mpr ⟨⟨addr, id⟩, AList.mem_lookup_iff.mp found, rfl⟩
              obtain ⟨log, partly, within⟩ := joins.finished present
              obtain ⟨tc, resp, client, yes, answered⟩ := prepared_of_partly partly
              have inside : log ⊆ .issued (.participatingShardsMap session) ::
                  .answered (.participatingShardsMap session) shards :: (forked ++ rest) := by
                intro entry logged
                simp [within logged]
              exact ⟨tc, resp,
                told.clients addr tc (List.mem_append_right _ (inside client)), yes,
                inside answered⟩

/-- The second phase sends one commit at most to each address. -/
theorem once_of_commitAll
    (remembers : Remembers session before)
    (told : Told session participants (before ++ second))
    (happened : (Goroutines.commitAll session).History second)
    (addr : String) :
    second.countP (commitsAt addr) ≤ 1 := by
  rcases happened with rfl | rfl | ⟨shards, later, rfl, forked⟩
  · exact Nat.zero_le 1
  · exact Nat.zero_le 1
  · obtain ⟨_, _, _, workers⟩ : ∃ workers channel records,
        Forked (shards.map fun shard => commitShard shard.1 shard.2) workers channel later
          records := by
      rcases forked with forked | ⟨forked, rest, _, rfl, ⟨_, _, _, whole, _⟩, nothing⟩
      · exact forked
      · rw [Job.History] at nothing
        rw [nothing, List.append_nil]
        exact ⟨_, _, _, whole⟩
    have bound := workers.countP_le (commitsAt addr) (fun shard => [shard.1].count addr)
      fun shard _ log _ accounts within => commits_of_accounts accounts fun other tc logged =>
        told.clients other tc (List.mem_append_right _
          (List.mem_cons_of_mem _ (List.mem_cons_of_mem _ (within logged))))
    have distinct : (shards.map Prod.fst).Nodup := by
      rw [((told.shards remembers).map Prod.fst).nodup_iff, List.map_map]
      exact participants.keys_nodup
    calc
      _ = later.countP (commitsAt addr) := rfl
      _ ≤ (shards.map fun shard => [shard.1].count addr).sum := bound
      _ = (shards.flatMap fun shard => [shard.1]).count addr := List.count_flatMap.symm
      _ = (shards.map Prod.fst).count addr := by rw [List.map_eq_flatMap]
      _ ≤ 1 := List.nodup_iff_count_le_one.mp distinct addr

/-- Operations that do not roll back. -/
def GateOp.Forward (op : GateOp) : Prop :=
  ∀ tc id, op ≠ .rollback tc id

/-- Operations that neither commit nor roll back. -/
def GateOp.Aside (op : GateOp) : Prop :=
  (∀ tc id, op ≠ .commit tc id) ∧ op.Forward

/-- The second phase and what follows it. -/
theorem commits_of_history
    (remembers : Remembers session before)
    (told : Told session participants (before ++ second))
    (happened : (do
      let uncommitted ← Goroutines.commitAll session
      match uncommitted with
      | some failure => Goroutines.fail failure
      | none => Goroutines.concludeCommit session : GateJob Outcome).History second) :
    (∀ addr, second.countP (commitsAt addr) ≤ 1) ∧
      ∀ tc id, .issued (.rollback tc id) ∉ second := by
  have advances : (Goroutines.commitAll session).Only GateOp.Forward :=
    Goroutines.only_commitAll (fun _ _ => nofun) (fun _ _ _ => nofun) fun _ _ _ _ => nofun
  have forward : ∀ {phase}, (Goroutines.commitAll session).History phase →
      ∀ tc id, .issued (.rollback tc id) ∉ phase := fun happened tc id sent =>
    Job.allowed_of_history happened advances sent tc id rfl
  rcases Job.history_bind happened with within | ⟨phase, tail, uncommitted, rfl, completed, beyond⟩
  · exact ⟨once_of_commitAll remembers told within, forward within⟩
  · have phased : (Goroutines.commitAll session).History phase := completed.happened
    have aside : ∀ op, .issued op ∈ tail → op.Aside := by
      cases uncommitted with
      | some failure =>
          intro op present
          rw [show tail = [] from beyond] at present
          cases present
      | none =>
          intro op present
          refine Job.allowed_of_history beyond ?_ present
          exact ⟨⟨fun _ _ => nofun, fun _ _ => nofun⟩,
            fun _ => ⟨⟨fun _ _ => nofun, fun _ _ => nofun⟩, fun _ => trivial⟩⟩
    have quiet : NoCommit tail := fun tc id sent => (aside _ sent).1 tc id rfl
    rw [← List.append_assoc] at told
    constructor
    · intro addr
      rw [List.countP_append, countP_commitsAt_of_noCommit quiet, Nat.add_zero]
      exact once_of_commitAll remembers (told.of_prefix (List.prefix_append _ _)) phased addr
    · intro tc id sent
      rcases List.mem_append.mp sent with early | late
      · exact forward phased tc id early
      · exact (aside _ late).2 tc id rfl

theorem order_of_commitInPhases
    (none : NoCommit before)
    (remembers : Remembers session before)
    (told : Told session participants (before ++ later))
    (happened : (Goroutines.commitInPhases session).History later) :
    TwoPhaseOrder participants (before ++ later) := by
  have prepares : (Goroutines.prepareAll session).Only GateOp.Keeps :=
    Goroutines.only_prepareAll trivial (fun _ => trivial) fun _ _ => trivial
  rcases Job.history_bind happened with
    within | ⟨first, second, unprepared, rfl, completed, beyond⟩
  · exact order_of_noCommit (none.append (noCommit_of_keeps within prepares))
  · have phased : (Goroutines.prepareAll session).History first := completed.happened
    have early : NoCommit (before ++ first) := none.append (noCommit_of_keeps phased prepares)
    rw [← List.append_assoc] at told ⊢
    cases unprepared with
    | some failure =>
        have aborts := Goroutines.only_abort (keeps_rollbacks session) failure
        exact order_of_noCommit (early.append (noCommit_of_keeps beyond aborts))
    | none =>
        have remembered : Remembers session (before ++ first) :=
          remembers.append fun present => Job.allowed_of_history phased prepares present
        have all : AllPrepared participants first :=
          prepared_of_prepareAll remembers (told.of_prefix (List.prefix_append _ _)) completed
        obtain ⟨once, forward⟩ := commits_of_history remembered told beyond
        refine order_of_phases early ?_ once forward
        intro addr id found
        obtain ⟨client, resp, target, yes, answered⟩ := all addr id found
        exact ⟨client, resp, target, yes, List.mem_append_right _ answered⟩

/-- Every history of a commit with several participants is in order. -/
theorem order_of_commit
    (several : 2 ≤ participants.entries.length)
    (told : Told session participants history)
    (happened : (Goroutines.commit session).History history) :
    TwoPhaseOrder participants history := by
  have unsent : ∀ {entries : List (Activity gate)}, NoCommit entries →
      TwoPhaseOrder participants entries := order_of_noCommit
  rcases happened with rfl | rfl | ⟨state, later, rfl, happened⟩
  · exact unsent (by simp [NoCommit])
  · exact unsent (by simp [NoCommit])
  · dsimp only at happened
    split at happened
    · rcases happened with rfl | rfl | ⟨printed, last, rfl, rfl⟩
      · exact unsent (by simp [NoCommit])
      · exact unsent (by simp [NoCommit])
      · exact unsent (by simp [NoCommit])
    · rcases happened with rfl | rfl | ⟨count, last, rfl, happened⟩
      · exact unsent (by simp [NoCommit])
      · exact unsent (by simp [NoCommit])
      · have counted : count = participants.entries.length :=
          told.counted [.issued (.getState session), .answered (.getState session) state,
            .issued (.shardCount session)] count ⟨last, by simp⟩ (by simp [Remembers])
        have unsentYet : NoCommit [.issued (.getState session),
            .answered (.getState session) state, .issued (.shardCount session),
            .answered (.shardCount session) count] := by simp [NoCommit]
        subst counted
        dsimp only at happened
        rw [if_neg (Nat.ne_of_gt (Nat.lt_of_lt_of_le Nat.two_pos several)),
          if_neg (Nat.ne_of_gt several)] at happened
        exact order_of_commitInPhases unsentYet (by simp [Remembers]) told happened

end Phases

/-- In every run of a commit of several participants whose session no other
request changes, the two phases are in order and no goroutine blocks. -/
theorem commit_in_two_phases
    (ext : Externals)
    (caller : Caller)
    (session : Int)
    {w later : World}
    {state : Job.State gate String Outcome}
    {history : List (Activity gate)}
    (own : w.router.TargetsOwn)
    (several : 2 ≤ (w.sessions session).shardTxIDs.entries.length)
    (runs : CommitRuns ext caller session w state later history) :
    TwoPhaseOrder (w.sessions session).shardTxIDs history ∧ ¬ state.Blocked := by
  have standing := runs.standing
  exact ⟨order_of_commit several (observed_of_runs own runs).told standing.happened,
    standing.not_blocked (Goroutines.roomy_commit session)⟩

/-- The history of a commit that asks both participants one after the other. -/
def commitHistory : List (Activity gate) :=
  Activity.ofTrace ((Coordinator.commit 1).trace (World.machine integralExternals) ⟨2, some 1⟩
    (Strategy.constant {}) twoParticipants)

theorem two_participants_in_phases :
    2 ≤ (twoParticipants.sessions 1).shardTxIDs.entries.length ∧
      commitHistory.countP (commitsAt "a:1") = 1 ∧
      commitHistory.countP (commitsAt "b:1") = 1 ∧
      TwoPhaseOrder (twoParticipants.sessions 1).shardTxIDs commitHistory := by
  have runs := Job.Runs.sequential (fun move w => Elsewhere.move move) (Strategy.constant {})
    (Goroutines.roomy_commit 1)
    (.start : CommitRuns integralExternals ⟨2, some 1⟩ 1 twoParticipants _ twoParticipants [])
  rw [Goroutines.sequential_commit, List.nil_append] at runs
  exact ⟨by decide, by decide, by decide,
    (commit_in_two_phases integralExternals ⟨2, some 1⟩ 1 (targetsOwn_of_entries (by decide))
      (by decide) runs).1⟩

end VScale
