import VScale.Gate.Operations

/-!
# Proof rules for the programs of the gate

Each rule derives the weakest precondition of a loop from what is known of one
round, over any contract.  A failure makes the outcome an error, so what follows
it only has to keep the guarantee.
-/

namespace VScale

open Aggregate Effects

/-- The program keeps its guarantee from any world. -/
def Harmless
    (contract : Contract World)
    (steps : (op : GateOp) → World → op.Answer → World → Prop)
    (program : GateM α) : Prop :=
  ∀ w, program.wp contract steps (fun _ _ => True) w

section Rules

variable {contract : Contract World}
variable {steps : (op : GateOp) → World → op.Answer → World → Prop}

variable {program : GateM α}

/-- A program of operations that keep the guarantee is harmless. -/
theorem harmless_of_only
    {allowed : GateOp → Prop}
    (kept : ∀ op before answer after, allowed op → steps op before answer after →
      contract.guarantee before after)
    (only : program.Only allowed) : Harmless contract steps program := by
  intro w
  induction program generalizing w with
  | pure value => exact fun _ _ => trivial
  | perform op next ih =>
      intro before _ answer after stepped
      exact ⟨kept op before answer after only.1 stepped,
        ih answer (only.2 answer) after⟩

/-- A harmless program needs no postcondition. -/
theorem Harmless.bind
    {rest : α → GateM β}
    {post : β → World → Prop}
    (harmless : Harmless contract steps program)
    (follows : ∀ value later, (rest value).wp contract steps post later)
    (w : World) :
    (program >>= rest).wp contract steps post w :=
  Prog.wp_bind (Prog.wp_mono (harmless w) fun value later _ => follows value later)

/-- Once the first pending item is done, each item is among the others or done. -/
theorem pending_or_done
    {first item : α}
    {rest : List α}
    {done : Prop}
    (earlier : item ∈ first :: rest ∨ done)
    (now : item = first → done) : item ∈ rest ∨ done := by
  rcases earlier with pending | before
  · exact (List.mem_cons.mp pending).symm.imp_right now
  · exact Or.inr before

/-- What holds after a success. -/
def OnSuccess (holds : World → Prop) (outcome : Except ε α) (w : World) : Prop :=
  ∀ value, outcome = .ok value → holds w

theorem wp_failure
    {holds : World → Prop}
    (failure : ε)
    (w : World) :
    (Prog.pure (.error failure : Except ε α) : GateM (Except ε α)).wp contract steps
      (OnSuccess holds) w :=
  fun _ _ _ succeeded => nomatch succeeded

namespace Coordinator

variable {session : Int} {holds : World → Prop}

/-- Aborting fails, so nothing has to hold after it. -/
theorem wp_abort
    (harmless : Harmless contract steps (rollbackAll session))
    (message : String)
    (w : World) : (abort session message).wp contract steps (OnSuccess holds) w :=
  harmless.bind (fun _ later => wp_failure _ later) w

/-- Execute on one tablet with the id held for it. -/
def executeOn
    (session : Int)
    (sql : SqlText)
    (tc : TabletClient) :
    GateM (Except String QueryResponse) :=
  .perform (.getLocalTxID session tc.target) fun held =>
    .perform (.execute tc sql (held.getD TxID.zero)) .pure

/-- The result of a scatter with the answer of one more tablet. -/
def gatherAnswer
    (tc : TabletClient)
    (answer : Except String QueryResponse)
    (later : Option String × List QueryResult) : Option String × List QueryResult :=
  match answer with
  | .error failure =>
      (some ("coordinator: scatter query failed on shard " ++ tc.target ++ ": " ++ failure),
        later.2)
  | .ok resp => (later.1, resp.results ++ later.2)

/-- A scatter runs on one tablet and then on the rest. -/
theorem scatterLoop_cons
    (session : Int)
    (sql : SqlText)
    (tc : TabletClient)
    (rest : List TabletClient) :
    scatterLoop session sql (tc :: rest) =
      (executeOn session sql tc >>= fun answer =>
        scatterLoop session sql rest >>= fun later =>
          .pure (gatherAnswer tc answer later)) := by
  change Prog.perform _ _ = Prog.perform _ _
  congr
  funext held
  change Prog.perform _ _ = Prog.perform _ _
  congr
  funext answer
  cases answer with
  | error | ok => rfl

/-- Every round of a scatter that succeeds keeps a property. -/
structure Executing
    (contract : Contract World)
    (steps : (op : GateOp) → World → op.Answer → World → Prop)
    (session : Int)
    (sql : SqlText)
    (tablets : List TabletClient)
    (good : World → Prop) :
    Prop where
  stable : ∀ before after, contract.rely before after → good before → good after
  harmless : ∀ tc, Harmless contract steps (executeOn session sql tc)
  runs : ∀ tc ∈ tablets, ∀ w, good w →
    (executeOn session sql tc).wp contract steps (OnSuccess good) w

variable {sql : SqlText} {tablets : List TabletClient} {good : World → Prop}

theorem harmless_scatterLoop
    (harmless : ∀ tc, Harmless contract steps (executeOn session sql tc))
    (tablets : List TabletClient) :
    Harmless contract steps (scatterLoop session sql tablets) := by
  induction tablets with
  | nil => exact fun _ _ _ => trivial
  | cons tc rest ih =>
      rw [scatterLoop_cons]
      apply (harmless tc).bind
      intro answer
      apply ih.bind
      intro later final reached _
      trivial

variable {w : World} {shards : List (String × TxID)}

/-- A scatter without complaint ran on every tablet. -/
theorem wp_scatterLoop
    (executing : Executing contract steps session sql tablets good)
    {visited : List TabletClient}
    (listed : visited ⊆ tablets)
    (start : good w) :
    (scatterLoop session sql visited).wp contract steps
      (fun gathered later => gathered.1 = none → good later) w := by
  induction visited generalizing w with
  | nil => exact fun later reached _ => executing.stable w later reached start
  | cons tc rest ih =>
      have onRest : rest ⊆ tablets := fun other present =>
        listed (List.mem_cons_of_mem tc present)
      rw [scatterLoop_cons]
      apply Prog.wp_seq (executing.runs tc (listed List.mem_cons_self) w start)
      intro answer later succeeded
      cases answer with
      | error failure =>
          apply (harmless_scatterLoop executing.harmless rest).bind
          intro gathered final reached _ none
          cases none
      | ok resp =>
          apply Prog.wp_seq (ih onRest (succeeded resp rfl))
          intro gathered final kept last reached none
          exact executing.stable final last reached (kept none)

/-- A scattered statement that succeeds ran on every tablet. -/
theorem wp_executeScatter
    {ext : Externals}
    (executing : Executing contract steps session (shardText ext sql) tablets good)
    (aborts : Harmless contract steps (rollbackAll session))
    (start : good w) :
    (executeScatter ext session sql tablets).wp contract steps (OnSuccess good) w := by
  apply Prog.wp_seq (wp_scatterLoop executing (List.Subset.refl _) start)
  rintro ⟨failed, results⟩ later kept
  have succeed : ∀ outcome : Outcome, failed = none →
      (Prog.pure outcome : GateM Outcome).wp contract steps (OnSuccess good) later :=
    fun _ none final reached _ _ => executing.stable later final reached (kept none)
  cases failed with
  | some failure => exact wp_abort aborts failure later
  | none =>
      simp only
      split
      · split
        · exact wp_abort aborts _ later
        · exact succeed _ rfl
        · exact succeed _ rfl
      · exact succeed _ rfl

/-- A statement that succeeds ran on its tablet. -/
theorem wp_executeSingle
    (executing : Executing contract steps session sql tablets good)
    {tc : TabletClient}
    (listed : tc ∈ tablets)
    (start : good w) :
    (executeSingle session sql tc).wp contract steps (OnSuccess good) w := by
  have single : executeSingle session sql tc =
      executeOn session sql tc >>= fun answer => .pure (answer.mapError Fault.error) := rfl
  rw [single]
  apply Prog.wp_seq (executing.runs tc listed w start)
  intro answer later succeeded final reached value outcome
  cases answer with
  | error failure => cases outcome
  | ok resp => exact executing.stable later final reached (succeeded resp rfl)

variable {ask : String → TxID → GateM (Option String)}

theorem harmless_fanOut
    (harmless : ∀ addr id, Harmless contract steps (ask addr id))
    (shards : List (String × TxID)) : Harmless contract steps (fanOut ask shards) := by
  induction shards with
  | nil => exact fun _ _ _ => trivial
  | cons shard rest ih =>
      apply (harmless shard.1 shard.2).bind
      intro complaint
      exact ih.bind fun _ _ _ _ => trivial

/-- Participants without a complaint are no longer pending. -/
theorem wp_fanOut
    {pending : List (String × TxID) → World → Prop}
    (stable : ∀ shards before after, contract.rely before after →
      pending shards before → pending shards after)
    (harmless : ∀ addr id, Harmless contract steps (ask addr id))
    (asks : ∀ shard rest w, pending (shard :: rest) w →
      (ask shard.1 shard.2).wp contract steps
        (fun complaint later => complaint = none → pending rest later) w)
    (start : pending shards w) :
    (fanOut ask shards).wp contract steps
      (fun complaint later => complaint = none → pending [] later) w := by
  induction shards generalizing w with
  | nil => exact fun later reached _ => stable [] w later reached start
  | cons shard rest ih =>
      apply Prog.wp_seq (asks shard rest w start)
      intro complaint later satisfied
      cases complaint with
      | some reason =>
          apply (harmless_fanOut harmless rest).bind
          intro others final reached _ none
          cases none
      | none =>
          apply Prog.wp_seq (ih (satisfied rfl))
          intro others final kept last reached none
          exact stable [] final last reached (kept none)

/-- Every participant is answered in a fine way. -/
theorem wp_fanOut_each
    {pending : List (String × TxID) → World → Prop}
    {fine : Option String → Prop}
    (stable : ∀ shards before after, contract.rely before after →
      pending shards before → pending shards after)
    (silent : fine none)
    (joined : ∀ first second, fine first → fine second → fine (first.or second))
    (asks : ∀ shard rest w, pending (shard :: rest) w →
      (ask shard.1 shard.2).wp contract steps
        (fun complaint later => fine complaint ∧ pending rest later) w)
    (start : pending shards w) :
    (fanOut ask shards).wp contract steps
      (fun complaint later => fine complaint ∧ pending [] later) w := by
  induction shards generalizing w with
  | nil => exact fun later reached => ⟨silent, stable [] w later reached start⟩
  | cons shard rest ih =>
      apply Prog.wp_seq (asks shard rest w start)
      rintro complaint later ⟨fineHere, waiting⟩
      apply Prog.wp_seq (ih waiting)
      rintro others final ⟨fineThere, done⟩ last reached
      exact ⟨joined complaint others fineHere fineThere, stable [] final last reached done⟩

/-- Find the client of a participant and ask it to commit. -/
def commitOn (addr : String) (id : TxID) : GateM (Option (Except String CommitResponse)) :=
  .perform (.getClient addr) fun client =>
    match client with
    | none => .pure none
    | some tc => .perform (.commit tc id) fun answer => .pure (some answer)

/-- The participant has confirmed the commit. -/
def confirmed : Option (Except String CommitResponse) → Bool
  | some (.ok resp) => resp.committed
  | _ => false

/-- What a participant complains about. -/
def commitComplaint (addr : String) : Option (Except String CommitResponse) → Option String
  | none => some ("commit on " ++ addr ++ ": client not available")
  | some (.error failure) => some ("commit on " ++ addr ++ ": " ++ failure)
  | some (.ok resp) =>
      if resp.committed then none
      else some ("commit on " ++ addr ++ " rejected" ++ ": " ++ resp.error)

theorem confirmed_of_no_complaint
    {addr : String}
    {answer : Option (Except String CommitResponse)}
    (silent : commitComplaint addr answer = none) : confirmed answer = true := by
  unfold commitComplaint at silent
  split at silent
  · cases silent
  · cases silent
  · split at silent
    · rename_i resp committed
      exact committed
    · cases silent

/-- Committing a participant is asking it and noting its complaint. -/
theorem commitShard_eq
    (addr : String)
    (id : TxID) :
    commitShard addr id =
      (commitOn addr id >>= fun answer => .pure (commitComplaint addr answer)) := by
  change Prog.perform _ _ = Prog.perform _ _
  congr
  funext client
  cases client with
  | none => rfl
  | some tc =>
      change Prog.perform _ _ = Prog.perform _ _
      congr
      funext answer
      cases answer with
      | error failure => rfl
      | ok resp =>
          obtain ⟨committed, reason⟩ := resp
          cases committed with
          | true | false => rfl

/-- How a commit with a single participant goes on after an answer. -/
def afterCommitOn
    (session : Int)
    (addr : String)
    (rest : GateM Outcome) :
    Option (Except String CommitResponse) → GateM Outcome
  | none => GateM.fail ("coordinator: tablet " ++ addr ++ " not available for commit")
  | some (.error failure) =>
      abort session ("coordinator: commit on " ++ addr ++ " failed: " ++ failure)
  | some (.ok resp) =>
      if resp.committed then rest
      else abort session ("coordinator: commit on " ++ addr ++ " rejected: " ++ resp.error)

/-- One participant is asked before the rest. -/
theorem commitEach_cons
    (session : Int)
    (shard : String × TxID)
    (rest : List (String × TxID)) :
    commitEach session (shard :: rest) =
      (commitOn shard.1 shard.2 >>= afterCommitOn session shard.1 (commitEach session rest)) := by
  change Prog.perform _ _ = Prog.perform _ _
  congr
  funext client
  cases client with
  | none => rfl
  | some tc =>
      change Prog.perform _ _ = Prog.perform _ _
      congr
      funext answer
      cases answer with
      | error | ok => rfl

/-- Every participant that confirms is no longer pending. -/
structure Committing
    (contract : Contract World)
    (steps : (op : GateOp) → World → op.Answer → World → Prop)
    (session : Int)
    (pending : List (String × TxID) → World → Prop) : Prop where
  stable : ∀ shards before after, contract.rely before after →
    pending shards before → pending shards after
  harmless : ∀ addr id, Harmless contract steps (commitOn addr id)
  aborts : Harmless contract steps (rollbackAll session)
  asks : ∀ shard rest w, pending (shard :: rest) w →
    (commitOn shard.1 shard.2).wp contract steps
      (fun answer later => confirmed answer = true → pending rest later) w

variable {pending : List (String × TxID) → World → Prop}

/-- A commit without phases that succeeds asked every participant. -/
theorem wp_commitEach
    (committing : Committing contract steps session pending)
    (concludes : ∀ w, pending [] w →
      (concludeCommit session).wp contract steps (OnSuccess holds) w)
    (start : pending shards w) :
    (commitEach session shards).wp contract steps (OnSuccess holds) w := by
  induction shards generalizing w with
  | nil => exact concludes w start
  | cons shard rest ih =>
      rw [commitEach_cons]
      apply Prog.wp_seq (committing.asks shard rest w start)
      intro answer later satisfied
      cases answer with
      | none => exact wp_failure _ later
      | some reply =>
          cases reply with
          | error failure => exact wp_abort committing.aborts _ later
          | ok resp =>
              simp only [afterCommitOn]
              split
              · rename_i accepted
                exact ih (satisfied accepted)
              · exact wp_abort committing.aborts _ later

/-- The second phase leaves no participant pending unless it complains. -/
theorem wp_commitShards
    (committing : Committing contract steps session pending)
    (start : pending shards w) :
    (fanOut commitShard shards).wp contract steps
      (fun complaint later => complaint = none → pending [] later) w := by
  apply wp_fanOut committing.stable _ _ start
  · intro addr id
    rw [commitShard_eq]
    exact (committing.harmless addr id).bind fun _ _ _ _ => trivial
  · intro shard rest middle waiting
    rw [commitShard_eq]
    apply Prog.wp_seq (committing.asks shard rest middle waiting)
    intro answer later satisfied final reached silent
    exact committing.stable rest later final reached
      (satisfied (confirmed_of_no_complaint silent))

end Coordinator

end Rules

end VScale
