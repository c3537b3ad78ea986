import VScale.Effects.Pool
import VScale.Gate.Recording
import VScale.Pgwire.Front

/-!
# The clients of the gate

Clients send requests to the gate or open connections to it, any number of them at
once.  A request acts for the session it names, and a connection for the session
whose id it holds at the moment.

Everything a client has open is entrusted to that session.
-/

namespace VScale
namespace Pgwire

open Aggregate Effects Tree

/-- What a client starts.  The loops of a connection are unrolled. -/
inductive Job
  | request (req : QueryRequest)
  | connection (startup rounds : Nat)

/-- What a client sees at the end. -/
inductive JobResult
  | answered (outcome : Outcome)
  | ended (progress : Conn.Progress)

/-- A client, with the number of its call. -/
structure Client where
  number : Nat
  job : Job

namespace Client

/-- The session a client acts for, zero when there is none. -/
def session (client : Client) (conns : Nat → Wire) : Int :=
  match client.job with
  | .request req => req.transactionId
  | .connection _ _ => (conns client.number).txID

/-- The caller as which a client acts at the gate. -/
def caller (client : Client) (conns : Nat → Wire) : Caller :=
  ⟨client.number, if client.session conns = 0 then none else some (client.session conns)⟩

variable {client : Client} {before after : Nat → Wire}

theorem session_congr (same : after client.number = before client.number) :
    client.session after = client.session before := by
  unfold session
  split
  · rfl
  · rw [same]

theorem caller_congr (same : after client.number = before client.number) :
    client.caller after = client.caller before := by
  unfold caller
  rw [session_congr same]

end Client

/-- The program that serves a client. -/
def Job.program
    (ext : Externals)
    (parse : String → SqlText) : Job → FrontM JobResult
  | .request req => (Gateway.execute ext req).left >>= fun outcome => .pure (.answered outcome)
  | .connection startup rounds =>
      overGate ext parse (Conn.run ext parse startup rounds) >>= fun progress =>
        .pure (.ended progress)

/-- The gate and its connections, used by clients. -/
def clientMachine (ext : Externals) : Machine front Client Front FrontChoice FrontMove :=
  (World.machine ext).beside (Wire.machine.each.usedBy Client.number) Client.caller

/-- The gate with all its clients. -/
def frontService
    (ext : Externals)
    (parse : String → SqlText) :
    Service front Job JobResult Client Front FrontChoice FrontMove where
  toMachine := clientMachine ext
  program := Job.program ext parse
  caller := Client.mk
  conclude := fun _ _ f => f

/-- The pools of clients. -/
abbrev FrontPool := Pool front Job JobResult Front

/-- The steps of clients. -/
abbrev FrontLabel := Label Job FrontChoice FrontMove

/-- Others leave the wire of a client alone and its session in custody. -/
def keeping (client : Client) : Contract Front where
  rely := fun before after =>
    after.2 client.number = before.2 client.number ∧
      (custody (client.session before.2) client.number).rely before.1 after.1
  guarantee := fun before after =>
    World.Honours (client.session before.2) client.number before.1 after.1 ∧
      ∀ other, other ≠ client.number → after.2 other = before.2 other
  rely_refl := fun _ => ⟨rfl, Contract.rely_refl _ _⟩
  rely_trans := by
    rintro first second third ⟨same, relied⟩ ⟨later, reliedLater⟩
    rw [Client.session_congr same] at reliedLater
    exact ⟨later.trans same, Contract.rely_trans _ relied reliedLater⟩

/-- Clients of participants are found, and texts begin no transactions. -/
def Front.Careful (f : Front) : front.Op → Prop
  | .inl op => f.1.Careful op
  | .inr _ => True

/-- Careful steps of a client in worlds that are in order, with every call answered. -/
def StepsKept
    (ext : Externals)
    (client : Client)
    (op : front.Op)
    (before : Front)
    (answer : front.Answer op)
    (after : Front) : Prop :=
  before.1.InOrder ∧ before.Careful op ∧
    ∃ choice : FrontChoice, choice.1.network = .answered ∧
      (clientMachine ext).act client op choice before = (answer, after)

/-- A program of a client. -/
abbrev Kept
    (ext : Externals)
    (client : Client)
    (program : FrontM α)
    (post : α → Front → Prop)
    (f : Front) : Prop :=
  program.wp (keeping client) (StepsKept ext client) post f

/-- Everything a client has open is entrusted to its session. -/
def Trusts (client : Client) (f : Front) : Prop :=
  f.1.Entrusts client.number (client.session f.2)

section Programs

variable {ext : Externals} {parse : String → SqlText} {client : Client} {f : Front}

variable {before after : Front} {op : WireOp}

theorem Trusts.rely
    (trusts : Trusts client before)
    (reached : (keeping client).rely before after) : Trusts client after := by
  unfold Trusts
  rw [Client.session_congr reached.1]
  exact World.Entrusts.rely trusts reached.2

/-- A world in order honours all sessions by staying as it is. -/
theorem honours_refl
    {w : World}
    (inOrder : w.InOrder)
    (session : Int)
    (call : Nat) :
    World.Honours session call w w where
  inOrder := inOrder
  kept := fun _ => TxManager.Later.refl _
  found := fun _ present => present
  others := fun _ _ present => ⟨present, rfl, Or.inl rfl⟩
  opened := fun _ _ opened => Or.inl opened
  held := fun _ _ holds _ => holds
  recorded := fun _ _ _ recorded => Or.inl recorded

/-- The gate as a client sees it while its wire stays as it is. -/
theorem embeds_gate (conns : Nat → Wire) :
    Prog.Embeds (keeping client) (StepsKept ext client)
      (custody (client.session conns) client.number) (StepsInOrder ext (client.caller conns))
      (fun others => others client.number = conns client.number) where
  rely := by
    rintro world state other inside ⟨same, relied⟩
    rw [Client.session_congr inside] at relied
    exact ⟨relied, same.trans inside⟩
  guarantee := by
    intro world state other inside honours
    refine ⟨?_, fun _ _ => rfl⟩
    change World.Honours (client.session state) client.number world other
    rw [Client.session_congr inside]
    exact honours
  steps := by
    rintro op world state answer after inside ⟨inOrder, careful, choice, answered, stepped⟩
    obtain ⟨rfl, rfl⟩ := Prod.mk.inj stepped
    refine ⟨⟨inOrder, careful, choice.1, answered, ?_⟩, rfl⟩
    rw [← Client.caller_congr inside]
    rfl

/-- What a program of the gate does for the session of a client. -/
theorem kept_left
    {program : GateM α}
    {post : α → World → Prop}
    (entrusted : Entrusted ext (client.caller f.2) (client.session f.2) program post f.1) :
    Kept ext client program.left
      (fun value later => later.2 client.number = f.2 client.number ∧ post value later.1) f := by
  refine Prog.wp_left_of_embeds (embeds_gate f.2) rfl (Prog.wp_mono entrusted ?_)
  intro value later holds state inside
  exact ⟨inside, holds⟩

/-- What a request has open stays entrusted to its session. -/
theorem kept_request
    (req : QueryRequest)
    (job : client.job = .request req)
    (trusts : Trusts client f) :
    Kept ext client (Job.program ext parse (.request req)) (fun _ later => Trusts client later)
      f := by
  have session : client.session f.2 = req.transactionId := by
    unfold Client.session
    rw [job]
  have entrusts : f.1.Entrusts (client.caller f.2).call req.transactionId := by
    rw [← session]
    exact trusts
  have served : Entrusted ext (client.caller f.2) (client.session f.2) (Gateway.execute ext req)
      (fun _ later => later.Entrusts client.number (client.session f.2)) f.1 := by
    rw [session]
    exact Prog.wp_mono (entrusted_gateway req entrusts) fun _ _ settled => settled.1
  apply Prog.wp_seq (kept_left served)
  rintro outcome later ⟨same, entrusts⟩
  have kept : Trusts client later := by
    unfold Trusts
    rw [Client.session_congr same]
    exact entrusts
  exact fun _ reached => kept.rely reached

/-- Operations of a connection that neither execute nor change its transaction. -/
def WireOp.Silent : WireOp → Prop
  | .execute _ _ => False
  | .setTxID _ => False
  | _ => True

/-- Such operations, beside the gate. -/
def FrontSilent : front.Op → Prop
  | .inl _ => False
  | .inr op => WireOp.Silent op

variable {program : WireM α} {answer : op.Answer} {post : α → Front → Prop}

/-- What does not call the gate stays silent over it. -/
theorem silent_overGate (only : program.Only WireOp.Silent) :
    (overGate ext parse program).Only FrontSilent := by
  apply Prog.only_interpret
  refine Prog.only_mono ?_ only
  intro op silent
  cases op with
  | execute sql txID => exact False.elim silent
  | _ => exact ⟨silent, fun _ => trivial⟩

theorem txID_silent
    (silent : WireOp.Silent op)
    (choice : WireChoice)
    (w : Wire) :
    (w.act op choice).2.txID = w.txID := by
  cases op with
  | setTxID txID => exact False.elim silent
  | send | receive =>
      simp only [Wire.act]
      split
      · rfl
      · rfl
  | _ => rfl

/-- A step on the wire of a client leaves the gate and the other wires alone. -/
theorem wire_of_step (stepped : StepsKept ext client (.inr op) before answer after) :
    after.1 = before.1 ∧
      (∃ choice, (answer, after.2 client.number) = (before.2 client.number).act op choice) ∧
      (keeping client).guarantee before after := by
  obtain ⟨inOrder, _, choice, _, acted⟩ := stepped
  obtain ⟨rfl, rfl⟩ := Prod.mk.inj acted
  refine ⟨rfl, ⟨choice.2, ?_⟩, honours_refl inOrder _ _, ?_⟩
  · change (_, Function.update before.2 client.number _ client.number) = _
    rw [Function.update_self]
    rfl
  · intro other different
    exact Function.update_of_ne different _ _

theorem Client.session_of_txID
    {before after : Nat → Wire}
    (same : (after client.number).txID = (before client.number).txID) :
    client.session after = client.session before := by
  unfold Client.session
  split
  · rfl
  · exact same

theorem Trusts.of_silent
    (silent : WireOp.Silent op)
    (trusts : Trusts client before)
    (stepped : StepsKept ext client (.inr op) before answer after) : Trusts client after := by
  obtain ⟨world, ⟨choice, acted⟩, _⟩ := wire_of_step stepped
  have same : (after.2 client.number).txID = (before.2 client.number).txID := by
    rw [show after.2 client.number = ((before.2 client.number).act op choice).2 from
      congrArg Prod.snd acted]
    exact txID_silent silent choice _
  unfold Trusts
  rw [world, Client.session_of_txID same]
  exact trusts

/-- Silent programs keep the trust in a client. -/
theorem kept_silent
    (only : program.Only WireOp.Silent)
    (trusts : Trusts client f) :
    Kept ext client (overGate ext parse program) (fun _ later => Trusts client later) f := by
  refine Prog.wp_of_only ?_ ?_ (silent_overGate only) trusts
  · exact fun _ _ reached kept => kept.rely reached
  · intro op before answer after silent stepped kept
    cases op with
    | inl op => exact False.elim silent
    | inr op => exact ⟨(wire_of_step stepped).2.2, kept.of_silent silent stepped⟩

theorem kept_bind
    {rest : α → WireM β}
    {post : β → Front → Prop}
    (holds : Kept ext client (overGate ext parse program)
      (fun value later => Kept ext client (overGate ext parse (rest value)) post later) f) :
    Kept ext client (overGate ext parse (program >>= rest)) post f := by
  unfold overGate
  rw [Prog.interpret_bind]
  exact Prog.wp_bind holds

theorem kept_andThen
    {one rest : WireM Handled}
    (holds : Kept ext client (overGate ext parse one) (fun _ later => Trusts client later) f)
    (follows : ∀ later, Trusts client later →
      Kept ext client (overGate ext parse rest) (fun _ later => Trusts client later) later) :
    Kept ext client (overGate ext parse (Conn.andThen one rest))
      (fun _ later => Trusts client later) f := by
  apply kept_bind
  apply Prog.wp_mono holds
  intro handled later kept
  cases handled with
  | error fault => exact fun _ reached => kept.rely reached
  | ok done => exact follows later kept

namespace Conn

theorem silent_send (message : BackendMessage) : (Conn.send message).Only WireOp.Silent := by
  refine ⟨trivial, ?_⟩
  intro failure
  cases failure with
  | some | none => trivial

theorem silent_andThen
    {one rest : WireM Handled}
    (first : one.Only WireOp.Silent)
    (second : rest.Only WireOp.Silent) : (Conn.andThen one rest).Only WireOp.Silent := by
  apply Prog.only_bind first
  intro handled
  cases handled with
  | error fault => trivial
  | ok done => exact second

theorem silent_sendAll (messages : List BackendMessage) :
    (Conn.sendAll messages).Only WireOp.Silent := by
  induction messages with
  | nil => trivial
  | cons message messages ih =>
      exact silent_andThen (silent_send message) ih

theorem silent_sendError (failure : String) : (Conn.sendError failure).Only WireOp.Silent :=
  silent_andThen (silent_send _) (silent_send _)

theorem silent_sendResults
    (ext : Externals)
    (results : List QueryResult) :
    (Conn.sendResults ext results).Only WireOp.Silent := by
  induction results with
  | nil => trivial
  | cons qr results ih =>
      refine silent_andThen ?_ ih
      unfold Conn.sendResult
      split
      · trivial
      · exact silent_sendAll _

theorem silent_handleStartup (rounds : Nat) : (Conn.handleStartup rounds).Only WireOp.Silent := by
  induction rounds with
  | zero => trivial
  | succ rounds ih =>
      refine ⟨trivial, ?_⟩
      intro received
      simp only
      split
      · trivial
      · exact Prog.only_bind (silent_sendAll _) fun _ => trivial
      · refine ⟨trivial, ?_⟩
        intro failure
        cases failure with
        | some reason => trivial
        | none => exact ih
      · trivial

/-- A query is answered at once, or its statements are executed. -/
theorem handleQuery_cases
    (ext : Externals)
    (parse : String → SqlText)
    (sql : String) :
    (Conn.handleQuery ext parse sql).Only WireOp.Silent ∨
      ∃ stmts, Conn.handleQuery ext parse sql = Conn.handleStatements ext stmts := by
  unfold Conn.handleQuery
  simp only
  split
  · exact Or.inl (silent_send _)
  · split
    · exact Or.inl (silent_sendError _)
    · exact Or.inl (silent_send _)
    · exact Or.inr ⟨_, rfl⟩

/-- How a connection goes on after a query. -/
def afterQuery : Handled → Conn.Progress
  | .ok () => .serving
  | .error (.error _) => .returned
  | .error .crash => .crashed

theorem handleMessage_query
    (ext : Externals)
    (parse : String → SqlText)
    (sql : String) :
    Conn.handleMessage ext parse (.query sql) =
      Conn.handleQuery ext parse sql >>= fun handled => .pure (afterQuery handled) := by
  unfold Conn.handleMessage
  simp only
  congr
  funext handled
  rcases handled with fault | done
  · cases fault with
    | error | crash => rfl
  · rfl

end Conn

/-- The client is a connection. -/
def Client.Connected (client : Client) : Prop :=
  ∃ startup rounds, client.job = .connection startup rounds

theorem Client.Connected.session
    (connected : client.Connected)
    (conns : Nat → Wire) :
    client.session conns = (conns client.number).txID := by
  obtain ⟨startup, rounds, job⟩ := connected
  unfold Client.session
  rw [job]

/-- A text passed to the gateway with the transaction that the connection holds. -/
theorem kept_pass
    (connected : client.Connected)
    {sql : String}
    {next : Outcome → WireM α}
    (trusts : Trusts client f)
    (follows : ∀ outcome later, Trusts client later →
      (Controls (parse sql) → ∀ resp, outcome = .ok resp →
        later.1.Free client.number ∨ (resp.transactionId.id : Int) = client.session later.2) →
      Kept ext client (overGate ext parse (next outcome)) post later) :
    Kept ext client (overGate ext parse (.perform .txID fun (txID : Int) =>
      .perform (.execute sql txID) next)) post f := by
  intro before reached (txID : Int) after stepped
  have silent : WireOp.Silent .txID := trivial
  have kept := (trusts.rely reached).of_silent silent stepped
  obtain ⟨world, ⟨choice, acted⟩, guaranteed⟩ := wire_of_step stepped
  refine ⟨guaranteed, ?_⟩
  have held : txID = client.session after.2 := by
    rw [connected.session]
    obtain ⟨told, same⟩ := Prod.mk.inj acted
    rw [same]
    exact told
  have entrusted : Entrusted ext (client.caller after.2) (client.session after.2)
      (Gateway.execute ext ⟨parse sql, txID⟩)
      (fun outcome later => later.Entrusts client.number txID ∧
        (Controls (parse sql) → Settles client.number txID outcome later)) after.1 := by
    rw [← held]
    refine entrusted_gateway ⟨parse sql, txID⟩ ?_
    rw [held]
    exact kept
  change Kept ext client ((Gateway.execute ext ⟨parse sql, txID⟩).left >>= fun outcome =>
    overGate ext parse (next outcome)) post after
  apply Prog.wp_seq (kept_left entrusted)
  rintro outcome later ⟨same, entrusts, settles⟩
  have session : client.session later.2 = txID := by
    rw [Client.session_congr same, held]
  apply follows outcome later
  · unfold Trusts
    rw [session]
    exact entrusts
  · intro controls resp answered
    rw [session]
    exact (settles controls).2 resp answered

/-- A connection with nothing open may change its session. -/
theorem kept_setTxID
    (connected : client.Connected)
    {txID : Int}
    {next : Unit → WireM α}
    (trusts : Trusts client f)
    (settled : f.1.Free client.number ∨ txID = client.session f.2)
    (follows : ∀ later, Trusts client later →
      Kept ext client (overGate ext parse (next ())) post later) :
    Kept ext client (overGate ext parse (.perform (.setTxID txID) next)) post f := by
  intro before reached answer after stepped
  obtain ⟨world, ⟨choice, acted⟩, guaranteed⟩ := wire_of_step stepped
  refine ⟨guaranteed, follows after ?_⟩
  have changed : client.session after.2 = txID := by
    rw [connected.session, show after.2 client.number = { before.2 client.number with txID := txID }
      from congrArg Prod.snd acted]
  unfold Trusts
  rw [world, changed]
  rcases settled with free | same
  · exact (free.rely reached.2).entrusts txID
  · rw [same, ← Client.session_congr reached.1]
    exact trusts.rely reached

/-- BEGIN, COMMIT and ROLLBACK keep the trust in a client. -/
theorem kept_handleControl
    (connected : client.Connected)
    {command : String}
    (controls : Controls (parse command))
    (trusts : Trusts client f) :
    Kept ext client (overGate ext parse (Conn.handleControl command))
      (fun _ later => Trusts client later) f := by
  refine kept_pass connected trusts ?_
  intro outcome later kept settled
  cases outcome with
  | error fault =>
      cases fault with
      | crash => exact fun _ reached => kept.rely reached
      | error failure => exact kept_silent (Conn.silent_sendError failure) kept
  | ok resp =>
      refine kept_setTxID connected kept (settled controls resp rfl) ?_
      intro told keptTold
      exact kept_silent (Conn.silent_send _) keptTold

/-- The parser reads the commands of the gate as transaction control. -/
structure ReadsCommands (parse : String → SqlText) : Prop where
  begin : Controls (parse "BEGIN")
  commit : Controls (parse "COMMIT")
  rollback : Controls (parse "ROLLBACK")

variable (commands : ReadsCommands parse) (connected : client.Connected)
include commands connected

/-- So do other statements. -/
theorem kept_handleStatements
    (stmts : List Statement)
    (trusts : Trusts client f) :
    Kept ext client (overGate ext parse (Conn.handleStatements ext stmts))
      (fun _ later => Trusts client later) f := by
  induction stmts generalizing f with
  | nil =>
      refine kept_silent ⟨trivial, ?_⟩ trusts
      intro txID
      simp only
      split
      · exact Conn.silent_send _
      · exact Conn.silent_send _
  | cons stmt stmts ih =>
      have goesOn : ∀ later, Trusts client later →
          Kept ext client (overGate ext parse (Conn.handleStatements ext stmts))
            (fun _ later => Trusts client later) later := fun _ kept => ih kept
      unfold Conn.handleStatements
      split
      · exact kept_andThen (kept_handleControl connected commands.begin trusts) goesOn
      · split
        · exact kept_andThen (kept_handleControl connected commands.commit trusts) goesOn
        · split
          · exact kept_andThen (kept_handleControl connected commands.rollback trusts) goesOn
          · refine kept_pass connected trusts ?_
            intro outcome later kept _
            cases outcome with
            | error fault =>
                cases fault with
                | crash => exact fun _ reached => kept.rely reached
                | error failure => exact kept_silent (Conn.silent_sendError failure) kept
            | ok resp =>
                exact kept_andThen (kept_silent (Conn.silent_sendResults ext resp.results) kept)
                  goesOn

theorem kept_query
    {program : WireM Handled}
    {conclude : Handled → Conn.Progress}
    (shape : program.Only WireOp.Silent ∨ ∃ stmts, program = Conn.handleStatements ext stmts)
    (trusts : Trusts client f) :
    Kept ext client (overGate ext parse (program >>= fun handled => .pure (conclude handled)))
      (fun _ later => Trusts client later) f := by
  apply kept_bind
  have served : Kept ext client (overGate ext parse program)
      (fun _ later => Trusts client later) f := by
    rcases shape with silent | ⟨stmts, rfl⟩
    · exact kept_silent silent trusts
    · exact kept_handleStatements commands connected stmts trusts
  apply Prog.wp_mono served
  intro handled later kept
  exact fun _ reached => kept.rely reached

/-- So does each message. -/
theorem kept_handleMessage
    (message : FrontendMessage)
    (trusts : Trusts client f) :
    Kept ext client (overGate ext parse (Conn.handleMessage ext parse message))
      (fun _ later => Trusts client later) f := by
  have told : ∀ {program : WireM Handled}, program.Only WireOp.Silent →
      Kept ext client (overGate ext parse (program >>= fun _ => pure Conn.Progress.serving))
        (fun _ later => Trusts client later) f := by
    intro program only
    exact kept_silent (Prog.only_bind only fun _ => trivial) trusts
  cases message with
  | query sql =>
      have shape := Conn.handleQuery_cases ext parse sql
      rw [Conn.handleMessage_query]
      generalize Conn.handleQuery ext parse sql = program at shape ⊢
      exact kept_query commands connected shape trusts
  | terminate | other => exact fun _ reached => trusts.rely reached
  | parse | bind | sync | close => exact told (Conn.silent_send _)
  | execute => exact told (Conn.silent_sendError _)

/-- So does a whole connection. -/
theorem kept_serveMessages
    (rounds : Nat)
    (trusts : Trusts client f) :
    Kept ext client (overGate ext parse (Conn.serveMessages ext parse rounds))
      (fun _ later => Trusts client later) f := by
  induction rounds generalizing f with
  | zero => exact fun _ reached => trusts.rely reached
  | succ rounds ih =>
      intro before reached received after stepped
      have silent : WireOp.Silent .receive := trivial
      have kept := (trusts.rely reached).of_silent silent stepped
      refine ⟨(wire_of_step stepped).2.2, ?_⟩
      cases received with
      | error failure => exact fun _ reached => kept.rely reached
      | ok message =>
          refine kept_bind (Prog.wp_mono (kept_handleMessage commands connected message kept) ?_)
          intro progress later keptLater
          cases progress with
          | serving => exact ih keptLater
          | returned | crashed => exact fun _ reached => keptLater.rely reached

/-- What a connection has open stays entrusted to the session whose id it holds. -/
theorem kept_connection
    (startup rounds : Nat)
    (trusts : Trusts client f) :
    Kept ext client (Job.program ext parse (.connection startup rounds))
      (fun _ later => Trusts client later) f := by
  apply Prog.wp_bind
  refine kept_bind (Prog.wp_mono (kept_silent (Conn.silent_handleStartup startup) trusts) ?_)
  intro started later kept
  have finish : ∀ {progress : Conn.Progress}, Kept ext client
      (overGate ext parse (pure progress))
      (fun progress later => Kept ext client (.pure (JobResult.ended progress))
        (fun _ later => Trusts client later) later) later :=
    fun {_} _ reached _ reachedLast => (kept.rely reached).rely reachedLast
  rcases started with _ | ⟨fault⟩ | _
  · exact finish
  · exact finish
  · refine Prog.wp_mono (kept_serveMessages commands connected rounds kept) ?_
    intro progress final keptFinal last reached
    exact keptFinal.rely reached

omit connected in
theorem kept_job
    (number : Nat)
    (job : Job)
    (trusts : Trusts ⟨number, job⟩ f) :
    Kept ext ⟨number, job⟩ (Job.program ext parse job)
      (fun _ later => Trusts ⟨number, job⟩ later) f := by
  cases job with
  | request req => exact kept_request req rfl trusts
  | connection startup rounds =>
      exact kept_connection commands ⟨startup, rounds, rfl⟩ startup rounds trusts

end Programs

end Pgwire
end VScale
