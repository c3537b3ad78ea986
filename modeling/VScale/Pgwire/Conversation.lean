import VScale.Pgwire.Conn

/-!
# What the handlers of a connection do

One description of every way in which the statements of a query are answered: the
events in order, what the handler returns and the transaction it leaves.  The
network may break at any send, unless all sends are known to be taken.
-/

namespace VScale
namespace Pgwire

open Aggregate Effects Tree

/-- The network takes every message. -/
def Reliable (step : Step wire Wire WireChoice) : Prop :=
  step.choice.failure = none

/-- A program of a connection ends by steps of some kind. -/
abbrev Ends
    (allowed : Step wire Wire WireChoice → Prop)
    (program : WireM α)
    (w : Wire)
    (value : α)
    (final : Wire) : Prop :=
  program.Returns Wire.machine () (fun _ _ => False) allowed w value final

/-- A program of a connection ends in given ways only. -/
structure Surely
    (allowed : Step wire Wire WireChoice → Prop)
    (program : WireM α)
    (post : α → Wire → Prop)
    (w : Wire) : Prop where
  wp : program.wp (Contract.alone Wire) (Wire.machine.StepsWhen allowed ()) post w

variable {allowed : Step wire Wire WireChoice → Prop}

/-- What surely holds, holds at the end of each run. -/
theorem post_of_ends
    {program : WireM α}
    {w : Wire}
    {value : α}
    {final : Wire}
    {post : α → Wire → Prop}
    (ends : Ends allowed program w value final)
    (surely : Surely allowed program post w) :
    post value final :=
  ends.post (fun _ _ none => none.elim) surely.wp

/-- A client, a network and a gateway that go by what has happened. -/
def script (choose : Wire → WireOp → WireChoice) : Strategy wire Wire WireChoice Empty where
  moves := fun _ _ => []
  choice := choose

/-- A program ends under any permitted script. -/
theorem ends_script
    {choose : Wire → WireOp → WireChoice}
    (fine : ∀ w op, allowed ⟨w, op, choose w op⟩)
    (program : WireM α)
    (w : Wire) :
    Ends allowed program w (program.run Wire.machine () (script choose) w).1
      (program.run Wire.machine () (script choose) w).2 := by
  induction program generalizing w with
  | pure value => exact .pure value w
  | perform op next ih =>
      exact .perform (choose w op) (fine w op) (ih _ _)

/-- Some send may fail. -/
def Failing (allowed : Step wire Wire WireChoice → Prop) : Prop :=
  ∃ step, allowed step ∧ ¬ Reliable step

theorem not_failing_reliable : ¬ Failing Reliable :=
  fun ⟨_, taken, lost⟩ => lost taken

/-- Messages sent while a connection holds a transaction. -/
def sentAt (txID : Int) (answer : List BackendMessage) : List WireEvent :=
  answer.map fun message => .sent message txID

/-- The connection after some events. -/
def Wire.after (w : Wire) (events : List WireEvent) : Wire :=
  { w with log := w.log ++ events }

@[simp] theorem Wire.after_nil (w : Wire) : w.after [] = w := by
  simp only [after, List.append_nil]

@[simp] theorem Wire.after_after
    (w : Wire)
    (early late : List WireEvent) :
    (w.after early).after late = w.after (early ++ late) := by
  simp only [after, List.append_assoc]

@[simp] theorem Wire.txID_after
    (w : Wire)
    (events : List WireEvent) :
    (w.after events).txID = w.txID := rfl

@[simp] theorem Wire.log_after
    (w : Wire)
    (events : List WireEvent) :
    (w.after events).log = w.log ++ events := rfl

section Operations

variable {allowed : Step wire Wire WireChoice → Prop} {w : Wire}

theorem surely_pure
    {value : α}
    {post : α → Wire → Prop}
    (holds : post value w) :
    Surely allowed (.pure value) post w :=
  ⟨Prog.wp_pure_alone holds⟩

variable {program : WireM α}

theorem surely_mono
    {strong weak : α → Wire → Prop}
    (surely : Surely allowed program strong w)
    (implies : ∀ value final, strong value final → weak value final) :
    Surely allowed program weak w :=
  ⟨Prog.wp_mono surely.wp implies⟩

/-- The rule for two programs in sequence. -/
theorem surely_bind
    {rest : α → WireM β}
    {post : β → Wire → Prop}
    (surely :
      Surely allowed program (fun value later => Surely allowed (rest value) post later) w) :
    Surely allowed (program >>= rest) post w :=
  ⟨Prog.wp_bind (Prog.wp_mono surely.wp fun _ _ follows => follows.wp)⟩

/-- The rule for one operation. -/
theorem surely_perform
    {op : WireOp}
    {next : op.Answer → WireM α}
    {post : α → Wire → Prop}
    (follows : ∀ choice, allowed ⟨w, op, choice⟩ →
      Surely allowed (next (w.act op choice).1) post (w.act op choice).2) :
    Surely allowed (Prog.perform op next) post w := by
  refine ⟨Prog.wp_perform_alone ?_⟩
  rintro answer after ⟨choice, fine, stepped⟩
  obtain ⟨rfl, rfl⟩ := Prod.mk.inj stepped
  exact (follows choice fine).wp

theorem surely_txID
    {next : Int → WireM α}
    {post : α → Wire → Prop}
    (follows : Surely allowed (next w.txID) post w) :
    Surely allowed (Prog.perform .txID next) post w :=
  surely_perform fun _ _ => follows

/-- The gate answers a statement in any way. -/
theorem surely_execute
    {sql : String}
    {txID : Int}
    {next : Outcome → WireM α}
    {post : α → Wire → Prop}
    (follows : ∀ outcome, Surely allowed (next outcome) post (w.after [.passed sql txID outcome])) :
    Surely allowed (Prog.perform (.execute sql txID) next) post w :=
  surely_perform fun choice _ => follows choice.outcome

variable {post : Handled → Wire → Prop}

/-- A fault ends the handling of a message. -/
theorem surely_andThen
    {first rest : WireM Handled}
    (starts : Surely allowed first
      (fun handled later =>
        match handled with
        | .error fault => post (.error fault) later
        | .ok () => Surely allowed rest post later) w) :
    Surely allowed (Conn.andThen first rest) post w := by
  apply surely_bind
  apply surely_mono starts
  intro handled later holds
  cases handled with
  | error fault => exact surely_pure holds
  | ok value => exact holds

/-- A send breaks the connection or is logged. -/
theorem surely_send
    {message : BackendMessage}
    (breaks : ∀ reason, Failing allowed → post (.error (.error reason)) w)
    (sends : post (.ok ()) (w.after (sentAt w.txID [message]))) :
    Surely allowed (Conn.send message) post w := by
  apply surely_perform
  intro choice fine
  simp only [Wire.act]
  cases taken : choice.failure with
  | some reason =>
      refine surely_pure (breaks reason ⟨_, fine, ?_⟩)
      simp only [Reliable, taken]
      rintro ⟨⟩
  | none => exact surely_pure sends

end Operations

section Sending

variable {allowed : Step wire Wire WireChoice → Prop} {w : Wire}

variable {answer : List BackendMessage} {post : Handled → Wire → Prop} {ext : Externals}

/-- Messages go out in order until the network breaks. -/
theorem surely_sendAll
    (breaks : ∀ reason sent, sent <+: answer → Failing allowed →
      post (.error (.error reason)) (w.after (sentAt w.txID sent)))
    (sends : post (.ok ()) (w.after (sentAt w.txID answer))) :
    Surely allowed (Conn.sendAll answer) post w := by
  induction answer generalizing w with
  | nil =>
      apply surely_pure
      simpa only [sentAt, List.map_nil, Wire.after_nil] using sends
  | cons message rest ih =>
      apply surely_andThen
      apply surely_send
      · intro reason failing
        have broken := breaks reason [] (List.nil_prefix) failing
        simpa only [sentAt, List.map_nil, Wire.after_nil] using broken
      · apply ih
        · intro reason sent early failing
          rw [Wire.after_after]
          exact breaks reason (message :: sent) (List.cons_prefix_cons.mpr ⟨rfl, early⟩) failing
        · rw [Wire.after_after]
          exact sends

/-- The two messages that report an error. -/
def errorReport (failure : String) : List BackendMessage :=
  [.errorResponse "ERROR" "XX000" failure, .readyForQuery 'I']

/-- An error report is sent or breaks off. -/
theorem surely_sendError
    {failure : String}
    (breaks : ∀ reason sent, sent <+: errorReport failure → Failing allowed →
      post (.error (.error reason)) (w.after (sentAt w.txID sent)))
    (sends : post (.ok ()) (w.after (sentAt w.txID (errorReport failure)))) :
    Surely allowed (Conn.sendError failure) post w := by
  apply surely_andThen
  apply surely_send
  · intro reason failing
    have broken := breaks reason [] List.nil_prefix failing
    simpa only [sentAt, List.map_nil, Wire.after_nil] using broken
  · apply surely_send
    · intro reason failing
      exact breaks reason [.errorResponse "ERROR" "XX000" failure] ⟨_, rfl⟩ failing
    · rw [Wire.after_after]
      exact sends

/-- A message that belongs to a result. -/
def BackendMessage.IsResult : BackendMessage → Prop
  | .rowDescription _ => True
  | .dataRow _ => True
  | .commandComplete _ => True
  | _ => False

/-- A result is sent as result messages only. -/
theorem isResult_of_sendResult
    {qr : QueryResult}
    (described : sendResult ext qr = some answer) : ∀ message ∈ answer, message.IsResult := by
  unfold sendResult at described
  simp only at described
  split at described
  · injection described with same
    subst same
    exact List.forall_mem_singleton.mpr trivial
  · split at described
    · cases described
    · injection described with same
      subst same
      intro message listed
      rcases List.mem_append.mp listed with early | last
      · rcases List.mem_cons.mp early with rfl | row
        · exact trivial
        · obtain ⟨values, _, rfl⟩ := List.mem_map.mp row
          exact trivial
      · rw [List.mem_singleton.mp last]
        exact trivial

/-- The messages of all results. -/
def resultMessages (ext : Externals) (results : List QueryResult) : List BackendMessage :=
  results.flatMap fun qr => (sendResult ext qr).getD []

/-- How the results of a statement are sent. -/
structure Sending
    (ext : Externals)
    (broken : Prop)
    (results : List QueryResult)
    (answer : List BackendMessage)
    (handled : Handled) : Prop where
  kinds : ∀ message ∈ answer, message.IsResult
  done : handled = .ok () → answer = resultMessages ext results ∧
    ∀ qr ∈ results, (sendResult ext qr).isSome = true
  failed : ∀ reason, handled = .error (.error reason) → broken
  crashed : handled = .error .crash → ∃ early qr late, results = early ++ qr :: late ∧
    sendResult ext qr = none ∧ answer = resultMessages ext early

/-- The results are sent or break off. -/
theorem surely_sendResults
    {results : List QueryResult}
    (sends : ∀ answer handled, Sending ext (Failing allowed) results answer handled →
      post handled (w.after (sentAt w.txID answer))) :
    Surely allowed (Conn.sendResults ext results) post w := by
  induction results generalizing w with
  | nil =>
      apply surely_pure
      have done := sends [] (.ok ())
        ⟨List.forall_mem_nil _, fun _ => ⟨rfl, List.forall_mem_nil _⟩, nofun, nofun⟩
      simpa only [sentAt, List.map_nil, Wire.after_nil] using done
  | cons qr rest ih =>
      apply surely_andThen
      unfold Conn.sendResult
      cases described : sendResult ext qr with
      | none =>
          apply surely_pure
          have crashed := sends [] (.error .crash)
            ⟨List.forall_mem_nil _, nofun, nofun, fun _ => ⟨[], qr, rest, rfl, described, rfl⟩⟩
          simpa only [sentAt, List.map_nil, Wire.after_nil] using crashed
      | some messages =>
          have kinds := isResult_of_sendResult described
          apply surely_sendAll
          · intro reason sent early failing
            exact sends sent _ ⟨fun message listed => kinds message (early.subset listed), nofun,
              fun _ _ => failing, nofun⟩
          · apply ih
            intro answer handled later
            rw [Wire.after_after, Wire.txID_after, sentAt, sentAt, ← List.map_append]
            refine sends (messages ++ answer) handled ⟨?_, ?_, later.failed, ?_⟩
            · exact List.forall_mem_append.mpr ⟨kinds, later.kinds⟩
            · intro finished
              obtain ⟨same, all⟩ := later.done finished
              refine ⟨?_, List.forall_mem_cons.mpr ⟨by rw [described]; rfl, all⟩⟩
              rw [same, resultMessages, resultMessages, List.flatMap_cons, described,
                Option.getD_some]
            · intro crashed
              obtain ⟨early, culprit, late, split, undescribed, same⟩ := later.crashed crashed
              refine ⟨qr :: early, culprit, late, by rw [split, List.cons_append], undescribed, ?_⟩
              rw [same, resultMessages, resultMessages, List.flatMap_cons, described,
                Option.getD_some]

end Sending

/-- How the statements of a query are answered, from a transaction to another. -/
inductive Conversation
    (ext : Externals)
    (broken : Prop) :
    List Statement → Int → List WireEvent → Handled → Int → Prop
  | ready (txID : Int) :
      Conversation ext broken [] txID
        (sentAt txID [.readyForQuery (if txID = 0 then 'I' else 'T')]) (.ok ()) txID
  | unready (txID : Int) (reason : String) (lost : broken) :
      Conversation ext broken [] txID [] (.error (.error reason)) txID
  | crashed {stmt : Statement} {stmts : List Statement} {txID : Int} (sql : String) :
      Conversation ext broken (stmt :: stmts) txID [.passed sql txID (.error .crash)]
        (.error .crash) txID
  | unreported {stmt : Statement} {stmts : List Statement} {txID : Int} (sql failure : String)
      (sent : List BackendMessage) (early : sent <+: errorReport failure) (reason : String)
      (lost : broken) :
      Conversation ext broken (stmt :: stmts) txID
        (.passed sql txID (.error (.error failure)) :: sentAt txID sent)
        (.error (.error reason)) txID
  | refused {stmt : Statement} {stmts : List Statement} {txID : Int} (failure : String)
      (plain : Parser.isTxControl stmt = false) :
      Conversation ext broken (stmt :: stmts) txID
        (.passed stmt.sql txID (.error (.error failure)) :: sentAt txID (errorReport failure))
        (.ok ()) txID
  | ignored {stmt : Statement} {stmts : List Statement} {txID final : Int} (sql failure : String)
      (control : Parser.isTxControl stmt = true) {later : List WireEvent} {handled : Handled}
      (rest : Conversation ext broken stmts txID later handled final) :
      Conversation ext broken (stmt :: stmts) txID
        (.passed sql txID (.error (.error failure)) :: sentAt txID (errorReport failure) ++ later)
        handled final
  | uncompleted {stmt : Statement} {stmts : List Statement} {txID : Int} (sql : String)
      (resp : QueryResponse) (control : Parser.isTxControl stmt = true) (reason : String)
      (lost : broken) :
      Conversation ext broken (stmt :: stmts) txID [.passed sql txID (.ok resp)]
        (.error (.error reason)) resp.transactionId.id
  | controlled {stmt : Statement} {stmts : List Statement} {txID final : Int} (sql : String)
      (resp : QueryResponse) (control : Parser.isTxControl stmt = true)
      {later : List WireEvent} {handled : Handled}
      (rest : Conversation ext broken stmts resp.transactionId.id later handled final) :
      Conversation ext broken (stmt :: stmts) txID
        (.passed sql txID (.ok resp) ::
          sentAt resp.transactionId.id [.commandComplete sql] ++ later) handled final
  | unanswered {stmt : Statement} {stmts : List Statement} {txID : Int}
      (resp : QueryResponse) (plain : Parser.isTxControl stmt = false)
      {answer : List BackendMessage} {fault : Fault}
      (sending : Sending ext broken resp.results answer (.error fault)) :
      Conversation ext broken (stmt :: stmts) txID
        (.passed stmt.sql txID (.ok resp) :: sentAt txID answer) (.error fault) txID
  | answered {stmt : Statement} {stmts : List Statement} {txID final : Int}
      (resp : QueryResponse) (plain : Parser.isTxControl stmt = false)
      {answer : List BackendMessage}
      (sending : Sending ext broken resp.results answer (.ok ()))
      {later : List WireEvent} {handled : Handled}
      (rest : Conversation ext broken stmts txID later handled final) :
      Conversation ext broken (stmt :: stmts) txID
        (.passed stmt.sql txID (.ok resp) :: sentAt txID answer ++ later) handled final

section Statements

variable {allowed : Step wire Wire WireChoice → Prop} {ext : Externals}

/-- A connection is left after a conversation. -/
def Wire.conversed (w : Wire) (events : List WireEvent) (txID : Int) : Wire :=
  { txID := txID, log := w.log ++ events }

theorem Wire.conversed_after
    (w : Wire)
    (early late : List WireEvent)
    (txID : Int) :
    (w.after early).conversed late txID = w.conversed (early ++ late) txID := by
  simp only [conversed, log_after, List.append_assoc]

variable {post : Handled → Wire → Prop} {stmts : List Statement} {w : Wire}

/-- A statement that controls transactions. -/
theorem surely_control
    {command : String}
    {stmt : Statement}
    (control : Parser.isTxControl stmt = true)
    (continues : ∀ {w : Wire} {post : Handled → Wire → Prop},
      (∀ events handled final,
        Conversation ext (Failing allowed) stmts w.txID events handled final →
          post handled (w.conversed events final)) →
      Surely allowed (Conn.handleStatements ext stmts) post w)
    (ends : ∀ events handled final,
      Conversation ext (Failing allowed) (stmt :: stmts) w.txID events handled final →
        post handled (w.conversed events final)) :
    Surely allowed (Conn.andThen (Conn.handleControl command) (Conn.handleStatements ext stmts))
      post w := by
  apply surely_andThen
  apply surely_txID
  apply surely_execute
  intro outcome
  rcases outcome with (⟨failure⟩ | _) | resp
  · apply surely_sendError
    · intro reason sent early failing
      rw [Wire.after_after]
      exact ends _ _ _ (.unreported command failure sent early reason failing)
    · apply continues
      intro events handled final rest
      rw [Wire.after_after, Wire.conversed_after]
      exact ends _ _ _ (.ignored command failure control rest)
  · exact surely_pure (ends _ _ _ (.crashed command))
  · apply surely_perform
    intro choice _
    apply surely_send
    · intro reason failing
      exact ends _ _ _ (.uncompleted command resp control reason failing)
    · apply continues
      intro events handled final rest
      have whole := ends _ _ _ (.controlled command resp control rest)
      simpa [Wire.conversed, Wire.after, Wire.act] using whole

/-- Every way in which the statements of a query are answered. -/
theorem surely_handleStatements (ends : ∀ events handled final,
      Conversation ext (Failing allowed) stmts w.txID events handled final →
        post handled (w.conversed events final)) :
    Surely allowed (Conn.handleStatements ext stmts) post w := by
  induction stmts generalizing w post with
  | nil =>
      apply surely_txID
      split
      · rename_i inside
        apply surely_send
        · intro reason failing
          have broken := ends _ _ _ (.unready w.txID reason failing)
          simpa [Wire.conversed] using broken
        · have done := ends _ _ _ (.ready w.txID)
          rw [if_neg inside] at done
          exact done
      · rename_i outside
        apply surely_send
        · intro reason failing
          have broken := ends _ _ _ (.unready w.txID reason failing)
          simpa [Wire.conversed] using broken
        · have done := ends _ _ _ (.ready w.txID)
          rw [if_pos (not_ne_iff.mp outside)] at done
          exact done
  | cons stmt stmts ih =>
      have control : Parser.isTxControl stmt = true → ∀ command, Surely allowed
          (Conn.andThen (Conn.handleControl command) (Conn.handleStatements ext stmts)) post w :=
        fun control _ => surely_control control ih ends
      unfold Conn.handleStatements
      split
      · rename_i begins
        exact control (by simp [Parser.isTxControl, begins]) _
      · split
        · rename_i commits
          exact control (by simp [Parser.isTxControl, commits]) _
        · split
          · rename_i rollsBack
            exact control (by simp [Parser.isTxControl, rollsBack]) _
          · rename_i begins commits rollsBack
            have plain : Parser.isTxControl stmt = false := by
              simp [Parser.isTxControl, begins, commits, rollsBack]
            apply surely_txID
            apply surely_execute
            intro outcome
            rcases outcome with (⟨failure⟩ | _) | resp
            · apply surely_sendError
              · intro reason sent early failing
                rw [Wire.after_after]
                exact ends _ _ _ (.unreported stmt.sql failure sent early reason failing)
              · rw [Wire.after_after]
                exact ends _ _ _ (.refused failure plain)
            · exact surely_pure (ends _ _ _ (.crashed stmt.sql))
            · apply surely_andThen
              apply surely_sendResults
              intro answer handled sending
              rw [Wire.after_after]
              cases handled with
              | error fault => exact ends _ _ _ (.unanswered resp plain sending)
              | ok value =>
                  apply ih
                  intro events handled final rest
                  rw [Wire.conversed_after]
                  exact ends _ _ _ (.answered resp plain sending rest)

end Statements

end Pgwire
end VScale
