import VScale.Pgwire.Conversation
import VScale.Router.PointRouting

/-!
# How a query is answered

The answer to a query should end with the only `ReadyForQuery` in it, and nothing
should be executed after an error was reported.  A statement that controls
transactions reports its error and lets the loop go on, so each such failure adds
one `ReadyForQuery`; an empty query is answered with none.
-/

namespace VScale
namespace Pgwire

open Aggregate Effects Tree

section Events

variable {txID : Int} {answer : List BackendMessage} {events later : List WireEvent}

@[simp] theorem messages_append : messages (events ++ later) = messages events ++ messages later :=
  List.filterMap_append ..

@[simp] theorem messages_passed
    (sql : String)
    (outcome : Outcome) :
    messages (.passed sql txID outcome :: events) = messages events := rfl

@[simp] theorem messages_sentAt : messages (sentAt txID answer) = answer := by
  simp [messages, sentAt, List.filterMap_map]

@[simp] theorem outcomes_append : outcomes (events ++ later) = outcomes events ++ outcomes later :=
  List.filterMap_append ..

@[simp] theorem outcomes_passed
    (sql : String)
    (outcome : Outcome) :
    outcomes (.passed sql txID outcome :: events) = outcome :: outcomes events := rfl

@[simp] theorem outcomes_sentAt : outcomes (sentAt txID answer) = [] := by
  simp [outcomes, sentAt, List.filterMap_map]

end Events

/-- How a query is answered, from a transaction to another. -/
inductive Answering
    (ext : Externals)
    (parse : String → SqlText)
    (broken : Prop)
    (sql : String)
    (txID : Int) : List WireEvent → Handled → Int → Prop
  | blank (blank : trimSpace sql = "" ∨ parse (trimSpace sql) = .ok []) :
      Answering ext parse broken sql txID (sentAt txID [.emptyQueryResponse]) (.ok ()) txID
  | lost (blank : trimSpace sql = "" ∨ parse (trimSpace sql) = .ok []) (reason : String)
      (lost : broken) :
      Answering ext parse broken sql txID [] (.error (.error reason)) txID
  | unparsed (text : trimSpace sql ≠ "") (failure : String)
      (invalid : parse (trimSpace sql) = .error failure) :
      Answering ext parse broken sql txID (sentAt txID (errorReport failure)) (.ok ()) txID
  | unreported (text : trimSpace sql ≠ "") (failure : String)
      (invalid : parse (trimSpace sql) = .error failure) (sent : List BackendMessage)
      (early : sent <+: errorReport failure) (reason : String) (lost : broken) :
      Answering ext parse broken sql txID (sentAt txID sent) (.error (.error reason)) txID
  | statements (text : trimSpace sql ≠ "") (stmts : List Statement) (some : stmts ≠ [])
      (parsed : parse (trimSpace sql) = .ok stmts) {events : List WireEvent} {handled : Handled}
      {final : Int} (conversation : Conversation ext broken stmts txID events handled final) :
      Answering ext parse broken sql txID events handled final

variable {allowed : Step wire Wire WireChoice → Prop} {parse : String → SqlText} {sql : String}
variable {w : Wire}

variable {ext : Externals}

/-- Every way in which a query is answered. -/
theorem surely_handleQuery
    {post : Handled → Wire → Prop}
    (ends : ∀ events handled final,
      Answering ext parse (Failing allowed) sql w.txID events handled final →
        post handled (w.conversed events final)) :
    Surely allowed (Conn.handleQuery ext parse sql) post w := by
  have blank : trimSpace sql = "" ∨ parse (trimSpace sql) = .ok [] →
      Surely allowed (Conn.send .emptyQueryResponse) post w := by
    intro blank
    apply surely_send
    · intro reason failing
      have broken := ends _ _ _ (.lost blank reason failing)
      simpa [Wire.conversed] using broken
    · exact ends _ _ _ (.blank blank)
  unfold Conn.handleQuery
  simp only
  split
  · rename_i empty
    exact blank (Or.inl empty)
  · rename_i text
    split
    · rename_i failure invalid
      apply surely_sendError
      · intro reason sent early failing
        exact ends _ _ _ (.unreported text failure invalid sent early reason failing)
      · exact ends _ _ _ (.unparsed text failure invalid)
    · rename_i nothing
      exact blank (Or.inr nothing)
    · rename_i stmt stmts parsed
      apply surely_handleStatements
      intro events handled final conversation
      exact ends _ _ _ (.statements text (stmt :: stmts) (List.cons_ne_nil _ _) parsed conversation)

/-- How the query of a run was answered. -/
theorem answering_of_ends
    {final : Wire}
    {handled : Handled}
    (ends : Ends allowed (Conn.handleQuery ext parse sql) w handled final) :
    ∃ events, final.log = w.log ++ events ∧
      Answering ext parse (Failing allowed) sql w.txID events handled final.txID := by
  have surely : Surely allowed (Conn.handleQuery ext parse sql)
      (fun handled final => ∃ events, final.log = w.log ++ events ∧
        Answering ext parse (Failing allowed) sql w.txID events handled final.txID) w := by
    apply surely_handleQuery
    intro events handled final answering
    exact ⟨events, rfl, answering⟩
  exact post_of_ends ends surely

/-- A message that tells the client to go on. -/
def BackendMessage.IsReady : BackendMessage → Prop
  | .readyForQuery _ => True
  | _ => False

/-- Exactly one message tells the client to go on, and it is the last one. -/
def Framed (answer : List BackendMessage) : Prop :=
  ∃ earlier status, answer = earlier ++ [.readyForQuery status] ∧
    ∀ message ∈ earlier, ¬ message.IsReady

section Framed

variable {first second : List BackendMessage}

/-- Messages of other kinds may come first. -/
theorem framed_append (quiet : ∀ message ∈ first, ¬ message.IsReady) :
    Framed (first ++ second) ↔ Framed second := by
  constructor
  · rintro ⟨earlier, status, same, alone⟩
    rcases List.eq_nil_or_concat second with rfl | ⟨init, last, rfl⟩
    · rw [List.append_nil] at same
      have listed : .readyForQuery status ∈ first := by
        rw [same]
        exact List.mem_append_right _ (List.mem_singleton.mpr rfl)
      exact absurd trivial (quiet _ listed)
    · rw [List.concat_eq_append] at same ⊢
      rw [← List.append_assoc] at same
      obtain ⟨rfl, lastReady⟩ := List.append_inj' same rfl
      injection lastReady with lastReady
      refine ⟨init, status, by rw [lastReady], ?_⟩
      exact fun message listed => alone message (List.mem_append_right _ listed)
  · rintro ⟨earlier, status, rfl, alone⟩
    refine ⟨first ++ earlier, status, (List.append_assoc ..).symm, ?_⟩
    exact List.forall_mem_append.mpr ⟨quiet, alone⟩

/-- Nothing may follow the message that tells the client to go on. -/
theorem not_framed_append
    (ready : ∃ message ∈ first, message.IsReady)
    (more : second ≠ []) :
    ¬ Framed (first ++ second) := by
  rintro ⟨earlier, status, same, alone⟩
  obtain ⟨message, listed, isReady⟩ := ready
  rcases List.eq_nil_or_concat second with rfl | ⟨init, last, rfl⟩
  · exact more rfl
  · rw [List.concat_eq_append, ← List.append_assoc] at same
    obtain ⟨rfl, _⟩ := List.append_inj' same rfl
    exact alone message (List.mem_append_left _ listed) isReady

theorem framed_errorReport (failure : String) : Framed (errorReport failure) :=
  ⟨[.errorResponse "ERROR" "XX000" failure], 'I', rfl, List.forall_mem_singleton.mpr id⟩

theorem not_isReady_of_isResult
    {message : BackendMessage}
    (result : message.IsResult) :
    ¬ message.IsReady := by
  cases message with
  | rowDescription | dataRow | commandComplete => exact id
  | _ => exact False.elim result

end Framed

/-- A statement and its outcome that leave the rest of the answer in order: a
transaction control that succeeds, an error of another statement, or results that
can all be described. -/
def Unbroken (ext : Externals) (stmt : Statement) (outcome : Outcome) : Prop :=
  match outcome with
  | .error .crash => False
  | .error (.error _) => Parser.isTxControl stmt = false
  | .ok resp => Parser.isTxControl stmt = true ∨
      ∀ qr ∈ resp.results, (sendResult ext qr).isSome = true

section Answer

variable {ext : Externals} {broken : Prop}

variable {events : List WireEvent} {handled : Handled} {stmts : List Statement} {txID final : Int}

/-- A handler that returns no error has answered. -/
theorem messages_ne_nil
    (conversation : Conversation ext broken stmts txID events handled final)
    (returned : handled = .ok ()) : messages events ≠ [] := by
  induction conversation with
  | ready | controlled => simp
  | refused | ignored => simp [errorReport]
  | answered resp plain sending rest ih =>
      simp [ih returned]
  | _ => cases returned

/-- Without network failures the answer to a list of statements is framed exactly
when no outcome breaks it. -/
theorem framed_iff_unbroken
    (taken : ¬ broken)
    (conversation : Conversation ext broken stmts txID events handled final) :
    handled = .ok () ∧ Framed (messages events) ↔
      ∀ pair ∈ stmts.zip (outcomes events), Unbroken ext pair.1 pair.2 := by
  induction conversation with
  | ready txID =>
      simp only [messages_sentAt, true_and, List.zip_nil_left, List.not_mem_nil, false_imp_iff,
        implies_true, iff_true]
      exact ⟨[], _, rfl, List.forall_mem_nil _⟩
  | unready txID reason lost | unreported sql failure sent early reason lost
  | uncompleted sql resp control reason lost => exact absurd lost taken
  | crashed sql => simp [Unbroken]
  | refused failure plain =>
      simp [Unbroken, plain, framed_errorReport]
  | @ignored stmt stmts txID final sql failure control later handled rest ih =>
      have broken : ¬ Unbroken ext stmt (.error (.error failure)) := by
        simp only [Unbroken, control]
        rintro ⟨⟩
      simp only [List.cons_append, messages_passed, messages_append, messages_sentAt,
        outcomes_passed, List.zip_cons_cons, List.forall_mem_cons, broken, false_and, iff_false]
      rintro ⟨returned, framed⟩
      have ready : ∃ message ∈ errorReport failure, message.IsReady :=
        ⟨.readyForQuery 'I', List.mem_cons_of_mem _ (List.mem_singleton.mpr rfl), trivial⟩
      exact not_framed_append ready (messages_ne_nil rest returned) framed
  | @controlled stmt stmts txID final sql resp control later handled rest ih =>
      have fine : Unbroken ext stmt (.ok resp) := Or.inl control
      have quiet : ∀ message ∈ [BackendMessage.commandComplete sql], ¬ message.IsReady :=
        List.forall_mem_singleton.mpr id
      rw [List.cons_append, messages_passed, messages_append, messages_sentAt,
        framed_append quiet, outcomes_passed, outcomes_append, outcomes_sentAt, List.nil_append,
        List.zip_cons_cons, List.forall_mem_cons, ih]
      exact ⟨fun rest => ⟨fine, rest⟩, And.right⟩
  | @unanswered stmt stmts txID resp plain answer fault sending =>
      cases fault with
      | error reason => exact absurd (sending.failed reason rfl) taken
      | crash =>
          obtain ⟨early, qr, late, split, undescribed, _⟩ := sending.crashed rfl
          have listed : qr ∈ resp.results := by
            rw [split]
            exact List.mem_append_right early List.mem_cons_self
          have broken : ¬ Unbroken ext stmt (.ok resp) := by
            rintro (control | described)
            · rw [plain] at control
              cases control
            · have some := described qr listed
              rw [undescribed] at some
              cases some
          simp [broken]
  | @answered stmt stmts txID final resp plain answer sending later handled rest ih =>
      have fine : Unbroken ext stmt (.ok resp) := Or.inr (sending.done rfl).2
      simp only [List.cons_append, messages_passed, messages_append, messages_sentAt,
        outcomes_passed, outcomes_append, outcomes_sentAt, List.nil_append, List.zip_cons_cons,
        List.forall_mem_cons, fine, true_and]
      rw [framed_append fun message listed =>
        not_isReady_of_isResult (sending.kinds message listed)]
      exact ih

/-- A text that is answered in order: it is not blank, and no outcome of its
statements breaks the answer. -/
def Answerable
    (ext : Externals)
    (parse : String → SqlText)
    (sql : String)
    (given : List Outcome) : Prop :=
  trimSpace sql ≠ "" ∧ parse (trimSpace sql) ≠ .ok [] ∧
    ∀ stmts, parse (trimSpace sql) = .ok stmts →
      ∀ pair ∈ stmts.zip given, Unbroken ext pair.1 pair.2

theorem framed_iff_answerable
    {parse : String → SqlText}
    {sql : String}
    (taken : ¬ broken)
    (answering : Answering ext parse broken sql txID events handled final) :
    handled = .ok () ∧ Framed (messages events) ↔ Answerable ext parse sql (outcomes events) := by
  cases answering with
  | blank blank =>
      refine iff_of_false ?_ ?_
      · rintro ⟨_, earlier, status, same, _⟩
        rw [messages_sentAt] at same
        obtain ⟨_, last⟩ := List.append_inj' (show [] ++ [BackendMessage.emptyQueryResponse] = _
          from same) rfl
        cases last
      · rintro ⟨text, some, _⟩
        exact blank.elim text some
  | lost blank reason lost | unreported text failure invalid sent early reason lost =>
      exact absurd lost taken
  | unparsed text failure invalid =>
      refine iff_of_true ⟨rfl, ?_⟩ ⟨text, ?_, ?_⟩
      · rw [messages_sentAt]
        exact framed_errorReport failure
      · rw [invalid]
        rintro ⟨⟩
      · intro stmts parsed
        rw [invalid] at parsed
        cases parsed
  | statements text stmts some parsed conversation =>
      rw [framed_iff_unbroken taken conversation]
      constructor
      · intro unbroken
        refine ⟨text, ?_, ?_⟩
        · rw [parsed]
          exact fun same => some (Except.ok.inj same)
        · intro others same
          rw [parsed] at same
          rw [← Except.ok.inj same]
          exact unbroken
      · intro answerable
        exact answerable.2.2 stmts parsed

/-- The answer to a query is framed exactly when the text is answerable. -/
theorem query_framed_iff_answerable
    (ext : Externals)
    (parse : String → SqlText)
    (sql : String)
    (w : Wire)
    (handled : Handled)
    (final : Wire)
    (ends : Ends Reliable (Conn.handleQuery ext parse sql) w handled final) :
    ∃ events, final.log = w.log ++ events ∧
      (handled = .ok () ∧ Framed (messages events) ↔
        Answerable ext parse sql (outcomes events)) := by
  obtain ⟨events, logged, answering⟩ := answering_of_ends ends
  exact ⟨events, logged, framed_iff_answerable not_failing_reliable answering⟩

end Answer

/-- A parser that reads every text as one `COMMIT`. -/
def readsCommit (_ : String) : SqlText :=
  .ok [⟨.commitTransaction, "COMMIT"⟩]

/-- A `COMMIT` that succeeds is answered with its completion and one `ReadyForQuery`. -/
theorem committed_query_framed :
    ∃ final, Ends Reliable (Conn.handleQuery integralExternals readsCommit "COMMIT") {} (.ok ())
        final ∧
      messages final.log = [.commandComplete "COMMIT", .readyForQuery 'I'] ∧
      Framed (messages final.log) := by
  have accepts : ∀ (w : Wire) (op : WireOp), Reliable ⟨w, op, {}⟩ := fun _ _ => rfl
  have ends := ends_script accepts (Conn.handleQuery integralExternals readsCommit "COMMIT") {}
  obtain ⟨events, logged, framed⟩ :=
    query_framed_iff_answerable integralExternals readsCommit "COMMIT" {} _ _ ends
  refine ⟨_, ends, rfl, ?_⟩
  rw [logged]
  refine (framed.mpr ⟨by decide, by rintro ⟨⟩, ?_⟩).2
  rw [← List.nil_append events, ← show _ = [] ++ events from logged]
  intro stmts parsed
  rw [← Except.ok.inj parsed]
  exact List.forall_mem_singleton.mpr (Or.inl rfl)

/-- A `COMMIT` that fails is answered with two `ReadyForQuery`. -/
theorem failed_commit_ready_twice :
    ∃ final, Ends Reliable (Conn.handleQuery integralExternals readsCommit "COMMIT") {} (.ok ())
        final ∧
      messages final.log =
        [.errorResponse "ERROR" "XX000" "gateway: no active transaction to commit",
          .readyForQuery 'I', .readyForQuery 'I'] ∧ ¬ Framed (messages final.log) := by
  have refuses : ∀ (w : Wire) (op : WireOp), Reliable ⟨w, op,
      { outcome := .error (.error "gateway: no active transaction to commit") }⟩ := fun _ _ => rfl
  refine ⟨_, ends_script refuses _ _, rfl, ?_⟩
  have ready :
      ∃ message ∈ errorReport "gateway: no active transaction to commit", message.IsReady :=
    ⟨.readyForQuery 'I', List.mem_cons_of_mem _ (List.mem_singleton.mpr rfl), trivial⟩
  exact not_framed_append ready (List.cons_ne_nil (BackendMessage.readyForQuery 'I') [])

/-- An error is reported. -/
def WireEvent.Reports : WireEvent → Prop
  | .sent (.errorResponse _ _ _) _ => True
  | _ => False

/-- A statement is passed to the gateway. -/
def WireEvent.Passes : WireEvent → Prop
  | .passed _ _ _ => True
  | _ => False

/-- Once an error has been reported nothing is passed to the gateway. -/
def ErrorEnds (events : List WireEvent) : Prop :=
  events.Pairwise fun early late => early.Reports → ¬ late.Passes

section ErrorEnds

variable {txID : Int} {answer : List BackendMessage} {later : List WireEvent}

theorem errorEnds_sentAt
    (txID : Int)
    (answer : List BackendMessage) :
    ErrorEnds (sentAt txID answer) := by
  rw [ErrorEnds, sentAt, List.pairwise_map]
  exact List.pairwise_of_forall fun _ _ _ => id

theorem errorEnds_passed
    {sql : String}
    {outcome : Outcome} :
    ErrorEnds (.passed sql txID outcome :: later) ↔ ErrorEnds later := by
  rw [ErrorEnds, List.pairwise_cons]
  exact and_iff_right fun _ _ => False.elim

/-- What is sent before other events must not report an error if something is
passed later. -/
theorem errorEnds_sentAt_append :
    ErrorEnds (sentAt txID answer ++ later) ↔ ErrorEnds later ∧
      ((∃ event ∈ sentAt txID answer, event.Reports) → ∀ event ∈ later, ¬ event.Passes) := by
  rw [ErrorEnds, List.pairwise_append]
  constructor
  · rintro ⟨_, ends, apart⟩
    refine ⟨ends, ?_⟩
    rintro ⟨early, sent, reports⟩ event listed
    exact apart early sent event listed reports
  · rintro ⟨ends, apart⟩
    refine ⟨errorEnds_sentAt txID answer, ends, ?_⟩
    intro early sent event listed reports
    exact apart ⟨early, sent, reports⟩ event listed

/-- Results report no errors. -/
theorem errorEnds_results (kinds : ∀ message ∈ answer, message.IsResult) :
    ErrorEnds (sentAt txID answer ++ later) ↔ ErrorEnds later := by
  rw [errorEnds_sentAt_append]
  refine and_iff_left ?_
  rintro ⟨event, sent, reports⟩
  obtain ⟨message, listed, rfl⟩ := List.mem_map.mp sent
  have result := kinds message listed
  cases message with
  | errorResponse severity code message => exact result.elim
  | _ => exact reports.elim

end ErrorEnds

/-- No statement that controls transactions fails, unless it is the last one. -/
def Curbed (stmts : List Statement) (given : List Outcome) : Prop :=
  ∀ pair ∈ stmts.dropLast.zip given, Parser.isTxControl pair.1 = true →
    ∀ failure, pair.2 ≠ .error (.error failure)

theorem curbed_cons
    {stmt : Statement}
    {stmts : List Statement}
    {outcome : Outcome}
    {given : List Outcome} :
    Curbed (stmt :: stmts) (outcome :: given) ↔
      (stmts ≠ [] → Parser.isTxControl stmt = true → ∀ failure, outcome ≠ .error (.error failure)) ∧
        Curbed stmts given := by
  cases stmts with
  | nil | cons => simp [Curbed]

theorem curbed_nil (stmts : List Statement) : Curbed stmts [] := by
  simp [Curbed]

section ErrorEnds

variable {ext : Externals} {broken : Prop}

variable {events : List WireEvent} {handled : Handled} {stmts : List Statement} {txID final : Int}

/-- The gateway is asked exactly when there are statements. -/
theorem passes_iff (conversation : Conversation ext broken stmts txID events handled final) :
    (∃ event ∈ events, event.Passes) ↔ stmts ≠ [] := by
  cases conversation with
  | ready txID => simp [sentAt, WireEvent.Passes]
  | unready txID reason lost => simp
  | _ => simp [WireEvent.Passes]

/-- An error ends the query exactly when no statement that controls transactions
fails before the last one.  Only the network can make up for such a failure. -/
theorem errorEnds_iff_curbed
    (conversation : Conversation ext broken stmts txID events handled final) :
    (Curbed stmts (outcomes events) → ErrorEnds events) ∧
      ((∀ reason, handled ≠ .error (.error reason)) → ErrorEnds events →
        Curbed stmts (outcomes events)) := by
  induction conversation with
  | ready txID =>
      rw [outcomes_sentAt]
      exact ⟨fun _ => errorEnds_sentAt _ _, fun _ _ => curbed_nil _⟩
  | unready txID reason lost => exact ⟨fun _ => List.Pairwise.nil, fun _ _ => curbed_nil _⟩
  | crashed | uncompleted =>
      refine ⟨fun _ => List.pairwise_singleton _ _, fun _ _ => ?_⟩
      exact curbed_cons.mpr ⟨fun _ _ _ => nofun, curbed_nil _⟩
  | unreported sql failure sent early reason lost =>
      exact ⟨fun _ => errorEnds_passed.mpr (errorEnds_sentAt _ _),
        fun taken => absurd rfl (taken _)⟩
  | refused failure plain =>
      refine ⟨fun _ => errorEnds_passed.mpr (errorEnds_sentAt _ _), fun _ _ => ?_⟩
      rw [outcomes_passed, outcomes_sentAt, curbed_cons, plain]
      exact ⟨fun _ => nofun, curbed_nil _⟩
  | @ignored stmt stmts txID final sql failure control later handled rest ih =>
      have reported : ∃ event ∈ sentAt txID (errorReport failure), event.Reports :=
        ⟨_, List.mem_cons_self, trivial⟩
      have silent : (∀ event ∈ later, ¬ event.Passes) ↔ stmts = [] := by
        constructor
        · intro quiet
          by_contra more
          obtain ⟨event, listed, passed⟩ := (passes_iff rest).mpr more
          exact quiet event listed passed
        · intro none event listed passed
          exact (passes_iff rest).mp ⟨event, listed, passed⟩ none
      rw [List.cons_append, errorEnds_passed, errorEnds_sentAt_append, outcomes_passed,
        outcomes_append, outcomes_sentAt, List.nil_append, curbed_cons, silent]
      constructor
      · rintro ⟨last, curbed⟩
        refine ⟨ih.1 curbed, fun _ => ?_⟩
        by_contra more
        exact last more control failure rfl
      · rintro taken ⟨ends, last⟩
        exact ⟨fun more => absurd (last reported) more, ih.2 taken ends⟩
  | controlled sql resp control rest ih =>
      have result : ∀ message ∈ [BackendMessage.commandComplete sql], message.IsResult :=
        List.forall_mem_singleton.mpr trivial
      rw [List.cons_append, errorEnds_passed, errorEnds_results result, outcomes_passed,
        outcomes_append, outcomes_sentAt, List.nil_append, curbed_cons]
      refine ⟨fun curbed => ih.1 curbed.2, fun taken ends => ?_⟩
      exact ⟨fun _ _ _ => nofun, ih.2 taken ends⟩
  | unanswered resp plain sending =>
      refine ⟨fun _ => errorEnds_passed.mpr (errorEnds_sentAt _ _), fun _ _ => ?_⟩
      rw [outcomes_passed, outcomes_sentAt, curbed_cons]
      exact ⟨fun _ _ _ => nofun, curbed_nil _⟩
  | answered resp plain sending rest ih =>
      rw [List.cons_append, errorEnds_passed, errorEnds_results sending.kinds, outcomes_passed,
        outcomes_append, outcomes_sentAt, List.nil_append, curbed_cons]
      refine ⟨fun curbed => ih.1 curbed.2, fun taken ends => ?_⟩
      exact ⟨fun _ _ _ => nofun, ih.2 taken ends⟩

/-- A query whose statements that control transactions do not fail before the last
one ends with its first error.  In every other query that the network does not cut
short, something is passed to the gateway after an error. -/
theorem query_error_ends_iff_curbed
    (ext : Externals)
    (parse : String → SqlText)
    (sql : String)
    (w : Wire)
    (handled : Handled)
    (final : Wire)
    (ends : Ends (fun _ => True) (Conn.handleQuery ext parse sql) w handled final) :
    ∃ events, final.log = w.log ++ events ∧
      ((∀ stmts, parse (trimSpace sql) = .ok stmts → Curbed stmts (outcomes events)) →
        ErrorEnds events) ∧
      ((∀ reason, handled ≠ .error (.error reason)) → ErrorEnds events →
        ∀ stmts, parse (trimSpace sql) = .ok stmts → Curbed stmts (outcomes events)) := by
  obtain ⟨events, logged, answering⟩ := answering_of_ends ends
  refine ⟨events, logged, ?_⟩
  generalize final.txID = left at answering
  cases answering with
  | blank | unparsed | unreported =>
      rw [outcomes_sentAt]
      exact ⟨fun _ => errorEnds_sentAt _ _, fun _ _ stmts _ => curbed_nil stmts⟩
  | lost blank reason lost =>
      exact ⟨fun _ => List.Pairwise.nil, fun _ _ stmts _ => curbed_nil stmts⟩
  | statements text stmts some parsed conversation =>
      obtain ⟨enough, needed⟩ := errorEnds_iff_curbed conversation
      refine ⟨fun curbed => enough (curbed stmts parsed), ?_⟩
      intro taken errorEnds others same
      rw [parsed] at same
      rw [← Except.ok.inj same]
      exact needed taken errorEnds

/-- A parser that reads every text as an `INSERT` and a `COMMIT`, in this order or in
the other one. -/
def readsInsert (first : Bool) (_ : String) : SqlText :=
  if first then .ok [Router.insertUser "1", ⟨.commitTransaction, "COMMIT"⟩]
  else .ok [⟨.commitTransaction, "COMMIT"⟩, Router.insertUser "1"]

/-- A gateway that refuses the first statement and accepts the others. -/
def refusesFirst (failure : String) (w : Wire) (_ : WireOp) : WireChoice where
  outcome := if w.log.isEmpty then .error (.error failure) else .ok {}

/-- After the error of an `INSERT` the `COMMIT` is not executed. -/
theorem accepted_query_error_ends :
    ∃ final, Ends (fun _ => True) (Conn.handleQuery integralExternals (readsInsert true)
          "INSERT INTO users (id) VALUES (1); COMMIT") {} (.ok ()) final ∧
      .sent (.errorResponse "ERROR" "XX000" "gateway: no tablets available") 0 ∈ final.log ∧
      ErrorEnds final.log := by
  have ends := @ends_script (fun _ => True) _ (refusesFirst "gateway: no tablets available")
    (fun _ _ => trivial) (Conn.handleQuery integralExternals (readsInsert true)
      "INSERT INTO users (id) VALUES (1); COMMIT") {}
  obtain ⟨events, logged, enough, _⟩ := query_error_ends_iff_curbed integralExternals
    (readsInsert true) "INSERT INTO users (id) VALUES (1); COMMIT" {} _ _ ends
  refine ⟨_, ends, List.mem_cons_of_mem _ List.mem_cons_self, ?_⟩
  rw [logged]
  apply enough
  rw [← List.nil_append events, ← show _ = [] ++ events from logged]
  intro stmts parsed
  rw [← Except.ok.inj parsed]
  exact List.forall_mem_singleton.mpr (by rintro ⟨⟩)

/-- After the error of a `COMMIT` the next statement is executed. -/
theorem failed_commit_continues :
    ∃ final, Ends Reliable (Conn.handleQuery integralExternals (readsInsert false)
          "COMMIT; INSERT INTO users (id) VALUES (1)") {} (.ok ()) final ∧
      .passed "INSERT INTO users (id) VALUES (1)" 0 (.ok {}) ∈ final.log ∧
      ¬ ErrorEnds final.log := by
  have taken : ∀ w op,
      Reliable ⟨w, op, refusesFirst "gateway: no active transaction to commit" w op⟩ :=
    fun _ _ => rfl
  refine ⟨_, ends_script taken _ _, ?_, ?_⟩
  · exact List.mem_cons_of_mem _ (List.mem_cons_of_mem _ (List.mem_cons_of_mem _
      List.mem_cons_self))
  · intro errorEnds
    obtain ⟨_, apart⟩ := errorEnds_sentAt_append.mp (errorEnds_passed.mp
      (show ErrorEnds (.passed "COMMIT" 0 _ ::
        (sentAt 0 (errorReport "gateway: no active transaction to commit") ++
          .passed "INSERT INTO users (id) VALUES (1)" 0 (.ok {}) :: _)) from errorEnds))
    exact apart ⟨_, List.mem_cons_self, trivial⟩ _ List.mem_cons_self trivial

end ErrorEnds

end Pgwire
end VScale
