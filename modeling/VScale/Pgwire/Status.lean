import VScale.Pgwire.Framing

/-!
# The transaction status a client is told

A `ReadyForQuery` should carry the status `I` exactly when the connection holds no
transaction.  Error reports and the answer to `Sync` always carry it, so the status
is true in a run exactly when nothing of that kind happens inside a transaction.
-/

namespace VScale
namespace Pgwire

open Aggregate Effects Tree

/-- The status that is sent is the true one. -/
def WireEvent.Honest : WireEvent → Prop
  | .sent (.readyForQuery status) txID => status = 'I' ↔ txID = 0
  | _ => True

/-- Nothing happens inside a transaction that is answered as if outside: the gateway
refuses no statement there, every text can be parsed, and the client sends neither
`Execute` nor `Sync`. -/
def WireEvent.Calm (parse : String → SqlText) : WireEvent → Prop
  | .passed _ txID (.error (.error _)) => txID = 0
  | .received (.query sql) txID =>
      trimSpace sql ≠ "" → (∃ failure, parse (trimSpace sql) = .error failure) → txID = 0
  | .received .execute txID => txID = 0
  | .received .sync txID => txID = 0
  | _ => True

/-- The status is true in calm events, and without failing sends only there. -/
structure Faithful
    (parse : String → SqlText)
    (broken : Prop)
    (events : List WireEvent) :
    Prop where
  honest : (∀ event ∈ events, event.Calm parse) → ∀ event ∈ events, event.Honest
  calm : ¬ broken → (∀ event ∈ events, event.Honest) → ∀ event ∈ events, event.Calm parse

section Faithful

variable {parse : String → SqlText} {broken : Prop} {events later : List WireEvent}

theorem Faithful.nil : Faithful parse broken [] :=
  ⟨fun _ => List.forall_mem_nil _, fun _ _ => List.forall_mem_nil _⟩

theorem Faithful.append
    (first : Faithful parse broken events)
    (second : Faithful parse broken later) : Faithful parse broken (events ++ later) := by
  constructor
  · intro calm
    obtain ⟨early, late⟩ := List.forall_mem_append.mp calm
    exact List.forall_mem_append.mpr ⟨first.honest early, second.honest late⟩
  · intro taken honest
    obtain ⟨early, late⟩ := List.forall_mem_append.mp honest
    exact List.forall_mem_append.mpr ⟨first.calm taken early, second.calm taken late⟩

/-- Events that are both calm and answered truly. -/
theorem Faithful.of_all
    (calm : ∀ event ∈ events, event.Calm parse)
    (honest : ∀ event ∈ events, event.Honest) : Faithful parse broken events :=
  ⟨fun _ => honest, fun _ _ => calm⟩

/-- Sending is calm. -/
theorem calm_sentAt
    (txID : Int)
    (answer : List BackendMessage) :
    ∀ event ∈ sentAt txID answer, event.Calm parse :=
  List.forall_mem_map.mpr fun _ _ => trivial

variable {answer : List BackendMessage} {txID : Int} {event : WireEvent}

/-- Messages other than `ReadyForQuery` tell no status. -/
theorem honest_sentAt (quiet : ∀ message ∈ answer, ¬ message.IsReady) :
    ∀ event ∈ sentAt txID answer, event.Honest := by
  intro event sent
  obtain ⟨message, listed, rfl⟩ := List.mem_map.mp sent
  cases message with
  | readyForQuery status => exact absurd trivial (quiet _ listed)
  | _ => exact trivial

/-- Outside transactions the status of an idle connection is true. -/
theorem honest_idle
    (idle : ∀ message ∈ answer, message.IsReady → message = .readyForQuery 'I')
    (outside : txID = 0) : ∀ event ∈ sentAt txID answer, event.Honest := by
  intro event sent
  obtain ⟨message, listed, rfl⟩ := List.mem_map.mp sent
  cases message with
  | readyForQuery status =>
      injection idle _ listed trivial with same
      exact iff_of_true same outside
  | _ => exact trivial

/-- An event that is answered with the status of an idle connection is calm outside
transactions only, as the answer is true there only. -/
theorem Faithful.idle
    (idle : ∀ message ∈ answer, message.IsReady → message = .readyForQuery 'I')
    (told : ¬ broken → .readyForQuery 'I' ∈ answer)
    (honest : event.Honest)
    (calm : event.Calm parse ↔ txID = 0) :
    Faithful parse broken (event :: sentAt txID answer) := by
  constructor
  · intro allCalm
    have outside := calm.mp (allCalm event List.mem_cons_self)
    exact List.forall_mem_cons.mpr ⟨honest, honest_idle idle outside⟩
  · intro taken allHonest
    have sent : WireEvent.sent (.readyForQuery 'I') txID ∈ sentAt txID answer :=
      List.mem_map_of_mem (told taken)
    have outside : txID = 0 := (allHonest _ (List.mem_cons_of_mem event sent)).mp rfl
    exact List.forall_mem_cons.mpr ⟨calm.mpr outside, calm_sentAt txID answer⟩

/-- An event that is answered with an error report. -/
theorem Faithful.report
    {failure : String}
    {sent : List BackendMessage}
    (early : sent <+: errorReport failure)
    (whole : ¬ broken → sent = errorReport failure)
    (honest : event.Honest)
    (calm : event.Calm parse ↔ txID = 0) :
    Faithful parse broken (event :: sentAt txID sent) := by
  refine .idle ?_ ?_ honest calm
  · intro message listed isReady
    rcases List.mem_cons.mp (early.subset listed) with rfl | ready
    · exact isReady.elim
    · exact List.mem_singleton.mp ready
  · intro taken
    rw [whole taken]
    exact List.mem_cons_of_mem _ (List.mem_singleton.mpr rfl)

/-- Results tell no status. -/
theorem Faithful.results (kinds : ∀ message ∈ answer, message.IsResult) :
    Faithful parse broken (sentAt txID answer) :=
  .of_all (calm_sentAt txID answer)
    (honest_sentAt fun message listed => not_isReady_of_isResult (kinds message listed))

end Faithful

section Queries

variable {ext : Externals} {parse : String → SqlText} {broken : Prop}

variable {sql : String} {txID final : Int} {events : List WireEvent} {handled : Handled}

/-- A statement that the gateway accepts, or that ends the process. -/
theorem Faithful.accepted
    {outcome : Outcome}
    (accepted : ∀ failure, outcome ≠ .error (.error failure)) :
    Faithful parse broken [.passed sql txID outcome] := by
  refine .of_all (List.forall_mem_singleton.mpr ?_) (List.forall_mem_singleton.mpr trivial)
  rcases outcome with (failure | _) | resp
  · exact absurd rfl (accepted failure)
  · exact trivial
  · exact trivial

theorem faithful_conversation
    {stmts : List Statement}
    (conversation : Conversation ext broken stmts txID events handled final) :
    Faithful parse broken events := by
  induction conversation with
  | ready txID =>
      refine .of_all (calm_sentAt _ _) (List.forall_mem_singleton.mpr ?_)
      by_cases outside : txID = 0
      · simp [WireEvent.Honest, outside]
      · simp [WireEvent.Honest, outside]
  | unready txID reason lost => exact .nil
  | crashed | uncompleted => exact .accepted fun _ => nofun
  | unreported sql failure sent early reason lost =>
      exact .report early (fun taken => absurd lost taken) trivial Iff.rfl
  | refused failure plain =>
      exact .report (List.prefix_refl _) (fun _ => rfl) trivial Iff.rfl
  | @ignored stmt stmts txID final sql failure control later handled rest ih =>
      have reported : Faithful parse broken (.passed sql txID (.error (.error failure)) ::
          sentAt txID (errorReport failure)) :=
        .report (List.prefix_refl _) (fun _ => rfl) trivial Iff.rfl
      exact reported.append ih
  | @controlled stmt stmts txID final sql resp control later handled rest ih =>
      have completed : Faithful parse broken
          (sentAt resp.transactionId.id [.commandComplete sql]) :=
        .results (List.forall_mem_singleton.mpr trivial)
      have passed : Faithful parse broken [.passed sql txID (.ok resp)] := .accepted fun _ => nofun
      exact passed.append (completed.append ih)
  | @unanswered stmt stmts txID resp plain answer fault sending =>
      have passed : Faithful parse broken [.passed stmt.sql txID (.ok resp)] :=
        .accepted fun _ => nofun
      exact passed.append (.results sending.kinds)
  | @answered stmt stmts txID final resp plain answer sending later handled rest ih =>
      have passed : Faithful parse broken [.passed stmt.sql txID (.ok resp)] :=
        .accepted fun _ => nofun
      have answered : Faithful parse broken (sentAt txID answer) := .results sending.kinds
      exact passed.append (answered.append ih)

/-- A query that can be parsed is calm. -/
theorem Faithful.received
    (parsed : trimSpace sql = "" ∨ ∃ stmts, parse (trimSpace sql) = .ok stmts) :
    Faithful parse broken [.received (.query sql) txID] := by
  refine .of_all (List.forall_mem_singleton.mpr ?_) (List.forall_mem_singleton.mpr trivial)
  rintro text ⟨failure, invalid⟩
  rcases parsed with blank | ⟨stmts, parsed⟩
  · exact absurd blank text
  · rw [parsed] at invalid
    cases invalid

/-- A text that cannot be parsed is calm outside transactions. -/
theorem calm_unparsed
    {failure : String}
    (text : trimSpace sql ≠ "")
    (invalid : parse (trimSpace sql) = .error failure) :
    (WireEvent.received (.query sql) txID).Calm parse ↔ txID = 0 :=
  ⟨fun calm => calm text ⟨failure, invalid⟩, fun outside _ _ => outside⟩

/-- A query and its answer. -/
theorem faithful_answering (answering : Answering ext parse broken sql txID events handled final) :
    Faithful parse broken (.received (.query sql) txID :: events) := by
  cases answering with
  | blank blank =>
      have received : Faithful parse broken [.received (.query sql) txID] :=
        .received (blank.imp_right fun nothing => ⟨[], nothing⟩)
      have answered : Faithful parse broken (sentAt txID [.emptyQueryResponse]) :=
        .of_all (calm_sentAt _ _) (List.forall_mem_singleton.mpr trivial)
      exact received.append answered
  | lost blank reason lost => exact .received (blank.imp_right fun nothing => ⟨[], nothing⟩)
  | unparsed text failure invalid =>
      exact .report (List.prefix_refl _) (fun _ => rfl) trivial (calm_unparsed text invalid)
  | unreported text failure invalid sent early reason lost =>
      exact .report early (fun taken => absurd lost taken) trivial (calm_unparsed text invalid)
  | statements text stmts some parsed conversation =>
      have received : Faithful parse broken [.received (.query sql) txID] :=
        .received (Or.inr ⟨stmts, parsed⟩)
      exact received.append (faithful_conversation conversation)

end Queries

/-- A connection goes from one state to another by faithful events. -/
def Wire.Grows (parse : String → SqlText) (broken : Prop) (w final : Wire) : Prop :=
  ∃ events, final.log = w.log ++ events ∧ Faithful parse broken events

section Connections

variable {allowed : Step wire Wire WireChoice → Prop} {ext : Externals}
variable {parse : String → SqlText} {broken : Prop} {w : Wire}

theorem Wire.Grows.refl (w : Wire) : w.Grows parse broken w :=
  ⟨[], (List.append_nil _).symm, .nil⟩

theorem Wire.Grows.trans
    {middle final : Wire}
    (first : w.Grows parse broken middle)
    (second : middle.Grows parse broken final) : w.Grows parse broken final := by
  obtain ⟨early, logged, faithful⟩ := first
  obtain ⟨late, loggedLater, faithfulLater⟩ := second
  exact ⟨early ++ late, by rw [loggedLater, logged, List.append_assoc],
    faithful.append faithfulLater⟩

variable {message : FrontendMessage}

/-- What a message and the answer to it add to the log. -/
theorem Wire.grows_received
    {answer : List BackendMessage}
    (faithful : Faithful parse broken (.received message w.txID :: sentAt w.txID answer)) :
    w.Grows parse broken
      ((w.after [.received message w.txID]).after (sentAt w.txID answer)) := by
  rw [Wire.after_after]
  exact ⟨_, rfl, faithful⟩

/-- A message that is answered with one message, if at all, which tells no status. -/
theorem surely_reply
    {reply : BackendMessage}
    (calm : (WireEvent.received message w.txID).Calm parse)
    (quiet : ¬ reply.IsReady) :
    Surely allowed (Conn.send reply >>= fun _ => .pure Conn.Progress.serving)
      (fun _ final => w.Grows parse (Failing allowed) final)
      (w.after [.received message w.txID]) := by
  have received : Faithful parse (Failing allowed) [.received message w.txID] :=
    .of_all (List.forall_mem_singleton.mpr calm) (List.forall_mem_singleton.mpr trivial)
  apply surely_bind
  apply surely_send
  · intro reason failing
    exact surely_pure ⟨_, rfl, received⟩
  · apply surely_pure
    have sent : Faithful parse (Failing allowed) (sentAt w.txID [reply]) :=
      .of_all (calm_sentAt _ _) (honest_sentAt (List.forall_mem_singleton.mpr quiet))
    exact Wire.grows_received (received.append sent)

/-- What handling a message adds to the log, the message included. -/
theorem surely_handleMessage (message : FrontendMessage) :
    Surely allowed (Conn.handleMessage ext parse message)
      (fun _ final => w.Grows parse (Failing allowed) final)
      (w.after [.received message w.txID]) := by
  have silent : (WireEvent.received message w.txID).Calm parse →
      w.Grows parse (Failing allowed) (w.after [.received message w.txID]) :=
    fun calm => ⟨_, rfl, .of_all (List.forall_mem_singleton.mpr calm)
      (List.forall_mem_singleton.mpr trivial)⟩
  cases message with
  | query sql =>
      apply surely_bind
      apply surely_handleQuery
      intro events handled final answering
      have grown : w.Grows parse (Failing allowed)
          ((w.after [.received (.query sql) w.txID]).conversed events final) := by
        rw [Wire.conversed_after]
        exact ⟨_, rfl, faithful_answering answering⟩
      rcases handled with (reason | _) | _
      · exact surely_pure grown
      · exact surely_pure grown
      · exact surely_pure grown
  | terminate | other => exact surely_pure (silent trivial)
  | parse | bind | close => exact surely_reply trivial id
  | execute =>
      apply surely_bind
      apply surely_sendError
      · intro reason sent early failing
        apply surely_pure
        apply Wire.grows_received
        exact .report early (fun taken => absurd failing taken) trivial Iff.rfl
      · apply surely_pure
        apply Wire.grows_received
        exact .report (List.prefix_refl _) (fun _ => rfl) trivial Iff.rfl
  | sync =>
      apply surely_bind
      apply surely_send
      · intro reason failing
        refine surely_pure ⟨_, rfl, ?_⟩
        exact .idle (List.forall_mem_nil _) (fun taken => absurd failing taken) trivial Iff.rfl
      · apply surely_pure
        apply Wire.grows_received
        exact .idle (List.forall_mem_singleton.mpr fun _ => rfl)
          (fun _ => List.mem_singleton.mpr rfl) trivial Iff.rfl

theorem surely_serveMessages (rounds : Nat) :
    Surely allowed (Conn.serveMessages ext parse rounds)
      (fun _ final => w.Grows parse (Failing allowed) final) w := by
  induction rounds generalizing w with
  | zero => exact surely_pure (.refl w)
  | succ rounds ih =>
      apply surely_perform
      intro choice _
      simp only [Wire.act]
      cases choice.message with
      | error reason => exact surely_pure (.refl w)
      | ok message =>
          apply surely_bind
          apply surely_mono (surely_handleMessage message)
          intro progress middle grown
          cases progress with
          | serving =>
              apply surely_mono ih
              intro progress final grownLater
              exact grown.trans grownLater
          | returned | crashed => exact surely_pure grown

/-- The greeting tells that no transaction is open. -/
theorem surely_handleStartup
    (outside : w.txID = 0)
    (rounds : Nat) :
    Surely allowed (Conn.handleStartup rounds)
      (fun _ final => w.Grows parse (Failing allowed) final) w := by
  induction rounds with
  | zero => exact surely_pure (.refl w)
  | succ rounds ih =>
      have greeted : ∀ sent, sent <+: Conn.greeting →
          w.Grows parse (Failing allowed) (w.after (sentAt w.txID sent)) := by
        intro sent early
        refine ⟨_, rfl, .of_all (calm_sentAt _ _) (honest_idle ?_ outside)⟩
        intro message listed
        have idle : ∀ message ∈ Conn.greeting, message.IsReady →
            message = .readyForQuery 'I' := by
          simp [Conn.greeting, BackendMessage.IsReady]
        exact idle message (early.subset listed)
      apply surely_perform
      intro choice _
      simp only [Wire.act]
      rcases choice.startup with reason | message
      · exact surely_pure (.refl w)
      · cases message with
        | startupMessage =>
            apply surely_bind
            apply surely_sendAll
            · intro reason sent early _
              exact surely_pure (greeted sent early)
            · exact surely_pure (greeted _ (List.prefix_refl _))
        | sslRequest =>
            apply surely_perform
            intro choice _
            simp only [Wire.act]
            cases choice.failure with
            | some reason => exact surely_pure (.refl w)
            | none => exact ih
        | other typeName => exact surely_pure (.refl w)

/-- The status a client is told is true in every run that is calm, and when all
sends are taken in no other. -/
theorem told_status_true_iff_calm
    (ext : Externals)
    (parse : String → SqlText)
    (startup rounds : Nat)
    (allowed : Step wire Wire WireChoice → Prop)
    (progress : Conn.Progress)
    (final : Wire)
    (ends : Ends allowed (Conn.run ext parse startup rounds) {} progress final) :
    ((∀ event ∈ final.log, event.Calm parse) → ∀ event ∈ final.log, event.Honest) ∧
      ((∀ step, allowed step → Reliable step) → (∀ event ∈ final.log, event.Honest) →
        ∀ event ∈ final.log, event.Calm parse) := by
  have surely : Surely allowed (Conn.run ext parse startup rounds)
      (fun _ final => Wire.Grows parse (Failing allowed) {} final) {} := by
    apply surely_bind
    apply surely_mono (surely_handleStartup rfl startup)
    intro started middle grown
    rcases started with _ | ⟨fault⟩ | _
    · exact surely_pure grown
    · exact surely_pure grown
    · apply surely_mono (surely_serveMessages rounds)
      intro progress final grownLater
      exact grown.trans grownLater
  obtain ⟨events, logged, faithful⟩ := post_of_ends ends surely
  rw [logged]
  refine ⟨faithful.honest, fun taken => faithful.calm ?_⟩
  rintro ⟨step, fine, lost⟩
  exact lost (taken step fine)

end Connections

/-- A parser that reads every text as one `BEGIN`. -/
def readsBegin (_ : String) : SqlText :=
  .ok [⟨.beginTransaction, "BEGIN"⟩]

/-- The answer of the gateway to `BEGIN`. -/
def begunResponse : QueryResponse where
  transactionId := ⟨1, 0⟩

/-- A client that begins a transaction and then sends `Sync`. -/
def syncsInside (w : Wire) (_ : WireOp) : WireChoice where
  outcome := .ok begunResponse
  message :=
    if w.log.length = 4 then .ok (.query "BEGIN")
    else if w.log.length = 8 then .ok .sync
    else .error "EOF"

/-- What happens until that transaction has begun. -/
def begunLog : List WireEvent :=
  sentAt 0 Conn.greeting ++
    [.received (.query "BEGIN") 0, .passed "BEGIN" 0 (.ok begunResponse),
      .sent (.commandComplete "BEGIN") 1, .sent (.readyForQuery 'T') 1]

theorem begun_told_true :
    begunLog.getLast? = some (.sent (.readyForQuery 'T') 1) ∧
      (WireEvent.sent (.readyForQuery 'T') 1).Honest := by
  have calm : ∀ event ∈ begunLog, event.Calm readsBegin := by
    refine List.forall_mem_append.mpr ⟨calm_sentAt _ _, ?_⟩
    simp [WireEvent.Calm, readsBegin]
  have taken : ∀ w op, Reliable ⟨w, op, syncsInside w op⟩ := fun _ _ => rfl
  have begun : Ends Reliable (Conn.run integralExternals readsBegin 1 1) {} .serving
      ⟨1, begunLog⟩ := ends_script taken _ _
  have honest := (told_status_true_iff_calm integralExternals readsBegin 1 1 Reliable .serving
    ⟨1, begunLog⟩ begun).1 calm
  exact ⟨rfl, honest _ (List.mem_of_getLast? rfl)⟩

/-- Inside a transaction `Sync` is answered as if there was none. -/
theorem sync_inside_told_idle :
    ∃ final, Ends Reliable (Conn.run integralExternals readsBegin 1 3) {} .returned final ∧
      .sent (.readyForQuery 'I') 1 ∈ final.log := by
  have taken : ∀ w op, Reliable ⟨w, op, syncsInside w op⟩ := fun _ _ => rfl
  refine ⟨_, ends_script taken _ _, ?_⟩
  change _ ∈ begunLog ++ [.received .sync 1, .sent (.readyForQuery 'I') 1]
  exact List.mem_append_right _ (List.mem_cons_of_mem _ (List.mem_singleton.mpr rfl))

end Pgwire
end VScale
