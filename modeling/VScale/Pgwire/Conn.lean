import VScale.Effects.Trace
import VScale.Gate.Gateway
import VScale.Pgwire.Messages

/-!
# A connection of a PostgreSQL client

A connection reads messages, passes the statements of a query to the gateway one
at a time and answers on the socket.  Its operations are the calls to the
gateway, to the socket and to its own field `txID`.  The loop over messages is
unrolled for a number of rounds.  A panic ends the process and with it every
handler.

The log of a connection is a ghost, oldest event first.
-/

namespace VScale
namespace Pgwire

open Aggregate Effects Tree

/-- What a client sends to open a connection. -/
inductive StartupMessage
  | startupMessage
  | sslRequest
  | other (typeName : String)
  deriving DecidableEq, Repr

/-- What a client sends on an open connection. -/
inductive FrontendMessage
  | query (sql : String)
  | terminate
  | parse
  | bind
  | execute
  | sync
  | close
  | other
  deriving DecidableEq, Repr

/-- The operations of a connection. -/
inductive WireOp
  | txID
  | setTxID (txID : Int)
  | execute (sql : String) (txID : Int)
  | send (message : BackendMessage)
  | write (text : String)
  | receiveStartupMessage
  | receive

/-- What each operation answers; sends answer with their failure. -/
abbrev WireOp.Answer : WireOp → Type
  | .txID => Int
  | .setTxID _ => Unit
  | .execute _ _ => Outcome
  | .send _ => Option String
  | .write _ => Option String
  | .receiveStartupMessage => Except String StartupMessage
  | .receive => Except String FrontendMessage

/-- The operations of a connection as an effect signature. -/
abbrev wire : Signature where
  Op := WireOp
  Answer := WireOp.Answer

/-- A program of a connection. -/
abbrev WireM := Prog wire

/-- What a handler returns: nothing, an error, or a panic. -/
abbrev Handled := Except Fault Unit

namespace Conn

/-- Continue after a handler that returned no error. -/
def andThen (first : WireM Handled) (rest : WireM Handled) : WireM Handled := do
  let handled ← first
  match handled with
  | .error fault => pure (.error fault)
  | .ok () => rest

/-- Send one message. -/
def send (message : BackendMessage) : WireM Handled :=
  .perform (.send message) fun failure =>
    match failure with
    | some reason => .pure (.error (.error reason))
    | none => .pure (.ok ())

/-- Send messages until one cannot be sent. -/
def sendAll : List BackendMessage → WireM Handled
  | [] => .pure (.ok ())
  | message :: messages => andThen (send message) (sendAll messages)

/-- Ready, outside a transaction. -/
def sendReadyForQuery : WireM Handled :=
  send (.readyForQuery 'I')

/-- Ready, inside a transaction. -/
def sendReadyForQueryTx : WireM Handled :=
  send (.readyForQuery 'T')

/-- Report an error, and be ready as if outside a transaction. -/
def sendError (message : String) : WireM Handled :=
  andThen (send (.errorResponse "ERROR" "XX000" message)) sendReadyForQuery

/-- The messages that accept a client. -/
def greeting : List BackendMessage :=
  [.authenticationOk, .parameterStatus "server_version" "14.0",
    .parameterStatus "DateStyle" "ISO, MDY", .readyForQuery 'I']

/-- Answer requests for encryption until the client starts.  Nothing is returned
while it has not started after a number of rounds. -/
def handleStartup : Nat → WireM (Option Handled)
  | 0 => .pure none
  | rounds + 1 =>
      .perform .receiveStartupMessage fun received =>
        match received with
        | .error failure => .pure (some (.error (.error failure)))
        | .ok .startupMessage => do
            let handled ← sendAll greeting
            pure (some handled)
        | .ok .sslRequest =>
            .perform (.write "N") fun failure =>
              match failure with
              | some reason => .pure (some (.error (.error reason)))
              | none => handleStartup rounds
        | .ok (.other typeName) =>
            .pure (some (.error (.error ("unknown startup message: " ++ typeName))))

/-- Pass a statement that controls transactions to the gateway.  An error is
reported to the client and not returned. -/
def handleControl (command : String) : WireM Handled :=
  .perform .txID fun (txID : Int) =>
    .perform (.execute command txID) fun (outcome : Outcome) =>
      match outcome with
      | .error .crash => .pure (.error .crash)
      | .error (.error failure) => sendError failure
      | .ok resp =>
          .perform (.setTxID resp.transactionId.id) fun _ =>
            send (.commandComplete command)

/-- Pass BEGIN on. -/
def handleBegin : WireM Handled := handleControl "BEGIN"

/-- Pass COMMIT on. -/
def handleCommit : WireM Handled := handleControl "COMMIT"

/-- Pass ROLLBACK on. -/
def handleRollback : WireM Handled := handleControl "ROLLBACK"

variable (ext : Externals)

/-- Send the messages of one result; a row that is too short crashes. -/
def sendResult (qr : QueryResult) : WireM Handled :=
  match Pgwire.sendResult ext qr with
  | none => .pure (.error .crash)
  | some messages => sendAll messages

/-- Send one result after the other. -/
def sendResults : List QueryResult → WireM Handled
  | [] => .pure (.ok ())
  | qr :: results => andThen (sendResult ext qr) (sendResults results)

/-- The loop over the statements of a query. -/
def handleStatements : List Statement → WireM Handled
  | [] =>
      .perform .txID fun (txID : Int) =>
        if txID ≠ 0 then sendReadyForQueryTx else sendReadyForQuery
  | stmt :: stmts =>
      if Parser.isBegin stmt then andThen handleBegin (handleStatements stmts)
      else if Parser.isCommit stmt then andThen handleCommit (handleStatements stmts)
      else if Parser.isRollback stmt then andThen handleRollback (handleStatements stmts)
      else
        .perform .txID fun (txID : Int) =>
          .perform (.execute stmt.sql txID) fun (outcome : Outcome) =>
            match outcome with
            | .error .crash => .pure (.error .crash)
            | .error (.error failure) => sendError failure
            | .ok resp => andThen (sendResults ext resp.results) (handleStatements stmts)

variable (parse : String → SqlText)

/-- Answer a query message. -/
def handleQuery (sql : String) : WireM Handled :=
  let sql := trimSpace sql
  if sql = "" then send .emptyQueryResponse
  else
    match parse sql with
    | .error failure => sendError failure
    | .ok [] => send .emptyQueryResponse
    | .ok (stmt :: stmts) => handleStatements ext (stmt :: stmts)

/-- How far a connection is. -/
inductive Progress
  | serving
  | returned
  | crashed
  deriving DecidableEq, Repr

/-- Handle one message; the answer says whether the connection goes on. -/
def handleMessage (message : FrontendMessage) : WireM Progress :=
  match message with
  | .query sql => do
      let handled ← handleQuery ext parse sql
      match handled with
      | .ok () => pure .serving
      | .error (.error _) => pure .returned
      | .error .crash => pure .crashed
  | .terminate => .pure .returned
  | .parse => do
      let _ ← send .parseComplete
      pure .serving
  | .bind => do
      let _ ← send .bindComplete
      pure .serving
  | .execute => do
      let _ ← sendError "prepared statements not yet supported"
      pure .serving
  | .sync => do
      let _ ← sendReadyForQuery
      pure .serving
  | .close => do
      let _ ← send .closeComplete
      pure .serving
  | .other => .pure .serving

/-- Serve a number of messages. -/
def serveMessages : Nat → WireM Progress
  | 0 => .pure .serving
  | rounds + 1 =>
      .perform .receive fun received =>
        match received with
        | .error _ => .pure .returned
        | .ok message => do
            let progress ← handleMessage ext parse message
            match progress with
            | .serving => serveMessages rounds
            | .returned => pure .returned
            | .crashed => pure .crashed

/-- Start a connection and serve a number of messages. -/
def run (startup rounds : Nat) : WireM Progress := do
  let started ← handleStartup startup
  match started with
  | none => pure .serving
  | some (.error _) => pure .returned
  | some (.ok ()) => serveMessages ext parse rounds

end Conn

/-- What happens on a connection, with the transaction it holds at that moment. -/
inductive WireEvent
  | received (message : FrontendMessage) (txID : Int)
  | passed (sql : String) (txID : Int) (outcome : Outcome)
  | sent (message : BackendMessage) (txID : Int)

/-- The state of a connection. -/
structure Wire where
  txID : Int := 0
  log : List WireEvent := []

/-- What a client, the network and the gateway may do. -/
structure WireChoice where
  outcome : Outcome := .ok {}
  failure : Option String := none
  startup : Except String StartupMessage := .ok .startupMessage
  message : Except String FrontendMessage := .error "EOF"

namespace Wire

/-- Something happens on the connection. -/
def addEvent (w : Wire) (event : WireEvent) : Wire :=
  { w with log := w.log ++ [event] }

/-- The effect of one operation. -/
def act (op : WireOp) (choice : WireChoice) (w : Wire) : op.Answer × Wire :=
  match op with
  | .txID => (w.txID, w)
  | .setTxID txID => ((), { w with txID := txID })
  | .execute sql txID => (choice.outcome, w.addEvent (.passed sql txID choice.outcome))
  | .send message =>
      match choice.failure with
      | some reason => (some reason, w)
      | none => (none, w.addEvent (.sent message w.txID))
  | .write _ => (choice.failure, w)
  | .receiveStartupMessage => (choice.startup, w)
  | .receive =>
      match choice.message with
      | .error reason => (.error reason, w)
      | .ok message => (.ok message, w.addEvent (.received message w.txID))

/-- A connection with any client and gateway. -/
def machine : Machine wire Unit Wire WireChoice Empty where
  act := fun _ op choice w => act op choice w
  disturb := fun move _ => nomatch move

end Wire

/-- The messages sent, oldest first. -/
def messages (events : List WireEvent) : List BackendMessage :=
  events.filterMap fun event =>
    match event with
    | .sent message _ => some message
    | _ => none

/-- What the gateway has answered, oldest first. -/
def outcomes (events : List WireEvent) : List Outcome :=
  events.filterMap fun event =>
    match event with
    | .passed _ _ outcome => some outcome
    | _ => none

end Pgwire
end VScale
