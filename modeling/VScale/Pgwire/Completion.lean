import VScale.Gate.Responses
import VScale.Pgwire.Framing
import VScale.Pgwire.Rollback

/-!
# One completion for each statement

A client expects one `CommandComplete` for each statement, after all rows and with
their number.  A connection sends one for each result in the response of the
gateway, and a response that is not merged has one result for each shard.
-/

namespace VScale
namespace Pgwire

open Aggregate Effects Tree

/-- The message completes a statement. -/
def BackendMessage.isCompletion : BackendMessage → Bool
  | .commandComplete _ => true
  | _ => false

/-- The message describes rows. -/
def BackendMessage.isDescription : BackendMessage → Bool
  | .rowDescription _ => true
  | _ => false

/-- The number of rows a statement returned or changed. -/
def totalRows (results : List QueryResult) : Int :=
  (results.map fun qr =>
    if qr.columns = [] ∧ qr.rows = [] then qr.rowsAffected else (qr.rows.length : Int)).sum

/-- All rows of the shards are sent, in some order, with one description at most and
one completion that counts them. -/
structure Complete (shards : List QueryResult) (answer : List BackendMessage) : Prop where
  completed : answer.countP BackendMessage.isCompletion = 1
  described : answer.countP BackendMessage.isDescription ≤ 1
  rows : (deliveredRows answer).Perm ((rowsOf shards).map fun row => row.map some)
  counted : ∃ tag, .commandComplete (tag ++ " " ++ Decimal.formatInt (totalRows shards)) ∈ answer

section Results

variable {ext : Externals}

variable {qr : QueryResult} {answer : List BackendMessage} {counts : BackendMessage → Bool}
variable {results shards : List QueryResult}

variable {tail : List BackendMessage}

end Results

/-- A statement that was passed to the gateway and what was sent before the next
one. -/
structure Reply where
  sql : String
  held : Int
  outcome : Outcome
  answer : List BackendMessage

/-- A statement is passed to the gateway. -/
def WireEvent.isPassed : WireEvent → Bool
  | .passed _ _ _ => true
  | _ => false

/-- The messages that are sent before the next statement is passed on. -/
def sentNext (events : List WireEvent) : List BackendMessage :=
  messages (events.takeWhile fun event => !event.isPassed)

/-- The statements that were passed to the gateway with what was sent for them. -/
def replies : List WireEvent → List Reply
  | [] => []
  | .passed sql held outcome :: events =>
      ⟨sql, held, outcome, sentNext events⟩ :: replies events
  | .sent _ _ :: events => replies events
  | .received _ _ :: events => replies events

section Replies

variable {ext : Externals} {broken : Prop}

variable {events : List WireEvent} {handled : Handled} {stmts : List Statement}
variable {txID final held : Int} {outcome : Outcome} {sql : String} {stmt : Statement}
variable {answer : List BackendMessage}

end Replies

section Shards

variable {ext : Externals} {stmt : Statement} {trace : Trace gate} {resp : QueryResponse}

end Shards

end Pgwire
end VScale
