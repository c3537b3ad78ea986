import VScale.Effects.Interpret
import VScale.Gate.Operations
import VScale.Pgwire.Conn

/-!
# Connections over the gate

A connection executes statements through the gateway of the same process, so its
program becomes a program over the operations of the gate and its own.  Each
connection has a state of its own, and at the gate it acts for the session whose
id it holds.
-/

namespace VScale
namespace Pgwire

open Aggregate Effects Tree

/-- The operations of the gate and of its connections. -/
abbrev front : Signature :=
  gate.sum wire

/-- A program of a connection and the gate. -/
abbrev FrontM := Prog front

/-- The gate and its connections. -/
abbrev Front := World × (Nat → Wire)

/-- Everything an operation leaves open. -/
abbrev FrontChoice := Choice × WireChoice

/-- What happens on its own. -/
abbrev FrontMove := Move ⊕ (Nat × Empty)

/-- The caller as which a connection acts at the gate. -/
def actsAs (conn : Nat) (conns : Nat → Wire) : Caller :=
  ⟨conn, if (conns conn).txID = 0 then none else some (conns conn).txID⟩

/-- The gate with its connections and its environment. -/
def Front.machine (ext : Externals) : Machine front Nat Front FrontChoice FrontMove :=
  (World.machine ext).beside Wire.machine.each actsAs

/-- Statements are executed by the gateway. -/
def throughGateway
    (ext : Externals)
    (parse : String → SqlText) :
    (op : WireOp) → FrontM op.Answer
  | .execute sql txID => (Gateway.execute ext ⟨parse sql, txID⟩).left
  | op => .perform (.inr op) .pure

/-- A program of a connection on top of the gate. -/
def overGate (ext : Externals) (parse : String → SqlText) (program : WireM α) : FrontM α :=
  program.interpret (throughGateway ext parse)

section Sends

variable {ext : Externals} {parse : String → SqlText} {conn : Nat}

/-- An operation of a connection that sends a message. -/
def IsSend (op : front.Op) : Prop :=
  ∃ message, op = .inr (.send message)

theorem only_send (message : BackendMessage) :
    (overGate ext parse (Conn.send message)).Only IsSend := by
  refine ⟨⟨message, rfl⟩, ?_⟩
  intro failure
  cases failure with
  | some | none => trivial

theorem only_sendError (failure : String) :
    (overGate ext parse (Conn.sendError failure)).Only IsSend := by
  refine ⟨⟨_, rfl⟩, ?_⟩
  intro failure
  cases failure with
  | some reason => trivial
  | none => exact only_send (.readyForQuery 'I')

/-- Sending leaves the transaction of a connection as it is. -/
theorem txID_of_send
    {op : front.Op}
    (sends : IsSend op)
    {before after : Front}
    {answer : front.Answer op}
    (stepped : (Front.machine ext).StepsWhen (fun _ => True) conn op before answer after) :
    (after.2 conn).txID = (before.2 conn).txID := by
  obtain ⟨message, rfl⟩ := sends
  obtain ⟨choice, _, stepped⟩ := stepped
  obtain ⟨_, rfl⟩ := Prod.mk.inj stepped
  change (Function.update before.2 conn _ conn).txID = _
  rw [Function.update_self]
  change ((before.2 conn).act (.send message) choice.2).2.txID = _
  unfold Wire.act
  simp only
  split
  · rfl
  · rfl

end Sends

end Pgwire
end VScale
