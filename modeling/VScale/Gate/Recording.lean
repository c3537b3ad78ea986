import VScale.Effects.Succession
import VScale.Gate.Entrusted

/-!
# A begun transaction is recorded next

The only program that begins transactions on tablets is the loop over the tablets of a
statement.  Whenever a begin is answered, its next operation records the id in the
session.
-/

namespace VScale

open Aggregate Effects

/-- What was begun is recorded by the next operation. -/
def recordDue (op : gate.Op) (answer : gate.Answer op) (head : Option gate.Op) : Prop :=
  ∀ addr id, GateOp.Begins op answer addr id →
    ∃ session, head = some (.setLocalTxID session addr id)

/-- An operation that begins nothing. -/
def GateOp.BeginsNothing : GateOp → Prop
  | .begin _ => False
  | _ => True

theorem recordDue_of_beginsNothing
    (op : GateOp)
    (answer : op.Answer)
    (head : Option GateOp)
    (nothing : op.BeginsNothing) : recordDue op answer head := by
  intro addr id begins
  cases begins with
  | begun tc resp => exact False.elim nothing

theorem lenient_recordDue : Prog.Lenient recordDue := by
  intro op answer owed head addr id begins
  obtain ⟨session, none⟩ := owed addr id begins
  cases none

theorem records_of_only
    {program : GateM α}
    (only : program.Only GateOp.BeginsNothing) :
    program.Succeeds recordDue :=
  Prog.succeeds_of_only recordDue_of_beginsNothing only

/-- Giving up after a refused BEGIN owes no record. -/
theorem records_giveUp
    (session : Int)
    (value : α) :
    (Coordinator.rollbackAll session >>= fun _ => (.pure value : GateM α)).Succeeds recordDue := by
  have rolled : (Coordinator.rollbackAll session).Succeeds recordDue :=
    records_of_only (Coordinator.only_rollbackAll ⟨trivial, fun _ => trivial, fun _ _ => trivial⟩)
  exact Prog.succeeds_bind lenient_recordDue rolled fun _ => trivial

theorem records_beginOnAll
    (session : Int)
    (tablets : List TabletClient) :
    (Coordinator.beginOnAll session tablets).Succeeds recordDue := by
  induction tablets with
  | nil => trivial
  | cons tc rest ih =>
      intro participating
      refine ⟨recordDue_of_beginsNothing _ _ _ trivial, ?_⟩
      cases participating with
      | true => exact ih
      | false =>
          intro answer
          cases answer with
          | error failure =>
              exact ⟨(fun _ _ begins => nomatch begins), records_giveUp session _⟩
          | ok resp =>
              refine ⟨?_, fun _ => ⟨recordDue_of_beginsNothing _ _ _ trivial, ih⟩⟩
              intro addr id begins
              cases begins with
              | begun => exact ⟨session, rfl⟩

theorem records_coordinator
    (ext : Externals)
    (session : Int)
    (sql : SqlText) :
    (Coordinator.execute ext session sql).Succeeds recordDue := by
  have executes : ∀ sql, Coordinator.Executes GateOp.BeginsNothing session sql :=
    fun _ => ⟨fun _ => trivial, fun _ _ => trivial⟩
  have fails : ∀ message, (GateM.fail message).Succeeds recordDue := fun _ => trivial
  intro state
  refine ⟨recordDue_of_beginsNothing _ _ _ trivial, ?_⟩
  simp only
  split
  · exact fun _ => ⟨recordDue_of_beginsNothing _ _ _ trivial, fails _⟩
  · intro result
    refine ⟨recordDue_of_beginsNothing _ _ _ trivial, ?_⟩
    simp only
    split
    · exact fails _
    · apply Prog.succeeds_bind lenient_recordDue (records_beginOnAll session result.tablets)
      intro failed
      cases failed with
      | some failure => exact fails failure
      | none =>
          simp only
          split
          · exact records_of_only (Coordinator.only_executeSingle (executes sql) _)
          · exact records_of_only (Coordinator.only_executeScatter ext (executes _)
              ⟨trivial, fun _ => trivial, fun _ _ => trivial⟩ _)

/-- Whatever a request begins is recorded next. -/
theorem records_gateway
    (ext : Externals)
    (req : QueryRequest) :
    (Gateway.execute ext req).Succeeds recordDue := by
  refine Gateway.Assembles.request ?_
  constructor
  case answers => exact fun _ => trivial
  case looks =>
    intro txID missing rest records found
    refine ⟨recordDue_of_beginsNothing _ _ _ trivial, ?_⟩
    cases found with
    | true => exact records
    | false => trivial
  case concludes =>
    exact fun _ _ records => Prog.succeeds_bind lenient_recordDue records fun _ => trivial
  case begins =>
    exact records_of_only
      (Gateway.only_handleBegin trivial trivial trivial (fun _ => trivial) trivial)
  case commits =>
    exact fun _ => records_of_only (Coordinator.only_commit
      { reads := trivial
        looks := fun _ => trivial
        rolls := fun _ _ => trivial
        checks := trivial
        counts := trivial
        prepares := fun _ _ => trivial
        commits := fun _ _ => trivial
        concludes := trivial
        clears := trivial })
  case rollbacks =>
    exact fun _ => records_of_only (Coordinator.only_rollback
      ⟨trivial, fun _ => trivial, fun _ _ => trivial⟩ trivial trivial trivial)
  case forwards =>
    exact records_of_only (Gateway.only_executeAutocommit ext trivial (fun _ => trivial)
      fun _ => trivial)
  case executes => exact fun _ => records_coordinator ext _ _

end VScale
