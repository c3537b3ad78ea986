import VScale.Router.Splitting
import VScale.Topology.Watching

/-!
# From registrations to routes

The router is updated whenever the records of the gate have changed, so statements go to
tablets whose records are in etcd.
-/

namespace VScale
namespace EtcdTopology

open Collections Effects Router Tree

/-- A tablet goes on with its registration, or a lease expires. -/
def TabletMoves (codec : Codec) (before after : State) : Prop :=
  (∃ tablet op answer, Registers codec tablet op ∧
    machine.StepsWhen (fun _ => True) () op before answer after) ∨
  ∃ key, after = before.change (.delete key)

/-- The last update lists the current records. -/
def Current (state : State) : Prop :=
  ∀ tablet, tablet ∈ state.updates.getLastD [] ↔ ∃ key, state.tablets.lookup key = some tablet

variable {codec : Codec} {root : String} {before after state : State}
variable {allowed : Step topology State Choice → Prop}

theorem TabletMoves.continues (moves : TabletMoves codec before after) :
    Continues codec root before after := by
  rcases moves with ⟨_, _, _, registers, steps⟩ | ⟨key, rfl⟩
  · exact continues_of_registers registers steps
  · exact continues_of_changes codec root ⟨.delete key, trivial, rfl⟩

/-- Others do not make the delivered tablets stale. -/
theorem Current.stable
    (current : Current before)
    (continued : Continues codec root before after) : Current after := by
  obtain ⟨_, _, rfl⟩ := continued
  exact current

theorem follow_all_same_or_changed
    (events : List Event)
    (state : Map String Tablet × Bool) :
    events.foldl (follow codec) state = state ∨
      (events.foldl (follow codec) state).2 = true := by
  induction events generalizing state with
  | nil => exact Or.inl rfl
  | cons event events ih =>
      rcases ih (follow codec state event) with same | changed
      · rw [List.foldl_cons, same]
        unfold follow
        split
        · split
          · exact Or.inl rfl
          · exact Or.inr rfl
        · exact Or.inr rfl
      · exact Or.inr changed

theorem current_notify (state : State) :
    notify.wp (amongChanges codec root) (machine.StepsWhen allowed ())
      (fun _ later => Current later) state := by
  refine Prog.wp_perform_when fun _ _ _ _ => ?_
  refine Prog.wp_perform_when fun _ _ told _ => ?_
  obtain ⟨_, _, rfl⟩ := told
  rintro _ ⟨_, _, rfl⟩ tablet
  simp only [machine, State.act, List.getLastD_concat, List.mem_map, RangeOrder.mem_visit,
    Sigma.exists, ← AList.mem_lookup_iff, Option.mem_def, exists_eq_right]

/-- Following events keeps the delivered tablets current. -/
theorem current_followEvents
    (rounds : Nat)
    (current : Current state) :
    (followEvents codec root rounds).wp (amongChanges codec root) (machine.StepsWhen allowed ())
      (fun _ later => Current later) state := by
  induction rounds generalizing state with
  | zero => exact fun _ continued => current.stable continued
  | succ rounds ih =>
      rintro _ continued delivery received ⟨_, _, stepped⟩
      have currentNow : Current received := by
        have still := current.stable continued
        simp only [machine, State.act] at stepped
        repeat' split at stepped
        all_goals
          obtain ⟨_, rfl⟩ := Prod.mk.inj stepped
          exact still
      refine ⟨trivial, ?_⟩
      cases delivery with
      | closed | failed => exact fun _ more => currentNow.stable more
      | events events =>
          refine Prog.wp_perform_when fun reading _ readingContinued _ => ?_
          have still : Current reading := currentNow.stable readingContinued
          refine Prog.wp_perform_when fun writing _ writingContinued _ => ?_
          refine Prog.wp_seq ?_ fun _ _ => ih
          change (notifyIf (events.foldl (follow codec) (reading.tablets, false)).2).wp _ _ _
            { writing with tablets := (events.foldl (follow codec) (reading.tablets, false)).1 }
          rcases follow_all_same_or_changed events (reading.tablets, false) with same | changed
          · obtain ⟨_, _, rfl⟩ := writingContinued
            rw [same]
            rintro _ ⟨_, _, rfl⟩
            exact still
          · rw [changed]
            exact current_notify _

/-- A watch keeps the delivered tablets current. -/
theorem current_watch
    (rounds : Nat)
    (current : Current state) :
    (watch codec root rounds).wp (amongChanges codec root) (machine.StepsWhen allowed ())
      (fun _ later => Current later) state := by
  rintro _ continued received after ⟨_, _, stepped⟩
  refine ⟨trivial, ?_⟩
  cases received with
  | error reason =>
      simp only [machine, State.act] at stepped
      split at stepped
      · obtain ⟨_, rfl⟩ := Prod.mk.inj stepped
        exact fun _ more => (current.stable continued).stable more
      · cases (Prod.mk.inj stepped).1
  | ok kvs =>
      refine Prog.wp_perform_when fun _ _ _ _ => Prog.wp_perform_when fun _ _ _ _ => ?_
      refine Prog.wp_seq (current_notify _) ?_
      intro _ _ currentNow
      refine Prog.wp_perform_when fun opening _ openingContinued _ => ?_
      have still : Current opening := currentNow.stable openingContinued
      exact current_followEvents rounds still

/-- While tablets register and leases expire, and the watch is opened in time, the last
update lists the valid records in etcd once all events are delivered.  Statements then go
to tablets with such a record, and writes to primaries among them. -/
theorem routed_tablets_are_registered
    {history : List Event}
    {rounds : Nat}
    {outcome : Option (Except String Unit)}
    {final : State}
    (returns : Prog.Returns machine () (TabletMoves codec) (OpensInTime root)
      (watch codec root rounds) { history := history } outcome final)
    (delivered : final.watching = some final.history.length)
    {r : Router}
    (reached : Reached (final.updates.getLastD []) r)
    (addressed : ∀ tablet ∈ final.updates.getLastD [], tablet.addr ≠ "")
    (exprString : Expr → String)
    (range : RangeOrder)
    (stmt : Statement)
    (rest : List Statement)
    (plain : Parser.isTxControl stmt = false)
    (inTransaction : Bool) :
    (∀ tablet, tablet ∈ final.updates.getLastD [] ↔
      ∃ key, validRecord codec root final.history key = some tablet) ∧
    ∀ tc ∈ (r.route exprString range (.ok (stmt :: rest)) inTransaction).1.tablets,
      ∃ key tablet, validRecord codec root final.history key = some tablet ∧
        tc.target = tablet.addr ∧
        ((inTransaction || queryTypeOf stmt == .write) = true → tablet.type = "PRIMARY") := by
  have watched : Watched codec root final :=
    returns.post (fun _ _ => TabletMoves.continues) (wp_watch rounds rfl rfl)
  have current : Current final :=
    returns.post (fun _ _ => TabletMoves.continues) (current_watch rounds (by simp [Current]))
  rcases watched with unopened | ⟨passed, following, keeps⟩
  · rw [unopened] at delivered
    cases delivered
  have shows := keeps.shows
  rw [following.watching] at delivered
  rw [Option.some.inj delivered, List.take_length] at shows
  have lists := fun tablet =>
    (current tablet).trans (exists_congr fun key => Eq.congr_left (shows key))
  refine ⟨lists, ?_⟩
  intro tc routed
  obtain ⟨_, group, _, known, picked⟩ := picked_of_route plain routed
  obtain ⟨tablet, eligible, client⟩ := eligible_of_pickOne reached addressed known picked
  obtain ⟨key, valid⟩ := (lists tablet).mp (wanted_all _ _ _ client.recorded).2
  refine ⟨key, tablet, valid, client.reaches, ?_⟩
  intro writing
  rw [Eligible, if_pos (Or.inl writing)] at eligible
  exact eligible.2

theorem registered_tablet_is_routed :
    ∃ key tablet, validRecord firstPrimaryCodec "/vscale/tablets/" registered key = some tablet ∧
      "a:1" = tablet.addr ∧ ((true || queryTypeOf readUsers == .write) = true →
        tablet.type = "PRIMARY") := by
  have returns : Prog.Returns machine () (TabletMoves firstPrimaryCodec)
      (OpensInTime "/vscale/tablets/") (watch firstPrimaryCodec "/vscale/tablets/" 0)
      { history := registered } none informed :=
    .perform { revision := 1 } trivial <| .perform {} trivial <| .perform {} trivial <|
      .perform {} trivial <| .perform {} trivial <| .perform {} (by rintro _ ⟨⟩) <| .pure _ _
  exact (routed_tablets_are_registered returns rfl
    (.sync .stored (fun _ => true) [firstPrimary] (.start usersSchema)) (by decide)
    integralExternals.exprString .stored readUsers [] (by decide) true).2 ⟨0, "a:1"⟩ (by decide)

end EtcdTopology
end VScale
