import VScale.Gate.Acknowledgement

/-!
# The accounts of a session

The participants recorded in a session account for everything the session has
acknowledged since its last begin.  An operation keeps the accounts when it
records only fresh participants and forgets none that is still needed.
-/

namespace VScale

open Collections Effects Tree

/-- A transaction of the session begins. -/
def Event.begins (session : Int) : Event → Bool
  | .begun _ other => other = session
  | _ => false

namespace World

/-- What has happened since the session last began. -/
def sinceBegin (w : World) (session : Int) : List Event :=
  w.log.takeWhile fun event => !event.begins session

/-- A call of the session has succeeded since the session last began. -/
def Acknowledged (w : World) (session : Int) (caller : Caller) : Prop :=
  caller.session = some session ∧
    ∃ resp, Event.returned caller (.ok resp) ∈ w.sinceBegin session

/-- The call is one of the session, or has created it. -/
def WorksOn (w : World) (caller : Caller) (session : Int) : Prop :=
  caller.session = some session ∨ Event.created caller session ∈ w.log

/-- What a call ran, it ran inside recorded transactions, wherever it was sent. -/
def Backed (w : World) (session : Int) (caller : Caller) : Prop :=
  w.RanInside caller (w.Recorded session) ∧ w.RanAll caller

/-- Participants have numbers of running processes, and account for what the
session has acknowledged. -/
structure Accounts (w : World) : Prop where
  own : w.router.TargetsOwn
  numbered : ∀ session, (w.sessions session).shardTxIDs.All fun addr id =>
    id.id ≠ 0 ∧ id.epoch = (w.tablets addr).tx.epoch
  backed : ∀ session caller, (w.sessions session).state = .inTransaction →
    w.Acknowledged session caller → w.Backed session caller

/-- A session and its acknowledged calls stay as they are. -/
structure Unchanged (session : Int) (before after : World) : Prop where
  same : after.sessions session = before.sessions session
  acknowledged : ∀ caller,
    after.Acknowledged session caller ↔ before.Acknowledged session caller

variable {session : Int} {caller : Caller} {w before after : World}

theorem Unchanged.refl (session : Int) (w : World) : Unchanged session w w :=
  ⟨rfl, fun _ => Iff.rfl⟩

theorem Unchanged.trans
    {middle : World}
    (first : Unchanged session before middle)
    (second : Unchanged session middle after) : Unchanged session before after :=
  ⟨second.same.trans first.same,
    fun caller => (second.acknowledged caller).trans (first.acknowledged caller)⟩

theorem Acknowledged.returned (acknowledged : w.Acknowledged session caller) :
    ∃ resp, Event.returned caller (.ok resp) ∈ w.log := by
  obtain ⟨_, resp, present⟩ := acknowledged
  exact ⟨resp, List.takeWhile_subset _ present⟩

/-- Events that neither begin the session nor end a call of it. -/
theorem acknowledged_append
    {new : List Event}
    (logged : after.log = new ++ before.log)
    (unrelated : ∀ event ∈ new, event.begins session = false ∧
      ∀ past outcome, event = .returned past outcome → past.session ≠ some session)
    (caller : Caller) :
    after.Acknowledged session caller ↔ before.Acknowledged session caller := by
  have since : after.sinceBegin session = new ++ before.sinceBegin session := by
    unfold sinceBegin
    rw [logged]
    apply List.takeWhile_append_of_pos
    intro event present
    rw [(unrelated event present).1]
    rfl
  unfold Acknowledged
  rw [since]
  constructor
  · rintro ⟨own, resp, present⟩
    rcases List.mem_append.mp present with now | earlier
    · exact absurd own ((unrelated _ now).2 caller _ rfl)
    · exact ⟨own, resp, earlier⟩
  · rintro ⟨own, resp, present⟩
    exact ⟨own, resp, List.mem_append_right new present⟩

/-- Right after a begin nothing is acknowledged. -/
theorem not_acknowledged_of_begun
    {events : List Event}
    {starter : Caller}
    (logged : w.log = .begun starter session :: events)
    (caller : Caller) :
    ¬ w.Acknowledged session caller := by
  rintro ⟨_, resp, present⟩
  simp [sinceBegin, logged, Event.begins] at present

end World

/-- The operation keeps the accounts of the session it changes. -/
def GateOp.Orderly (op : GateOp) (caller : Caller) (w : World) : Prop :=
  match op with
  | .setState session _ => w.WorksOn caller session
  | .setLocalTxID session addr id =>
      w.WorksOn caller session ∧ (w.sessions session).shardTxIDs.lookup addr = none ∧
        id.id ≠ 0 ∧ id.epoch = (w.tablets addr).tx.epoch
  | .clearParticipants session =>
      w.WorksOn caller session ∧
        ((w.sessions session).state = .inTransaction →
          ∀ other, ¬ w.Acknowledged session other)
  | _ => True

/-- What an operation of a call does to the accounts. -/
structure World.Serving (caller : Caller) (before after : World) : Prop where
  kept : before.Keeps after
  epochs : ∀ addr, (after.tablets addr).tx.epoch = (before.tablets addr).tx.epoch
  logged : ∃ new, after.log = new ++ before.log ∧
    ∀ event ∈ new, event.caller = some caller ∧ event.Inner
  others : ∀ session, ¬ after.WorksOn caller session → World.Unchanged session before after
  accounts : after.Accounts

section Operations

variable (ext : Externals) {caller : Caller} {op : GateOp} (choice : Choice) {w : World}

variable {session : Int}

/-- A session that is not touched keeps its acknowledged calls. -/
theorem unchanged_act (untouched : ¬ op.Touches w session) :
    World.Unchanged session w (w.act ext caller op choice).2 := by
  obtain ⟨new, logged, own⟩ := (World.evolves_act ext caller op choice w).logged
  refine ⟨World.sessions_act ext caller op choice w untouched, ?_⟩
  apply World.acknowledged_append logged
  intro event present
  obtain ⟨_, inner, within⟩ := own event present
  cases event with
  | begun starter other =>
      refine ⟨decide_eq_false ?_, fun _ _ returned => nomatch returned⟩
      rintro rfl
      exact untouched within
  | returned past outcome => exact False.elim inner
  | _ => exact ⟨rfl, fun _ _ returned => nomatch returned⟩

/-- A call touches only sessions it works on. -/
theorem worksOn_of_touches
    (orderly : op.Orderly caller w)
    (touches : op.Touches w session) :
    (w.act ext caller op choice).2.WorksOn caller session := by
  have later : w.WorksOn caller session →
      (w.act ext caller op choice).2.WorksOn caller session := by
    obtain ⟨new, logged, _⟩ := (World.evolves_act ext caller op choice w).logged
    intro works
    unfold World.WorksOn
    rw [logged]
    exact works.imp_right (List.mem_append_right new)
  cases op with
  | create =>
      obtain rfl : session = w.nextID + 1 := touches
      exact Or.inr List.mem_cons_self
  | setState other state =>
      obtain rfl : session = other := touches
      exact later orderly
  | setLocalTxID other addr id | clearParticipants other =>
      obtain rfl : session = other := touches
      exact later orderly.1
  | _ => exact False.elim touches

/-- What is acknowledged in a transaction was acknowledged before, and recorded
transactions stay recorded. -/
theorem recorded_of_acknowledged
    (orderly : op.Orderly caller w)
    {other : Caller}
    (state : ((w.act ext caller op choice).2.sessions session).state = .inTransaction)
    (acknowledged : (w.act ext caller op choice).2.Acknowledged session other) :
    (w.sessions session).state = .inTransaction ∧ w.Acknowledged session other ∧
      ∀ addr id, w.Recorded session addr id →
        (w.act ext caller op choice).2.Recorded session addr id := by
  by_cases touches : op.Touches w session
  · cases op with
    | create =>
        obtain rfl : session = w.nextID + 1 := touches
        simp only [World.act, Function.update_self] at state
        cases state
    | setState changed target =>
        obtain rfl : session = changed := touches
        rw [World.session_setState] at state
        obtain rfl : target = .inTransaction := state
        have begun : (w.act ext caller (.setState session .inTransaction) choice).2.log =
            .begun caller session :: w.log := rfl
        exact absurd acknowledged (World.not_acknowledged_of_begun begun other)
    | setLocalTxID changed addr id =>
        obtain rfl : session = changed := touches
        simp only [World.act, World.updateSession, Function.update_self] at state
        exact ⟨state, acknowledged, fun place held recorded => recorded.kept orderly.2.1⟩
    | clearParticipants changed =>
        obtain rfl : session = changed := touches
        simp only [World.act, World.updateSession, Function.update_self] at state
        exact absurd acknowledged (orderly.2 state other)
    | _ => exact False.elim touches
  · have same : World.Unchanged session w (w.act ext caller op choice).2 :=
      unchanged_act ext choice touches
    rw [same.same] at state
    refine ⟨state, (same.acknowledged other).mp acknowledged, ?_⟩
    intro addr id recorded
    rw [World.Recorded, same.same]
    exact recorded

/-- Orderly operations of a running call keep the accounts. -/
theorem serving_act
    (accounts : w.Accounts)
    (running : ∀ outcome, Event.returned caller outcome ∉ w.log)
    (orderly : op.Orderly caller w) :
    World.Serving caller w (w.act ext caller op choice).2 := by
  have evolves := World.evolves_act ext caller op choice w
  obtain ⟨new, logged, own⟩ := evolves.logged
  refine ⟨evolves.kept, evolves.epochs, ⟨new, logged, ?_⟩, ?_, ?_⟩
  · intro event present
    exact ⟨(own event present).1, (own event present).2.1⟩
  · intro session idle
    apply unchanged_act ext choice
    intro touches
    exact idle (worksOn_of_touches ext choice orderly touches)
  · refine ⟨World.targetsOwn_act ext caller op choice accounts.own, ?_, ?_⟩
    · intro session
      have numbered := World.all_participants_act ext caller op choice (accounts.numbered session)
        (by rintro addr id rfl; exact orderly.2.2)
      refine numbered.imp ?_
      intro addr id proper
      rw [evolves.epochs addr]
      exact proper
    · intro session other state acknowledged
      obtain ⟨inside, before, recorded⟩ :=
        recorded_of_acknowledged ext choice orderly state acknowledged
      obtain ⟨ran, all⟩ := accounts.backed session other inside before
      have foreign : ∀ event ∈ new, event.caller = some other → ¬ event.Runs := by
        intro event present theirs
        obtain ⟨resp, returned⟩ := before.returned
        have same : caller = other :=
          Option.some.inj ((own event present).1.symm.trans theirs)
        rw [← same] at returned
        exact absurd returned (running _)
      exact ⟨(ran.append logged foreign).mono recorded, all.append logged foreign⟩

end Operations

end VScale
