import VScale.Collections.MapInvariant
import VScale.Effects.Trace
import VScale.Topology.Etcd

/-!
# Following the topology

A watch is opened after the snapshot, so changes between the two are not delivered,
and an invalid value does not remove the record it replaces.  When neither happens,
the records of the gate are the valid ones in etcd as soon as all events have been
delivered.
-/

namespace VScale
namespace EtcdTopology

open Collections Effects

variable (codec : Codec) (root : String)

/-- Records are those that a history leaves under the root. -/
def Shows (tablets : Map String Tablet) (history : List Event) : Prop :=
  ∀ key, tablets.lookup key = validRecord codec root history key

/-- An invalid value is put only where there is no valid record. -/
def Fine (history : List Event) : Event → Prop
  | .put key value => Under root key → codec.unmarshal value = none →
      validRecord codec root history key = none
  | .delete _ => True

/-- Changes that are fine one after the other. -/
def AllFine : List Event → List Event → Prop
  | _, [] => True
  | history, event :: events => Fine codec root history event ∧ AllFine (history ++ [event]) events

/-- One change made by others. -/
def Changes (before after : State) : Prop :=
  ∃ event, Fine codec root before.history event ∧ after = before.change event

/-- The watch is opened before anything has changed since the snapshot. -/
def OpensInTime (step : Step topology State Choice) : Prop :=
  match step.op with
  | .watch _ => ∀ event ∈ step.before.history.drop step.before.snapshot, ¬ Under root event.key
  | _ => True

section Histories

variable {codec root} {history : List Event}

variable {first second events : List Event} {event : Event} {key : String}
variable {state : Map String Tablet × Bool}

theorem allFine_append
    (fine : AllFine codec root history first)
    (later : AllFine codec root (history ++ first) second) :
    AllFine codec root history (first ++ second) := by
  induction first generalizing history with
  | nil =>
      rw [List.append_nil] at later
      exact later
  | cons event events ih =>
      refine ⟨fine.1, ih fine.2 ?_⟩
      rw [List.append_assoc]
      exact later

theorem allFine_split (fine : AllFine codec root history (first ++ second)) :
    AllFine codec root history first ∧ AllFine codec root (history ++ first) second := by
  induction first generalizing history with
  | nil =>
      rw [List.append_nil]
      exact ⟨trivial, fine⟩
  | cons event events ih =>
      obtain ⟨before, after⟩ := ih fine.2
      rw [List.append_assoc] at after
      exact ⟨⟨fine.1, before⟩, after⟩

/-- A change affects the record of its own key. -/
theorem validRecord_of_ne (other : key ≠ event.key) :
    validRecord codec root (history ++ [event]) key = validRecord codec root history key := by
  unfold validRecord storedAfter
  rw [List.foldl_append, List.foldl_cons, List.foldl_nil]
  cases event with
  | put changed value =>
      rw [Event.key_put] at other
      rw [record, AList.lookup_insert_ne other]
  | delete changed =>
      rw [Event.key_delete] at other
      rw [record, AList.lookup_erase_ne other]

theorem validRecord_put
    (under : Under root key)
    (value : String) :
    validRecord codec root (history ++ [.put key value]) key = codec.unmarshal value := by
  unfold validRecord storedAfter
  rw [if_pos under, List.foldl_append, List.foldl_cons, List.foldl_nil, record,
    AList.lookup_insert]
  rfl

theorem validRecord_delete (key : String) :
    validRecord codec root (history ++ [.delete key]) key = none := by
  unfold validRecord storedAfter
  rw [List.foldl_append, List.foldl_cons, List.foldl_nil, record, AList.lookup_erase]
  exact ite_self none

theorem validRecord_foreign (foreign : ¬ Under root key) :
    validRecord codec root history key = none :=
  if_neg foreign

variable {tablets : Map String Tablet}

/-- Changes elsewhere leave the records as they are. -/
theorem Shows.append_foreign
    (shows : Shows codec root tablets history)
    (foreign : ¬ Under root event.key) : Shows codec root tablets (history ++ [event]) := by
  intro key
  rw [shows key]
  by_cases same : key = event.key
  · rw [same, validRecord_foreign foreign, validRecord_foreign foreign]
  · rw [validRecord_of_ne same]

theorem Shows.append_all_foreign
    (shows : Shows codec root tablets history)
    (foreign : ∀ event ∈ events, ¬ Under root event.key) :
    Shows codec root tablets (history ++ events) := by
  induction events generalizing history with
  | nil =>
      rw [List.append_nil]
      exact shows
  | cons event events ih =>
      obtain ⟨first, rest⟩ := List.forall_mem_cons.mp foreign
      rw [List.append_cons]
      exact ih (shows.append_foreign first) rest

/-- Following a fine change keeps up with it. -/
theorem Shows.follow
    (shows : Shows codec root state.1 history)
    (under : Under root event.key)
    (fine : Fine codec root history event) :
    Shows codec root (follow codec state event).1 (history ++ [event]) := by
  intro key
  cases event with
  | put changed value =>
      rw [Event.key_put] at under
      simp only [EtcdTopology.follow]
      by_cases same : key = changed
      · subst same
        rw [validRecord_put under]
        cases decoded : codec.unmarshal value with
        | none => exact (shows key).trans (fine under decoded)
        | some tablet => exact AList.lookup_insert _
      · rw [validRecord_of_ne same, ← shows key]
        cases codec.unmarshal value with
        | none => rfl
        | some tablet => exact AList.lookup_insert_ne same
  | delete changed =>
      simp only [EtcdTopology.follow]
      by_cases same : key = changed
      · subst same
        rw [validRecord_delete, AList.lookup_erase]
      · rw [validRecord_of_ne same, AList.lookup_erase_ne same, shows key]

/-- Following the delivered part of fine changes keeps up with all of them. -/
theorem Shows.follow_all
    (shows : Shows codec root state.1 history)
    (fine : AllFine codec root history events) :
    Shows codec root
      ((events.filter fun event => Under root event.key).foldl (EtcdTopology.follow codec) state).1
      (history ++ events) := by
  induction events generalizing history state with
  | nil =>
      rw [List.append_nil]
      exact shows
  | cons event events ih =>
      rw [List.append_cons]
      by_cases under : Under root event.key
      · rw [List.filter_cons_of_pos (by simpa using under), List.foldl_cons]
        exact ih (shows.follow under fine.1) fine.2
      · rw [List.filter_cons_of_neg (by simpa using under)]
        exact ih (shows.append_foreign under) fine.2

end Histories

section Snapshot

variable {codec root}

theorem fill_cons
    (tablets : Map String Tablet)
    (kv : String × String)
    (kvs : List (String × String)) :
    fill codec tablets (kv :: kvs) = fill codec
      (match codec.unmarshal kv.2 with
        | none => tablets
        | some tablet => tablets.insert kv.1 tablet) kvs :=
  rfl

theorem lookup_fill_iff
    {kvs : List (String × String)}
    {tablets : Map String Tablet}
    (distinct : kvs.Pairwise fun first second => first.1 ≠ second.1)
    (fresh : ∀ kv ∈ kvs, kv.1 ∉ tablets)
    (key : String)
    (tablet : Tablet) :
    (fill codec tablets kvs).lookup key = some tablet ↔
      tablets.lookup key = some tablet ∨
        ∃ value, (key, value) ∈ kvs ∧ codec.unmarshal value = some tablet := by
  induction kvs generalizing tablets with
  | nil => simp [fill]
  | cons kv kvs ih =>
      obtain ⟨different, rest⟩ := List.pairwise_cons.mp distinct
      obtain ⟨absent, restFresh⟩ := List.forall_mem_cons.mp fresh
      rw [fill_cons]
      cases decoded : codec.unmarshal kv.2 with
      | none =>
          rw [ih rest restFresh]
          apply or_congr_right
          constructor
          · rintro ⟨value, listed, valid⟩
            exact ⟨value, List.mem_cons_of_mem kv listed, valid⟩
          · rintro ⟨value, listed, valid⟩
            rcases List.mem_cons.mp listed with rfl | later
            · rw [decoded] at valid
              cases valid
            · exact ⟨value, later, valid⟩
      | some first =>
          rw [ih rest (by
            intro other listed present
            rcases (AList.mem_insert _).mp present with same | old
            · exact different other listed same.symm
            · exact restFresh other listed old)]
          by_cases same : key = kv.1
          · subst same
            rw [AList.lookup_insert, AList.lookup_eq_none.mpr absent]
            constructor
            · rintro (equal | ⟨value, listed, valid⟩)
              · exact Or.inr ⟨kv.2, List.mem_cons_self, decoded.trans equal⟩
              · exact Or.inr ⟨value, List.mem_cons_of_mem kv listed, valid⟩
            · rintro (impossible | ⟨value, listed, valid⟩)
              · cases impossible
              · rcases List.mem_cons.mp listed with equal | later
                · obtain rfl : value = kv.2 := congrArg Prod.snd equal
                  exact Or.inl (decoded.symm.trans valid)
                · exact Or.inr ⟨value, later, valid⟩
          · rw [AList.lookup_insert_ne same]
            apply or_congr_right
            constructor
            · rintro ⟨value, listed, valid⟩
              exact ⟨value, List.mem_cons_of_mem kv listed, valid⟩
            · rintro ⟨value, listed, valid⟩
              rcases List.mem_cons.mp listed with equal | later
              · exact absurd (congrArg Prod.fst equal) same
              · exact ⟨value, later, valid⟩

/-- The records filled from a snapshot are the valid ones it shows. -/
theorem shows_fill
    (range : RangeOrder)
    (history : List Event) :
    Shows codec root
      (fill codec ∅ (((range.visit (storedAfter history).entries).map
        fun entry => (entry.1, entry.2)).filter fun kv => Under root kv.1)) history := by
  intro key
  apply Option.ext
  intro tablet
  rw [lookup_fill_iff ((Map.nodup_visited range (storedAfter history)).filter _)
    (fun kv _ => AList.notMem_empty kv.1)]
  unfold validRecord
  constructor
  · rintro (impossible | ⟨value, listed, valid⟩)
    · rw [AList.lookup_empty] at impossible
      cases impossible
    · obtain ⟨stored, under⟩ := List.mem_filter.mp listed
      rw [if_pos (of_decide_eq_true under), (Map.mem_visited range _ key value).mp stored]
      exact valid
  · intro shown
    split at shown
    · rename_i under
      obtain ⟨value, stored, valid⟩ := Option.bind_eq_some_iff.mp shown
      exact Or.inr ⟨value, List.mem_filter.mpr
        ⟨(Map.mem_visited range _ key value).mpr stored, decide_eq_true under⟩, valid⟩
    · cases shown

end Snapshot

/-- What others do between two operations. -/
def Continues (before after : State) : Prop :=
  ∃ events, AllFine codec root before.history events ∧
    after = { before with history := before.history ++ events }

/-- Others make fine changes. -/
def amongChanges : Contract State where
  rely := Continues codec root
  guarantee := fun _ _ => True
  rely_refl := by
    intro state
    exact ⟨[], trivial, by rw [List.append_nil]⟩
  rely_trans := by
    rintro first _ _ ⟨events, fine, rfl⟩ ⟨later, laterFine, rfl⟩
    exact ⟨events ++ later, allFine_append fine laterFine, by rw [List.append_assoc]⟩

variable {before after : State}

theorem continues_of_changes (changes : Changes codec root before after) :
    Continues codec root before after := by
  obtain ⟨event, fine, rfl⟩ := changes
  unfold State.change
  cases event with
  | put key value => exact ⟨[.put key value], ⟨fine, trivial⟩, rfl⟩
  | delete key =>
      simp only
      split
      · exact ⟨[.delete key], ⟨fine, trivial⟩, rfl⟩
      · exact (amongChanges codec root).rely_refl before

/-- The gate shows what its snapshot or its watch has passed. -/
structure KeepsUp (passed : Nat) (state : State) : Prop where
  within : passed ≤ state.history.length
  shows : Shows codec root state.tablets (state.history.take passed)

/-- An open watch that is followed. -/
structure Following (passed : Nat) (state : State) : Prop where
  watching : state.watching = some passed
  within : passed ≤ state.history.length
  fine : AllFine codec root (state.history.take passed) (state.history.drop passed)

/-- The gate before it opens its watch. -/
structure Filled (state : State) : Prop where
  unopened : state.watching = none
  keeps : KeepsUp codec root state.snapshot state

/-- A watch that never opened, or one that is followed. -/
def Watched (state : State) : Prop :=
  state.watching = none ∨
    ∃ passed, Following codec root passed state ∧ KeepsUp codec root passed state

/-- A batch that was received and not followed yet. -/
structure Pending (passed : Nat) (batch : List Event) (state : State) : Prop where
  within : passed + batch.length ≤ state.history.length
  shows : Shows codec root state.tablets (state.history.take passed)
  received : state.history.take (passed + batch.length) = state.history.take passed ++ batch
  fine : AllFine codec root (state.history.take passed) batch

section Rules

variable {codec root} {passed : Nat} {batch : List Event} {before after : State}

theorem KeepsUp.stable
    (keeps : KeepsUp codec root passed before)
    (continued : Continues codec root before after) : KeepsUp codec root passed after := by
  obtain ⟨events, _, rfl⟩ := continued
  refine ⟨?_, ?_⟩
  · rw [List.length_append]
    exact Nat.le_add_right_of_le keeps.within
  · rw [List.take_append_of_le_length keeps.within]
    exact keeps.shows

theorem Following.stable
    (following : Following codec root passed before)
    (continued : Continues codec root before after) : Following codec root passed after := by
  obtain ⟨events, fine, rfl⟩ := continued
  refine ⟨following.watching, ?_, ?_⟩
  · rw [List.length_append]
    exact Nat.le_add_right_of_le following.within
  · rw [List.take_append_of_le_length following.within,
      List.drop_append_of_le_length following.within]
    apply allFine_append following.fine
    rw [List.take_append_drop]
    exact fine

theorem Pending.stable
    (pending : Pending codec root passed batch before)
    (continued : Continues codec root before after) : Pending codec root passed batch after := by
  obtain ⟨events, _, rfl⟩ := continued
  have within := pending.within
  have shorter : passed ≤ before.history.length := Nat.le_of_add_right_le within
  refine ⟨?_, ?_, ?_, ?_⟩
  · rw [List.length_append]
    exact Nat.le_add_right_of_le within
  · rw [List.take_append_of_le_length shorter]
    exact pending.shows
  · rw [List.take_append_of_le_length shorter, List.take_append_of_le_length within]
    exact pending.received
  · rw [List.take_append_of_le_length shorter]
    exact pending.fine

/-- Following a batch catches up with the watch. -/
theorem Pending.follow (pending : Pending codec root passed batch before) :
    KeepsUp codec root (passed + batch.length)
      { before with
        tablets := ((batch.filter fun event => Under root event.key).foldl
          (EtcdTopology.follow codec) (before.tablets, false)).1 } := by
  refine ⟨pending.within, ?_⟩
  have followed : Shows codec root ((batch.filter fun event => Under root event.key).foldl
      (EtcdTopology.follow codec) (before.tablets, false)).1
      (before.history.take passed ++ batch) := Shows.follow_all pending.shows pending.fine
  rw [← pending.received] at followed
  exact followed

/-- What a watch delivers comes next in the history. -/
theorem Following.receive
    (following : Following codec root passed before)
    (keeps : KeepsUp codec root passed before)
    (count : Nat) :
    Following codec root (passed + (before.batch passed count).length)
        { before with watching := some (passed + (before.batch passed count).length) } ∧
      Pending codec root passed (before.batch passed count)
        { before with watching := some (passed + (before.batch passed count).length) } := by
  have split : before.history.drop passed =
      before.batch passed count ++ (before.history.drop passed).drop count :=
    (List.take_append_drop count _).symm
  have received : before.history.take (passed + (before.batch passed count).length) =
      before.history.take passed ++ before.batch passed count := by
    rw [List.take_add, split, List.take_left]
  have rest : before.history.drop (passed + (before.batch passed count).length) =
      (before.history.drop passed).drop count := by
    rw [← List.drop_drop, split, List.drop_left, ← split]
  have within : passed + (before.batch passed count).length ≤ before.history.length := by
    have shorter : (before.batch passed count).length ≤ (before.history.drop passed).length := by
      rw [split, List.length_append]
      exact Nat.le_add_right _ _
    rw [List.length_drop] at shorter
    have := following.within
    omega
  have fine := following.fine
  rw [split] at fine
  obtain ⟨first, later⟩ := allFine_split fine
  refine ⟨⟨rfl, within, ?_⟩, within, keeps.shows, received, first⟩
  simp only
  rw [received, rest]
  exact later

variable {state : State}

/-- Passing the records on changes nothing else. -/
theorem wp_notify
    {holds : State → Prop}
    (allowed : Step topology State Choice → Prop)
    (stable : ∀ before after, Continues codec root before after → holds before → holds after)
    (unmoved : ∀ state updates, holds state → holds { state with updates := updates })
    (initially : holds state) :
    notify.wp (amongChanges codec root) (machine.StepsWhen allowed ())
      (fun _ later => holds later) state := by
  have only : notify.Only fun op : TopologyOp =>
      op = .listTablets ∨ ∃ tablets, op = .onUpdate tablets :=
    ⟨Or.inl rfl, fun tablets => ⟨Or.inr ⟨tablets, rfl⟩, fun _ => trivial⟩⟩
  refine Prog.wp_of_only stable ?_ only initially
  rintro op before answer after (rfl | ⟨tablets, rfl⟩) ⟨choice, _, stepped⟩ kept
  · obtain ⟨_, rfl⟩ := Prod.mk.inj stepped
    exact ⟨trivial, kept⟩
  · obtain ⟨_, rfl⟩ := Prod.mk.inj stepped
    exact ⟨trivial, unmoved before _ kept⟩

/-- Whether the records are passed on or not, the watch is still followed. -/
theorem wp_notifyIf
    (allowed : Step topology State Choice → Prop)
    (changed : Bool)
    (following : Following codec root passed state)
    (keeps : KeepsUp codec root passed state) :
    (notifyIf changed).wp (amongChanges codec root) (machine.StepsWhen allowed ())
      (fun _ later => Following codec root passed later ∧ KeepsUp codec root passed later)
      state := by
  cases changed with
  | false =>
      intro later continued
      exact ⟨following.stable continued, keeps.stable continued⟩
  | true =>
      have both : Following codec root passed state ∧ KeepsUp codec root passed state :=
        ⟨following, keeps⟩
      refine wp_notify allowed ?_ ?_ both
      · intro before after continued holds
        exact ⟨holds.1.stable continued, holds.2.stable continued⟩
      · intro state updates holds
        exact ⟨⟨holds.1.watching, holds.1.within, holds.1.fine⟩, holds.2.within, holds.2.shows⟩

/-- The loop over deliveries keeps up with the watch. -/
theorem wp_followEvents
    (rounds : Nat)
    (following : Following codec root passed state)
    (keeps : KeepsUp codec root passed state) :
    (followEvents codec root rounds).wp (amongChanges codec root)
      (machine.StepsWhen (OpensInTime root) ())
      (fun _ later => ∃ passed, Following codec root passed later ∧ KeepsUp codec root passed later)
      state := by
  induction rounds generalizing passed state with
  | zero =>
      intro later continued
      exact ⟨passed, following.stable continued, keeps.stable continued⟩
  | succ rounds ih =>
      rintro before continued delivery after ⟨choice, _, stepped⟩
      have followingNow := following.stable continued
      have keepsNow := keeps.stable continued
      refine ⟨trivial, ?_⟩
      simp only [machine, State.act, followingNow.watching] at stepped
      split at stepped
      · obtain ⟨rfl, rfl⟩ := Prod.mk.inj stepped
        intro later more
        exact ⟨passed, followingNow.stable more, keepsNow.stable more⟩
      · split at stepped
        · obtain ⟨rfl, rfl⟩ := Prod.mk.inj stepped
          intro later more
          exact ⟨passed, followingNow.stable more, keepsNow.stable more⟩
        · obtain ⟨rfl, rfl⟩ := Prod.mk.inj stepped
          obtain ⟨moved, pending⟩ := followingNow.receive keepsNow choice.count
          generalize before.batch passed choice.count = batch at moved pending
          refine Prog.wp_perform_when fun reading _ readingContinued _ => ?_
          refine Prog.wp_perform_when fun writing _ writingContinued _ => ?_
          have movedNow := (moved.stable readingContinued).stable writingContinued
          have pendingNow := (pending.stable readingContinued).stable writingContinued
          have sameTablets : writing.tablets = reading.tablets := by
            obtain ⟨_, _, rfl⟩ := writingContinued
            rfl
          have caughtUp := pendingNow.follow
          rw [sameTablets] at caughtUp
          have follows : Following codec root (passed + batch.length)
              { writing with
                tablets := ((batch.filter fun event => Under root event.key).foldl
                  (EtcdTopology.follow codec) (reading.tablets, false)).1 } :=
            ⟨movedNow.watching, movedNow.within, movedNow.fine⟩
          refine Prog.wp_bind ?_
          have notified := wp_notifyIf (OpensInTime root) ((batch.filter fun event =>
            Under root event.key).foldl (EtcdTopology.follow codec) (reading.tablets, false)).2
            follows caughtUp
          exact Prog.wp_mono notified fun _ later holds => ih holds.1 holds.2

/-- Opening the watch in time loses nothing. -/
theorem Filled.opens
    (filled : Filled codec root state)
    (quiet : ∀ event ∈ state.history.drop state.snapshot, ¬ Under root event.key) :
    Following codec root state.history.length
        { state with watching := some state.history.length } ∧
      KeepsUp codec root state.history.length
        { state with watching := some state.history.length } := by
  refine ⟨⟨rfl, Nat.le_refl _, ?_⟩, Nat.le_refl _, ?_⟩
  · simp only [List.drop_length]
    trivial
  · have shown := filled.keeps.shows.append_all_foreign quiet
    rw [List.take_append_drop] at shown
    simp only [List.take_length]
    exact shown

theorem Filled.stable
    (filled : Filled codec root before)
    (continued : Continues codec root before after) : Filled codec root after := by
  have keeps := filled.keeps.stable continued
  obtain ⟨events, _, rfl⟩ := continued
  exact ⟨filled.unopened, keeps⟩

/-- From a snapshot on, the gate keeps up with its watch. -/
theorem wp_followSnapshot
    (rounds : Nat)
    {kvs : List (String × String)}
    (unopened : state.watching = none)
    (empty : state.tablets = ∅)
    (snapshot : KeepsUp codec root state.snapshot { state with tablets := fill codec ∅ kvs }) :
    (followSnapshot codec root rounds kvs).wp (amongChanges codec root)
      (machine.StepsWhen (OpensInTime root) ()) (fun _ later => Watched codec root later)
      state := by
  refine Prog.wp_perform_when fun reading _ readingContinued _ => ?_
  refine Prog.wp_perform_when fun writing _ writingContinued _ => ?_
  have filled : Filled codec root
      { writing with tablets := fill codec reading.tablets kvs } := by
    obtain ⟨first, firstFine, rfl⟩ := readingContinued
    obtain ⟨second, secondFine, rfl⟩ := writingContinued
    refine ⟨unopened, ?_⟩
    simp only [empty]
    exact (snapshot.stable ⟨first, firstFine, rfl⟩).stable ⟨second, secondFine, rfl⟩
  refine Prog.wp_bind ?_
  have notified := wp_notify (OpensInTime root)
    (fun _ _ continued holds => Filled.stable holds continued)
    (fun state updates holds => ⟨holds.unopened, holds.keeps.within, holds.keeps.shows⟩) filled
  refine Prog.wp_mono notified ?_
  intro _ noted filledNow
  refine Prog.wp_perform_when fun opening _ openingContinued inTime => ?_
  obtain ⟨following, keeps⟩ := (filledNow.stable openingContinued).opens inTime
  exact Prog.wp_mono (wp_followEvents rounds following keeps) fun _ _ => Or.inr

theorem wp_watch
    (rounds : Nat)
    (unopened : state.watching = none)
    (empty : state.tablets = ∅) :
    (watch codec root rounds).wp (amongChanges codec root)
      (machine.StepsWhen (OpensInTime root) ()) (fun _ later => Watched codec root later)
      state := by
  rintro getting continued received after ⟨choice, _, stepped⟩
  refine ⟨trivial, ?_⟩
  have unopenedNow : getting.watching = none ∧ getting.tablets = ∅ := by
    obtain ⟨_, _, rfl⟩ := continued
    exact ⟨unopened, empty⟩
  simp only [machine, State.act] at stepped
  split at stepped
  · obtain ⟨rfl, rfl⟩ := Prod.mk.inj stepped
    intro later more
    obtain ⟨_, _, rfl⟩ := more
    exact Or.inl unopenedNow.1
  · obtain ⟨rfl, rfl⟩ := Prod.mk.inj stepped
    exact wp_followSnapshot rounds unopenedNow.1 unopenedNow.2
      ⟨Nat.min_le_right _ _, shows_fill choice.range _⟩

end Rules

/-- While nothing under the root changes between the snapshot and the opening of the
watch, and no invalid value replaces a valid record, the records of the gate are the
valid ones in etcd whenever all events have been delivered. -/
theorem watch_misses_no_event
    (codec : Codec)
    (root : String)
    (history : List Event)
    (rounds : Nat)
    {outcome : Option (Except String Unit)}
    {final : State}
    (returns : Prog.Returns machine () (Changes codec root) (OpensInTime root)
      (watch codec root rounds) { history := history } outcome final)
    (delivered : final.watching = some final.history.length) :
    Shows codec root final.tablets final.history := by
  have keeping : (watch codec root rounds).wp (amongChanges codec root)
      (machine.StepsWhen (OpensInTime root) ()) (fun _ later => Watched codec root later)
      { history := history } := wp_watch rounds rfl rfl
  have watched : Watched codec root final := by
    refine returns.post ?_ keeping
    intro before after changes
    exact continues_of_changes codec root changes
  rcases watched with unopened | ⟨passed, following, keeps⟩
  · rw [unopened] at delivered
    cases delivered
  · rw [following.watching] at delivered
    have shows := keeps.shows
    rw [Option.some.inj delivered, List.take_length] at shows
    exact shows

/-- The operations with which a tablet registers. -/
def Registers (tablet : Tablet) : TopologyOp → Prop
  | .connect => True
  | .grant _ => True
  | .put _ value _ => codec.marshal tablet = .ok value
  | .keepAlive _ => True
  | .close => True
  | _ => False

theorem only_register
    (aliasName : String)
    (tablet : Tablet)
    (ttlSeconds : Int) :
    (register codec root aliasName tablet ttlSeconds).Only (Registers codec tablet) := by
  have abandons : ∀ message, (abandon message).Only (Registers codec tablet) := by
    intro message
    exact ⟨trivial, fun _ => trivial⟩
  refine ⟨trivial, ?_⟩
  intro failure
  cases failure with
  | some reason => trivial
  | none =>
      refine ⟨trivial, ?_⟩
      intro granted
      cases granted with
      | error reason => exact abandons _
      | ok lease =>
          simp only
          cases written : codec.marshal tablet with
          | error reason => exact abandons _
          | ok value =>
              refine ⟨written, ?_⟩
              intro failure
              cases failure with
              | some reason => exact abandons _
              | none =>
                  refine ⟨trivial, ?_⟩
                  intro failure
                  cases failure with
                  | some reason => exact abandons _
                  | none => trivial

/-- A tablet that registers changes etcd in the way that a watch relies on. -/
def registering : Contract State where
  rely := fun _ _ => True
  guarantee := Continues codec root
  rely_refl := fun _ => trivial
  rely_trans := fun _ _ => trivial

variable {codec root} in
/-- A step of a registration is one that a watch relies on. -/
theorem continues_of_registers
    {tablet : Tablet}
    {op : TopologyOp}
    {answer : op.Answer}
    (registers : Registers codec tablet op)
    (steps : machine.StepsWhen (fun _ => True) () op before answer after) :
    Continues codec root before after := by
  have same : Continues codec root before before := (amongChanges codec root).rely_refl before
  obtain ⟨choice, _, stepped⟩ := steps
  cases op with
  | connect | keepAlive | close =>
      obtain ⟨_, rfl⟩ := Prod.mk.inj stepped
      exact same
  | grant ttlSeconds =>
      simp only [machine, State.act] at stepped
      split at stepped
      · obtain ⟨_, rfl⟩ := Prod.mk.inj stepped
        exact same
      · obtain ⟨_, rfl⟩ := Prod.mk.inj stepped
        exact same
  | put key value lease =>
      simp only [machine, State.act] at stepped
      split at stepped
      · obtain ⟨_, rfl⟩ := Prod.mk.inj stepped
        exact same
      · obtain ⟨_, rfl⟩ := Prod.mk.inj stepped
        apply continues_of_changes codec root
        refine ⟨.put key value, ?_, rfl⟩
        intro _ invalid
        rw [codec.unmarshal_marshal tablet value registers] at invalid
        cases invalid
  | get | watch | receive | tablets | setTablets | listTablets | onUpdate => cases registers

theorem register_keeps_records_valid
    (aliasName : String)
    (tablet : Tablet)
    (ttlSeconds : Int)
    (state : State) :
    (register codec root aliasName tablet ttlSeconds).wp (registering codec root)
      (machine.StepsWhen (fun _ => True) ()) (fun _ _ => True) state := by
  have kept : ∀ op before answer after, Registers codec tablet op →
      machine.StepsWhen (fun _ => True) () op before answer after →
      True → (registering codec root).guarantee before after ∧ True := by
    intro op before answer after registers steps _
    exact ⟨continues_of_registers registers steps, trivial⟩
  exact Prog.wp_of_only (fun _ _ _ _ => trivial) kept
    (only_register codec root aliasName tablet ttlSeconds) trivial

/-- The record of one primary. -/
def firstPrimary : Tablet :=
  { cell := "zone1", keyspace := "main", shard := "shard-0", type := "PRIMARY", addr := "a:1"
    keyRangeStart := 0, keyRangeEnd := 5000 }

/-- How it is written. -/
def firstPrimaryText : String :=
  "\x7b\"cell\":\"zone1\",\"keyspace\":\"main\",\"shard\":\"shard-0\",\"type\":\"PRIMARY\"," ++
    "\"addr\":\"a:1\",\"key_range_start\":0,\"key_range_end\":5000\x7d"

/-- A codec for this record alone. -/
def firstPrimaryCodec : Codec where
  marshal := fun tablet => if tablet = firstPrimary then .ok firstPrimaryText else .error "unknown"
  unmarshal := fun text => if text = firstPrimaryText then some firstPrimary else none
  unmarshal_marshal := by
    intro tablet text written
    split at written
    · rename_i known
      injection written with same
      rw [← same, known]
      exact if_pos rfl
    · cases written

/-- The key of the registered tablet. -/
def firstPrimaryKey : String := "/vscale/tablets/zone1-1"

/-- The root and one registered tablet. -/
def registered : List Event := [.put firstPrimaryKey firstPrimaryText]

/-- A gate that has read the registered tablet. -/
def informed : State :=
  { history := registered, snapshot := 1, watching := some 1
    tablets := AList.insert firstPrimaryKey firstPrimary ∅, updates := [[firstPrimary]] }

theorem registered_tablet_is_shown :
    Shows firstPrimaryCodec "/vscale/tablets/" informed.tablets informed.history := by
  have returns : Prog.Returns machine () (Changes firstPrimaryCodec "/vscale/tablets/")
      (OpensInTime "/vscale/tablets/") (watch firstPrimaryCodec "/vscale/tablets/" 1)
      { history := registered } none informed :=
    .perform { revision := 1 } trivial <| .perform {} trivial <| .perform {} trivial <|
      .perform {} trivial <| .perform {} trivial <|
      .perform {} (fun _ late => nomatch late) <|
      .perform {} trivial <| .perform {} trivial <| .perform {} trivial <| .pure _ _
  exact watch_misses_no_event firstPrimaryCodec "/vscale/tablets/" registered 1 returns rfl

/-- Others make a change just before an operation of some kind. -/
def disturbedAt
    (moment : TopologyOp → Bool)
    (event : Event)
    (choice : Choice) :
    Strategy topology State Choice Event where
  moves := fun _ op => if moment op then [event] else []
  choice := fun _ _ => choice

/-- A tablet registers between the snapshot and the opening of the watch. -/
def uninformed : State :=
  ((watch firstPrimaryCodec "/vscale/tablets/" 1).run machine ()
    (disturbedAt (fun op => op matches .watch _) (.put firstPrimaryKey firstPrimaryText) {}) {}).2

/-- A record is replaced by an invalid value while the watch is open. -/
def outdated : State :=
  ((watch firstPrimaryCodec "/vscale/tablets/" 1).run machine ()
    (disturbedAt (fun op => op matches .receive _) (.put firstPrimaryKey "")
      { revision := 1, count := 1 })
    { history := registered }).2

/-- All events have been delivered, but the new tablet is unknown, and the replaced one
is still known. -/
theorem delivered_watch_differs_from_etcd :
    (uninformed.watching = some uninformed.history.length ∧
      ¬ Shows firstPrimaryCodec "/vscale/tablets/" uninformed.tablets uninformed.history) ∧
    outdated.watching = some outdated.history.length ∧
      ¬ Shows firstPrimaryCodec "/vscale/tablets/" outdated.tablets outdated.history := by
  refine ⟨⟨rfl, ?_⟩, rfl, ?_⟩
  · intro shows
    exact absurd (shows firstPrimaryKey) (by decide)
  · intro shows
    exact absurd (shows firstPrimaryKey) (by decide)

end EtcdTopology
end VScale
