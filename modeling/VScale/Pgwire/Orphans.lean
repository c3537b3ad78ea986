import VScale.Pgwire.Clients

/-!
# Orphaned transactions

Every transaction that the coordinator has opened on a tablet should be recorded in a
session that the manager still finds, and a connection should leave none behind.

Sessions are reaped whatever they record, and a connection that ends forgets the id it
holds.  Nothing is orphaned as long as neither happens inside a transaction, requests
of one session do not overlap, clients are found, and no text begins transactions on
its own.
-/

namespace VScale
namespace Pgwire

open Aggregate Effects Tree

/-- What a client begins is recorded by its next operation. -/
def frontDue : (op : front.Op) → front.Answer op → Option front.Op → Prop
  | .inl op, answer, head => ∀ addr id, GateOp.Begins op answer addr id →
      ∃ session, head = some (.inl (.setLocalTxID session addr id))
  | .inr _, _, _ => True

theorem lenient_frontDue : Prog.Lenient frontDue := by
  intro op answer owed head
  cases op with
  | inr op => trivial
  | inl op =>
      intro addr id begins
      obtain ⟨session, none⟩ := owed addr id begins
      cases none

theorem due_gateway
    (ext : Externals)
    (req : QueryRequest) :
    ((Gateway.execute ext req).left : FrontM Outcome).Succeeds frontDue := by
  refine Prog.succeeds_left (Prog.succeeds_mono ?_ (records_gateway ext req))
  intro op answer head owed addr id begins
  obtain ⟨session, same⟩ := owed addr id begins
  exact ⟨session, by rw [same]; rfl⟩

theorem due_job
    (ext : Externals)
    (parse : String → SqlText)
    (job : Job) :
    (Job.program ext parse job).Succeeds frontDue := by
  cases job with
  | request req =>
      exact Prog.succeeds_bind lenient_frontDue (due_gateway ext req) fun _ => trivial
  | connection startup rounds =>
      refine Prog.succeeds_bind lenient_frontDue ?_ fun _ => trivial
      apply Prog.succeeds_interpret lenient_frontDue
      intro op
      cases op with
      | execute sql txID => exact due_gateway ext ⟨parse sql, txID⟩
      | _ => exact fun _ => ⟨trivial, trivial⟩

/-- The session that a call in progress acts for. -/
def servedBy (pool : FrontPool) (number : Nat) : Option Int :=
  (pool.calls number).map fun call => (Client.mk number call.request).session pool.world.2

/-- A call acts for no session that another one acts for. -/
def ServesApart (pool : FrontPool) (number other : Nat) : Prop :=
  ∀ session ∈ servedBy pool number, session ≠ 0 → session ∉ servedBy pool other

/-- Calls in progress act for different sessions. -/
def Separate (pool : FrontPool) : Prop :=
  ∀ number < pool.started, ∀ other < pool.started, number ≠ other → ServesApart pool number other

/-- A call is about to record a transaction. -/
def Pending (pool : FrontPool) (addr : String) (id : TxID) : Prop :=
  ∃ number call session, pool.calls number = some call ∧
    call.rest.head = some (.inl (.setLocalTxID session addr id))

/-- A transaction is recorded in a session that the manager finds, or it is just being
recorded. -/
def Sheltered (pool : FrontPool) (addr : String) (id : TxID) : Prop :=
  (∃ session, pool.world.1.Holds session addr id) ∨ Pending pool addr id

/-- Open transactions are sheltered, and nothing was begun in the name of calls to come. -/
structure Shelter (pool : FrontPool) : Prop where
  inOrder : pool.world.1.InOrder
  housed : pool.world.1.Housed
  sheltered : ∀ addr id, pool.world.1.OpenAt addr id → Sheltered pool addr id
  due : ∀ number call, pool.calls number = some call → call.rest.Succeeds frontDue
  free : ∀ number, pool.started ≤ number → pool.world.1.Free number
  idle : ∀ number, pool.started ≤ number → (pool.world.2 number).txID = 0
  separate : Separate pool

/-- A connection has returned. -/
def Returned (pool : FrontPool) (number : Nat) : Prop :=
  ∃ startup rounds,
    pool.calls number = some ⟨.connection startup rounds, .pure (.ended .returned)⟩

/-- Calls to tablets are answered. -/
def Answered (label : FrontLabel) : Prop :=
  ∀ number choice, label = .advance number choice → choice.1.network = .answered

/-- Calls to tablets are answered, calls for one session do not overlap, clients are
found and texts begin no transactions.  A session is reaped only when it records
nothing and nobody uses it, and a connection returns only outside transactions. -/
structure Guarded (pool : FrontPool) (label : FrontLabel) (later : FrontPool) : Prop where
  answered : Answered label
  separate : Separate later
  careful : ∀ step ∈ pool.operation label, pool.world.Careful step.2
  reaped : ∀ session, label = .move (.inl (.reapSession session)) →
    (pool.world.1.sessions session).shardTxIDs.entries = [] ∧
      ∀ number < pool.started, session ∉ servedBy pool number
  released : ∀ number < later.started, Returned later number →
    (later.world.2 number).txID = 0

/-- All clients keep their transactions sheltered. -/
def shelterDiscipline
    (ext : Externals)
    (parse : String → SqlText) :
    Discipline (frontService ext parse) where
  invariant := Shelter
  contract := fun number job => keeping ⟨number, job⟩
  steps := fun number job => StepsKept ext ⟨number, job⟩
  post := fun number job _ f => Trusts ⟨number, job⟩ f

section Pools

variable {ext : Externals} {parse : String → SqlText} {pool later : FrontPool}
variable {number : Nat}

variable {call : Call front Job JobResult}

theorem mem_servedBy (found : pool.calls number = some call) :
    (Client.mk number call.request).session pool.world.2 ∈ servedBy pool number := by
  rw [servedBy, found]
  exact rfl

theorem Shelter.apart
    (shelter : Shelter pool)
    {rival : Call front Job JobResult}
    {other : Nat}
    (different : other ≠ number)
    (found : pool.calls number = some call)
    (there : pool.calls other = some rival)
    (present : pool.world.1.present ((Client.mk other rival.request).session pool.world.2) = true) :
    (Client.mk other rival.request).session pool.world.2 ≠
      (Client.mk number call.request).session pool.world.2 := by
  intro same
  have positive := (shelter.inOrder.numbered _ present).1
  have clash := mem_servedBy found
  rw [← same] at clash
  exact shelter.separate other (Pool.lt_of_found there) number (Pool.lt_of_found found) different
    _ (mem_servedBy there) (Int.ne_of_gt positive) clash

/-- The client of a call that starts has nothing open. -/
theorem Shelter.trusts
    (shelter : Shelter pool)
    (job : Job) :
    Trusts ⟨pool.started, job⟩ pool.world :=
  (shelter.free pool.started (Nat.le_refl _)).entrusts _

/-- A step of a call keeps everything sheltered. -/
theorem Shelter.advance
    (shelter : Shelter pool)
    {job : Job}
    {op : front.Op}
    {next : front.Answer op → FrontM JobResult}
    (found : pool.calls number = some ⟨job, .perform op next⟩)
    {answer : front.Answer op}
    {after : Front}
    (stepped : StepsKept ext ⟨number, job⟩ op pool.world answer after)
    (guaranteed : (keeping ⟨number, job⟩).guarantee pool.world after)
    {addr : String}
    {id : TxID}
    (opened : after.1.OpenAt addr id) :
    Sheltered (pool.proceed number (Pool.lt_of_found found) after
      (some ⟨job, next answer⟩)) addr id := by
  have honours := guaranteed.1
  obtain ⟨_, careful, choice, answered, acted⟩ := stepped
  have earlier : pool.world.1.OpenAt addr id ∨
      ∃ session, (next answer).head = some (.inl (.setLocalTxID session addr id)) := by
    cases op with
    | inr op =>
        obtain ⟨_, rfl⟩ := Prod.mk.inj acted
        exact Or.inl opened
    | inl op =>
        obtain ⟨rfl, rfl⟩ := Prod.mk.inj acted
        rcases World.openAt_act careful answered opened with before | begins
        · exact Or.inl before
        · exact Or.inr ((shelter.due number _ found _).1 addr id begins)
  rcases earlier with before | ⟨session, head⟩
  · rcases shelter.sheltered addr id before with
      ⟨session, holds⟩ | ⟨other, call, session, there, head⟩
    · exact Or.inl ⟨session, honours.holds holds opened⟩
    · by_cases same : other = number
      · subst same
        rw [found] at there
        injection there with same
        rw [← same] at head
        injection head with recording
        subst recording
        obtain ⟨_, rfl⟩ := Prod.mk.inj acted
        have recorded : (pool.world.1.act ext (Client.caller ⟨other, job⟩ pool.world.2)
            (.setLocalTxID session addr id) choice.1).2.Recorded session addr id :=
          World.recorded_self
        exact Or.inl ⟨session,
          honours.housed shelter.inOrder shelter.housed session addr id recorded opened, recorded⟩
      · refine Or.inr ⟨other, call, session, ?_, head⟩
        exact (Function.update_of_ne same _ _).trans there
  · exact Or.inr ⟨number, _, session, Function.update_self .., head⟩

/-- What other calls are about to record stays so. -/
theorem Sheltered.of_calls
    {addr : String}
    {id : TxID}
    (sheltered : Sheltered pool addr id)
    (world : later.world = pool.world)
    (kept : ∀ other call session, pool.calls other = some call →
      call.rest.head = some (.inl (.setLocalTxID session addr id)) →
      later.calls other = some call) : Sheltered later addr id := by
  rcases sheltered with holds | ⟨other, call, session, found, head⟩
  · refine Or.inl ?_
    rw [world]
    exact holds
  · exact Or.inr ⟨other, call, session, kept other call session found head, head⟩

/-- A call comes in. -/
theorem Shelter.enter
    (shelter : Shelter pool)
    (ext : Externals)
    (parse : String → SqlText)
    (job : Job)
    (separate : Separate (pool.enter ⟨job, (frontService ext parse).program job⟩)) :
    Shelter (pool.enter ⟨job, (frontService ext parse).program job⟩) where
  inOrder := shelter.inOrder
  housed := shelter.housed
  sheltered := fun addr id opened => (shelter.sheltered addr id opened).of_calls rfl
    fun _ _ _ found _ =>
      (Function.update_of_ne (Nat.ne_of_lt (Pool.lt_of_found found)) _ _).trans found
  due := Pool.forall_enter (due_job ext parse job) shelter.due
  free := fun number beyond => shelter.free number (Nat.le_of_succ_le beyond)
  idle := fun number beyond => shelter.idle number (Nat.le_of_succ_le beyond)
  separate := separate

section Step

variable {job : Job} {op : front.Op} {next : front.Answer op → FrontM JobResult}

/-- An operation of a call. -/
theorem Shelter.proceed
    (shelter : Shelter pool)
    (found : pool.calls number = some ⟨job, .perform op next⟩)
    {answer : front.Answer op}
    {after : Front}
    (stepped : StepsKept ext ⟨number, job⟩ op pool.world answer after)
    (guaranteed : (keeping ⟨number, job⟩).guarantee pool.world after)
    (separate : Separate (pool.proceed number (Pool.lt_of_found found) after
      (some ⟨job, next answer⟩))) :
    Shelter (pool.proceed number (Pool.lt_of_found found) after (some ⟨job, next answer⟩)) where
  inOrder := guaranteed.1.inOrder
  housed := guaranteed.1.housed shelter.inOrder shelter.housed
  sheltered := fun _ _ opened => shelter.advance found stepped guaranteed opened
  due := Pool.forall_proceed (by rintro _ ⟨⟩; exact (shelter.due number _ found answer).2)
    fun other call _ => shelter.due other call
  free := fun other beyond => guaranteed.1.free
    (Nat.ne_of_gt (Nat.lt_of_lt_of_le (Pool.lt_of_found found) beyond)) (shelter.free other beyond)
  idle := by
    intro other beyond
    have different : other ≠ number :=
      Nat.ne_of_gt (Nat.lt_of_lt_of_le (Pool.lt_of_found found) beyond)
    exact (congrArg Wire.txID (guaranteed.2 other different)).trans (shelter.idle other beyond)
  separate := separate

end Step

/-- A call returns. -/
theorem Shelter.conclude
    (shelter : Shelter pool)
    {job : Job}
    {value : JobResult}
    (found : pool.calls number = some ⟨job, .pure value⟩)
    (separate : Separate (pool.proceed number (Pool.lt_of_found found) pool.world none)) :
    Shelter (pool.proceed number (Pool.lt_of_found found) pool.world none) where
  inOrder := shelter.inOrder
  housed := shelter.housed
  sheltered := by
    intro addr id opened
    refine (shelter.sheltered addr id opened).of_calls rfl fun other call session there head => ?_
    have different : other ≠ number := by
      rintro rfl
      rw [found] at there
      injection there with same
      rw [← same] at head
      cases head
    exact (Function.update_of_ne different _ _).trans there
  due := Pool.forall_proceed (by rintro _ ⟨⟩) fun other call _ => shelter.due other call
  free := shelter.free
  idle := shelter.idle
  separate := separate

/-- A move of the environment that reaps no session with participants. -/
theorem Shelter.disturb
    (shelter : Shelter pool)
    {move : Move}
    (kept : ∀ session addr id, pool.world.1.Recorded session addr id →
      pool.world.1.present session = true → (pool.world.1.disturb move).present session = true)
    (separate : Separate { pool with world := (pool.world.1.disturb move, pool.world.2) }) :
    Shelter { pool with world := (pool.world.1.disturb move, pool.world.2) } where
  inOrder := shelter.inOrder.disturb
  housed := by
    intro session addr id recorded opened
    have earlier := World.recorded_disturb.mp recorded
    exact kept session addr id earlier
      (shelter.housed session addr id earlier (World.openAt_disturb opened))
  sheltered := by
    intro addr id opened
    rcases shelter.sheltered addr id (World.openAt_disturb opened)
      with ⟨session, present, recorded⟩ | pending
    · exact Or.inl ⟨session, kept session addr id recorded present,
        World.recorded_disturb.mpr recorded⟩
    · exact Or.inr pending
  due := shelter.due
  free := fun number beyond addr id opened =>
    shelter.free number beyond addr id (World.openBy_disturb opened)
  idle := shelter.idle
  separate := separate

theorem shelterDiscipline_sound (commands : ReadsCommands parse) :
    (shelterDiscipline ext parse).Sound Guarded where
  invoked := by
    intro pool job guarded shelter
    exact ⟨shelter.enter ext parse job guarded.separate,
      kept_job commands pool.started job (shelter.trusts job)⟩
  stepped := by
    intro pool number choice later job op next guarded found shelter
    exact ⟨shelter.inOrder, guarded.careful _ (Pool.operation_advance found choice), choice,
      guarded.answered number choice rfl, rfl⟩
  shared := by
    intro pool number choice job op next found guarded shelter guaranteed
    refine ⟨shelter.proceed found ⟨shelter.inOrder,
      guarded.careful _ (Pool.operation_advance found choice), choice,
      guarded.answered number choice rfl, rfl⟩ guaranteed guarded.separate, ?_⟩
    intro other rival different there
    exact ⟨guaranteed.2 other different, guaranteed.1.rely different
      fun present => shelter.apart different found there present⟩
  finished := fun found guarded shelter _ =>
    ⟨shelter.conclude found guarded.separate, fun _ _ _ _ => Contract.rely_refl _ _⟩
  moved := by
    intro pool move guarded shelter
    cases move with
    | inr nothing => cases nothing.2
    | inl move =>
        refine ⟨shelter.disturb ?_ guarded.separate, ?_⟩
        · intro session addr id recorded present
          rcases World.present_disturb move pool.world.1 session with same | ⟨rfl, _⟩
          · exact same.trans present
          · have listed := AList.mem_lookup_iff.mp recorded
            rw [(guarded.reaped session rfl).1] at listed
            cases listed
        · intro number call there
          refine ⟨rfl, World.rely_disturb ?_⟩
          rintro rfl
          exact (guarded.reaped _ rfl).2 number (Pool.lt_of_found there) (mem_servedBy there)

/-- A connection that has returned, or whose call is over, with nothing open. -/
structure Gone (pool : FrontPool) (number : Nat) : Prop where
  past : number < pool.started
  quit : pool.calls number = none ∨ Returned pool number
  free : pool.world.1.Free number

theorem Gone.of_calls
    (gone : Gone pool number)
    (same : later.calls number = pool.calls number) :
    later.calls number = none ∨ Returned later number := by
  unfold Returned
  rw [same]
  exact gone.quit

/-- Nothing is opened later in the name of a connection that has returned. -/
theorem Gone.transition
    (governs : (shelterDiscipline ext parse).Governs pool)
    (commands : ReadsCommands parse)
    {label : FrontLabel}
    (transition : (frontService ext parse).Transition pool label later)
    (guarded : Guarded pool label later)
    (gone : Gone pool number) : Gone later number := by
  have sound : (shelterDiscipline ext parse).Sound Guarded := shelterDiscipline_sound commands
  cases transition with
  | invoke job =>
      exact ⟨Nat.lt_succ_of_lt gone.past,
        gone.of_calls (Function.update_of_ne (Nat.ne_of_lt gone.past) _ _), gone.free⟩
  | @advance other job op next performs choice =>
      have different : number ≠ other := by
        rintro rfl
        rcases gone.quit with none | ⟨startup, rounds, returned⟩
        · rw [none] at performs
          cases performs
        · rw [returned] at performs
          cases performs
      obtain ⟨guaranteed, _⟩ := governs.2 other _ performs pool.world (Contract.rely_refl _ _) _ _
        (sound.stepped guarded performs governs.1)
      exact ⟨gone.past, gone.of_calls (Function.update_of_ne different _ _),
        guaranteed.1.free different gone.free⟩
  | @finish other job value returns =>
      refine ⟨gone.past, ?_, gone.free⟩
      by_cases same : number = other
      · subst same
        exact Or.inl (Function.update_self ..)
      · exact gone.of_calls (Function.update_of_ne same _ _)
  | move move =>
      refine ⟨gone.past, gone.quit, ?_⟩
      cases move with
      | inl move => exact fun addr id opened => gone.free addr id (World.openBy_disturb opened)
      | inr nothing => cases nothing.2

end Pools

/-- The gate before its first client. -/
structure Front.Untouched (f : Front) : Prop where
  own : f.1.router.TargetsOwn
  participants : ∀ session, (f.1.sessions session).shardTxIDs = ∅
  absent : ∀ session, f.1.present session = false
  counted : 0 ≤ f.1.nextID
  closed : ∀ addr id, ¬ f.1.OpenAt addr id
  idle : ∀ number, (f.2 number).txID = 0

theorem Front.Untouched.shelter
    {f : Front}
    (untouched : f.Untouched) :
    Shelter (Pool.initial f) := by
  have unrecorded : ∀ session addr id, ¬ f.1.Recorded session addr id := by
    intro session addr id recorded
    rw [World.Recorded, untouched.participants session] at recorded
    cases recorded
  have absent : ∀ session, f.1.present session ≠ true := by
    intro session present
    rw [untouched.absent session] at present
    cases present
  refine ⟨⟨untouched.own, ?_, ?_, ?_, ?_, untouched.counted⟩, ?_, ?_, ?_, ?_, ?_, ?_⟩
  · exact fun session addr id recorded => absurd recorded (unrecorded session addr id)
  · exact fun addr id opened => absurd opened (untouched.closed addr id)
  · exact fun session addr id _ recorded => absurd recorded (unrecorded session addr id)
  · exact fun session present => absurd present (absent session)
  · exact fun session addr id recorded => absurd recorded (unrecorded session addr id)
  · exact fun addr id opened => absurd opened (untouched.closed addr id)
  · rintro _ _ ⟨⟩
  · exact fun number _ addr id opened => untouched.closed addr id opened.openAt
  · exact fun number _ => untouched.idle number
  · exact fun number beyond => absurd beyond (Nat.not_lt_zero number)

/-- A connection that has returned outside transactions has nothing open. -/
theorem gone_of_returned
    {ext : Externals}
    {parse : String → SqlText}
    {pool : FrontPool}
    {number : Nat}
    (governs : (shelterDiscipline ext parse).Governs pool)
    (returned : Returned pool number)
    (outside : (pool.world.2 number).txID = 0) :
    Gone pool number := by
  obtain ⟨startup, rounds, found⟩ := returned
  refine ⟨Pool.lt_of_found found, Or.inr ⟨startup, rounds, found⟩, ?_⟩
  have trusts : pool.world.1.Entrusts number (pool.world.2 number).txID := governs.post found
  rw [outside] at trusts
  exact trusts.free_of_zero

/-- In every guarded run each open transaction is recorded in a session that the
manager finds, or its call is about to record it, and once a connection has returned
no transaction begun for it is ever open. -/
theorem no_orphans_when_guarded
    (ext : Externals)
    (parse : String → SqlText)
    (commands : ReadsCommands parse)
    {f : Front}
    (untouched : f.Untouched)
    {pool : FrontPool}
    (reaches : (frontService ext parse).Reaches Guarded (Pool.initial f) pool) :
    (∀ addr id, pool.world.1.OpenAt addr id → Sheltered pool addr id) ∧
      ∀ number, Returned pool number → ∀ later,
        (frontService ext parse).Reaches Guarded pool later →
        ∀ addr id, ¬ later.world.1.OpenBy number addr id := by
  have sound : (shelterDiscipline ext parse).Sound Guarded := shelterDiscipline_sound commands
  have governs := Discipline.governs_of_reaches sound untouched.shelter reaches
  refine ⟨governs.1.sheltered, ?_⟩
  intro number returned later onwards
  have outside : (pool.world.2 number).txID = 0 := by
    cases reaches with
    | start =>
        obtain ⟨startup, rounds, found⟩ := returned
        cases found
    | step earlier transition permitted =>
        obtain ⟨startup, rounds, found⟩ := returned
        exact permitted.released number (Pool.lt_of_found found) ⟨startup, rounds, found⟩
  have gone : (shelterDiscipline ext parse).Governs later ∧ Gone later number := by
    induction onwards with
    | start => exact ⟨governs, gone_of_returned governs returned outside⟩
    | step earlier transition permitted ih =>
        obtain ⟨governsThen, goneThen⟩ := ih
        exact ⟨Discipline.governs_transition sound governsThen transition permitted,
          goneThen.transition governsThen commands transition permitted⟩
  exact gone.2.free

instance (label : FrontLabel) : Decidable (Answered label) :=
  match label with
  | .invoke _ => isTrue fun _ _ same => by injection same
  | .advance number choice =>
      decidable_of_iff (choice.1.network = .answered)
        ⟨fun answered _ _ same => by
          injection same with _ sameChoice
          rw [← sameChoice]
          exact answered,
        fun all => all number choice rfl⟩
  | .finish _ => isTrue fun _ _ same => by injection same
  | .move _ => isTrue fun _ _ same => by injection same

/-- The call is that of a connection that has returned. -/
def hasReturned : Call front Job JobResult → Bool
  | ⟨.connection _ _, .pure (.ended .returned)⟩ => true
  | _ => false

theorem hasReturned_iff {call : Call front Job JobResult} :
    hasReturned call = true ↔
      ∃ startup rounds, call = ⟨.connection startup rounds, .pure (.ended .returned)⟩ := by
  constructor
  · intro returned
    unfold hasReturned at returned
    split at returned
    · exact ⟨_, _, rfl⟩
    · cases returned
  · rintro ⟨startup, rounds, rfl⟩
    rfl

instance (pool : FrontPool) (number : Nat) : Decidable (Returned pool number) :=
  decidable_of_iff ((pool.calls number).any hasReturned = true) (by
    unfold Returned
    cases pool.calls number with
    | none => exact ⟨nofun, nofun⟩
    | some call =>
        rw [Option.any_some, hasReturned_iff]
        simp only [Option.some.injEq])

instance (f : Front) (op : front.Op) : Decidable (f.Careful op) :=
  match op with
  | .inl op => inferInstanceAs (Decidable (f.1.Careful op))
  | .inr _ => isTrue trivial

/-- The sessions that a label reaps. -/
def reapedBy : FrontLabel → Option Int
  | .move (.inl (.reapSession session)) => some session
  | _ => none

theorem mem_reapedBy
    {label : FrontLabel}
    {session : Int} :
    session ∈ reapedBy label ↔ label = .move (.inl (.reapSession session)) := by
  unfold reapedBy
  split
  · rename_i reaped
    constructor
    · rintro ⟨⟩
      rfl
    · rintro ⟨⟩
      rfl
  · rename_i other
    constructor
    · rintro ⟨⟩
    · intro same
      exact absurd same (other session)

instance (pool : FrontPool) (number other : Nat) : Decidable (ServesApart pool number other) :=
  inferInstanceAs (Decidable
    (∀ session ∈ servedBy pool number, session ≠ 0 → session ∉ servedBy pool other))

instance (pool : FrontPool) : Decidable (Separate pool) :=
  inferInstanceAs (Decidable (∀ number < pool.started, ∀ other < pool.started, number ≠ other →
    ServesApart pool number other))

instance (pool : FrontPool) (label : FrontLabel) :
    Decidable (∀ step ∈ pool.operation label, pool.world.Careful step.2) :=
  inferInstance

instance (pool : FrontPool) (label : FrontLabel) :
    Decidable (∀ session ∈ reapedBy label,
      (pool.world.1.sessions session).shardTxIDs.entries = [] ∧
        ∀ number < pool.started, session ∉ servedBy pool number) :=
  inferInstance

instance (pool : FrontPool) (label : FrontLabel) (later : FrontPool) :
    Decidable (Guarded pool label later) :=
  decidable_of_iff
    (Answered label ∧ Separate later ∧
      (∀ step ∈ pool.operation label, pool.world.Careful step.2) ∧
      (∀ session ∈ reapedBy label, (pool.world.1.sessions session).shardTxIDs.entries = [] ∧
        ∀ number < pool.started, session ∉ servedBy pool number) ∧
      ∀ number < later.started, Returned later number → (later.world.2 number).txID = 0)
    ⟨fun ⟨answered, separate, careful, reaped, released⟩ =>
      ⟨answered, separate, careful, fun session same => reaped session (mem_reapedBy.mpr same),
        released⟩,
    fun guarded => ⟨guarded.answered, guarded.separate, guarded.careful,
      fun session same => guarded.reaped session (mem_reapedBy.mp same), guarded.released⟩⟩

/-- A parser that reads every text other than the commands as one `INSERT`. -/
def readsInsertion (sql : String) : SqlText :=
  if sql = "BEGIN" then .ok [⟨.beginTransaction, "BEGIN"⟩]
  else if sql = "COMMIT" then .ok [⟨.commitTransaction, "COMMIT"⟩]
  else if sql = "ROLLBACK" then .ok [⟨.rollbackTransaction, "ROLLBACK"⟩]
  else .ok [Router.insertUser "1"]

/-- Two shards and no clients. -/
def twoShardFront : Front :=
  (twoShardWorld, fun _ => {})

theorem twoShardFront_untouched : twoShardFront.Untouched where
  own := targetsOwn_of_entries (by decide)
  participants := fun _ => rfl
  absent := fun _ => rfl
  counted := Int.le_refl 0
  closed := fun _ _ opened => nomatch opened.choose_spec.1
  idle := fun _ => rfl

/-- Answer a request in so many operations. -/
def answersInTurn (number count : Nat) (req : QueryRequest) : List FrontLabel :=
  .invoke (.request req) :: List.replicate count (.advance number ({}, {})) ++ [.finish number]

/-- Two requests begin a session and insert in it, and a client gives up at once. -/
def insertsWhileOtherLeaves : List FrontLabel :=
  answersInTurn 0 2 ⟨.ok [beginStatement], 0⟩ ++
    answersInTurn 1 8 ⟨.ok [Router.insertUser "1"], 1⟩ ++
    [.invoke (.connection 1 1), .advance 2 ({}, { startup := .error "EOF" })]

theorem open_insert_is_sheltered :
    ∃ pool, (frontService integralExternals readsInsertion).runs Guarded insertsWhileOtherLeaves
        (Pool.initial twoShardFront) = some pool ∧
      pool.world.1.OpenAt "a:1" ⟨1, 0⟩ ∧ Sheltered pool "a:1" ⟨1, 0⟩ ∧
      Returned pool 2 ∧ ¬ pool.world.1.OpenBy 2 "a:1" ⟨1, 0⟩ := by
  have ran : ((frontService integralExternals readsInsertion).runs Guarded insertsWhileOtherLeaves
      (Pool.initial twoShardFront)).map (fun pool =>
        (((pool.world.1.tablets "a:1").tx.txns ⟨1, 0⟩).map LocalTx.status,
          decide (Returned pool 2))) = some (some .active, true) := by decide
  obtain ⟨pool, reached, found⟩ := Option.map_eq_some_iff.mp ran
  obtain ⟨status, returned⟩ := Prod.mk.inj found
  obtain ⟨tx, known, active⟩ := Option.map_eq_some_iff.mp status
  have left := of_decide_eq_true returned
  obtain ⟨sheltered, gone⟩ := no_orphans_when_guarded integralExternals readsInsertion
    ⟨⟨_, _, rfl, rfl⟩, ⟨_, _, rfl, rfl⟩, ⟨_, _, rfl, rfl⟩⟩ twoShardFront_untouched
    (Service.reaches_of_runs _ .start reached)
  exact ⟨pool, reached, ⟨tx, known, active⟩, sheltered _ _ ⟨tx, known, active⟩, left,
    gone 2 left pool .start _ _⟩

/-- A client sends a query, and the gate goes on for so many operations. -/
def queries (sql : String) (count : Nat) : List FrontLabel :=
  .advance 0 ({}, { message := .ok (.query sql) }) ::
    List.replicate count (.advance 0 ({}, {}))

/-- A connection begins a transaction, inserts in it and is closed by its client.  Its
session is reaped afterwards. -/
def leavesInsert : List FrontLabel :=
  .invoke (.connection 1 3) :: List.replicate 5 (.advance 0 ({}, {})) ++ queries "BEGIN" 7 ++
    queries "INSERT INTO users (id) VALUES (1)" 13 ++ [.move (.inl (.reapSession 1))]

/-- What is left of that connection. -/
def leftPool : FrontPool :=
  ((frontService integralExternals readsInsertion).runs (fun _ label _ => Answered label)
    leavesInsert (Pool.initial twoShardFront)).getD (Pool.initial twoShardFront)

/-- The connection has returned, its transaction is still open, and no session that the
manager finds records it. -/
theorem closed_connection_leaves_orphan :
    (frontService integralExternals readsInsertion).Reaches (fun _ label _ => Answered label)
        (Pool.initial twoShardFront) leftPool ∧
      Returned leftPool 0 ∧ leftPool.world.1.OpenBy 0 "a:1" ⟨1, 0⟩ ∧
      ¬ Sheltered leftPool "a:1" ⟨1, 0⟩ := by
  have ran : (frontService integralExternals readsInsertion).runs (fun _ label _ => Answered label)
      leavesInsert (Pool.initial twoShardFront) = some leftPool := by
    rfl
  refine ⟨Service.reaches_of_runs _ .start ran, ⟨1, 3, rfl⟩, ⟨_, rfl, rfl, rfl⟩, ?_⟩
  rintro (⟨session, present, _⟩ | ⟨number, call, session, found, head⟩)
  · have absent : leftPool.world.1.present =
        Function.update (Function.update (fun _ => false) 1 true) 1 false := rfl
    rw [absent] at present
    by_cases same : session = 1
    · subst same
      cases present
    · rw [Function.update_of_ne same, Function.update_of_ne same] at present
      cases present
  · have first : number = 0 := by
      have bound : number < leftPool.started := Pool.lt_of_found found
      exact Nat.lt_one_iff.mp bound
    subst first
    have quit : leftPool.calls 0 = some ⟨.connection 1 3, .pure (.ended .returned)⟩ := rfl
    rw [quit] at found
    injection found with same
    rw [← same] at head
    cases head

end Pgwire
end VScale
