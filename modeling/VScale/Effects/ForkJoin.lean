import Mathlib.Algebra.Ring.Nat
import VScale.Effects.Trace

/-!
# Fork and join

A job is a program that may also fork workers and wait for all of them.  The
workers run in any interleaving.  Each may complain once, by sending on a
buffered channel, and the job goes on with the first complaint received.

A call going out and its answer coming back are separate events, so that the
calls of different workers overlap.  A history lists these events in the order
in which they happened; the part that belongs to a fork is a permutation of the
logs of its workers.
-/

namespace Effects

/-- A call going out, or its answer coming back. -/
inductive Activity (sig : Signature)
  | issued (op : sig.Op)
  | answered (op : sig.Op) (answer : sig.Answer op)

/-- The activity of operations that are answered one after the other. -/
def Activity.ofTrace {sig : Signature} (trace : Trace sig) : List (Activity sig) :=
  trace.flatMap fun entry => [.issued entry.1, .answered entry.1 entry.2]

theorem Activity.ofTrace_append
    {sig : Signature}
    (first second : Trace sig) :
    ofTrace (first ++ second) = ofTrace first ++ ofTrace second :=
  List.flatMap_append

variable {sig : Signature} {Complaint α β : Type}

/-! ### One thread -/

namespace Prog

/-- A program has come as far as the given rest. -/
inductive Partly : Prog sig α → List (Activity sig) → Prog sig α → Prop
  | refl (program : Prog sig α) : Partly program [] program
  | perform {op : sig.Op} {next : sig.Answer op → Prog sig α} {log : List (Activity sig)}
      {rest : Prog sig α} (answer : sig.Answer op) (later : Partly (next answer) log rest) :
      Partly (.perform op next) (.issued op :: .answered op answer :: log) rest

variable {log : List (Activity sig)}

theorem Partly.trans
    {first second third : Prog sig α}
    {more : List (Activity sig)}
    (earlier : first.Partly log second)
    (later : second.Partly more third) :
    first.Partly (log ++ more) third := by
  induction earlier with
  | refl program => exact later
  | perform answer _ ih => exact .perform answer (ih later)

/-- An answer takes a program one operation further. -/
theorem Partly.answered
    {program : Prog sig α}
    {log : List (Activity sig)}
    {op : sig.Op}
    {next : sig.Answer op → Prog sig α}
    (partly : program.Partly log (.perform op next))
    (answer : sig.Answer op) :
    program.Partly (log ++ [.issued op, .answered op answer]) (next answer) :=
  partly.trans (.perform answer (.refl _))

/-- A program of allowed operations issues only such operations. -/
theorem Partly.allowed
    {allowed : sig.Op → Prop}
    {program rest : Prog sig α}
    (partly : program.Partly log rest)
    (only : program.Only allowed) :
    (∀ op, .issued op ∈ log → allowed op) ∧ rest.Only allowed := by
  induction partly with
  | refl program => exact ⟨fun op present => (nomatch present), only⟩
  | perform answer later ih =>
      obtain ⟨logged, still⟩ := ih (only.2 answer)
      refine ⟨fun op present => ?_, still⟩
      rcases List.mem_cons.mp present with same | present
      · cases same
        exact only.1
      · rcases List.mem_cons.mp present with same | present
        · cases same
        · exact logged op present

end Prog

/-! ### Workers -/

/-- A worker that was forked. -/
inductive Worker
    (sig : Signature)
    (Complaint : Type)
  | ready (rest : Prog sig (Option Complaint))
  | waiting (op : sig.Op) (next : sig.Answer op → Prog sig (Option Complaint))
  | done

namespace Worker

/-- One step of a worker, with the channel before and after.  A complaint needs
room in the channel. -/
inductive Step (capacity : Nat) :
    Worker sig Complaint → List Complaint → Option (Activity sig) →
      Worker sig Complaint → List Complaint → Prop
  | issue {op : sig.Op} {next : sig.Answer op → Prog sig (Option Complaint)}
      {channel : List Complaint} :
      Step capacity (.ready (.perform op next)) channel (some (.issued op))
        (.waiting op next) channel
  | answer {op : sig.Op} {next : sig.Answer op → Prog sig (Option Complaint)}
      {channel : List Complaint} (answer : sig.Answer op) :
      Step capacity (.waiting op next) channel (some (.answered op answer))
        (.ready (next answer)) channel
  | content {channel : List Complaint} :
      Step capacity (.ready (.pure none)) channel none .done channel
  | complain {complaint : Complaint} {channel : List Complaint}
      (room : channel.length < capacity) :
      Step capacity (.ready (.pure (some complaint))) channel none .done (channel ++ [complaint])

/-- The log of a worker and what it has sent. -/
inductive Accounts (program : Prog sig (Option Complaint)) :
    Worker sig Complaint → List (Activity sig) → List Complaint → Prop
  | ready {log : List (Activity sig)} {rest : Prog sig (Option Complaint)}
      (partly : program.Partly log rest) : Accounts program (.ready rest) log []
  | waiting {log : List (Activity sig)} {op : sig.Op}
      {next : sig.Answer op → Prog sig (Option Complaint)}
      (partly : program.Partly log (.perform op next)) :
      Accounts program (.waiting op next) (log ++ [.issued op]) []
  | done {log : List (Activity sig)} {complaint : Option Complaint}
      (partly : program.Partly log (.pure complaint)) :
      Accounts program .done log complaint.toList

namespace Accounts

variable {program : Prog sig (Option Complaint)} {worker : Worker sig Complaint}
variable {log : List (Activity sig)} {sent : List Complaint}

/-- A step extends the log, and the channel by what the worker sends. -/
theorem step
    (accounts : Accounts program worker log sent)
    {capacity : Nat}
    {channel channelAfter : List Complaint}
    {activity : Option (Activity sig)}
    {after : Worker sig Complaint}
    (stepped : Step capacity worker channel activity after channelAfter) :
    ∃ more, channelAfter = channel ++ more ∧
      Accounts program after (log ++ activity.toList) (sent ++ more) := by
  cases stepped with
  | issue =>
      cases accounts with
      | ready partly => exact ⟨[], (List.append_nil _).symm, .waiting partly⟩
  | answer answer =>
      cases accounts with
      | @waiting log _ _ partly =>
          refine ⟨[], (List.append_nil _).symm, ?_⟩
          have further := partly.answered answer
          rw [Option.toList_some, List.append_assoc]
          exact .ready further
  | content =>
      cases accounts with
      | ready partly =>
          refine ⟨[], (List.append_nil _).symm, ?_⟩
          rw [Option.toList_none, List.append_nil]
          exact .done partly
  | @complain complaint _ room =>
      cases accounts with
      | ready partly =>
          refine ⟨[complaint], rfl, ?_⟩
          rw [Option.toList_none, List.append_nil]
          exact .done partly

theorem sent_length_le (accounts : Accounts program worker log sent) : sent.length ≤ 1 := by
  cases accounts with
  | ready | waiting => exact Nat.zero_le 1
  | @done log complaint partly => cases complaint <;> simp

/-- A worker that is still ready has sent nothing. -/
theorem sent_of_ready
    {rest : Prog sig (Option Complaint)}
    (accounts : Accounts program (.ready rest) log sent) : sent = [] := by
  cases accounts with
  | ready partly => rfl

variable {op : sig.Op}

theorem issued_of_waiting
    {next : sig.Answer op → Prog sig (Option Complaint)}
    (accounts : Accounts program (.waiting op next) log sent) : .issued op ∈ log := by
  cases accounts with
  | waiting partly => exact List.mem_append_right _ List.mem_cons_self

theorem partly_of_done (accounts : Accounts program .done log sent) :
    ∃ complaint : Option Complaint, sent = complaint.toList ∧
      program.Partly log (.pure complaint) := by
  cases accounts with
  | @done _ complaint partly => exact ⟨complaint, rfl, partly⟩

theorem allowed
    {allowed : sig.Op → Prop}
    (accounts : Accounts program worker log sent)
    (only : program.Only allowed)
    (present : .issued op ∈ log) : allowed op := by
  cases accounts with
  | ready partly | done partly => exact (partly.allowed only).1 op present
  | waiting partly =>
      obtain ⟨logged, still⟩ := partly.allowed only
      rcases List.mem_append.mp present with before | last
      · exact logged op before
      · cases List.mem_singleton.mp last
        exact still.1

end Accounts

end Worker

/-- A worker with its program, its log and what it has sent. -/
structure Record (sig : Signature) (Complaint : Type) where
  program : Prog sig (Option Complaint)
  worker : Worker sig Complaint
  log : List (Activity sig)
  sent : List Complaint
  accounts : worker.Accounts program log sent

/-- Workers forked for some programs, the channel and the history since the fork. -/
structure Forked
    (programs : List (Prog sig (Option Complaint)))
    (workers : List (Worker sig Complaint))
    (channel : List Complaint)
    (history : List (Activity sig))
    (records : List (Record sig Complaint)) : Prop where
  programs : records.map Record.program = programs
  workers : records.map Record.worker = workers
  channel : channel.Perm (records.flatMap Record.sent)
  history : history.Perm (records.flatMap Record.log)

theorem perm_insert
    {front middle back list : List α}
    (perm : list.Perm (front ++ (middle ++ back)))
    (more : List α) : (list ++ more).Perm (front ++ (middle ++ more ++ back)) := by
  refine (perm.append_right more).trans ?_
  rw [List.append_assoc, List.append_assoc, List.append_assoc]
  exact (List.perm_append_comm.append_left middle).append_left front

namespace Forked

variable {programs : List (Prog sig (Option Complaint))}
variable {workers : List (Worker sig Complaint)} {channel : List Complaint}
variable {history : List (Activity sig)} {records : List (Record sig Complaint)}

/-- The programs have just been forked. -/
theorem start (programs : List (Prog sig (Option Complaint))) :
    ∃ records, Forked programs (programs.map .ready) [] [] records := by
  refine ⟨programs.map fun program => ⟨program, .ready program, [], [], .ready (.refl _)⟩, ?_⟩
  constructor
  · rw [List.map_map]
    exact List.map_id _
  · rw [List.map_map]
    rfl
  · simp [List.flatMap_map]
  · simp [List.flatMap_map]

/-- One worker takes a step. -/
theorem step
    {front back : List (Worker sig Complaint)}
    {worker after : Worker sig Complaint}
    (forked : Forked programs (front ++ worker :: back) channel history records)
    {capacity : Nat}
    {channelAfter : List Complaint}
    {activity : Option (Activity sig)}
    (stepped : worker.Step capacity channel activity after channelAfter) :
    ∃ records, Forked programs (front ++ after :: back) channelAfter
      (history ++ activity.toList) records := by
  obtain ⟨program, workersOf, sent, logged⟩ := forked
  obtain ⟨before, rest, rfl, rfl, tail⟩ := List.map_eq_append_iff.mp workersOf
  obtain ⟨record, later, rfl, rfl, rfl⟩ := List.map_eq_cons_iff.mp tail
  obtain ⟨more, rfl, accounts⟩ := record.accounts.step stepped
  refine ⟨before ++ ⟨record.program, after, _, _, accounts⟩ :: later, ?_⟩
  rw [List.flatMap_append, List.flatMap_cons] at sent logged
  constructor
  · rw [← program, List.map_append, List.map_append, List.map_cons, List.map_cons]
  · rw [List.map_append, List.map_cons]
  · rw [List.flatMap_append, List.flatMap_cons]
    exact perm_insert sent more
  · rw [List.flatMap_append, List.flatMap_cons]
    exact perm_insert logged activity.toList

section Forked

variable (forked : Forked programs workers channel history records)
include forked

/-- A worker that is about to complain finds room in a channel for all. -/
theorem room
    {rest : Prog sig (Option Complaint)}
    (present : .ready rest ∈ workers) :
    channel.length < programs.length := by
  obtain ⟨program, workersOf, sent, _⟩ := forked
  rw [sent.length_eq, ← program, List.length_map]
  rw [← workersOf] at present
  clear program workersOf sent
  have bounded : ∀ records : List (Record sig Complaint),
      (records.flatMap Record.sent).length ≤ records.length := by
    intro records
    induction records with
    | nil => exact Nat.le_refl 0
    | cons record records ih =>
        rw [List.flatMap_cons, List.length_append, List.length_cons]
        have := record.accounts.sent_length_le
        omega
  obtain ⟨record, found, ready⟩ := List.mem_map.mp present
  obtain ⟨front, back, rfl⟩ := List.append_of_mem found
  have nothing : record.sent = [] := (ready ▸ record.accounts).sent_of_ready
  rw [List.flatMap_append, List.flatMap_cons, nothing, List.nil_append, List.length_append,
    List.length_append, List.length_cons]
  have := bounded front
  have := bounded back
  omega

variable {op : sig.Op}

theorem allowed
    {allowed : sig.Op → Prop}
    (only : ∀ program ∈ programs, program.Only allowed)
    (present : .issued op ∈ history) : allowed op := by
  obtain ⟨record, found, logged⟩ := List.mem_flatMap.mp (forked.history.mem_iff.mp present)
  refine record.accounts.allowed (only record.program ?_) logged
  rw [← forked.programs]
  exact List.mem_map_of_mem found

/-- A worker waits for an operation it has issued. -/
theorem issued_of_waiting
    {next : sig.Answer op → Prog sig (Option Complaint)}
    (present : .waiting op next ∈ workers) : .issued op ∈ history := by
  rw [← forked.workers] at present
  obtain ⟨record, found, waiting⟩ := List.mem_map.mp present
  have logged := (waiting ▸ record.accounts).issued_of_waiting
  exact forked.history.mem_iff.mpr (List.mem_flatMap.mpr ⟨record, found, logged⟩)

end Forked

/-- What a log counts is bounded program by program. -/
theorem countP_le
    {Item : Type}
    {items : List Item}
    {program : Item → Prog sig (Option Complaint)}
    (forked : Forked (items.map program) workers channel history records)
    (counts : Activity sig → Bool)
    (bound : Item → Nat)
    (bounded : ∀ item, ∀ worker log sent, Worker.Accounts (program item) worker log sent →
      log ⊆ history → log.countP counts ≤ bound item) :
    history.countP counts ≤ (items.map bound).sum := by
  obtain ⟨program, workersOf, sent, logged⟩ := forked
  rw [logged.countP_eq]
  have within : ∀ record ∈ records, record.log ⊆ history := fun record found entry present =>
    logged.mem_iff.mpr (List.mem_flatMap.mpr ⟨record, found, present⟩)
  clear workersOf sent logged
  induction records generalizing items with
  | nil => exact Nat.zero_le _
  | cons record records ih =>
      obtain ⟨item, later, rfl, same, rest⟩ := List.map_eq_cons_iff.mp program.symm
      have first := bounded item record.worker record.log record.sent (same ▸ record.accounts)
        (within record List.mem_cons_self)
      have others := ih rest.symm fun record found =>
        within record (List.mem_cons_of_mem _ found)
      rw [List.flatMap_cons, List.countP_append, List.map_cons, List.sum_cons]
      omega

/-- When every worker is done and the channel is empty, no program complained. -/
theorem finished
    (forked : Forked programs workers [] history records)
    (past : ∀ worker ∈ workers, worker = .done)
    {program : Prog sig (Option Complaint)}
    (present : program ∈ programs) :
    ∃ log, program.Partly log (.pure none) ∧ log ⊆ history := by
  rw [← forked.programs] at present
  obtain ⟨record, found, rfl⟩ := List.mem_map.mp present
  have done : record.worker = .done := by
    apply past
    rw [← forked.workers]
    exact List.mem_map_of_mem found
  obtain ⟨complaint, sent, partly⟩ := (done ▸ record.accounts).partly_of_done
  have nothing : record.sent = [] :=
    List.flatMap_eq_nil_iff.mp (List.perm_nil.mp forked.channel.symm) record found
  cases complaint with
  | none =>
      exact ⟨record.log, partly, fun entry logged =>
        forked.history.mem_iff.mpr (List.mem_flatMap.mpr ⟨record, found, logged⟩)⟩
  | some complaint => cases nothing.symm.trans sent

end Forked

/-- All workers are done, and the first complaint is received. -/
def Joins
    (programs : List (Prog sig (Option Complaint)))
    (history : List (Activity sig))
    (first : Option Complaint) : Prop :=
  ∃ workers channel records, Forked programs workers channel history records ∧
    (∀ worker ∈ workers, worker = .done) ∧ first = channel.head?

/-- Without a complaint every program has finished without one. -/
theorem Joins.finished
    {programs : List (Prog sig (Option Complaint))}
    {history : List (Activity sig)}
    (joins : Joins programs history none)
    {program : Prog sig (Option Complaint)}
    (present : program ∈ programs) :
    ∃ log, program.Partly log (.pure none) ∧ log ⊆ history := by
  obtain ⟨workers, channel, records, forked, past, first⟩ := joins
  cases channel with
  | nil => exact forked.finished past present
  | cons complaint channel => cases first

/-! ### Jobs -/

/-- A program that may fork workers.  The channel of a fork has the given
capacity. -/
inductive Job
    (sig : Signature)
    (Complaint α : Type)
  | pure (value : α)
  | perform (op : sig.Op) (next : sig.Answer op → Job sig Complaint α)
  | fork (capacity : Nat) (workers : List (Prog sig (Option Complaint)))
      (next : Option Complaint → Job sig Complaint α)

namespace Job

/-- Sequential composition. -/
def bind : Job sig Complaint α → (α → Job sig Complaint β) → Job sig Complaint β
  | .pure value, rest => rest value
  | .perform op next, rest => .perform op fun answer => (next answer).bind rest
  | .fork capacity workers next, rest =>
      .fork capacity workers fun first => (next first).bind rest

instance : Monad (Job sig Complaint) where
  pure := Job.pure
  bind := Job.bind

@[simp] theorem fork_bind
    (capacity : Nat)
    (workers : List (Prog sig (Option Complaint)))
    (next : Option Complaint → Job sig Complaint α)
    (rest : α → Job sig Complaint β) :
    (Job.fork capacity workers next >>= rest) =
      .fork capacity workers fun first => next first >>= rest := rfl

/-- Every channel has room for one complaint from each worker. -/
def Roomy : Job sig Complaint α → Prop
  | .pure _ => True
  | .perform _ next => ∀ answer, (next answer).Roomy
  | .fork capacity workers next => workers.length ≤ capacity ∧ ∀ first, (next first).Roomy

variable {rest : α → Job sig Complaint β}

variable {job : Job sig Complaint α}

theorem roomy_bind
    (first : job.Roomy)
    (second : ∀ value, (rest value).Roomy) :
    (job >>= rest).Roomy := by
  induction job with
  | pure value => exact second value
  | perform op next ih =>
      exact fun answer => ih answer (first answer)
  | fork capacity workers next ih =>
      exact ⟨first.1, fun complaint => ih complaint (first.2 complaint)⟩

/-- A job has come as far as the given rest. -/
inductive Partly : Job sig Complaint α → List (Activity sig) → Job sig Complaint α → Prop
  | refl (job : Job sig Complaint α) : Partly job [] job
  | perform {op : sig.Op} {next : sig.Answer op → Job sig Complaint α}
      {history : List (Activity sig)} {rest : Job sig Complaint α} (answer : sig.Answer op)
      (later : Partly (next answer) history rest) :
      Partly (.perform op next) (.issued op :: .answered op answer :: history) rest
  | fork {capacity : Nat} {workers : List (Prog sig (Option Complaint))}
      {next : Option Complaint → Job sig Complaint α} {forked history : List (Activity sig)}
      {rest : Job sig Complaint α} {first : Option Complaint}
      (joins : Joins workers forked first) (later : Partly (next first) history rest) :
      Partly (.fork capacity workers next) (forked ++ history) rest

theorem Partly.trans
    {first second third : Job sig Complaint α}
    {history more : List (Activity sig)}
    (earlier : first.Partly history second)
    (later : second.Partly more third) :
    first.Partly (history ++ more) third := by
  induction earlier with
  | refl job => exact later
  | perform answer _ ih => exact .perform answer (ih later)
  | fork joins _ ih =>
      rw [List.append_assoc]
      exact .fork joins (ih later)

theorem Partly.roomy
    {rest : Job sig Complaint α}
    {history : List (Activity sig)}
    (partly : job.Partly history rest)
    (roomy : job.Roomy) : rest.Roomy := by
  induction partly with
  | refl job => exact roomy
  | perform answer _ ih => exact ih (roomy answer)
  | fork joins _ ih => exact ih (roomy.2 _)

/-- The histories of unfinished and finished runs of a job. -/
def History : Job sig Complaint α → List (Activity sig) → Prop
  | .pure _, history => history = []
  | .perform op next, history =>
      history = [] ∨ history = [.issued op] ∨
        ∃ answer later, history = .issued op :: .answered op answer :: later ∧
          (next answer).History later
  | .fork _ programs next, history =>
      (∃ workers channel records, Forked programs workers channel history records) ∨
        ∃ forked later first, history = forked ++ later ∧ Joins programs forked first ∧
          (next first).History later

theorem history_nil (job : Job sig Complaint α) : job.History [] := by
  cases job with
  | pure value => rfl
  | perform op next => exact Or.inl rfl
  | fork capacity programs next => exact Or.inl ⟨_, _, Forked.start programs⟩

theorem Partly.history
    {rest : Job sig Complaint α}
    {earlier later : List (Activity sig)}
    (partly : job.Partly earlier rest)
    (history : rest.History later) : job.History (earlier ++ later) := by
  induction partly with
  | refl job => exact history
  | perform answer _ ih =>
      exact Or.inr (Or.inr ⟨answer, _, rfl, ih history⟩)
  | fork joins _ ih =>
      exact Or.inr ⟨_, _, _, List.append_assoc _ _ _, joins, ih history⟩

theorem Partly.happened
    {rest : Job sig Complaint α}
    {history : List (Activity sig)}
    (partly : job.Partly history rest) : job.History history := by
  have happened := partly.history (history_nil rest)
  rwa [List.append_nil] at happened

/-- A composition is still in its first part or has completed it. -/
theorem history_bind
    {history : List (Activity sig)}
    (happened : (job >>= rest).History history) :
    job.History history ∨
      ∃ first second value, history = first ++ second ∧
        job.Partly first (.pure value) ∧ (rest value).History second := by
  induction job generalizing history with
  | pure value => exact Or.inr ⟨[], history, value, rfl, .refl _, happened⟩
  | perform op next ih =>
      rcases happened with nothing | issued | ⟨answer, later, rfl, continued⟩
      · exact Or.inl (Or.inl nothing)
      · exact Or.inl (Or.inr (Or.inl issued))
      · rcases ih answer continued with
          within | ⟨first, second, value, rfl, completed, beyond⟩
        · exact Or.inl (Or.inr (Or.inr ⟨answer, later, rfl, within⟩))
        · exact Or.inr ⟨_ :: _ :: first, second, value, rfl, .perform answer completed, beyond⟩
  | fork capacity programs next ih =>
      rcases happened with forked | ⟨forked, later, complaint, rfl, joins, continued⟩
      · exact Or.inl (Or.inl forked)
      · rcases ih complaint continued with
          within | ⟨first, second, value, rfl, completed, beyond⟩
        · exact Or.inl (Or.inr ⟨forked, later, complaint, rfl, joins, within⟩)
        · exact Or.inr ⟨forked ++ first, second, value, (List.append_assoc _ _ _).symm,
            .fork joins completed, beyond⟩

/-- A job performs only operations of some kind, its workers included. -/
def Only (allowed : sig.Op → Prop) : Job sig Complaint α → Prop
  | .pure _ => True
  | .perform op next => allowed op ∧ ∀ answer, (next answer).Only allowed
  | .fork _ programs next =>
      (∀ program ∈ programs, program.Only allowed) ∧ ∀ first, (next first).Only allowed

variable {allowed : sig.Op → Prop}

theorem only_bind
    (first : job.Only allowed)
    (second : ∀ value, (rest value).Only allowed) :
    (job >>= rest).Only allowed := by
  induction job with
  | pure value => exact second value
  | perform op next ih =>
      exact ⟨first.1, fun answer => ih answer (first.2 answer)⟩
  | fork capacity programs next ih =>
      exact ⟨first.1, fun complaint => ih complaint (first.2 complaint)⟩

/-- A job of allowed operations issues only such operations. -/
theorem allowed_of_history
    {history : List (Activity sig)}
    (happened : job.History history)
    (only : job.Only allowed)
    {op : sig.Op}
    (present : .issued op ∈ history) : allowed op := by
  induction job generalizing history with
  | pure value => cases happened ▸ present
  | perform own next ih =>
      rcases happened with rfl | rfl | ⟨answer, later, rfl, continued⟩
      · cases present
      · cases List.mem_singleton.mp present
        exact only.1
      · rcases List.mem_cons.mp present with same | present
        · cases same
          exact only.1
        · rcases List.mem_cons.mp present with same | present
          · cases same
          · exact ih answer continued (only.2 answer) present
  | fork capacity programs next ih =>
      rcases happened with ⟨_, _, _, forked⟩ | ⟨forked, later, complaint, rfl, joins, continued⟩
      · exact forked.allowed only.1 present
      · rcases List.mem_append.mp present with before | after
        · obtain ⟨_, _, _, whole, _⟩ := joins
          exact whole.allowed only.1 before
        · exact ih complaint continued (only.2 complaint) after

/-! ### Runs of a job -/

/-- Where a job stands. -/
inductive State
    (sig : Signature)
    (Complaint α : Type)
  | ready (rest : Job sig Complaint α)
  | waiting (op : sig.Op) (next : sig.Answer op → Job sig Complaint α)
  | joining (workers : List (Worker sig Complaint)) (channel : List Complaint) (capacity : Nat)
      (next : Option Complaint → Job sig Complaint α)

namespace State

/-- One step of the job itself or of one of its workers. -/
inductive Step : State sig Complaint α → Option (Activity sig) → State sig Complaint α → Prop
  | issue {op : sig.Op} {next : sig.Answer op → Job sig Complaint α} :
      Step (.ready (.perform op next)) (some (.issued op)) (.waiting op next)
  | answer {op : sig.Op} {next : sig.Answer op → Job sig Complaint α} (answer : sig.Answer op) :
      Step (.waiting op next) (some (.answered op answer)) (.ready (next answer))
  | fork {capacity : Nat} {programs : List (Prog sig (Option Complaint))}
      {next : Option Complaint → Job sig Complaint α} :
      Step (.ready (.fork capacity programs next)) none
        (.joining (programs.map .ready) [] capacity next)
  | work {front back : List (Worker sig Complaint)} {worker after : Worker sig Complaint}
      {channel channelAfter : List Complaint} {capacity : Nat} {activity : Option (Activity sig)}
      {next : Option Complaint → Job sig Complaint α}
      (stepped : worker.Step capacity channel activity after channelAfter) :
      Step (.joining (front ++ worker :: back) channel capacity next) activity
        (.joining (front ++ after :: back) channelAfter capacity next)
  | join {workers : List (Worker sig Complaint)} {channel : List Complaint} {capacity : Nat}
      {next : Option Complaint → Job sig Complaint α}
      (past : ∀ worker ∈ workers, worker = .done) :
      Step (.joining workers channel capacity next) none (.ready (next channel.head?))

/-- A worker wants to complain and the channel is full. -/
def Blocked : State sig Complaint α → Prop
  | .joining workers channel capacity _ =>
      capacity ≤ channel.length ∧ ∃ complaint, .ready (.pure (some complaint)) ∈ workers
  | _ => False

end State

/-- Where a job may stand after a history. -/
inductive Standing (job : Job sig Complaint α) :
    List (Activity sig) → State sig Complaint α → Prop
  | ready {history : List (Activity sig)} {rest : Job sig Complaint α}
      (partly : job.Partly history rest) : Standing job history (.ready rest)
  | waiting {history : List (Activity sig)} {op : sig.Op}
      {next : sig.Answer op → Job sig Complaint α}
      (partly : job.Partly history (.perform op next)) :
      Standing job (history ++ [.issued op]) (.waiting op next)
  | joining {history forkHistory : List (Activity sig)} {capacity : Nat}
      {programs : List (Prog sig (Option Complaint))}
      {next : Option Complaint → Job sig Complaint α}
      {workers : List (Worker sig Complaint)} {channel : List Complaint}
      {records : List (Record sig Complaint)}
      (partly : job.Partly history (.fork capacity programs next))
      (forked : Forked programs workers channel forkHistory records) :
      Standing job (history ++ forkHistory) (.joining workers channel capacity next)

namespace Standing

variable {job : Job sig Complaint α} {history : List (Activity sig)}
variable {state : State sig Complaint α}

variable {after : State sig Complaint α}

section Standing

variable (standing : job.Standing history state)
include standing

theorem step
    {activity : Option (Activity sig)}
    (stepped : state.Step activity after) :
    job.Standing (history ++ activity.toList) after := by
  cases stepped with
  | issue =>
      cases standing with
      | ready partly => exact .waiting partly
  | answer answer =>
      cases standing with
      | waiting partly =>
          rw [Option.toList_some, List.append_assoc]
          exact .ready (partly.trans (.perform answer (.refl _)))
  | @fork capacity programs next =>
      cases standing with
      | ready partly =>
          obtain ⟨records, forked⟩ := Forked.start programs
          exact .joining partly forked
  | work stepped =>
      cases standing with
      | joining partly forked =>
          obtain ⟨records, forked⟩ := forked.step stepped
          rw [List.append_assoc]
          exact .joining partly forked
  | @join workers channel capacity next past =>
      cases standing with
      | joining partly forked =>
          have joined : (Job.fork capacity _ next).Partly _ (next channel.head?) :=
            .fork ⟨_, _, _, forked, past, rfl⟩ (.refl _)
          rw [List.append_nil] at joined
          rw [Option.toList_none, List.append_nil]
          exact .ready (partly.trans joined)

/-- Only an operation that was issued is answered. -/
theorem issued_of_answer
    {op : sig.Op}
    {answer : sig.Answer op}
    (stepped : state.Step (some (.answered op answer)) after) :
    .issued op ∈ history := by
  cases stepped with
  | answer =>
      cases standing with
      | waiting partly => exact List.mem_append_right _ List.mem_cons_self
  | @work front back _ _ _ _ _ _ _ stepped =>
      cases stepped with
      | answer =>
          cases standing with
          | joining partly forked => exact List.mem_append_right _ (forked.issued_of_waiting
              (List.mem_append_right _ List.mem_cons_self))

theorem happened : job.History history := by
  cases standing with
  | ready partly => exact partly.happened
  | waiting partly => exact partly.history (Or.inr (Or.inl rfl))
  | joining partly forked => exact partly.history (Or.inl ⟨_, _, _, forked⟩)

/-- With room for all, no worker ever blocks. -/
theorem not_blocked (roomy : job.Roomy) : ¬ state.Blocked := by
  intro blocked
  cases standing with
  | ready | waiting => exact blocked
  | joining partly forked =>
      obtain ⟨full, complaint, present⟩ := blocked
      have free := forked.room present
      have enough := (partly.roomy roomy).1
      omega

end Standing

end Standing

/-! ### Runs in a world -/

section Worlds

variable {Caller World Choice Move : Type}

/-- A job runs in a world that others change between its steps. -/
inductive Runs
    (machine : Machine sig Caller World Choice Move)
    (caller : Caller)
    (others : World → World → Prop)
    (job : Job sig Complaint α)
    (first : World) : State sig Complaint α → World → List (Activity sig) → Prop
  | start : Runs machine caller others job first (.ready job) first []
  | others {state : State sig Complaint α} {world later : World} {history : List (Activity sig)}
      (earlier : Runs machine caller others job first state world history)
      (changed : others world later) : Runs machine caller others job first state later history
  | internal {state after : State sig Complaint α} {world : World} {history : List (Activity sig)}
      (earlier : Runs machine caller others job first state world history)
      (stepped : state.Step none after) : Runs machine caller others job first after world history
  | issue {state after : State sig Complaint α} {world : World} {history : List (Activity sig)}
      {op : sig.Op}
      (earlier : Runs machine caller others job first state world history)
      (stepped : state.Step (some (.issued op)) after) :
      Runs machine caller others job first after world (history ++ [.issued op])
  | answer {state after : State sig Complaint α} {world : World} {history : List (Activity sig)}
      {op : sig.Op} (choice : Choice)
      (earlier : Runs machine caller others job first state world history)
      (stepped : state.Step
        (some (.answered op (machine.act caller op choice world).1)) after) :
      Runs machine caller others job first after (machine.act caller op choice world).2
        (history ++ [.answered op (machine.act caller op choice world).1])

namespace Runs

variable {machine : Machine sig Caller World Choice Move} {caller : Caller}
variable {others : World → World → Prop} {job : Job sig Complaint α} {first world : World}
variable {state : State sig Complaint α} {history : List (Activity sig)}

theorem standing (runs : Runs machine caller others job first state world history) :
    job.Standing history state := by
  induction runs with
  | start => exact .ready (.refl job)
  | others _ _ ih => exact ih
  | internal _ stepped ih =>
      have later := ih.step stepped
      rwa [Option.toList_none, List.append_nil] at later
  | issue _ stepped ih | answer choice _ stepped ih => exact ih.step stepped

end Runs

end Worlds

/-! ### One worker after the other -/

/-- Run programs one after the other and keep the first complaint. -/
def oneByOne : List (Prog sig (Option Complaint)) → Prog sig (Option Complaint)
  | [] => .pure none
  | program :: programs => do
      let complaint ← program
      let later ← oneByOne programs
      .pure (complaint.or later)

/-- The job as a program that runs its workers one after the other. -/
def sequential : Job sig Complaint α → Prog sig α
  | .pure value => .pure value
  | .perform op next => .perform op fun answer => (next answer).sequential
  | .fork _ programs next => do
      let complaint ← oneByOne programs
      (next complaint).sequential

theorem sequential_bind
    (job : Job sig Complaint α)
    (rest : α → Job sig Complaint β) :
    (job >>= rest).sequential = job.sequential >>= fun value => (rest value).sequential := by
  induction job with
  | pure value => rfl
  | perform op next ih =>
      exact congrArg (Prog.perform op) (funext ih)
  | fork capacity programs next ih =>
      simp only [fork_bind, sequential, Prog.bind_assoc, ih]

theorem only_oneByOne {allowed : sig.Op → Prop} :
    ∀ programs : List (Prog sig (Option Complaint)),
      (∀ program ∈ programs, program.Only allowed) → (oneByOne programs).Only allowed
  | [], _ => trivial
  | _ :: programs, only =>
      Prog.only_bind (only _ List.mem_cons_self) fun _ =>
        Prog.only_bind
          (only_oneByOne programs fun _ listed => only _ (List.mem_cons_of_mem _ listed))
          fun _ => trivial

/-- One after the other, the workers perform the same operations. -/
theorem only_sequential
    {allowed : sig.Op → Prop}
    {job : Job sig Complaint α}
    (only : job.Only allowed) : job.sequential.Only allowed := by
  induction job with
  | pure value => exact trivial
  | perform op next ih => exact ⟨only.1, fun answer => ih answer (only.2 answer)⟩
  | fork capacity programs next ih =>
      exact Prog.only_bind (only_oneByOne programs only.1) fun first => ih first (only.2 first)

namespace Runs

section Sequential

variable {Caller World Choice Move : Type}
variable {machine : Machine sig Caller World Choice Move} {caller : Caller}
variable {others : World → World → Prop} {job : Job sig Complaint α} {first world : World}
variable {history : List (Activity sig)}
variable (disturbs : ∀ move world, others world (machine.disturb move world))
variable (strategy : Strategy sig World Choice Move)

include disturbs

variable {state : State sig Complaint α}

theorem moves
    (runs : Runs machine caller others job first state world history)
    (moves : List Move) :
    Runs machine caller others job first state
      (moves.foldl (fun world move => machine.disturb move world) world) history := by
  induction moves generalizing world with
  | nil => exact runs
  | cons move moves ih =>
      exact ih (runs.others (disturbs move world))

/-- An operation is issued and answered as in a run alone. -/
theorem respond
    {waiting : State sig Complaint α}
    {op : sig.Op}
    {after : sig.Answer op → State sig Complaint α}
    {disturbed : World}
    (same : disturbed =
      (strategy.moves world op).foldl (fun world move => machine.disturb move world) world)
    (issues : state.Step (some (.issued op)) waiting)
    (answers : ∀ answer, waiting.Step (some (.answered op answer)) (after answer))
    (runs : Runs machine caller others job first state world history) :
    Runs machine caller others job first
      (after (machine.act caller op (strategy.choice disturbed op) disturbed).1)
      (machine.act caller op (strategy.choice disturbed op) disturbed).2
      (history ++ [.issued op,
        .answered op (machine.act caller op (strategy.choice disturbed op) disturbed).1]) := by
  have waited := moves disturbs (runs.issue issues) (strategy.moves world op)
  rw [← same] at waited
  have answered := waited.answer (strategy.choice disturbed op) (answers _)
  rwa [List.append_assoc] at answered

/-- One worker runs to its end while the others stand still. -/
theorem work
    {front back : List (Worker sig Complaint)}
    {program : Prog sig (Option Complaint)}
    {channel : List Complaint}
    {capacity : Nat}
    {next : Option Complaint → Job sig Complaint α}
    (room : channel.length < capacity)
    (runs : Runs machine caller others job first
      (.joining (front ++ .ready program :: back) channel capacity next) world history) :
    Runs machine caller others job first
      (.joining (front ++ .done :: back)
        (channel ++ (program.run machine caller strategy world).1.toList) capacity next)
      (program.run machine caller strategy world).2
      (history ++ Activity.ofTrace (program.trace machine caller strategy world)) := by
  induction program generalizing world history with
  | pure complaint =>
      have nothing : history ++ Activity.ofTrace ((Prog.pure complaint).trace machine caller
          strategy world) = history := List.append_nil history
      rw [nothing]
      cases complaint with
      | none =>
          have past := runs.internal (.work .content)
          rwa [← List.append_nil channel] at past
      | some complaint => exact runs.internal (.work (.complain room))
  | perform op following ih =>
      have reached := ih _
        (respond disturbs strategy rfl (.work .issue) (fun answer => .work (.answer answer)) runs)
      rwa [List.append_assoc] at reached

/-- The workers run one after the other. -/
theorem workAll
    {programs : List (Prog sig (Option Complaint))}
    {front : List (Worker sig Complaint)}
    {channel : List Complaint}
    {capacity : Nat}
    {next : Option Complaint → Job sig Complaint α}
    (past : ∀ worker ∈ front, worker = .done)
    (room : channel.length + programs.length ≤ capacity)
    (runs : Runs machine caller others job first
      (.joining (front ++ programs.map .ready) channel capacity next) world history) :
    Runs machine caller others job first
      (.ready (next (channel.head?.or
        ((oneByOne programs).run machine caller strategy world).1)))
      ((oneByOne programs).run machine caller strategy world).2
      (history ++ Activity.ofTrace ((oneByOne programs).trace machine caller strategy world)) := by
  induction programs generalizing front channel world history with
  | nil =>
      rw [List.map_nil, List.append_nil] at runs
      have joined := runs.internal (.join past)
      have nothing : history ++ Activity.ofTrace ((oneByOne ([] : List (Prog sig
          (Option Complaint)))).trace machine caller strategy world) = history :=
        List.append_nil history
      rw [nothing]
      simpa only [oneByOne, Prog.run_pure, Option.or_none] using joined
  | cons program programs ih =>
      rw [List.length_cons] at room
      have worked := work disturbs strategy (by omega) runs
      rw [List.append_cons] at worked
      have fits : (channel ++ (program.run machine caller strategy world).1.toList).length +
          programs.length ≤ capacity := by
        cases (program.run machine caller strategy world).1 <;> simp <;> omega
      have reached := ih
        (List.forall_mem_append.mpr ⟨past, List.forall_mem_singleton.mpr rfl⟩) fits worked
      have traced : (oneByOne (program :: programs)).trace machine caller strategy world =
          program.trace machine caller strategy world ++
            (oneByOne programs).trace machine caller strategy
              (program.run machine caller strategy world).2 := by
        rw [oneByOne, Prog.trace_bind, Prog.trace_bind]
        exact congrArg (_ ++ ·) (List.append_nil _)
      rw [traced, Activity.ofTrace_append, ← List.append_assoc]
      rw [List.head?_append, Option.head?_toList, Option.or_assoc] at reached
      simpa only [oneByOne, Prog.run_bind, Prog.run_pure] using reached

/-- Running the workers one after the other is one of the runs of a job. -/
theorem sequential
    {rest : Job sig Complaint α}
    (roomy : rest.Roomy)
    (runs : Runs machine caller others job first (.ready rest) world history) :
    Runs machine caller others job first
      (.ready (.pure (rest.sequential.run machine caller strategy world).1))
      (rest.sequential.run machine caller strategy world).2
      (history ++ Activity.ofTrace (rest.sequential.trace machine caller strategy world)) := by
  induction rest generalizing world history with
  | pure value =>
      have nothing : history ++ Activity.ofTrace ((Job.pure value : Job sig Complaint α
          ).sequential.trace machine caller strategy world) = history := List.append_nil history
      rw [nothing]
      exact runs
  | perform op next ih =>
      have reached := ih _ (roomy _)
        (respond disturbs strategy rfl .issue (fun answer => .answer answer) runs)
      rwa [List.append_assoc] at reached
  | fork capacity programs next ih =>
      have fits : ([] : List Complaint).length + programs.length ≤ capacity := by
        simpa using roomy.1
      have joined := workAll disturbs strategy (List.forall_mem_nil _) fits (runs.internal .fork)
      have reached := ih _ (roomy.2 _) joined
      rw [List.head?_nil, Option.none_or, List.append_assoc, ← Activity.ofTrace_append] at reached
      simpa only [Job.sequential, Prog.run_bind, Prog.trace_bind] using reached

end Sequential

end Runs

end Job

end Effects
