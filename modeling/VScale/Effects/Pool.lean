import Mathlib.Logic.Function.Basic
import VScale.Effects.Trace

/-!
# Pools of interleaved calls

A service runs one program for every request it receives, and any number of
these calls may be in progress at once.  A pool advances by single operations of
its calls, in any order, and by moves of the environment.

A discipline gives every call a contract.  When the guarantee of each call
implies what the others rely on, a weakest precondition proved for each program
on its own holds in every pool that can be reached.
-/

namespace Effects

/-- A machine with a program for every request.  What a program returns is
recorded in the world. -/
structure Service
    (sig : Signature)
    (Request Outcome Caller World Choice Move : Type) extends
    Machine sig Caller World Choice Move where
  /-- The program that answers a request. -/
  program : Request → Prog sig Outcome
  /-- The caller as which a numbered call acts. -/
  caller : Nat → Request → Caller
  /-- Record what a call has returned. -/
  conclude : Caller → Outcome → World → World

/-- A call in progress. -/
structure Call (sig : Signature) (Request Outcome : Type) where
  request : Request
  rest : Prog sig Outcome

/-- The world with the calls in progress, numbered in the order they came in. -/
structure Pool (sig : Signature) (Request Outcome World : Type) where
  world : World
  started : Nat
  calls : Nat → Option (Call sig Request Outcome)
  fresh : ∀ number, started ≤ number → calls number = none

namespace Pool

variable {sig : Signature} {Request Outcome World : Type}

/-- A world without calls. -/
def initial (world : World) : Pool sig Request Outcome World where
  world := world
  started := 0
  calls := fun _ => none
  fresh := fun _ _ => rfl

/-- A new call. -/
def enter
    (pool : Pool sig Request Outcome World)
    (call : Call sig Request Outcome) :
    Pool sig Request Outcome World where
  world := pool.world
  started := pool.started + 1
  calls := Function.update pool.calls pool.started (some call)
  fresh := by
    intro number beyond
    rw [Function.update_of_ne (Nat.ne_of_gt beyond)]
    exact pool.fresh number (Nat.le_of_succ_le beyond)

/-- A call in progress has a number below the counter. -/
theorem lt_of_found
    {pool : Pool sig Request Outcome World}
    {number : Nat}
    {call : Call sig Request Outcome}
    (found : pool.calls number = some call) :
    number < pool.started := by
  by_contra beyond
  rw [pool.fresh number (Nat.le_of_not_lt beyond)] at found
  cases found

/-- A call goes on or is over. -/
def proceed
    (pool : Pool sig Request Outcome World)
    (number : Nat)
    (running : number < pool.started)
    (world : World)
    (call : Option (Call sig Request Outcome)) : Pool sig Request Outcome World where
  world := world
  started := pool.started
  calls := Function.update pool.calls number call
  fresh := by
    intro other beyond
    rw [Function.update_of_ne (Nat.ne_of_gt (Nat.lt_of_lt_of_le running beyond))]
    exact pool.fresh other beyond

variable {pool : Pool sig Request Outcome World} {number : Nat}
variable {good : Nat → Call sig Request Outcome → Prop}

/-- What holds of the calls in progress and of a new one holds when it has come in. -/
theorem forall_enter
    {call : Call sig Request Outcome}
    (new : good pool.started call)
    (old : ∀ number other, pool.calls number = some other → good number other) :
    ∀ number other, (pool.enter call).calls number = some other → good number other := by
  intro number other found
  by_cases same : number = pool.started
  · subst same
    simp only [enter, Function.update_self, Option.some.injEq] at found
    rw [← found]
    exact new
  · simp only [enter, Function.update_of_ne same] at found
    exact old number other found

/-- What holds of the other calls and of what is left of one holds when it has proceeded. -/
theorem forall_proceed
    {running : number < pool.started}
    {world : World}
    {replaced : Option (Call sig Request Outcome)}
    (own : ∀ call ∈ replaced, good number call)
    (others : ∀ other call, other ≠ number → pool.calls other = some call → good other call) :
    ∀ other call, (pool.proceed number running world replaced).calls other = some call →
      good other call := by
  intro other call found
  by_cases same : other = number
  · subst same
    simp only [proceed, Function.update_self] at found
    exact own call found
  · simp only [proceed, Function.update_of_ne same] at found
    exact others other call same found

end Pool

/-- What happens next in a pool. -/
inductive Label (Request Choice Move : Type)
  | invoke (request : Request)
  | advance (number : Nat) (choice : Choice)
  | finish (number : Nat)
  | move (move : Move)

/-- The call that a label advances and its operation. -/
def Pool.operation
    {sig : Signature}
    {Request Outcome World Choice Move : Type}
    (pool : Pool sig Request Outcome World) : Label Request Choice Move → Option (Nat × sig.Op)
  | .advance number _ =>
      match pool.calls number with
      | some ⟨_, .perform op _⟩ => some (number, op)
      | _ => none
  | _ => none

theorem Pool.operation_advance
    {sig : Signature}
    {Request Outcome World Choice Move : Type}
    {pool : Pool sig Request Outcome World}
    {number : Nat}
    {request : Request}
    {op : sig.Op}
    {next : sig.Answer op → Prog sig Outcome}
    (found : pool.calls number = some ⟨request, .perform op next⟩)
    (choice : Choice) :
    pool.operation (.advance number choice : Label Request Choice Move) = some (number, op) := by
  simp only [operation, found]

namespace Service

variable {sig : Signature} {Request Outcome Caller World Choice Move : Type}
variable (service : Service sig Request Outcome Caller World Choice Move)

/-- The pool after an operation of a call. -/
def advanced
    (pool : Pool sig Request Outcome World)
    {number : Nat}
    {request : Request}
    {op : sig.Op}
    {next : sig.Answer op → Prog sig Outcome}
    (found : pool.calls number = some ⟨request, .perform op next⟩)
    (choice : Choice) :
    Pool sig Request Outcome World :=
  pool.proceed number (Pool.lt_of_found found)
    (service.act (service.caller number request) op choice pool.world).2
    (some ⟨request, next (service.act (service.caller number request) op choice pool.world).1⟩)

/-- The pool after the return of a call. -/
def concluded
    (pool : Pool sig Request Outcome World)
    {number : Nat}
    {request : Request}
    {value : Outcome}
    (found : pool.calls number = some ⟨request, .pure value⟩) :
    Pool sig Request Outcome World :=
  pool.proceed number (Pool.lt_of_found found)
    (service.conclude (service.caller number request) value pool.world) none

/-- One step of a pool. -/
inductive Transition (pool : Pool sig Request Outcome World) :
    Label Request Choice Move → Pool sig Request Outcome World → Prop
  | invoke (request : Request) :
      Transition pool (.invoke request) (pool.enter ⟨request, service.program request⟩)
  | advance {number : Nat} {request : Request} {op : sig.Op}
      {next : sig.Answer op → Prog sig Outcome}
      (found : pool.calls number = some ⟨request, .perform op next⟩) (choice : Choice) :
      Transition pool (.advance number choice) (service.advanced pool found choice)
  | finish {number : Nat} {request : Request} {value : Outcome}
      (found : pool.calls number = some ⟨request, .pure value⟩) :
      Transition pool (.finish number) (service.concluded pool found)
  | move (move : Move) :
      Transition pool (.move move) { pool with world := service.disturb move pool.world }

/-- The step a label asks for, if it is possible. -/
def next (pool : Pool sig Request Outcome World) :
    Label Request Choice Move → Option (Pool sig Request Outcome World)
  | .invoke request => some (pool.enter ⟨request, service.program request⟩)
  | .advance number choice =>
      match found : pool.calls number with
      | some ⟨_, .perform _ _⟩ => some (service.advanced pool found choice)
      | _ => none
  | .finish number =>
      match found : pool.calls number with
      | some ⟨_, .pure _⟩ => some (service.concluded pool found)
      | _ => none
  | .move move => some { pool with world := service.disturb move pool.world }

theorem transition_of_next
    {pool later : Pool sig Request Outcome World}
    {label : Label Request Choice Move}
    (stepped : service.next pool label = some later) :
    service.Transition pool label later := by
  cases label with
  | invoke request =>
      injection stepped with same
      rw [← same]
      exact .invoke request
  | advance number choice =>
      simp only [next] at stepped
      split at stepped
      · rename_i request op next found
        injection stepped with same
        rw [← same]
        exact .advance found choice
      · cases stepped
  | finish number =>
      simp only [next] at stepped
      split at stepped
      · rename_i request value found
        injection stepped with same
        rw [← same]
        exact .finish found
      · cases stepped
  | move move =>
      injection stepped with same
      rw [← same]
      exact .move move

/-- The pools reached by steps that are all allowed. -/
inductive Reaches
    (allowed : Pool sig Request Outcome World → Label Request Choice Move →
      Pool sig Request Outcome World → Prop)
    (start : Pool sig Request Outcome World) : Pool sig Request Outcome World → Prop
  | start : Reaches allowed start start
  | step {pool later : Pool sig Request Outcome World} {label : Label Request Choice Move}
      (earlier : Reaches allowed start pool)
      (transition : service.Transition pool label later)
      (permitted : allowed pool label later) : Reaches allowed start later

section Runs

variable (allowed : Pool sig Request Outcome World → Label Request Choice Move →
  Pool sig Request Outcome World → Prop)
variable [∀ pool label later, Decidable (allowed pool label later)]

/-- Take the steps of a list as long as they are possible and allowed. -/
def runs :
    List (Label Request Choice Move) → Pool sig Request Outcome World →
      Option (Pool sig Request Outcome World)
  | [], pool => some pool
  | label :: labels, pool =>
      match service.next pool label with
      | none => none
      | some later => if allowed pool label later then runs labels later else none

variable {allowed}

theorem reaches_of_runs
    {labels : List (Label Request Choice Move)}
    {start pool later : Pool sig Request Outcome World}
    (earlier : service.Reaches allowed start pool)
    (ran : service.runs allowed labels pool = some later) :
    service.Reaches allowed start later := by
  induction labels generalizing pool with
  | nil =>
      injection ran with same
      rw [← same]
      exact earlier
  | cons label labels ih =>
      simp only [runs] at ran
      split at ran
      · cases ran
      · rename_i middle stepped
        split at ran
        · rename_i permitted
          exact ih
            (.step earlier (service.transition_of_next stepped) permitted) ran
        · cases ran

end Runs

end Service

/-- A specification of every call, and an invariant of the pool. -/
structure Discipline (service : Service sig Request Outcome Caller World Choice Move) where
  /-- What holds between any two steps. -/
  invariant : Pool sig Request Outcome World → Prop
  /-- What a numbered call relies on and guarantees. -/
  contract : Nat → Request → Contract World
  /-- What its operations may do. -/
  steps : Nat → Request → (op : sig.Op) → World → sig.Answer op → World → Prop
  /-- What holds when it returns. -/
  post : Nat → Request → Outcome → World → Prop

namespace Discipline

variable {sig : Signature} {Request Outcome Caller World Choice Move : Type}
variable {service : Service sig Request Outcome Caller World Choice Move}

/-- A call in progress meets its specification. -/
def Meets
    (discipline : Discipline service)
    (number : Nat)
    (call : Call sig Request Outcome)
    (world : World) : Prop :=
  call.rest.wp (discipline.contract number call.request) (discipline.steps number call.request)
    (discipline.post number call.request) world

/-- What the other calls rely on. -/
def Spares
    (discipline : Discipline service)
    (pool : Pool sig Request Outcome World)
    (number : Nat)
    (after : World) : Prop :=
  ∀ other call, other ≠ number → pool.calls other = some call →
    (discipline.contract other call.request).rely pool.world after

/-- Every step keeps the invariant and what the other calls rely on. -/
structure Sound
    (discipline : Discipline service)
    (allowed : Pool sig Request Outcome World → Label Request Choice Move →
      Pool sig Request Outcome World → Prop) : Prop where
  invoked : ∀ {pool request},
    allowed pool (.invoke request) (pool.enter ⟨request, service.program request⟩) →
    discipline.invariant pool →
    discipline.invariant (pool.enter ⟨request, service.program request⟩) ∧
      discipline.Meets pool.started ⟨request, service.program request⟩ pool.world
  stepped : ∀ {pool number choice later request op next},
    allowed pool (.advance number choice) later →
    pool.calls number = some ⟨request, .perform op next⟩ →
    discipline.invariant pool →
    discipline.steps number request op pool.world
      (service.act (service.caller number request) op choice pool.world).1
      (service.act (service.caller number request) op choice pool.world).2
  shared : ∀ {pool number choice request op next}
    (found : pool.calls number = some ⟨request, .perform op next⟩),
    allowed pool (.advance number choice) (service.advanced pool found choice) →
    discipline.invariant pool →
    (discipline.contract number request).guarantee pool.world
      (service.advanced pool found choice).world →
    discipline.invariant (service.advanced pool found choice) ∧
      discipline.Spares pool number (service.advanced pool found choice).world
  finished : ∀ {pool number request value}
    (found : pool.calls number = some ⟨request, .pure value⟩),
    allowed pool (.finish number) (service.concluded pool found) →
    discipline.invariant pool →
    discipline.post number request value pool.world →
    discipline.invariant (service.concluded pool found) ∧
      discipline.Spares pool number (service.concluded pool found).world
  moved : ∀ {pool move},
    allowed pool (.move move) { pool with world := service.disturb move pool.world } →
    discipline.invariant pool →
    discipline.invariant { pool with world := service.disturb move pool.world } ∧
      ∀ number call, pool.calls number = some call →
        (discipline.contract number call.request).rely pool.world
          (service.disturb move pool.world)

variable {discipline : Discipline service}
variable {allowed : Pool sig Request Outcome World → Label Request Choice Move →
  Pool sig Request Outcome World → Prop}

/-- The invariant holds and all calls in progress meet their specifications. -/
def Governs (discipline : Discipline service) (pool : Pool sig Request Outcome World) : Prop :=
  discipline.invariant pool ∧
    ∀ number call, pool.calls number = some call → discipline.Meets number call pool.world

variable {number : Nat} {pool : Pool sig Request Outcome World} {world : World}

/-- After a step of one call the others still meet their specifications. -/
theorem governs_proceed
    (governs : discipline.Governs pool)
    (running : number < pool.started)
    {replaced : Option (Call sig Request Outcome)}
    (kept : discipline.invariant (pool.proceed number running world replaced))
    (spared : discipline.Spares pool number world)
    (own : ∀ call ∈ replaced, discipline.Meets number call world) :
    discipline.Governs (pool.proceed number running world replaced) :=
  ⟨kept, Pool.forall_proceed own fun other call different found =>
    Prog.wp_of_rely (governs.2 other call found) (spared other call different found)⟩

theorem governs_transition
    (sound : discipline.Sound allowed)
    {later : Pool sig Request Outcome World}
    {label : Label Request Choice Move}
    (governs : discipline.Governs pool)
    (transition : service.Transition pool label later)
    (permitted : allowed pool label later) : discipline.Governs later := by
  cases transition with
  | invoke request =>
      obtain ⟨kept, meets⟩ := sound.invoked permitted governs.1
      exact ⟨kept, Pool.forall_enter meets governs.2⟩
  | @advance number request op next found choice =>
      have meets := governs.2 number _ found
      obtain ⟨guaranteed, rest⟩ := meets pool.world (Contract.rely_refl _ _) _ _
        (sound.stepped permitted found governs.1)
      obtain ⟨kept, spared⟩ := sound.shared found permitted governs.1 guaranteed
      apply governs_proceed governs _ kept spared
      rintro _ ⟨⟩
      exact rest
  | @finish number request value found =>
      have meets := governs.2 number _ found
      obtain ⟨kept, spared⟩ := sound.finished found permitted governs.1
        (meets pool.world (Contract.rely_refl _ _))
      exact governs_proceed governs _ kept spared (by rintro _ ⟨⟩)
  | move move =>
      obtain ⟨kept, relied⟩ := sound.moved permitted governs.1
      refine ⟨kept, ?_⟩
      intro number call found
      exact Prog.wp_of_rely (governs.2 number call found) (relied number call found)

/-- A sound discipline governs every pool that is reached. -/
theorem governs_of_reaches
    (sound : discipline.Sound allowed)
    (holds : discipline.invariant (Pool.initial world))
    (reaches : service.Reaches allowed (Pool.initial world) pool) :
    discipline.Governs pool := by
  induction reaches with
  | start => exact ⟨holds, fun _ _ found => nomatch found⟩
  | step earlier transition permitted ih =>
      exact governs_transition sound ih transition permitted

/-- A call about to return has established its postcondition. -/
theorem Governs.post
    (governs : discipline.Governs pool)
    {request : Request}
    {value : Outcome}
    (found : pool.calls number = some ⟨request, .pure value⟩) :
    discipline.post number request value pool.world :=
  governs.2 number _ found pool.world (Contract.rely_refl _ _)

end Discipline

end Effects
