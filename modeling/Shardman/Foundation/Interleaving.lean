import Shardman.Foundation.Program
import Shardman.Foundation.Runs

namespace Shardman
namespace Foundation

/-!
# Pools of programs over one shared store

A pool holds a shared store and the programs in progress.  An action starts a
program, lets the store change by itself (time passes), or resumes one program
for exactly one operation.  Nothing bounds the number of programs, and any
program may be resumed next, so a run of a pool is an arbitrary interleaving
at the granularity of single operations.

A process remembers the entry that started it.  The entry is never read by a
step: it lets statements speak about the call a program belongs to.
-/

/-- What a pool is made of: the effect of an operation, the program of each
entry, and the spontaneous changes of the store. -/
structure Machine (Op : Type) (Reply : Op -> Type) (X State Entry Tick : Type) where
  perform : (op : Op) -> State -> Reply op × State
  body : Entry -> Program Op Reply X
  elapse : Tick -> State -> State

/-- A program in progress and the entry that started it. -/
structure Process (Op : Type) (Reply : Op -> Type) (X Entry : Type) where
  entry : Entry
  program : Program Op Reply X

/-- The shared store and all processes ever started, in starting order. -/
structure Pool (Op : Type) (Reply : Op -> Type) (X State Entry : Type) where
  store : State
  processes : List (Process Op Reply X Entry)

/-- The three kinds of step of a pool. -/
inductive PoolAction (Entry Tick : Type)
  | start (entry : Entry)
  | elapse (tick : Tick)
  | resume (index : Nat)

variable {Op : Type} {Reply : Op -> Type} {X State Entry Tick : Type}

namespace Machine

variable (machine : Machine Op Reply X State Entry Tick)

/-- One step of a pool.  A process that has finished cannot be resumed. -/
def step (pool : Pool Op Reply X State Entry) :
    PoolAction Entry Tick -> Option (Pool Op Reply X State Entry)
  | .start entry =>
      some ⟨pool.store, pool.processes ++ [⟨entry, machine.body entry⟩]⟩
  | .elapse tick => some ⟨machine.elapse tick pool.store, pool.processes⟩
  | .resume index =>
      match pool.processes[index]? with
      | some ⟨entry, .request op next⟩ =>
          some ⟨(machine.perform op pool.store).2,
            pool.processes.set index ⟨entry, next (machine.perform op pool.store).1⟩⟩
      | _ => none

end Machine

namespace Pool

/-- The operation an action is about to perform, if it performs one. -/
def pending (pool : Pool Op Reply X State Entry) : PoolAction Entry Tick -> Option Op
  | .resume index =>
      match pool.processes[index]? with
      | some ⟨_, .request op _⟩ => some op
      | _ => none
  | _ => none

theorem pending_some {pool : Pool Op Reply X State Entry} {action : PoolAction Entry Tick} {op : Op}
    (issued : pool.pending action = some op) :
    Exists fun index => Exists fun entry => Exists fun next => action = .resume index ∧
      pool.processes[index]? = some ⟨entry, .request op next⟩ := by
  cases action with
  | start entry => cases issued
  | elapse tick => cases issued
  | resume index =>
      cases found : pool.processes[index]? with
      | none => simp only [pending, found] at issued; cases issued
      | some process =>
          rcases process with ⟨entry, program⟩
          cases program with
          | finish value => simp only [pending, found] at issued; cases issued
          | request other next =>
              simp only [pending, found, Option.some.injEq] at issued
              subst issued
              exact ⟨index, entry, next, rfl, found⟩

end Pool

section Steps

variable {machine : Machine Op Reply X State Entry Tick}
variable {pool after : Pool Op Reply X State Entry}

/-- The complete inversion of a step: a start, a spontaneous change of the
store, or one operation of one process. -/
theorem step_cases {action : PoolAction Entry Tick} (taken : machine.step pool action = some after) :
    (Exists fun entry => action = .start entry ∧
      after = ⟨pool.store, pool.processes ++ [⟨entry, machine.body entry⟩]⟩) ∨
    (Exists fun tick => action = .elapse tick ∧
      after = ⟨machine.elapse tick pool.store, pool.processes⟩) ∨
    (Exists fun index => Exists fun entry => Exists fun op => Exists fun next =>
      action = .resume index ∧ pool.processes[index]? = some ⟨entry, .request op next⟩ ∧
      pool.pending action = some op ∧
      after = ⟨(machine.perform op pool.store).2,
        pool.processes.set index ⟨entry, next (machine.perform op pool.store).1⟩⟩) := by
  cases action with
  | start entry =>
      cases taken
      exact Or.inl ⟨entry, rfl, rfl⟩
  | elapse tick =>
      cases taken
      exact Or.inr (Or.inl ⟨tick, rfl, rfl⟩)
  | resume index =>
      refine Or.inr (Or.inr ?_)
      cases found : pool.processes[index]? with
      | none => simp only [Machine.step, found] at taken; cases taken
      | some process =>
          rcases process with ⟨entry, program⟩
          cases program with
          | finish value => simp only [Machine.step, found] at taken; cases taken
          | request op next =>
              simp only [Machine.step, found, Option.some.injEq] at taken
              exact ⟨index, entry, op, next, rfl, found, by simp only [Pool.pending, found], taken.symm⟩

/-- Where a process after a step comes from: it was there before, it was just
started, or it is the one that was resumed. -/
theorem process_cases {action : PoolAction Entry Tick} {index : Nat}
    {process : Process Op Reply X Entry} (taken : machine.step pool action = some after)
    (present : after.processes[index]? = some process) :
    (action ≠ .resume index ∧ pool.processes[index]? = some process) ∨
    (action = .start process.entry ∧ index = pool.processes.length ∧
      process.program = machine.body process.entry) ∨
    (Exists fun op => Exists fun next => action = .resume index ∧
      pool.processes[index]? = some ⟨process.entry, .request op next⟩ ∧
      pool.pending action = some op ∧ after.store = (machine.perform op pool.store).2 ∧
      process.program = next (machine.perform op pool.store).1) := by
  rcases step_cases taken with ⟨entry, rfl, rfl⟩ | ⟨tick, rfl, rfl⟩ |
    ⟨resumed, entry, op, next, rfl, found, issued, rfl⟩
  · rcases Nat.lt_or_ge index pool.processes.length with earlier | later
    · rw [List.getElem?_append_left earlier] at present
      exact Or.inl ⟨nofun, present⟩
    · rw [List.getElem?_append_right later] at present
      have only := List.mem_singleton.mp (List.mem_of_getElem? present)
      have position : index - pool.processes.length < 1 := (List.getElem?_eq_some_iff.mp present).1
      subst only
      exact Or.inr (Or.inl ⟨rfl, by omega, rfl⟩)
  · exact Or.inl ⟨nofun, present⟩
  · by_cases same : resumed = index
    · subst same
      have inside : resumed < pool.processes.length := (List.getElem?_eq_some_iff.mp found).1
      rw [List.getElem?_set_self inside, Option.some_inj] at present
      subst present
      exact Or.inr (Or.inr ⟨op, next, rfl, found, issued, rfl, rfl⟩)
    · rw [List.getElem?_set_ne same] at present
      refine Or.inl ⟨?_, present⟩
      intro resumes
      cases resumes
      exact same rfl

/-- What becomes of a process in a step: it stays as it is, or it is resumed. -/
theorem process_after {action : PoolAction Entry Tick} {index : Nat} {entry : Entry}
    {program : Program Op Reply X} (taken : machine.step pool action = some after)
    (present : pool.processes[index]? = some ⟨entry, program⟩) :
    (action ≠ .resume index ∧ after.processes[index]? = some ⟨entry, program⟩) ∨
    (Exists fun op => Exists fun next => program = .request op next ∧ action = .resume index ∧
      after.store = (machine.perform op pool.store).2 ∧
      after.processes[index]? = some ⟨entry, next (machine.perform op pool.store).1⟩) := by
  have inside : index < pool.processes.length := (List.getElem?_eq_some_iff.mp present).1
  rcases step_cases taken with ⟨started, rfl, rfl⟩ | ⟨tick, rfl, rfl⟩ |
    ⟨resumed, owner, op, next, rfl, found, issued, rfl⟩
  · rw [List.getElem?_append_left inside]
    exact Or.inl ⟨nofun, present⟩
  · exact Or.inl ⟨nofun, present⟩
  · by_cases same : resumed = index
    · subst same
      rw [found] at present
      cases present
      exact Or.inr ⟨op, next, rfl, rfl, rfl, List.getElem?_set_self inside⟩
    · rw [List.getElem?_set_ne same]
      refine Or.inl ⟨?_, present⟩
      intro resumes
      cases resumes
      exact same rfl

/-- An invariant of the store holds throughout every run whose operations and
spontaneous changes preserve it where they are admitted. -/
theorem store_preserved (holds : State -> Prop) {action : PoolAction Entry Tick}
    (operation : forall op, pool.pending action = some op -> holds pool.store ->
      holds (machine.perform op pool.store).2)
    (elapses : forall tick, holds pool.store -> holds (machine.elapse tick pool.store))
    (held : holds pool.store) (taken : machine.step pool action = some after) :
    holds after.store := by
  rcases step_cases taken with ⟨entry, rfl, rfl⟩ | ⟨tick, rfl, rfl⟩ |
    ⟨index, entry, op, next, rfl, found, issued, rfl⟩
  · exact held
  · exact elapses tick held
  · exact operation op issued held

/-- A property of every process holds after a step when the started programs
have it, when it survives the change of the store, and when the resumed
process keeps it. -/
theorem processes_preserved (holds : Process Op Reply X Entry -> State -> Prop)
    {action : PoolAction Entry Tick}
    (starts : forall entry, holds ⟨entry, machine.body entry⟩ pool.store)
    (survives : forall process, process ∈ pool.processes -> holds process pool.store ->
      holds process after.store)
    (resumes : forall entry op next, pool.pending action = some op ->
      holds ⟨entry, .request op next⟩ pool.store ->
      holds ⟨entry, next (machine.perform op pool.store).1⟩ (machine.perform op pool.store).2)
    (held : forall process, process ∈ pool.processes -> holds process pool.store)
    (taken : machine.step pool action = some after) :
    forall process, process ∈ after.processes -> holds process after.store := by
  intro process member
  rcases step_cases taken with ⟨entry, rfl, rfl⟩ | ⟨tick, rfl, rfl⟩ |
    ⟨index, entry, op, next, rfl, found, issued, rfl⟩
  · rcases List.mem_append.mp member with earlier | started
    · exact held process earlier
    · rw [List.mem_singleton.mp started]
      exact starts entry
  · exact survives process member (held process member)
  · rcases List.mem_or_eq_of_mem_set member with earlier | resumed
    · exact survives process earlier (held process earlier)
    · rw [resumed]
      exact resumes entry op next issued (held _ (List.mem_of_getElem? found))

/-- A process stays under its index, with its entry. -/
theorem run_entry {start : Pool Op Reply X State Entry}
    {past : List (Event (Pool Op Reply X State Entry) (PoolAction Entry Tick))}
    (run : Run machine.step start past pool)
    {event : Event (Pool Op Reply X State Entry) (PoolAction Entry Tick)} (member : event ∈ past)
    {index : Nat} {entry : Entry} {program : Program Op Reply X}
    (present : event.state.processes[index]? = some ⟨entry, program⟩) :
    Exists fun later => pool.processes[index]? = some ⟨entry, later⟩ := by
  have related := Run.states_related (fun earlier later : Pool Op Reply X State Entry =>
      forall program, earlier.processes[index]? = some ⟨entry, program⟩ ->
        Exists fun resumed => later.processes[index]? = some ⟨entry, resumed⟩)
    (fun _ _ _ first second program found => (first program found).elim second)
    (by
      intro earlier action later taken program found
      rcases process_after taken found with ⟨_, kept⟩ | ⟨op, next, _, _, _, resumed⟩
      · exact ⟨program, kept⟩
      · exact ⟨_, resumed⟩) run
  exact (List.pairwise_cons.mp related).1 event.state (List.mem_map.mpr ⟨event, member, rfl⟩) program present

/-- Every process was started with its entry. -/
theorem run_started {start : Pool Op Reply X State Entry}
    {past : List (Event (Pool Op Reply X State Entry) (PoolAction Entry Tick))} (empty : start.processes = [])
    (run : Run machine.step start past pool) {index : Nat} {process : Process Op Reply X Entry}
    (present : pool.processes[index]? = some process) :
    Exists fun event => event ∈ past ∧ event.action = .start process.entry := by
  induction run generalizing process with
  | start =>
      rw [empty] at present
      cases present
  | @next past pool after action earlier taken inductionHypothesis =>
      have before : forall program, pool.processes[index]? = some ⟨process.entry, program⟩ ->
          Exists fun event => event ∈ (⟨pool, action⟩ : Event _ _) :: past ∧ event.action = .start process.entry := by
        intro program found
        rcases inductionHypothesis found with ⟨event, member, started⟩
        exact ⟨event, List.mem_cons_of_mem _ member, started⟩
      rcases process_cases taken present with ⟨_, kept⟩ | ⟨started, _, _⟩ | ⟨op, next, _, found, _, _, _⟩
      · exact before process.program kept
      · exact ⟨_, List.mem_cons_self, started⟩
      · exact before _ found

end Steps

/-! ## What a process has been told -/

/-- Whether an action resumes one given process. -/
def PoolAction.resumes (index : Nat) : PoolAction Entry Tick -> Bool
  | .resume resumed => resumed == index
  | _ => false

/-- The operations that one process has performed in a run with the replies it
was given, newest first. -/
def exchanges (machine : Machine Op Reply X State Entry Tick) (index : Nat)
    (past : List (Event (Pool Op Reply X State Entry) (PoolAction Entry Tick))) : List (Sigma Reply) :=
  past.filterMap fun event =>
    if event.action.resumes index then
      (event.state.pending event.action).map fun op => ⟨op, (machine.perform op event.state.store).1⟩
    else none

section Exchanges

variable {machine : Machine Op Reply X State Entry Tick}
variable {start pool : Pool Op Reply X State Entry}
variable {past : List (Event (Pool Op Reply X State Entry) (PoolAction Entry Tick))}

theorem resumes_iff {action : PoolAction Entry Tick} {index : Nat} :
    action.resumes index = true ↔ action = .resume index := by
  cases action with
  | start entry => exact iff_of_false nofun nofun
  | elapse tick => exact iff_of_false nofun nofun
  | resume resumed => rw [PoolAction.resumes, beq_iff_eq, PoolAction.resume.injEq]

theorem exchanges_other {action : PoolAction Entry Tick} {index : Nat} (other : action ≠ .resume index) :
    exchanges machine index (⟨pool, action⟩ :: past) = exchanges machine index past := by
  have apart : ¬ action.resumes index = true := fun same => other (resumes_iff.mp same)
  simp only [exchanges, List.filterMap_cons, if_neg apart]

theorem exchanges_resumed {index : Nat} {op : Op}
    (issued : pool.pending (.resume index : PoolAction Entry Tick) = some op) :
    exchanges machine index (⟨pool, .resume index⟩ :: past) =
      ⟨op, (machine.perform op pool.store).1⟩ :: exchanges machine index past := by
  have same : (PoolAction.resume index : PoolAction Entry Tick).resumes index = true := resumes_iff.mpr rfl
  simp only [exchanges, List.filterMap_cons, if_pos same, issued, Option.map_some]

/-- The newest exchange of a process took place in some step, and the older ones
before that step. -/
theorem exchanges_cons {index : Nat} {exchange : Sigma Reply} {rest : List (Sigma Reply)}
    (listed : exchanges machine index past = exchange :: rest) :
    Exists fun later => Exists fun event => Exists fun earlier => past = later ++ event :: earlier ∧
      event.action = .resume index ∧ event.state.pending event.action = some exchange.1 ∧
      (machine.perform exchange.1 event.state.store).1 = exchange.2 ∧
      exchanges machine index earlier = rest := by
  induction past with
  | nil => cases listed
  | cons event past inductionHypothesis =>
      rcases event with ⟨pool, action⟩
      by_cases same : action = .resume index
      · subst same
        cases issued : pool.pending (.resume index : PoolAction Entry Tick) with
        | none =>
            have resumes : (PoolAction.resume index : PoolAction Entry Tick).resumes index = true :=
              resumes_iff.mpr rfl
            simp only [exchanges, List.filterMap_cons, if_pos resumes, issued, Option.map_none] at listed
            rcases inductionHypothesis listed with ⟨later, event, earlier, rfl, found⟩
            exact ⟨_ :: later, event, earlier, rfl, found⟩
        | some op =>
            rw [exchanges_resumed issued] at listed
            cases listed
            exact ⟨[], _, past, rfl, rfl, issued, rfl, rfl⟩
      · rw [exchanges_other same] at listed
        rcases inductionHypothesis listed with ⟨later, event, earlier, rfl, found⟩
        exact ⟨_ :: later, event, earlier, rfl, found⟩

/-- Every exchange of a process took place in some step. -/
theorem exchanges_mem {index : Nat} {exchange : Sigma Reply}
    (listed : exchange ∈ exchanges machine index past) :
    Exists fun event => event ∈ past ∧ event.action = .resume index ∧
      event.state.pending event.action = some exchange.1 ∧
      (machine.perform exchange.1 event.state.store).1 = exchange.2 := by
  rcases List.mem_filterMap.mp listed with ⟨event, member, found⟩
  split at found
  · rename_i resumes
    rcases Option.map_eq_some_iff.mp found with ⟨op, issued, same⟩
    subst same
    exact ⟨event, member, resumes_iff.mp resumes, issued, rfl⟩
  · cases found

theorem exchanges_unstarted (run : Run machine.step start past pool) {index : Nat}
    (unstarted : pool.processes.length <= index) : exchanges machine index past = [] := by
  induction run with
  | start => rfl
  | @next past pool after action earlier taken inductionHypothesis =>
      rcases step_cases taken with ⟨entry, rfl, rfl⟩ | ⟨tick, rfl, rfl⟩ |
        ⟨resumed, entry, op, next, rfl, found, issued, rfl⟩
      · rw [List.length_append] at unstarted
        exact inductionHypothesis (by omega)
      · exact inductionHypothesis unstarted
      · rw [List.length_set] at unstarted
        have inside : resumed < pool.processes.length := (List.getElem?_eq_some_iff.mp found).1
        have apart : resumed ≠ index := by omega
        rw [exchanges_other fun same => apart (PoolAction.resume.inj same)]
        exact inductionHypothesis unstarted

/-- A property of a program and of what it has been told holds of every process
of a run when the started programs have it and each operation keeps it. -/
theorem run_exchanged (holds : Entry -> List (Sigma Reply) -> Program Op Reply X -> Prop)
    (empty : start.processes = []) (starts : forall entry, holds entry [] (machine.body entry))
    (resumes : forall entry done op next reply, holds entry done (.request op next) ->
      holds entry (⟨op, reply⟩ :: done) (next reply))
    (run : Run machine.step start past pool) {index : Nat} {entry : Entry}
    {program : Program Op Reply X} (present : pool.processes[index]? = some ⟨entry, program⟩) :
    holds entry (exchanges machine index past) program := by
  induction run generalizing program with
  | start =>
      rw [empty] at present
      cases present
  | @next past pool after action earlier taken inductionHypothesis =>
      rcases process_cases taken present with ⟨other, kept⟩ | ⟨rfl, rfl, begun⟩ |
        ⟨op, next, rfl, found, issued, _, resumed⟩
      · rw [exchanges_other other]
        exact inductionHypothesis kept
      · change program = machine.body entry at begun
        have nothing : exchanges machine pool.processes.length (⟨pool, .start entry⟩ :: past) = [] :=
          exchanges_unstarted earlier (Nat.le_refl _)
        rw [nothing, begun]
        exact starts entry
      · change program = next (machine.perform op pool.store).1 at resumed
        rw [exchanges_resumed issued, resumed]
        exact resumes entry _ op next _ (inductionHypothesis found)

/-- A process of a run goes on from what it has been told as its program does. -/
theorem run_follows {issues : List (Sigma Reply) -> Op -> Prop}
    {returns : List (Sigma Reply) -> X -> Prop} {index : Nat} {entry : Entry}
    {program : Program Op Reply X} (empty : start.processes = [])
    (follows : (machine.body entry).Follows issues returns [])
    (run : Run machine.step start past pool)
    (present : pool.processes[index]? = some ⟨entry, program⟩) :
    program.Follows issues returns (exchanges machine index past) := by
  refine run_exchanged (fun other done program => other = entry -> program.Follows issues returns done)
    empty ?_ ?_ run present rfl
  · rintro other rfl
    exact follows
  · intro other done op next reply held same
    exact (held same).2 reply

/-- What a pending operation relies on, given what its process has been told,
holds in every state of a run when it holds right after each operation of the
process and no step of others takes it away. -/
theorem run_relies (relies : Entry -> List (Sigma Reply) -> Op -> State -> Prop)
    (empty : start.processes = [])
    (starts : forall entry op next state, machine.body entry = .request op next -> relies entry [] op state)
    (established : forall entry done previous op state,
      relies entry (⟨previous, (machine.perform previous state).1⟩ :: done) op
        (machine.perform previous state).2)
    (run : Run machine.step start past pool)
    (undisturbed : forall event, event ∈ past -> forall index entry op next after done,
      event.state.processes[index]? = some ⟨entry, .request op next⟩ -> event.action ≠ .resume index ->
      machine.step event.state event.action = some after ->
      relies entry done op event.state.store -> relies entry done op after.store)
    {index : Nat} {entry : Entry} {op : Op} {next : Reply op -> Program Op Reply X}
    (present : pool.processes[index]? = some ⟨entry, .request op next⟩) :
    relies entry (exchanges machine index past) op pool.store := by
  induction run with
  | start =>
      rw [empty] at present
      cases present
  | @next past pool after action earlier taken inductionHypothesis =>
      have before := inductionHypothesis fun event member => undisturbed event (List.mem_cons_of_mem _ member)
      rcases process_cases taken present with ⟨other, kept⟩ | ⟨rfl, rfl, begun⟩ |
        ⟨previous, following, rfl, found, issued, stored, resumed⟩
      · rw [exchanges_other other]
        exact undisturbed _ List.mem_cons_self index entry op next after _ kept other taken (before kept)
      · have nothing : exchanges machine pool.processes.length (⟨pool, .start entry⟩ :: past) = [] :=
          exchanges_unstarted earlier (Nat.le_refl _)
        rw [nothing]
        exact starts entry op next after.store begun.symm
      · rw [exchanges_resumed issued, stored]
        exact established entry _ previous op pool.store

end Exchanges

/-! ## What a process has done -/

/-- The operations that one process has performed in a run, newest first. -/
def performedBy (index : Nat) (past : List (Event (Pool Op Reply X State Entry) (PoolAction Entry Tick))) :
    List Op :=
  past.filterMap fun event =>
    if event.action.resumes index then event.state.pending event.action else none

section Performed

variable {machine : Machine Op Reply X State Entry Tick}
variable {start pool after : Pool Op Reply X State Entry}
variable {past : List (Event (Pool Op Reply X State Entry) (PoolAction Entry Tick))}

/-- What a process has done is what it has been told without the replies. -/
theorem performedBy_eq (machine : Machine Op Reply X State Entry Tick) (index : Nat)
    (past : List (Event (Pool Op Reply X State Entry) (PoolAction Entry Tick))) :
    performedBy index past = (exchanges machine index past).map Sigma.fst := by
  rw [performedBy, exchanges, List.map_filterMap]
  congr 1
  funext event
  split
  · cases event.state.pending event.action <;> rfl
  · rfl

theorem performedBy_other {action : PoolAction Entry Tick} {index : Nat} (other : action ≠ .resume index) :
    performedBy index (⟨pool, action⟩ :: past) = performedBy index past := by
  have apart : ¬ action.resumes index = true := fun same => other (resumes_iff.mp same)
  simp only [performedBy, List.filterMap_cons, if_neg apart]

theorem performedBy_resumed {index : Nat} {op : Op}
    (issued : pool.pending (.resume index : PoolAction Entry Tick) = some op) :
    performedBy index (⟨pool, .resume index⟩ :: past) = op :: performedBy index past := by
  have same : (PoolAction.resume index : PoolAction Entry Tick).resumes index = true := resumes_iff.mpr rfl
  simp only [performedBy, List.filterMap_cons, if_pos same, issued]

/-- A process that has not been started has done nothing. -/
theorem performedBy_unstarted (run : Run machine.step start past pool) {index : Nat}
    (unstarted : pool.processes.length <= index) : performedBy index past = [] := by
  rw [performedBy_eq machine, exchanges_unstarted run unstarted, List.map_nil]

/-- A process whose program runs within a bound never exceeds it. -/
theorem run_within {bound index : Nat} {entry : Entry} {program : Program Op Reply X}
    (empty : start.processes = []) (bounded : (machine.body entry).Within bound)
    (run : Run machine.step start past pool) (present : pool.processes[index]? = some ⟨entry, program⟩) :
    Exists fun left => program.Within left ∧ left + (performedBy index past).length = bound := by
  rw [performedBy_eq machine, List.length_map]
  refine run_exchanged (fun other done program => other = entry -> Exists fun left =>
    program.Within left ∧ left + done.length = bound) empty ?_ ?_ run present rfl
  · rintro other rfl
    exact ⟨bound, bounded, rfl⟩
  · intro other done op next reply held same
    rcases held same with ⟨left, ⟨rest, rfl, within⟩, total⟩
    refine ⟨rest, within reply, ?_⟩
    rw [List.length_cons]
    omega

end Performed

end Foundation
end Shardman
