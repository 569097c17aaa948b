import Shardman.Foundation.Interleaving
import Mathlib.Logic.Function.Basic

namespace Shardman
namespace Foundation

/-!
# Pools in two layers

The programs of a service use the operations of a store next to operations of
the service itself.  If the latter leave the store alone, the service is a
layer over a pool that knows only the store: where a program of the service
does what a program of the lower pool does, and apart from that only reads, a
run of the service is a run of the lower pool with pauses.  What holds of all
runs below then holds of the service, and the value that a program of the
service has returned is known from the value of the program below it.

An entry of the service need not have a counterpart.  A request that is refused
starts nothing below.
-/

variable {Op Own : Type} {Reply : Op -> Type} {OwnReply : Own -> Type}
variable {X Y Z State Node Entry Task Tick Signal : Type}

/-- Replies in two layers. -/
abbrev BothReply (Reply : Op -> Type) (OwnReply : Own -> Type) : Op ⊕ Own -> Type
  | .inl op => Reply op
  | .inr op => OwnReply op

/-- A program of the upper layer. -/
abbrev Layered (Reply : Op -> Type) (OwnReply : Own -> Type) (X : Type) :=
  Program (Op ⊕ Own) (BothReply Reply OwnReply) X

namespace Program

/-- A program of the lower layer in the upper one. -/
def lift (OwnReply : Own -> Type) : Program Op Reply X -> Layered Reply OwnReply X
  | finish value => finish value
  | request op next => request (.inl op) fun reply => (next reply).lift OwnReply

/-- The upper program performs the operations of the lower one in their order.
What it performs besides does not change the store, and it returns a value that
agrees with the one below. -/
inductive Implements (perform : (op : Op) -> State -> Reply op × State) (agrees : Y -> X -> Prop) :
    Layered Reply OwnReply Y -> Program Op Reply X -> Prop
  | finish {value : Y} {result : X} (same : agrees value result) :
      Implements perform agrees (.finish value) (.finish result)
  | shared {op : Op} {next : Reply op -> Layered Reply OwnReply Y} {following : Reply op -> Program Op Reply X}
      (rest : forall reply, Implements perform agrees (next reply) (following reply)) :
      Implements perform agrees (.request (.inl op) next) (.request op following)
  | reads {op : Op} {next : Reply op -> Layered Reply OwnReply Y} {program : Program Op Reply X}
      (unchanged : forall state, (perform op state).2 = state)
      (rest : forall reply, Implements perform agrees (next reply) program) :
      Implements perform agrees (.request (.inl op) next) program
  | own {op : Own} {next : OwnReply op -> Layered Reply OwnReply Y} {program : Program Op Reply X}
      (rest : forall reply, Implements perform agrees (next reply) program) :
      Implements perform agrees (.request (.inr op) next) program

/-- The upper program does not change the store. -/
def ReadsOnly (perform : (op : Op) -> State -> Reply op × State) (program : Layered Reply OwnReply Y) : Prop :=
  program.Implements perform (fun _ (_ : Unit) => True) (.finish ())

section Implements

variable {perform : (op : Op) -> State -> Reply op × State} {agrees : Y -> X -> Prop}

theorem implements_lift (program : Program Op Reply X) :
    (program.lift OwnReply).Implements perform Eq program := by
  induction program with
  | finish value => exact .finish rfl
  | request op next inductionHypothesis => exact .shared inductionHypothesis

theorem Implements.bind {Y' X' : Type} {upper : Layered Reply OwnReply Y} {lower : Program Op Reply X}
    {next : Y -> Layered Reply OwnReply Y'} {following : X -> Program Op Reply X'} {agrees' : Y' -> X' -> Prop}
    (first : upper.Implements perform agrees lower)
    (rest : forall value result, agrees value result -> (next value).Implements perform agrees' (following result)) :
    (upper >>= next).Implements perform agrees' (lower >>= following) := by
  induction first with
  | finish same => exact rest _ _ same
  | shared _ inductionHypothesis => exact .shared inductionHypothesis
  | reads unchanged _ inductionHypothesis => exact .reads unchanged inductionHypothesis
  | own _ inductionHypothesis => exact .own inductionHypothesis

/-- A program that has returned has done all that the program below does. -/
theorem Implements.finished {value : Y} {lower : Program Op Reply X}
    (implements : (.finish value : Layered Reply OwnReply Y).Implements perform agrees lower) :
    Exists fun result => lower = .finish result ∧ agrees value result := by
  cases implements with
  | finish same => exact ⟨_, rfl, same⟩

/-- An operation of the store is one of the program below, or it changes nothing. -/
theorem Implements.request {op : Op} {next : Reply op -> Layered Reply OwnReply Y} {lower : Program Op Reply X}
    (implements : (.request (.inl op) next : Layered Reply OwnReply Y).Implements perform agrees lower) :
    (Exists fun following => lower = .request op following ∧
      forall reply, (next reply).Implements perform agrees (following reply)) ∨
    ((forall state, (perform op state).2 = state) ∧
      forall reply, (next reply).Implements perform agrees lower) := by
  cases implements with
  | shared rest => exact Or.inl ⟨_, rfl, rest⟩
  | reads unchanged rest => exact Or.inr ⟨unchanged, rest⟩

theorem Implements.service {op : Own} {next : OwnReply op -> Layered Reply OwnReply Y} {lower : Program Op Reply X}
    (implements : (.request (.inr op) next : Layered Reply OwnReply Y).Implements perform agrees lower) :
    forall reply, (next reply).Implements perform agrees lower := by
  cases implements with
  | own rest => exact rest

theorem ReadsOnly.request {op : Op} {next : Reply op -> Layered Reply OwnReply Y}
    (reads : (.request (.inl op) next : Layered Reply OwnReply Y).ReadsOnly perform) :
    (forall state, (perform op state).2 = state) ∧ forall reply, (next reply).ReadsOnly perform := by
  rcases Implements.request reads with ⟨following, impossible, _⟩ | rest
  · cases impossible
  · exact rest

end Implements

end Program

/-- A machine as a layer over another one: a view of the store, and for every
task the entry below that it carries out, if there is one. -/
structure Layer (lower : Machine Op Reply X State Entry Tick)
    (upper : Machine (Op ⊕ Own) (BothReply Reply OwnReply) Y Node Task Signal) where
  view : Node -> State
  entry : Task -> Option Entry
  agrees : Task -> Y -> X -> Prop
  shared_reply : forall op node, (upper.perform (.inl op) node).1 = (lower.perform op (view node)).1
  shared_view : forall op node, view (upper.perform (.inl op) node).2 = (lower.perform op (view node)).2
  own_view : forall op node, view (upper.perform (.inr op) node).2 = view node
  signal_view : forall signal node, view (upper.elapse signal node) = view node ∨
    Exists fun tick => view (upper.elapse signal node) = lower.elapse tick (view node)
  carried : forall task call, entry task = some call ->
    (upper.body task).Implements lower.perform (agrees task) (lower.body call)
  idle : forall task, entry task = none -> (upper.body task).ReadsOnly lower.perform

namespace Layer

variable {lower : Machine Op Reply X State Entry Tick}
variable {upper : Machine (Op ⊕ Own) (BothReply Reply OwnReply) Y Node Task Signal}
variable (layer : Layer lower upper)

/-- What stands below a process: the process at some place that it carries out,
or nothing. -/
def Below (below : Pool Op Reply X State Entry) (place : Option Nat)
    (process : Process (Op ⊕ Own) (BothReply Reply OwnReply) Y Task) : Prop :=
  match layer.entry process.entry with
  | some call => Exists fun position => Exists fun program => place = some position ∧
      below.processes[position]? = some ⟨call, program⟩ ∧
      process.program.Implements lower.perform (layer.agrees process.entry) program
  | none => process.program.ReadsOnly lower.perform

/-- The two pools belong together: they have the same store, and different
processes above stand over different ones below. -/
structure Links (pool : Pool (Op ⊕ Own) (BothReply Reply OwnReply) Y Node Task)
    (below : Pool Op Reply X State Entry) (place : Nat -> Option Nat) : Prop where
  store : below.store = layer.view pool.store
  bounded : forall index position, place index = some position -> position < below.processes.length
  apart : forall first second position, place first = some position -> place second = some position -> first = second
  processes : forall index process, pool.processes[index]? = some process ->
    layer.Below below (place index) process

variable {layer} {pool after : Pool (Op ⊕ Own) (BothReply Reply OwnReply) Y Node Task}
variable {below : Pool Op Reply X State Entry} {place : Nat -> Option Nat}

/-- A process stays where it is when others are added below. -/
theorem Below.append {position : Option Nat} {process : Process (Op ⊕ Own) (BothReply Reply OwnReply) Y Task}
    (stands : layer.Below below position process) (store : State) (more : List (Process Op Reply X Entry)) :
    layer.Below ⟨store, below.processes ++ more⟩ position process := by
  unfold Below at stands ⊢
  cases known : layer.entry process.entry with
  | none =>
      rw [known] at stands
      exact stands
  | some call =>
      rw [known] at stands
      rcases stands with ⟨position, program, placed, found, implements⟩
      refine ⟨position, program, placed, ?_, implements⟩
      rw [List.getElem?_append_left (List.getElem?_eq_some_iff.mp found).1]
      exact found

/-- A process stays where it is when another one is resumed below. -/
theorem Below.set {position : Option Nat} {process : Process (Op ⊕ Own) (BothReply Reply OwnReply) Y Task}
    (stands : layer.Below below position process) (store : State) {other : Nat} (apart : position ≠ some other)
    (changed : Process Op Reply X Entry) : layer.Below ⟨store, below.processes.set other changed⟩ position process := by
  unfold Below at stands ⊢
  cases known : layer.entry process.entry with
  | none =>
      rw [known] at stands
      exact stands
  | some call =>
      rw [known] at stands
      rcases stands with ⟨position, program, placed, found, implements⟩
      refine ⟨position, program, placed, ?_, implements⟩
      have different : other ≠ position := fun same => apart (placed.trans (congrArg some same.symm))
      rw [List.getElem?_set_ne different]
      exact found

/-- The store below may change together with the one above. -/
theorem Links.restore (links : layer.Links pool below place) {node : Node} {store : State}
    (same : store = layer.view node) : layer.Links ⟨node, pool.processes⟩ ⟨store, below.processes⟩ place where
  store := same
  bounded := links.bounded
  apart := links.apart
  processes index process found := by
    have stands := (links.processes index process found).append store []
    rwa [List.append_nil] at stands

/-- A start of a task is a start of its entry. -/
theorem Links.start (links : layer.Links pool below place) (task : Task) :
    Exists fun belowAfter => Exists fun placeAfter =>
      layer.Links ⟨pool.store, pool.processes ++ [⟨task, upper.body task⟩]⟩ belowAfter placeAfter ∧
      (belowAfter = below ∨ Exists fun call => layer.entry task = some call ∧
        lower.step below (.start call) = some belowAfter) := by
  have inside : forall index process, (pool.processes ++ [⟨task, upper.body task⟩])[index]? = some process ->
      pool.processes[index]? = some process ∨ index = pool.processes.length ∧ process = ⟨task, upper.body task⟩ := by
    intro index process found
    rcases Nat.lt_or_ge index pool.processes.length with earlier | later
    · rw [List.getElem?_append_left earlier] at found
      exact Or.inl found
    · rw [List.getElem?_append_right later] at found
      have position : index - pool.processes.length < 1 := (List.getElem?_eq_some_iff.mp found).1
      exact Or.inr ⟨by omega, List.mem_singleton.mp (List.mem_of_getElem? found)⟩
  cases known : layer.entry task with
  | none =>
      refine ⟨below, place, ⟨links.store, links.bounded, links.apart, ?_⟩, Or.inl rfl⟩
      intro index process found
      rcases inside index process found with earlier | ⟨rfl, rfl⟩
      · exact links.processes index process earlier
      · unfold Below
        rw [known]
        exact layer.idle task known
  | some call =>
      refine ⟨⟨below.store, below.processes ++ [⟨call, lower.body call⟩]⟩,
        Function.update place pool.processes.length (some below.processes.length), ⟨links.store, ?_, ?_, ?_⟩,
        Or.inr ⟨call, rfl, rfl⟩⟩
      · intro index position placed
        rw [List.length_append, List.length_singleton]
        by_cases fresh : index = pool.processes.length
        · subst fresh
          rw [Function.update_self] at placed
          cases placed
          exact Nat.lt_succ_self _
        · rw [Function.update_of_ne fresh] at placed
          exact Nat.lt_succ_of_lt (links.bounded index position placed)
      · intro first second position
        by_cases firstFresh : first = pool.processes.length <;> by_cases secondFresh : second = pool.processes.length
        · intro _ _
          rw [firstFresh, secondFresh]
        · subst firstFresh
          rw [Function.update_self, Function.update_of_ne secondFresh]
          intro placed other
          cases placed
          exact absurd (links.bounded second _ other) (Nat.lt_irrefl _)
        · subst secondFresh
          rw [Function.update_self, Function.update_of_ne firstFresh]
          intro other placed
          cases placed
          exact absurd (links.bounded first _ other) (Nat.lt_irrefl _)
        · rw [Function.update_of_ne firstFresh, Function.update_of_ne secondFresh]
          exact links.apart first second position
      · intro index process found
        rcases inside index process found with earlier | ⟨rfl, rfl⟩
        · have present : index < pool.processes.length := (List.getElem?_eq_some_iff.mp earlier).1
          rw [Function.update_of_ne (Nat.ne_of_lt present)]
          exact (links.processes index process earlier).append below.store _
        · unfold Below
          simp only [known, Function.update_self]
          exact ⟨_, _, rfl, List.getElem?_concat_length, layer.carried task call known⟩

/-- A process goes on with an operation of its own over the same process below. -/
theorem Below.own {position : Option Nat} {task : Task} {op : Own} {next : OwnReply op -> Layered Reply OwnReply Y}
    (stands : layer.Below below position ⟨task, .request (.inr op) next⟩) (reply : OwnReply op) :
    layer.Below below position ⟨task, next reply⟩ := by
  unfold Below at stands ⊢
  cases known : layer.entry task with
  | none =>
      simp only [known] at stands ⊢
      exact Program.Implements.service stands reply
  | some call =>
      simp only [known] at stands ⊢
      rcases stands with ⟨place, program, placed, found, implements⟩
      exact ⟨place, program, placed, found, implements.service reply⟩

/-- An operation of the store is one of the process below, or nothing is seen of
it there. -/
theorem Below.shared {position : Option Nat} {task : Task} {op : Op} {next : Reply op -> Layered Reply OwnReply Y}
    (stands : layer.Below below position ⟨task, .request (.inl op) next⟩) :
    ((forall state, (lower.perform op state).2 = state) ∧
      forall reply, layer.Below below position ⟨task, next reply⟩) ∨
    (Exists fun call => Exists fun place => Exists fun following => layer.entry task = some call ∧
      position = some place ∧ below.processes[place]? = some ⟨call, .request op following⟩ ∧
      forall reply, (next reply).Implements lower.perform (layer.agrees task) (following reply)) := by
  unfold Below at stands
  cases known : layer.entry task with
  | none =>
      simp only [known] at stands
      rcases Program.ReadsOnly.request stands with ⟨unchanged, rest⟩
      refine Or.inl ⟨unchanged, fun reply => ?_⟩
      unfold Below
      simp only [known]
      exact rest reply
  | some call =>
      simp only [known] at stands
      rcases stands with ⟨place, program, placed, found, implements⟩
      rcases implements.request with ⟨following, rfl, rest⟩ | ⟨unchanged, rest⟩
      · exact Or.inr ⟨call, place, following, rfl, placed, found, rest⟩
      · refine Or.inl ⟨unchanged, fun reply => ?_⟩
        unfold Below
        simp only [known]
        exact ⟨place, program, placed, found, rest reply⟩

/-- A process above takes a step of which nothing is seen below. -/
theorem Links.pause (links : layer.Links pool below place) {index : Nat} {task : Task} {node : Node}
    {program resumed : Layered Reply OwnReply Y} (found : pool.processes[index]? = some ⟨task, program⟩)
    (unseen : layer.view node = layer.view pool.store)
    (stands : layer.Below below (place index) ⟨task, resumed⟩) :
    layer.Links ⟨node, pool.processes.set index ⟨task, resumed⟩⟩ below place where
  store := links.store.trans unseen.symm
  bounded := links.bounded
  apart := links.apart
  processes other process present := by
    by_cases same : index = other
    · subst same
      rw [List.getElem?_set_self (List.getElem?_eq_some_iff.mp found).1, Option.some_inj] at present
      subst present
      exact stands
    · rw [List.getElem?_set_ne same] at present
      exact links.processes other process present

/-- A process above and the one below it perform the same operation. -/
theorem Links.advance (links : layer.Links pool below place) {index position : Nat} {task : Task} {call : Entry}
    {program resumed : Layered Reply OwnReply Y} {rest : Program Op Reply X} {node : Node} {store : State}
    (found : pool.processes[index]? = some ⟨task, program⟩) (known : layer.entry task = some call)
    (placed : place index = some position) (implements : resumed.Implements lower.perform (layer.agrees task) rest)
    (same : store = layer.view node) :
    layer.Links ⟨node, pool.processes.set index ⟨task, resumed⟩⟩
      ⟨store, below.processes.set position ⟨call, rest⟩⟩ place where
  store := same
  bounded other position held := by
    rw [List.length_set]
    exact links.bounded other position held
  apart := links.apart
  processes other process present := by
    by_cases equal : index = other
    · subst equal
      rw [List.getElem?_set_self (List.getElem?_eq_some_iff.mp found).1, Option.some_inj] at present
      subst present
      unfold Below
      simp only [known]
      exact ⟨position, rest, placed, List.getElem?_set_self (links.bounded index position placed), implements⟩
    · rw [List.getElem?_set_ne equal] at present
      refine (links.processes other process present).set store ?_ _
      intro clash
      exact equal (links.apart index other position placed clash)

/-- Every step above is a step below, or nothing is seen of it there. -/
theorem Links.step (links : layer.Links pool below place) {action : PoolAction Task Signal}
    (taken : upper.step pool action = some after) :
    Exists fun belowAfter => Exists fun placeAfter => layer.Links after belowAfter placeAfter ∧
      (belowAfter = below ∨ Exists fun act => lower.step below act = some belowAfter ∧
        forall call, act = .start call -> Exists fun task => action = .start task ∧ layer.entry task = some call) := by
  rcases step_cases taken with ⟨task, rfl, rfl⟩ | ⟨signal, rfl, rfl⟩ |
    ⟨index, task, op, next, rfl, found, issued, rfl⟩
  · rcases links.start task with ⟨belowAfter, placeAfter, linked, same | ⟨call, known, started⟩⟩
    · exact ⟨belowAfter, placeAfter, linked, Or.inl same⟩
    · refine ⟨belowAfter, placeAfter, linked, Or.inr ⟨_, started, ?_⟩⟩
      intro other same
      cases same
      exact ⟨task, rfl, known⟩
  · rcases layer.signal_view signal pool.store with unseen | ⟨tick, seen⟩
    · exact ⟨below, place, links.restore (links.store.trans unseen.symm), Or.inl rfl⟩
    · refine ⟨⟨lower.elapse tick below.store, below.processes⟩, place, links.restore ?_,
        Or.inr ⟨.elapse tick, rfl, nofun⟩⟩
      rw [links.store, seen]
  · have stands := links.processes index _ found
    cases op with
    | inr op => exact ⟨below, place, links.pause found (layer.own_view op pool.store) (stands.own _), Or.inl rfl⟩
    | inl op =>
        rcases stands.shared with ⟨unchanged, rest⟩ | ⟨call, position, following, known, placed, present, rest⟩
        · refine ⟨below, place, links.pause found ?_ (rest _), Or.inl rfl⟩
          rw [layer.shared_view, unchanged]
        · have reply := layer.shared_reply op pool.store
          rw [← links.store] at reply
          refine ⟨⟨(lower.perform op below.store).2, _⟩, place, links.advance found known placed (rest _) ?_,
            Or.inr ⟨.resume position, ?_, nofun⟩⟩
          · rw [layer.shared_view, links.store]
          · simp only [Machine.step, present, reply]

/-- A run above with the run below that it carries out. -/
structure Carried (layer : Layer lower upper) (node : Node)
    (past : List (Event (Pool (Op ⊕ Own) (BothReply Reply OwnReply) Y Node Task) (PoolAction Task Signal)))
    (pool : Pool (Op ⊕ Own) (BothReply Reply OwnReply) Y Node Task)
    (pastBelow : List (Event (Pool Op Reply X State Entry) (PoolAction Entry Tick)))
    (below : Pool Op Reply X State Entry) : Prop where
  run : Run lower.step ⟨layer.view node, []⟩ pastBelow below
  links : Exists fun place => layer.Links pool below place
  starts : forall event, event ∈ pastBelow -> forall call, event.action = .start call ->
    Exists fun task => layer.entry task = some call ∧ Exists fun source => source ∈ past ∧ source.action = .start task

/-- Every run above carries out a run below. -/
theorem run_carried (layer : Layer lower upper) {node : Node}
    {past : List (Event (Pool (Op ⊕ Own) (BothReply Reply OwnReply) Y Node Task) (PoolAction Task Signal))}
    (run : Run upper.step ⟨node, []⟩ past pool) :
    Exists fun pastBelow => Exists fun below => layer.Carried node past pool pastBelow below := by
  induction run with
  | start =>
      refine ⟨[], ⟨layer.view node, []⟩, .start, ⟨fun _ => none, rfl, nofun, nofun, ?_⟩, ?_⟩
      · intro index process absent
        cases absent
      · intro event absent
        cases absent
  | @next past pool after action earlier taken inductionHypothesis =>
      rcases inductionHypothesis with ⟨pastBelow, below, run, ⟨place, links⟩, starts⟩
      have older : forall event, event ∈ pastBelow -> forall call, event.action = .start call ->
          Exists fun task => layer.entry task = some call ∧
            Exists fun source => source ∈ (⟨pool, action⟩ : Event _ _) :: past ∧ source.action = .start task := by
        intro event member call started
        rcases starts event member call started with ⟨task, known, source, listed, action⟩
        exact ⟨task, known, source, List.mem_cons_of_mem _ listed, action⟩
      rcases links.step taken with ⟨belowAfter, placeAfter, linked, rfl | ⟨act, stepped, started⟩⟩
      · exact ⟨pastBelow, belowAfter, run, ⟨placeAfter, linked⟩, older⟩
      · refine ⟨⟨below, act⟩ :: pastBelow, belowAfter, run.next stepped, ⟨placeAfter, linked⟩, ?_⟩
        intro event member call isStart
        rcases List.mem_cons.mp member with rfl | listed
        · rcases started call isStart with ⟨task, same, known⟩
          exact ⟨task, known, _, List.mem_cons_self, same⟩
        · exact older event listed call isStart

/-- The process below one that has returned has returned a value that agrees. -/
theorem Links.returned (links : layer.Links pool below place) {index : Nat} {task : Task} {value : Y} {call : Entry}
    (found : pool.processes[index]? = some ⟨task, .finish value⟩) (known : layer.entry task = some call) :
    Exists fun position => Exists fun result => place index = some position ∧
      below.processes[position]? = some ⟨call, .finish result⟩ ∧ layer.agrees task value result := by
  have stands := links.processes index _ found
  unfold Below at stands
  simp only [known] at stands
  rcases stands with ⟨position, program, placed, present, implements⟩
  rcases implements.finished with ⟨result, rfl, agrees⟩
  exact ⟨position, result, placed, present, agrees⟩

end Layer

end Foundation
end Shardman
