import Mathlib.Logic.Basic

namespace Shardman
namespace Foundation

/-!
# Sequential programs over atomic operations

A service call issues a sequence of database operations, each of which is
atomic while the gaps between them are not.  `Program` records exactly that
structure: a program has either finished with a value, or it waits for the
reply to one operation and continues from it.  The same program text has two
readings.  `Program.run` executes it without interruption, and the pools of
`Shardman.Foundation.Interleaving` resume many programs in any order.

Three structural judgements are read off a program without running it.
`Program.Within` bounds the number of operations whatever the replies are.
`Program.Answers` speaks of returned values: as long as the shared state keeps
a property, the program changes nothing and returns what is claimed.
`Program.Follows` relates what a program issues and returns to the replies it
was given before.
-/

/-- A program that has finished, or that waits for the reply to one atomic
operation. -/
inductive Program (Op : Type) (Reply : Op -> Type) (X : Type) : Type
  | finish (value : X)
  | request (op : Op) (next : Reply op -> Program Op Reply X)

namespace Program

variable {Op : Type} {Reply : Op -> Type} {X Y Z State : Type}

/-- Sequential composition runs the continuation at the leaves. -/
def bind (program : Program Op Reply X) (next : X -> Program Op Reply Y) : Program Op Reply Y :=
  match program with
  | finish value => next value
  | request op rest => request op (fun reply => (rest reply).bind next)

/-- Issue one operation and return its reply. -/
def ask (op : Op) : Program Op Reply (Reply op) :=
  request op finish

instance : Monad (Program Op Reply) where
  pure := finish
  bind := bind

@[simp] theorem pure_eq_finish (value : X) :
    (pure value : Program Op Reply X) = finish value := rfl

@[simp] theorem finish_bind (value : X) (next : X -> Program Op Reply Y) :
    (finish value >>= next) = next value := rfl

@[simp] theorem request_bind (op : Op) (rest : Reply op -> Program Op Reply X)
    (next : X -> Program Op Reply Y) :
    (request op rest >>= next) = request op (fun reply => rest reply >>= next) := rfl

@[simp] theorem ask_bind (op : Op) (next : Reply op -> Program Op Reply Y) :
    (ask op >>= next) = request op next := rfl

/-! ## Uninterrupted execution -/

/-- Execute a program with no other operation between its own. -/
def run (perform : (op : Op) -> State -> Reply op × State) :
    Program Op Reply X -> State -> X × State
  | finish value, state => (value, state)
  | request op next, state =>
      run perform (next (perform op state).1) (perform op state).2

variable (perform : (op : Op) -> State -> Reply op × State)

@[simp] theorem run_finish (value : X) (state : State) :
    run perform (finish value) state = (value, state) := rfl

@[simp] theorem run_request (op : Op) (next : Reply op -> Program Op Reply X) (state : State) :
    run perform (request op next) state =
      run perform (next (perform op state).1) (perform op state).2 := rfl

@[simp] theorem run_ask (op : Op) (state : State) :
    run perform (ask op) state = perform op state := rfl

theorem run_bind (program : Program Op Reply X) (next : X -> Program Op Reply Y)
    (state : State) :
    run perform (program >>= next) state =
      run perform (next (run perform program state).1) (run perform program state).2 := by
  induction program generalizing state with
  | finish value => rfl
  | request op rest inductionHypothesis =>
      exact inductionHypothesis (perform op state).1 (perform op state).2

/-! ## How long a program runs -/

/-- The program issues at most so many operations, whatever replies it
receives. -/
def Within : Program Op Reply X -> Nat -> Prop
  | finish _, _ => True
  | request _ next, bound =>
      Exists fun rest => bound = rest + 1 ∧ forall reply, (next reply).Within rest

theorem Within.ask {op : Op} {next : Reply op -> Program Op Reply X} {bound : Nat}
    (rest : forall reply, (next reply).Within bound) :
    (Program.ask op >>= next).Within (bound + 1) :=
  ⟨bound, rfl, rest⟩

theorem Within.mono {program : Program Op Reply X} {bound larger : Nat} (within : program.Within bound)
    (wider : bound <= larger) : program.Within larger := by
  induction program generalizing bound larger with
  | finish value => trivial
  | request op next inductionHypothesis =>
      rcases within with ⟨rest, rfl, following⟩
      rcases Nat.exists_eq_add_of_le wider with ⟨more, rfl⟩
      refine ⟨rest + more, by omega, fun reply => ?_⟩
      exact inductionHypothesis reply (following reply) (Nat.le_add_right rest more)

theorem Within.bind {program : Program Op Reply X} {next : X -> Program Op Reply Y} {first second : Nat}
    (within : program.Within first) (rest : forall value, (next value).Within second) :
    (program >>= next).Within (first + second) := by
  induction program generalizing first with
  | finish value => exact (rest value).mono (Nat.le_add_left second first)
  | request op following inductionHypothesis =>
      rcases within with ⟨left, rfl, within⟩
      refine ⟨left + second, by omega, fun reply => ?_⟩
      exact inductionHypothesis reply (within reply)

/-! ## Values returned while the shared state keeps a property -/

/-- While the shared state has the property `during`, every operation the
program issues leaves it alone, and the program returns a value of the claim. -/
def Answers (during : State -> Prop) (claim : X -> Prop) : Program Op Reply X -> Prop
  | finish value => claim value
  | request op next =>
      forall state, during state ->
        (perform op state).2 = state ∧ Answers during claim (next (perform op state).1)

variable {perform} in
theorem Answers.request {during : State -> Prop} {claim : X -> Prop} {op : Op}
    {next : Reply op -> Program Op Reply X} (unchanged : forall state, (perform op state).2 = state)
    (rest : forall state, during state -> (next (perform op state).1).Answers perform during claim) :
    (request op next).Answers perform during claim :=
  fun state holds => ⟨unchanged state, rest state holds⟩

/-! ## What a program does with its replies -/

/-- Every operation the program issues, and every value it returns, is justified
by the operations it has issued before and the replies to them, newest first. -/
def Follows (issues : List (Sigma Reply) -> Op -> Prop) (returns : List (Sigma Reply) -> X -> Prop) :
    List (Sigma Reply) -> Program Op Reply X -> Prop
  | done, finish value => returns done value
  | done, request op next =>
      issues done op ∧ forall reply, Follows issues returns (⟨op, reply⟩ :: done) (next reply)

section Follows

variable {issues : List (Sigma Reply) -> Op -> Prop} {returns : List (Sigma Reply) -> X -> Prop}
variable {done : List (Sigma Reply)}

theorem Follows.finish {value : X} (justified : returns done value) :
    (Program.finish value).Follows issues returns done := justified

theorem Follows.ask {op : Op} {next : Reply op -> Program Op Reply X} (issued : issues done op)
    (rest : forall reply, (next reply).Follows issues returns (⟨op, reply⟩ :: done)) :
    (Program.ask op >>= next).Follows issues returns done :=
  ⟨issued, rest⟩

/-- The continuation must be justified after everything that the first program
has done, and nothing of what was done before is lost. -/
theorem Follows.bind {program : Program Op Reply Y} {next : Y -> Program Op Reply X}
    {between : List (Sigma Reply) -> Y -> Prop} (follows : program.Follows issues between done)
    (rest : forall after value, done <:+ after -> between after value ->
      (next value).Follows issues returns after) :
    (program >>= next).Follows issues returns done := by
  induction program generalizing done with
  | finish value => exact rest done value (List.suffix_refl done) follows
  | request op following inductionHypothesis =>
      refine ⟨follows.1, fun reply => inductionHypothesis reply (follows.2 reply) ?_⟩
      intro after value longer
      exact rest after value ((List.suffix_cons _ done).trans longer)

/-- Every program follows when nothing is asked of it. -/
theorem follows_trivial (program : Program Op Reply X) (done : List (Sigma Reply)) :
    program.Follows (fun _ _ => True) (fun _ _ => True) done := by
  induction program generalizing done with
  | finish value => exact .finish trivial
  | request op next inductionHypothesis => exact ⟨trivial, fun reply => inductionHypothesis reply _⟩

end Follows

end Program

end Foundation
end Shardman
