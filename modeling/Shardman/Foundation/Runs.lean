import Mathlib.Data.List.Basic

namespace Shardman
namespace Foundation

/-!
# Finite runs of a labelled transition function

A run keeps every state it has left, together with the action taken there,
newest first.  Conditions on the steps of a run and properties of its history
are therefore ordinary statements about one list.  The transition function is
partial: an action that is not enabled in a state does not occur there.
-/

/-- One step of a run, seen from the state in which it was taken. -/
structure Event (State Action : Type) where
  state : State
  action : Action

variable {State Action : Type} {step : State -> Action -> Option State}

/-- A run from `start`, with its past events newest first. -/
inductive Run (step : State -> Action -> Option State) (start : State) :
    List (Event State Action) -> State -> Prop
  | start : Run step start [] start
  | next {past : List (Event State Action)} {state after : State} {action : Action} :
      Run step start past state -> step state action = some after ->
      Run step start (⟨state, action⟩ :: past) after

namespace Run

variable {start state : State} {past : List (Event State Action)}

/-- An invariant of the whole history of a run, with the steps restricted to
those that `allowed` admits in the state where they are taken. -/
theorem history (holds : List (Event State Action) -> State -> Prop)
    (allowed : State -> Action -> Prop) (initial : holds [] start)
    (preserved : forall past state action after, Run step start past state ->
      holds past state -> allowed state action -> step state action = some after ->
      holds (⟨state, action⟩ :: past) after)
    (run : Run step start past state)
    (admitted : forall event, event ∈ past -> allowed event.state event.action) :
    holds past state := by
  induction run with
  | start => exact initial
  | next earlier taken inductionHypothesis =>
      refine preserved _ _ _ _ earlier (inductionHypothesis ?_) (admitted _ List.mem_cons_self) taken
      intro event member
      exact admitted event (List.mem_cons_of_mem _ member)

/-- An invariant of the states of a run. -/
theorem invariant (holds : State -> Prop) (allowed : State -> Action -> Prop)
    (initial : holds start)
    (preserved : forall state action after, holds state -> allowed state action ->
      step state action = some after -> holds after)
    (run : Run step start past state)
    (admitted : forall event, event ∈ past -> allowed event.state event.action) :
    holds state :=
  history (fun _ current => holds current) allowed initial
    (fun _ _ _ _ _ held permitted taken => preserved _ _ _ held permitted taken) run admitted

/-- The state of every past event is itself reached by a run, whose past is
the rest of the list. -/
theorem suffix {later earlier : List (Event State Action)} {event : Event State Action}
    (run : Run step start past state) (split : past = later ++ event :: earlier) :
    Run step start earlier event.state := by
  induction run generalizing later with
  | start => cases later <;> cases split
  | next previous taken inductionHypothesis =>
      cases later with
      | nil =>
          cases split
          exact previous
      | cons head rest =>
          cases split
          exact inductionHypothesis rfl

/-- What comes after an event is a run of its own, from the state that the event
leads to. -/
theorem rest {later earlier : List (Event State Action)} {event : Event State Action}
    (run : Run step start past state) (split : past = later ++ event :: earlier) :
    Exists fun after => step event.state event.action = some after ∧ Run step after later state := by
  induction run generalizing later with
  | start => cases later <;> cases split
  | next previous taken inductionHypothesis =>
      cases later with
      | nil =>
          cases split
          exact ⟨_, taken, .start⟩
      | cons head tail =>
          cases split
          rcases inductionHypothesis rfl with ⟨after, stepped, following⟩
          exact ⟨after, stepped, following.next taken⟩

/-- An event at which the past is split belongs to it. -/
theorem mem_of_split {later earlier : List (Event State Action)} {event : Event State Action}
    (split : past = later ++ event :: earlier) : event ∈ past := by
  rw [split]
  exact List.mem_append_right _ List.mem_cons_self

/-- So does everything before that event. -/
theorem mem_of_earlier {later earlier : List (Event State Action)} {event older : Event State Action}
    (split : past = later ++ event :: earlier) (member : older ∈ earlier) : older ∈ past := by
  rw [split]
  exact List.mem_append_right _ (List.mem_cons_of_mem _ member)

/-! ### Properties of all visited states -/

/-- A property of every state of a run, the last one included. -/
def Throughout (holds : State -> Prop) (past : List (Event State Action)) (state : State) : Prop :=
  (forall event, event ∈ past -> holds event.state) ∧ holds state

instance (holds : State -> Prop) [DecidablePred holds] (past : List (Event State Action)) (state : State) :
    Decidable (Throughout holds past state) :=
  inferInstanceAs (Decidable (_ ∧ _))

theorem throughout_cons {holds : State -> Prop} {event : Event State Action} :
    Throughout holds (event :: past) state ↔ Throughout holds past event.state ∧ holds state := by
  simp only [Throughout, List.forall_mem_cons, and_comm]

/-- Where no step but a bad one loses the property, and every bad step does
lose it, it holds throughout a run exactly when no step of the run is bad.
Whether a step is bad may depend on the run before it. -/
theorem throughout_iff (holds : State -> Prop) (bad : List (Event State Action) -> Event State Action -> Prop)
    (allowed : State -> Action -> Prop) (initial : holds start)
    (kept : forall earlier state action after, Run step start earlier state -> allowed state action ->
      holds state -> ¬ bad earlier ⟨state, action⟩ -> step state action = some after -> holds after)
    (lost : forall earlier state action after, Run step start earlier state ->
      bad earlier ⟨state, action⟩ -> step state action = some after -> ¬ holds after)
    (run : Run step start past state)
    (admitted : forall event, event ∈ past -> allowed event.state event.action) :
    Throughout holds past state ↔
      forall later event earlier, past = later ++ event :: earlier -> ¬ bad earlier event := by
  induction run with
  | start =>
      refine iff_of_true ⟨fun event absent => absurd absent List.not_mem_nil, initial⟩ ?_
      intro later event earlier split
      cases later <;> cases split
  | @next past state after action previous taken inductionHypothesis =>
      have before := inductionHypothesis fun event member => admitted event (List.mem_cons_of_mem _ member)
      rw [throughout_cons]
      constructor
      · rintro ⟨throughout, last⟩ later event earlier split isBad
        cases later with
        | nil =>
            cases split
            exact lost _ _ _ _ previous isBad taken last
        | cons head rest =>
            cases split
            exact before.mp throughout rest event earlier rfl isBad
      · intro clear
        have throughout := before.mpr fun later event earlier split =>
          clear (⟨state, action⟩ :: later) event earlier (by rw [split, List.cons_append])
        refine ⟨throughout, ?_⟩
        exact kept _ _ _ _ previous (admitted _ List.mem_cons_self) throughout.2
          (clear [] _ past rfl) taken

/-- The form for steps that are bad whatever went before. -/
theorem throughout_iff_mem (holds : State -> Prop) (bad : Event State Action -> Prop)
    (allowed : State -> Action -> Prop) (initial : holds start)
    (kept : forall state action after, allowed state action -> holds state -> ¬ bad ⟨state, action⟩ ->
      step state action = some after -> holds after)
    (lost : forall state action after, bad ⟨state, action⟩ -> step state action = some after -> ¬ holds after)
    (run : Run step start past state)
    (admitted : forall event, event ∈ past -> allowed event.state event.action) :
    Throughout holds past state ↔ forall event, event ∈ past -> ¬ bad event := by
  rw [throughout_iff holds (fun _ => bad) allowed initial
    (fun _ state action after _ => kept state action after)
    (fun _ state action after _ => lost state action after) run admitted]
  constructor
  · intro clear event member
    rcases List.append_of_mem member with ⟨later, earlier, split⟩
    exact clear later event earlier split
  · intro clear later event earlier split
    exact clear event (mem_of_split split)

/-! ### Pairs of visited states -/

/-- The states that a run visits, newest first. -/
def states (past : List (Event State Action)) (state : State) : List State :=
  state :: past.map Event.state

/-- A transitive relation between the states before and after each step of a run
relates any two visited states. -/
theorem reached_related (related : State -> State -> Prop)
    (transitive : forall first second third, related first second -> related second third ->
      related first third)
    (stepped : forall past state action after, Run step start past state -> step state action = some after ->
      related state after)
    (run : Run step start past state) :
    (states past state).Pairwise fun later earlier => related earlier later := by
  induction run with
  | start => exact List.pairwise_singleton _ _
  | @next past state after action previous taken inductionHypothesis =>
      have last : related state after := stepped past state action after previous taken
      refine List.pairwise_cons.mpr ⟨?_, inductionHypothesis⟩
      intro earlier visited
      rcases List.mem_cons.mp visited with rfl | older
      · exact last
      · exact transitive _ _ _ ((List.pairwise_cons.mp inductionHypothesis).1 earlier older) last

theorem states_related (related : State -> State -> Prop)
    (transitive : forall first second third, related first second -> related second third ->
      related first third)
    (stepped : forall state action after, step state action = some after -> related state after)
    (run : Run step start past state) :
    (states past state).Pairwise fun later earlier => related earlier later :=
  reached_related related transitive (fun _ state action after _ => stepped state action after) run

/-- An invariant that speaks of the visited states.  A longer history leaves it
true, so a step has to keep it only for the states before the step. -/
theorem visited (holds : List State -> State -> Prop)
    (mono : forall few more state, few ⊆ more -> holds few state -> holds more state)
    (initial : holds [start] start)
    (preserved : forall past state action after, Run step start past state ->
      holds (states past state) state -> step state action = some after -> holds (states past state) after)
    (run : Run step start past state) : holds (states past state) state := by
  induction run with
  | start => exact initial
  | @next past state after action previous taken inductionHypothesis =>
      have kept := preserved past state action after previous inductionHypothesis taken
      exact mono _ _ after (List.subset_cons_self after (states past state)) kept

end Run

/-! ## Steps that have to wait -/

/-- The steps that a condition admits. -/
def guarded (enabled : State -> Action -> Bool) (step : State -> Action -> Option State) (state : State)
    (action : Action) : Option State :=
  if enabled state action then step state action else none

theorem guarded_some {enabled : State -> Action -> Bool} {state after : State} {action : Action}
    (taken : guarded enabled step state action = some after) :
    enabled state action = true ∧ step state action = some after := by
  unfold guarded at taken
  split at taken
  · rename_i admitted
    exact ⟨admitted, taken⟩
  · cases taken

/-- Runs that wait are runs. -/
theorem Run.unguarded {enabled : State -> Action -> Bool} {start state : State} {past : List (Event State Action)}
    (run : Run (guarded enabled step) start past state) : Run step start past state := by
  induction run with
  | start => exact .start
  | next _ taken inductionHypothesis => exact inductionHypothesis.next (guarded_some taken).2

/-! ## Executing a schedule -/

/-- Take the listed actions one after the other, recording the past. -/
def replay (step : State -> Action -> Option State) :
    List Action -> List (Event State Action) -> State -> Option (List (Event State Action) × State)
  | [], past, state => some (past, state)
  | action :: rest, past, state =>
      match step state action with
      | some after => replay step rest (⟨state, action⟩ :: past) after
      | none => none

theorem replay_run {start state final : State} {past future : List (Event State Action)}
    (actions : List Action) (run : Run step start past state)
    (replayed : replay step actions past state = some (future, final)) :
    Run step start future final := by
  induction actions generalizing past state with
  | nil =>
      cases replayed
      exact run
  | cons action rest inductionHypothesis =>
      cases taken : step state action with
      | none =>
          rw [replay, taken] at replayed
          cases replayed
      | some after =>
          rw [replay, taken] at replayed
          exact inductionHypothesis (.next run taken) replayed

/-- Take the listed actions from `start` and test the history and the state
they lead to. -/
def replayCheck (step : State -> Action -> Option State) (actions : List Action) (start : State)
    (test : List (Event State Action) -> State -> Bool) : Bool :=
  match replay step actions [] start with
  | some (past, final) => test past final
  | none => false

theorem replayCheck_run {start : State} {actions : List Action}
    {test : List (Event State Action) -> State -> Bool}
    (passed : replayCheck step actions start test = true) :
    Exists fun past => Exists fun final => Run step start past final ∧ test past final = true := by
  unfold replayCheck at passed
  split at passed
  · rename_i past final replayed
    exact ⟨past, final, replay_run actions .start replayed, passed⟩
  · cases passed

end Foundation
end Shardman
