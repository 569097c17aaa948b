import Mathlib.Logic.Basic

namespace Shardman
namespace Fsm

/-!
# The shard state machine

A data shard waits in the standby pool, serves a bucket as its active shard,
may drain, is sealed, is cleaned and returns to the pool.  The table of allowed
transitions guards manual state changes; the store's own transactions write
states directly.
-/

inductive State
  | standby
  | active
  | draining
  | sealed
  | cleaning
deriving DecidableEq, Repr

def State.text : State -> String
  | .standby => "standby"
  | .active => "active"
  | .draining => "draining"
  | .sealed => "sealed"
  | .cleaning => "cleaning"

inductive Role
  | data
  | error
deriving DecidableEq, Repr

def Role.text : Role -> String
  | .data => "data"
  | .error => "error"

/-- The table of transitions of data shards. -/
def dataTransitions : State -> List State
  | .standby => [.active]
  | .active => [.draining, .sealed]
  | .draining => [.sealed]
  | .sealed => [.cleaning]
  | .cleaning => [.standby]

def canTransition (role : Role) (source target : State) : Bool :=
  match role with
  | .error =>
      source == target || (source == .standby && target == .active) || target == .active
  | .data => (dataTransitions source).contains target

/-- A data shard becomes active from standby only. -/
theorem standby_of_activation {source : State} (allowed : canTransition .data source .active = true) :
    source = .standby := by
  revert allowed
  cases source <;> decide

/-- A data shard starts to drain from active only. -/
theorem active_of_drain {source : State} (allowed : canTransition .data source .draining = true) :
    source = .active := by
  revert allowed
  cases source <;> decide

/-- A shard may only be added as standby; the empty text stands for it. -/
def startupStateAllowed (state : String) : Bool :=
  state == "" || state == State.standby.text

end Fsm
end Shardman
