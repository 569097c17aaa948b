import Shardman.Foundation.Runs
import Shardman.Store.Operations

namespace Shardman
namespace Store

open Fsm
open Bucket
open Foundation

/-!
# Histories of the store

A history is any sequence of store operations with any arguments, with time
passing between them.  Nothing is assumed about who issues the operations, so
what holds in every history holds under the supervisors, the administrators,
the agents and the clients alike.
-/

/-- One step of a history.  The version that clients watch can also be advanced
by itself. -/
inductive StoreAct
  | perform (op : Op)
  | bumpTopologyVersion
  | elapse (duration : Nat)

def advance (env : Env) (moment : Moment) : StoreAct -> Option Moment
  | .perform op => some (perform env op moment).2
  | .bumpTopologyVersion => some { moment with db := moment.db.bumpTopologyVersion }
  | .elapse duration => some { moment with now := moment.now + duration }

abbrev History := List (Event Moment StoreAct)

def Histories (env : Env) (start : Moment) (past : History) (moment : Moment) : Prop :=
  Run (advance env) start past moment

/-- What a step can make of a row: only operations move rows. -/
def RowStep (now : Time) (row moved : Shard) : StoreAct -> Prop
  | .perform op => Moves now op row moved
  | _ => moved = row

section Rows

variable {env : Env} {moment after : Moment} {act : StoreAct} {row moved : Shard}

theorem RowStep.keys {now : Time} (stepped : RowStep now row moved act) :
    moved.id = row.id ∧ moved.shardUUID = row.shardUUID ∧ moved.role = row.role := by
  cases act with
  | perform op => exact Moves.keys stepped
  | bumpTopologyVersion =>
      cases stepped
      exact ⟨rfl, rfl, rfl⟩
  | elapse duration =>
      cases stepped
      exact ⟨rfl, rfl, rfl⟩

/-- Where a row after a step comes from. -/
theorem advance_row (taken : advance env moment act = some after) (member : row ∈ after.db.shards) :
    (Exists fun source => source ∈ moment.db.shards ∧ RowStep moment.now source row act) ∨
      (Exists fun uuid => Exists fun role => Exists fun dsn => Exists fun advertiseURL =>
        Exists fun startupState => act = .perform (.registerShard uuid role dsn advertiseURL startupState) ∧
          row = registeredShard moment.db.nextID uuid role dsn (nullStr advertiseURL) moment.now) := by
  cases act with
  | perform op =>
      cases taken
      rcases perform_row member with ⟨source, present, moves⟩ |
        ⟨uuid, role, dsn, advertiseURL, startupState, rfl, new, _⟩
      · exact Or.inl ⟨source, present, moves⟩
      · exact Or.inr ⟨uuid, role, dsn, advertiseURL, startupState, rfl, new⟩
  | bumpTopologyVersion =>
      cases taken
      exact Or.inl ⟨row, member, rfl⟩
  | elapse duration =>
      cases taken
      exact Or.inl ⟨row, member, rfl⟩

/-- What becomes of a row in a step. -/
theorem advance_moved (taken : advance env moment act = some after) (member : row ∈ moment.db.shards) :
    Exists fun moved => moved ∈ after.db.shards ∧ RowStep moment.now row moved act := by
  cases act with
  | perform op =>
      cases taken
      exact perform_moved env op member
  | bumpTopologyVersion =>
      cases taken
      exact ⟨row, member, rfl⟩
  | elapse duration =>
      cases taken
      exact ⟨row, member, rfl⟩

/-- A property of single rows holds throughout a history when the steps of the
history preserve it and registered rows have it. -/
theorem rows_preserved (holds : Shard -> Prop) (allowed : StoreAct -> Prop)
    (registered : forall id uuid role dsn advertiseURL now,
      holds (registeredShard id uuid role dsn advertiseURL now))
    (kept : forall now row moved act, allowed act -> RowStep now row moved act -> holds row -> holds moved)
    {start : Moment} (initial : forall row, row ∈ start.db.shards -> holds row) {past : History}
    (run : Histories env start past moment) (admitted : forall event, event ∈ past -> allowed event.action) :
    forall row, row ∈ moment.db.shards -> holds row := by
  apply Run.invariant (fun moment : Moment => forall row, row ∈ moment.db.shards -> holds row)
    (fun _ act => allowed act) initial ?_ run admitted
  intro moment act after held permitted taken row member
  rcases advance_row taken member with ⟨source, present, stepped⟩ | ⟨uuid, role, dsn, url, startup, _, rfl⟩
  · exact kept _ _ _ _ permitted stepped (held source present)
  · exact registered _ _ _ _ _ _

end Rows

/-! ## A small store to run histories on -/

def sampleEnv : Env where
  platform := samplePlatform
  heartbeatTimeout := 60 * 10 ^ 9
  timeoutPositive := minute_positive
  drainTimeout := 30 * 10 ^ 9
  heapOrder rows := rows
  heapOrder_perm _ := List.Perm.refl _

/-- Numeric buckets of width ten. -/
def sampleConfig (shardMaxBytes : Int) : ClusterConfig where
  mode := "range"
  bucketAxis := .numeric
  bucketSpec := .numeric 10 ten_positive ten_fits
  bucketSpecRaw := .object [("width", .number "10")]
  shardMaxBytes := shardMaxBytes
  retentionDepth := none
  maxFutureBuckets := none
  parsed := ten_accepted
  depthFits := none_fits
  futureFits := none_fits

/-- Two shards are registered and the first one goes once round its life
cycle. -/
def roundTrip : List StoreAct :=
  [.perform (.bootstrap (sampleConfig 100)), .perform (.registerShard 1 .data "a" "" ""),
    .perform (.registerShard 2 .data "b" "" ""), .perform (.promoteStandby "n5"), .elapse 5,
    .perform (.beginDrain "n5"), .perform (.markDrainReady 1), .perform (.completeDrainSeal "n5"),
    .perform (.markBucketCleaning "n5"), .perform (.finishCleaning 1)]

end Store
end Shardman
