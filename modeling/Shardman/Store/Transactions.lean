import Shardman.Store.Schema
import Mathlib.Data.List.Dedup

namespace Shardman
namespace Store

open Fsm
open Bucket

/-!
# Queries and transactions

Each method of the store is one function on the database.  A query only reads.
A transaction either fails, and then leaves no trace, or yields the next
database.  Statements of a transaction that select a row and then update it by
id see one and the same database: transactions are atomic.
-/

/-! ## The environment of a store -/

/-- Everything outside the database that the control plane depends on.  The
store replaces a heartbeat timeout that is not positive by a minute.  Queries
without an ORDER BY return their rows in some order of the server's choosing. -/
structure Env where
  platform : Platform
  heartbeatTimeout : Time
  timeoutPositive : 0 < heartbeatTimeout
  drainTimeout : Time
  heapOrder : List Shard -> List Shard
  heapOrder_perm : forall rows, (heapOrder rows).Perm rows

theorem minute_positive : (0 : Time) < 60 * 10 ^ 9 := by decide

/-! ## Conditions on rows -/

/-- A row of the standby pool. -/
def Pooled (row : Shard) : Prop :=
  row.role = .data ∧ row.state = .standby ∧ row.bucketID = none

/-- A data row of a bucket in a given state. -/
def InState (state : State) (bucketID : String) (row : Shard) : Prop :=
  row.role = .data ∧ row.bucketID = some bucketID ∧ row.state = state

/-- An active or draining data row of a bucket. -/
def Live (bucketID : String) (row : Shard) : Prop :=
  row.role = .data ∧ row.bucketID = some bucketID ∧ (row.state = .active ∨ row.state = .draining)

/-- The heartbeat of a row is within the timeout. -/
def Fresh (env : Env) (now : Time) (row : Shard) : Prop :=
  match row.lastSeenAt with
  | some seen => now - env.heartbeatTimeout <= seen
  | none => False

instance : DecidablePred Pooled := fun _ => inferInstanceAs (Decidable (_ ∧ _ ∧ _))

instance (state : State) (bucketID : String) : DecidablePred (InState state bucketID) :=
  fun _ => inferInstanceAs (Decidable (_ ∧ _ ∧ _))

instance (bucketID : String) : DecidablePred (Live bucketID) :=
  fun _ => inferInstanceAs (Decidable (_ ∧ _ ∧ _))

instance (env : Env) (now : Time) : DecidablePred (Fresh env now) := fun row =>
  match seen : row.lastSeenAt with
  | some instant => decidable_of_iff (now - env.heartbeatTimeout <= instant) (by simp only [Fresh, seen])
  | none => isFalse (by simp only [Fresh, seen, not_false_eq_true])

/-! ## Queries -/

section Queries

variable (env : Env) (now : Time) (db : Db)

/-- The rows of a query without an ORDER BY. -/
def scan (condition : Shard -> Prop) [DecidablePred condition] : List Shard :=
  env.heapOrder (db.shards.filter condition)

def getConfig : Except StoreError ClusterConfig :=
  match db.cluster with
  | some row => .ok row.config
  | none => .error .notBootstrapped

def getTopologyVersion : Except StoreError Nat :=
  match db.cluster with
  | some row => .ok row.topologyVersion
  | none => .error .notBootstrapped

def listShards : List Shard := db.shards

def getShardByID (id : Nat) : Option Shard :=
  db.shards.find? fun row => decide (row.id = id)

def getShardByUUID (uuid : UUID) : Option Shard :=
  db.shards.find? fun row => decide (row.shardUUID = uuid)

def getErrorShard : Option Shard :=
  (scan env db fun row => row.role = .error).head?

def activeForBucket (bucketID : String) : Option Shard :=
  (scan env db fun row => InState .active bucketID row ∧ Fresh env now row).head?

def staleActiveForBucket (bucketID : String) : Option Shard :=
  (scan env db fun row => InState .active bucketID row ∧ ¬ Fresh env now row).head?

def listStaleActives : List Shard :=
  db.shards.filter fun row =>
    row.role = .data ∧ row.state = .active ∧ row.bucketID ≠ none ∧ ¬ Fresh env now row

/-- What a read of a bucket covers: its sealed rows and its fresh active row. -/
def Readable (bucketID : String) (row : Shard) : Prop :=
  row.role = .data ∧ row.bucketID = some bucketID ∧
    (row.state = .sealed ∨ (row.state = .active ∧ Fresh env now row))

instance (bucketID : String) : DecidablePred (Readable env now bucketID) :=
  fun _ => inferInstanceAs (Decidable (_ ∧ _ ∧ _))

def shardsForBucketRead (bucketID : String) : List Shard :=
  db.shards.filter (Readable env now bucketID)

def standbyPool : List Shard :=
  db.shards.filter Pooled

def countStandbyPool : Nat := (standbyPool db).length

/-- The pooled row a promotion takes: the one with the smallest id. -/
def nextStandby : Option Shard :=
  db.shards.find? Pooled

def hasActiveInBucket (bucketID : String) : Bool :=
  decide (0 < (db.shards.filter (Live bucketID)).length)

def distinctBucketIDs : List String :=
  ((scan env db fun row => row.role = .data ∧ row.bucketID ≠ none).filterMap Shard.bucketID).dedup

def shardsNeedingSeal (defaultMax : Int) : List Shard :=
  (scan env db fun row => row.role = .data ∧ row.state = .active).filter fun row =>
    row.maxBytes.getD defaultMax <= row.reportedBytes

def shardsDraining : List Shard :=
  scan env db fun row => row.role = .data ∧ row.state = .draining

end Queries

/-! ## Row changes -/

namespace Rewrite

def activate (now : Time) (bucketID : String) : Rewrite where
  apply row := { row with
    bucketID := some bucketID
    state := .active
    lastSeenAt := some now
    version := row.version + 1 }
  id_eq _ := rfl
  uuid_eq _ := rfl
  role_eq _ := rfl

def sealRow (now : Time) : Rewrite where
  apply row := { row with state := .sealed, sealedAt := some now, version := row.version + 1 }
  id_eq _ := rfl
  uuid_eq _ := rfl
  role_eq _ := rfl

def beginDrain (now : Time) : Rewrite where
  apply row := { row with
    state := .draining
    drainStartedAt := some now
    drainReady := false
    version := row.version + 1 }
  id_eq _ := rfl
  uuid_eq _ := rfl
  role_eq _ := rfl

def markReady : Rewrite where
  apply row := { row with drainReady := true, version := row.version + 1 }
  id_eq _ := rfl
  uuid_eq _ := rfl
  role_eq _ := rfl

def drainSeal (now : Time) : Rewrite where
  apply row := { row with
    state := .sealed
    sealedAt := some now
    drainReady := false
    version := row.version + 1 }
  id_eq _ := rfl
  uuid_eq _ := rfl
  role_eq _ := rfl

def clean : Rewrite where
  apply row := { row with state := .cleaning, version := row.version + 1 }
  id_eq _ := rfl
  uuid_eq _ := rfl
  role_eq _ := rfl

def recycle : Rewrite where
  apply row := { row with
    state := .standby
    bucketID := none
    reportedBytes := 0
    sealedAt := none
    drainStartedAt := none
    drainReady := false
    version := row.version + 1 }
  id_eq _ := rfl
  uuid_eq _ := rfl
  role_eq _ := rfl

def patch (newState : State) : Rewrite where
  apply row := { row with state := newState, version := row.version + 1 }
  id_eq _ := rfl
  uuid_eq _ := rfl
  role_eq _ := rfl

def stats (reportedBytes : Int) (now : Time) : Rewrite where
  apply row := { row with reportedBytes := reportedBytes, lastSeenAt := some now }
  id_eq _ := rfl
  uuid_eq _ := rfl
  role_eq _ := rfl

def seen (instant : Time) : Rewrite where
  apply row := { row with lastSeenAt := some instant }
  id_eq _ := rfl
  uuid_eq _ := rfl
  role_eq _ := rfl

def readdress (dsn : String) (advertiseURL : Option String) (now : Time) : Rewrite where
  apply row := { row with dsn := dsn, advertiseURL := advertiseURL, lastSeenAt := some now }
  id_eq _ := rfl
  uuid_eq _ := rfl
  role_eq _ := rfl

end Rewrite

/-! ## Transactions -/

/-- A transaction's outcome: a value and the next database, or an error. -/
abbrev Tx (X : Type) := Db -> Except StoreError (X × Db)

def bootstrap (config : ClusterConfig) : Tx Unit := fun db =>
  match db.cluster with
  | some _ => .error .alreadyBootstrapped
  | none => .ok ((), { db with cluster := some ⟨config, 1⟩ })

/-- The row that registration inserts; every other column has its default. -/
def registeredShard (id : Nat) (uuid : UUID) (role : Role) (dsn : String)
    (advertiseURL : Option String) (now : Time) : Shard where
  id := id
  shardUUID := uuid
  role := role
  bucketID := none
  state := if role = .error then .active else .standby
  dsn := dsn
  advertiseURL := advertiseURL
  reportedBytes := 0
  maxBytes := none
  lastSeenAt := some now
  sealedAt := none
  drainStartedAt := none
  drainReady := false
  version := 1

theorem registeredShard_unindexed (id : Nat) (uuid : UUID) (role : Role) (dsn : String)
    (advertiseURL : Option String) (now : Time) :
    activeKey (registeredShard id uuid role dsn advertiseURL now) = none := by
  simp only [activeKey, registeredShard]
  by_cases indexed : role = .data ∧ (if role = .error then State.active else .standby) = .active
  · exact if_pos indexed
  · exact if_neg indexed

/-- A unique index still holds when a row with a new key, or without one, is
appended. -/
theorem IndexUnique.append {K : Type} {key : Shard -> Option K} {shards : List Shard}
    (unique : IndexUnique key shards) {row : Shard}
    (newKey : forall other, other ∈ shards -> key row ≠ none -> key other ≠ key row) :
    IndexUnique key (shards ++ [row]) := by
  intro first firstMember second secondMember keyed same
  rcases List.mem_append.mp firstMember with firstOld | firstNew <;>
    rcases List.mem_append.mp secondMember with secondOld | secondNew
  · exact unique first firstOld second secondOld keyed same
  · rw [List.mem_singleton] at secondNew
    subst secondNew
    exact absurd same (newKey first firstOld (same ▸ keyed))
  · rw [List.mem_singleton] at firstNew
    subst firstNew
    exact absurd same.symm (newKey second secondOld keyed)
  · rw [List.mem_singleton.mp firstNew, List.mem_singleton.mp secondNew]

/-- Append a row under the next id. -/
def Db.insert (db : Db) (row : Shard) (numbered : row.id = db.nextID)
    (newUUID : forall other, other ∈ db.shards -> other.shardUUID ≠ row.shardUUID)
    (unindexed : activeKey row = none)
    (newError : forall other, other ∈ db.shards -> errorKey row ≠ none -> errorKey other = none) : Db where
  shards := db.shards ++ [row]
  nextID := db.nextID + 1
  cluster := db.cluster
  ordered := by
    rw [List.pairwise_append]
    refine ⟨db.ordered, List.pairwise_singleton _ _, ?_⟩
    intro first firstMember second secondMember
    rw [List.mem_singleton.mp secondMember, numbered]
    exact db.issued first firstMember
  issued := by
    intro other member
    rcases List.mem_append.mp member with old | new
    · exact Nat.lt_succ_of_lt (db.issued other old)
    · rw [List.mem_singleton.mp new, numbered]
      exact Nat.lt_succ_self _
  uuidUnique := db.uuidUnique.append fun other member _ same =>
    newUUID other member (Option.some_inj.mp same)
  oneActivePerBucket := db.oneActivePerBucket.append fun _ _ keyed _ => keyed unindexed
  oneError := db.oneError.append fun other member keyed same =>
    keyed (same ▸ newError other member keyed)

/-- The id sequence also advances when the insert turns into an update. -/
def Db.skipID (db : Db) : Db :=
  { db with
    nextID := db.nextID + 1
    issued := fun row member => Nat.lt_succ_of_lt (db.issued row member) }

def registerShard (now : Time) (uuid : UUID) (role : Role) (dsn advertiseURL startupState : String) :
    Tx Nat := fun db =>
  if ¬ startupStateAllowed startupState ∧ role ≠ .error then
    .error .startupState
  else if taken : role = .error ∧ Exists fun row => row ∈ db.shards ∧ row.role = .error then
    .error .conflict
  else
    match known : getShardByUUID db uuid with
    | some row =>
        (db.updateWhere (fun other => other.shardUUID = uuid)
          (.readdress dsn (nullStr advertiseURL) now)).map fun updated =>
            (row.id, updated.2.skipID.bumpTopologyVersion)
    | none =>
        .ok (db.nextID,
          (db.insert (registeredShard db.nextID uuid role dsn (nullStr advertiseURL) now) rfl
            (fun other member same => by
              have absent := List.find?_eq_none.mp known other member
              exact absent (decide_eq_true same))
            (registeredShard_unindexed ..)
            (fun other member keyed => by
              have isError : role = .error := by
                by_contra other
                exact keyed (if_neg other)
              have free : other.role ≠ .error := fun same => taken ⟨isError, other, member, same⟩
              exact if_neg free)).bumpTopologyVersion)

def promoteStandby (now : Time) (bucketID : String) : Tx Nat := fun db =>
  match nextStandby db with
  | none => .error .notFound
  | some spare =>
      match db.updateWhere (fun row => row.id = spare.id) (.activate now bucketID) with
      | .error failure => .error failure
      | .ok (_, promoted) => .ok (spare.id, promoted.bumpTopologyVersion)

/-- Activate the next standby for a bucket, if the pool has one. -/
def refill (now : Time) (bucketID : String) : Tx Unit := fun db =>
  match nextStandby db with
  | none => .ok ((), db.bumpTopologyVersion)
  | some spare =>
      match db.updateWhere (fun row => row.id = spare.id) (.activate now bucketID) with
      | .error failure => .error failure
      | .ok (_, filled) => .ok ((), filled.bumpTopologyVersion)

/-- Retire one row of a bucket and put the next standby in its place.  The two
rotations of the store differ in the rows they retire and in what they write. -/
def rotate (env : Env) (now : Time) (bucketID : String) (retired : State) (retire : Rewrite) :
    Tx Unit := fun db =>
  match (scan env db (InState retired bucketID)).head? with
  | none => .error .notFound
  | some old =>
      match db.updateWhere (fun row => row.id = old.id ∧ row.version = old.version) retire with
      | .error failure => .error failure
      | .ok (affected, vacant) =>
          if affected = 0 then .error .conflict else refill now bucketID vacant

def sealRotate (env : Env) (now : Time) (bucketID : String) : Tx Unit :=
  rotate env now bucketID .active (.sealRow now)

def completeDrainSeal (env : Env) (now : Time) (bucketID : String) : Tx Unit :=
  rotate env now bucketID .draining (.drainSeal now)

def setLastSeenAt (uuid : UUID) (instant : Time) : Tx Unit := fun db =>
  (db.updateWhere (fun row => row.shardUUID = uuid) (.seen instant)).map fun updated => ((), updated.2)

/-- The rows an update selects must not be none. -/
def requireRows (outcome : Except StoreError (Nat × Db)) (finish : Db -> Db) :
    Except StoreError (Unit × Db) :=
  match outcome with
  | .error failure => .error failure
  | .ok (affected, updated) => if affected = 0 then .error .notFound else .ok ((), finish updated)

def updateStats (now : Time) (uuid : UUID) (reportedBytes : Int) : Tx Unit := fun db =>
  requireRows (db.updateWhere (fun row => row.shardUUID = uuid) (.stats reportedBytes now)) id

def patchState (id : Nat) (newState : State) : Tx Unit := fun db =>
  match getShardByID db id with
  | none => .error .notFound
  | some current =>
      if canTransition current.role current.state newState then
        match db.updateWhere (fun row => row.id = id ∧ row.version = current.version)
          (.patch newState) with
        | .error failure => .error failure
        | .ok (affected, patched) =>
            if affected = 0 then .error .conflict else .ok ((), patched.bumpTopologyVersion)
      else
        .error (.invalidTransition current.role current.state newState)

def markBucketCleaning (bucketID : String) : Tx Nat := fun db =>
  match db.updateWhere (InState .sealed bucketID) .clean with
  | .error failure => .error failure
  | .ok (affected, marked) =>
      .ok (affected, if 0 < affected then marked.bumpTopologyVersion else marked)

/-- A shard that is not being cleaned is left alone, and that is no error. -/
def finishCleaning (uuid : UUID) : Tx Unit := fun db =>
  match db.updateWhere (fun row => row.shardUUID = uuid ∧ row.state = .cleaning) .recycle with
  | .error failure => .error failure
  | .ok (affected, recycled) =>
      .ok ((), if affected = 0 then db else recycled.bumpTopologyVersion)

def beginDrain (now : Time) (bucketID : String) : Tx Unit := fun db =>
  requireRows (db.updateWhere (InState .active bucketID) (.beginDrain now)) Db.bumpTopologyVersion

def markDrainReady (uuid : UUID) : Tx Unit := fun db =>
  requireRows
    (db.updateWhere (fun row => row.shardUUID = uuid ∧ row.state = .draining) .markReady) id

end Store
end Shardman
