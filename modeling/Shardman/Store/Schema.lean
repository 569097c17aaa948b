import Shardman.Fsm
import Shardman.Bucket.Routing
import Mathlib.Data.List.Nodup

namespace Shardman
namespace Store

open Fsm
open Bucket

/-!
# The database of the control plane

Two tables are modelled: the single row of the cluster configuration and the
shards.  `Db` carries what the schema promises of every committed state: ids
are handed out in increasing order, shard uuids are unique, no bucket has two
active data shards, and there is at most one error shard.  A statement that
would break one of the unique indexes cannot produce a `Db`; it aborts its
transaction.
-/

/-- Instants are nanoseconds since the Unix epoch, as in routing. -/
abbrev Time := Int

structure Shard where
  id : Nat
  shardUUID : UUID
  role : Role
  bucketID : Option String
  state : State
  dsn : String
  advertiseURL : Option String
  reportedBytes : Int
  maxBytes : Option Int
  lastSeenAt : Option Time
  sealedAt : Option Time
  drainStartedAt : Option Time
  drainReady : Bool
  version : Nat
deriving DecidableEq, Repr

/-- The address handed to clients. -/
def endpoint (shard : Shard) : String :=
  match shard.advertiseURL with
  | some url => if url ≠ "" then url else shard.dsn
  | none => shard.dsn

def nullStr (text : String) : Option String :=
  if text = "" then none else some text

/-- The cluster configuration.  The spec is what its raw form parses to, and
the two window columns have 32 bits. -/
structure ClusterConfig where
  mode : String
  bucketAxis : Axis
  bucketSpec : Spec
  bucketSpecRaw : RawMessage
  shardMaxBytes : Int
  retentionDepth : Option Int
  maxFutureBuckets : Option Int
  parsed : parseSpec bucketAxis bucketSpecRaw = .ok bucketSpec
  depthFits : forall depth, retentionDepth = some depth -> -2 ^ 31 <= depth ∧ depth < 2 ^ 31
  futureFits : forall future, maxFutureBuckets = some future -> -2 ^ 31 <= future ∧ future < 2 ^ 31

theorem none_fits (bound : Int) (impossible : none = some bound) : -2 ^ 31 <= bound ∧ bound < 2 ^ 31 := by
  cases impossible

theorem one_fits (bound : Int) (same : some 1 = some bound) : -2 ^ 31 <= bound ∧ bound < 2 ^ 31 := by
  cases same
  decide

structure ClusterRow where
  config : ClusterConfig
  topologyVersion : Nat

/-! ## Unique indexes -/

/-- The key of a row in the index `shards_one_active_per_bucket`. -/
def activeKey (row : Shard) : Option String :=
  if row.role = .data ∧ row.state = .active then row.bucketID else none

/-- The key of a row in the index `shards_one_error`. -/
def errorKey (row : Shard) : Option Role :=
  if row.role = .error then some row.role else none

/-- A unique index: rows with the same key are the same row.  Rows without a
key are not indexed. -/
def IndexUnique {K : Type} (key : Shard -> Option K) (shards : List Shard) : Prop :=
  forall first, first ∈ shards -> forall second, second ∈ shards ->
    key first ≠ none -> key first = key second -> first.id = second.id

instance {K : Type} [DecidableEq K] (key : Shard -> Option K) (shards : List Shard) :
    Decidable (IndexUnique key shards) :=
  inferInstanceAs (Decidable (forall first, first ∈ shards -> forall second, second ∈ shards -> _))

structure Db where
  shards : List Shard
  nextID : Nat
  cluster : Option ClusterRow
  ordered : shards.Pairwise fun first second => first.id < second.id
  issued : forall row, row ∈ shards -> row.id < nextID
  uuidUnique : IndexUnique (fun row => some row.shardUUID) shards
  oneActivePerBucket : IndexUnique activeKey shards
  oneError : IndexUnique errorKey shards

/-- The database right after the migrations. -/
def Db.fresh : Db where
  shards := []
  nextID := 1
  cluster := none
  ordered := List.Pairwise.nil
  issued := by simp
  uuidUnique := by simp [IndexUnique]
  oneActivePerBucket := by simp [IndexUnique]
  oneError := by simp [IndexUnique]

/-- Ids identify rows. -/
theorem Db.eq_of_id (db : Db) {first second : Shard} (firstMember : first ∈ db.shards)
    (secondMember : second ∈ db.shards) (same : first.id = second.id) : first = second := by
  have distinct : (db.shards.map Shard.id).Nodup :=
    (List.pairwise_map.mpr db.ordered).imp Nat.ne_of_lt
  exact List.inj_on_of_nodup_map distinct firstMember secondMember same

theorem Db.nodup (db : Db) : db.shards.Nodup := by
  apply db.ordered.imp
  intro first second earlier same
  rw [same] at earlier
  exact Nat.lt_irrefl _ earlier

/-- A database is its table, its sequence and its configuration. -/
theorem Db.eq_of_contents {first second : Db} (shards : first.shards = second.shards)
    (nextID : first.nextID = second.nextID) (cluster : first.cluster = second.cluster) : first = second := by
  cases first
  cases second
  cases shards
  cases nextID
  cases cluster
  rfl

inductive StoreError
  | alreadyBootstrapped
  | notBootstrapped
  | conflict
  | notFound
  | uniqueViolation
  | invalidTransition (role : Role) (source target : State)
  | startupState
deriving DecidableEq, Repr

/-! ## Statements -/

/-- A change of single rows that leaves the key columns alone. -/
structure Rewrite where
  apply : Shard -> Shard
  id_eq : forall row, (apply row).id = row.id
  uuid_eq : forall row, (apply row).shardUUID = row.shardUUID
  role_eq : forall row, (apply row).role = row.role

/-- Restrict a change to the rows a condition selects. -/
def Rewrite.only (change : Rewrite) (condition : Shard -> Bool) : Rewrite where
  apply row := if condition row then change.apply row else row
  id_eq row := by
    split
    · exact change.id_eq row
    · rfl
  uuid_eq row := by
    split
    · exact change.uuid_eq row
    · rfl
  role_eq row := by
    split
    · exact change.role_eq row
    · rfl

/-- An index on columns that a change leaves alone stays unique. -/
theorem Rewrite.index_kept (change : Rewrite) {K : Type} {key : Shard -> Option K}
    (kept : forall row, key (change.apply row) = key row) {shards : List Shard}
    (unique : IndexUnique key shards) : IndexUnique key (shards.map change.apply) := by
  intro first firstMember second secondMember keyed same
  rcases List.mem_map.mp firstMember with ⟨source, sourceMember, rfl⟩
  rcases List.mem_map.mp secondMember with ⟨other, otherMember, rfl⟩
  rw [kept] at keyed same
  rw [kept] at same
  rw [change.id_eq, change.id_eq]
  exact unique source sourceMember other otherMember keyed same

namespace Db

/-- The table after a change, provided the index of active shards allows it. -/
def rewrite (db : Db) (change : Rewrite) : Except StoreError Db :=
  if unique : IndexUnique activeKey (db.shards.map change.apply) then
    .ok
      { shards := db.shards.map change.apply
        nextID := db.nextID
        cluster := db.cluster
        ordered := by
          rw [List.pairwise_map]
          simpa only [change.id_eq] using db.ordered
        issued := by
          intro row member
          rcases List.mem_map.mp member with ⟨source, present, same⟩
          rw [← same, change.id_eq]
          exact db.issued source present
        uuidUnique := change.index_kept (fun row => by rw [change.uuid_eq]) db.uuidUnique
        oneActivePerBucket := unique
        oneError := change.index_kept (fun row => by simp only [errorKey, change.role_eq]) db.oneError }
  else
    .error .uniqueViolation

/-- An UPDATE statement: the number of rows it selects, and the table after it. -/
def updateWhere (db : Db) (condition : Shard -> Bool) (change : Rewrite) :
    Except StoreError (Nat × Db) :=
  (db.rewrite (change.only condition)).map fun after => ((db.shards.filter condition).length, after)

/-- Advance the version clients watch.  Nothing happens before bootstrap. -/
def bumpTopologyVersion (db : Db) : Db :=
  { db with
    cluster := db.cluster.map fun row => { row with topologyVersion := row.topologyVersion + 1 } }

@[simp] theorem bumpTopologyVersion_shards (db : Db) : db.bumpTopologyVersion.shards = db.shards := rfl

@[simp] theorem bumpTopologyVersion_nextID (db : Db) : db.bumpTopologyVersion.nextID = db.nextID := rfl

end Db

end Store
end Shardman
