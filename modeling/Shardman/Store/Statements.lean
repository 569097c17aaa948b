import Shardman.Foundation.RowStatements
import Shardman.Store.Operations

namespace Shardman
namespace Store

open Fsm
open Bucket
open Foundation

/-!
# The transactions statement by statement

`Shardman.Store.Transactions` treats each transaction as one step.  Here the
same transactions are sequences of statements, run by many connections at a
time under row locks.  NOW() is the time at which the transaction began.  The
row of the cluster configuration is the single row, and updating the topology
version locks it until the commit.

The statements that write the log of shard events are left out.
-/

/-- Rows share a key of one of the unique indexes. -/
def SharesKey (first second : Shard) : Prop :=
  first.shardUUID = second.shardUUID ∨
    (activeKey first ≠ none ∧ activeKey first = activeKey second) ∨
    (errorKey first ≠ none ∧ errorKey first = errorKey second)

instance (first second : Shard) : Decidable (SharesKey first second) :=
  inferInstanceAs (Decidable (_ ∨ _ ∨ _))

theorem SharesKey.symm {first second : Shard} (shares : SharesKey first second) : SharesKey second first := by
  rcases shares with uuid | ⟨keyed, same⟩ | ⟨keyed, same⟩
  · exact Or.inl uuid.symm
  · exact Or.inr (Or.inl ⟨same ▸ keyed, same.symm⟩)
  · exact Or.inr (Or.inr ⟨same ▸ keyed, same.symm⟩)

def shardLayout : Layout Shard where
  ident := Shard.id
  clash first second := SharesKey first second
  clash_comm _ _ := decide_eq_decide.mpr ⟨SharesKey.symm, SharesKey.symm⟩

def Rewrite.rowChange (change : Rewrite) : RowChange shardLayout := ⟨change.apply, change.id_eq⟩

/-- What the methods of the store return besides errors. -/
inductive TxValue
  | nothing
  | shard (id : Nat)
  | rows (count : Nat)
deriving DecidableEq, Repr

/-- The methods of the store that write. -/
inductive StoreTx
  | bootstrap (config : ClusterConfig)
  | registerShard (uuid : UUID) (role : Role) (dsn advertiseURL startupState : String)
  | promoteStandby (bucketID : String)
  | sealRotate (bucketID : String)
  | completeDrainSeal (bucketID : String)
  | beginDrain (bucketID : String)
  | markDrainReady (uuid : UUID)
  | markBucketCleaning (bucketID : String)
  | finishCleaning (uuid : UUID)
  | patchState (id : Nat) (newState : State)
  | updateStats (uuid : UUID) (reportedBytes : Int)
  | setLastSeenAt (uuid : UUID) (instant : Time)
  | bumpTopologyVersion

abbrev Statement (X : Type) := Accessing shardLayout ClusterRow X

abbrev StoreProgram := Statement (Except StoreError TxValue)

namespace StoreTx

def bumpRow (row : ClusterRow) : ClusterRow := { row with topologyVersion := row.topologyVersion + 1 }

def bumpStatement : Statement Unit := Access.ask (.alter bumpRow)

/-- Advance the version and return. -/
def bumpAndReturn (value : TxValue) : StoreProgram := do
  bumpStatement
  pure (.ok value)

section Programs

variable (env : Env) (now : Time)

def update (condition : Shard -> Bool) (change : Rewrite) : Statement (Option Nat) :=
  updateRows ClusterRow shardLayout env.heapOrder condition change.rowChange

def selectLocked (condition : Shard -> Bool) : Statement (List Shard) :=
  selectForUpdate ClusterRow shardLayout env.heapOrder condition

def selectStandby : Statement (Option Shard) :=
  selectFree ClusterRow shardLayout fun row => Pooled row

/-- Put a standby that is already locked into a bucket. -/
def fill (bucketID : String) (standbyID : Nat) (value : TxValue) : StoreProgram := do
  let written <- update env (fun row => row.id = standbyID) (.activate now bucketID)
  match written with
  | none => pure (.error .uniqueViolation)
  | some _ => bumpAndReturn value

def bootstrapBody (config : ClusterConfig) : StoreProgram := do
  let existing : Option ClusterRow <- Access.ask .peek
  match existing with
  | some _ => pure (.error .alreadyBootstrapped)
  | none =>
      let created : Bool <- Access.ask (.create ⟨config, 1⟩)
      if created then pure (.ok .nothing) else pure (.error .uniqueViolation)

/-- The row that registration inserts under a given id. -/
def newShard (uuid : UUID) (role : Role) (dsn : String) (advertiseURL : Option String) : NewRow shardLayout where
  make id := registeredShard id uuid role dsn advertiseURL now
  ident_eq _ := rfl

def insertShard (uuid : UUID) (role : Role) (dsn advertiseURL : String) : StoreProgram := do
  let id <- upsert ClusterRow shardLayout (newShard now uuid role dsn (nullStr advertiseURL))
    (fun row => row.shardUUID = uuid) (Rewrite.readdress dsn (nullStr advertiseURL) now).rowChange
  match id with
  | none => pure (.error .uniqueViolation)
  | some id => bumpAndReturn (.shard id)

def registerShardBody (uuid : UUID) (role : Role) (dsn advertiseURL startupState : String) : StoreProgram :=
  if ¬ startupStateAllowed startupState ∧ role ≠ .error then pure (.error .startupState)
  else if role = .error then do
    let errors : List Shard <- Access.ask (.view fun row => row.role = .error)
    if 0 < errors.length then pure (.error .conflict) else insertShard now uuid role dsn advertiseURL
  else insertShard now uuid role dsn advertiseURL

def promoteStandbyBody (bucketID : String) : StoreProgram := do
  let standby <- selectStandby
  match standby with
  | none => pure (.error .notFound)
  | some standby => fill env now bucketID standby.id (.shard standby.id)

/-- Put the next standby that nobody holds in place of a retired row. -/
def refillBody (bucketID : String) : StoreProgram := do
  let standby <- selectStandby
  match standby with
  | none => bumpAndReturn .nothing
  | some standby => fill env now bucketID standby.id .nothing

/-- The two rotations of the store differ in the rows they retire and in what
they write. -/
def rotateBody (bucketID : String) (retired : State) (retire : Rewrite) : StoreProgram := do
  let rows <- selectLocked env fun row => InState retired bucketID row
  match rows.head? with
  | none => pure (.error .notFound)
  | some old =>
      let written <- update env (fun row => row.id = old.id ∧ row.version = old.version) retire
      match written with
      | none => pure (.error .uniqueViolation)
      | some 0 => pure (.error .conflict)
      | some _ => refillBody env now bucketID

/-- An update that must find a row. -/
def requireRow (condition : Shard -> Bool) (change : Rewrite) (finish : StoreProgram) : StoreProgram := do
  let written <- update env condition change
  match written with
  | none => pure (.error .uniqueViolation)
  | some 0 => pure (.error .notFound)
  | some _ => finish

def markBucketCleaningBody (bucketID : String) : StoreProgram := do
  let written <- update env (fun row => InState .sealed bucketID row) .clean
  match written with
  | none => pure (.error .uniqueViolation)
  | some 0 => pure (.ok (.rows 0))
  | some count => bumpAndReturn (.rows count)

def finishCleaningBody (uuid : UUID) : StoreProgram := do
  let written <- update env (fun row => row.shardUUID = uuid ∧ row.state = .cleaning) .recycle
  match written with
  | none => pure (.error .uniqueViolation)
  | some 0 => pure (.ok .nothing)
  | some _ => bumpAndReturn .nothing

def patchStateBody (id : Nat) (newState : State) : StoreProgram := do
  let rows <- selectLocked env fun row => row.id = id
  match rows.head? with
  | none => pure (.error .notFound)
  | some current =>
      if canTransition current.role current.state newState then
        let written <- update env (fun row => row.id = id ∧ row.version = current.version) (.patch newState)
        match written with
        | none => pure (.error .uniqueViolation)
        | some 0 => pure (.error .conflict)
        | some _ => bumpAndReturn .nothing
      else pure (.error (.invalidTransition current.role current.state newState))

def setLastSeenAtBody (uuid : UUID) (instant : Time) : StoreProgram := do
  let written <- update env (fun row => row.shardUUID = uuid) (.seen instant)
  match written with
  | none => pure (.error .uniqueViolation)
  | some _ => pure (.ok .nothing)

/-- The statements of a transaction that began at a given time. -/
def body (tx : StoreTx) : StoreProgram :=
  match tx with
  | .bootstrap config => bootstrapBody config
  | .registerShard uuid role dsn advertiseURL startupState =>
      registerShardBody now uuid role dsn advertiseURL startupState
  | .promoteStandby bucketID => promoteStandbyBody env now bucketID
  | .sealRotate bucketID => rotateBody env now bucketID .active (.sealRow now)
  | .completeDrainSeal bucketID => rotateBody env now bucketID .draining (.drainSeal now)
  | .beginDrain bucketID =>
      requireRow env (fun row => InState .active bucketID row) (.beginDrain now) (bumpAndReturn .nothing)
  | .markDrainReady uuid =>
      requireRow env (fun row => row.shardUUID = uuid ∧ row.state = .draining) .markReady (pure (.ok .nothing))
  | .markBucketCleaning bucketID => markBucketCleaningBody env bucketID
  | .finishCleaning uuid => finishCleaningBody env uuid
  | .patchState id newState => patchStateBody env id newState
  | .updateStats uuid reportedBytes =>
      requireRow env (fun row => row.shardUUID = uuid) (.stats reportedBytes now) (pure (.ok .nothing))
  | .setLastSeenAt uuid instant => setLastSeenAtBody env uuid instant
  | .bumpTopologyVersion => bumpAndReturn .nothing

end Programs

end StoreTx

/-! ## The database server -/

abbrev DbServer := Engine Shard ClusterRow StoreTx StoreError TxValue shardLayout

abbrev DbServerAction := EngineAction StoreTx

/-- A server without transactions in progress. -/
def Db.serve (db : Db) (now : Time) : DbServer :=
  ⟨⟨db.shards, db.cluster, db.nextID⟩, now, []⟩

abbrev DbServerRun (env : Env) (start : DbServer) (past : List (Event DbServer DbServerAction))
    (server : DbServer) : Prop :=
  EngineRun (fun tx now => StoreTx.body env now tx) start past server

end Store
end Shardman
