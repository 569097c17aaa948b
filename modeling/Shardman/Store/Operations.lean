import Shardman.Store.Effects

namespace Shardman
namespace Store

open Fsm
open Bucket

/-!
# Operations and the moves of rows

The programs of the control plane reach the database through the operations of
this module, each one query or one transaction.  `perform` executes one at a
moment; a failed transaction leaves the database as it was.

What an operation can do to a row is said once, by `Moves`.  It refines the
shard state machine: every operation keeps a row, changes columns that are not
part of its place in the life cycle, or moves it along one edge.
-/

/-- Why a bucket is rotated.  The store does not see it; it lets statements
speak about the row whose silence made the health check act. -/
inductive Cause
  | admin
  | failover (stale : Shard)

inductive Op
  | clock
  | getConfig
  | getTopologyVersion
  | listShards
  | getShardByID (id : Nat)
  | getShardByUUID (uuid : UUID)
  | getErrorShard
  | activeForBucket (bucketID : String)
  | staleActiveForBucket (bucketID : String)
  | listStaleActives
  | shardsForBucketRead (bucketID : String)
  | hasActiveInBucket (bucketID : String)
  | distinctBucketIDs
  | shardsNeedingSeal (defaultMax : Int)
  | countStandbyPool
  | shardsDraining
  | bootstrap (config : ClusterConfig)
  | registerShard (uuid : UUID) (role : Role) (dsn advertiseURL startupState : String)
  | promoteStandby (bucketID : String)
  | sealRotate (bucketID : String) (cause : Cause)
  | completeDrainSeal (bucketID : String)
  | beginDrain (bucketID : String)
  | markDrainReady (uuid : UUID)
  | markBucketCleaning (bucketID : String)
  | finishCleaning (uuid : UUID)
  | patchState (id : Nat) (newState : State)
  | updateStats (uuid : UUID) (reportedBytes : Int)
  | setLastSeenAt (uuid : UUID) (instant : Time)

/-- The result of an operation.  An absent row is what the source reports as
not found. -/
abbrev Reply : Op -> Type
  | .clock => Time
  | .getConfig => Except StoreError ClusterConfig
  | .getTopologyVersion => Except StoreError Nat
  | .listShards => List Shard
  | .getShardByID _ => Option Shard
  | .getShardByUUID _ => Option Shard
  | .getErrorShard => Option Shard
  | .activeForBucket _ => Option Shard
  | .staleActiveForBucket _ => Option Shard
  | .listStaleActives => List Shard
  | .shardsForBucketRead _ => List Shard
  | .hasActiveInBucket _ => Bool
  | .distinctBucketIDs => List String
  | .shardsNeedingSeal _ => List Shard
  | .countStandbyPool => Nat
  | .shardsDraining => List Shard
  | .registerShard .. => Except StoreError Nat
  | .promoteStandby _ => Except StoreError Nat
  | .markBucketCleaning _ => Except StoreError Nat
  | .bootstrap _ => Except StoreError Unit
  | .sealRotate .. => Except StoreError Unit
  | .completeDrainSeal _ => Except StoreError Unit
  | .beginDrain _ => Except StoreError Unit
  | .markDrainReady _ => Except StoreError Unit
  | .finishCleaning _ => Except StoreError Unit
  | .patchState .. => Except StoreError Unit
  | .updateStats .. => Except StoreError Unit
  | .setLastSeenAt .. => Except StoreError Unit

/-- Manual state changes. -/
def isPatch : Op -> Bool
  | .patchState .. => true
  | _ => false

/-- The database at an instant. -/
structure Moment where
  db : Db
  now : Time

/-- Run a transaction: an error rolls it back. -/
def commit {X : Type} (tx : Tx X) (moment : Moment) : Except StoreError X × Moment :=
  match tx moment.db with
  | .ok (value, db) => (.ok value, { moment with db := db })
  | .error failure => (.error failure, moment)

def perform (env : Env) (op : Op) (moment : Moment) : Reply op × Moment :=
  match op with
  | .clock => (moment.now, moment)
  | .getConfig => (getConfig moment.db, moment)
  | .getTopologyVersion => (getTopologyVersion moment.db, moment)
  | .listShards => (listShards moment.db, moment)
  | .getShardByID id => (getShardByID moment.db id, moment)
  | .getShardByUUID uuid => (getShardByUUID moment.db uuid, moment)
  | .getErrorShard => (getErrorShard env moment.db, moment)
  | .activeForBucket bucketID => (activeForBucket env moment.now moment.db bucketID, moment)
  | .staleActiveForBucket bucketID => (staleActiveForBucket env moment.now moment.db bucketID, moment)
  | .listStaleActives => (listStaleActives env moment.now moment.db, moment)
  | .shardsForBucketRead bucketID => (shardsForBucketRead env moment.now moment.db bucketID, moment)
  | .hasActiveInBucket bucketID => (hasActiveInBucket moment.db bucketID, moment)
  | .distinctBucketIDs => (distinctBucketIDs env moment.db, moment)
  | .shardsNeedingSeal defaultMax => (shardsNeedingSeal env moment.db defaultMax, moment)
  | .countStandbyPool => (countStandbyPool moment.db, moment)
  | .shardsDraining => (shardsDraining env moment.db, moment)
  | .bootstrap config => commit (bootstrap config) moment
  | .registerShard uuid role dsn advertiseURL startupState =>
      commit (registerShard moment.now uuid role dsn advertiseURL startupState) moment
  | .promoteStandby bucketID => commit (promoteStandby moment.now bucketID) moment
  | .sealRotate bucketID _ => commit (sealRotate env moment.now bucketID) moment
  | .completeDrainSeal bucketID => commit (completeDrainSeal env moment.now bucketID) moment
  | .beginDrain bucketID => commit (beginDrain moment.now bucketID) moment
  | .markDrainReady uuid => commit (markDrainReady uuid) moment
  | .markBucketCleaning bucketID => commit (markBucketCleaning bucketID) moment
  | .finishCleaning uuid => commit (finishCleaning uuid) moment
  | .patchState id newState => commit (patchState id newState) moment
  | .updateStats uuid reportedBytes => commit (updateStats moment.now uuid reportedBytes) moment
  | .setLastSeenAt uuid instant => commit (setLastSeenAt uuid instant) moment

/-! ## Moves -/

/-- What an operation can make of a row. -/
inductive Moves (now : Time) : Op -> Shard -> Shard -> Prop
  | keep {op : Op} {row : Shard} : Moves now op row row
  | promote {bucketID : String} {row : Shard} (pooled : Pooled row) :
      Moves now (.promoteStandby bucketID) row ((Rewrite.activate now bucketID).apply row)
  | replaceSealed {bucketID : String} {cause : Cause} {row : Shard} (pooled : Pooled row) :
      Moves now (.sealRotate bucketID cause) row ((Rewrite.activate now bucketID).apply row)
  | replaceDrained {bucketID : String} {row : Shard} (pooled : Pooled row) :
      Moves now (.completeDrainSeal bucketID) row ((Rewrite.activate now bucketID).apply row)
  | sealActive {bucketID : String} {cause : Cause} {row : Shard} (serves : InState .active bucketID row) :
      Moves now (.sealRotate bucketID cause) row ((Rewrite.sealRow now).apply row)
  | sealDrained {bucketID : String} {row : Shard} (serves : InState .draining bucketID row) :
      Moves now (.completeDrainSeal bucketID) row ((Rewrite.drainSeal now).apply row)
  | drain {bucketID : String} {row : Shard} (serves : InState .active bucketID row) :
      Moves now (.beginDrain bucketID) row ((Rewrite.beginDrain now).apply row)
  | ready {row : Shard} (draining : row.state = .draining) :
      Moves now (.markDrainReady row.shardUUID) row (Rewrite.markReady.apply row)
  | clean {bucketID : String} {row : Shard} (isSealed : InState .sealed bucketID row) :
      Moves now (.markBucketCleaning bucketID) row (Rewrite.clean.apply row)
  | recycle {row : Shard} (cleaning : row.state = .cleaning) :
      Moves now (.finishCleaning row.shardUUID) row (Rewrite.recycle.apply row)
  | patch {newState : State} {row : Shard}
      (allowed : canTransition row.role row.state newState = true) :
      Moves now (.patchState row.id newState) row ((Rewrite.patch newState).apply row)
  | stats {reportedBytes : Int} {row : Shard} :
      Moves now (.updateStats row.shardUUID reportedBytes) row ((Rewrite.stats reportedBytes now).apply row)
  | seen {instant : Time} {row : Shard} :
      Moves now (.setLastSeenAt row.shardUUID instant) row ((Rewrite.seen instant).apply row)
  | readdress {role : Role} {dsn advertiseURL startupState : String} {row : Shard} :
      Moves now (.registerShard row.shardUUID role dsn advertiseURL startupState) row
        ((Rewrite.readdress dsn (nullStr advertiseURL) now).apply row)

/-- Moves leave the key columns alone. -/
theorem Moves.keys {now : Time} {op : Op} {row moved : Shard} (moves : Moves now op row moved) :
    moved.id = row.id ∧ moved.shardUUID = row.shardUUID ∧ moved.role = row.role := by
  cases moves <;> exact ⟨rfl, rfl, rfl⟩

/-- The table after an operation: every row moved, and at most one row added by
a registration. -/
def RowsMove (now : Time) (op : Op) (before after : Db) : Prop :=
  Exists fun move : Shard -> Shard => Exists fun added : List Shard =>
    after.shards = before.shards.map move ++ added ∧
    (forall row, row ∈ before.shards -> Moves now op row (move row)) ∧
    (forall row, row ∈ added -> Exists fun uuid => Exists fun role => Exists fun dsn =>
      Exists fun advertiseURL => Exists fun startupState =>
        op = .registerShard uuid role dsn advertiseURL startupState ∧
        row = registeredShard before.nextID uuid role dsn (nullStr advertiseURL) now ∧
        forall other, other ∈ before.shards -> other.shardUUID ≠ uuid)

theorem rowsMove_same {now : Time} {op : Op} {before after : Db} (same : after.shards = before.shards) :
    RowsMove now op before after := by
  refine ⟨id, [], ?_, fun _ _ => .keep, fun _ absent => nomatch absent⟩
  rw [List.map_id, List.append_nil, same]

/-- A table rewritten row by row, each row along a move. -/
theorem rowsMove_map {now : Time} {op : Op} {before after : Db} {move : Shard -> Shard}
    (table : after.shards = before.shards.map move)
    (moves : forall row, row ∈ before.shards -> Moves now op row (move row)) :
    RowsMove now op before after := by
  refine ⟨move, [], ?_, moves, fun _ absent => nomatch absent⟩
  rw [table, List.append_nil]

theorem rowsMove_only {now : Time} {op : Op} {before after : Db} {condition : Shard -> Bool}
    {change : Rewrite} (table : after.shards = before.shards.map (change.only condition).apply)
    (moves : forall row, row ∈ before.shards -> condition row = true ->
      Moves now op row (change.apply row)) : RowsMove now op before after := by
  apply rowsMove_map table
  intro row member
  rw [only_apply]
  split
  · rename_i selected
    exact moves row member selected
  · exact .keep

/-! ## Every operation moves rows -/

theorem commit_rowsMove {X : Type} {tx : Tx X} {op : Op} {moment : Moment}
    (moves : forall value after, tx moment.db = .ok (value, after) ->
      RowsMove moment.now op moment.db after) :
    RowsMove moment.now op moment.db (commit tx moment).2.db := by
  unfold commit
  split
  · rename_i value after outcome
    exact moves value after outcome
  · exact rowsMove_same rfl

theorem commit_now {X : Type} (tx : Tx X) (moment : Moment) : (commit tx moment).2.now = moment.now := by
  unfold commit
  split <;> rfl

private theorem map_ok_inv {X Y : Type} {outcome : Except StoreError X} {finish : X -> Y} {value : Y}
    (done : outcome.map finish = .ok value) :
    Exists fun source => outcome = .ok source ∧ finish source = value := by
  cases outcome with
  | error failure => cases done
  | ok source =>
      cases done
      exact ⟨source, rfl, rfl⟩

theorem requireRows_ok {outcome : Except StoreError (Nat × Db)} {finish : Db -> Db} {after : Db}
    (done : requireRows outcome finish = .ok ((), after)) :
    Exists fun affected => Exists fun updated =>
      outcome = .ok (affected, updated) ∧ affected ≠ 0 ∧ after = finish updated := by
  unfold requireRows at done
  split at done
  · cases done
  · split at done
    · cases done
    · rename_i nonzero
      cases done
      exact ⟨_, _, rfl, nonzero, rfl⟩

section Transactions

variable {env : Env} {now : Time} {db after : Db}

theorem promoteStandby_moves {bucketID : String} {id : Nat}
    (done : promoteStandby now bucketID db = .ok (id, after)) :
    RowsMove now (.promoteStandby bucketID) db after := by
  rcases promoteStandby_cases now bucketID db with ⟨_, failed⟩ | ⟨_, _, _, _, _, failed⟩ |
    ⟨spare, written, found, _, outcome, table, _⟩
  · rw [failed] at done
    cases done
  · rw [failed] at done
    cases done
  · rw [outcome] at done
    cases done
    rcases nextStandby_some found with ⟨member, pooled⟩
    apply rowsMove_only table
    intro row rowMember chosen
    rw [db.eq_of_id rowMember member (of_decide_eq_true chosen)]
    exact .promote pooled

/-- Rows of a rotation: the retired one, the activated one, and the rest. -/
theorem rotate_moves {bucketID : String} {retired : State} {retire : Rewrite} {op : Op}
    (busy : retired ≠ .standby) (sealing : forall row, (retire.apply row).state = .sealed)
    (retires : forall row, InState retired bucketID row -> Moves now op row (retire.apply row))
    (replaces : forall row, Pooled row -> Moves now op row ((Rewrite.activate now bucketID).apply row))
    (done : rotate env now bucketID retired retire db = .ok ((), after)) : RowsMove now op db after := by
  rcases rotate_cases env now bucketID busy sealing db with ⟨_, failed⟩ |
    ⟨old, member, serves, ⟨_, written, outcome, table, _⟩ |
      ⟨spare, found, ⟨_, written, outcome, table, _⟩ | ⟨_, failed⟩⟩⟩
  · rw [failed] at done
    cases done
  · rw [outcome] at done
    cases done
    apply rowsMove_only table
    intro row rowMember chosen
    rw [db.eq_of_id rowMember member (of_decide_eq_true chosen)]
    exact retires old serves
  · rw [outcome] at done
    cases done
    rcases nextStandby_some found with ⟨spareMember, pooled⟩
    apply rowsMove_map table
    intro row rowMember
    by_cases isOld : row.id = old.id
    · rw [if_pos isOld, db.eq_of_id rowMember member isOld]
      exact retires old serves
    · rw [if_neg isOld]
      by_cases isSpare : row.id = spare.id
      · rw [if_pos isSpare, db.eq_of_id rowMember spareMember isSpare]
        exact replaces spare pooled
      · rw [if_neg isSpare]
        exact .keep
  · rw [failed] at done
    cases done

theorem registerShard_moves {uuid : UUID} {role : Role} {dsn advertiseURL startupState : String} {id : Nat}
    (done : registerShard now uuid role dsn advertiseURL startupState db = .ok (id, after)) :
    RowsMove now (.registerShard uuid role dsn advertiseURL startupState) db after := by
  unfold registerShard at done
  split at done
  · cases done
  · split at done
    · cases done
    · split at done
      · rcases map_ok_inv done with ⟨⟨affected, updated⟩, outcome, same⟩
        cases same
        apply rowsMove_only (updateWhere_ok outcome).2.1
        intro row _ chosen
        have sameUUID := of_decide_eq_true chosen
        subst sameUUID
        exact .readdress
      · rename_i absent
        cases done
        refine ⟨fun row => row, [registeredShard db.nextID uuid role dsn (nullStr advertiseURL) now],
          ?_, fun _ _ => .keep, ?_⟩
        · rw [List.map_id']
          rfl
        · intro row member
          rw [List.mem_singleton] at member
          refine ⟨uuid, role, dsn, advertiseURL, startupState, rfl, member, ?_⟩
          intro other otherMember same
          exact List.find?_eq_none.mp absent other otherMember (decide_eq_true same)

theorem beginDrain_moves {bucketID : String} (done : beginDrain now bucketID db = .ok ((), after)) :
    RowsMove now (.beginDrain bucketID) db after := by
  rcases requireRows_ok done with ⟨affected, updated, outcome, _, same⟩
  have table : after.shards = updated.shards := by rw [same, Db.bumpTopologyVersion_shards]
  apply rowsMove_only (table.trans (updateWhere_ok outcome).2.1)
  intro row _ chosen
  exact .drain (of_decide_eq_true chosen)

theorem markDrainReady_moves {uuid : UUID} (done : markDrainReady uuid db = .ok ((), after)) :
    RowsMove now (.markDrainReady uuid) db after := by
  rcases requireRows_ok done with ⟨affected, updated, outcome, _, rfl⟩
  apply rowsMove_only (updateWhere_ok outcome).2.1
  intro row _ chosen
  rcases of_decide_eq_true chosen with ⟨sameUUID, draining⟩
  subst sameUUID
  exact .ready draining

theorem updateStats_moves {uuid : UUID} {reportedBytes : Int}
    (done : updateStats now uuid reportedBytes db = .ok ((), after)) :
    RowsMove now (.updateStats uuid reportedBytes) db after := by
  rcases requireRows_ok done with ⟨affected, updated, outcome, _, rfl⟩
  apply rowsMove_only (updateWhere_ok outcome).2.1
  intro row _ chosen
  have sameUUID := of_decide_eq_true chosen
  subst sameUUID
  exact .stats

theorem setLastSeenAt_moves {uuid : UUID} {instant : Time}
    (done : setLastSeenAt uuid instant db = .ok ((), after)) :
    RowsMove now (.setLastSeenAt uuid instant) db after := by
  rcases map_ok_inv done with ⟨⟨affected, updated⟩, outcome, same⟩
  cases same
  apply rowsMove_only (updateWhere_ok outcome).2.1
  intro row _ chosen
  have sameUUID := of_decide_eq_true chosen
  subst sameUUID
  exact .seen

theorem markBucketCleaning_moves {bucketID : String} {count : Nat}
    (done : markBucketCleaning bucketID db = .ok (count, after)) :
    RowsMove now (.markBucketCleaning bucketID) db after := by
  unfold markBucketCleaning at done
  split at done
  · cases done
  · rename_i affected marked outcome
    have table : after.shards = marked.shards := by
      cases done
      split <;> rfl
    apply rowsMove_only (table.trans (updateWhere_ok outcome).2.1)
    intro row _ chosen
    exact .clean (of_decide_eq_true chosen)

theorem finishCleaning_moves {uuid : UUID} (done : finishCleaning uuid db = .ok ((), after)) :
    RowsMove now (.finishCleaning uuid) db after := by
  unfold finishCleaning at done
  split at done
  · cases done
  · rename_i affected recycled outcome
    by_cases nothing : affected = 0
    · rw [if_pos nothing] at done
      cases done
      exact rowsMove_same rfl
    · rw [if_neg nothing] at done
      cases done
      apply rowsMove_only (updateWhere_ok outcome).2.1
      intro row _ chosen
      rcases of_decide_eq_true chosen with ⟨sameUUID, cleaning⟩
      subst sameUUID
      exact .recycle cleaning

theorem patchState_moves {id : Nat} {newState : State}
    (done : patchState id newState db = .ok ((), after)) :
    RowsMove now (.patchState id newState) db after := by
  unfold patchState at done
  split at done
  · cases done
  · rename_i current found
    by_cases allowed : canTransition current.role current.state newState = true
    · rw [if_pos allowed] at done
      split at done
      · cases done
      · rename_i affected patched outcome
        split at done
        · cases done
        · cases done
          apply rowsMove_only (updateWhere_ok outcome).2.1
          intro row member chosen
          rcases of_decide_eq_true chosen with ⟨sameID, _⟩
          have isCurrent : row = current := by
            have currentID := List.find?_some found
            apply db.eq_of_id member (List.mem_of_find?_eq_some found)
            rw [sameID, of_decide_eq_true currentID]
          subst sameID
          apply Moves.patch
          rw [isCurrent]
          exact allowed
    · rw [if_neg allowed] at done
      cases done

end Transactions

/-- Time does not pass during an operation. -/
theorem perform_now (env : Env) (op : Op) (moment : Moment) :
    (perform env op moment).2.now = moment.now := by
  cases op <;> first | rfl | exact commit_now _ _

/-- Every operation moves rows, and adds one at most. -/
theorem perform_rowsMove (env : Env) (op : Op) (moment : Moment) :
    RowsMove moment.now op moment.db (perform env op moment).2.db := by
  cases op with
  | clock | getConfig | getTopologyVersion | listShards | getShardByID | getShardByUUID | getErrorShard
  | activeForBucket | staleActiveForBucket | listStaleActives | shardsForBucketRead | hasActiveInBucket
  | distinctBucketIDs | shardsNeedingSeal | countStandbyPool | shardsDraining => exact rowsMove_same rfl
  | bootstrap config =>
      apply commit_rowsMove
      intro value after done
      unfold bootstrap at done
      split at done
      · cases done
      · cases done
        exact rowsMove_same rfl
  | registerShard uuid role dsn advertiseURL startupState =>
      exact commit_rowsMove fun _ _ done => registerShard_moves done
  | promoteStandby bucketID => exact commit_rowsMove fun _ _ done => promoteStandby_moves done
  | sealRotate bucketID cause =>
      exact commit_rowsMove fun _ _ done =>
        rotate_moves (by decide) (fun _ => rfl) (fun _ serves => .sealActive serves)
          (fun _ pooled => .replaceSealed pooled) done
  | completeDrainSeal bucketID =>
      exact commit_rowsMove fun _ _ done =>
        rotate_moves (by decide) (fun _ => rfl) (fun _ serves => .sealDrained serves)
          (fun _ pooled => .replaceDrained pooled) done
  | beginDrain bucketID => exact commit_rowsMove fun _ _ done => beginDrain_moves done
  | markDrainReady uuid => exact commit_rowsMove fun _ _ done => markDrainReady_moves done
  | markBucketCleaning bucketID => exact commit_rowsMove fun _ _ done => markBucketCleaning_moves done
  | finishCleaning uuid => exact commit_rowsMove fun _ _ done => finishCleaning_moves done
  | patchState id newState => exact commit_rowsMove fun _ _ done => patchState_moves done
  | updateStats uuid reportedBytes => exact commit_rowsMove fun _ _ done => updateStats_moves done
  | setLastSeenAt uuid instant => exact commit_rowsMove fun _ _ done => setLastSeenAt_moves done

/-- Where a row after an operation comes from: an earlier row that moved, or a
registration. -/
theorem perform_row {env : Env} {op : Op} {moment : Moment} {row : Shard}
    (member : row ∈ (perform env op moment).2.db.shards) :
    (Exists fun source => source ∈ moment.db.shards ∧ Moves moment.now op source row) ∨
      (Exists fun uuid => Exists fun role => Exists fun dsn => Exists fun advertiseURL =>
        Exists fun startupState => op = .registerShard uuid role dsn advertiseURL startupState ∧
          row = registeredShard moment.db.nextID uuid role dsn (nullStr advertiseURL) moment.now ∧
          forall other, other ∈ moment.db.shards -> other.shardUUID ≠ uuid) := by
  rcases perform_rowsMove env op moment with ⟨move, added, table, moves, registered⟩
  rw [table, List.mem_append] at member
  rcases member with moved | new
  · rcases List.mem_map.mp moved with ⟨source, sourceMember, rfl⟩
    exact Or.inl ⟨source, sourceMember, moves source sourceMember⟩
  · exact Or.inr (registered row new)

/-- What becomes of a row. -/
theorem perform_moved (env : Env) (op : Op) {moment : Moment} {row : Shard}
    (member : row ∈ moment.db.shards) :
    Exists fun moved => moved ∈ (perform env op moment).2.db.shards ∧ Moves moment.now op row moved := by
  rcases perform_rowsMove env op moment with ⟨move, added, table, moves, _⟩
  refine ⟨move row, ?_, moves row member⟩
  rw [table]
  exact List.mem_append_left _ (List.mem_map.mpr ⟨row, member, rfl⟩)

end Store
end Shardman
