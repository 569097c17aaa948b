import Shardman.Foundation.RowSolo
import Shardman.Store.Commits
import Shardman.Store.LifeCycle
import Shardman.Store.Registration

namespace Shardman
namespace Store

open Fsm
open Bucket
open Foundation

/-!
# Transactions without company are atomic

When a transaction runs while no other one is in progress, its statements
together do exactly what `Shardman.Store.Transactions` says the transaction does
in one step: they return the same value or error and leave the same database.
-/

/-- An outcome with its value in the common form. -/
def returning {X : Type} (value : X -> TxValue) (tx : Tx X) : Tx TxValue := fun db =>
  (tx db).map fun outcome => (value outcome.1, outcome.2)

/-- The transaction as one step. -/
def StoreTx.atomic (env : Env) (now : Time) : StoreTx -> Tx TxValue
  | .bootstrap config => returning (fun _ => .nothing) (Store.bootstrap config)
  | .registerShard uuid role dsn advertiseURL startupState =>
      returning .shard (Store.registerShard now uuid role dsn advertiseURL startupState)
  | .promoteStandby bucketID => returning .shard (Store.promoteStandby now bucketID)
  | .sealRotate bucketID => returning (fun _ => .nothing) (Store.sealRotate env now bucketID)
  | .completeDrainSeal bucketID => returning (fun _ => .nothing) (Store.completeDrainSeal env now bucketID)
  | .beginDrain bucketID => returning (fun _ => .nothing) (Store.beginDrain now bucketID)
  | .markDrainReady uuid => returning (fun _ => .nothing) (Store.markDrainReady uuid)
  | .markBucketCleaning bucketID => returning .rows (Store.markBucketCleaning bucketID)
  | .finishCleaning uuid => returning (fun _ => .nothing) (Store.finishCleaning uuid)
  | .patchState id newState => returning (fun _ => .nothing) (Store.patchState id newState)
  | .updateStats uuid reportedBytes => returning (fun _ => .nothing) (Store.updateStats now uuid reportedBytes)
  | .setLastSeenAt uuid instant => returning (fun _ => .nothing) (Store.setLastSeenAt uuid instant)
  | .bumpTopologyVersion => fun db => .ok (.nothing, db.bumpTopologyVersion)

/-- A transaction without company sees a database. -/
structure Sees (committed : Committed Shard ClusterRow) (held : TxHeld) (db : Db) : Prop where
  solo : Solo shardLayout committed held
  shards : db.shards = held.visible shardLayout committed.table
  cluster : db.cluster = held.visibleSingle committed.single
  nextID : db.nextID = committed.next

/-- What a transaction leaves is what the atomic one makes of the database it
started from. -/
def Matches (start : Db) (expected : Except StoreError (TxValue × Db)) (outcome : Except StoreError TxValue)
    (held : TxHeld) (committed : Committed Shard ClusterRow) : Prop :=
  match expected with
  | .error failure => outcome = .error failure ∧ Represents committed start
  | .ok (value, later) => outcome = .ok value ∧ Represents (committed.absorb shardLayout held) later

section Statements

variable {committed : Committed Shard ClusterRow} {held : TxHeld} {db start : Db}
variable {expected : Except StoreError (TxValue × Db)}

theorem Sees.represents (sees : Sees committed held db) : Represents (committed.absorb shardLayout held) db :=
  ⟨sees.shards, sees.cluster, sees.nextID⟩

theorem Sees.locks {after : TxHeld} (sees : Sees committed held db) (solo : Solo shardLayout committed after)
    (locks : LocksOnly held after) : Sees committed after db where
  solo := solo
  shards := by rw [locks.visible, sees.shards]
  cluster := by rw [sees.cluster, Held.visibleSingle, Held.visibleSingle, locks.single]
  nextID := sees.nextID

theorem alone_error {failure : StoreError} (same : expected = .error failure)
    (represents : Represents committed start) :
    Alone (Matches start expected) (pure (.error failure) : StoreProgram) committed held := by
  subst same
  exact ⟨rfl, represents⟩

theorem alone_ok {value : TxValue} (same : expected = .ok (value, db)) (sees : Sees committed held db) :
    Alone (Matches start expected) (pure (.ok value) : StoreProgram) committed held := by
  subst same
  exact ⟨rfl, sees.represents⟩

theorem alone_bumpAndReturn {value : TxValue} (same : expected = .ok (value, db.bumpTopologyVersion))
    (sees : Sees committed held db) :
    Alone (Matches start expected) (StoreTx.bumpAndReturn value) committed held := by
  subst same
  refine (alone_bind StoreTx.bumpStatement _).mpr (alone_alter sees.solo fun after _ own single => ?_)
  refine ⟨rfl, ?_, ?_, sees.nextID⟩
  · change db.shards = after.visible shardLayout committed.table
    rw [sees.shards, Held.visible, Held.visible, own]
  · change db.cluster.map StoreTx.bumpRow = after.visibleSingle committed.single
    rw [single, sees.cluster]

/-- A change that gives no row a new place in the index of active shards. -/
theorem harmless_of_keyless {change : Rewrite}
    (keyless : forall row, activeKey (change.apply row) = activeKey row ∨ activeKey (change.apply row) = none) :
    Harmless change.rowChange := by
  intro row other clashes
  refine decide_eq_true ?_
  rcases of_decide_eq_true clashes with uuid | ⟨keyed, same⟩ | ⟨keyed, same⟩
  · exact Or.inl ((change.uuid_eq row).symm.trans uuid)
  · have kept : activeKey (change.apply row) = activeKey row := (keyless row).resolve_right keyed
    exact Or.inr (Or.inl ⟨kept ▸ keyed, kept ▸ same⟩)
  · have kept : errorKey (change.apply row) = errorKey row := by simp only [errorKey, change.role_eq]
    exact Or.inr (Or.inr ⟨kept ▸ keyed, kept ▸ same⟩)

/-- Rows that are not active afterwards leave that index. -/
theorem unindexed {change : Rewrite} (inactive : forall row, (change.apply row).state ≠ .active) (row : Shard) :
    activeKey (change.apply row) = activeKey row ∨ activeKey (change.apply row) = none :=
  Or.inr (if_neg fun both => inactive row both.2)

/-- The table after an update satisfies the indexes, so the update succeeds. -/
theorem updateWhere_of_visible {after : TxHeld} {condition : Shard -> Bool} {change : Rewrite}
    (sees : Sees committed held db) (solo : Solo shardLayout committed after)
    (updates : Updates shardLayout condition change.rowChange committed.table held after) :
    Exists fun later => db.updateWhere condition change = .ok ((db.shards.filter condition).length, later) ∧
      Sees committed after later := by
  have table : db.shards.map (change.only condition).apply = after.visible shardLayout committed.table := by
    rw [updates.1, sees.shards]
    rfl
  have unique : IndexUnique activeKey (db.shards.map (change.only condition).apply) := by
    rw [table]
    exact indexUnique_of_clashFree (fun first second keyed same => decide_eq_true (Or.inr (Or.inl ⟨keyed, same⟩)))
      solo.visible_clashFree
  cases outcome : db.updateWhere condition change with
  | error failure => exact absurd unique (updateWhere_error outcome).2
  | ok result =>
      rcases result with ⟨affected, later⟩
      rcases updateWhere_ok outcome with ⟨count, shards, nextID, cluster⟩
      refine ⟨later, by rw [count], solo, shards.trans table, ?_, nextID.trans sees.nextID⟩
      rw [cluster, sees.cluster, Held.visibleSingle, Held.visibleSingle, updates.2.1]

theorem alone_update {claim : Option Nat -> TxHeld -> Committed Shard ClusterRow -> Prop} (env : Env)
    {condition : Shard -> Bool} {change : Rewrite} (sees : Sees committed held db)
    (keyless : forall row, activeKey (change.apply row) = activeKey row ∨ activeKey (change.apply row) = none)
    (finishes : forall after later,
      db.updateWhere condition change = .ok ((db.shards.filter condition).length, later) ->
      Sees committed after later -> claim (some (db.shards.filter condition).length) after committed) :
    Alone claim (StoreTx.update env condition change) committed held := by
  refine alone_updateRows (harmless_of_keyless keyless) sees.solo env.heapOrder_perm fun after solo updates => ?_
  rcases updateWhere_of_visible sees solo updates with ⟨later, outcome, seesLater⟩
  rw [← sees.shards]
  exact finishes after later outcome seesLater

/-- An update of one row fails exactly when the atomic one does. -/
theorem alone_updateOne {claim : Option Nat -> TxHeld -> Committed Shard ClusterRow -> Prop} (env : Env)
    {condition : Shard -> Bool} {change : Rewrite} {row : Shard} (sees : Sees committed held db)
    (found : db.shards.filter condition = [row])
    (refused : db.updateWhere condition change = .error .uniqueViolation -> claim none held committed)
    (finishes : forall after later, db.updateWhere condition change = .ok (1, later) ->
      Sees committed after later -> claim (some 1) after committed) :
    Alone claim (StoreTx.update env condition change) committed held := by
  have listed : row ∈ db.shards.filter condition := by
    rw [found]
    exact List.mem_singleton_self row
  have facts := List.mem_filter.mp listed
  rw [sees.shards] at found
  refine alone_updateSingle sees.solo env.heapOrder_perm found ?_ fun after _ solo updates => ?_
  · rintro ⟨other, seen, different, clashes⟩
    rw [← sees.shards] at seen found
    have notID : other.id ≠ row.id := different
    apply refused
    cases outcome : db.updateWhere condition change with
    | error failure => rw [(updateWhere_error outcome).1]
    | ok result =>
        exfalso
        rcases result with ⟨affected, later⟩
        rcases updateWhere_ok outcome with ⟨_, shards, _, _⟩
        rcases of_decide_eq_true clashes with uuid | ⟨keyed, same⟩ | ⟨keyed, same⟩
        · refine notID (db.uuidUnique other seen row facts.1 (Option.some_ne_none _) (congrArg some ?_))
          exact uuid.symm.trans (change.uuid_eq row)
        · -- The new version and the other row stand in the table under one key.
          have unselected : ¬ condition other = true := by
            intro selected
            have again : other ∈ db.shards.filter condition := List.mem_filter.mpr ⟨seen, selected⟩
            rw [found, List.mem_singleton] at again
            exact notID (congrArg Shard.id again)
          have changed : change.apply row ∈ later.shards := by
            rw [shards]
            exact List.mem_map.mpr ⟨row, facts.1, if_pos facts.2⟩
          have kept : other ∈ later.shards := by
            rw [shards]
            exact List.mem_map.mpr ⟨other, seen, if_neg unselected⟩
          have sameID := later.oneActivePerBucket _ changed _ kept keyed same
          exact notID (sameID.symm.trans (change.id_eq row))
        · have kept : errorKey (change.apply row) = errorKey row := by simp only [errorKey, change.role_eq]
          exact notID (db.oneError row facts.1 other seen (kept ▸ keyed) (kept ▸ same)).symm
  · rcases updateWhere_of_visible sees solo updates with ⟨later, outcome, seesLater⟩
    have count : (db.shards.filter condition).length = 1 := by
      rw [sees.shards, found]
      rfl
    rw [count] at outcome
    exact finishes after later outcome seesLater

theorem filter_by_id {row : Shard} (member : row ∈ db.shards) (condition : Shard -> Bool)
    (selected : condition row = true) (only : forall other, condition other = true -> other.id = row.id) :
    db.shards.filter condition = [row] := by
  refine List.perm_singleton.mp ((List.perm_ext_iff_of_nodup (db.nodup.filter _) (List.nodup_singleton row)).mpr ?_)
  intro other
  rw [List.mem_filter, List.mem_singleton]
  constructor
  · rintro ⟨otherMember, chosen⟩
    exact db.eq_of_id otherMember member (only other chosen)
  · rintro rfl
    exact ⟨member, selected⟩

end Statements

/-! ## Every transaction -/

section Transactions

open StoreTx

variable {committed : Committed Shard ClusterRow} {held : TxHeld} {env : Env} {now : Time} {db start : Db}
variable {expected : Except StoreError (TxValue × Db)}

/-- Putting a standby into a bucket, as the atomic transactions do it. -/
theorem alone_fill {bucketID : String} {value : TxValue} {spare : Shard} (sees : Sees committed held db)
    (represents : Represents committed start) (member : spare ∈ db.shards)
    (refused : db.updateWhere (fun row => row.id = spare.id) (.activate now bucketID) = .error .uniqueViolation ->
      expected = .error .uniqueViolation)
    (filled : forall later, db.updateWhere (fun row => row.id = spare.id) (.activate now bucketID) = .ok (1, later) ->
      expected = .ok (value, later.bumpTopologyVersion)) :
    Alone (Matches start expected) (fill env now bucketID spare.id value) committed held := by
  have found := filter_by_id member (fun row => row.id = spare.id) (decide_eq_true rfl)
    fun _ => of_decide_eq_true
  refine (alone_bind (update env _ _) _).mpr (alone_updateOne env sees found ?_ ?_)
  · exact fun failed => alone_error (refused failed) represents
  · exact fun after later outcome seesLater => alone_bumpAndReturn (filled later outcome) seesLater

theorem alone_promote {bucketID : String} (sees : Sees committed held db) (represents : Represents committed db) :
    Alone (Matches db (StoreTx.atomic env now (.promoteStandby bucketID) db)) (promoteStandbyBody env now bucketID)
      committed held := by
  refine (alone_bind selectStandby _).mpr (alone_selectFree sees.solo fun after solo locks => ?_)
  have later := sees.locks solo locks
  rw [← sees.shards]
  cases found : nextStandby db with
  | none =>
      have same : db.shards.find? (fun row => decide (Pooled row)) = none := found
      rw [same]
      refine alone_error ?_ represents
      simp only [StoreTx.atomic, returning, Store.promoteStandby, found, Except.map]
  | some spare =>
      have same : db.shards.find? (fun row => decide (Pooled row)) = some spare := found
      rw [same]
      refine alone_fill later represents (nextStandby_some found).1 ?_ ?_
      · intro failed
        simp only [StoreTx.atomic, returning, Store.promoteStandby, found, failed, Except.map]
      · intro filled outcome
        simp only [StoreTx.atomic, returning, Store.promoteStandby, found, outcome, Except.map]

theorem alone_refill {bucketID : String} (sees : Sees committed held db) (represents : Represents committed start)
    (same : expected = returning (fun _ => .nothing) (Store.refill now bucketID) db) :
    Alone (Matches start expected) (refillBody env now bucketID) committed held := by
  refine (alone_bind selectStandby _).mpr (alone_selectFree sees.solo fun after solo locks => ?_)
  have later := sees.locks solo locks
  rw [← sees.shards, same]
  cases found : nextStandby db with
  | none =>
      have none : db.shards.find? (fun row => decide (Pooled row)) = none := found
      rw [none]
      refine alone_bumpAndReturn ?_ later
      simp only [returning, refill, found, Except.map]
  | some spare =>
      have some : db.shards.find? (fun row => decide (Pooled row)) = some spare := found
      rw [some]
      refine alone_fill later represents (nextStandby_some found).1 ?_ ?_
      · intro failed
        simp only [returning, refill, found, failed, Except.map]
      · intro filled outcome
        simp only [returning, refill, found, outcome, Except.map]

theorem alone_rotate {bucketID : String} {retired : State} {retire : Rewrite}
    (keyless : forall row, activeKey (retire.apply row) = activeKey row ∨ activeKey (retire.apply row) = none)
    (sees : Sees committed held db) (represents : Represents committed db) :
    Alone (Matches db (returning (fun _ => .nothing) (Store.rotate env now bucketID retired retire) db))
      (rotateBody env now bucketID retired retire) committed held := by
  refine (alone_bind (selectLocked env _) _).mpr
    (alone_selectForUpdate sees.solo env.heapOrder_perm fun after solo locks => ?_)
  have later := sees.locks solo locks
  rw [← sees.shards]
  cases found : (scan env db (InState retired bucketID)).head? with
  | none =>
      have none : (env.heapOrder (db.shards.filter fun row => decide (InState retired bucketID row))).head? = none :=
        found
      rw [none]
      refine alone_error ?_ represents
      simp only [returning, rotate, found, Except.map]
  | some old =>
      have some : (env.heapOrder (db.shards.filter fun row => decide (InState retired bucketID row))).head? =
        some old := found
      rw [some]
      have member := (scan_head_some found).1
      have only := filter_by_id member (fun row => row.id = old.id ∧ row.version = old.version)
        (decide_eq_true ⟨rfl, rfl⟩) fun _ chosen => (of_decide_eq_true chosen).1
      refine (alone_bind (update env _ _) _).mpr
        (alone_update env later keyless fun final vacant outcome seesVacant => ?_)
      rw [only] at outcome ⊢
      refine alone_refill seesVacant represents ?_
      simp only [returning, rotate, found, outcome, List.length_singleton, Nat.one_ne_zero, if_false]

theorem alone_requireRow {condition : Shard -> Bool} {change : Rewrite} {finish : StoreProgram} {last : Db -> Db}
    (keyless : forall row, activeKey (change.apply row) = activeKey row ∨ activeKey (change.apply row) = none)
    (sees : Sees committed held db) (represents : Represents committed db)
    (finishes : forall after later, Sees committed after later ->
      Alone (Matches db (.ok (.nothing, last later))) finish committed after) :
    Alone (Matches db (returning (fun _ => .nothing) (fun db => requireRows (db.updateWhere condition change) last) db))
      (requireRow env condition change finish) committed held := by
  refine (alone_bind (update env _ _) _).mpr (alone_update env sees keyless fun after later outcome seesLater => ?_)
  have expected :
      returning (fun _ => TxValue.nothing) (fun db => requireRows (db.updateWhere condition change) last) db =
      if (db.shards.filter condition).length = 0 then .error .notFound else .ok (.nothing, last later) := by
    simp only [returning, requireRows, outcome]
    split <;> rfl
  rw [expected]
  cases count : (db.shards.filter condition).length with
  | zero => exact alone_error rfl represents
  | succ rest => exact finishes after later seesLater

theorem alone_markBucketCleaning {bucketID : String} (sees : Sees committed held db) :
    Alone (Matches db (StoreTx.atomic env now (.markBucketCleaning bucketID) db))
      (markBucketCleaningBody env bucketID) committed held := by
  refine (alone_bind (update env _ _) _).mpr
    (alone_update env sees (unindexed fun _ => by rintro ⟨⟩) fun after later outcome seesLater => ?_)
  have expected : StoreTx.atomic env now (.markBucketCleaning bucketID) db =
      .ok (.rows (db.shards.filter fun row => decide (InState .sealed bucketID row)).length,
        if 0 < (db.shards.filter fun row => decide (InState .sealed bucketID row)).length then
          later.bumpTopologyVersion else later) := by
    simp only [StoreTx.atomic, returning, Store.markBucketCleaning, outcome, Except.map]
  rw [expected]
  cases count : (db.shards.filter fun row => decide (InState .sealed bucketID row)).length with
  | zero => exact alone_ok rfl seesLater
  | succ rest => exact alone_bumpAndReturn (by rw [if_pos (Nat.succ_pos rest)]) seesLater

theorem alone_finishCleaning {uuid : UUID} (sees : Sees committed held db) :
    Alone (Matches db (StoreTx.atomic env now (.finishCleaning uuid) db)) (finishCleaningBody env uuid)
      committed held := by
  refine (alone_bind (update env _ _) _).mpr
    (alone_update env sees (unindexed fun _ => by rintro ⟨⟩) fun after later outcome seesLater => ?_)
  have expected : StoreTx.atomic env now (.finishCleaning uuid) db =
      .ok (.nothing,
        if (db.shards.filter fun row => decide (row.shardUUID = uuid ∧ row.state = .cleaning)).length = 0 then db
        else later.bumpTopologyVersion) := by
    simp only [StoreTx.atomic, returning, Store.finishCleaning, outcome, Except.map]
  rw [expected]
  cases count : (db.shards.filter fun row => decide (row.shardUUID = uuid ∧ row.state = .cleaning)).length with
  | zero =>
      -- Nothing was selected, so the table did not change.
      have same : later = db := by
        rcases updateWhere_ok outcome with ⟨_, shards, nextID, cluster⟩
        refine Db.eq_of_contents (shards.trans ?_) nextID cluster
        refine (List.map_congr_left fun row member => ?_).trans (List.map_id _)
        refine if_neg fun selected => ?_
        have listed : row ∈ db.shards.filter fun row => decide (row.shardUUID = uuid ∧ row.state = .cleaning) :=
          List.mem_filter.mpr ⟨member, selected⟩
        rw [List.eq_nil_of_length_eq_zero count] at listed
        cases listed
      rw [same] at seesLater
      exact alone_ok rfl seesLater
  | succ rest => exact alone_bumpAndReturn (by rw [if_neg (Nat.succ_ne_zero rest)]) seesLater

theorem alone_patchState {id : Nat} {newState : State} (sees : Sees committed held db)
    (represents : Represents committed db) :
    Alone (Matches db (StoreTx.atomic env now (.patchState id newState) db)) (patchStateBody env id newState)
      committed held := by
  refine (alone_bind (selectLocked env _) _).mpr
    (alone_selectForUpdate sees.solo env.heapOrder_perm fun after solo locks => ?_)
  have later := sees.locks solo locks
  rw [← sees.shards]
  cases found : getShardByID db id with
  | none =>
      have empty : db.shards.filter (fun row => decide (row.id = id)) = [] :=
        List.filter_eq_nil_iff.mpr fun row member => List.find?_eq_none.mp found row member
      have ordered : env.heapOrder [] = [] := List.perm_nil.mp (env.heapOrder_perm [])
      rw [empty, ordered]
      refine alone_error ?_ represents
      simp only [StoreTx.atomic, returning, Store.patchState, found, Except.map]
  | some current =>
      have member := List.mem_of_find?_eq_some found
      have named := List.find?_some found
      have sameID : current.id = id := of_decide_eq_true named
      subst sameID
      have only := filter_by_id member (fun row => row.id = current.id) (decide_eq_true rfl)
        fun _ => of_decide_eq_true
      have ordered : env.heapOrder [current] = [current] := List.perm_singleton.mp (env.heapOrder_perm [current])
      rw [only, ordered]
      change Alone _ (if canTransition current.role current.state newState = true then _ else _) _ _
      split
      · rename_i allowed
        have chosen := filter_by_id member
          (fun row => row.id = current.id ∧ row.version = current.version) (decide_eq_true ⟨rfl, rfl⟩)
          fun _ chosen => (of_decide_eq_true chosen).1
        refine (alone_bind (update env _ _) _).mpr (alone_updateOne env later chosen ?_ ?_)
        · intro failed
          refine alone_error ?_ represents
          simp only [StoreTx.atomic, returning, Store.patchState, found, allowed, if_true, failed, Except.map]
        · intro final patched outcome seesPatched
          refine alone_bumpAndReturn ?_ seesPatched
          simp only [StoreTx.atomic, returning, Store.patchState, found, allowed, if_true, outcome, Nat.one_ne_zero,
            if_false, Except.map]
      · rename_i forbidden
        refine alone_error ?_ represents
        simp only [StoreTx.atomic, returning, Store.patchState, found, forbidden, Bool.false_eq_true, if_false,
          Except.map]

theorem alone_insertShard {uuid : UUID} {role : Role} {dsn advertiseURL : String} (sees : Sees committed held db)
    (known : forall row later, getShardByUUID db uuid = some row ->
      db.updateWhere (fun other => other.shardUUID = uuid) (.readdress dsn (nullStr advertiseURL) now) =
        .ok ((db.shards.filter fun other => decide (other.shardUUID = uuid)).length, later) ->
      expected = .ok (.shard row.id, later.skipID.bumpTopologyVersion))
    (new : getShardByUUID db uuid = none ->
      (role = .error -> forall row, row ∈ db.shards -> row.role ≠ .error) ∧
      Exists fun later : Db => later.shards =
        db.shards ++ [registeredShard db.nextID uuid role dsn (nullStr advertiseURL) now] ∧
        later.nextID = db.nextID + 1 ∧ later.cluster = db.cluster ∧
        expected = .ok (.shard db.nextID, later.bumpTopologyVersion)) :
    Alone (Matches start expected) (insertShard now uuid role dsn advertiseURL) committed held := by
  refine (alone_bind (upsert ClusterRow shardLayout _ _ _) _).mpr ?_
  cases found : getShardByUUID db uuid with
  | some row =>
      have visible : (held.visible shardLayout committed.table).find? (fun row => decide (row.shardUUID = uuid)) =
          some row := by
        rw [← sees.shards]
        exact found
      have named := List.find?_some found
      have member := List.mem_of_find?_eq_some found
      refine alone_upsert_known (harmless_of_keyless fun _ => Or.inl rfl) sees.solo visible ?_ ?_
      · intro other seen chosen
        rw [← sees.shards] at seen
        exact eq_of_uuid seen member ((of_decide_eq_true chosen).trans (of_decide_eq_true named).symm)
      · intro after solo table single
        rcases updateWhere_unindexing db (fun other => other.shardUUID = uuid)
          (.readdress dsn (nullStr advertiseURL) now) (fun _ _ _ => Or.inl rfl) with ⟨later, outcome⟩
        rcases updateWhere_ok outcome with ⟨_, shards, nextID, cluster⟩
        have seesLater : Sees { committed with next := committed.next + 1 } after later.skipID := by
          refine ⟨solo, ?_, ?_, ?_⟩
          · change later.shards = after.visible shardLayout committed.table
            rw [table, shards, sees.shards]
            rfl
          · change later.cluster = after.visibleSingle committed.single
            rw [cluster, sees.cluster, Held.visibleSingle, Held.visibleSingle, single]
          · change later.nextID + 1 = committed.next + 1
            rw [nextID, sees.nextID]
        exact alone_bumpAndReturn (known row later found outcome) seesLater
  | none =>
      rcases new found with ⟨noError, later, shards, nextID, cluster, same⟩
      have visible : (held.visible shardLayout committed.table).find? (fun row => decide (row.shardUUID = uuid)) =
          none := by
        rw [← sees.shards]
        exact found
      refine alone_upsert_new sees.solo visible ?_ ?_
      · intro other seen
        rw [← sees.shards] at seen
        refine decide_eq_false ?_
        rintro (sameUUID | ⟨keyed, _⟩ | ⟨keyed, sameKey⟩)
        · exact List.find?_eq_none.mp found other seen (decide_eq_true sameUUID.symm)
        · exact keyed (registeredShard_unindexed ..)
        · have isError : role = .error := by
            by_contra notError
            exact keyed (if_neg notError)
          have otherKey : errorKey other = none := if_neg (noError isError other seen)
          exact keyed (sameKey.trans otherKey)
      · intro after solo table single
        have seesLater : Sees { committed with next := committed.next + 1 } after later := by
          refine ⟨solo, ?_, ?_, ?_⟩
          · change later.shards = after.visible shardLayout committed.table
            rw [table, shards, sees.shards, sees.nextID]
            rfl
          · change later.cluster = after.visibleSingle committed.single
            rw [cluster, sees.cluster, Held.visibleSingle, Held.visibleSingle, single]
          · exact nextID.trans (congrArg (· + 1) sees.nextID)
        rw [sees.nextID] at same
        exact alone_bumpAndReturn same seesLater

theorem alone_registerShard {uuid : UUID} {role : Role} {dsn advertiseURL startupState : String}
    (sees : Sees committed held db) (represents : Represents committed db) :
    Alone (Matches db (StoreTx.atomic env now (.registerShard uuid role dsn advertiseURL startupState) db))
      (registerShardBody now uuid role dsn advertiseURL startupState) committed held := by
  have inserts : ¬ (¬ startupStateAllowed startupState = true ∧ role ≠ .error) ->
      ¬ (role = .error ∧ Exists fun row => row ∈ db.shards ∧ row.role = .error) ->
      Alone (Matches db (StoreTx.atomic env now (.registerShard uuid role dsn advertiseURL startupState) db))
        (insertShard now uuid role dsn advertiseURL) committed held := by
    intro welcome free
    refine alone_insertShard sees ?_ ?_
    · intro row later found outcome
      simp only [StoreTx.atomic, returning, Store.registerShard]
      rw [if_neg welcome, dif_neg free]
      split
      · rename_i other known
        rw [found] at known
        cases known
        rw [outcome]
        rfl
      · rename_i unknown
        rw [found] at unknown
        cases unknown
    · intro found
      refine ⟨fun isError row member sameRole => free ⟨isError, row, member, sameRole⟩, ?_⟩
      simp only [StoreTx.atomic, returning, Store.registerShard]
      rw [if_neg welcome, dif_neg free]
      split
      · rename_i other known
        rw [found] at known
        cases known
      · refine ⟨_, ?_, ?_, ?_, rfl⟩ <;> rfl
  unfold registerShardBody
  split
  · rename_i unwelcome
    refine alone_error ?_ represents
    simp only [StoreTx.atomic, returning, Store.registerShard]
    rw [if_pos unwelcome]
    rfl
  · rename_i welcome
    split
    · rename_i isError
      refine ⟨_, held, rfl, ?_⟩
      change Alone _ (if 0 < ((held.visible shardLayout committed.table).filter
        fun row => decide (row.role = .error)).length then _ else _) committed held
      rw [← sees.shards]
      split
      · rename_i some
        rcases List.length_pos_iff_exists_mem.mp some with ⟨row, listed⟩
        have facts := List.mem_filter.mp listed
        refine alone_error ?_ represents
        simp only [StoreTx.atomic, returning, Store.registerShard]
        rw [if_neg welcome, dif_pos ⟨isError, row, facts.1, of_decide_eq_true facts.2⟩]
        rfl
      · rename_i none
        refine inserts welcome ?_
        rintro ⟨_, row, member, sameRole⟩
        exact none (List.length_pos_of_mem (List.mem_filter.mpr ⟨member, decide_eq_true sameRole⟩))
    · rename_i notError
      exact inserts welcome fun taken => notError taken.1

theorem alone_bootstrap {config : ClusterConfig} (represents : Represents committed db)
    (sees : Sees committed Held.empty db) :
    Alone (Matches db (StoreTx.atomic env now (.bootstrap config) db)) (bootstrapBody config) committed .empty := by
  refine ⟨_, .empty, rfl, ?_⟩
  change Alone _ ((fun existing : Option ClusterRow => _) committed.single) committed .empty
  cases found : committed.single with
  | some row =>
      refine alone_error ?_ represents
      have present : db.cluster = some row := represents.cluster.trans found
      simp only [StoreTx.atomic, returning, Store.bootstrap, present, Except.map]
  | none =>
      have absent : db.cluster = none := represents.cluster.trans found
      have done : access shardLayout [] committed (.empty : TxHeld) (.create ⟨config, 1⟩) =
          some (true, Held.empty.putSingle committed.single ⟨config, 1⟩) := by
        have visible : (Held.empty : TxHeld).visibleSingle committed.single = none := found
        simp only [access, if_neg not_singleTaken_nil, visible]
        rfl
      refine ⟨true, _, done, ?_⟩
      have expected : StoreTx.atomic env now (.bootstrap config) db =
          .ok (.nothing, { db with cluster := some ⟨config, 1⟩ }) := by
        simp only [StoreTx.atomic, returning, Store.bootstrap, absent, Except.map]
      rw [expected]
      exact ⟨rfl, sees.shards, rfl, sees.nextID⟩

theorem body_alone (tx : StoreTx) (sees : Sees committed .empty db) (represents : Represents committed db) :
    Alone (Matches db (StoreTx.atomic env now tx db)) (StoreTx.body env now tx) committed .empty := by
  cases tx with
  | bootstrap config => exact alone_bootstrap represents sees
  | registerShard uuid role dsn advertiseURL startupState => exact alone_registerShard sees represents
  | promoteStandby bucketID => exact alone_promote sees represents
  | sealRotate bucketID => exact alone_rotate (unindexed fun _ => by rintro ⟨⟩) sees represents
  | completeDrainSeal bucketID =>
      exact alone_rotate (unindexed fun _ => by rintro ⟨⟩) sees represents
  | beginDrain bucketID =>
      exact alone_requireRow (unindexed fun _ => by rintro ⟨⟩) sees represents
        fun after later seesLater => alone_bumpAndReturn rfl seesLater
  | markDrainReady uuid =>
      exact alone_requireRow (fun _ => Or.inl rfl) sees represents fun after later seesLater => alone_ok rfl seesLater
  | markBucketCleaning bucketID => exact alone_markBucketCleaning sees
  | finishCleaning uuid => exact alone_finishCleaning sees
  | patchState id newState => exact alone_patchState sees represents
  | updateStats uuid reportedBytes =>
      exact alone_requireRow (fun _ => Or.inl rfl) sees represents fun after later seesLater => alone_ok rfl seesLater
  | setLastSeenAt uuid instant =>
      refine (alone_bind (update env _ _) _).mpr
        (alone_update env sees (fun _ => Or.inl rfl) fun after later outcome seesLater => ?_)
      refine alone_ok ?_ seesLater
      simp only [StoreTx.atomic, returning, Store.setLastSeenAt, outcome, Except.map]
  | bumpTopologyVersion => exact alone_bumpAndReturn rfl sees

end Transactions

/-! ## On the server -/

/-- A server that has answered as the atomic transaction would, and has the
database that it leaves. -/
def Settled (start : Db) (expected : Except StoreError (TxValue × Db)) (outcome : Except StoreError TxValue)
    (committed : Committed Shard ClusterRow) : Prop :=
  match expected with
  | .error failure => outcome = .error failure ∧ Represents committed start
  | .ok (value, later) => outcome = .ok value ∧ Represents committed later

theorem Matches.settled {start : Db} {expected : Except StoreError (TxValue × Db)}
    {outcome : Except StoreError TxValue} {held : TxHeld} {committed : Committed Shard ClusterRow}
    (agree : Matches start expected outcome held committed) :
    Settled start expected outcome (committed.settle shardLayout held outcome) := by
  unfold Matches at agree
  unfold Settled
  split
  · rcases agree with ⟨rfl, represents⟩
    exact ⟨rfl, represents⟩
  · rcases agree with ⟨rfl, represents⟩
    exact ⟨rfl, represents⟩

theorem sees_of_represents {committed : Committed Shard ClusterRow} {db : Db}
    (represents : Represents committed db) : Sees committed .empty db := by
  have sorted : shardLayout.Sorted committed.table := by
    rw [← represents.shards]
    exact db.ordered
  refine ⟨⟨sorted, ?_, ?_, fits_empty committed, (fun _ absent => by cases absent), fun _ absent => by cases absent⟩,
    ?_, represents.cluster, represents.nextID⟩
  · rw [← represents.shards]
    exact clashFree_of_db db
  · rw [← represents.shards, ← represents.nextID]
    exact db.issued
  · exact represents.shards.trans (Layout.overlay_nil sorted).symm

/-- A transaction that is started while no other is in progress can be run to its
end, statement by statement, and then the server has answered and stored exactly
what the transaction does in one step. -/
theorem transaction_alone_is_atomic {env : Env} {server : DbServer} {db : Db} (idle : server.Idle)
    (represents : Represents server.committed db) (tx : StoreTx) :
    Exists fun outcome => Exists fun past => Exists fun after : DbServer => DbServerRun env server past after ∧
      after.sessions = server.sessions ++ [⟨tx, server.now, .finish outcome, .empty, false⟩] ∧
      Settled db (StoreTx.atomic env server.now tx db) outcome after.committed := by
  rcases run_alone (fun tx now => StoreTx.body env now tx) idle tx
    (body_alone tx (sees_of_represents represents) represents) with ⟨outcome, last, state, past, agree, run⟩
  exact ⟨outcome, past, _, run, rfl, agree.settled⟩

/-- The rotation of a bucket in service reads and locks rows. -/
theorem transaction_alone_is_atomic_rotation :
    Exists fun outcome => Exists fun past => Exists fun after : DbServer =>
      DbServerRun sampleEnv (servingMoment.db.serve 0) past after ∧
      after.sessions = (servingMoment.db.serve 0).sessions ++
        [⟨.sealRotate "n5", 0, .finish outcome, .empty, false⟩] ∧
      Settled servingMoment.db (StoreTx.atomic sampleEnv 0 (.sealRotate "n5") servingMoment.db) outcome
        after.committed := by
  have idle : (servingMoment.db.serve 0).Idle := fun _ absent => absurd absent List.not_mem_nil
  exact transaction_alone_is_atomic idle ⟨rfl, rfl, rfl⟩ (.sealRotate "n5")

end Store
end Shardman
