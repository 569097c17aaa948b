import Shardman.Store.Transactions

namespace Shardman
namespace Store

open Fsm
open Bucket

/-!
# What the transactions do

Each transaction is described once by the cases of its outcome: which error it
ends in under which condition, or the table it leaves.  The proofs of this
module are the only ones that look inside the statements of a transaction.
-/

/-! ## Rows and queries -/

section Rows

variable {env : Env} {db : Db} {now : Time}

theorem mem_scan {condition : Shard -> Prop} [DecidablePred condition] {row : Shard} :
    row ∈ scan env db condition ↔ row ∈ db.shards ∧ condition row := by
  rw [scan, (env.heapOrder_perm _).mem_iff, List.mem_filter, decide_eq_true_iff]

theorem scan_head_some {condition : Shard -> Prop} [DecidablePred condition] {row : Shard}
    (found : (scan env db condition).head? = some row) : row ∈ db.shards ∧ condition row :=
  mem_scan.mp (List.mem_of_head? found)

theorem scan_head_none {condition : Shard -> Prop} [DecidablePred condition]
    (empty : (scan env db condition).head? = none) {row : Shard} (member : row ∈ db.shards) :
    ¬ condition row := by
  intro holds
  have listed : row ∈ scan env db condition := mem_scan.mpr ⟨member, holds⟩
  rw [List.head?_eq_none_iff.mp empty] at listed
  cases listed

theorem activeKey_eq_some {row : Shard} {bucketID : String} :
    activeKey row = some bucketID ↔ InState .active bucketID row := by
  unfold activeKey InState
  by_cases active : row.role = .data ∧ row.state = .active
  · rw [if_pos active]
    exact ⟨fun same => ⟨active.1, same, active.2⟩, fun state => state.2.1⟩
  · simp only [if_neg active, reduceCtorEq, false_iff]
    rintro ⟨data, _, state⟩
    exact active ⟨data, state⟩

/-- The active row of a bucket is unique. -/
theorem active_unique {bucketID : String} {first second : Shard} (firstMember : first ∈ db.shards)
    (secondMember : second ∈ db.shards) (firstActive : InState .active bucketID first)
    (secondActive : InState .active bucketID second) : first = second := by
  have firstKey := activeKey_eq_some.mpr firstActive
  have secondKey := activeKey_eq_some.mpr secondActive
  apply db.eq_of_id firstMember secondMember
  apply db.oneActivePerBucket first firstMember second secondMember
  · rw [firstKey]
    exact Option.some_ne_none _
  · rw [firstKey, secondKey]

theorem nextStandby_some {row : Shard} (found : nextStandby db = some row) :
    row ∈ db.shards ∧ Pooled row := by
  have pooled := List.find?_some found
  exact ⟨List.mem_of_find?_eq_some found, of_decide_eq_true pooled⟩

theorem nextStandby_none (empty : nextStandby db = none) {row : Shard} (member : row ∈ db.shards) :
    ¬ Pooled row := by
  intro pooled
  exact List.find?_eq_none.mp empty row member (decide_eq_true pooled)

theorem hasActiveInBucket_iff {bucketID : String} :
    hasActiveInBucket db bucketID = true ↔ Exists fun row => row ∈ db.shards ∧ Live bucketID row := by
  rw [hasActiveInBucket, decide_eq_true_iff, List.length_pos_iff_exists_mem]
  simp only [List.mem_filter, decide_eq_true_iff]

/-- Advancing the topology version leaves the configuration alone. -/
theorem getConfig_bumped {after : Db} (cluster : after.cluster = db.bumpTopologyVersion.cluster) :
    getConfig after = getConfig db := by
  rw [getConfig, getConfig, cluster, Db.bumpTopologyVersion]
  cases db.cluster <;> rfl

/-- Ids look rows up. -/
theorem getShardByID_mem {row : Shard} (member : row ∈ db.shards) :
    getShardByID db row.id = some row := by
  cases found : getShardByID db row.id with
  | none => exact absurd (decide_eq_true rfl) (List.find?_eq_none.mp found row member)
  | some other =>
      have chosen := List.find?_some found
      have sameID := of_decide_eq_true chosen
      rw [db.eq_of_id (List.mem_of_find?_eq_some found) member sameID]

end Rows

/-! ## Single statements -/

section Statements

variable {db after : Db}

theorem rewrite_ok {change : Rewrite} (done : db.rewrite change = .ok after) :
    after.shards = db.shards.map change.apply ∧ after.nextID = db.nextID ∧ after.cluster = db.cluster := by
  unfold Db.rewrite at done
  split at done
  · cases done
    exact ⟨rfl, rfl, rfl⟩
  · cases done

theorem updateWhere_ok {condition : Shard -> Bool} {change : Rewrite} {affected : Nat}
    (done : db.updateWhere condition change = .ok (affected, after)) :
    affected = (db.shards.filter condition).length ∧
      after.shards = db.shards.map (change.only condition).apply ∧ after.nextID = db.nextID ∧
      after.cluster = db.cluster := by
  unfold Db.updateWhere at done
  cases outcome : db.rewrite (change.only condition) with
  | error failure =>
      rw [outcome] at done
      cases done
  | ok written =>
      rw [outcome] at done
      cases done
      exact ⟨rfl, rewrite_ok outcome⟩

/-- A statement fails only on the index of active shards. -/
theorem updateWhere_error {condition : Shard -> Bool} {change : Rewrite} {failure : StoreError}
    (failed : db.updateWhere condition change = .error failure) :
    failure = .uniqueViolation ∧ ¬ IndexUnique activeKey (db.shards.map (change.only condition).apply) := by
  unfold Db.updateWhere Db.rewrite at failed
  split at failed
  · cases failed
  · rename_i violated
    cases failed
    exact ⟨rfl, violated⟩

/-- A statement that gives no row a new place in the index cannot fail. -/
theorem indexUnique_map {shards : List Shard} {change : Rewrite}
    (keyless : forall row, row ∈ shards ->
      activeKey (change.apply row) = activeKey row ∨ activeKey (change.apply row) = none)
    (unique : IndexUnique activeKey shards) : IndexUnique activeKey (shards.map change.apply) := by
  intro first firstMember second secondMember keyed same
  rcases List.mem_map.mp firstMember with ⟨source, sourceMember, rfl⟩
  rcases List.mem_map.mp secondMember with ⟨other, otherMember, rfl⟩
  rw [change.id_eq, change.id_eq]
  have sourceKept := (keyless source sourceMember).resolve_right keyed
  have otherKept := (keyless other otherMember).resolve_right (same ▸ keyed)
  rw [sourceKept] at keyed same
  rw [otherKept] at same
  exact unique source sourceMember other otherMember keyed same

theorem only_apply (change : Rewrite) (condition : Shard -> Bool) (row : Shard) :
    (change.only condition).apply row = if condition row then change.apply row else row := rfl

/-- An update whose rows leave the index, or were and stay outside it, goes
through. -/
theorem updateWhere_unindexing (db : Db) (condition : Shard -> Bool) (change : Rewrite)
    (keyless : forall row, row ∈ db.shards -> condition row = true ->
      activeKey (change.apply row) = activeKey row ∨ activeKey (change.apply row) = none) :
    Exists fun after => db.updateWhere condition change =
      .ok ((db.shards.filter condition).length, after) := by
  cases outcome : db.updateWhere condition change with
  | error failure =>
      exfalso
      apply (updateWhere_error outcome).2
      apply indexUnique_map _ db.oneActivePerBucket
      intro row member
      rw [only_apply]
      split
      · rename_i selected
        exact keyless row member selected
      · exact Or.inl rfl
  | ok result =>
      rcases result with ⟨affected, written⟩
      rw [(updateWhere_ok outcome).1]
      exact ⟨written, rfl⟩

/-- A pooled row is outside the index until it is activated. -/
theorem activate_key (now : Time) (bucketID : String) {spare : Shard} (pooled : Pooled spare) :
    activeKey ((Rewrite.activate now bucketID).apply spare) = some bucketID :=
  activeKey_eq_some.mpr ⟨pooled.1, rfl, rfl⟩

theorem active_not_pooled {bucketID : String} {row : Shard} (active : InState .active bucketID row) :
    ¬ Pooled row := by
  intro pooled
  have states := active.2.2.symm.trans pooled.2.1
  cases states

theorem pooled_id_ne {spare row : Shard} (spareMember : spare ∈ db.shards) (pooled : Pooled spare)
    (member : row ∈ db.shards) (occupied : ¬ Pooled row) : spare.id ≠ row.id := by
  intro same
  rw [db.eq_of_id spareMember member same] at pooled
  exact occupied pooled

/-- Activating one pooled row fails when its bucket has an active row. -/
theorem activate_violates (now : Time) (bucketID : String) {spare active : Shard}
    (member : spare ∈ db.shards) (pooled : Pooled spare) (activeMember : active ∈ db.shards)
    (serves : InState .active bucketID active) :
    db.updateWhere (fun row => row.id = spare.id) (.activate now bucketID) =
      .error .uniqueViolation := by
  cases outcome : db.updateWhere (fun row => row.id = spare.id) (.activate now bucketID) with
  | error failure => rw [(updateWhere_error outcome).1]
  | ok result =>
      exfalso
      rcases result with ⟨affected, written⟩
      have table := (updateWhere_ok outcome).2.1
      have other : active.id ≠ spare.id :=
        (pooled_id_ne member pooled activeMember (active_not_pooled serves)).symm
      have promoted : (Rewrite.activate now bucketID).apply spare ∈ written.shards := by
        rw [table]
        exact List.mem_map.mpr ⟨spare, member, if_pos (decide_eq_true rfl)⟩
      have kept : active ∈ written.shards := by
        rw [table]
        refine List.mem_map.mpr ⟨active, activeMember, ?_⟩
        rw [only_apply, if_neg (by simpa using other)]
      have promotedActive : InState .active bucketID ((Rewrite.activate now bucketID).apply spare) :=
        ⟨pooled.1, rfl, rfl⟩
      have same := active_unique kept promoted serves promotedActive
      have ids := congrArg Shard.id same
      exact other ids

/-- Changing one row goes through when its new place in the index is free. -/
theorem updateRow_succeeds {condition : Shard -> Bool} {change : Rewrite} {id : Nat} {key : Option String}
    (chosen : forall row, row ∈ db.shards -> condition row = true ->
      row.id = id ∧ activeKey (change.apply row) = key)
    (free : forall row, row ∈ db.shards -> key ≠ none -> activeKey row ≠ key) :
    Exists fun after => Exists fun affected => db.updateWhere condition change = .ok (affected, after) := by
  cases outcome : db.updateWhere condition change with
  | ok result => exact ⟨result.2, result.1, rfl⟩
  | error failure =>
      exfalso
      apply (updateWhere_error outcome).2
      -- The changed row alone can have the new key; every other key is an old one.
      have keys : forall row, row ∈ db.shards ->
          (row.id = id ∧ activeKey ((change.only condition).apply row) = key) ∨
          activeKey ((change.only condition).apply row) = activeKey row := by
        intro row member
        rw [only_apply]
        by_cases selected : condition row = true
        · rw [if_pos selected]
          exact Or.inl (chosen row member selected)
        · rw [if_neg selected]
          exact Or.inr rfl
      intro first firstMember second secondMember keyed same
      rcases List.mem_map.mp firstMember with ⟨source, sourceMember, rfl⟩
      rcases List.mem_map.mp secondMember with ⟨other, otherMember, rfl⟩
      rw [Rewrite.id_eq, Rewrite.id_eq]
      rcases keys source sourceMember with ⟨firstChosen, firstKey⟩ | firstKey <;>
        rcases keys other otherMember with ⟨secondChosen, secondKey⟩ | secondKey
      · rw [firstChosen, secondChosen]
      · rw [firstKey] at keyed same
        rw [secondKey] at same
        exact absurd same.symm (free other otherMember keyed)
      · rw [secondKey] at same
        rw [firstKey] at keyed same
        exact absurd same (free source sourceMember (same ▸ keyed))
      · rw [firstKey] at keyed same
        rw [secondKey] at same
        exact db.oneActivePerBucket source sourceMember other otherMember keyed same

/-- Activating one pooled row goes through when its bucket has no active row. -/
theorem activate_succeeds (now : Time) (bucketID : String) {spare : Shard}
    (vacant : forall row, row ∈ db.shards -> ¬ InState .active bucketID row)
    (pooled : forall row, row ∈ db.shards -> row.id = spare.id -> Pooled row) :
    Exists fun after => Exists fun affected =>
      db.updateWhere (fun row => row.id = spare.id) (.activate now bucketID) = .ok (affected, after) := by
  have chosen : forall row, row ∈ db.shards -> decide (row.id = spare.id) = true ->
      row.id = spare.id ∧ activeKey ((Rewrite.activate now bucketID).apply row) = some bucketID := by
    intro row member selected
    have same := of_decide_eq_true selected
    exact ⟨same, activate_key now bucketID (pooled row member same)⟩
  exact updateRow_succeeds chosen fun row member _ key => vacant row member (activeKey_eq_some.mp key)

end Statements

/-! ## Promotion -/

section Promotion

variable {db : Db}

/-- The table after one row was chosen by its id and changed. -/
def Db.tableAt (db : Db) (id : Nat) (change : Rewrite) : List Shard :=
  db.shards.map (change.only fun row => row.id = id).apply

/-- A promotion finds an empty pool, runs into the index, or activates the next
standby. -/
theorem promoteStandby_cases (now : Time) (bucketID : String) (db : Db) :
    (nextStandby db = none ∧ promoteStandby now bucketID db = .error .notFound) ∨
    (Exists fun spare => Exists fun active => nextStandby db = some spare ∧
      active ∈ db.shards ∧ InState .active bucketID active ∧
      promoteStandby now bucketID db = .error .uniqueViolation) ∨
    (Exists fun spare => Exists fun after => nextStandby db = some spare ∧
      (forall row, row ∈ db.shards -> ¬ InState .active bucketID row) ∧
      promoteStandby now bucketID db = .ok (spare.id, after) ∧
      after.shards = db.tableAt spare.id (.activate now bucketID) ∧
      after.cluster = db.bumpTopologyVersion.cluster) := by
  unfold promoteStandby
  cases found : nextStandby db with
  | none => exact Or.inl ⟨rfl, rfl⟩
  | some spare =>
      refine Or.inr ?_
      rcases nextStandby_some found with ⟨member, pooled⟩
      by_cases occupied : Exists fun active => active ∈ db.shards ∧ InState .active bucketID active
      · rcases occupied with ⟨active, activeMember, serves⟩
        refine Or.inl ⟨spare, active, rfl, activeMember, serves, ?_⟩
        simp only [activate_violates now bucketID member pooled activeMember serves]
      · have vacant : forall row, row ∈ db.shards -> ¬ InState .active bucketID row :=
          fun row rowMember serves => occupied ⟨row, rowMember, serves⟩
        have chosen : forall row, row ∈ db.shards -> row.id = spare.id -> Pooled row := by
          intro row rowMember same
          rw [db.eq_of_id rowMember member same]
          exact pooled
        rcases activate_succeeds now bucketID vacant chosen with ⟨written, affected, outcome⟩
        have effect := updateWhere_ok outcome
        refine Or.inr ⟨spare, written.bumpTopologyVersion, rfl, vacant, ?_, effect.2.1, ?_⟩
        · simp only [outcome]
        · simp only [Db.bumpTopologyVersion, effect.2.2.2]

end Promotion

/-! ## Rotation -/

section Rotation

variable {db : Db}

/-- The table after one row was retired and another activated in its place. -/
def Db.tableRotated (db : Db) (now : Time) (bucketID : String) (old spare : Shard) (retire : Rewrite) :
    List Shard :=
  db.shards.map fun row =>
    if row.id = old.id then retire.apply row
    else if row.id = spare.id then (Rewrite.activate now bucketID).apply row
    else row

theorem mem_tableAt {id : Nat} {change : Rewrite} {row : Shard} :
    row ∈ db.tableAt id change ↔
      (Exists fun source => source ∈ db.shards ∧ source.id = id ∧ change.apply source = row) ∨
        (row ∈ db.shards ∧ row.id ≠ id) := by
  unfold Db.tableAt
  constructor
  · intro member
    rcases List.mem_map.mp member with ⟨source, sourceMember, same⟩
    rw [only_apply] at same
    by_cases chosen : source.id = id
    · rw [if_pos (decide_eq_true chosen)] at same
      exact Or.inl ⟨source, sourceMember, chosen, same⟩
    · rw [if_neg (by simpa using chosen)] at same
      subst same
      exact Or.inr ⟨sourceMember, chosen⟩
  · rintro (⟨source, sourceMember, chosen, same⟩ | ⟨member, other⟩)
    · refine List.mem_map.mpr ⟨source, sourceMember, ?_⟩
      rw [only_apply, if_pos (decide_eq_true chosen), same]
    · refine List.mem_map.mpr ⟨row, member, ?_⟩
      rw [only_apply, if_neg (by simpa using other)]

theorem mem_tableRotated {now : Time} {bucketID : String} {old spare row : Shard} {retire : Rewrite}
    (oldMember : old ∈ db.shards) (spareMember : spare ∈ db.shards) (different : spare.id ≠ old.id) :
    row ∈ db.tableRotated now bucketID old spare retire ↔
      row = retire.apply old ∨ row = (Rewrite.activate now bucketID).apply spare ∨
        (row ∈ db.shards ∧ row.id ≠ old.id ∧ row.id ≠ spare.id) := by
  unfold Db.tableRotated
  constructor
  · intro member
    rcases List.mem_map.mp member with ⟨source, sourceMember, same⟩
    by_cases isOld : source.id = old.id
    · rw [if_pos isOld, db.eq_of_id sourceMember oldMember isOld] at same
      exact Or.inl same.symm
    · rw [if_neg isOld] at same
      by_cases isSpare : source.id = spare.id
      · rw [if_pos isSpare, db.eq_of_id sourceMember spareMember isSpare] at same
        exact Or.inr (Or.inl same.symm)
      · rw [if_neg isSpare] at same
        subst same
        exact Or.inr (Or.inr ⟨sourceMember, isOld, isSpare⟩)
  · rintro (rfl | rfl | ⟨member, notOld, notSpare⟩)
    · exact List.mem_map.mpr ⟨old, oldMember, if_pos rfl⟩
    · refine List.mem_map.mpr ⟨spare, spareMember, ?_⟩
      rw [if_neg different, if_pos rfl]
    · refine List.mem_map.mpr ⟨row, member, ?_⟩
      rw [if_neg notOld, if_neg notSpare]

/-- Retiring a row that is not pooled, into a state that is not pooled, does
not change the next standby. -/
private theorem nextStandby_retired {vacant : Db} {old : Shard} {retire : Rewrite}
    (member : old ∈ db.shards) (occupied : ¬ Pooled old) (retires : ¬ Pooled (retire.apply old))
    (table : vacant.shards = db.tableAt old.id retire) : nextStandby vacant = nextStandby db := by
  have unchanged : forall row, row ∈ db.shards -> Pooled row ->
      (retire.only fun row => row.id = old.id).apply row = row := by
    intro row rowMember pooled
    rw [only_apply, if_neg]
    intro same
    exact pooled_id_ne rowMember pooled member occupied (of_decide_eq_true same)
  have agrees : forall row, row ∈ db.shards ->
      (Pooled ((retire.only fun row => row.id = old.id).apply row) ↔ Pooled row) := by
    intro row rowMember
    constructor
    · intro pooled
      rw [only_apply] at pooled
      split at pooled
      · rename_i same
        rw [db.eq_of_id rowMember member (of_decide_eq_true same)] at pooled
        exact absurd pooled retires
      · exact pooled
    · intro pooled
      rw [unchanged row rowMember pooled]
      exact pooled
  rw [nextStandby, table, Db.tableAt, List.find?_map, nextStandby]
  have sameFind : db.shards.find? ((fun row => decide (Pooled row)) ∘
      (retire.only fun row => row.id = old.id).apply) = db.shards.find? fun row => decide (Pooled row) := by
    rw [← List.head?_filter, ← List.head?_filter, List.filter_congr]
    intro row rowMember
    simp only [Function.comp_apply, agrees row rowMember]
  rw [sameFind]
  cases found : db.shards.find? fun row => decide (Pooled row) with
  | none => rfl
  | some spare =>
      have spareFound : spare ∈ db.shards ∧ Pooled spare := nextStandby_some found
      rw [Option.map_some, unchanged spare spareFound.1 spareFound.2]

/-- Inside a transaction the version of a selected row is still the one in the
table, so an update by id and version changes exactly the selected row. -/
theorem map_by_version {old : Shard} (member : old ∈ db.shards) (change : Rewrite) :
    db.shards.map (change.only fun row => row.id = old.id ∧ row.version = old.version).apply =
      db.tableAt old.id change := by
  apply List.map_congr_left
  intro row rowMember
  rw [only_apply, only_apply]
  by_cases same : row.id = old.id
  · have version : row.version = old.version := by rw [db.eq_of_id rowMember member same]
    simp only [same, version, and_self, decide_true, if_true]
  · simp only [same, false_and, decide_false, Bool.false_eq_true, if_false]

theorem affected_by_version {old : Shard} (member : old ∈ db.shards) :
    (db.shards.filter fun row => decide (row.id = old.id ∧ row.version = old.version)).length ≠ 0 := by
  have listed : old ∈ db.shards.filter fun row =>
      decide (row.id = old.id ∧ row.version = old.version) :=
    List.mem_filter.mpr ⟨member, decide_eq_true ⟨rfl, rfl⟩⟩
  exact Nat.ne_of_gt (List.length_pos_of_mem listed)

/-- A manual change along an edge goes through when its statement does. -/
theorem patchState_of_update {row : Shard} {target : State} {affected : Nat} {written : Db}
    (member : row ∈ db.shards) (data : row.role = .data) (allowed : canTransition .data row.state target = true)
    (outcome : db.updateWhere (fun other => other.id = row.id ∧ other.version = row.version) (.patch target) =
      .ok (affected, written)) :
    patchState row.id target db = .ok ((), written.bumpTopologyVersion) ∧
      written.bumpTopologyVersion.shards = db.tableAt row.id (.patch target) := by
  rcases updateWhere_ok outcome with ⟨rfl, table, _⟩
  constructor
  · rw [patchState, getShardByID_mem member]
    simp only [data, allowed, if_true, outcome, if_neg (affected_by_version member)]
  · rw [Db.bumpTopologyVersion_shards, table, map_by_version member]

private theorem tableAt_tableAt {vacant : Db} {now : Time} {bucketID : String} {old spare : Shard}
    {retire : Rewrite} (different : spare.id ≠ old.id)
    (table : vacant.shards = db.tableAt old.id retire) :
    vacant.tableAt spare.id (.activate now bucketID) =
      db.tableRotated now bucketID old spare retire := by
  rw [Db.tableAt, table, Db.tableAt, List.map_map, Db.tableRotated]
  apply List.map_congr_left
  intro row _
  simp only [Function.comp_apply, only_apply, decide_eq_true_eq]
  by_cases isOld : row.id = old.id
  · have notSpare : ¬ (retire.apply row).id = spare.id := by
      rw [retire.id_eq, isOld]
      exact different.symm
    rw [if_pos isOld, if_neg notSpare, if_pos isOld]
  · rw [if_neg isOld, if_neg isOld]

/-- The first half of a rotation always goes through.  It takes the selected row
out of service and leaves the pool as it was. -/
private theorem rotate_retires {env : Env} {now : Time} {bucketID : String} {retired : State} {retire : Rewrite}
    {old : Shard} (sealing : forall row, (retire.apply row).state = .sealed) (occupied : ¬ Pooled old)
    (selected : (scan env db (InState retired bucketID)).head? = some old) :
    Exists fun vacant => rotate env now bucketID retired retire db = refill now bucketID vacant ∧
      vacant.shards = db.tableAt old.id retire ∧
      vacant.bumpTopologyVersion.cluster = db.bumpTopologyVersion.cluster ∧ nextStandby vacant = nextStandby db := by
  have member : old ∈ db.shards := (scan_head_some selected).1
  have retires : ¬ Pooled (retire.apply old) := by
    intro pooled
    have states := (sealing old).symm.trans pooled.2.1
    cases states
  have unindexed : forall row, activeKey (retire.apply row) = none := by
    intro row
    unfold activeKey
    rw [if_neg]
    rintro ⟨_, active⟩
    have states := (sealing row).symm.trans active
    cases states
  rcases updateWhere_unindexing db
    (fun row => decide (row.id = old.id ∧ row.version = old.version)) retire
    (fun row _ _ => Or.inr (unindexed row)) with ⟨vacant, retiring⟩
  have effect := updateWhere_ok retiring
  have table : vacant.shards = db.tableAt old.id retire := by
    rw [effect.2.1, map_by_version member]
  refine ⟨vacant, ?_, table, ?_, nextStandby_retired member occupied retires table⟩
  · simp only [rotate, selected, retiring, if_neg (affected_by_version member)]
  · simp only [Db.bumpTopologyVersion, effect.2.2.2]

private theorem refill_violates (now : Time) {bucketID : String} {vacant : Db} {spare active : Shard}
    (pool : nextStandby vacant = some spare) (member : active ∈ vacant.shards)
    (serves : InState .active bucketID active) : refill now bucketID vacant = .error .uniqueViolation := by
  rcases nextStandby_some pool with ⟨spareMember, pooled⟩
  simp only [refill, pool, activate_violates now bucketID spareMember pooled member serves]

private theorem refill_succeeds (now : Time) {bucketID : String} {vacant : Db} {spare : Shard}
    (pool : nextStandby vacant = some spare)
    (vacated : forall row, row ∈ vacant.shards -> ¬ InState .active bucketID row) :
    Exists fun after => refill now bucketID vacant = .ok ((), after) ∧
      after.shards = vacant.tableAt spare.id (.activate now bucketID) ∧
      after.cluster = vacant.bumpTopologyVersion.cluster := by
  rcases nextStandby_some pool with ⟨spareMember, pooled⟩
  have chosen : forall row, row ∈ vacant.shards -> row.id = spare.id -> Pooled row := by
    intro row rowMember same
    rw [vacant.eq_of_id rowMember spareMember same]
    exact pooled
  rcases activate_succeeds now bucketID vacated chosen with ⟨filled, affected, filling⟩
  have effect := updateWhere_ok filling
  refine ⟨filled.bumpTopologyVersion, by simp only [refill, pool, filling], ?_, ?_⟩
  · rw [Db.bumpTopologyVersion_shards, effect.2.1]
    rfl
  · simp only [Db.bumpTopologyVersion, effect.2.2.2]

/-- Where the retired row was the only active one of the bucket, none is left. -/
private theorem tableAt_vacated {bucketID : String} {vacant : Db} {old : Shard} {retire : Rewrite}
    (sealing : forall row, (retire.apply row).state = .sealed) (table : vacant.shards = db.tableAt old.id retire)
    (onlyOld : forall row, row ∈ db.shards -> InState .active bucketID row -> row = old) :
    forall row, row ∈ vacant.shards -> ¬ InState .active bucketID row := by
  intro row member active
  rw [table] at member
  rcases mem_tableAt.mp member with ⟨source, _, _, same⟩ | ⟨kept, notOld⟩
  · rw [← same] at active
    have states := (sealing source).symm.trans active.2.2
    cases states
  · exact notOld (congrArg Shard.id (onlyOld row kept active))

/-- A rotation finds no row to retire; retires it and leaves the bucket
without a successor when the pool is empty; puts the next standby in its place;
or runs into an active row of the bucket that is not the retired one. -/
theorem rotate_cases (env : Env) (now : Time) (bucketID : String) {retired : State} {retire : Rewrite}
    (busy : retired ≠ .standby) (sealing : forall row, (retire.apply row).state = .sealed) (db : Db) :
    ((forall row, row ∈ db.shards -> ¬ InState retired bucketID row) ∧
      rotate env now bucketID retired retire db = .error .notFound) ∨
    (Exists fun old => old ∈ db.shards ∧ InState retired bucketID old ∧
      ((nextStandby db = none ∧ Exists fun after =>
        rotate env now bucketID retired retire db = .ok ((), after) ∧
        after.shards = db.tableAt old.id retire ∧
        after.cluster = db.bumpTopologyVersion.cluster) ∨
      (Exists fun spare => nextStandby db = some spare ∧
        (((forall row, row ∈ db.shards -> InState .active bucketID row -> row = old) ∧
          Exists fun after => rotate env now bucketID retired retire db = .ok ((), after) ∧
            after.shards = db.tableRotated now bucketID old spare retire ∧
            after.cluster = db.bumpTopologyVersion.cluster) ∨
        ((Exists fun other => other ∈ db.shards ∧ InState .active bucketID other ∧ other ≠ old) ∧
          rotate env now bucketID retired retire db = .error .uniqueViolation))))) := by
  cases selected : (scan env db (InState retired bucketID)).head? with
  | none =>
      refine Or.inl ⟨fun row member => scan_head_none selected member, ?_⟩
      simp only [rotate, selected]
  | some old =>
      rcases scan_head_some selected with ⟨member, serves⟩
      refine Or.inr ⟨old, member, serves, ?_⟩
      have occupied : ¬ Pooled old := by
        intro pooled
        exact busy (serves.2.2.symm.trans pooled.2.1)
      rcases rotate_retires sealing occupied selected with ⟨vacant, rest, table, cluster, samePool⟩
      rw [rest]
      cases pool : nextStandby db with
      | none =>
          refine Or.inl ⟨rfl, vacant.bumpTopologyVersion, ?_, table, cluster⟩
          simp only [refill, samePool, pool]
      | some spare =>
          refine Or.inr ⟨spare, rfl, ?_⟩
          by_cases other : Exists fun other =>
              other ∈ db.shards ∧ InState .active bucketID other ∧ other ≠ old
          · refine Or.inr ⟨other, ?_⟩
            rcases other with ⟨active, activeMember, activeServes, notOld⟩
            have activeKept : active ∈ vacant.shards := by
              rw [table]
              refine mem_tableAt.mpr (Or.inr ⟨activeMember, ?_⟩)
              intro same
              exact notOld (db.eq_of_id activeMember member same)
            exact refill_violates now (samePool.trans pool) activeKept activeServes
          · have onlyOld : forall row, row ∈ db.shards -> InState .active bucketID row -> row = old := by
              intro row rowMember active
              by_contra notOld
              exact other ⟨row, rowMember, active, notOld⟩
            have different : spare.id ≠ old.id := by
              rcases nextStandby_some pool with ⟨spareMember, pooled⟩
              exact pooled_id_ne spareMember pooled member occupied
            rcases refill_succeeds now (samePool.trans pool) (tableAt_vacated sealing table onlyOld) with
              ⟨after, filled, shards, filledCluster⟩
            exact Or.inl ⟨onlyOld, after, filled, shards.trans (tableAt_tableAt different table),
              filledCluster.trans cluster⟩

/-- A rotation of the active row cannot run into the index: the only row with
the bucket's key is the one it retires. -/
theorem sealRotate_cases (env : Env) (now : Time) (bucketID : String) (db : Db) :
    ((forall row, row ∈ db.shards -> ¬ InState .active bucketID row) ∧
      sealRotate env now bucketID db = .error .notFound) ∨
    (Exists fun old => Exists fun after => old ∈ db.shards ∧ InState .active bucketID old ∧
      sealRotate env now bucketID db = .ok ((), after) ∧
      ((nextStandby db = none ∧ after.shards = db.tableAt old.id (.sealRow now)) ∨
        (Exists fun spare => nextStandby db = some spare ∧
          after.shards = db.tableRotated now bucketID old spare (.sealRow now)))) := by
  rcases rotate_cases env now bucketID (show State.active ≠ .standby by decide)
    (fun row => show ((Rewrite.sealRow now).apply row).state = .sealed from rfl) db with
    vacant | ⟨old, member, serves, ⟨empty, after, done, table, _⟩ |
      ⟨spare, found, ⟨_, after, done, table, _⟩ | ⟨⟨other, otherMember, otherServes, different⟩, _⟩⟩⟩
  · exact Or.inl vacant
  · exact Or.inr ⟨old, after, member, serves, done, Or.inl ⟨empty, table⟩⟩
  · exact Or.inr ⟨old, after, member, serves, done, Or.inr ⟨spare, found, table⟩⟩
  · exact absurd (active_unique otherMember member otherServes serves) different

end Rotation

/-! ## The pool after an activation -/

section Activation

variable {db after : Db}

/-- A change of the table that takes one row out of the pool and leaves the
other pooled rows alone. -/
private theorem standbyPool_map {move : Shard -> Shard} {spare : Shard}
    (table : after.shards = db.shards.map move)
    (kept : forall row, row ∈ db.shards -> Pooled row -> row ≠ spare -> move row = row)
    (pooled : forall row, row ∈ db.shards -> Pooled (move row) -> Pooled row ∧ row ≠ spare) :
    standbyPool after = (standbyPool db).erase spare := by
  have distinct : (standbyPool db).Nodup := db.nodup.filter _
  rw [distinct.erase_eq_filter, standbyPool, standbyPool, table, List.filter_map, List.filter_filter]
  have sameRows : db.shards.filter ((fun row => decide (Pooled row)) ∘ move) =
      db.shards.filter fun row => row != spare && decide (Pooled row) := by
    apply List.filter_congr
    intro row member
    rw [Function.comp_apply, Bool.eq_iff_iff, Bool.and_eq_true, decide_eq_true_iff, decide_eq_true_iff,
      bne_iff_ne]
    constructor
    · intro still
      exact (pooled row member still).symm
    · rintro ⟨other, was⟩
      rw [kept row member was other]
      exact was
  rw [sameRows]
  conv_rhs => rw [← List.map_id (List.filter _ _)]
  apply List.map_congr_left
  intro row listed
  rcases List.mem_filter.mp listed with ⟨member, selected⟩
  rcases Bool.and_eq_true_iff.mp selected with ⟨other, was⟩
  exact kept row member (of_decide_eq_true was) (bne_iff_ne.mp other)

private theorem activated_not_pooled (now : Time) (bucketID : String) (row : Shard) :
    ¬ Pooled ((Rewrite.activate now bucketID).apply row) := by
  rintro ⟨_, standby, _⟩
  cases standby

theorem standbyPool_promoted {now : Time} {bucketID : String} {spare : Shard} (member : spare ∈ db.shards)
    (table : after.shards = db.tableAt spare.id (.activate now bucketID)) :
    standbyPool after = (standbyPool db).erase spare := by
  apply standbyPool_map table
  · intro row rowMember _ other
    rw [only_apply, if_neg]
    intro same
    exact other (db.eq_of_id rowMember member (of_decide_eq_true same))
  · intro row rowMember pooled
    rw [only_apply] at pooled
    split at pooled
    · exact absurd pooled (activated_not_pooled now bucketID row)
    · rename_i different
      refine ⟨pooled, ?_⟩
      rintro rfl
      exact different (decide_eq_true rfl)

theorem standbyPool_rotated {now : Time} {bucketID : String} {old spare : Shard} {retire : Rewrite}
    (oldMember : old ∈ db.shards) (occupied : ¬ Pooled old) (member : spare ∈ db.shards)
    (sealing : forall row, (retire.apply row).state = .sealed)
    (table : after.shards = db.tableRotated now bucketID old spare retire) :
    standbyPool after = (standbyPool db).erase spare := by
  apply standbyPool_map table
  · intro row rowMember pooled other
    have notOld : row.id ≠ old.id := pooled_id_ne rowMember pooled oldMember occupied
    have notSpare : row.id ≠ spare.id := fun same => other (db.eq_of_id rowMember member same)
    rw [if_neg notOld, if_neg notSpare]
  · intro row rowMember pooled
    split at pooled
    · have states := (sealing row).symm.trans pooled.2.1
      cases states
    · split at pooled
      · exact absurd pooled (activated_not_pooled now bucketID row)
      · rename_i notSpare
        refine ⟨pooled, ?_⟩
        rintro rfl
        exact notSpare rfl

theorem countStandbyPool_empty (empty : nextStandby db = none) : countStandbyPool db = 0 := by
  rw [countStandbyPool, List.length_eq_zero_iff, standbyPool, List.filter_eq_nil_iff]
  intro row member pooled
  exact nextStandby_none empty member (of_decide_eq_true pooled)

/-- An activation costs the pool exactly one row. -/
theorem countStandbyPool_erase {spare : Shard} (found : nextStandby db = some spare)
    (pool : standbyPool after = (standbyPool db).erase spare) :
    countStandbyPool db = countStandbyPool after + 1 := by
  rcases nextStandby_some found with ⟨member, pooled⟩
  have listed : spare ∈ standbyPool db := List.mem_filter.mpr ⟨member, decide_eq_true pooled⟩
  have positive := List.length_pos_of_mem listed
  rw [countStandbyPool, countStandbyPool, pool, List.length_erase_of_mem listed]
  omega

end Activation

end Store
end Shardman
