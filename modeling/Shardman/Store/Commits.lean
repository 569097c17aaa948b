import Shardman.Store.Histories
import Shardman.Store.Statements

namespace Shardman
namespace Store

open Fsm
open Bucket
open Foundation

/-!
# What commits do

Transactions that run side by side still take effect one at a time: whenever one
commits, the committed rows it changes are those it has locked, in the state in
which it found them.  `Plan` lists for each transaction what it may do to which
rows.  A rotation may also end without a replacement although a standby is in
the pool, since a standby that another transaction holds is passed over; and an
update may miss rows that came to meet its condition after it looked.
-/

/-- What becomes of the cluster configuration. -/
inductive ClusterChange
  | same
  | bumped
  | created (config : ClusterConfig)

/-- The two rotations. -/
inductive StoreTx.Rotates (now : Time) : StoreTx -> String -> State -> Rewrite -> Prop
  | sealing {bucketID : String} : Rotates now (.sealRotate bucketID) bucketID .active (.sealRow now)
  | drained {bucketID : String} : Rotates now (.completeDrainSeal bucketID) bucketID .draining (.drainSeal now)

/-- What a transaction that returns a value does: the rows it changes with the
changes, the row it adds, and what happens to the cluster configuration. -/
inductive Plan (now : Time) :
    StoreTx -> TxValue -> List (Shard × Rewrite) -> Option Shard -> ClusterChange -> Prop
  | bootstrap {config : ClusterConfig} : Plan now (.bootstrap config) .nothing [] none (.created config)
  | register {uuid : UUID} {role : Role} {dsn advertiseURL startupState : String} {id : Nat} :
      Plan now (.registerShard uuid role dsn advertiseURL startupState) (.shard id) []
        (some (registeredShard id uuid role dsn (nullStr advertiseURL) now)) .bumped
  | readdress {role : Role} {dsn advertiseURL startupState : String} {row : Shard} :
      Plan now (.registerShard row.shardUUID role dsn advertiseURL startupState) (.shard row.id)
        [(row, .readdress dsn (nullStr advertiseURL) now)] none .bumped
  | promote {bucketID : String} {spare : Shard} (pooled : Pooled spare) :
      Plan now (.promoteStandby bucketID) (.shard spare.id) [(spare, .activate now bucketID)] none .bumped
  | retire {tx : StoreTx} {bucketID : String} {retired : State} {retire : Rewrite} {old : Shard}
      (kind : tx.Rotates now bucketID retired retire) (serves : InState retired bucketID old) :
      Plan now tx .nothing [(old, retire)] none .bumped
  | rotate {tx : StoreTx} {bucketID : String} {retired : State} {retire : Rewrite} {old spare : Shard}
      (kind : tx.Rotates now bucketID retired retire) (serves : InState retired bucketID old)
      (pooled : Pooled spare) :
      Plan now tx .nothing [(old, retire), (spare, .activate now bucketID)] none .bumped
  | drain {bucketID : String} {row : Shard} (serves : InState .active bucketID row) :
      Plan now (.beginDrain bucketID) .nothing [(row, .beginDrain now)] none .bumped
  | ready {row : Shard} (draining : row.state = .draining) :
      Plan now (.markDrainReady row.shardUUID) .nothing [(row, .markReady)] none .same
  | clean {bucketID : String} {rows : List Shard} (isSealed : forall row, row ∈ rows -> InState .sealed bucketID row) :
      Plan now (.markBucketCleaning bucketID) (.rows rows.length) (rows.map fun row => (row, .clean)) none
        (if rows = [] then .same else .bumped)
  | recycle {row : Shard} (cleaning : row.state = .cleaning) :
      Plan now (.finishCleaning row.shardUUID) .nothing [(row, .recycle)] none .bumped
  | idle {uuid : UUID} : Plan now (.finishCleaning uuid) .nothing [] none .same
  | patch {newState : State} {row : Shard} (allowed : canTransition row.role row.state newState = true) :
      Plan now (.patchState row.id newState) .nothing [(row, .patch newState)] none .bumped
  | stats {reportedBytes : Int} {row : Shard} :
      Plan now (.updateStats row.shardUUID reportedBytes) .nothing [(row, .stats reportedBytes now)] none .same
  | seen {instant : Time} {row : Shard} :
      Plan now (.setLastSeenAt row.shardUUID instant) .nothing [(row, .seen instant)] none .same
  | unseen {uuid : UUID} {instant : Time} : Plan now (.setLastSeenAt uuid instant) .nothing [] none .same
  | bump : Plan now .bumpTopologyVersion .nothing [] none .bumped

/-! ## What a transaction holds when it finishes -/

abbrev TxHeld := Held Shard ClusterRow

/-- The own versions of a transaction are those of a plan. -/
structure Realises (held : TxHeld) (moved : List (Shard × Rewrite)) (added : Option Shard) : Prop where
  own : forall version, version ∈ held.own ↔
    (Exists fun move => move ∈ moved ∧ version = move.2.apply move.1) ∨ added = some version
  locked : forall move, move ∈ moved -> move.1 ∈ held.locked
  new : forall row, added = some row -> ¬ shardLayout.Names held.locked row.id

/-- The single row is held as a plan says.  Before bootstrap there may be no row
whose version could be advanced. -/
def HoldsCluster (boot : Prop) (held : TxHeld) : ClusterChange -> Prop
  | .same => held.single = none
  | .bumped =>
      (Exists fun row => held.single = some (some row, StoreTx.bumpRow row)) ∨ ¬ boot ∧ held.single = none
  | .created config => held.single = some (none, ⟨config, 1⟩)

/-- How a transaction ends.  Only the registration of an error shard can report
a conflict: a row that was selected for update cannot change before it is
updated. -/
def Finishes (boot : Prop) (tx : StoreTx) (now : Time) (held : TxHeld) : Except StoreError TxValue -> Prop
  | .error failure => failure = .conflict -> Exists fun uuid => Exists fun dsn => Exists fun advertiseURL =>
      Exists fun startupState => tx = .registerShard uuid .error dsn advertiseURL startupState
  | .ok value => Exists fun moved => Exists fun added => Exists fun change =>
      Plan now tx value moved added change ∧ Realises held moved added ∧ HoldsCluster boot held change

/-- The cluster is bootstrapped, if it was at the start. -/
def Bootstrapped (boot : Prop) (committed : Committed Shard ClusterRow) : Prop :=
  boot -> committed.single ≠ none

theorem bootstrapped_lasting (boot : Prop) : Lasting shardLayout (Bootstrapped boot) where
  advance committed op holds := by cases op <;> exact holds
  absorb committed held holds started := by
    simp only [Committed.absorb, Held.visibleSingle]
    split
    · exact Option.some_ne_none _
    · exact holds started

section Held

variable {held after : TxHeld} {moved : List (Shard × Rewrite)} {added : Option Shard} {boot : Prop}

theorem realises_nothing (unwritten : held.own = []) : Realises held [] none where
  own version := by
    simp only [unwritten, List.not_mem_nil, false_and, exists_false, reduceCtorEq, or_false]
  locked _ absent := by cases absent
  new _ absent := by cases absent

theorem Realises.locks (realises : Realises held moved none) (locks : LocksOnly held after) :
    Realises after moved none where
  own version := by rw [locks.own, realises.own]
  locked move member := locks.locked (realises.locked move member)
  new _ absent := by cases absent

/-- Rows that had no own version before are added to the plan. -/
theorem Realises.changes {change : Rewrite} {rows : List Shard} (realises : Realises held moved none)
    (changes : Changes change.rowChange held rows after)
    (fresh : forall row, row ∈ rows -> ¬ shardLayout.Names held.own row.id) :
    Realises after (moved ++ rows.map fun row => (row, change)) none where
  own version := by
    rw [changes.own, realises.own]
    simp only [reduceCtorEq, or_false, List.mem_append, List.mem_map]
    constructor
    · rintro (⟨row, member, rfl⟩ | ⟨⟨move, member, rfl⟩, _⟩)
      · exact ⟨(row, change), Or.inr ⟨row, member, rfl⟩, rfl⟩
      · exact ⟨move, Or.inl member, rfl⟩
    · rintro ⟨move, earlier | ⟨row, member, rfl⟩, rfl⟩
      · have mine : move.2.apply move.1 ∈ held.own := (realises.own _).mpr (Or.inl ⟨move, earlier, rfl⟩)
        refine Or.inr ⟨⟨move, earlier, rfl⟩, ?_⟩
        rintro ⟨row, member, same⟩
        exact fresh row member ⟨_, mine, same.symm⟩
      · exact Or.inl ⟨row, member, rfl⟩
  locked move member := by
    rcases List.mem_append.mp member with earlier | new
    · exact changes.locked (realises.locked move earlier)
    · rcases List.mem_map.mp new with ⟨row, listed, rfl⟩
      rcases changes.reads row listed with mine | ⟨locked, _⟩
      · exact absurd (Layout.names_of_mem mine) (fresh row listed)
      · exact locked
  new _ absent := by cases absent

end Held

/-! ## Every program follows its plan -/

section Programs

open StoreTx

variable {boot : Prop} {env : Env} {now : Time} {tx : StoreTx} {held : TxHeld}

theorem meets_error {failure : StoreError} (other : failure ≠ .conflict) :
    Meets (Bootstrapped boot) (Finishes boot tx now) (pure (.error failure) : StoreProgram) held :=
  meets_pure fun same => absurd same other

theorem meets_ok {value : TxValue} {moved : List (Shard × Rewrite)} {added : Option Shard}
    (plan : Plan now tx value moved added .same) (realises : Realises held moved added)
    (free : held.single = none) :
    Meets (Bootstrapped boot) (Finishes boot tx now) (pure (.ok value) : StoreProgram) held :=
  meets_pure ⟨moved, added, .same, plan, realises, free⟩

theorem meets_bumpAndReturn {value : TxValue} {moved : List (Shard × Rewrite)} {added : Option Shard}
    (plan : Plan now tx value moved added .bumped) (realises : Realises held moved added)
    (free : held.single = none) :
    Meets (Bootstrapped boot) (Finishes boot tx now) (bumpAndReturn value) held := by
  refine (meets_bind bumpStatement _).mpr (meets_alter fun committed holds => ?_)
  have visible : held.visibleSingle committed.single = committed.single := by
    simp only [Held.visibleSingle, free]
  rw [visible]
  constructor
  · intro absent
    exact meets_pure ⟨moved, added, .bumped, plan, realises, Or.inr ⟨fun started => holds started absent, free⟩⟩
  · intro row present
    refine meets_pure ⟨moved, added, .bumped, plan, ⟨realises.own, realises.locked, realises.new⟩, Or.inl ⟨row, ?_⟩⟩
    rw [present]
    rfl

theorem meets_fill {bucketID : String} {value : TxValue} {standby : Shard} {moved : List (Shard × Rewrite)}
    (plan : Plan now tx value (moved ++ [(standby, .activate now bucketID)]) none .bumped)
    (realises : Realises held moved none) (free : held.single = none) (reads : held.Reads shardLayout standby)
    (unwritten : ¬ shardLayout.Names held.own standby.id) :
    Meets (Bootstrapped boot) (Finishes boot tx now) (fill env now bucketID standby.id value) held := by
  refine (meets_bind (update env _ _) _).mpr (meets_updateOne env.heapOrder_perm
    (fun _ => meets_error (by decide)) reads (decide_eq_true rfl) (fun _ => of_decide_eq_true) fun after changes => ?_)
  refine meets_bumpAndReturn plan (realises.changes changes ?_) (changes.single.trans free)
  intro row member
  rw [List.mem_singleton.mp member]
  exact unwritten

/-- A pooled row that is read has no own version, as long as no own version is
pooled. -/
theorem unwritten_of_pooled {standby : Shard} (reads : held.Reads shardLayout standby) (pooled : Pooled standby)
    (busy : forall version, version ∈ held.own -> ¬ Pooled version) : ¬ shardLayout.Names held.own standby.id := by
  rcases reads with mine | ⟨_, unwritten⟩
  · exact absurd pooled (busy standby mine)
  · exact unwritten

theorem meets_refill {bucketID : String} {retired : State} {retire : Rewrite} {old : Shard}
    (kind : tx.Rotates now bucketID retired retire) (serves : InState retired bucketID old)
    (realises : Realises held [(old, retire)] none) (free : held.single = none) :
    Meets (Bootstrapped boot) (Finishes boot tx now) (refillBody env now bucketID) held := by
  refine (meets_bind selectStandby _).mpr (meets_selectFree fun found after locks facts => ?_)
  have single : after.single = none := locks.single.trans free
  cases found with
  | none => exact meets_bumpAndReturn (.retire kind serves) (realises.locks locks) single
  | some standby =>
      rcases facts standby rfl with ⟨selected, reads⟩
      have pooled : Pooled standby := of_decide_eq_true selected
      have later := realises.locks locks
      refine meets_fill (.rotate kind serves pooled) later single reads (unwritten_of_pooled reads pooled ?_)
      intro version member isPooled
      rcases (later.own version).mp member with ⟨move, listed, rfl⟩ | absent
      · cases List.mem_singleton.mp listed
        cases kind <;> cases isPooled.2.1
      · cases absent

theorem meets_rotate {bucketID : String} {retired : State} {retire : Rewrite}
    (kind : tx.Rotates now bucketID retired retire) :
    Meets (Bootstrapped boot) (Finishes boot tx now) (rotateBody env now bucketID retired retire) .empty := by
  refine (meets_bind (selectLocked env _) _).mpr (meets_selectForUpdate fun rows after locks facts => ?_)
  cases found : rows.head? with
  | none => exact meets_error (by decide)
  | some old =>
      rcases facts old (List.mem_of_head? found) with ⟨selected, reads⟩
      have serves : InState retired bucketID old := of_decide_eq_true selected
      refine (meets_bind (update env _ _) _).mpr (meets_updateOne env.heapOrder_perm
        (fun _ => meets_error (by decide)) reads (decide_eq_true ⟨rfl, rfl⟩)
        (fun _ chosen => (of_decide_eq_true chosen).1) fun later changes => ?_)
      have unwritten : after.own = [] := locks.own
      refine meets_refill kind serves ((realises_nothing unwritten).changes changes ?_)
        (changes.single.trans locks.single)
      intro row _ named
      rw [unwritten] at named
      exact Layout.not_names_nil named

theorem meets_promote {bucketID : String} :
    Meets (Bootstrapped boot) (Finishes boot (.promoteStandby bucketID) now) (promoteStandbyBody env now bucketID)
      .empty := by
  refine (meets_bind selectStandby _).mpr (meets_selectFree fun found after locks facts => ?_)
  cases found with
  | none => exact meets_error (by decide)
  | some standby =>
      rcases facts standby rfl with ⟨selected, reads⟩
      have pooled : Pooled standby := of_decide_eq_true selected
      refine meets_fill (.promote pooled) ((realises_nothing rfl).locks locks) locks.single reads
        (unwritten_of_pooled reads pooled ?_)
      intro version member
      rw [locks.own] at member
      cases member

/-- Rows with the same uuid, and active rows of one bucket, share a key. -/
theorem clash_of_uuid {first second : Shard} (same : first.shardUUID = second.shardUUID) :
    shardLayout.clash first second = true :=
  decide_eq_true (Or.inl same)

theorem clash_of_active {bucketID : String} {first second : Shard} (firstActive : InState .active bucketID first)
    (secondActive : InState .active bucketID second) : shardLayout.clash first second = true := by
  have firstKey := activeKey_eq_some.mpr firstActive
  have secondKey := activeKey_eq_some.mpr secondActive
  refine decide_eq_true (Or.inr (Or.inl ⟨?_, by rw [firstKey, secondKey]⟩))
  rw [firstKey]
  exact Option.some_ne_none _

/-- The rows of a first update have no own versions. -/
theorem realises_first {change : Rewrite} {rows : List Shard} {after : TxHeld}
    (changes : Changes change.rowChange Held.empty rows after) :
    Realises after (rows.map fun row => (row, change)) none :=
  (realises_nothing rfl).changes changes fun _ _ => Layout.not_names_nil

theorem meets_requireRow {condition : Shard -> Bool} {change : Rewrite} {finish : StoreProgram}
    (keyed : forall first second, condition first = true -> condition second = true ->
      shardLayout.clash first second = true)
    (finishes : forall row after, condition row = true -> Realises after [(row, change)] none ->
      after.single = none -> Meets (Bootstrapped boot) (Finishes boot tx now) finish after) :
    Meets (Bootstrapped boot) (Finishes boot tx now) (requireRow env condition change finish) .empty := by
  refine (meets_bind (update env _ _) _).mpr (meets_updateKeyed env.heapOrder_perm
    (fun _ => meets_error (by decide)) rfl keyed (fun _ _ => meets_error (by decide)) ?_)
  intro row after changes selected
  exact finishes row after selected (realises_first changes) changes.single

theorem meets_markBucketCleaning {bucketID : String} :
    Meets (Bootstrapped boot) (Finishes boot (.markBucketCleaning bucketID) now)
      (markBucketCleaningBody env bucketID) .empty := by
  refine (meets_bind (update env _ _) _).mpr (meets_updateRows env.heapOrder_perm
    (fun _ => meets_error (by decide)) fun rows after changes facts _ => ?_)
  have isSealed : forall row, row ∈ rows -> InState .sealed bucketID row := fun row member =>
    of_decide_eq_true (facts row member)
  have plan : Plan now (.markBucketCleaning bucketID) (.rows rows.length) (rows.map fun row => (row, .clean)) none
      (if rows = [] then .same else .bumped) := .clean isSealed
  cases rows with
  | nil => exact meets_ok plan (realises_first changes) changes.single
  | cons first rest => exact meets_bumpAndReturn plan (realises_first changes) changes.single

theorem meets_finishCleaning {uuid : UUID} :
    Meets (Bootstrapped boot) (Finishes boot (.finishCleaning uuid) now) (finishCleaningBody env uuid) .empty := by
  refine (meets_bind (update env _ _) _).mpr (meets_updateKeyed env.heapOrder_perm
    (fun _ => meets_error (by decide)) rfl ?_ ?_ ?_)
  · intro first second firstChosen secondChosen
    exact clash_of_uuid ((of_decide_eq_true firstChosen).1.trans (of_decide_eq_true secondChosen).1.symm)
  · intro after changes
    exact meets_ok .idle (realises_first changes) changes.single
  · intro row after changes selected
    rcases of_decide_eq_true selected with ⟨rfl, cleaning⟩
    exact meets_bumpAndReturn (.recycle cleaning) (realises_first changes) changes.single

theorem meets_setLastSeenAt {uuid : UUID} {instant : Time} :
    Meets (Bootstrapped boot) (Finishes boot (.setLastSeenAt uuid instant) now)
      (setLastSeenAtBody env uuid instant) .empty := by
  refine (meets_bind (update env _ _) _).mpr (meets_updateKeyed env.heapOrder_perm
    (fun _ => meets_error (by decide)) rfl ?_ ?_ ?_)
  · intro first second firstChosen secondChosen
    exact clash_of_uuid ((of_decide_eq_true firstChosen).trans (of_decide_eq_true secondChosen).symm)
  · intro after changes
    exact meets_ok .unseen (realises_first changes) changes.single
  · intro row after changes selected
    cases of_decide_eq_true selected
    exact meets_ok .seen (realises_first changes) changes.single

theorem meets_patchState {id : Nat} {newState : State} :
    Meets (Bootstrapped boot) (Finishes boot (.patchState id newState) now) (patchStateBody env id newState)
      .empty := by
  refine (meets_bind (selectLocked env _) _).mpr (meets_selectForUpdate fun rows after locks facts => ?_)
  cases found : rows.head? with
  | none => exact meets_error (by decide)
  | some current =>
      rcases facts current (List.mem_of_head? found) with ⟨selected, reads⟩
      cases of_decide_eq_true selected
      by_cases allowed : canTransition current.role current.state newState = true
      · simp only [if_pos allowed]
        refine (meets_bind (update env _ _) _).mpr (meets_updateOne env.heapOrder_perm
          (fun _ => meets_error (by decide)) reads (decide_eq_true ⟨rfl, rfl⟩)
          (fun _ chosen => (of_decide_eq_true chosen).1) fun later changes => ?_)
        have unwritten : after.own = [] := locks.own
        refine meets_bumpAndReturn (.patch allowed) ((realises_nothing unwritten).changes changes ?_)
          (changes.single.trans locks.single)
        intro row _ named
        rw [unwritten] at named
        exact Layout.not_names_nil named
      · simp only [if_neg allowed]
        exact meets_error (by rintro ⟨⟩)

theorem meets_insertShard {uuid : UUID} {role : Role} {dsn advertiseURL startupState : String} :
    Meets (Bootstrapped boot) (Finishes boot (.registerShard uuid role dsn advertiseURL startupState) now)
      (insertShard now uuid role dsn advertiseURL) .empty := by
  refine (meets_bind (upsert ClusterRow shardLayout _ _ _) _).mpr (meets_upsert
    (fun _ => meets_error (by decide)) ?_ fun id => ?_)
  · intro row after changes selected
    cases of_decide_eq_true selected
    have realises := realises_first changes
    exact meets_bumpAndReturn .readdress ⟨realises.own, realises.locked, realises.new⟩ changes.single
  · refine meets_bumpAndReturn .register ⟨?_, (fun _ absent => by cases absent), fun _ _ => Layout.not_names_nil⟩ rfl
    intro version
    rw [mem_put_own]
    simp only [Held.empty, List.not_mem_nil, false_and, or_false, exists_false, false_or, Option.some.injEq]
    exact eq_comm

theorem meets_registerShard {uuid : UUID} {role : Role} {dsn advertiseURL startupState : String} :
    Meets (Bootstrapped boot) (Finishes boot (.registerShard uuid role dsn advertiseURL startupState) now)
      (registerShardBody now uuid role dsn advertiseURL startupState) .empty := by
  unfold registerShardBody
  split
  · exact meets_error (by decide)
  · split
    · rename_i isError
      subst isError
      intro committed others errors after _ _ done
      have unchanged : after = .empty := by
        cases done
        rfl
      subst unchanged
      change Meets _ _ (if 0 < List.length errors then _ else insertShard now uuid .error dsn advertiseURL) _
      split
      · exact meets_pure fun _ => ⟨uuid, dsn, advertiseURL, startupState, rfl⟩
      · exact meets_insertShard
    · exact meets_insertShard

theorem meets_bootstrap {config : ClusterConfig} :
    Meets (Bootstrapped boot) (Finishes boot (.bootstrap config) now) (bootstrapBody config) .empty := by
  intro committed others existing after _ _ looked
  cases looked
  cases found : (Held.empty : TxHeld).visibleSingle committed.single with
  | some row =>
      exact meets_error (by decide)
  | none =>
      intro later theirs created final _ _ done
      simp only [access] at done
      split at done
      · cases done
      · split at done
        · cases done
          exact meets_error (by decide)
        · rename_i absent
          cases done
          refine meets_pure ⟨[], none, .created config, .bootstrap, realises_nothing rfl, ?_⟩
          have empty : later.single = none := absent
          simp only [HoldsCluster, Held.putSingle, empty]

theorem body_meets (boot : Prop) (env : Env) (tx : StoreTx) (now : Time) :
    Meets (Bootstrapped boot) (Finishes boot tx now) (StoreTx.body env now tx) .empty := by
  cases tx with
  | bootstrap config => exact meets_bootstrap
  | registerShard uuid role dsn advertiseURL startupState => exact meets_registerShard
  | promoteStandby bucketID => exact meets_promote
  | sealRotate bucketID => exact meets_rotate .sealing
  | completeDrainSeal bucketID => exact meets_rotate .drained
  | beginDrain bucketID =>
      refine meets_requireRow ?_ fun row after selected realises free =>
        meets_bumpAndReturn (.drain (of_decide_eq_true selected)) realises free
      exact fun first second firstChosen secondChosen =>
        clash_of_active (of_decide_eq_true firstChosen) (of_decide_eq_true secondChosen)
  | markDrainReady uuid =>
      refine meets_requireRow ?_ fun row after selected realises free => ?_
      · intro first second firstChosen secondChosen
        exact clash_of_uuid ((of_decide_eq_true firstChosen).1.trans (of_decide_eq_true secondChosen).1.symm)
      · rcases of_decide_eq_true selected with ⟨rfl, draining⟩
        exact meets_ok (.ready draining) realises free
  | markBucketCleaning bucketID => exact meets_markBucketCleaning
  | finishCleaning uuid => exact meets_finishCleaning
  | patchState id newState => exact meets_patchState
  | updateStats uuid reportedBytes =>
      refine meets_requireRow ?_ fun row after selected realises free => ?_
      · intro first second firstChosen secondChosen
        exact clash_of_uuid ((of_decide_eq_true firstChosen).trans (of_decide_eq_true secondChosen).symm)
      · cases of_decide_eq_true selected
        exact meets_ok .stats realises free
  | setLastSeenAt uuid instant => exact meets_setLastSeenAt
  | bumpTopologyVersion => exact meets_bumpAndReturn .bump (realises_nothing rfl) rfl

end Programs

/-! ## Commits on the database -/

/-- The database that a committed state is. -/
structure Represents (committed : Committed Shard ClusterRow) (db : Db) : Prop where
  shards : db.shards = committed.table
  cluster : db.cluster = committed.single
  nextID : db.nextID = committed.next

/-- The cluster configuration before and after a commit. -/
def ClusterChange.Moves (boot : Prop) (before after : Option ClusterRow) : ClusterChange -> Prop
  | .same => after = before
  | .bumped => after = before.map StoreTx.bumpRow ∨ ¬ boot ∧ after = before
  | .created config => before = none ∧ after = some ⟨config, 1⟩

/-- A commit carries out a plan: the rows of the plan were committed as the plan
has them, and exactly they are replaced. -/
structure Carries (boot : Prop) (before after : Db) (moved : List (Shard × Rewrite)) (added : Option Shard)
    (change : ClusterChange) : Prop where
  present : forall move, move ∈ moved -> move.1 ∈ before.shards
  new : forall row, added = some row -> forall other, other ∈ before.shards -> other.id ≠ row.id
  rows : forall row, row ∈ after.shards ↔
    (Exists fun move => move ∈ moved ∧ row = move.2.apply move.1) ∨ added = some row ∨
      row ∈ before.shards ∧ forall move, move ∈ moved -> move.1.id ≠ row.id
  cluster : change.Moves boot before.cluster after.cluster

/-- A table without clashes satisfies the unique indexes. -/
theorem indexUnique_of_clashFree {K : Type} {key : Shard -> Option K} {table : List Shard}
    (shares : forall first second, key first ≠ none -> key first = key second ->
      shardLayout.clash first second = true)
    (free : shardLayout.ClashFree table) : IndexUnique key table := by
  intro first firstMember second secondMember keyed same
  by_contra different
  have apart := free first firstMember second secondMember different
  rw [shares first second keyed same] at apart
  cases apart

theorem clashFree_of_db (db : Db) : shardLayout.ClashFree db.shards := by
  intro first firstMember second secondMember different
  refine decide_eq_false ?_
  rintro (uuid | ⟨keyed, same⟩ | ⟨keyed, same⟩)
  · exact different (db.uuidUnique first firstMember second secondMember (Option.some_ne_none _)
      (congrArg some uuid))
  · exact different (db.oneActivePerBucket first firstMember second secondMember keyed same)
  · exact different (db.oneError first firstMember second secondMember keyed same)

/-- Every committed state of a sound server is a database. -/
theorem committed_represented {server : DbServer} (sound : Sound server) :
    Exists fun db => Represents server.committed db := by
  refine ⟨⟨server.committed.table, server.committed.next, server.committed.single, sound.sorted, sound.issued,
    ?_, ?_, ?_⟩, rfl, rfl, rfl⟩
  · refine indexUnique_of_clashFree (fun first second _ same => ?_) sound.clashFree
    exact decide_eq_true (Or.inl (Option.some_inj.mp same))
  · exact indexUnique_of_clashFree (fun first second keyed same => decide_eq_true (Or.inr (Or.inl ⟨keyed, same⟩)))
      sound.clashFree
  · exact indexUnique_of_clashFree (fun first second keyed same => decide_eq_true (Or.inr (Or.inr ⟨keyed, same⟩)))
      sound.clashFree

theorem serve_sound (db : Db) (now : Time) : Sound (db.serve now) :=
  sound_idle _ _ db.ordered (clashFree_of_db db) db.issued

/-- What a transaction holds becomes the change of the database. -/
theorem carries_of_absorb {boot : Prop} {committed : Committed Shard ClusterRow} {held : TxHeld}
    {moved : List (Shard × Rewrite)} {added : Option Shard} {change : ClusterChange} {before after : Db}
    (fits : Fits shardLayout committed held) (realises : Realises held moved added)
    (cluster : HoldsCluster boot held change) (old : Represents committed before)
    (new : Represents (committed.absorb shardLayout held) after) : Carries boot before after moved added change := by
  have unused : forall row, added = some row -> ¬ shardLayout.Names committed.table row.id := by
    intro row isAdded
    exact (fits.based row ((realises.own row).mpr (Or.inr isAdded))).resolve_left (realises.new row isAdded)
  refine ⟨?_, ?_, ?_, ?_⟩
  · intro move member
    rw [old.shards]
    exact fits.locked _ (realises.locked move member)
  · intro row isAdded other member same
    rw [old.shards] at member
    exact unused row isAdded ⟨other, member, same⟩
  · intro row
    rw [new.shards, old.shards]
    change row ∈ shardLayout.overlay committed.table held.own ↔ _
    rw [Layout.mem_overlay, realises.own, or_assoc]
    refine or_congr_right (or_congr_right (and_congr_right fun member => ?_))
    constructor
    · intro unwritten move listed same
      refine unwritten ⟨move.2.apply move.1, (realises.own _).mpr (Or.inl ⟨move, listed, rfl⟩), ?_⟩
      exact (move.2.id_eq move.1).trans same
    · rintro others ⟨version, mine, same⟩
      rcases (realises.own version).mp mine with ⟨move, listed, rfl⟩ | isAdded
      · exact others move listed ((move.2.id_eq move.1).symm.trans same)
      · exact unused version isAdded ⟨row, member, same.symm⟩
  · rw [old.cluster, new.cluster]
    cases change with
    | same =>
        have free : held.single = none := cluster
        simp only [ClusterChange.Moves, Committed.absorb, Held.visibleSingle, free]
    | bumped =>
        rcases cluster with ⟨row, single⟩ | ⟨unbooted, single⟩
        · left
          rw [← fits.single _ _ single]
          simp only [Committed.absorb, Held.visibleSingle, single, Option.map_some]
        · right
          simp only [Committed.absorb, Held.visibleSingle, single, and_true]
          exact unbooted
    | created config =>
        have single : held.single = some (none, ⟨config, 1⟩) := cluster
        refine ⟨(fits.single _ _ single).symm, ?_⟩
        simp only [Committed.absorb, Held.visibleSingle, single]

section Runs

variable {env : Env} {start : Db} {now : Time} {past : List (Event DbServer DbServerAction)} {server after : DbServer}

/-- Along every run the transactions follow their plans. -/
theorem run_follows_plans (run : DbServerRun env (start.serve now) past server) :
    Meeting (Bootstrapped (start.cluster ≠ none)) (Finishes (start.cluster ≠ none)) server :=
  run_meeting (bootstrapped_lasting _) (body_meets _ env) (serve_sound start now) (fun bootstrapped => bootstrapped)
    rfl run

/-- The databases before and after a step: nothing has changed, or a transaction
has been committed and its plan has been carried out. -/
theorem step_carries {boot : Prop} (meeting : Meeting (Bootstrapped boot) (Finishes boot) server)
    {action : DbServerAction} (taken : server.step (fun tx now => StoreTx.body env now tx) action = some after)
    {before later : Db} (old : Represents server.committed before) (new : Represents after.committed later) :
    (later.shards = before.shards ∧ later.cluster = before.cluster) ∨
      Exists fun index => Exists fun tx => Exists fun started => Exists fun value => Exists fun held =>
        Exists fun moved => Exists fun added => Exists fun change =>
          action = .close index ∧ server.sessions[index]? = some ⟨tx, started, .finish (.ok value), held, true⟩ ∧
          Plan started tx value moved added change ∧ Carries boot before later moved added change := by
  rcases Engine.step_committed meeting taken with ⟨table, single⟩ |
    ⟨index, tx, started, value, held, closes, found, fits, ⟨moved, added, change, plan, realises, cluster⟩, absorbed⟩
  · left
    rw [new.shards, old.shards, new.cluster, old.cluster]
    exact ⟨table, single⟩
  · right
    rw [absorbed] at new
    exact ⟨index, tx, started, value, held, moved, added, change, closes, found, plan,
      carries_of_absorb fits realises cluster old new⟩

/-- However the statements of any number of transactions are interleaved, the
committed state is a database at all times, and it changes only when a
transaction commits.  Then it changes as one transaction would change it at that
moment by itself: the rows of its plan are in the committed table as the plan
requires them, and they alone are replaced. -/
theorem commits_carry_out_plans (run : DbServerRun env (start.serve now) past server) {action : DbServerAction}
    (taken : server.step (fun tx now => StoreTx.body env now tx) action = some after) :
    Exists fun before => Exists fun later => Represents server.committed before ∧
      Represents after.committed later ∧
      ((later.shards = before.shards ∧ later.cluster = before.cluster) ∨
        Exists fun index => Exists fun tx => Exists fun started => Exists fun value => Exists fun held =>
          Exists fun moved => Exists fun added => Exists fun change =>
            action = .close index ∧ server.sessions[index]? = some ⟨tx, started, .finish (.ok value), held, true⟩ ∧
            Plan started tx value moved added change ∧
            Carries (start.cluster ≠ none) before later moved added change) := by
  have meeting := run_follows_plans run
  rcases committed_represented meeting.sound with ⟨before, represents⟩
  rcases committed_represented (Engine.step_sound meeting.sound taken) with ⟨later, laterRepresents⟩
  exact ⟨before, later, represents, laterRepresents, step_carries meeting taken represents laterRepresents⟩

/-- Two standbys are registered, and two promotions run side by side: the second
one passes over the standby that the first one holds. -/
def twoPromotions : List DbServerAction :=
  List.flatten [[.start (.bootstrap (sampleConfig 100))], List.replicate 2 (.resume 0),
    [.close 0, .start (.registerShard 1 .data "a" "" "")], List.replicate 3 (.resume 1),
    [.close 1, .start (.registerShard 2 .data "b" "" "")], List.replicate 3 (.resume 2),
    [.close 2, .start (.promoteStandby "n5"), .start (.promoteStandby "n6"), .resume 3, .resume 4, .resume 3,
      .resume 4, .resume 4], List.replicate 3 (.resume 3), [.close 3], List.replicate 3 (.resume 4)]

theorem commits_carry_out_plans_promotions : Exists fun past => Exists fun server : DbServer =>
    Exists fun after : DbServer => DbServerRun sampleEnv (Db.fresh.serve 0) past server ∧
      server.step (fun tx now => StoreTx.body sampleEnv now tx) (.close 4) = some after ∧
      Exists fun before => Exists fun later => Represents server.committed before ∧
        Represents after.committed later ∧
        ((later.shards = before.shards ∧ later.cluster = before.cluster) ∨
          Exists fun index => Exists fun tx => Exists fun started => Exists fun value => Exists fun held =>
            Exists fun moved => Exists fun added => Exists fun change =>
              (.close 4 : DbServerAction) = .close index ∧
              server.sessions[index]? = some ⟨tx, started, .finish (.ok value), held, true⟩ ∧
              Plan started tx value moved added change ∧
              Carries (Db.fresh.cluster ≠ none) before later moved added change) := by
  have passed : replayCheck (fun (server : DbServer) action =>
      server.step (fun tx now => StoreTx.body sampleEnv now tx) action) twoPromotions (Db.fresh.serve 0)
      (fun _ server => (server.step (fun tx now => StoreTx.body sampleEnv now tx) (.close 4)).isSome) = true := by
    decide +kernel
  rcases replayCheck_run passed with ⟨past, server, run, ends⟩
  rcases Option.isSome_iff_exists.mp ends with ⟨after, taken⟩
  exact ⟨past, server, after, run, taken, commits_carry_out_plans run taken⟩

/-- The version check of an update that follows a SELECT … FOR UPDATE never
fails: no transaction but the registration of an error shard reports a
conflict. -/
theorem version_checks_never_fail (run : DbServerRun env (start.serve now) past server) {index : Nat}
    {tx : StoreTx} {started : Time} {held : TxHeld}
    (finished : server.sessions[index]? = some ⟨tx, started, .finish (.error .conflict), held, true⟩) :
    Exists fun uuid => Exists fun dsn => Exists fun advertiseURL => Exists fun startupState =>
      tx = .registerShard uuid .error dsn advertiseURL startupState := by
  have meeting := run_follows_plans run
  exact meeting.sessions _ (List.mem_of_getElem? finished) rfl _ _ meeting.state (meeting.sound.context finished) rfl

/-- The transaction has found a conflict and is still to be rolled back. -/
def reportsConflict (session : Session Shard ClusterRow StoreTx StoreError TxValue shardLayout) : Bool :=
  match session.program with
  | .finish (.error .conflict) => session.isOpen
  | _ => false

/-- A second error shard is refused. -/
theorem version_checks_never_fail_secondError : Exists fun past => Exists fun server : DbServer =>
    Exists fun tx => Exists fun started => Exists fun held =>
      DbServerRun sampleEnv (Db.fresh.serve 0) past server ∧
      server.sessions[1]? = some ⟨tx, started, .finish (.error .conflict), held, true⟩ ∧
      Exists fun uuid => Exists fun dsn => Exists fun advertiseURL => Exists fun startupState =>
        tx = .registerShard uuid .error dsn advertiseURL startupState := by
  have passed : replayCheck (fun (server : DbServer) action =>
      server.step (fun tx now => StoreTx.body sampleEnv now tx) action)
      (List.flatten [[.start (.registerShard 1 .error "a" "" "")], List.replicate 4 (.resume 0),
        [.close 0, .start (.registerShard 2 .error "b" "" ""), .resume 1]]) (Db.fresh.serve 0)
      (fun _ server => (server.sessions[1]?).any reportsConflict) = true := by
    decide +kernel
  rcases replayCheck_run passed with ⟨past, server, run, reports⟩
  rcases (Option.any_eq_true _ _).mp reports with ⟨⟨tx, started, program, held, isOpen⟩, found, conflict⟩
  simp only [reportsConflict] at conflict
  split at conflict
  · cases conflict
    exact ⟨past, server, tx, started, held, run, found, version_checks_never_fail run found⟩
  · cases conflict

end Runs

end Store
end Shardman
