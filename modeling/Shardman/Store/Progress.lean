import Shardman.Foundation.RowProgress
import Shardman.Store.Commits

namespace Shardman
namespace Store

open Fsm
open Bucket
open Foundation

/-!
# The transactions never deadlock

The uuid of a row never changes, while the keys of the two partial indexes come
and go: a row has the key of its bucket while it is active.  A transaction that
gives up or takes such a key has locked all its rows before.  What it still
writes is a standby that it holds, and the key of that standby is the one it
has given up, so it waits for nothing but the row of the cluster configuration.
That row is locked last.

Statements that lock several rows must go through them in the same order.  Here
scans are assumed to be in the order of the ids.
-/

theorem activate_activeKey {now : Time} {bucketID : String} {row : Shard}
    (keyed : activeKey ((Rewrite.activate now bucketID).apply row) ≠ none) :
    activeKey ((Rewrite.activate now bucketID).apply row) = some bucketID := by
  unfold activeKey at keyed ⊢
  split at keyed
  · rename_i isActive
    rw [if_pos isActive]
    rfl
  · exact absurd rfl keyed

def shardKeys : Keys shardLayout UUID where
  fixed row := row.shardUUID
  Keyed row := activeKey row ≠ none ∨ errorKey row ≠ none
  split first second clash := by
    rcases of_decide_eq_true clash with uuid | ⟨keyed, same⟩ | ⟨keyed, same⟩
    · exact Or.inl uuid
    · exact Or.inr ⟨Or.inl keyed, Or.inl (same ▸ keyed)⟩
    · exact Or.inr ⟨Or.inr keyed, Or.inr (same ▸ keyed)⟩
  shared _ _ same := clash_of_uuid same

theorem rewrite_keepsFixed (change : Rewrite) : KeepsFixed shardKeys change.rowChange :=
  change.uuid_eq

/-- A data row that is not active is in neither partial index. -/
theorem not_keyed {row : Shard} (data : row.role = .data) (inactive : row.state ≠ .active) : ¬ shardKeys.Keyed row := by
  rintro (keyed | keyed)
  · exact keyed (if_neg fun isActive => inactive isActive.2)
  · refine keyed (if_neg fun isError => ?_)
    rw [data] at isError
    cases isError

section Programs

open StoreTx

variable {given : Committed Shard ClusterRow -> Prop} {env : Env} {now : Time} {tx : StoreTx} {held : TxHeld}

theorem orderly_bumpAndReturn {value : TxValue} (free : held.single = none) :
    Orderly shardKeys given (bumpAndReturn value) held :=
  orderly_bind bumpStatement _ (orderly_ask free trivial)
    (meets_alter fun _ _ => ⟨fun _ => orderly_pure, fun _ _ => orderly_pure⟩)

theorem orderly_fill {bucketID : String} {standbyID : Nat} {value : TxValue} (free : held.single = none)
    (ready : Ready shardKeys held
      (.write standbyID (fun row => row.id = standbyID) (Rewrite.activate now bucketID).rowChange)) :
    Orderly shardKeys given (fill env now bucketID standbyID value) held := by
  refine orderly_bind (update env _ _) _
    (orderly_updateOne env.heapOrder_perm free (fun _ => of_decide_eq_true) ready) ?_
  refine meets_updateRows env.heapOrder_perm (fun _ => orderly_pure) fun rows after changes _ _ => ?_
  exact orderly_bumpAndReturn (changes.single.trans free)

/-- A row that is held may be written as long as no key has been given up. -/
theorem ready_of_unbound {id : Nat} {condition : Shard -> Bool} {change : Rewrite} (unbound : Unbound shardKeys held)
    (has : held.Has shardLayout id) : Ready shardKeys held (.write id condition change.rowChange) :=
  ⟨rewrite_keepsFixed change, Or.inl ⟨unbound, Or.inl has⟩⟩

/-- The replacement of a retired row may be written: the key of an active row
passes from the retired row to it, and a drained row had none. -/
theorem ready_of_rotates {bucketID : String} {retired : State} {retire : Rewrite} {old standby : Shard}
    (kind : tx.Rotates now bucketID retired retire) (serves : InState retired bucketID old)
    (realises : Realises held [(old, retire)] none) (reads : held.Reads shardLayout standby) :
    Ready shardKeys held
      (.write standby.id (fun row => row.id = standby.id) (Rewrite.activate now bucketID).rowChange) := by
  have locked : old ∈ held.locked := realises.locked (old, retire) List.mem_cons_self
  have own : forall version, version ∈ held.own ↔ version = retire.apply old := by
    intro version
    rw [realises.own]
    simp only [List.mem_singleton, exists_eq_left, reduceCtorEq, or_false]
  cases kind with
  | sealing =>
      refine ⟨rewrite_keepsFixed _, Or.inr ⟨reads.has, old, locked, ?_, ?_⟩⟩
      · exact ⟨_, (own _).mpr rfl, (Rewrite.sealRow now).id_eq old⟩
      · intro row _ _ _ other clash
        rcases of_decide_eq_true clash with uuid | ⟨keyed, same⟩ | ⟨keyed, same⟩
        · exact Or.inl (clash_of_uuid (((Rewrite.activate now bucketID).uuid_eq row).symm.trans uuid))
        · have key := activate_activeKey keyed
          exact Or.inr (clash_of_active serves (activeKey_eq_some.mp (same.symm.trans key)))
        · have kept : errorKey ((Rewrite.activate now bucketID).apply row) = errorKey row := by
            simp only [errorKey, Rewrite.role_eq]
          have unchanged : errorKey row = errorKey other := kept.symm.trans same
          exact Or.inl (decide_eq_true (Or.inr (Or.inr ⟨kept ▸ keyed, unchanged⟩)))
  | drained =>
      refine ready_of_unbound ?_ reads.has
      intro version member
      cases (own version).mp member
      refine ⟨not_keyed ?_ (by rintro ⟨⟩), old, locked, ((Rewrite.drainSeal now).id_eq old).symm,
        not_keyed serves.1 ?_, ((Rewrite.drainSeal now).uuid_eq old).symm⟩
      · exact ((Rewrite.drainSeal now).role_eq old).trans serves.1
      · rw [serves.2.2]
        rintro ⟨⟩

theorem orderly_refill {bucketID : String} {retired : State} {retire : Rewrite} {old : Shard}
    (kind : tx.Rotates now bucketID retired retire) (serves : InState retired bucketID old)
    (realises : Realises held [(old, retire)] none) (free : held.single = none) :
    Orderly shardKeys given (refillBody env now bucketID) held := by
  refine orderly_bind selectStandby _ (orderly_selectFree free) (meets_selectFree fun found after locks facts => ?_)
  have single : after.single = none := locks.single.trans free
  cases found with
  | none => exact orderly_bumpAndReturn single
  | some standby =>
      exact orderly_fill single (ready_of_rotates kind serves (realises.locks locks) (facts standby rfl).2)

theorem orderly_promote {bucketID : String} :
    Orderly shardKeys given (promoteStandbyBody env now bucketID) .empty := by
  refine orderly_bind selectStandby _ (orderly_selectFree rfl) (meets_selectFree fun found after locks facts => ?_)
  cases found with
  | none => exact orderly_pure
  | some standby =>
      exact orderly_fill locks.single (ready_of_unbound (unbound_of_unwritten locks.own) (facts standby rfl).2.has)

theorem orderly_requireRow {condition : Shard -> Bool} {change : Rewrite} {finish : StoreProgram}
    (keyed : forall first second, condition first = true -> condition second = true ->
      shardLayout.clash first second = true)
    (finishes : forall after : TxHeld, after.single = none -> Orderly shardKeys given finish after) :
    Orderly shardKeys given (requireRow env condition change finish) .empty := by
  refine orderly_bind (update env _ _) _
    (orderly_updateKeyed env.heapOrder_perm (rewrite_keepsFixed change) keyed) ?_
  refine meets_updateRows env.heapOrder_perm (fun _ => orderly_pure) fun rows after changes _ _ => ?_
  cases rows with
  | nil => exact orderly_pure
  | cons row rest => exact finishes after changes.single

theorem orderly_finishCleaning {uuid : UUID} : Orderly shardKeys given (finishCleaningBody env uuid) .empty := by
  refine orderly_bind (update env _ _) _
    (orderly_updateKeyed env.heapOrder_perm (rewrite_keepsFixed .recycle) ?_) ?_
  · intro first second firstChosen secondChosen
    exact clash_of_uuid ((of_decide_eq_true firstChosen).1.trans (of_decide_eq_true secondChosen).1.symm)
  · refine meets_updateRows env.heapOrder_perm (fun _ => orderly_pure) fun rows after changes _ _ => ?_
    cases rows with
    | nil => exact orderly_pure
    | cons row rest => exact orderly_bumpAndReturn changes.single

theorem orderly_setLastSeenAt {uuid : UUID} {instant : Time} :
    Orderly shardKeys given (setLastSeenAtBody env uuid instant) .empty := by
  refine orderly_bind (update env _ _) _
    (orderly_updateKeyed env.heapOrder_perm (rewrite_keepsFixed (.seen instant)) ?_) ?_
  · intro first second firstChosen secondChosen
    exact clash_of_uuid ((of_decide_eq_true firstChosen).trans (of_decide_eq_true secondChosen).symm)
  · exact meets_updateRows env.heapOrder_perm (fun _ => orderly_pure) fun _ _ _ _ _ => orderly_pure

theorem orderly_insertShard {uuid : UUID} {role : Role} {dsn advertiseURL : String} :
    Orderly shardKeys given (insertShard now uuid role dsn advertiseURL) .empty := by
  refine orderly_bind (upsert ClusterRow shardLayout _ _ _) _ (orderly_upsert (rewrite_keepsFixed _) ?_)
    (meets_upsert (fun _ => orderly_pure) ?_ ?_)
  · exact fun _ _ => decide_eq_true_iff
  · intro row after changes _
    exact orderly_bumpAndReturn changes.single
  · exact fun _ => orderly_bumpAndReturn rfl

theorem orderly_registerShard {uuid : UUID} {role : Role} {dsn advertiseURL startupState : String} :
    Orderly shardKeys given (registerShardBody now uuid role dsn advertiseURL startupState) .empty := by
  unfold registerShardBody
  split
  · exact orderly_pure
  · split
    · intro committed others _ _
      refine ⟨⟨rfl, trivial⟩, fun errors after done => ?_⟩
      have unchanged : after = .empty := by
        cases done
        rfl
      subst unchanged
      change Orderly shardKeys given
        (if 0 < List.length errors then _ else insertShard now uuid role dsn advertiseURL) _
      split
      · exact orderly_pure
      · exact orderly_insertShard
    · exact orderly_insertShard

theorem orderly_bootstrap {config : ClusterConfig} : Orderly shardKeys given (bootstrapBody config) .empty := by
  intro committed others _ _
  refine ⟨⟨rfl, trivial⟩, fun existing after looked => ?_⟩
  cases looked
  cases found : (Held.empty : TxHeld).visibleSingle committed.single with
  | some row => exact orderly_pure
  | none =>
      intro later theirs _ _
      refine ⟨⟨rfl, trivial⟩, fun created final _ => ?_⟩
      cases created <;> exact orderly_pure

section Scans

variable (inOrder : forall rows, shardLayout.Sorted rows -> shardLayout.Sorted (env.heapOrder rows))

include inOrder

theorem orderly_rotate {bucketID : String} {retired : State} {retire : Rewrite}
    (kind : tx.Rotates now bucketID retired retire) :
    Orderly shardKeys given (rotateBody env now bucketID retired retire) .empty := by
  refine orderly_bind (selectLocked env _) _ (orderly_selectForUpdate inOrder)
    (meets_selectForUpdate fun rows after locks facts => ?_)
  cases found : rows.head? with
  | none => exact orderly_pure
  | some old =>
      rcases facts old (List.mem_of_head? found) with ⟨selected, reads⟩
      have unwritten : after.own = [] := locks.own
      refine orderly_bind (update env _ _) _ (orderly_updateOne env.heapOrder_perm locks.single
        (fun _ chosen => (of_decide_eq_true chosen).1)
        (ready_of_unbound (unbound_of_unwritten unwritten) reads.has)) ?_
      refine meets_updateOne env.heapOrder_perm (fun _ => orderly_pure) reads (decide_eq_true ⟨rfl, rfl⟩)
        (fun _ chosen => (of_decide_eq_true chosen).1) fun later changes => ?_
      refine orderly_refill kind (of_decide_eq_true selected) ((realises_nothing unwritten).changes changes ?_)
        (changes.single.trans locks.single)
      intro row _ named
      rw [unwritten] at named
      exact Layout.not_names_nil named

theorem orderly_patchState {id : Nat} {newState : State} :
    Orderly shardKeys given (patchStateBody env id newState) .empty := by
  refine orderly_bind (selectLocked env _) _ (orderly_selectForUpdate inOrder)
    (meets_selectForUpdate fun rows after locks facts => ?_)
  cases found : rows.head? with
  | none => exact orderly_pure
  | some current =>
      rcases facts current (List.mem_of_head? found) with ⟨selected, reads⟩
      cases of_decide_eq_true selected
      by_cases allowed : canTransition current.role current.state newState = true
      · simp only [if_pos allowed]
        refine orderly_bind (update env _ _) _ (orderly_updateOne env.heapOrder_perm locks.single
          (fun _ chosen => (of_decide_eq_true chosen).1)
          (ready_of_unbound (unbound_of_unwritten locks.own) reads.has)) ?_
        refine meets_updateOne env.heapOrder_perm (fun _ => orderly_pure) reads (decide_eq_true ⟨rfl, rfl⟩)
          (fun _ chosen => (of_decide_eq_true chosen).1) fun later changes => ?_
        exact orderly_bumpAndReturn (changes.single.trans locks.single)
      · simp only [if_neg allowed]
        exact orderly_pure

theorem orderly_markBucketCleaning {bucketID : String} :
    Orderly shardKeys given (markBucketCleaningBody env bucketID) .empty := by
  refine orderly_bind (update env _ _) _ (orderly_updateMany inOrder (rewrite_keepsFixed .clean) ?_ ?_) ?_
  · intro row chosen
    have isSealed : InState .sealed bucketID row := of_decide_eq_true chosen
    refine ⟨not_keyed isSealed.1 ?_, not_keyed ((Rewrite.clean.role_eq row).trans isSealed.1) (by rintro ⟨⟩)⟩
    rw [isSealed.2.2]
    rintro ⟨⟩
  · intro row _
    refine decide_eq_false ?_
    rintro ⟨_, _, ⟨⟩⟩
  · refine meets_updateRows env.heapOrder_perm (fun _ => orderly_pure) fun rows after changes _ _ => ?_
    cases rows with
    | nil => exact orderly_pure
    | cons row rest => exact orderly_bumpAndReturn changes.single

theorem body_orderly (tx : StoreTx) (now : Time) : Orderly shardKeys given (StoreTx.body env now tx) .empty := by
  cases tx with
  | bootstrap config => exact orderly_bootstrap
  | registerShard uuid role dsn advertiseURL startupState => exact orderly_registerShard
  | promoteStandby bucketID => exact orderly_promote
  | sealRotate bucketID => exact orderly_rotate inOrder .sealing
  | completeDrainSeal bucketID => exact orderly_rotate inOrder .drained
  | beginDrain bucketID =>
      refine orderly_requireRow ?_ fun _ => orderly_bumpAndReturn
      exact fun first second firstChosen secondChosen =>
        clash_of_active (of_decide_eq_true firstChosen) (of_decide_eq_true secondChosen)
  | markDrainReady uuid =>
      refine orderly_requireRow ?_ fun _ _ => orderly_pure
      exact fun first second firstChosen secondChosen =>
        clash_of_uuid ((of_decide_eq_true firstChosen).1.trans (of_decide_eq_true secondChosen).1.symm)
  | markBucketCleaning bucketID => exact orderly_markBucketCleaning inOrder
  | finishCleaning uuid => exact orderly_finishCleaning
  | patchState id newState => exact orderly_patchState inOrder
  | updateStats uuid reportedBytes =>
      refine orderly_requireRow ?_ fun _ _ => orderly_pure
      exact fun first second firstChosen secondChosen =>
        clash_of_uuid ((of_decide_eq_true firstChosen).trans (of_decide_eq_true secondChosen).symm)
  | setLastSeenAt uuid instant => exact orderly_setLastSeenAt
  | bumpTopologyVersion => exact orderly_bumpAndReturn rfl

end Scans

end Programs

/-- However many transactions are in progress and however they got there, they
can all be brought to their ends without giving any of them up: no set of
transactions waits for each other in a circle. -/
theorem transactions_never_deadlock {env : Env} {start : Db} {now : Time}
    (inOrder : forall rows, shardLayout.Sorted rows -> shardLayout.Sorted (env.heapOrder rows))
    {past : List (Event DbServer DbServerAction)} {server : DbServer}
    (run : DbServerRun env (start.serve now) past server) :
    Exists fun later => Exists fun final => DbServerRun env (start.serve now) (later ++ past) final ∧
      (forall event, event ∈ later ->
        Exists fun index => event.action = .resume index ∨ event.action = .close index) ∧
      forall session, session ∈ final.sessions -> session.isOpen = false :=
  run_completes (bootstrapped_lasting False) (body_orderly inOrder) (serve_sound start now)
    (fun impossible => impossible.elim) rfl run

/-- Two promotions in progress, of which each holds a standby. -/
theorem transactions_never_deadlock_promotions : Exists fun past => Exists fun server : DbServer =>
    DbServerRun sampleEnv (Db.fresh.serve 0) past server ∧
      (server.sessions.filter fun session => session.isOpen).length = 2 ∧
      Exists fun later => Exists fun final : DbServer =>
        DbServerRun sampleEnv (Db.fresh.serve 0) (later ++ past) final ∧
        (forall event, event ∈ later ->
          Exists fun index => event.action = .resume index ∨ event.action = .close index) ∧
        forall session, session ∈ final.sessions -> session.isOpen = false := by
  have passed : replayCheck (fun (server : DbServer) action =>
      server.step (fun tx now => StoreTx.body sampleEnv now tx) action) (twoPromotions.take 22) (Db.fresh.serve 0)
      (fun _ server => (server.sessions.filter fun session => session.isOpen).length == 2) = true := by
    decide +kernel
  rcases replayCheck_run passed with ⟨past, server, run, two⟩
  exact ⟨past, server, run, beq_iff_eq.mp two, transactions_never_deadlock (fun _ sorted => sorted) run⟩

end Store
end Shardman
