import Shardman.Control.Rotations
import Mathlib.Data.List.Perm.Subperm

namespace Shardman
namespace Control

open Fsm
open Bucket
open Store
open Foundation

/-!
# Failover that runs alone

A silent active shard is to be replaced by a standby, and where there is none it
is to stay active, so that its bucket has an active shard as before.  The
rotation seals first and looks for a standby afterwards, and it also commits when
it finds none.  Failover thus behaves as described only while the pool is large
enough: for a tick of the health supervisor, as large as the number of silent
active shards; for a resolve, not empty if the active shard of the bucket is
silent and failover is reached.
-/

/-- A shard of the pool has become active for a bucket. -/
def PromotedFor (before after : Db) (bucketID : String) : Prop :=
  Exists fun spare => spare ∈ before.shards ∧ Pooled spare ∧
    Exists fun promoted => promoted ∈ after.shards ∧ promoted.id = spare.id ∧ InState .active bucketID promoted

/-- Failover replaces silent active shards or leaves them. -/
structure ReplacesOrLeaves (env : Env) (moment : Moment) (after : Db) : Prop where
  replaces : forall bucketID row, row ∈ moment.db.shards -> InState .active bucketID row ->
    ¬ Fresh env moment.now row -> forall moved, moved ∈ after.shards -> moved.id = row.id ->
      moved.state = .sealed -> PromotedFor moment.db after bucketID
  leaves : forall bucketID row, row ∈ moment.db.shards -> InState .active bucketID row ->
    ¬ Fresh env moment.now row -> ¬ PromotedFor moment.db after bucketID -> row ∈ after.shards
  serves : forall bucketID row, row ∈ moment.db.shards -> InState .active bucketID row ->
    Exists fun other => other ∈ after.shards ∧ InState .active bucketID other

section Replacement

variable {env : Env} {moment : Moment} {after : Db}

/-- It is enough that every active row is kept or has its bucket taken over. -/
theorem replacesOrLeaves_of_covered
    (covered : forall bucketID row, row ∈ moment.db.shards -> InState .active bucketID row ->
      row ∈ after.shards ∨ PromotedFor moment.db after bucketID) : ReplacesOrLeaves env moment after := by
  constructor
  case replaces =>
    intro bucketID row member active _ moved movedMember same isSealed
    rcases covered bucketID row member active with kept | promoted
    · rw [after.eq_of_id movedMember kept same, active.2.2] at isSealed
      cases isSealed
    · exact promoted
  case leaves =>
    intro bucketID row member active _ unreplaced
    exact (covered bucketID row member active).resolve_right unreplaced
  case serves =>
    intro bucketID row member active
    rcases covered bucketID row member active with kept | ⟨_, _, _, promoted, promotedMember, _, serves⟩
    · exact ⟨row, kept, active⟩
    · exact ⟨promoted, promotedMember, serves⟩

theorem replacesOrLeaves_refl (env : Env) (moment : Moment) : ReplacesOrLeaves env moment moment.db :=
  replacesOrLeaves_of_covered fun _ _ member _ => Or.inl member

/-- A promotion leaves all active rows. -/
theorem replacesOrLeaves_promoted {bucketID : String} {spare : Shard} (found : nextStandby moment.db = some spare)
    (table : after.shards = moment.db.tableAt spare.id (.activate moment.now bucketID)) :
    ReplacesOrLeaves env moment after := by
  rcases nextStandby_some found with ⟨spareMember, pooled⟩
  apply replacesOrLeaves_of_covered
  intro other row member active
  have apart := pooled_id_ne spareMember pooled member (active_not_pooled active)
  rw [table]
  exact Or.inl (mem_tableAt.mpr (Or.inr ⟨member, apart.symm⟩))

/-- A rotation that finds a standby replaces one row and leaves the others. -/
theorem replacesOrLeaves_rotated {bucketID : String} {stale spare : Shard} (staleMember : stale ∈ moment.db.shards)
    (staleServes : InState .active bucketID stale) (found : nextStandby moment.db = some spare)
    (table : after.shards = moment.db.tableRotated moment.now bucketID stale spare (.sealRow moment.now)) :
    ReplacesOrLeaves env moment after := by
  rcases nextStandby_some found with ⟨spareMember, pooled⟩
  have different := pooled_id_ne spareMember pooled staleMember (active_not_pooled staleServes)
  apply replacesOrLeaves_of_covered
  intro other row member active
  rw [table, mem_tableRotated staleMember spareMember different]
  by_cases isStale : row.id = stale.id
  · cases moment.db.eq_of_id member staleMember isStale
    cases Option.some_inj.mp (active.2.1.symm.trans staleServes.2.1)
    refine Or.inr ⟨spare, spareMember, pooled, (Rewrite.activate moment.now bucketID).apply spare, ?_, rfl,
      pooled.1, rfl, rfl⟩
    rw [table, mem_tableRotated staleMember spareMember different]
    exact Or.inr (Or.inl rfl)
  · have apart := pooled_id_ne spareMember pooled member (active_not_pooled active)
    exact Or.inl (Or.inr (Or.inr ⟨member, isStale, apart.symm⟩))

/-- A rotation that finds none has sealed a row for nothing. -/
theorem not_replacesOrLeaves_sealed {bucketID : String} {stale : Shard} (staleMember : stale ∈ moment.db.shards)
    (staleServes : InState .active bucketID stale) (missed : ¬ Fresh env moment.now stale)
    (empty : nextStandby moment.db = none)
    (table : after.shards = moment.db.tableAt stale.id (.sealRow moment.now)) :
    ¬ ReplacesOrLeaves env moment after := by
  intro promised
  have retired : (Rewrite.sealRow moment.now).apply stale ∈ after.shards := by
    rw [table]
    exact mem_tableAt.mpr (Or.inl ⟨stale, staleMember, rfl, rfl⟩)
  rcases promised.replaces bucketID stale staleMember staleServes missed _ retired rfl rfl with
    ⟨spare, spareMember, pooled, _⟩
  exact nextStandby_none empty spareMember pooled

end Replacement

/-! ## Resolving -/

/-- The active shard of a bucket is silent, and the pool is empty. -/
def Irreplaceable (env : Env) (moment : Moment) (bucketID : String) : Prop :=
  (Exists fun row => row ∈ moment.db.shards ∧ InState .active bucketID row ∧ ¬ Fresh env moment.now row) ∧
    countStandbyPool moment.db = 0

/-- The bucket that a key is classified to, if the cluster is configured and the
key is not one for the error shard. -/
def routedBucket (classify : ClusterConfig -> Option WriteRoute) (db : Db) : Option String :=
  match getConfig db with
  | .error _ => none
  | .ok config =>
      match classify config with
      | none => none
      | some route =>
          match route.kind with
          | .error => none
          | .bucket => some route.bucketID

section Resolving

variable {env : Env} {moment : Moment}

/-- The failover inside a resolve. -/
theorem ensureActive_replacesOrLeaves_iff (env : Env) (moment : Moment) (bucketID : String) :
    ReplacesOrLeaves env moment (runAlone env (ensureActive bucketID) moment).2.db ↔
      ¬ Irreplaceable env moment bucketID := by
  cases answer : activeForBucket env moment.now moment.db bucketID with
  | some shard =>
      rcases scan_head_some answer with ⟨shardMember, shardServes, fresh⟩
      have unchanged : (runAlone env (ensureActive bucketID) moment).2 = moment := by
        simp only [runAlone, ensureActive, Program.ask_bind, Program.run_request, perform, answer,
          Program.pure_eq_finish, Program.run_finish]
      rw [unchanged]
      refine iff_of_true (replacesOrLeaves_refl env moment) ?_
      rintro ⟨⟨row, member, serves, silent⟩, _⟩
      cases active_unique shardMember member shardServes serves
      exact silent fresh
  | none =>
      cases silent : staleActiveForBucket env moment.now moment.db bucketID with
      | none =>
          have lively : ¬ Irreplaceable env moment bucketID := by
            rintro ⟨⟨row, member, serves, missed⟩, _⟩
            exact scan_head_none silent member ⟨serves, missed⟩
          refine iff_of_true ?_ lively
          rcases run_ensureActive_vacant answer silent with ⟨failure, failed⟩ | ⟨spare, after, found, table, done⟩
          · rw [failed]
            exact replacesOrLeaves_refl env moment
          · rw [done]
            exact replacesOrLeaves_promoted found table
      | some stale =>
          rcases scan_head_some silent with ⟨staleMember, staleServes, missed⟩
          rcases run_ensureActive_silent answer silent with ⟨failure, after, empty, table, failed⟩ |
            ⟨spare, after, found, table, done⟩
          · rw [failed]
            exact iff_of_false (not_replacesOrLeaves_sealed staleMember staleServes missed empty table)
              (not_not_intro ⟨⟨stale, staleMember, staleServes, missed⟩, countStandbyPool_empty empty⟩)
          · rw [done]
            refine iff_of_true (replacesOrLeaves_rotated staleMember staleServes found table) ?_
            rintro ⟨_, empty⟩
            rw [countStandbyPool, List.length_eq_zero_iff] at empty
            have listed := mem_standbyPool.mpr (nextStandby_some found)
            rw [empty] at listed
            exact List.not_mem_nil listed

theorem routedBucket_some {classify : ClusterConfig -> Option WriteRoute} {db : Db} {bucketID : String}
    (routed : routedBucket classify db = some bucketID) :
    Exists fun config => Exists fun route => getConfig db = .ok config ∧ classify config = some route ∧
      route.kind = .bucket ∧ route.bucketID = bucketID := by
  unfold routedBucket at routed
  split at routed
  · cases routed
  · rename_i config loaded
    split at routed
    · cases routed
    · rename_i route classified
      split at routed
      · cases routed
      · rename_i kind
        exact ⟨config, route, loaded, classified, kind, Option.some_inj.mp routed⟩

theorem resolveWrite_routed {shardKey : Key} {bucketID : String}
    (routed : routedBucket (classifyWriteFor env.platform · moment.now shardKey) moment.db = some bucketID) :
    (runAlone env (resolveWrite env.platform shardKey) moment).2 =
      (runAlone env (ensureActive bucketID) moment).2 := by
  rcases routedBucket_some routed with ⟨config, route, loaded, classified, kind, rfl⟩
  rw [run_resolveWrite loaded classified kind]
  rcases runAlone env (ensureActive route.bucketID) moment with ⟨outcome, after⟩
  cases outcome <;> rfl

theorem resolveWrite_unrouted {shardKey : Key}
    (unrouted : routedBucket (classifyWriteFor env.platform · moment.now shardKey) moment.db = none) :
    (runAlone env (resolveWrite env.platform shardKey) moment).2 = moment := by
  unfold routedBucket at unrouted
  cases loaded : getConfig moment.db with
  | error failure =>
      simp only [runAlone, resolveWrite, Program.ask_bind, Program.run_request, perform, loaded,
        Program.pure_eq_finish, Program.run_finish]
  | ok config =>
      cases classified : classifyWriteFor env.platform config moment.now shardKey with
      | none =>
          simp only [runAlone, resolveWrite, Program.ask_bind, Program.run_request, perform, loaded, classified,
            Program.pure_eq_finish, Program.run_finish]
      | some route =>
          cases kind : route.kind with
          | bucket => simp only [loaded, classified, kind, reduceCtorEq] at unrouted
          | error =>
              simp only [runAlone, resolveWrite, Program.ask_bind, Program.run_request, perform, loaded,
                classified, kind]
              cases getErrorShard env moment.db <;> rfl

theorem resolveRead_routed {shardKey : Key} {bucketID : String}
    (routed : routedBucket (classifyReadFor env.platform · moment.now shardKey) moment.db = some bucketID) :
    (runAlone env (resolveRead env.platform shardKey) moment).2 =
      if shardsForBucketRead env moment.now moment.db bucketID = [] then
        (runAlone env (ensureActive bucketID) moment).2
      else moment := by
  rcases routedBucket_some routed with ⟨config, route, loaded, classified, kind, rfl⟩
  rw [run_resolveRead loaded classified kind]
  split
  · rcases runAlone env (ensureActive route.bucketID) moment with ⟨outcome, after⟩
    cases outcome <;> rfl
  · rfl

theorem resolveRead_unrouted {shardKey : Key}
    (unrouted : routedBucket (classifyReadFor env.platform · moment.now shardKey) moment.db = none) :
    (runAlone env (resolveRead env.platform shardKey) moment).2 = moment := by
  unfold routedBucket at unrouted
  cases loaded : getConfig moment.db with
  | error failure =>
      simp only [runAlone, resolveRead, Program.ask_bind, Program.run_request, perform, loaded,
        Program.pure_eq_finish, Program.run_finish]
  | ok config =>
      cases classified : classifyReadFor env.platform config moment.now shardKey with
      | none =>
          simp only [runAlone, resolveRead, Program.ask_bind, Program.run_request, perform, loaded, classified,
            Program.pure_eq_finish, Program.run_finish]
      | some route =>
          cases kind : route.kind with
          | bucket => simp only [loaded, classified, kind, reduceCtorEq] at unrouted
          | error =>
              by_cases evicted : route.reason = some .evicted
              · simp only [runAlone, resolveRead, Program.ask_bind, Program.run_request, perform, loaded,
                  classified, kind, evicted, if_true, Program.pure_eq_finish, Program.run_finish]
              · simp only [runAlone, resolveRead, Program.ask_bind, Program.run_request, perform, loaded,
                  classified, kind, evicted, if_false]
                cases getErrorShard env moment.db <;> rfl

theorem resolveWrite_replacesOrLeaves_iff (env : Env) (moment : Moment) (shardKey : Key) :
    ReplacesOrLeaves env moment (runAlone env (resolveWrite env.platform shardKey) moment).2.db ↔
      forall bucketID,
        routedBucket (classifyWriteFor env.platform · moment.now shardKey) moment.db = some bucketID ->
          ¬ Irreplaceable env moment bucketID := by
  cases routed : routedBucket (classifyWriteFor env.platform · moment.now shardKey) moment.db with
  | none =>
      rw [resolveWrite_unrouted routed]
      exact iff_of_true (replacesOrLeaves_refl env moment) fun _ impossible => nomatch impossible
  | some bucketID =>
      rw [resolveWrite_routed routed, ensureActive_replacesOrLeaves_iff]
      simp only [Option.some_inj, forall_eq']

theorem resolveRead_replacesOrLeaves_iff (env : Env) (moment : Moment) (shardKey : Key) :
    ReplacesOrLeaves env moment (runAlone env (resolveRead env.platform shardKey) moment).2.db ↔
      forall bucketID,
        routedBucket (classifyReadFor env.platform · moment.now shardKey) moment.db = some bucketID ->
          (forall row, row ∈ moment.db.shards -> ¬ Readable env moment.now bucketID row) ->
            ¬ Irreplaceable env moment bucketID := by
  cases routed : routedBucket (classifyReadFor env.platform · moment.now shardKey) moment.db with
  | none =>
      rw [resolveRead_unrouted routed]
      exact iff_of_true (replacesOrLeaves_refl env moment) fun _ impossible => nomatch impossible
  | some bucketID =>
      have uncovered : shardsForBucketRead env moment.now moment.db bucketID = [] ↔
          forall row, row ∈ moment.db.shards -> ¬ Readable env moment.now bucketID row := by
        rw [shardsForBucketRead, List.filter_eq_nil_iff]
        simp only [decide_eq_true_iff]
      rw [resolveRead_routed routed]
      simp only [Option.some_inj, forall_eq', ← uncovered]
      split
      · rename_i nothing
        rw [ensureActive_replacesOrLeaves_iff]
        exact ⟨fun possible _ => possible, fun possible => possible nothing⟩
      · rename_i something
        exact iff_of_true (replacesOrLeaves_refl env moment) fun nothing => absurd nothing something

end Resolving

/-! ## Pairings -/

/-- In a pairing with a list without repetitions, a first component has one
second component. -/
theorem zip_second_unique {X Y : Type} {firsts : List X} {seconds : List Y} (distinct : firsts.Nodup) {item : X}
    {left right : Y} (leftPlaced : (item, left) ∈ firsts.zip seconds)
    (rightPlaced : (item, right) ∈ firsts.zip seconds) : left = right := by
  induction firsts generalizing seconds with
  | nil => exact absurd leftPlaced List.not_mem_nil
  | cons first rest inductionHypothesis =>
      rcases List.nodup_cons.mp distinct with ⟨fresh, distinctRest⟩
      cases seconds with
      | nil => exact absurd leftPlaced List.not_mem_nil
      | cons second others =>
          rw [List.zip_cons_cons, List.mem_cons, Prod.mk.injEq] at leftPlaced rightPlaced
          rcases leftPlaced with ⟨isFirst, isLeft⟩ | leftPlaced
          · rcases rightPlaced with ⟨_, isRight⟩ | rightPlaced
            · rw [isLeft, isRight]
            · rw [isFirst] at rightPlaced
              exact absurd (List.of_mem_zip rightPlaced).1 fresh
          · rcases rightPlaced with ⟨isFirst, _⟩ | rightPlaced
            · rw [isFirst] at leftPlaced
              exact absurd (List.of_mem_zip leftPlaced).1 fresh
            · exact inductionHypothesis distinctRest leftPlaced rightPlaced

/-- All members of a list without repetitions find a partner exactly when there
are enough of them. -/
theorem all_paired_iff {X Y : Type} {firsts : List X} {seconds : List Y} (distinct : seconds.Nodup) :
    (forall item, item ∈ seconds -> Exists fun partner => (partner, item) ∈ firsts.zip seconds) ↔
      seconds.length <= firsts.length := by
  constructor
  · intro paired
    have within : seconds ⊆ (firsts.zip seconds).map Prod.snd := by
      intro item listed
      rcases paired item listed with ⟨partner, placed⟩
      exact List.mem_map.mpr ⟨(partner, item), placed, rfl⟩
    have bounded := (List.subperm_of_subset distinct within).length_le
    rw [List.length_map, List.length_zip] at bounded
    exact bounded.trans (Nat.min_le_left _ _)
  · intro enough item listed
    rw [← List.map_snd_zip enough] at listed
    rcases List.mem_map.mp listed with ⟨⟨partner, _⟩, placed, rfl⟩
    exact ⟨partner, placed⟩

/-! ## The health supervisor -/

section Health

variable {env : Env} {now : Time} {db : Db}

theorem run_failoverAll (env : Env) (now : Time) (db : Db) {olds : List Shard}
    (assigned : forall old, old ∈ olds -> old.bucketID ≠ none) :
    runAlone env (failoverAll olds) ⟨db, now⟩ = ((), ⟨rotateAll env now .active (.sealRow now) olds db, now⟩) := by
  induction olds generalizing db with
  | nil => rfl
  | cons old rest inductionHypothesis =>
      rcases Option.ne_none_iff_exists'.mp (assigned old List.mem_cons_self) with ⟨bucketID, bucket⟩
      have committed : (commit (sealRotate env now bucketID) ⟨db, now⟩).2 =
          ⟨rotateOrKeep env now .active (.sealRow now) db old, now⟩ :=
        commit_rotate env now .active (.sealRow now) db bucket
      simp only [runAlone, failoverAll, bucket, Program.ask_bind, Program.run_request, perform, committed, rotateAll,
        List.foldl_cons]
      exact inductionHypothesis _ fun other listed => assigned other (List.mem_cons_of_mem _ listed)

theorem mem_listStaleActives {row : Shard} :
    row ∈ listStaleActives env now db ↔
      row ∈ db.shards ∧ (Exists fun bucketID => InState .active bucketID row) ∧ ¬ Fresh env now row := by
  rw [listStaleActives, List.mem_filter, decide_eq_true_iff]
  simp only [InState, Option.ne_none_iff_exists']
  tauto

theorem replaceable_of_stale {old : Shard} (listed : old ∈ listStaleActives env now db) :
    Replaceable .active db old := by
  rcases mem_listStaleActives.mp listed with ⟨member, ⟨bucketID, serves⟩, _⟩
  refine ⟨member, ?_, ?_⟩
  · rw [serves.2.1]
    exact serves
  · intro other otherMember isData sameBucket state
    exact active_unique otherMember member ⟨isData, sameBucket.trans serves.2.1, state.elim id id⟩ serves

/-- The tick is one change of the table. -/
theorem run_healthTick (env : Env) (moment : Moment) :
    (runAlone env healthTick moment).2.db.shards = moment.db.shards.map (replaceRow moment.now (.sealRow moment.now)
      (listStaleActives env moment.now moment.db)
      ((standbyPool moment.db).zip (listStaleActives env moment.now moment.db))) := by
  have assigned : forall old, old ∈ listStaleActives env moment.now moment.db -> old.bucketID ≠ none := by
    intro old listed absent
    rcases mem_listStaleActives.mp listed with ⟨_, ⟨bucketID, serves⟩, _⟩
    exact nomatch absent.symm.trans serves.2.1
  have ran : (runAlone env healthTick moment).2.db =
      rotateAll env moment.now .active (.sealRow moment.now) (listStaleActives env moment.now moment.db) moment.db := by
    have loop := run_failoverAll env moment.now moment.db assigned
    rw [runAlone] at loop
    simp only [runAlone, healthTick, Program.ask_bind, Program.run_request, perform, loop]
  rw [ran]
  exact (rotateAll_replaces env (by decide) (by decide) (fun _ => rfl) (moment.db.nodup.filter _)
    fun _ => replaceable_of_stale).1

variable {after : Db}

/-- A paired standby becomes active for the bucket of its partner. -/
theorem promotedFor_of_paired {olds : List Shard} (replaceable : forall old, old ∈ olds -> Replaceable .active db old)
    (table : after.shards = db.shards.map (replaceRow now (.sealRow now) olds ((standbyPool db).zip olds)))
    {spare old : Shard} (paired : (spare, old) ∈ (standbyPool db).zip olds) :
    PromotedFor db after (old.bucketID.getD "") := by
  rcases mem_standbyPool.mp (List.of_mem_zip paired).1 with ⟨spareMember, pooled⟩
  refine ⟨spare, spareMember, pooled, replaceRow now (.sealRow now) olds ((standbyPool db).zip olds) spare, ?_,
    replaceRow_id, ?_⟩
  · rw [table]
    exact List.mem_map_of_mem spareMember
  · rcases replaceRow_cases now (.sealRow now) olds ((standbyPool db).zip olds) spare with
      ⟨listed, _⟩ | ⟨_, partner, placed, became⟩ | ⟨_, unplaced, _⟩
    · exact absurd pooled (active_not_pooled (replaceable spare listed).serves)
    · rw [became, zip_second_unique (db.nodup.filter _) placed paired]
      exact ⟨pooled.1, rfl, rfl⟩
    · exact absurd rfl (unplaced _ paired)

/-- Nothing else becomes active for it. -/
theorem paired_of_promotedFor {olds : List Shard} (replaceable : forall old, old ∈ olds -> Replaceable .active db old)
    (table : after.shards = db.shards.map (replaceRow now (.sealRow now) olds ((standbyPool db).zip olds)))
    {old : Shard} {bucketID : String} (listed : old ∈ olds) (serves : InState .active bucketID old)
    (promoted : PromotedFor db after bucketID) :
    Exists fun spare => (spare, old) ∈ (standbyPool db).zip olds := by
  rcases promoted with ⟨spare, spareMember, pooled, moved, movedMember, same, active⟩
  have moves : moved = replaceRow now (.sealRow now) olds ((standbyPool db).zip olds) spare := by
    refine after.eq_of_id movedMember ?_ (same.trans replaceRow_id.symm)
    rw [table]
    exact List.mem_map_of_mem spareMember
  rcases replaceRow_cases now (.sealRow now) olds ((standbyPool db).zip olds) spare with
    ⟨spareListed, _⟩ | ⟨_, partner, placed, became⟩ | ⟨_, _, became⟩
  · exact absurd pooled (active_not_pooled (replaceable spare spareListed).serves)
  · rw [moves, became] at active
    have sameBucket : partner.bucketID.getD "" = bucketID := Option.some_inj.mp active.2.1
    have partnered := replaceable partner (List.of_mem_zip placed).2
    have partnerServes := partnered.serves
    rw [sameBucket] at partnerServes
    rw [active_unique (replaceable old listed).member partnered.member serves partnerServes]
    exact ⟨spare, placed⟩
  · rw [moves, became] at active
    exact absurd pooled (active_not_pooled active)

/-- The failover of a whole tick. -/
theorem healthTick_replacesOrLeaves_iff (env : Env) (moment : Moment) :
    ReplacesOrLeaves env moment (runAlone env healthTick moment).2.db ↔
      (listStaleActives env moment.now moment.db).length <= countStandbyPool moment.db := by
  have table := run_healthTick env moment
  have replaceable : forall old, old ∈ listStaleActives env moment.now moment.db -> Replaceable .active moment.db old :=
    fun _ => replaceable_of_stale
  have distinct : (listStaleActives env moment.now moment.db).Nodup := moment.db.nodup.filter _
  rw [countStandbyPool, ← all_paired_iff distinct]
  constructor
  · intro promised old listed
    rcases mem_listStaleActives.mp listed with ⟨member, ⟨bucketID, serves⟩, missed⟩
    have retired : (Rewrite.sealRow moment.now).apply old ∈ (runAlone env healthTick moment).2.db.shards := by
      rw [table, ← replaceRow_retired listed]
      exact List.mem_map_of_mem member
    exact paired_of_promotedFor replaceable table listed serves
      (promised.replaces bucketID old member serves missed _ retired rfl rfl)
  · intro paired
    apply replacesOrLeaves_of_covered
    intro bucketID row member active
    by_cases listed : row ∈ listStaleActives env moment.now moment.db
    · rcases paired row listed with ⟨spare, placed⟩
      have promoted := promotedFor_of_paired replaceable table placed
      rw [active.2.1] at promoted
      exact Or.inr promoted
    · refine Or.inl ?_
      have kept : replaceRow moment.now (.sealRow moment.now) (listStaleActives env moment.now moment.db)
          ((standbyPool moment.db).zip (listStaleActives env moment.now moment.db)) row = row := by
        apply replaceRow_kept listed
        rintro ⟨spare, old⟩ placed rfl
        exact active_not_pooled active (mem_standbyPool.mp (List.of_mem_zip placed).1).2
      rw [table, ← kept]
      exact List.mem_map_of_mem member

end Health

/-- For every state of the store: a tick of the health supervisor replaces or
leaves exactly when there is a standby for each silent active shard; a write
exactly when the pool is not empty or the bucket of its key has no silent active
shard; and a read exactly when this holds or the bucket has something to read. -/
theorem failover_replaces_or_leaves_iff (env : Env) (moment : Moment) :
    (ReplacesOrLeaves env moment (runAlone env healthTick moment).2.db ↔
      (listStaleActives env moment.now moment.db).length <= countStandbyPool moment.db) ∧
    (forall shardKey, ReplacesOrLeaves env moment (runAlone env (resolveWrite env.platform shardKey) moment).2.db ↔
      forall bucketID,
        routedBucket (classifyWriteFor env.platform · moment.now shardKey) moment.db = some bucketID ->
          ¬ Irreplaceable env moment bucketID) ∧
    (forall shardKey, ReplacesOrLeaves env moment (runAlone env (resolveRead env.platform shardKey) moment).2.db ↔
      forall bucketID,
        routedBucket (classifyReadFor env.platform · moment.now shardKey) moment.db = some bucketID ->
          (forall row, row ∈ moment.db.shards -> ¬ Readable env moment.now bucketID row) ->
            ¬ Irreplaceable env moment bucketID) :=
  ⟨healthTick_replacesOrLeaves_iff env moment, resolveWrite_replacesOrLeaves_iff env moment,
    resolveRead_replacesOrLeaves_iff env moment⟩

/-- With a standby in the pool the silent shard is replaced. -/
theorem failover_replaces_or_leaves_iff_one_standby :
    (listStaleActives sampleEnv silentBucket.now silentBucket.db).length = 1 ∧
      countStandbyPool silentBucket.db = 1 ∧
      ReplacesOrLeaves sampleEnv silentBucket (runAlone sampleEnv healthTick silentBucket).2.db ∧
      ReplacesOrLeaves sampleEnv silentBucket
        (runAlone sampleEnv (resolveWrite samplePlatform (.string "57")) silentBucket).2.db := by
  have silent : (listStaleActives sampleEnv silentBucket.now silentBucket.db).length = 1 := by decide +kernel
  have pool : countStandbyPool silentBucket.db = 1 := by decide +kernel
  rcases failover_replaces_or_leaves_iff sampleEnv silentBucket with ⟨health, write, _⟩
  refine ⟨silent, pool, ?_, ?_⟩
  · rw [health, silent, pool]
  · apply (write (.string "57")).mpr
    rintro bucketID _ ⟨_, empty⟩
    rw [pool] at empty
    cases empty

/-- The only shard serves the bucket n5 and has been silent for too long. -/
def onlyShardSilent : Moment :=
  let registered := (runAlone sampleEnv (registerShard 1 .data "a" "" "") ⟨sampleDb 100, 0⟩).2
  { (runAlone sampleEnv (resolveWrite samplePlatform (.string "57")) registered).2 with now := 61 * 10 ^ 9 }

/-- A tick of the health supervisor seals it, and so do a write and a read of a key
of the bucket: the bucket had an active shard and has none. -/
theorem failover_seals_only_shard :
    (onlyShardSilent.db.shards.map fun row => (row.state, row.bucketID)) = [(.active, some "n5")] ∧
    (forall after, after = (runAlone sampleEnv healthTick onlyShardSilent).2.db ∨
        after = (runAlone sampleEnv (resolveWrite samplePlatform (.string "57")) onlyShardSilent).2.db ∨
        after = (runAlone sampleEnv (resolveRead samplePlatform (.string "57")) onlyShardSilent).2.db ->
      (after.shards.map fun row => (row.state, row.bucketID)) = [(.sealed, some "n5")] ∧
        ¬ ReplacesOrLeaves sampleEnv onlyShardSilent after) := by
  have before : (onlyShardSilent.db.shards.map fun row => (row.state, row.bucketID)) = [(.active, some "n5")] := by
    decide +kernel
  refine ⟨before, ?_⟩
  intro after produced
  have isSealed : (after.shards.map fun row => (row.state, row.bucketID)) = [(.sealed, some "n5")] := by
    rcases produced with rfl | rfl | rfl <;> decide +kernel
  refine ⟨isSealed, ?_⟩
  intro promised
  have serving : Exists fun row => row ∈ onlyShardSilent.db.shards ∧ InState .active "n5" row := by decide +kernel
  rcases serving with ⟨row, member, serves⟩
  rcases promised.serves "n5" row member serves with ⟨other, otherMember, otherServes⟩
  have listed : (other.state, other.bucketID) ∈ after.shards.map fun row => (row.state, row.bucketID) :=
    List.mem_map.mpr ⟨other, otherMember, rfl⟩
  rw [isSealed, List.mem_singleton, otherServes.2.2] at listed
  cases listed

end Control
end Shardman
