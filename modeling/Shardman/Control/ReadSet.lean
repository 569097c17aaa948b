import Shardman.Control.System

namespace Shardman
namespace Control

open Fsm
open Bucket
open Store
open Foundation

/-!
# What a read returns

A read that runs alone should return the shards that cover its bucket: every
sealed one and the fresh active one.  When nothing covers the bucket, the read
first provides an active shard and returns just that one.  This module compares
the result with the read set of the database the call leaves behind.
-/

/-- Run a routine with no other operation between its own, at one instant. -/
def runAlone {X : Type} (env : Env) (routine : Routine X) (moment : Moment) : X × Moment :=
  Program.run (perform env) routine moment

section Queries

variable {env : Env} {now : Time} {db : Db} {bucketID : String}

/-- A fresh active row is what the query for one finds. -/
theorem activeForBucket_eq {row : Shard} (member : row ∈ db.shards)
    (active : InState .active bucketID row) (fresh : Fresh env now row) :
    activeForBucket env now db bucketID = some row := by
  cases found : activeForBucket env now db bucketID with
  | none => exact absurd ⟨active, fresh⟩ (scan_head_none found member)
  | some other =>
      rcases scan_head_some found with ⟨otherMember, serves, _⟩
      rw [active_unique otherMember member serves active]

theorem activeForBucket_none
    (vacant : forall row, row ∈ db.shards -> ¬ InState .active bucketID row) :
    activeForBucket env now db bucketID = none := by
  cases found : activeForBucket env now db bucketID with
  | none => rfl
  | some row =>
      rcases scan_head_some found with ⟨member, serves, _⟩
      exact absurd serves (vacant row member)

theorem staleActiveForBucket_none
    (vacant : forall row, row ∈ db.shards -> ¬ InState .active bucketID row) :
    staleActiveForBucket env now db bucketID = none := by
  cases found : staleActiveForBucket env now db bucketID with
  | none => rfl
  | some row =>
      rcases scan_head_some found with ⟨member, serves, _⟩
      exact absurd serves (vacant row member)

end Queries

section Alone

variable {env : Env} {moment : Moment} {bucketID : String}

/-! ## Providing an active shard -/

/-- A row activated now has a fresh heartbeat. -/
theorem activated_fresh (row : Shard) :
    Fresh env moment.now ((Rewrite.activate moment.now bucketID).apply row) := by
  change moment.now - env.heartbeatTimeout <= moment.now
  exact Int.sub_le_self _ (Int.le_of_lt env.timeoutPositive)

theorem getShardByID_tableAt {db after : Db} {spare : Shard} {change : Rewrite}
    (member : spare ∈ db.shards) (table : after.shards = db.tableAt spare.id change) :
    getShardByID after spare.id = some (change.apply spare) := by
  have changed : change.apply spare ∈ after.shards := by
    rw [table]
    exact mem_tableAt.mpr (Or.inl ⟨spare, member, rfl, rfl⟩)
  have found := getShardByID_mem changed
  rw [change.id_eq] at found
  exact found

/-- A promotion that runs alone fails without a trace, or returns the standby
it activated. -/
theorem run_promoteStandbyToActive (env : Env) (moment : Moment) (bucketID : String) :
    (Exists fun failure => runAlone env (promoteStandbyToActive bucketID) moment = (.error failure, moment)) ∨
    (Exists fun spare => Exists fun after => nextStandby moment.db = some spare ∧
      after.shards = moment.db.tableAt spare.id (.activate moment.now bucketID) ∧
      runAlone env (promoteStandbyToActive bucketID) moment =
        (.ok ((Rewrite.activate moment.now bucketID).apply spare), ⟨after, moment.now⟩)) := by
  rcases promoteStandby_cases moment.now bucketID moment.db with ⟨_, failed⟩ |
    ⟨_, _, _, _, _, failed⟩ | ⟨spare, after, found, _, outcome, table, _⟩
  · refine Or.inl ⟨.notFound, ?_⟩
    simp only [runAlone, promoteStandbyToActive, Program.ask_bind, Program.run_request, perform, commit,
      failed, Program.pure_eq_finish, Program.run_finish]
  · refine Or.inl ⟨.uniqueViolation, ?_⟩
    simp only [runAlone, promoteStandbyToActive, Program.ask_bind, Program.run_request, perform, commit,
      failed, Program.pure_eq_finish, Program.run_finish]
  · refine Or.inr ⟨spare, after, found, table, ?_⟩
    have fetched := getShardByID_tableAt (nextStandby_some found).1 table
    simp only [runAlone, promoteStandbyToActive, Program.ask_bind, Program.run_request, perform, commit,
      outcome, fetched, Program.pure_eq_finish, Program.run_finish]

/-- With no active row in sight, `autoPromoteIfNoActive` refuses or promotes. -/
theorem run_autoPromote_vacant (moment : Moment)
    (missing : activeForBucket env moment.now moment.db bucketID = none)
    (silent : staleActiveForBucket env moment.now moment.db bucketID = none) :
    (Exists fun failure => runAlone env (autoPromoteIfNoActive bucketID) moment = (.error failure, moment)) ∨
    (Exists fun spare => Exists fun after => nextStandby moment.db = some spare ∧
      after.shards = moment.db.tableAt spare.id (.activate moment.now bucketID) ∧
      runAlone env (autoPromoteIfNoActive bucketID) moment =
        (.ok (some ((Rewrite.activate moment.now bucketID).apply spare)), ⟨after, moment.now⟩)) := by
  cases serving : hasActiveInBucket moment.db bucketID with
  | true =>
      refine Or.inl ⟨.notFound, ?_⟩
      simp only [runAlone, autoPromoteIfNoActive, Program.ask_bind, Program.run_request, perform, missing,
        serving, if_true, Program.pure_eq_finish, Program.run_finish]
  | false =>
      have promotes : runAlone env (autoPromoteIfNoActive bucketID) moment =
          runAlone env (promoteStandbyToActive bucketID >>= fun promoted =>
            pure (promoted.map some)) moment := by
        simp only [runAlone, autoPromoteIfNoActive, Program.ask_bind, Program.run_request, perform, missing,
          serving, silent, Bool.false_eq_true, if_false]
      rw [promotes, runAlone, Program.run_bind]
      rcases run_promoteStandbyToActive env moment bucketID with ⟨failure, failed⟩ |
        ⟨spare, after, found, table, done⟩
      · rw [runAlone] at failed
        rw [failed]
        exact Or.inl ⟨failure, rfl⟩
      · rw [runAlone] at done
        rw [done]
        exact Or.inr ⟨spare, after, found, table, rfl⟩

/-- Nothing in the bucket is active: the result is an error or a standby
activated on the database as it was. -/
theorem run_ensureActive_vacant
    (missing : activeForBucket env moment.now moment.db bucketID = none)
    (silent : staleActiveForBucket env moment.now moment.db bucketID = none) :
    (Exists fun failure => runAlone env (ensureActive bucketID) moment = (.error failure, moment)) ∨
    (Exists fun spare => Exists fun after => nextStandby moment.db = some spare ∧
      after.shards = moment.db.tableAt spare.id (.activate moment.now bucketID) ∧
      runAlone env (ensureActive bucketID) moment =
        (.ok ((Rewrite.activate moment.now bucketID).apply spare), ⟨after, moment.now⟩)) := by
  rcases run_autoPromote_vacant moment missing silent with ⟨failure, failed⟩ | ⟨spare, after, found, table, done⟩
  · refine Or.inl ⟨failure, ?_⟩
    rw [runAlone] at failed
    simp only [runAlone, ensureActive, failoverStaleActive, Program.ask_bind, Program.request_bind,
      Program.run_request, perform, missing, silent, Program.pure_eq_finish, Program.finish_bind,
      Program.run_bind, failed, Program.run_finish]
  · refine Or.inr ⟨spare, after, found, table, ?_⟩
    rw [runAlone] at done
    simp only [runAlone, ensureActive, failoverStaleActive, Program.ask_bind, Program.request_bind,
      Program.run_request, perform, missing, silent, Program.pure_eq_finish, Program.finish_bind,
      Program.run_bind, done, Program.run_finish]

/-- The active row is silent and is sealed: the pool is empty and the result is an
error, or the result is the standby that took its place. -/
theorem run_ensureActive_silent {stale : Shard}
    (missing : activeForBucket env moment.now moment.db bucketID = none)
    (silent : staleActiveForBucket env moment.now moment.db bucketID = some stale) :
    (Exists fun failure => Exists fun after => nextStandby moment.db = none ∧
      after.shards = moment.db.tableAt stale.id (.sealRow moment.now) ∧
      runAlone env (ensureActive bucketID) moment = (.error failure, ⟨after, moment.now⟩)) ∨
    (Exists fun spare => Exists fun after => nextStandby moment.db = some spare ∧
      after.shards = moment.db.tableRotated moment.now bucketID stale spare (.sealRow moment.now) ∧
      runAlone env (ensureActive bucketID) moment =
        (.ok ((Rewrite.activate moment.now bucketID).apply spare), ⟨after, moment.now⟩)) := by
  rcases scan_head_some silent with ⟨staleMember, serves, _⟩
  rcases sealRotate_cases env moment.now bucketID moment.db with
    ⟨vacant, _⟩ | ⟨old, after, oldMember, oldServes, outcome, rest⟩
  · exact absurd serves (vacant stale staleMember)
  · have isStale : old = stale := active_unique oldMember staleMember oldServes serves
    subst isStale
    rcases rest with ⟨empty, table⟩ | ⟨spare, found, table⟩
    · -- The pool is empty: the bucket is left without an active row and nothing can be promoted.
      have vacated : forall row, row ∈ after.shards -> ¬ InState .active bucketID row := by
        intro row member active
        rw [table] at member
        rcases mem_tableAt.mp member with ⟨source, _, _, same⟩ | ⟨kept, notOld⟩
        · rw [← same] at active
          cases active.2.2
        · exact notOld (congrArg Shard.id (active_unique kept oldMember active oldServes))
      have drained : nextStandby after = none := by
        cases found : nextStandby after with
        | none => rfl
        | some spare =>
            rcases nextStandby_some found with ⟨member, pooled⟩
            rw [table] at member
            rcases mem_tableAt.mp member with ⟨source, _, _, same⟩ | ⟨kept, _⟩
            · rw [← same] at pooled
              cases pooled.2.1
            · exact absurd pooled (nextStandby_none empty kept)
      have missingAfter : activeForBucket env moment.now after bucketID = none :=
        activeForBucket_none vacated
      have silentAfter : staleActiveForBucket env moment.now after bucketID = none :=
        staleActiveForBucket_none vacated
      rcases run_autoPromote_vacant ⟨after, moment.now⟩ missingAfter silentAfter with
        ⟨failure, failed⟩ | ⟨spare, _, found, _, _⟩
      · refine Or.inl ⟨failure, after, empty, table, ?_⟩
        rw [runAlone] at failed
        simp only [runAlone, ensureActive, failoverStaleActive, Program.ask_bind, Program.request_bind,
          Program.run_request, perform, missing, silent, commit, outcome, missingAfter,
          Program.pure_eq_finish, Program.finish_bind, Program.run_bind, failed, Program.run_finish]
      · rw [drained] at found
        cases found
    · refine Or.inr ⟨spare, after, found, table, ?_⟩
      rcases nextStandby_some found with ⟨spareMember, pooled⟩
      have different : spare.id ≠ old.id :=
        pooled_id_ne spareMember pooled oldMember (active_not_pooled oldServes)
      have activated : (Rewrite.activate moment.now bucketID).apply spare ∈ after.shards := by
        rw [table]
        exact (mem_tableRotated oldMember spareMember different).mpr (Or.inr (Or.inl rfl))
      have answer : activeForBucket env moment.now after bucketID =
          some ((Rewrite.activate moment.now bucketID).apply spare) :=
        activeForBucket_eq activated ⟨pooled.1, rfl, rfl⟩ (activated_fresh spare)
      simp only [runAlone, ensureActive, failoverStaleActive, Program.ask_bind, Program.request_bind,
        Program.run_request, perform, missing, silent, commit, outcome, answer,
        Program.pure_eq_finish, Program.finish_bind, Program.run_finish]

/-! ## The read set left behind -/

theorem mem_shardsForBucketRead {db : Db} {now : Time} {row : Shard} :
    row ∈ shardsForBucketRead env now db bucketID ↔ row ∈ db.shards ∧ Readable env now bucketID row := by
  rw [shardsForBucketRead, List.mem_filter, decide_eq_true_iff]

/-- A read set with one member is a list of one row. -/
theorem readSet_singleton {db : Db} {now : Time} {row : Shard}
    (member : row ∈ shardsForBucketRead env now db bucketID)
    (single : forall other, other ∈ shardsForBucketRead env now db bucketID -> other = row) :
    shardsForBucketRead env now db bucketID = [row] := by
  have distinct : (shardsForBucketRead env now db bucketID).Nodup := db.nodup.filter _
  revert member single distinct
  generalize shardsForBucketRead env now db bucketID = rows
  intro member single distinct
  match rows, member, single, distinct with
  | [only], member, _, _ => rw [List.mem_singleton.mp member]
  | first :: second :: rest, _, single, distinct =>
      have firstSame := single first (by simp)
      have secondSame := single second (by simp)
      rw [firstSame, secondSame] at distinct
      simp at distinct

/-- After a promotion into a bucket that nothing covered, the read set is the
promoted row. -/
theorem readSet_promoted {after : Db} {spare : Shard} (found : nextStandby moment.db = some spare)
    (table : after.shards = moment.db.tableAt spare.id (.activate moment.now bucketID))
    (uncovered : forall row, row ∈ moment.db.shards -> ¬ Readable env moment.now bucketID row) :
    shardsForBucketRead env moment.now after bucketID =
      [(Rewrite.activate moment.now bucketID).apply spare] := by
  rcases nextStandby_some found with ⟨spareMember, pooled⟩
  apply readSet_singleton
  · refine mem_shardsForBucketRead.mpr ⟨?_, pooled.1, rfl, Or.inr ⟨rfl, activated_fresh spare⟩⟩
    rw [table]
    exact mem_tableAt.mpr (Or.inl ⟨spare, spareMember, rfl, rfl⟩)
  · intro other otherMember
    rcases mem_shardsForBucketRead.mp otherMember with ⟨member, readable⟩
    rw [table] at member
    rcases mem_tableAt.mp member with ⟨source, sourceMember, chosen, same⟩ | ⟨kept, _⟩
    · rw [← same, moment.db.eq_of_id sourceMember spareMember chosen]
    · exact absurd readable (uncovered other kept)

/-- After a silent active row was replaced, the read set has the sealed row
besides its successor. -/
theorem readSet_rotated {after : Db} {stale spare : Shard} (staleMember : stale ∈ moment.db.shards)
    (serves : InState .active bucketID stale) (found : nextStandby moment.db = some spare)
    (table : after.shards =
      moment.db.tableRotated moment.now bucketID stale spare (.sealRow moment.now)) :
    (shardsForBucketRead env moment.now after bucketID).length ≠ 1 := by
  rcases nextStandby_some found with ⟨spareMember, pooled⟩
  have different : spare.id ≠ stale.id := pooled_id_ne spareMember pooled staleMember (active_not_pooled serves)
  have retired : (Rewrite.sealRow moment.now).apply stale ∈
      shardsForBucketRead env moment.now after bucketID := by
    refine mem_shardsForBucketRead.mpr ⟨?_, serves.1, serves.2.1, Or.inl rfl⟩
    rw [table]
    exact (mem_tableRotated staleMember spareMember different).mpr (Or.inl rfl)
  have activated : (Rewrite.activate moment.now bucketID).apply spare ∈
      shardsForBucketRead env moment.now after bucketID := by
    refine mem_shardsForBucketRead.mpr ⟨?_, pooled.1, rfl, Or.inr ⟨rfl, activated_fresh spare⟩⟩
    rw [table]
    exact (mem_tableRotated staleMember spareMember different).mpr (Or.inr (Or.inl rfl))
  intro one
  rcases List.length_eq_one_iff.mp one with ⟨only, equal⟩
  rw [equal, List.mem_singleton] at retired activated
  have states := congrArg Shard.state (retired.trans activated.symm)
  cases states

/-! ## The call as a whole -/

/-- Past classification, a write to a bucket returns what `ensureActive` provides. -/
theorem run_resolveWrite {config : ClusterConfig} {shardKey : Key} {route : WriteRoute}
    (loaded : getConfig moment.db = .ok config)
    (classified : classifyWriteFor env.platform config moment.now shardKey = some route)
    (routed : route.kind = .bucket) :
    runAlone env (resolveWrite env.platform shardKey) moment =
      match runAlone env (ensureActive route.bucketID) moment with
      | (.error failure, after) => (.error (.store failure), after)
      | (.ok shard, after) => (.ok (writeResult env.platform .bucket route.bucketID none shard), after) := by
  simp only [runAlone, resolveWrite, Program.ask_bind, Program.run_request, perform, loaded, classified,
    routed, Program.run_bind]
  rcases Program.run (perform env) (ensureActive route.bucketID) moment with ⟨outcome, after⟩
  cases outcome <;> rfl

/-- Past classification, a read of a bucket returns the read set if there is
one, and otherwise what `ensureActive` provides. -/
theorem run_resolveRead {config : ClusterConfig} {shardKey : Key} {route : WriteRoute}
    (loaded : getConfig moment.db = .ok config)
    (classified : classifyReadFor env.platform config moment.now shardKey = some route)
    (routed : route.kind = .bucket) :
    runAlone env (resolveRead env.platform shardKey) moment =
      if shardsForBucketRead env moment.now moment.db route.bucketID = [] then
        match runAlone env (ensureActive route.bucketID) moment with
        | (.error failure, after) => (.error (.store failure), after)
        | (.ok promoted, after) => (.ok ⟨.bucket, route.bucketID, none, [readShard env.platform promoted]⟩, after)
      else
        (.ok ⟨.bucket, route.bucketID, none,
          (shardsForBucketRead env moment.now moment.db route.bucketID).map (readShard env.platform)⟩, moment) := by
  by_cases uncovered : shardsForBucketRead env moment.now moment.db route.bucketID = []
  · simp only [runAlone, resolveRead, Program.ask_bind, Program.run_request, perform, loaded, classified,
      routed, uncovered, if_true, Program.run_bind]
    rcases Program.run (perform env) (ensureActive route.bucketID) moment with ⟨outcome, after⟩
    cases outcome <;> rfl
  · simp only [runAlone, resolveRead, Program.ask_bind, Program.run_request, perform, loaded, classified,
      routed, uncovered, if_false, Program.pure_eq_finish, Program.run_finish]

/-- A successful read that runs alone returns exactly the read set of the
database it leaves, unless nothing covered the bucket while its active shard was
silent: then the shard it has just sealed is missing from the result. -/
theorem resolveRead_complete_iff (env : Env) (moment : Moment) (shardKey : Key) (config : ClusterConfig)
    (route : WriteRoute) (loaded : getConfig moment.db = .ok config)
    (classified : classifyReadFor env.platform config moment.now shardKey = some route)
    (routed : route.kind = .bucket) (result : ReadResult) (after : Moment)
    (succeeded : runAlone env (resolveRead env.platform shardKey) moment = (.ok result, after)) :
    result.shards = (shardsForBucketRead env after.now after.db route.bucketID).map (readShard env.platform) ↔
      (Exists fun row => row ∈ moment.db.shards ∧ Readable env moment.now route.bucketID row) ∨
        (forall row, row ∈ moment.db.shards -> InState .active route.bucketID row ->
          Fresh env moment.now row) := by
  rw [run_resolveRead loaded classified routed] at succeeded
  by_cases uncovered : shardsForBucketRead env moment.now moment.db route.bucketID = []
  · rw [if_pos uncovered] at succeeded
    have unreadable : forall row, row ∈ moment.db.shards ->
        ¬ Readable env moment.now route.bucketID row := by
      intro row member readable
      have listed := mem_shardsForBucketRead.mpr ⟨member, readable⟩
      rw [uncovered] at listed
      cases listed
    have notCovered : ¬ Exists fun row =>
        row ∈ moment.db.shards ∧ Readable env moment.now route.bucketID row := by
      rintro ⟨row, member, readable⟩
      exact unreadable row member readable
    have missing : activeForBucket env moment.now moment.db route.bucketID = none := by
      cases found : activeForBucket env moment.now moment.db route.bucketID with
      | none => rfl
      | some row =>
          rcases scan_head_some found with ⟨member, serves, fresh⟩
          exact absurd ⟨serves.1, serves.2.1, Or.inr ⟨serves.2.2, fresh⟩⟩ (unreadable row member)
    simp only [notCovered, false_or]
    cases silent : staleActiveForBucket env moment.now moment.db route.bucketID with
    | none =>
        have lively : forall row, row ∈ moment.db.shards -> InState .active route.bucketID row ->
            Fresh env moment.now row := by
          intro row member serves
          by_contra stale
          exact scan_head_none silent member ⟨serves, stale⟩
        refine iff_of_true ?_ lively
        rcases run_ensureActive_vacant missing silent with ⟨failure, failed⟩ |
          ⟨spare, written, found, table, done⟩
        · rw [failed] at succeeded
          cases succeeded
        · rw [done] at succeeded
          cases succeeded
          rw [readSet_promoted found table unreadable]
          rfl
    | some stale =>
        rcases scan_head_some silent with ⟨staleMember, serves, silence⟩
        refine iff_of_false ?_ (fun lively => silence (lively stale staleMember serves))
        rcases run_ensureActive_silent missing silent with ⟨failure, _, _, _, failed⟩ |
          ⟨spare, written, found, table, done⟩
        · rw [failed] at succeeded
          cases succeeded
        · rw [done] at succeeded
          cases succeeded
          intro equal
          have lengths := congrArg List.length equal
          rw [List.length_map] at lengths
          exact readSet_rotated staleMember serves found table lengths.symm
  · rw [if_neg uncovered] at succeeded
    cases succeeded
    rcases List.exists_mem_of_ne_nil _ uncovered with ⟨row, listed⟩
    exact iff_of_true rfl (Or.inl ⟨row, mem_shardsForBucketRead.mp listed⟩)

end Alone

/-- Two registered shards, of which the first serves the bucket n5. -/
def servedBucket : Moment :=
  let first := (runAlone sampleEnv (registerShard 1 .data "a" "" "") ⟨sampleDb 100, 0⟩).2
  let second := (runAlone sampleEnv (registerShard 2 .data "b" "" "") first).2
  (runAlone sampleEnv (resolveWrite samplePlatform (.string "57")) second).2

/-- The same cluster after the first shard has been silent for too long. -/
def silentBucket : Moment :=
  { servedBucket with now := 61 * 10 ^ 9 }

/-- The ids a read of key 57 returns, and those of the read set it leaves. -/
def readAndReadSet (moment : Moment) : Option (List Nat × List Nat) :=
  match runAlone sampleEnv (resolveRead samplePlatform (.string "57")) moment with
  | (.ok result, after) =>
      some (result.shards.map ReadShard.shardID,
        (shardsForBucketRead sampleEnv after.now after.db "n5").map Shard.id)
  | _ => none

/-- While the active shard is fresh, a read returns it and the result is
complete. -/
theorem resolveRead_complete_iff_fresh :
    Exists fun result => Exists fun after =>
      runAlone sampleEnv (resolveRead samplePlatform (.string "57")) servedBucket = (.ok result, after) ∧
      (result.shards = (shardsForBucketRead sampleEnv after.now after.db "n5").map (readShard samplePlatform) ↔
        (Exists fun row => row ∈ servedBucket.db.shards ∧
          Readable sampleEnv servedBucket.now "n5" row) ∨
        (forall row, row ∈ servedBucket.db.shards -> InState .active "n5" row ->
          Fresh sampleEnv servedBucket.now row)) := by
  have read : (readAndReadSet servedBucket).isSome = true := by decide +kernel
  unfold readAndReadSet at read
  split at read
  · rename_i result after outcome
    exact ⟨result, after, outcome,
      resolveRead_complete_iff sampleEnv servedBucket (.string "57") (sampleConfig 100)
        (.toBucket "n5") rfl (by decide +kernel) rfl result after outcome⟩
  · cases read

/-- After the active shard fell silent, a read returns the new shard 2 only,
though it leaves the sealed shard 1 in the read set. -/
theorem resolveRead_drops_sealed_shard :
    Exists fun result => Exists fun after =>
      runAlone sampleEnv (resolveRead samplePlatform (.string "57")) silentBucket = (.ok result, after) ∧
      result.shards.map ReadShard.shardID = [2] ∧
      (shardsForBucketRead sampleEnv after.now after.db "n5").map Shard.id = [1, 2] := by
  have read : readAndReadSet silentBucket = some ([2], [1, 2]) := by decide +kernel
  unfold readAndReadSet at read
  split at read
  · rename_i result after outcome
    rw [Option.some_inj, Prod.mk.injEq] at read
    exact ⟨result, after, outcome, read⟩
  · cases read

end Control
end Shardman
