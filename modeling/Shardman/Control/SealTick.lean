import Shardman.Control.Drains
import Shardman.Control.Rotations

namespace Shardman
namespace Control

open Fsm
open Bucket
open Store
open Foundation

/-!
# A seal tick that runs alone

A tick of the seal supervisor has two loops.  The first seals the draining shards
that are done and puts standbys in their places; the second lets the full active
shards drain.  A standby of the first loop may itself be full, and then the second
loop drains it.  Run alone, on a table with at most one shard in service per
bucket, the tick acts on exactly the shards that its listings name.
-/

/-- A draining shard of a bucket whose drain is done. -/
def drainDue (env : Env) (now : Time) (row : Shard) : Bool :=
  decide (row.role = .data ∧ row.state = .draining ∧ row.bucketID ≠ none) && drainDone env now row

/-- An active shard of a bucket at or above its limit. -/
def fullActive (config : ClusterConfig) (row : Shard) : Bool :=
  decide (row.role = .data ∧ row.state = .active ∧ row.bucketID ≠ none) &&
    decide (row.maxBytes.getD config.shardMaxBytes <= row.reportedBytes)

/-! ## The first loop -/

section Sealing

variable {env : Env} {now : Time} {db : Db}

/-- The draining shards that are done, in the order of their listing. -/
def dueDrains (env : Env) (now : Time) (shards : List Shard) : List Shard :=
  shards.filter fun row => row.bucketID.isSome && drainDone env now row

theorem mem_dueDrains {row : Shard} :
    row ∈ dueDrains env now (shardsDraining env db) ↔ row ∈ db.shards ∧ drainDue env now row = true := by
  rw [dueDrains, List.mem_filter, shardsDraining, mem_scan, drainDue, Bool.and_eq_true, Bool.and_eq_true,
    decide_eq_true_iff, Option.isSome_iff_ne_none]
  tauto

theorem dueDrains_nodup : (dueDrains env now (shardsDraining env db)).Nodup := by
  apply List.Nodup.filter
  exact (env.heapOrder_perm _).nodup_iff.mpr (db.nodup.filter _)

theorem length_dueDrains :
    (dueDrains env now (shardsDraining env db)).length = (db.shards.filter (drainDue env now)).length := by
  apply List.Perm.length_eq
  apply (List.perm_ext_iff_of_nodup dueDrains_nodup (db.nodup.filter _)).mpr
  intro row
  rw [mem_dueDrains, List.mem_filter]

theorem run_completeDrains (env : Env) (now : Time) (db : Db) (shards : List Shard) :
    runAlone env (completeDrains env now shards) ⟨db, now⟩ =
      ((), ⟨rotateAll env now .draining (.drainSeal now) (dueDrains env now shards) db, now⟩) := by
  induction shards generalizing db with
  | nil => rfl
  | cons shard rest inductionHypothesis =>
      rw [dueDrains, List.filter_cons]
      cases bucket : shard.bucketID with
      | none =>
          simp only [runAlone, completeDrains, bucket]
          exact inductionHypothesis _
      | some bucketID =>
          cases finished : drainDone env now shard with
          | false =>
              simp only [runAlone, completeDrains, bucket, finished]
              exact inductionHypothesis _
          | true =>
              have committed : (commit (completeDrainSeal env now bucketID) ⟨db, now⟩).2 =
                  ⟨rotateOrKeep env now .draining (.drainSeal now) db shard, now⟩ :=
                commit_rotate env now .draining (.drainSeal now) db bucket
              simp only [runAlone, completeDrains, bucket, finished, Program.ask_bind, Program.run_request, perform,
                committed, if_true, Option.isSome_some, Bool.and_self, rotateAll, List.foldl_cons]
              exact inductionHypothesis _

/-- With one shard in service per bucket, every drain that is done can be
completed. -/
theorem replaceable_of_due (held : OneLive db) {row : Shard}
    (listed : row ∈ dueDrains env now (shardsDraining env db)) : Replaceable .draining db row := by
  rcases mem_dueDrains.mp listed with ⟨member, due⟩
  rw [drainDue, Bool.and_eq_true, decide_eq_true_iff] at due
  rcases due with ⟨⟨isData, draining, assigned⟩, _⟩
  rcases Option.ne_none_iff_exists'.mp assigned with ⟨bucketID, bucket⟩
  refine ⟨member, ⟨isData, ?_, draining⟩, ?_⟩
  · rw [bucket]
    rfl
  · intro other otherMember otherData sameBucket state
    rw [bucket] at sameBucket
    exact held bucketID other row otherMember member ⟨otherData, sameBucket, state.symm⟩
      ⟨isData, bucket, Or.inr draining⟩

end Sealing

/-! ## The second loop -/

section Draining

variable {env : Env} {now : Time} {db : Db}

/-- Let the listed rows drain. -/
def drainRow (now : Time) (condition : Shard -> Bool) (row : Shard) : Shard :=
  ((Rewrite.beginDrain now).only condition).apply row

theorem drainRow_of_true {condition : Shard -> Bool} {row : Shard} (selected : condition row = true) :
    drainRow now condition row = (Rewrite.beginDrain now).apply row := by
  rw [drainRow, only_apply, if_pos selected]

theorem drainRow_of_false {condition : Shard -> Bool} {row : Shard} (unselected : condition row = false) :
    drainRow now condition row = row := by
  rw [drainRow, only_apply, unselected]
  rfl

/-- The transaction for the bucket of an active shard acts on this shard. -/
theorem beginDrain_one (now : Time) {row : Shard} {bucketID : String} (member : row ∈ db.shards)
    (serves : InState .active bucketID row) :
    Exists fun after => beginDrain now bucketID db = .ok ((), after) ∧
      after.shards = db.shards.map (drainRow now fun other => decide (other = row)) ∧
      getConfig after = getConfig db := by
  have selects : forall other, other ∈ db.shards ->
      decide (InState .active bucketID other) = decide (other = row) := by
    intro other otherMember
    rw [Bool.eq_iff_iff, decide_eq_true_iff, decide_eq_true_iff]
    constructor
    · intro active
      exact active_unique otherMember member active serves
    · rintro rfl
      exact serves
  rcases updateWhere_unindexing db (fun other => decide (InState .active bucketID other)) (.beginDrain now)
    (fun _ _ _ => Or.inr (if_neg fun active => nomatch active.2)) with ⟨drained, outcome⟩
  have listed : row ∈ db.shards.filter fun other => decide (InState .active bucketID other) :=
    List.mem_filter.mpr ⟨member, decide_eq_true serves⟩
  have some : ¬ (db.shards.filter fun other => decide (InState .active bucketID other)).length = 0 :=
    Nat.ne_of_gt (List.length_pos_of_mem listed)
  rcases updateWhere_ok outcome with ⟨_, table, _, cluster⟩
  refine ⟨drained.bumpTopologyVersion, ?_, ?_, ?_⟩
  · rw [beginDrain, outcome]
    simp only [requireRows, if_neg some]
  · rw [Db.bumpTopologyVersion_shards, table]
    apply List.map_congr_left
    intro other otherMember
    rw [drainRow, only_apply, only_apply, selects other otherMember]
  · apply getConfig_bumped
    simp only [Db.bumpTopologyVersion, cluster]

/-- A shard without a bucket is skipped. -/
theorem listed_skip {shard : Shard} (rest : List Shard) (unassigned : shard.bucketID = none) :
    (fun row : Shard => decide (row ∈ rest ∧ row.bucketID ≠ none)) =
      fun row => decide (row ∈ shard :: rest ∧ row.bucketID ≠ none) := by
  funext row
  rw [Bool.eq_iff_iff, decide_eq_true_iff, decide_eq_true_iff, List.mem_cons]
  constructor
  · rintro ⟨listed, assigned⟩
    exact ⟨Or.inr listed, assigned⟩
  · rintro ⟨rfl | listed, assigned⟩
    · exact absurd unassigned assigned
    · exact ⟨listed, assigned⟩

/-- The first shard of a list and then the others, row by row: a shard that drains
is not listed again. -/
theorem drainRow_comp (now : Time) {shard : Shard} {rest : List Shard} (assigned : shard.bucketID ≠ none)
    (settled : (Rewrite.beginDrain now).apply shard ∉ rest) (row : Shard) :
    drainRow now (fun other => decide (other ∈ rest ∧ other.bucketID ≠ none))
        (drainRow now (fun other => decide (other = shard)) row) =
      drainRow now (fun other => decide (other ∈ shard :: rest ∧ other.bucketID ≠ none)) row := by
  by_cases isShard : row = shard
  · subst isShard
    have first : drainRow now (fun other => decide (other = row)) row = (Rewrite.beginDrain now).apply row :=
      drainRow_of_true (decide_eq_true rfl)
    have both : drainRow now (fun other => decide (other ∈ row :: rest ∧ other.bucketID ≠ none)) row =
        (Rewrite.beginDrain now).apply row :=
      drainRow_of_true (decide_eq_true ⟨List.mem_cons_self, assigned⟩)
    rw [first, both]
    exact drainRow_of_false (decide_eq_false fun listed => settled listed.1)
  · have first : drainRow now (fun other => decide (other = shard)) row = row :=
      drainRow_of_false (decide_eq_false isShard)
    rw [first]
    simp only [drainRow, only_apply, List.mem_cons, isShard, false_or]

/-- The loop lets all listed shards of buckets drain. -/
theorem run_beginDrains (env : Env) (now : Time) {shards : List Shard} (distinct : shards.Nodup)
    (active : forall row, row ∈ shards -> row ∈ db.shards ∧ row.role = .data ∧ row.state = .active) :
    Exists fun after => runAlone env (beginDrains shards) ⟨db, now⟩ = ((), ⟨after, now⟩) ∧
      after.shards = db.shards.map (drainRow now fun row => decide (row ∈ shards ∧ row.bucketID ≠ none)) ∧
      getConfig after = getConfig db ∧ (OneLive db -> OneLive after) := by
  induction shards generalizing db with
  | nil =>
      refine ⟨db, rfl, ?_, rfl, id⟩
      refine ((List.map_congr_left ?_).trans (List.map_id db.shards)).symm
      intro row _
      exact drainRow_of_false (decide_eq_false fun listed => List.not_mem_nil listed.1)
  | cons shard rest inductionHypothesis =>
      rcases List.nodup_cons.mp distinct with ⟨fresh, distinctRest⟩
      rcases active shard List.mem_cons_self with ⟨member, isData, isActive⟩
      cases bucket : shard.bucketID with
      | none =>
          rcases inductionHypothesis distinctRest fun row listed => active row (List.mem_cons_of_mem _ listed) with
            ⟨after, ran, table, config, live⟩
          refine ⟨after, ?_, ?_, config, live⟩
          · simp only [runAlone, beginDrains, bucket]
            exact ran
          · rw [table, listed_skip rest bucket]
      | some bucketID =>
          rcases beginDrain_one now member ⟨isData, bucket, isActive⟩ with ⟨drained, outcome, table, config⟩
          have still : forall row, row ∈ rest -> row ∈ drained.shards ∧ row.role = .data ∧ row.state = .active := by
            intro row listed
            rcases active row (List.mem_cons_of_mem _ listed) with ⟨present, rowData, rowActive⟩
            refine ⟨?_, rowData, rowActive⟩
            rw [table]
            refine List.mem_map.mpr ⟨row, present, drainRow_of_false (decide_eq_false ?_)⟩
            rintro rfl
            exact fresh listed
          rcases inductionHypothesis distinctRest still with ⟨after, ran, restTable, restConfig, restLive⟩
          refine ⟨after, ?_, ?_, restConfig.trans config, ?_⟩
          · rw [runAlone] at ran
            simp only [runAlone, beginDrains, bucket, Program.ask_bind, Program.run_request, perform, commit,
              outcome, ran]
          · have assigned : shard.bucketID ≠ none := by
              rw [bucket]
              exact Option.some_ne_none _
            have settled : (Rewrite.beginDrain now).apply shard ∉ rest := by
              intro listed
              cases (still _ listed).2.2
            rw [restTable, table, List.map_map]
            apply List.map_congr_left
            intro row _
            exact drainRow_comp now assigned settled row
          · intro held
            apply restLive
            have kept : OneLive (perform env (.beginDrain bucketID) ⟨db, now⟩).2.db := by
              apply perform_oneLive held rfl
              intro other promotes
              cases promotes
            simpa only [perform, commit, outcome] using kept

/-- Draining active shards leaves the pool alone. -/
theorem standbyPool_drained {after : Db} {condition : Shard -> Bool}
    (active : forall row, row ∈ db.shards -> condition row = true -> row.state = .active)
    (table : after.shards = db.shards.map (drainRow now condition)) : standbyPool after = standbyPool db := by
  have kept : forall row, row ∈ db.shards -> Pooled row -> drainRow now condition row = row := by
    intro row member pooled
    apply drainRow_of_false
    apply Bool.eq_false_iff.mpr
    intro selected
    have states := (active row member selected).symm.trans pooled.2.1
    cases states
  have pooled : forall row, Pooled (drainRow now condition row) -> Pooled row := by
    intro row
    rw [drainRow, only_apply]
    split
    · rintro ⟨_, standby, _⟩
      cases standby
    · exact id
  rw [standbyPool, standbyPool, table, List.filter_map]
  have sameRows : db.shards.filter ((fun row => decide (Pooled row)) ∘ drainRow now condition) =
      db.shards.filter fun row => decide (Pooled row) := by
    apply List.filter_congr
    intro row member
    rw [Function.comp_apply, Bool.eq_iff_iff, decide_eq_true_iff, decide_eq_true_iff]
    constructor
    · exact pooled row
    · intro was
      rw [kept row member was]
      exact was
  rw [sameRows]
  refine (List.map_congr_left ?_).trans (List.map_id _)
  intro row listed
  rcases List.mem_filter.mp listed with ⟨member, was⟩
  exact kept row member (of_decide_eq_true was)

end Draining

/-! ## The tick -/

section Tick

variable {env : Env} {moment : Moment} {config : ClusterConfig}

/-- The draining shards that the tick finds done. -/
def sealedByTick (env : Env) (moment : Moment) : List Shard :=
  dueDrains env moment.now (shardsDraining env moment.db)

/-- What a row becomes in the first loop. -/
def afterSealing (env : Env) (moment : Moment) : Shard -> Shard :=
  replaceRow moment.now (.drainSeal moment.now) (sealedByTick env moment)
    ((standbyPool moment.db).zip (sealedByTick env moment))

/-- What the first loop leaves behind. -/
theorem sealing_replaces (env : Env) (now : Time) {db : Db} (held : OneLive db) :
    (rotateAll env now .draining (.drainSeal now) (sealedByTick env ⟨db, now⟩) db).shards =
        db.shards.map (afterSealing env ⟨db, now⟩) ∧
      standbyPool (rotateAll env now .draining (.drainSeal now) (sealedByTick env ⟨db, now⟩) db) =
        (standbyPool db).drop (sealedByTick env ⟨db, now⟩).length ∧
      getConfig (rotateAll env now .draining (.drainSeal now) (sealedByTick env ⟨db, now⟩) db) = getConfig db :=
  rotateAll_replaces env (by decide) (by decide) (fun _ => rfl) dueDrains_nodup fun _ => replaceable_of_due held

theorem mem_shardsNeedingSeal {db : Db} {row : Shard} :
    (row ∈ shardsNeedingSeal env db config.shardMaxBytes ∧ row.bucketID ≠ none) ↔
      row ∈ db.shards ∧ fullActive config row = true := by
  rw [shardsNeedingSeal, List.mem_filter, mem_scan, fullActive, Bool.and_eq_true, decide_eq_true_iff,
    decide_eq_true_iff]
  tauto

/-- What a row becomes in the whole tick. -/
def afterTick (env : Env) (config : ClusterConfig) (moment : Moment) (row : Shard) : Shard :=
  drainRow moment.now (fullActive config) (afterSealing env moment row)

/-- The tick is one change of the table. -/
theorem run_sealTick (env : Env) (held : OneLive moment.db) (loaded : getConfig moment.db = .ok config) :
    Exists fun after => (runAlone env (sealTick env) moment).2 = ⟨after, moment.now⟩ ∧
      after.shards = moment.db.shards.map (afterTick env config moment) ∧
      standbyPool after = (standbyPool moment.db).drop (sealedByTick env moment).length ∧ OneLive after := by
  rcases moment with ⟨db, now⟩
  rcases sealing_replaces env now held with ⟨table, pool, _⟩
  have live : OneLive (rotateAll env now .draining (.drainSeal now) (sealedByTick env ⟨db, now⟩) db) :=
    rotateAll_oneLive env (by decide) (fun _ _ => live_of_draining) (fun _ => rfl) _ held
  have first : Program.run (perform env) (completeDrains env now (shardsDraining env db)) ⟨db, now⟩ =
      ((), ⟨rotateAll env now .draining (.drainSeal now) (sealedByTick env ⟨db, now⟩) db, now⟩) :=
    run_completeDrains env now db (shardsDraining env db)
  generalize rotateAll env now .draining (.drainSeal now) (sealedByTick env ⟨db, now⟩) db = replaced at *
  have listed : (shardsNeedingSeal env replaced config.shardMaxBytes).Nodup :=
    ((env.heapOrder_perm _).nodup_iff.mpr (replaced.nodup.filter _)).filter _
  have active : forall row, row ∈ shardsNeedingSeal env replaced config.shardMaxBytes ->
      row ∈ replaced.shards ∧ row.role = .data ∧ row.state = .active := by
    intro row member
    exact mem_scan.mp (List.mem_filter.mp member).1
  rcases run_beginDrains env now listed active with ⟨after, second, drained, _, keeps⟩
  have conditions : after.shards = replaced.shards.map (drainRow now (fullActive config)) := by
    rw [drained]
    apply List.map_congr_left
    intro row member
    rw [drainRow, drainRow, only_apply, only_apply]
    simp only [mem_shardsNeedingSeal, member, true_and, Bool.decide_eq_true]
  refine ⟨after, ?_, ?_, ?_, keeps live⟩
  · rw [runAlone] at second
    simp only [runAlone, sealTick, Program.ask_bind, Program.run_request, perform, loaded, Program.run_bind, first,
      second, Program.pure_eq_finish, Program.run_finish]
  · rw [conditions, table, List.map_map]
    rfl
  · rw [← pool]
    refine standbyPool_drained ?_ conditions
    intro row _ full
    rw [fullActive, Bool.and_eq_true, decide_eq_true_iff] at full
    exact full.1.2.1

theorem fullActive_of_state {row : Shard} (unlike : row.state ≠ .active) : fullActive config row = false := by
  rw [fullActive, decide_eq_false fun active => unlike active.2.1, Bool.false_and]

theorem state_of_due {now : Time} {row : Shard} (due : drainDue env now row = true) : row.state = .draining := by
  rw [drainDue, Bool.and_eq_true, decide_eq_true_iff] at due
  exact due.1.2.1

theorem drainRow_fullActive_cases (now : Time) (config : ClusterConfig) (row : Shard) :
    (fullActive config row = true ∧ drainRow now (fullActive config) row = (Rewrite.beginDrain now).apply row) ∨
    (fullActive config row = false ∧ drainRow now (fullActive config) row = row) := by
  cases full : fullActive config row with
  | true => exact Or.inl ⟨rfl, drainRow_of_true full⟩
  | false => exact Or.inr ⟨rfl, drainRow_of_false full⟩

/-- After the second loop nothing is full. -/
theorem fullActive_drainRow (now : Time) (config : ClusterConfig) (row : Shard) :
    fullActive config (drainRow now (fullActive config) row) = false := by
  rcases drainRow_fullActive_cases now config row with ⟨_, drained⟩ | ⟨unfull, kept⟩
  · rw [drained]
    exact fullActive_of_state fun active => nomatch active
  · rw [kept, unfull]

theorem afterTick_id (env : Env) (config : ClusterConfig) (moment : Moment) (row : Shard) :
    (afterTick env config moment row).id = row.id := by
  rw [afterTick, drainRow, Rewrite.id_eq, afterSealing, replaceRow_id]

/-- What becomes of a row: it is sealed, or it is promoted for the bucket of a
sealed row, or only the second loop may act on it. -/
theorem afterTick_cases (env : Env) (config : ClusterConfig) {row : Shard} (member : row ∈ moment.db.shards) :
    (drainDue env moment.now row = true ∧
      afterTick env config moment row = (Rewrite.drainSeal moment.now).apply row) ∨
    (drainDue env moment.now row = false ∧ Pooled row ∧ Exists fun old => old ∈ moment.db.shards ∧
      drainDue env moment.now old = true ∧
      afterTick env config moment row =
        drainRow moment.now (fullActive config)
          ((Rewrite.activate moment.now (old.bucketID.getD "")).apply row)) ∨
    (drainDue env moment.now row = false ∧
      afterTick env config moment row = drainRow moment.now (fullActive config) row) := by
  have undue : row ∉ sealedByTick env moment -> drainDue env moment.now row = false := by
    intro unlisted
    exact Bool.eq_false_iff.mpr fun due => unlisted (mem_dueDrains.mpr ⟨member, due⟩)
  rcases replaceRow_cases moment.now (.drainSeal moment.now) (sealedByTick env moment)
    ((standbyPool moment.db).zip (sealedByTick env moment)) row with
    ⟨listed, same⟩ | ⟨unlisted, old, placed, same⟩ | ⟨unlisted, _, same⟩ <;> rw [afterTick, afterSealing, same]
  · exact Or.inl ⟨(mem_dueDrains.mp listed).2, drainRow_of_false (fullActive_of_state fun active => nomatch active)⟩
  · rcases List.of_mem_zip placed with ⟨inPool, isDue⟩
    rcases mem_dueDrains.mp isDue with ⟨oldMember, due⟩
    exact Or.inr (Or.inl ⟨undue unlisted, (mem_standbyPool.mp inPool).2, old, oldMember, due, rfl⟩)
  · exact Or.inr (Or.inr ⟨undue unlisted, rfl⟩)

/-- Exactly the due drains are newly sealed. -/
theorem afterTick_sealed_iff (env : Env) (config : ClusterConfig) {row : Shard}
    (member : row ∈ moment.db.shards) :
    row.state ≠ .sealed ∧ (afterTick env config moment row).state = .sealed ↔
      drainDue env moment.now row = true := by
  rcases afterTick_cases env config member with
    ⟨due, same⟩ | ⟨undue, _, old, _, _, same⟩ | ⟨undue, same⟩
  · have unsealed : row.state ≠ .sealed := by
      rw [state_of_due due]
      decide
    exact iff_of_true ⟨unsealed, by rw [same]; rfl⟩ due
  · refine iff_of_false ?_ (Bool.eq_false_iff.mp undue)
    rintro ⟨_, isSealed⟩
    rcases drainRow_fullActive_cases moment.now config
      ((Rewrite.activate moment.now (old.bucketID.getD "")).apply row) with ⟨_, became⟩ | ⟨_, became⟩ <;>
    · rw [same, became] at isSealed
      exact nomatch isSealed
  · refine iff_of_false ?_ (Bool.eq_false_iff.mp undue)
    rintro ⟨unsealed, isSealed⟩
    rcases drainRow_fullActive_cases moment.now config row with ⟨_, became⟩ | ⟨_, became⟩ <;>
      rw [same, became] at isSealed
    · exact nomatch isSealed
    · exact unsealed isSealed

/-- Every other change is a promotion or the start of a drain. -/
theorem afterTick_changes (env : Env) (config : ClusterConfig) {row : Shard} (member : row ∈ moment.db.shards)
    (changed : afterTick env config moment row ≠ row) :
    drainDue env moment.now row = true ∨
    (Pooled row ∧ ((afterTick env config moment row).state = .active ∨
        (afterTick env config moment row).state = .draining) ∧
      Exists fun old => old ∈ moment.db.shards ∧ drainDue env moment.now old = true ∧
        (afterTick env config moment row).bucketID = old.bucketID) ∨
    (fullActive config row = true ∧ (afterTick env config moment row).state = .draining ∧
      (afterTick env config moment row).bucketID = row.bucketID) := by
  rcases afterTick_cases env config member with
    ⟨due, _⟩ | ⟨_, pooled, old, oldMember, due, same⟩ | ⟨_, same⟩
  · exact Or.inl due
  · have bucketed : some (old.bucketID.getD "") = old.bucketID := by
      rw [drainDue, Bool.and_eq_true, decide_eq_true_iff] at due
      rcases Option.ne_none_iff_exists'.mp due.1.2.2 with ⟨bucketID, known⟩
      rw [known, Option.getD_some]
    refine Or.inr (Or.inl ⟨pooled, ?_, old, oldMember, due, ?_⟩) <;>
      rcases drainRow_fullActive_cases moment.now config
        ((Rewrite.activate moment.now (old.bucketID.getD "")).apply row) with ⟨_, became⟩ | ⟨_, became⟩ <;>
      rw [same, became]
    · exact Or.inr rfl
    · exact Or.inl rfl
    · exact bucketed
    · exact bucketed
  · rcases drainRow_fullActive_cases moment.now config row with ⟨full, became⟩ | ⟨_, became⟩ <;>
      rw [same, became] at changed ⊢
    · exact Or.inr (Or.inr ⟨full, rfl, rfl⟩)
    · exact absurd rfl changed

end Tick

/-- The members of a list without repetitions that are not behind a position. -/
theorem length_filter_not_mem_drop {X : Type} [DecidableEq X] {items : List X} (distinct : items.Nodup)
    (count : Nat) : (items.filter fun item => decide (item ∉ items.drop count)).length = min count items.length := by
  have whole := List.take_append_drop count items
  have apart : (items.take count).Disjoint (items.drop count) := by
    rw [← whole] at distinct
    exact List.disjoint_of_nodup_append distinct
  have front : (items.take count).filter (fun item => decide (item ∉ items.drop count)) = items.take count := by
    rw [List.filter_eq_self]
    intro item early
    exact decide_eq_true fun late => apart early late
  have back : (items.drop count).filter (fun item => decide (item ∉ items.drop count)) = [] := by
    rw [List.filter_eq_nil_iff]
    intro item late early
    exact of_decide_eq_true early late
  have split : items.filter (fun item => decide (item ∉ items.drop count)) =
      (items.take count ++ items.drop count).filter fun item => decide (item ∉ items.drop count) := by
    rw [whole]
  rw [split, List.filter_append, front, back, List.append_nil, List.length_take]

/-- What holds after a seal tick.  The rows are the same ones; exactly the drains
that were done are sealed; no bucket has a full active shard, or two shards in
service; the pool has lost one shard for each sealed one, as far as it had any;
and the other changes are those of promoted shards and of full ones, which
drain. -/
structure SealTickDone (env : Env) (config : ClusterConfig) (moment : Moment) (after : Db) : Prop where
  rows : after.shards.map Shard.id = moment.db.shards.map Shard.id
  seals : forall row, row ∈ moment.db.shards -> forall moved, moved ∈ after.shards -> moved.id = row.id ->
    (row.state ≠ .sealed ∧ moved.state = .sealed ↔ drainDue env moment.now row = true)
  belowLimit : forall row, row ∈ after.shards -> fullActive config row = false
  oneLive : OneLive after
  poolShrinks : standbyPool after ⊆ standbyPool moment.db
  poolLoses : ((standbyPool moment.db).filter fun row => decide (row ∉ standbyPool after)).length =
    min (moment.db.shards.filter (drainDue env moment.now)).length (countStandbyPool moment.db)
  changes : forall row, row ∈ moment.db.shards -> forall moved, moved ∈ after.shards -> moved.id = row.id ->
    moved ≠ row ->
      drainDue env moment.now row = true ∨
      (Pooled row ∧ (moved.state = .active ∨ moved.state = .draining) ∧
        Exists fun old => old ∈ moment.db.shards ∧ drainDue env moment.now old = true ∧
          moved.bucketID = old.bucketID) ∨
      (fullActive config row = true ∧ moved.state = .draining ∧ moved.bucketID = row.bucketID)

/-- The postcondition of a change of the table that is the tick's. -/
theorem sealTickDone_of_table {env : Env} {config : ClusterConfig} {moment : Moment} {after : Db}
    (table : after.shards = moment.db.shards.map (afterTick env config moment))
    (pool : standbyPool after = (standbyPool moment.db).drop (sealedByTick env moment).length)
    (live : OneLive after) : SealTickDone env config moment after := by
  have became : forall row, row ∈ moment.db.shards -> forall moved, moved ∈ after.shards -> moved.id = row.id ->
      moved = afterTick env config moment row := by
    intro row member moved movedMember same
    have listed : afterTick env config moment row ∈ after.shards := by
      rw [table]
      exact List.mem_map_of_mem member
    exact after.eq_of_id movedMember listed (same.trans (afterTick_id env config moment row).symm)
  constructor
  case rows =>
    rw [table, List.map_map]
    apply List.map_congr_left
    intro row _
    exact afterTick_id env config moment row
  case seals =>
    intro row member moved movedMember same
    rw [became row member moved movedMember same]
    exact afterTick_sealed_iff env config member
  case belowLimit =>
    intro row member
    rw [table] at member
    rcases List.mem_map.mp member with ⟨source, _, rfl⟩
    exact fullActive_drainRow moment.now config _
  case oneLive => exact live
  case poolShrinks =>
    rw [pool]
    exact List.drop_subset _ _
  case poolLoses =>
    have distinct : (standbyPool moment.db).Nodup := moment.db.nodup.filter _
    rw [pool, length_filter_not_mem_drop distinct, countStandbyPool, sealedByTick, length_dueDrains]
  case changes =>
    intro row member moved movedMember same changed
    rw [became row member moved movedMember same] at changed ⊢
    exact afterTick_changes env config member changed

/-- Where no row has a bucket the tick has nothing to do. -/
theorem sealTickDone_of_no_buckets (env : Env) (config : ClusterConfig) {moment : Moment}
    (held : OneLive moment.db) (unused : forall row, row ∈ moment.db.shards -> row.bucketID = none) :
    SealTickDone env config moment moment.db := by
  have noneDue : sealedByTick env moment = [] := by
    rw [List.eq_nil_iff_forall_not_mem]
    intro row listed
    rcases mem_dueDrains.mp listed with ⟨member, due⟩
    rw [drainDue, Bool.and_eq_true, decide_eq_true_iff] at due
    exact due.1.2.2 (unused row member)
  have kept : forall row, row ∈ moment.db.shards -> afterTick env config moment row = row := by
    intro row member
    have unfull : fullActive config row = false := by
      rw [fullActive, decide_eq_false fun active => active.2.2 (unused row member), Bool.false_and]
    rw [afterTick, afterSealing, noneDue, List.zip_nil_right, replaceRow_nil, drainRow_of_false unfull]
  refine sealTickDone_of_table ?_ ?_ held
  · exact ((List.map_congr_left kept).trans (List.map_id moment.db.shards)).symm
  · rw [noneDue, List.length_nil, List.drop_zero]

/-- For every table with at most one active or draining data shard per bucket, a
seal tick that runs alone ends in such a state.  Before the bootstrap there is no
limit to compare with; the tick then changes nothing, and there is nothing to
change as long as no bucket is in use. -/
theorem seal_tick_seals_and_drains (env : Env) (moment : Moment) (held : OneLive moment.db) :
    (forall config, getConfig moment.db = .ok config ->
      Exists fun after => (runAlone env (sealTick env) moment).2 = ⟨after, moment.now⟩ ∧
        SealTickDone env config moment after) ∧
    (forall failure, getConfig moment.db = .error failure ->
      (runAlone env (sealTick env) moment).2 = moment ∧
        ((forall row, row ∈ moment.db.shards -> row.bucketID = none) ->
          forall config, SealTickDone env config moment moment.db)) := by
  constructor
  · intro config loaded
    rcases run_sealTick env held loaded with ⟨after, ran, table, pool, live⟩
    exact ⟨after, ran, sealTickDone_of_table table pool live⟩
  · intro failure unloaded
    refine ⟨?_, fun unused config => sealTickDone_of_no_buckets env config held unused⟩
    simp only [runAlone, sealTick, Program.ask_bind, Program.run_request, perform, unloaded,
      Program.pure_eq_finish, Program.run_finish]

/-- Shard 1 has drained; shard 2 waits in the pool with more bytes than the limit,
and shard 3 behind it. -/
def drainedBeforeFull : Moment :=
  let ops : List Op := [.registerShard 1 .data "a" "" "", .promoteStandby "n5", .beginDrain "n5", .markDrainReady 1,
    .registerShard 2 .data "b" "" "", .updateStats 2 200, .registerShard 3 .data "c" "" ""]
  ops.foldl (fun moment op => (perform sampleEnv op moment).2) ⟨sampleDb 100, 0⟩

/-- Shard 2 takes the place of shard 1, and drains in the same tick. -/
theorem seal_tick_seals_and_drains_twice :
    OneLive drainedBeforeFull.db ∧ getConfig drainedBeforeFull.db = .ok (sampleConfig 100) ∧
      Exists fun after => (runAlone sampleEnv (sealTick sampleEnv) drainedBeforeFull).2 = ⟨after, 0⟩ ∧
        SealTickDone sampleEnv (sampleConfig 100) drainedBeforeFull after ∧
        after.shards.map (fun row => (row.state, row.bucketID)) =
          [(.sealed, some "n5"), (.draining, some "n5"), (.standby, none)] := by
  have alone : forall first, first ∈ drainedBeforeFull.db.shards -> forall second,
      second ∈ drainedBeforeFull.db.shards -> first.state ≠ .standby -> second.state ≠ .standby ->
      first = second := by decide +kernel
  have inService : forall {bucketID : String} {row : Shard}, Live bucketID row -> row.state ≠ .standby := by
    intro bucketID row live standby
    rcases live.2.2 with active | draining
    · exact nomatch active.symm.trans standby
    · exact nomatch draining.symm.trans standby
  have held : OneLive drainedBeforeFull.db := by
    intro bucketID first second firstMember secondMember firstLive secondLive
    exact alone first firstMember second secondMember (inService firstLive) (inService secondLive)
  have loaded : getConfig drainedBeforeFull.db = .ok (sampleConfig 100) := rfl
  rcases (seal_tick_seals_and_drains sampleEnv drainedBeforeFull held).1 _ loaded with ⟨after, ran, done⟩
  refine ⟨held, loaded, after, ran, done, ?_⟩
  have final : after = (runAlone sampleEnv (sealTick sampleEnv) drainedBeforeFull).2.db := by
    rw [ran]
  rw [final]
  decide +kernel

end Control
end Shardman
