import Shardman.Control.System

namespace Shardman
namespace Control

open Fsm
open Bucket
open Store
open Foundation

/-!
# One shard in service per bucket

A bucket should have at most one shard in service, active or draining.  The
database only enforces this for active shards.  `autoPromoteIfNoActive` checks
for a draining shard in a query of its own, and the promotion that follows does
not check again.

This module determines when that gap matters.  Every other operation keeps one
shard in service per bucket; a promotion breaks it exactly when it runs while
the bucket has a draining shard, no active one, and a standby is at hand.
-/

/-- No bucket has two shards in service. -/
def OneLive (db : Db) : Prop :=
  forall bucketID first second, first ∈ db.shards -> second ∈ db.shards ->
    Live bucketID first -> Live bucketID second -> first = second

/-- A promotion for a bucket would put a second shard beside a draining one. -/
def BesideDraining (db : Db) (bucketID : String) : Prop :=
  (Exists fun row => row ∈ db.shards ∧ InState .draining bucketID row) ∧
    (forall row, row ∈ db.shards -> ¬ InState .active bucketID row) ∧ nextStandby db ≠ none

theorem live_of_active {bucketID : String} {row : Shard} (active : InState .active bucketID row) :
    Live bucketID row :=
  ⟨active.1, active.2.1, Or.inl active.2.2⟩

theorem live_of_draining {bucketID : String} {row : Shard} (draining : InState .draining bucketID row) :
    Live bucketID row :=
  ⟨draining.1, draining.2.1, Or.inr draining.2.2⟩

/-- The operations that can put a shard into service. -/
def activatesFor (bucketID : String) : Op -> Prop
  | .promoteStandby other => other = bucketID
  | .sealRotate other _ => other = bucketID
  | .completeDrainSeal other => other = bucketID
  | _ => False

/-- A row in service was in service for the same bucket before, or came from
the pool by an operation that activates for the bucket. -/
theorem live_source {now : Time} {op : Op} {row moved : Shard} {bucketID : String}
    (manual : isPatch op = false) (moves : Moves now op row moved) (live : Live bucketID moved) :
    Live bucketID row ∨ (Pooled row ∧ activatesFor bucketID op) := by
  rcases live with ⟨data, bucket, state⟩
  cases moves with
  | keep => exact Or.inl ⟨data, bucket, state⟩
  | promote pooled => exact Or.inr ⟨pooled, Option.some_inj.mp bucket⟩
  | replaceSealed pooled => exact Or.inr ⟨pooled, Option.some_inj.mp bucket⟩
  | replaceDrained pooled => exact Or.inr ⟨pooled, Option.some_inj.mp bucket⟩
  | sealActive serves => rcases state with state | state <;> cases state
  | sealDrained serves => rcases state with state | state <;> cases state
  | drain serves => exact Or.inl ⟨data, bucket, Or.inl serves.2.2⟩
  | ready draining => exact Or.inl ⟨data, bucket, Or.inr draining⟩
  | clean isSealed => rcases state with state | state <;> cases state
  | recycle cleaning => rcases state with state | state <;> cases state
  | patch allowed => cases manual
  | stats => exact Or.inl ⟨data, bucket, state⟩
  | seen => exact Or.inl ⟨data, bucket, state⟩
  | readdress => exact Or.inl ⟨data, bucket, state⟩

/-! ## One operation -/

section Operations

variable {env : Env} {now : Time} {db after : Db}

/-- Promotion keeps one shard in service unless it runs beside a draining one. -/
theorem promoteStandby_oneLive {bucketID : String} {id : Nat} (held : OneLive db)
    (clear : ¬ BesideDraining db bucketID) (done : promoteStandby now bucketID db = .ok (id, after)) :
    OneLive after := by
  rcases promoteStandby_cases now bucketID db with ⟨_, failed⟩ | ⟨_, _, _, _, _, failed⟩ |
    ⟨spare, written, found, vacant, outcome, table, _⟩
  · rw [failed] at done
    cases done
  · rw [failed] at done
    cases done
  · rw [outcome] at done
    cases done
    rcases nextStandby_some found with ⟨spareMember, _⟩
    have unserved : forall row, row ∈ db.shards -> ¬ Live bucketID row := by
      rintro row member ⟨data, bucket, active | draining⟩
      · exact vacant row member ⟨data, bucket, active⟩
      · apply clear
        refine ⟨⟨row, member, data, bucket, draining⟩, vacant, ?_⟩
        rw [found]
        exact Option.some_ne_none _
    have rows : forall row, row ∈ after.shards ->
        row = (Rewrite.activate now bucketID).apply spare ∨ row ∈ db.shards := by
      intro row member
      rw [table] at member
      rcases mem_tableAt.mp member with ⟨source, sourceMember, chosen, same⟩ | ⟨kept, _⟩
      · rw [db.eq_of_id sourceMember spareMember chosen] at same
        exact Or.inl same.symm
      · exact Or.inr kept
    intro other first second firstMember secondMember firstLive secondLive
    rcases rows first firstMember with rfl | firstOld <;>
      rcases rows second secondMember with rfl | secondOld
    · rfl
    · have same : bucketID = other := Option.some_inj.mp firstLive.2.1
      subst same
      exact absurd secondLive (unserved second secondOld)
    · have same : bucketID = other := Option.some_inj.mp secondLive.2.1
      subst same
      exact absurd firstLive (unserved first firstOld)
    · exact held other first second firstOld secondOld firstLive secondLive

/-- A rotation puts its standby where the retired row was in service. -/
theorem rotate_oneLive {bucketID : String} {retired : State} {retire : Rewrite} (held : OneLive db)
    (busy : retired ≠ .standby) (serving : forall row, InState retired bucketID row -> Live bucketID row)
    (sealing : forall row, (retire.apply row).state = .sealed)
    (done : rotate env now bucketID retired retire db = .ok ((), after)) : OneLive after := by
  have idle : forall other row, ¬ Live other (retire.apply row) := by
    rintro other row ⟨_, _, state⟩
    rw [sealing] at state
    rcases state with state | state <;> cases state
  rcases rotate_cases env now bucketID busy sealing db with ⟨_, failed⟩ |
    ⟨old, oldMember, serves, ⟨_, written, outcome, table, _⟩ |
      ⟨spare, found, ⟨_, written, outcome, table, _⟩ | ⟨_, failed⟩⟩⟩
  · rw [failed] at done
    cases done
  · rw [outcome] at done
    cases done
    have rows : forall other row, row ∈ after.shards -> Live other row -> row ∈ db.shards := by
      intro other row member live
      rw [table] at member
      rcases mem_tableAt.mp member with ⟨source, _, _, same⟩ | ⟨kept, _⟩
      · rw [← same] at live
        exact absurd live (idle other source)
      · exact kept
    intro other first second firstMember secondMember firstLive secondLive
    exact held other first second (rows other first firstMember firstLive)
      (rows other second secondMember secondLive) firstLive secondLive
  · rw [outcome] at done
    cases done
    rcases nextStandby_some found with ⟨spareMember, pooled⟩
    have different : spare.id ≠ old.id := by
      intro same
      have isOld := db.eq_of_id spareMember oldMember same
      rw [isOld] at pooled
      exact busy (serves.2.2.symm.trans pooled.2.1)
    have rows : forall other row, row ∈ after.shards -> Live other row ->
        row = (Rewrite.activate now bucketID).apply spare ∨ (row ∈ db.shards ∧ other ≠ bucketID) := by
      intro other row member live
      rw [table] at member
      rcases (mem_tableRotated oldMember spareMember different).mp member with rfl | rfl |
        ⟨kept, notOld, _⟩
      · exact absurd live (idle other old)
      · exact Or.inl rfl
      · refine Or.inr ⟨kept, ?_⟩
        intro same
        rw [same] at live
        exact notOld (congrArg Shard.id (held bucketID row old kept oldMember live (serving old serves)))
    intro other first second firstMember secondMember firstLive secondLive
    rcases rows other first firstMember firstLive with rfl | ⟨firstOld, firstElsewhere⟩ <;>
      rcases rows other second secondMember secondLive with rfl | ⟨secondOld, secondElsewhere⟩
    · rfl
    · exact absurd (Option.some_inj.mp firstLive.2.1).symm secondElsewhere
    · exact absurd (Option.some_inj.mp secondLive.2.1).symm firstElsewhere
    · exact held other first second firstOld secondOld firstLive secondLive
  · rw [failed] at done
    cases done

/-- A transaction that commits into `OneLive` keeps it, since a failed one
changes nothing. -/
theorem commit_oneLive {X : Type} {tx : Tx X} {moment : Moment} (held : OneLive moment.db)
    (keeps : forall value after, tx moment.db = .ok (value, after) -> OneLive after) :
    OneLive (commit tx moment).2.db := by
  unfold commit
  split
  · rename_i value after outcome
    exact keeps value after outcome
  · exact held

/-- Every operation keeps one shard in service per bucket, except a promotion
beside a draining shard and a manual state change. -/
theorem perform_oneLive {op : Op} {moment : Moment} (held : OneLive moment.db)
    (manual : isPatch op = false)
    (clear : forall bucketID, op = .promoteStandby bucketID -> ¬ BesideDraining moment.db bucketID) :
    OneLive (perform env op moment).2.db := by
  by_cases activating : Exists fun bucketID => activatesFor bucketID op
  · rcases activating with ⟨bucketID, activates⟩
    cases op with
    | promoteStandby other =>
        exact commit_oneLive held fun _ _ done =>
          promoteStandby_oneLive held (clear other rfl) done
    | sealRotate other cause =>
        exact commit_oneLive held fun _ _ done =>
          rotate_oneLive held (by decide) (fun _ => live_of_active) (fun _ => rfl) done
    | completeDrainSeal other =>
        exact commit_oneLive held fun _ _ done =>
          rotate_oneLive held (by decide) (fun _ => live_of_draining) (fun _ => rfl) done
    | _ => exact activates.elim
  · -- Without an activation every row in service was in service before.
    have rows : forall bucketID row, row ∈ (perform env op moment).2.db.shards -> Live bucketID row ->
        Exists fun source => source ∈ moment.db.shards ∧ Live bucketID source ∧ source.id = row.id := by
      intro bucketID row member live
      rcases perform_row member with ⟨source, sourceMember, moves⟩ | ⟨_, _, _, _, _, _, rfl, _⟩
      · rcases live_source manual moves live with earlier | ⟨_, activates⟩
        · exact ⟨source, sourceMember, earlier, moves.keys.1.symm⟩
        · exact absurd ⟨bucketID, activates⟩ activating
      · cases live.2.1
    intro bucketID first second firstMember secondMember firstLive secondLive
    rcases rows bucketID first firstMember firstLive with ⟨source, sourceMember, sourceLive, sourceID⟩
    rcases rows bucketID second secondMember secondLive with ⟨other, otherMember, otherLive, otherID⟩
    apply Db.eq_of_id _ firstMember secondMember
    rw [← sourceID, ← otherID, held bucketID source other sourceMember otherMember sourceLive otherLive]

/-- A promotion beside a draining shard leaves two shards in service. -/
theorem promotion_beside_draining {bucketID : String} {moment : Moment}
    (beside : BesideDraining moment.db bucketID) :
    ¬ OneLive (perform env (.promoteStandby bucketID) moment).2.db := by
  rcases beside with ⟨⟨drained, member, draining⟩, vacant, pool⟩
  intro held
  rcases promoteStandby_cases moment.now bucketID moment.db with ⟨empty, _⟩ |
    ⟨_, active, _, activeMember, serves, _⟩ | ⟨spare, written, found, _, outcome, table, _⟩
  · exact pool empty
  · exact vacant active activeMember serves
  · rcases nextStandby_some found with ⟨spareMember, pooled⟩
    have reached : (perform env (.promoteStandby bucketID) moment).2.db = written := by
      simp only [perform, commit, outcome]
    rw [reached] at held
    have occupied : ¬ Pooled drained := by
      intro isPooled
      have states := draining.2.2.symm.trans isPooled.2.1
      cases states
    have apart : drained.id ≠ spare.id := (pooled_id_ne spareMember pooled member occupied).symm
    have drainedKept : drained ∈ written.shards := by
      rw [table]
      exact mem_tableAt.mpr (Or.inr ⟨member, apart⟩)
    have promoted : (Rewrite.activate moment.now bucketID).apply spare ∈ written.shards := by
      rw [table]
      exact mem_tableAt.mpr (Or.inl ⟨spare, spareMember, rfl, rfl⟩)
    have same := held bucketID drained _ drainedKept promoted (live_of_draining draining)
      ⟨pooled.1, rfl, Or.inl rfl⟩
    have ids := congrArg Shard.id same
    exact apart ids

end Operations

/-! ## Whole runs -/

/-- The event is a promotion beside a draining shard. -/
def PromotesBesideDraining (event : Event System Act) : Prop :=
  Exists fun bucketID => event.state.pending event.action = some (.promoteStandby bucketID) ∧
    BesideDraining event.state.store.db bucketID

/-- No step of the run is a manual state change. -/
def unpatched (past : Trace) : Bool :=
  past.all fun event => (event.state.pending event.action).all fun op => !isPatch op

/-- One step keeps one shard in service per bucket, unless it promotes beside a
draining shard. -/
theorem step_oneLive {env : Env} {system after : System} {action : Act} (held : OneLive system.store.db)
    (manual : (system.pending action).all (fun op => !isPatch op) = true)
    (clear : ¬ PromotesBesideDraining ⟨system, action⟩) (taken : (machine env).step system action = some after) :
    OneLive after.store.db := by
  apply store_preserved (fun moment => OneLive moment.db) _ _ held taken
  · intro op issued before
    apply perform_oneLive before
    · rw [issued] at manual
      simpa using manual
    · intro bucketID same beside
      exact clear ⟨bucketID, same ▸ issued, beside⟩
  · intro duration before
    exact before

/-- A promotion beside a draining shard puts a second shard into service. -/
theorem step_promotesBesideDraining {env : Env} {system after : System} {action : Act}
    (promotes : PromotesBesideDraining ⟨system, action⟩)
    (taken : (machine env).step system action = some after) : ¬ OneLive after.store.db := by
  rcases promotes with ⟨bucketID, issued, beside⟩
  rcases step_cases taken with ⟨entry, rfl, _⟩ | ⟨tick, rfl, _⟩ |
    ⟨index, entry, op, next, _, _, pending, rfl⟩
  · cases issued
  · cases issued
  · have same : op = .promoteStandby bucketID := Option.some_inj.mp (pending.symm.trans issued)
    subst same
    exact promotion_beside_draining beside

/-- In a run that starts without shards and makes no manual state change, every
state has at most one shard in service per bucket exactly when no promotion of
the run takes place beside a draining shard. -/
theorem oneLive_iff_no_promotion_beside_draining (env : Env) (db : Db) (now : Time)
    (empty : db.shards = []) (past : Trace) (system : System) (run : Runs env db now past system)
    (manual : unpatched past = true) :
    Run.Throughout (fun system : System => OneLive system.store.db) past system ↔
      forall event, event ∈ past -> ¬ PromotesBesideDraining event := by
  have fresh : OneLive db := by
    intro bucketID first second firstMember
    rw [empty] at firstMember
    cases firstMember
  refine Run.throughout_iff_mem _ PromotesBesideDraining
    (fun system action => (system.pending action).all (fun op => !isPatch op) = true) fresh ?_ ?_ run
    (fun event member => List.all_eq_true.mp manual event member)
  · intro system action after manualStep held clear taken
    exact step_oneLive held manualStep clear taken
  · intro system action after promotes taken
    exact step_promotesBesideDraining promotes taken

/-- A registered shard is promoted by the only write: the run meets the
condition. -/
theorem oneLive_iff_no_promotion_beside_draining_single_write :
    Exists fun past => Exists fun system => Runs sampleEnv (sampleDb 100) 0 past system ∧
      unpatched past = true ∧
      (Run.Throughout (fun system : System => OneLive system.store.db) past system ↔
        forall event, event ∈ past -> ¬ PromotesBesideDraining event) := by
  have passed : replayCheck (machine sampleEnv).step
      ([.start (.registerShard 1 .data "a" "" "")] ++ resumes 0 2 ++
        [.start (.resolveWrite (.string "57"))] ++ resumes 1 10)
      (System.idle (sampleDb 100) 0) (fun past _ => unpatched past) = true := by decide +kernel
  rcases replayCheck_run passed with ⟨past, system, run, manual⟩
  exact ⟨past, system, run, manual,
    oneLive_iff_no_promotion_beside_draining sampleEnv (sampleDb 100) 0 rfl past system run manual⟩

/-- Two shards A and B are registered, a first write misses every check and is
about to promote, a second write promotes A, A reports that it is full, the seal
supervisor lets A drain, and then the first write promotes B. -/
def promotionRace : List Act :=
  [.start (.registerShard 1 .data "a" "" "")] ++ resumes 0 2 ++
  [.start (.registerShard 2 .data "b" "" "")] ++ resumes 1 2 ++
  [.start (.resolveWrite (.string "57"))] ++ resumes 2 8 ++
  [.start (.resolveWrite (.string "58"))] ++ resumes 3 10 ++
  [.start (.reportStats 1 200)] ++ resumes 4 2 ++
  [.start .sealTick] ++ resumes 5 5 ++ resumes 2 1

/-- Writes, reads, ticks of the two supervisors, rotations, registrations and
reports of sizes. -/
def isResolveOrSupervise : Call -> Bool
  | .resolveWrite _ | .resolveRead _ | .sealTick | .healthTick | .sealRotate _ | .registerShard .. | .reportStats .. =>
      true
  | _ => false

/-- Two different shards are in service for the bucket n5. -/
def servedTwice (db : Db) : Bool :=
  decide (Exists fun first => first ∈ db.shards ∧ Exists fun second =>
    second ∈ db.shards ∧ first ≠ second ∧ Live "n5" first ∧ Live "n5" second)

theorem not_oneLive_of_servedTwice {db : Db} (twice : servedTwice db = true) : ¬ OneLive db := by
  rcases of_decide_eq_true twice with
    ⟨first, firstMember, second, secondMember, different, firstLive, secondLive⟩
  intro held
  exact different (held "n5" first second firstMember secondMember firstLive secondLive)

/-- The race leaves two shards of one bucket in service. -/
theorem promotion_race_serves_twice :
    Exists fun past => Exists fun system => Runs sampleEnv (sampleDb 100) 0 past system ∧
      unpatched past = true ∧ startsOnly isResolveOrSupervise past = true ∧ ¬ OneLive system.store.db := by
  have passed : replayCheck (machine sampleEnv).step promotionRace (System.idle (sampleDb 100) 0)
      (fun past system => unpatched past && startsOnly isResolveOrSupervise past &&
        servedTwice system.store.db) = true := by decide +kernel
  rcases replayCheck_run passed with ⟨past, system, run, checked⟩
  rw [Bool.and_eq_true, Bool.and_eq_true] at checked
  exact ⟨past, system, run, checked.1.1, checked.1.2, not_oneLive_of_servedTwice checked.2⟩

end Control
end Shardman
