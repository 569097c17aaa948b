import Shardman.Control.Drains
import Shardman.Control.LiveShards

namespace Shardman
namespace Control

open Fsm
open Bucket
open Store
open Foundation

/-!
# Buckets that have left the retention window

The retention supervisor empties the buckets that have left the window.  It
passes over a bucket that has a shard in service, and relies on such a bucket
becoming free of them.  Two things come in between.  The check and the
transaction that follows it are separate, so a bucket may be put into service
after the check.  And the other supervisors replace shards of a bucket whether
or not it is still in the window.
-/

/-! ## Check and cleaning -/

/-- The operation puts a shard into service for a bucket that has none. -/
def PutsInService (bucketID : String) (db : Db) (op : Op) : Prop :=
  match op with
  | .promoteStandby filled => filled = bucketID ∧ nextStandby db ≠ none
  | .patchState id newState => newState = .active ∧ Exists fun row => row ∈ db.shards ∧ row.id = id ∧
      row.role = .data ∧ row.state = .standby ∧ row.bucketID = some bucketID
  | _ => False

instance (bucketID : String) (db : Db) : DecidablePred (PutsInService bucketID db) := fun op => by
  unfold PutsInService
  split <;> infer_instance

section Vacant

variable {env : Env} {moment : Moment} {bucketID : String}

/-- No shard of the bucket is in service. -/
def Unserved (bucketID : String) (db : Db) : Prop := forall row, row ∈ db.shards -> ¬ Live bucketID row

/-- A rotation finds nothing to retire in a bucket without a shard in service. -/
theorem rotation_unserved {retired : State} {retire : Rewrite} (unserved : Unserved bucketID moment.db)
    (busy : retired ≠ .standby) (serving : forall row, InState retired bucketID row -> Live bucketID row)
    (sealing : forall row, (retire.apply row).state = .sealed) :
    (commit (rotate env moment.now bucketID retired retire) moment).2 = moment := by
  rcases rotate_cases env moment.now bucketID busy sealing moment.db with ⟨_, failed⟩ |
    ⟨old, member, serves, _⟩
  · simp only [commit, failed]
  · exact absurd (serving old serves) (unserved old member)

/-- Without a shard in service, a manual change that puts one into service takes
it from standby. -/
theorem patch_live {now : Time} {id : Nat} {newState : State} {row moved : Shard} (idle : ¬ Live bucketID row)
    (moves : Moves now (.patchState id newState) row moved) (live : Live bucketID moved) :
    row.id = id ∧ newState = .active ∧ row.role = .data ∧ row.state = .standby ∧
      row.bucketID = some bucketID := by
  rcases live with ⟨data, bucket, state⟩
  cases moves with
  | keep => exact absurd ⟨data, bucket, state⟩ idle
  | patch allowed =>
      change row.role = .data at data
      change row.bucketID = some bucketID at bucket
      change newState = .active ∨ newState = .draining at state
      rw [data] at allowed
      rcases state with rfl | rfl
      · exact ⟨rfl, rfl, data, standby_of_activation allowed, bucket⟩
      · exact absurd ⟨data, bucket, Or.inl (active_of_drain allowed)⟩ idle

/-- A bucket without a shard in service stays so, unless the operation puts one
into service. -/
theorem perform_unserved {op : Op} (unserved : Unserved bucketID moment.db)
    (idle : ¬ PutsInService bucketID moment.db op) :
    Unserved bucketID (perform env op moment).2.db := by
  intro row member live
  by_cases manual : isPatch op = true
  · cases op with
    | patchState id newState =>
        rcases perform_row member with ⟨source, sourceMember, moves⟩ | ⟨_, _, _, _, _, same, _⟩
        · rcases patch_live (unserved source sourceMember) moves live with
            ⟨sameID, active, data, standby, bucket⟩
          exact idle ⟨active, source, sourceMember, sameID, data, standby, bucket⟩
        · cases same
    | _ => cases manual
  · rcases perform_row member with ⟨source, sourceMember, moves⟩ | ⟨_, _, _, _, _, _, rfl, _⟩
    · rcases live_source (Bool.eq_false_of_not_eq_true manual) moves live with earlier | ⟨pooled, activates⟩
      · exact unserved source sourceMember earlier
      · cases op with
        | promoteStandby filled =>
            refine idle ⟨activates, ?_⟩
            intro empty
            exact nextStandby_none empty sourceMember pooled
        | sealRotate filled cause =>
            cases activates
            have unchanged : (perform env (.sealRotate bucketID cause) moment).2 = moment :=
              rotation_unserved unserved (by decide) (fun _ => live_of_active) (fun _ => rfl)
            rw [unchanged] at member
            exact unserved row member live
        | completeDrainSeal filled =>
            cases activates
            have unchanged : (perform env (.completeDrainSeal bucketID) moment).2 = moment :=
              rotation_unserved unserved (by decide) (fun _ => live_of_draining) (fun _ => rfl)
            rw [unchanged] at member
            exact unserved row member live
        | _ => exact activates.elim
    · cases live.2.1

end Vacant

/-- The bucket that a retention tick has checked and is about to clean. -/
def marks (process : Process Op Reply Outcome Call) : Option String :=
  match process with
  | ⟨.retentionTick, .request (.markBucketCleaning bucketID) _⟩ => some bucketID
  | _ => none

/-- The step puts a shard into service for a bucket that a retention tick has
checked and is about to clean. -/
def ServesChecked (event : Event System Act) : Prop :=
  Exists fun process => process ∈ event.state.processes ∧
    ((marks process).any fun bucketID => (event.state.pending event.action).any fun op =>
      decide (PutsInService bucketID event.state.store.db op)) = true

instance : DecidablePred ServesChecked := fun event =>
  inferInstanceAs (Decidable (Exists fun process => process ∈ event.state.processes ∧ _))

/-- The cleaning of a checked bucket relies on the bucket being unserved. -/
def CleansUnserved (call : Call) (done : List (Sigma Reply)) (op : Op) (moment : Moment) : Prop :=
  forall bucketID rest, call = .retentionTick -> op = .markBucketCleaning bucketID ->
    done = ⟨.hasActiveInBucket bucketID, false⟩ :: rest -> Unserved bucketID moment.db

theorem step_cleansUnserved {env : Env} {system after : System} {action : Act} {index : Nat} {call : Call}
    {op : Op} {next : Reply op -> Routine Outcome} {done : List (Sigma Reply)}
    (present : system.processes[index]? = some ⟨call, .request op next⟩)
    (taken : (machine env).step system action = some after) (calm : ¬ ServesChecked ⟨system, action⟩)
    (relies : CleansUnserved call done op system.store) : CleansUnserved call done op after.store := by
  intro bucketID rest isTick isMark told
  have unserved := relies bucketID rest isTick isMark told
  subst isTick isMark
  rcases step_cases taken with ⟨entry, rfl, rfl⟩ | ⟨tick, rfl, rfl⟩ |
    ⟨resumed, owner, performed, following, rfl, found, issued, rfl⟩
  · exact unserved
  · exact unserved
  · apply perform_unserved unserved
    intro puts
    refine calm ⟨_, List.mem_of_getElem? present, ?_⟩
    rw [marks, issued]
    exact decide_eq_true puts

theorem run_cleansUnserved {env : Env} {db : Db} {now : Time} {past : Trace} {system : System}
    (run : Runs env db now past system) (calm : forall event, event ∈ past -> ¬ ServesChecked event)
    {index : Nat} {call : Call} {op : Op} {next : Reply op -> Routine Outcome}
    (present : system.processes[index]? = some ⟨call, .request op next⟩) :
    CleansUnserved call (exchanges (machine env) index past) op system.store := by
  refine run_relies CleansUnserved rfl ?_ ?_ run ?_ present
  · intro call op next moment _ bucketID rest _ _ told
    cases told
  · intro call done previous op moment bucketID rest _ _ told
    rcases List.cons.inj told with ⟨same, _⟩
    rcases Sigma.mk.inj_iff.mp same with ⟨rfl, reply⟩
    have vacant : hasActiveInBucket moment.db bucketID = false := eq_of_heq reply
    intro row member live
    have served : hasActiveInBucket moment.db bucketID = true := hasActiveInBucket_iff.mpr ⟨row, member, live⟩
    rw [vacant] at served
    cases served
  · intro event member index call op next after done present _ taken relies
    exact step_cleansUnserved present taken (calm event member) relies

/-- In every run in which no step puts a shard into service for a bucket between
the check of a retention tick and the cleaning that follows it, a retention tick
moves a shard from sealed to cleaning only when no shard of its bucket is active
or draining. -/
theorem retention_cleans_unserved_buckets (env : Env) (db : Db) (now : Time) (past : Trace) (system : System)
    (run : Runs env db now past system) (calm : forall event, event ∈ past -> ¬ ServesChecked event)
    (event : Event System Act) (listed : event ∈ past) (index : Nat) (bucketID : String)
    (acts : resumed event = some (index, .retentionTick, .markBucketCleaning bucketID)) :
    forall row, row ∈ event.state.store.db.shards ->
      forall moved, moved ∈ (perform env (.markBucketCleaning bucketID) event.state.store).2.db.shards ->
        moved.id = row.id -> row.state = .sealed -> moved.state = .cleaning ->
          row.bucketID = some bucketID ∧
            forall other, other ∈ event.state.store.db.shards -> ¬ Live bucketID other := by
  intro row member moved movedMember same isSealed cleaning
  have bucket : row.bucketID = some bucketID := by
    cases perform_moves member movedMember same with
    | keep =>
        rw [isSealed] at cleaning
        cases cleaning
    | clean serves => exact serves.2.1
  refine ⟨bucket, ?_⟩
  rcases resumed_some acts with ⟨_, next, present⟩
  rcases List.append_of_mem listed with ⟨later, earlier, split⟩
  have before := run.suffix split
  have earlierCalm : forall older, older ∈ earlier -> ¬ ServesChecked older :=
    fun older olderListed => calm older (Run.mem_of_earlier split olderListed)
  rcases run_grounds before present with ⟨_, rest, told⟩
  exact run_cleansUnserved before earlierCalm present bucketID rest rfl rfl told

/-! ### A write that was classified before the window moved -/

/-- Daily buckets, of which the current one and none before are kept. -/
def windowConfig : ClusterConfig where
  mode := "range"
  bucketAxis := .time
  bucketSpec := .time .day
  bucketSpecRaw := .object [("unit", .string "day")]
  shardMaxBytes := 100
  retentionDepth := some 1
  maxFutureBuckets := some 1
  parsed := day_accepted
  depthFits := one_fits
  futureFits := one_fits

def windowDb : Db :=
  { Db.fresh with cluster := some ⟨windowConfig, 1⟩ }

def oneDay : Nat := 86400 * 10 ^ 9

/-- Shard A serves the first day and is sealed by the health supervisor, since it
is silent.  A write finds the bucket without a shard in service and is about to
promote.  A day passes, shard B is registered, and a retention tick checks the
bucket of the first day.  Then some other calls run, and the tick cleans the
bucket. -/
def cleanAfter (between : List Act) : List Act :=
  List.flatten [launch 0 (.registerShard 1 .data "a" "" "") 2,
    launch 1 (.resolveWrite (.string "1970-01-01")) 10, [.elapse (120 * 10 ^ 9)], launch 2 .healthTick 2,
    launch 3 (.resolveWrite (.string "1970-01-01")) 8, [.elapse oneDay],
    launch 4 (.registerShard 2 .data "b" "" "") 2, launch 5 .retentionTick 4, between, resumes 5 1]

/-- The bucket that a retention tick cleans in an event. -/
def cleansBucket (event : Event System Act) : Option (Nat × String) :=
  match resumed event with
  | some (index, .retentionTick, .markBucketCleaning bucketID) => some (index, bucketID)
  | _ => none

theorem cleansBucket_some {event : Event System Act} {index : Nat} {bucketID : String}
    (cleans : cleansBucket event = some (index, bucketID)) :
    resumed event = some (index, .retentionTick, .markBucketCleaning bucketID) := by
  unfold cleansBucket at cleans
  split at cleans
  · rename_i found
    cases cleans
    exact found
  · cases cleans

/-- The event moves the row from sealed to cleaning. -/
def CleansRow (env : Env) (event : Event System Act) (bucketID : String) (row : Shard) : Prop :=
  row.state = .sealed ∧ Exists fun moved =>
    moved ∈ (perform env (.markBucketCleaning bucketID) event.state.store).2.db.shards ∧
    moved.id = row.id ∧ moved.state = .cleaning

instance (env : Env) (event : Event System Act) (bucketID : String) :
    DecidablePred (CleansRow env event bucketID) := fun _ => inferInstanceAs (Decidable (_ ∧ Exists _))

/-- With nothing in between the bucket of A is cleaned while nothing serves it. -/
theorem retention_cleans_unserved_buckets_alone :
    Exists fun past => Exists fun system => Runs sampleEnv windowDb 0 past system ∧
      Exists fun event => Exists fun bucketID => event ∈ past ∧
        Exists fun row => row ∈ event.state.store.db.shards ∧ CleansRow sampleEnv event bucketID row ∧
          row.bucketID = some bucketID ∧
          forall other, other ∈ event.state.store.db.shards -> ¬ Live bucketID other := by
  have passed : replayCheck (machine sampleEnv).step (cleanAfter []) (System.idle windowDb 0)
      (fun past _ => decide (forall event, event ∈ past -> ¬ ServesChecked event) &&
        past.any fun event => (cleansBucket event).any fun cleaned =>
          decide (Exists fun row => row ∈ event.state.store.db.shards ∧
            CleansRow sampleEnv event cleaned.2 row)) = true := by
    decide +kernel
  rcases replayCheck_run passed with ⟨past, system, run, checked⟩
  rcases Bool.and_eq_true_iff.mp checked with ⟨calm, cleaned⟩
  rcases List.any_eq_true.mp cleaned with ⟨event, listed, found⟩
  rcases (Option.any_eq_true _ _).mp found with ⟨⟨index, bucketID⟩, cleans, tested⟩
  rcases of_decide_eq_true tested with ⟨row, member, isSealed, moved, movedMember, same, cleaning⟩
  exact ⟨past, system, run, event, bucketID, listed, row, member, ⟨isSealed, moved, movedMember, same, cleaning⟩,
    retention_cleans_unserved_buckets sampleEnv windowDb 0 past system run (of_decide_eq_true calm) event listed
      index bucketID (cleansBucket_some cleans) row member moved movedMember same isSealed cleaning⟩

/-- The calls of the race. -/
def isWriteOrSupervise : Call -> Bool
  | .resolveWrite _ | .registerShard .. | .healthTick | .sealTick | .retentionTick => true
  | _ => false

/-- When the write promotes B in between, the tick cleans A although B is active
in the same bucket. -/
theorem retention_race_cleans_served_bucket :
    Exists fun past => Exists fun system => Runs sampleEnv windowDb 0 past system ∧
      startsOnly isWriteOrSupervise past = true ∧
      Exists fun event => Exists fun index => Exists fun bucketID => event ∈ past ∧
        resumed event = some (index, .retentionTick, .markBucketCleaning bucketID) ∧
        (Exists fun row => row ∈ event.state.store.db.shards ∧ CleansRow sampleEnv event bucketID row ∧
          row.bucketID = some bucketID) ∧
        Exists fun other => other ∈ event.state.store.db.shards ∧ Live bucketID other := by
  have passed : replayCheck (machine sampleEnv).step (cleanAfter (resumes 3 1)) (System.idle windowDb 0)
      (fun past _ => startsOnly isWriteOrSupervise past &&
        past.any fun event => (cleansBucket event).any fun cleaned =>
          decide ((Exists fun row => row ∈ event.state.store.db.shards ∧
              CleansRow sampleEnv event cleaned.2 row ∧ row.bucketID = some cleaned.2) ∧
            Exists fun other => other ∈ event.state.store.db.shards ∧ Live cleaned.2 other)) = true := by
    decide +kernel
  rcases replayCheck_run passed with ⟨past, system, run, checked⟩
  rcases Bool.and_eq_true_iff.mp checked with ⟨kinds, cleaned⟩
  rcases List.any_eq_true.mp cleaned with ⟨event, listed, found⟩
  rcases (Option.any_eq_true _ _).mp found with ⟨⟨index, bucketID⟩, cleans, tested⟩
  exact ⟨past, system, run, kinds, event, index, bucketID, listed, cleansBucket_some cleans,
    of_decide_eq_true tested⟩

/-! ## Rotations of evicted buckets -/

/-- The buckets that are outside the retention window at a moment. -/
def evicted (env : Env) (moment : Moment) : List String :=
  match getConfig moment.db with
  | .error _ => []
  | .ok config =>
      match config.bucketAxis, config.retentionDepth with
      | .time, some depth =>
          (bucketsOutsideRetention config.bucketSpec moment.now depth (distinctBucketIDs env moment.db)).getD []
      | _, _ => []

/-- A rotation that retires a row of the given state puts a standby in its place:
there is such a row, no other one is active, and the pool is not empty. -/
def Refills (retired : State) (bucketID : String) (db : Db) : Prop :=
  (Exists fun old => old ∈ db.shards ∧ InState retired bucketID old) ∧
    (forall row, row ∈ db.shards -> InState .active bucketID row -> retired = .active) ∧ nextStandby db ≠ none

instance (retired : State) (bucketID : String) (db : Db) : Decidable (Refills retired bucketID db) :=
  inferInstanceAs (Decidable (_ ∧ _ ∧ _))

/-- A shard of the pool is active in the bucket afterwards. -/
def Absorbs (bucketID : String) (before after : Db) : Prop :=
  Exists fun row => row ∈ before.shards ∧ row.state = .standby ∧
    Exists fun moved => moved ∈ after.shards ∧ moved.id = row.id ∧ moved.state = .active ∧
      moved.bucketID = some bucketID

instance (bucketID : String) (before after : Db) : Decidable (Absorbs bucketID before after) :=
  inferInstanceAs (Decidable (Exists fun row => row ∈ before.shards ∧ row.state = .standby ∧
    Exists fun moved => moved ∈ after.shards ∧ moved.id = row.id ∧ moved.state = .active ∧
      moved.bucketID = some bucketID))

section Rotations

variable {env : Env} {moment : Moment} {bucketID : String} {retired : State} {retire : Rewrite}

/-- A row that is kept is not absorbed. -/
theorem kept_not_absorbed {row moved : Shard} (member : row ∈ moment.db.shards) (standby : row.state = .standby)
    (kept : moved ∈ moment.db.shards) (same : moved.id = row.id) : moved.state ≠ .active := by
  rw [moment.db.eq_of_id kept member same, standby]
  exact State.noConfusion

/-- A transaction that fails takes no shard from the pool. -/
theorem failed_takes_none {X : Type} {tx : Tx X} {failure : StoreError} {row moved : Shard}
    (failed : tx moment.db = .error failure) (member : row ∈ moment.db.shards) (standby : row.state = .standby)
    (kept : moved ∈ (commit tx moment).2.db.shards) (same : moved.id = row.id) : moved.state ≠ .active := by
  simp only [commit, failed] at kept
  exact kept_not_absorbed member standby kept same

/-- Of the shards on standby, a rotated table has the replacement in service and
no other. -/
theorem tableRotated_takes_iff {old spare row : Shard} (sealing : forall row, (retire.apply row).state = .sealed)
    (oldMember : old ∈ moment.db.shards) (spareMember : spare ∈ moment.db.shards) (apart : spare.id ≠ old.id)
    (rowMember : row ∈ moment.db.shards) (standby : row.state = .standby) :
    (Exists fun moved => moved ∈ moment.db.tableRotated moment.now bucketID old spare retire ∧
      moved.id = row.id ∧ moved.state = .active ∧ moved.bucketID = some bucketID) ↔ spare = row := by
  constructor
  · rintro ⟨moved, movedMember, same, active, _⟩
    rcases (mem_tableRotated oldMember spareMember apart).mp movedMember with rfl | rfl | ⟨kept, _⟩
    · rw [sealing] at active
      cases active
    · rw [Rewrite.id_eq] at same
      exact moment.db.eq_of_id spareMember rowMember same
    · exact absurd active (kept_not_absorbed rowMember standby kept same)
  · rintro rfl
    exact ⟨_, (mem_tableRotated oldMember spareMember apart).mpr (Or.inr (Or.inl rfl)), rfl, rfl, rfl⟩

/-- A rotation takes a shard from the pool exactly when it refills the bucket
and the shard is the next one there. -/
theorem rotation_takes_iff (busy : retired ≠ .standby) (sealing : forall row, (retire.apply row).state = .sealed)
    {row : Shard} (rowMember : row ∈ moment.db.shards) (standby : row.state = .standby) :
    (Exists fun moved => moved ∈ (commit (rotate env moment.now bucketID retired retire) moment).2.db.shards ∧
      moved.id = row.id ∧ moved.state = .active ∧ moved.bucketID = some bucketID) ↔
        nextStandby moment.db = some row ∧ Refills retired bucketID moment.db := by
  rcases rotate_cases env moment.now bucketID busy sealing moment.db with ⟨vacant, failed⟩ |
    ⟨old, member, serves, ⟨empty, after, done, table, _⟩ |
      ⟨spare, found, ⟨alone, after, done, table, _⟩ | ⟨⟨other, otherMember, active, different⟩, failed⟩⟩⟩
  · -- There is nothing to retire.
    refine iff_of_false ?_ ?_
    · rintro ⟨moved, kept, same, active, _⟩
      exact failed_takes_none failed rowMember standby kept same active
    · rintro ⟨_, ⟨old, member, serves⟩, _⟩
      exact vacant old member serves
  · -- The pool is empty.
    refine iff_of_false ?_ (fun refills => refills.2.2.2 empty)
    rintro ⟨moved, movedMember, same, active, _⟩
    simp only [commit, done] at movedMember
    rw [table] at movedMember
    rcases mem_tableAt.mp movedMember with ⟨source, _, _, rfl⟩ | ⟨kept, _⟩
    · rw [sealing] at active
      cases active
    · exact kept_not_absorbed rowMember standby kept same active
  · -- The next standby takes the place of the retired row.
    rcases nextStandby_some found with ⟨spareMember, pooled⟩
    have apart : spare.id ≠ old.id :=
      pooled_id_ne spareMember pooled member fun isPooled => busy (serves.2.2.symm.trans isPooled.2.1)
    have refills : Refills retired bucketID moment.db := by
      refine ⟨⟨old, member, serves⟩, ?_, by rw [found]; exact Option.some_ne_none _⟩
      intro other otherMember otherActive
      rw [alone other otherMember otherActive] at otherActive
      exact serves.2.2.symm.trans otherActive.2.2
    simp only [commit, done]
    rw [table, tableRotated_takes_iff sealing member spareMember apart rowMember standby, found, Option.some_inj]
    exact (and_iff_left refills).symm
  · -- Another row is active in the bucket already.
    refine iff_of_false ?_ ?_
    · rintro ⟨moved, kept, same, active, _⟩
      exact failed_takes_none failed rowMember standby kept same active
    · rintro ⟨_, _, only, _⟩
      have isActive := only other otherMember active
      subst isActive
      exact different (active_unique otherMember member active serves)

theorem sealRotate_takes_iff {cause : Cause} {row : Shard} (member : row ∈ moment.db.shards)
    (standby : row.state = .standby) :
    (Exists fun moved => moved ∈ (perform env (.sealRotate bucketID cause) moment).2.db.shards ∧
      moved.id = row.id ∧ moved.state = .active ∧ moved.bucketID = some bucketID) ↔
        nextStandby moment.db = some row ∧ Refills .active bucketID moment.db :=
  rotation_takes_iff (by decide) (fun _ => rfl) member standby

theorem completeDrainSeal_takes_iff {row : Shard} (member : row ∈ moment.db.shards)
    (standby : row.state = .standby) :
    (Exists fun moved => moved ∈ (perform env (.completeDrainSeal bucketID) moment).2.db.shards ∧
      moved.id = row.id ∧ moved.state = .active ∧ moved.bucketID = some bucketID) ↔
        nextStandby moment.db = some row ∧ Refills .draining bucketID moment.db :=
  rotation_takes_iff (by decide) (fun _ => rfl) member standby

/-- A rotation takes some shard from the pool exactly when it refills the
bucket. -/
theorem rotation_absorbs_iff (busy : retired ≠ .standby)
    (sealing : forall row, (retire.apply row).state = .sealed) :
    Absorbs bucketID moment.db (commit (rotate env moment.now bucketID retired retire) moment).2.db ↔
      Refills retired bucketID moment.db := by
  constructor
  · rintro ⟨row, member, standby, taken⟩
    exact ((rotation_takes_iff busy sealing member standby).mp taken).2
  · intro refills
    rcases Option.ne_none_iff_exists'.mp refills.2.2 with ⟨spare, found⟩
    rcases nextStandby_some found with ⟨member, pooled⟩
    exact ⟨spare, member, pooled.2.1,
      (rotation_takes_iff busy sealing member pooled.2.1).mpr ⟨found, refills⟩⟩

theorem sealRotate_absorbs_iff {cause : Cause} :
    Absorbs bucketID moment.db (perform env (.sealRotate bucketID cause) moment).2.db ↔
      Refills .active bucketID moment.db :=
  rotation_absorbs_iff (by decide) (fun _ => rfl)

theorem completeDrainSeal_absorbs_iff :
    Absorbs bucketID moment.db (perform env (.completeDrainSeal bucketID) moment).2.db ↔
      Refills .draining bucketID moment.db :=
  rotation_absorbs_iff (by decide) (fun _ => rfl)

end Rotations

/-- A step of the health or the seal supervisor takes a shard from the pool for
a bucket that is outside the window. -/
def AbsorbsForEvicted (env : Env) (event : Event System Act) : Prop :=
  Exists fun index => Exists fun call => Exists fun op => resumed event = some (index, call, op) ∧
    (call = .healthTick ∨ call = .sealTick) ∧
    Exists fun bucketID => bucketID ∈ evicted env event.state.store ∧
      Absorbs bucketID event.state.store.db (perform env op event.state.store).2.db

/-- The step is a rotation by one of the two supervisors, of a bucket that is
outside the window, and there is a standby to refill it. -/
def RefillsEvicted (env : Env) (event : Event System Act) : Prop :=
  match resumed event with
  | some (_, .healthTick, .sealRotate bucketID _) =>
      bucketID ∈ evicted env event.state.store ∧ Refills .active bucketID event.state.store.db
  | some (_, .sealTick, .completeDrainSeal bucketID) =>
      bucketID ∈ evicted env event.state.store ∧ Refills .draining bucketID event.state.store.db
  | _ => False

/-- Only the operations that fill a bucket take shards from the pool for it. -/
theorem absorbs_fills {env : Env} {op : Op} {moment : Moment} {bucketID : String}
    (absorbs : Absorbs bucketID moment.db (perform env op moment).2.db) :
    fillsBucket bucketID op = true ∨ isPatch op = true := by
  rcases absorbs with ⟨row, member, standby, moved, movedMember, same, active, bucket⟩
  cases perform_moves member movedMember same with
  | keep | ready | stats | seen | readdress =>
      have states : State.standby = .active := standby.symm.trans active
      cases states
  | promote | replaceSealed | replaceDrained =>
      cases bucket
      exact Or.inl (beq_self_eq_true _)
  | patch => exact Or.inr rfl
  | sealActive | sealDrained | drain | clean | recycle => cases active

/-- The two supervisors fill buckets by their rotations only. -/
theorem supervisor_fills {env : Env} {db : Db} {now : Time} {past : Trace} {system : System}
    (run : Runs env db now past system) {index : Nat} {call : Call} {op : Op}
    {next : Reply op -> Routine Outcome} (present : system.processes[index]? = some ⟨call, .request op next⟩)
    {bucketID : String} (supervises : call = .healthTick ∨ call = .sealTick)
    (fills : fillsBucket bucketID op = true ∨ isPatch op = true) :
    (call = .healthTick ∧ Exists fun cause => op = .sealRotate bucketID cause) ∨
      (call = .sealTick ∧ op = .completeDrainSeal bucketID) := by
  have grounds := run_grounds run present
  cases op with
  | promoteStandby filled =>
      rcases supervises with rfl | rfl <;> cases grounds
  | sealRotate filled cause =>
      rcases fills with fills | manual
      · rw [beq_iff_eq.mp fills]
        rcases supervises with rfl | rfl
        · exact Or.inl ⟨rfl, cause, rfl⟩
        · cases cause with
          | admin => cases grounds
          | failover stale => rcases grounds with ⟨resolves, _⟩ | ⟨different, _⟩ <;> contradiction
      · cases manual
  | completeDrainSeal filled =>
      rcases fills with fills | manual
      · rw [beq_iff_eq.mp fills]
        exact Or.inr ⟨grounds.1, rfl⟩
      · cases manual
  | patchState id newState =>
      rcases supervises with rfl | rfl <;> cases grounds
  | _ => rcases fills with fills | manual <;> contradiction

/-- One step. -/
theorem absorbsForEvicted_iff {env : Env} {db : Db} {now : Time} {earlier : Trace} {event : Event System Act}
    (run : Runs env db now earlier event.state) : AbsorbsForEvicted env event ↔ RefillsEvicted env event := by
  constructor
  · rintro ⟨index, call, op, acts, supervises, bucketID, outside, absorbs⟩
    rcases resumed_some acts with ⟨_, next, present⟩
    rw [RefillsEvicted, acts]
    rcases supervisor_fills run present supervises (absorbs_fills absorbs) with
      ⟨rfl, cause, rfl⟩ | ⟨rfl, rfl⟩
    · exact ⟨outside, sealRotate_absorbs_iff.mp absorbs⟩
    · exact ⟨outside, completeDrainSeal_absorbs_iff.mp absorbs⟩
  · intro refills
    unfold RefillsEvicted at refills
    split at refills
    · rename_i acts
      exact ⟨_, _, _, acts, Or.inl rfl, _, refills.1, sealRotate_absorbs_iff.mpr refills.2⟩
    · rename_i acts
      exact ⟨_, _, _, acts, Or.inr rfl, _, refills.1, completeDrainSeal_absorbs_iff.mpr refills.2⟩
    · exact refills.elim

/-- In every run, no step of the health and the seal supervisor takes a shard
from the pool for a bucket that is outside the window, exactly when none of them
rotates such a bucket while it has a shard to retire, no other active one, and
the pool is not empty. -/
theorem evicted_buckets_absorb_iff_refilled (env : Env) (db : Db) (now : Time) (past : Trace) (system : System)
    (run : Runs env db now past system) :
    (forall event, event ∈ past -> ¬ AbsorbsForEvicted env event) ↔
      forall event, event ∈ past -> ¬ RefillsEvicted env event := by
  have steps : forall event, event ∈ past -> (AbsorbsForEvicted env event ↔ RefillsEvicted env event) := by
    intro event listed
    rcases List.append_of_mem listed with ⟨later, earlier, split⟩
    exact absorbsForEvicted_iff (run.suffix split)
  constructor
  · intro clear event listed refills
    exact clear event listed ((steps event listed).mpr refills)
  · intro clear event listed absorbs
    exact clear event listed ((steps event listed).mp absorbs)

/-- Shards A and B are registered, a write promotes A for the first day, and
after some time the health supervisor finds A silent and rotates its bucket. -/
def rotateAfter (duration : Nat) : List Act :=
  List.flatten [launch 0 (.registerShard 1 .data "a" "" "") 2, launch 1 (.registerShard 2 .data "b" "" "") 2,
    launch 2 (.resolveWrite (.string "1970-01-01")) 10, [.elapse duration], launch 3 .healthTick 2]

/-- The rotations of the two supervisors: the state that they retire, and the bucket. -/
def supervisorRotation : Call -> Op -> Option (State × String)
  | .healthTick, .sealRotate bucketID _ => some (.active, bucketID)
  | .sealTick, .completeDrainSeal bucketID => some (.draining, bucketID)
  | _, _ => none

theorem refillsEvicted_iff (env : Env) (event : Event System Act) :
    RefillsEvicted env event ↔
      Exists fun rotation =>
        rotation ∈ ((resumed event).bind fun acting => supervisorRotation acting.2.1 acting.2.2) ∧
          rotation.2 ∈ evicted env event.state.store ∧ Refills rotation.1 rotation.2 event.state.store.db := by
  unfold RefillsEvicted
  constructor
  · intro refills
    split at refills
    · rename_i acts
      exact ⟨_, Option.bind_eq_some_iff.mpr ⟨_, acts, rfl⟩, refills⟩
    · rename_i acts
      exact ⟨_, Option.bind_eq_some_iff.mpr ⟨_, acts, rfl⟩, refills⟩
    · exact refills.elim
  · rintro ⟨rotation, found, refills⟩
    rcases Option.bind_eq_some_iff.mp found with ⟨⟨index, call, op⟩, acts, rotates⟩
    rw [acts]
    simp only [supervisorRotation] at rotates
    split at rotates
    · cases rotates
      exact refills
    · cases rotates
      exact refills
    · cases rotates

instance (env : Env) : DecidablePred (RefillsEvicted env) := fun event =>
  decidable_of_iff _ (refillsEvicted_iff env event).symm

/-- Within the window nothing is taken from the pool for an evicted bucket. -/
theorem evicted_buckets_absorb_iff_refilled_same_day :
    Exists fun past => Exists fun system => Runs sampleEnv windowDb 0 past system ∧
      forall event, event ∈ past -> ¬ AbsorbsForEvicted sampleEnv event := by
  have passed : replayCheck (machine sampleEnv).step (rotateAfter (120 * 10 ^ 9)) (System.idle windowDb 0)
      (fun past _ => decide (forall event, event ∈ past -> ¬ RefillsEvicted sampleEnv event)) = true := by
    decide +kernel
  rcases replayCheck_run passed with ⟨past, system, run, checked⟩
  exact ⟨past, system, run, (evicted_buckets_absorb_iff_refilled sampleEnv windowDb 0 past system run).mpr
    (of_decide_eq_true checked)⟩

/-- Two days later the rotation spends B on a bucket that has left the window. -/
theorem health_refills_evicted_bucket :
    Exists fun past => Exists fun system => Runs sampleEnv windowDb 0 past system ∧
      Exists fun event => event ∈ past ∧ AbsorbsForEvicted sampleEnv event := by
  have passed : replayCheck (machine sampleEnv).step (rotateAfter (2 * oneDay)) (System.idle windowDb 0)
      (fun past _ => past.any fun event => decide (RefillsEvicted sampleEnv event)) = true := by
    decide +kernel
  rcases replayCheck_run passed with ⟨past, system, run, checked⟩
  rcases List.any_eq_true.mp checked with ⟨event, listed, refills⟩
  rcases List.append_of_mem listed with ⟨later, earlier, split⟩
  exact ⟨past, system, run, event, listed,
    (absorbsForEvicted_iff (run.suffix split)).mpr (of_decide_eq_true refills)⟩

end Control
end Shardman
