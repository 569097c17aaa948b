import Shardman.Control.Drains
import Shardman.Control.ReadHistory
import Shardman.Control.ReadSet
import Shardman.Control.Snapshots

namespace Shardman
namespace Control

open Fsm
open Bucket
open Store
open Foundation

/-!
# A healthy shard keeps its bucket

The active shard of a bucket is taken out of service by a rotation, by the begin
of a drain, or by hand.  Rotations and drains are issued on the strength of a
query that was answered earlier, and a call never checks again.  A shard can
therefore be retired for what its predecessor in the bucket did.  Such a delay
does no harm where the shard was in service from the beginning: as long as it
reports in time and stays below its limit, no query ever shows a reason.

So the shard serves the bucket for as long as it is healthy and no administrator
interferes.  Writes to the bucket go to it and reads of the bucket cover it.
The bucket may have left the retention window long ago: the retention supervisor
passes over buckets with a shard in service.
-/

/-! ## Healthy shards give no reason -/

/-- The shard is the active one of the bucket. -/
def HoldsBucket (id : Nat) (bucketID : String) (db : Db) : Prop :=
  Exists fun row => row ∈ db.shards ∧ row.id = id ∧ InState .active bucketID row

/-- The shard reports in time, and what it reports is below its limit. -/
def Healthy (env : Env) (id : Nat) (moment : Moment) : Prop :=
  forall row, row ∈ moment.db.shards -> row.id = id -> Fresh env moment.now row ∧ ¬ AtLimit moment.db row

instance (id : Nat) (bucketID : String) : DecidablePred (HoldsBucket id bucketID) := fun db =>
  inferInstanceAs (Decidable (Exists fun row => row ∈ db.shards ∧ row.id = id ∧ InState .active bucketID row))

instance (env : Env) (id : Nat) : DecidablePred (Healthy env id) := fun moment =>
  inferInstanceAs (Decidable (forall row, row ∈ moment.db.shards -> row.id = id ->
    Fresh env moment.now row ∧ ¬ AtLimit moment.db row))

/-- Every call but those by which an administrator takes the shard out of its
bucket. -/
def retains (id : Nat) (bucketID : String) : Call -> Bool
  | .sealRotate rotated => rotated != bucketID
  | .patchState patched _ => patched != id
  | _ => true

/-- The cluster is configured, the shard is healthy in every state that the run
has left, and no administrator takes it out of its bucket. -/
structure LeftInService (env : Env) (id : Nat) (bucketID : String) (config : ClusterConfig) (db : Db) (past : Trace) :
    Prop where
  configured : getConfig db = .ok config
  healthy : forall event, event ∈ past -> Healthy env id event.state.store
  retained : startsOnly (retains id bucketID) past = true

section Reasons

variable {env : Env} {moment : Moment} {id : Nat} {bucketID : String} {row : Shard}

/-- The active row of the bucket is the healthy one. -/
theorem holder_healthy (holds : HoldsBucket id bucketID moment.db) (healthy : Healthy env id moment)
    (member : row ∈ moment.db.shards) (active : InState .active bucketID row) :
    row.id = id ∧ Fresh env moment.now row ∧ ¬ AtLimit moment.db row := by
  rcases holds with ⟨holder, holderMember, named, serves⟩
  have same : row = holder := active_unique member holderMember active serves
  subst same
  exact ⟨named, healthy row member named⟩

theorem holder_not_stale (holds : HoldsBucket id bucketID moment.db) (healthy : Healthy env id moment)
    (found : staleActiveForBucket env moment.now moment.db bucketID = some row) : False := by
  rcases scan_head_some found with ⟨member, active, stale⟩
  exact stale (holder_healthy holds healthy member active).2.1

theorem holder_not_listed (holds : HoldsBucket id bucketID moment.db) (healthy : Healthy env id moment)
    (listed : row ∈ listStaleActives env moment.now moment.db) (bucket : row.bucketID = some bucketID) : False := by
  rcases List.mem_filter.mp listed with ⟨member, selected⟩
  rcases of_decide_eq_true selected with ⟨data, active, _, stale⟩
  exact stale (holder_healthy holds healthy member ⟨data, bucket, active⟩).2.1

theorem holder_not_full {config : ClusterConfig} (holds : HoldsBucket id bucketID moment.db)
    (healthy : Healthy env id moment) (loaded : getConfig moment.db = .ok config)
    (listed : row ∈ shardsNeedingSeal env moment.db config.shardMaxBytes) (bucket : row.bucketID = some bucketID) :
    False := by
  rcases List.mem_filter.mp listed with ⟨scanned, full⟩
  rcases mem_scan.mp scanned with ⟨member, data, active⟩
  apply (holder_healthy holds healthy member ⟨data, bucket, active⟩).2.2
  rw [AtLimit, loaded]
  exact of_decide_eq_true full

end Reasons

section Runs

variable {env : Env} {db : Db} {now : Time} {past : Trace} {system after : System} {action : Act} {index : Nat}
variable {id : Nat} {bucketID : String} {config : ClusterConfig}

theorem LeftInService.tail {event : Event System Act}
    (inService : LeftInService env id bucketID config db (event :: past)) :
    LeftInService env id bucketID config db past where
  configured := inService.configured
  healthy older member := inService.healthy older (List.mem_cons_of_mem _ member)
  retained := (Bool.and_eq_true_iff.mp inService.retained).2

theorem run_config (run : Runs env db now past system) (configured : getConfig db = .ok config) :
    getConfig system.store.db = .ok config :=
  Run.invariant (fun system : System => getConfig system.store.db = .ok config) (fun _ _ => True) configured
    (fun _ _ _ loaded _ taken => (step_continues taken).config config loaded) run fun _ _ => trivial

/-- While the shard has held the bucket, no call has been given a reason to
retire it. -/
theorem unretired (run : Runs env db now past system) (inService : LeftInService env id bucketID config db past)
    (held : forall event, event ∈ past -> HoldsBucket id bucketID event.state.store.db) {call : Call} {op : Op}
    {next : Reply op -> Routine Outcome} (present : system.processes[index]? = some ⟨call, .request op next⟩)
    {row : Shard} (named : row.id = id) (active : InState .active bucketID row) : retires op row = false := by
  have reason := run_grounds run present
  have retained : retains id bucketID call = true := by
    rcases run_started rfl run present with ⟨event, member, started⟩
    have kept := List.all_eq_true.mp inService.retained event member
    rw [started] at kept
    exact kept
  cases op with
  | sealRotate rotated cause =>
      rw [retires, active.2.1, beq_eq_false_iff_ne]
      intro same
      cases same
      cases cause with
      | admin =>
          cases reason
          exact bne_iff_ne.mp retained rfl
      | failover stale =>
          -- Either a client has found the shard silent, or the health supervisor has listed it.
          rcases reason with ⟨_, found⟩ | ⟨_, silent, told, listed, bucket⟩
          · rcases exchanges_mem found with ⟨event, member, _, _, reply⟩
            exact holder_not_stale (held event member) (inService.healthy event member) reply
          · rcases exchanges_mem told with ⟨event, member, _, _, reply⟩
            have shown : listStaleActives env event.state.store.now event.state.store.db = silent := reply
            rw [← shown] at listed
            exact holder_not_listed (held event member) (inService.healthy event member) listed bucket
  | beginDrain drained =>
      rw [retires, active.2.1, beq_eq_false_iff_ne]
      intro same
      cases same
      rcases reason with ⟨_, limits, need, loaded, told, shown, listed, bucket⟩
      have known : limits = config := by
        rcases exchanges_mem loaded with ⟨event, member, _, _, reply⟩
        rcases List.append_of_mem member with ⟨later, earlier, split⟩
        have read : getConfig event.state.store.db = .ok limits := reply
        rw [run_config (run.suffix split) inService.configured] at read
        cases read
        rfl
      subst known
      rcases exchanges_mem told with ⟨event, member, _, _, reply⟩
      rcases List.append_of_mem member with ⟨later, earlier, split⟩
      have listing : shardsNeedingSeal env event.state.store.db limits.shardMaxBytes = need := reply
      rw [← listing] at listed
      exact holder_not_full (held event member) (inService.healthy event member)
        (run_config (run.suffix split) inService.configured) listed bucket
  | patchState patched newState =>
      cases reason
      rw [retires, named, Bool.and_eq_false_iff, beq_eq_false_iff_ne]
      exact Or.inl (Ne.symm (bne_iff_ne.mp retained))
  | _ => rfl

theorem step_holdsBucket (run : Runs env db now past system) (inService : LeftInService env id bucketID config db past)
    (held : forall event, event ∈ past -> HoldsBucket id bucketID event.state.store.db)
    (holds : HoldsBucket id bucketID system.store.db) (taken : (machine env).step system action = some after) :
    HoldsBucket id bucketID after.store.db := by
  rcases step_cases taken with ⟨call, rfl, rfl⟩ | ⟨duration, rfl, rfl⟩ |
    ⟨index, call, op, next, rfl, found, issued, rfl⟩
  · exact holds
  · exact holds
  · rcases holds with ⟨row, member, named, active⟩
    rcases perform_moved env op member with ⟨moved, movedMember, moves⟩
    exact ⟨moved, movedMember, moves.keys.1.trans named,
      active_moves moves active (unretired run inService held found named active)⟩

/-- The shard has held the bucket all along. -/
theorem run_holdsBucket (run : Runs env db now past system) (inService : LeftInService env id bucketID config db past)
    (initially : HoldsBucket id bucketID db) :
    Run.Throughout (fun system : System => HoldsBucket id bucketID system.store.db) past system := by
  induction run with
  | start => exact ⟨fun _ absent => absurd absent List.not_mem_nil, initially⟩
  | next earlier taken inductionHypothesis =>
      have before := inductionHypothesis inService.tail
      exact Run.throughout_cons.mpr ⟨before, step_holdsBucket earlier inService.tail before.1 before.2 taken⟩

/-- The row that a write is given for the bucket is the one of the shard. -/
theorem given_holder (held : forall event, event ∈ past -> HoldsBucket id bucketID event.state.store.db) {shard : Shard}
    (given : Given bucketID shard (exchanges (machine env) index past)) : shard.id = id := by
  generalize told : exchanges (machine env) index past = done at given
  cases given with
  | active rest =>
      rcases exchanges_cons told with ⟨later, event, earlier, split, _, _, reply, _⟩
      rcases scan_head_some reply with ⟨member, active, _⟩
      rcases held event (Run.mem_of_split split) with ⟨holder, holderMember, named, serves⟩
      rw [active_unique member holderMember active serves]
      exact named
  | promoted promotedID rest =>
      -- The bucket was served when the promotion ran, so it could only name the shard that serves it.
      rcases exchanges_cons told with ⟨later, fetch, earlier, split, _, _, fetched, before⟩
      rcases exchanges_cons before with ⟨between, promotion, first, earlierSplit, _, _, promoted, _⟩
      have listed : promotion ∈ past := Run.mem_of_earlier split (Run.mem_of_split earlierSplit)
      rcases promoteStandby_active promoted with ⟨row, member, sameID, active⟩
      rcases held promotion listed with ⟨holder, holderMember, named, serves⟩
      rcases perform_moved env (.promoteStandby bucketID) holderMember with ⟨moved, movedMember, moves⟩
      have isHolder : row = moved := active_unique member movedMember active (active_moves moves serves rfl)
      have found : getShardByID fetch.state.store.db promotedID = some shard := fetched
      have chosen := List.find?_some found
      rw [of_decide_eq_true chosen, ← sameID, isHolder, moves.keys.1, named]

/-- A write to the bucket that has been answered was given the row it names. -/
theorem write_given (run : Runs env db now past system) {shardKey : Key} {result : WriteResult}
    (answered : system.processes[index]? = some ⟨.resolveWrite shardKey, .finish (.write (.ok result))⟩)
    (routed : result.routing = .bucket) : Exists fun shard => result.shardID = shard.id ∧
      Given result.bucketID shard (exchanges (machine env) index past) := by
  cases run_source run answered with
  | write source =>
      cases source with
      | error found => cases routed
      | bucket chosen given => exact ⟨_, rfl, given⟩

/-- The shard was in the read set that a read of the bucket asked for. -/
theorem read_covers_holder (run : Runs env db now past system)
    (held : forall event, event ∈ past -> HoldsBucket id bucketID event.state.store.db)
    (healthy : forall event, event ∈ past -> Healthy env id event.state.store) {shardKey : Key} {result : ReadResult}
    (answered : system.processes[index]? = some ⟨.resolveRead shardKey, .finish (.read (.ok result))⟩)
    (routed : result.routing = .bucket) (bucket : result.bucketID = bucketID) :
    Exists fun shard => shard ∈ result.shards ∧ shard.shardID = id := by
  rcases run_readSet run answered routed with ⟨rows, told, listed⟩
  rcases exchanges_mem told with ⟨event, visited, _, _, reply⟩
  have query : shardsForBucketRead env event.state.store.now event.state.store.db result.bucketID = rows := reply
  rcases held event visited with ⟨holder, member, named, serves⟩
  have fresh := (healthy event visited holder member named).1
  rw [← query, bucket] at listed
  refine ⟨readShard env.platform holder, listed holder (List.mem_filter.mpr ⟨member, ?_⟩), named⟩
  exact decide_eq_true ⟨serves.1, serves.2.1, Or.inr ⟨serves.2.2, fresh⟩⟩

end Runs

/-- The shard of the bucket n5 reports, all supervisors run, and half a minute
later it reports again; then another shard is registered, and the bucket is
written and read. -/
def steadyService : List Act :=
  List.flatten [launch 0 (.reportStats 1 50) 2, launch 1 .sealTick 5, launch 2 .healthTick 1, launch 3 .retentionTick 1,
    [.elapse (30 * 10 ^ 9)], launch 4 (.reportStats 1 60) 2, launch 5 (.registerShard 3 .data "c" "" "") 2,
    launch 6 (.resolveWrite (.string "57")) 3, launch 7 (.resolveRead (.string "58")) 3]

end Control
end Shardman
