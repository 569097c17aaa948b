import Shardman.Control.Issued

namespace Shardman
namespace Control

open Fsm
open Bucket
open Store
open Foundation

/-!
# What a write is given

A successful write to a bucket returns the row that one query gave it.  Either
this is the query for the active shard of the bucket, or it is the query that
fetches a promoted row by its id.  The second one runs after the promotion has
committed, and other calls may have moved the row on by then.

This module follows the row from the queries of a write to its result, and
shows that the second query is the only way for a write to return a row that is
not active in the bucket of its key.
-/

/-! ## From the result back to the database -/

/-- The operation takes an active row out of service. -/
def retires (op : Op) (row : Shard) : Bool :=
  match op with
  | .sealRotate bucketID _ | .beginDrain bucketID => row.bucketID == some bucketID
  | .patchState id newState => row.id == id && canTransition row.role row.state newState
  | _ => false

/-- Every other operation leaves it in service. -/
theorem active_moves {now : Time} {op : Op} {row moved : Shard} {bucketID : String}
    (moves : Moves now op row moved) (active : InState .active bucketID row) (kept : retires op row = false) :
    InState .active bucketID moved := by
  rcases active with ⟨data, bucket, state⟩
  cases moves with
  | keep | stats | seen | readdress => exact ⟨data, bucket, state⟩
  | promote pooled | replaceSealed pooled | replaceDrained pooled =>
      rw [pooled.2.1] at state
      cases state
  | sealActive serves | drain serves =>
      rw [retires, serves.2.1, beq_self_eq_true] at kept
      cases kept
  | sealDrained serves | clean serves =>
      rw [serves.2.2] at state
      cases state
  | ready draining =>
      rw [draining] at state
      cases state
  | recycle cleaning =>
      rw [cleaning] at state
      cases state
  | patch allowed =>
      rw [retires, beq_self_eq_true, allowed] at kept
      cases kept

/-- The row that a write is about to fetch. -/
def fetches (process : Process Op Reply Outcome Call) : Option Nat :=
  match process with
  | ⟨.resolveWrite _, .request (.getShardByID id) _⟩ => some id
  | _ => none

/-- The step takes a row out of service that a write has promoted and is about
to fetch. -/
def RetiresPromoted (event : Event System Act) : Prop :=
  Exists fun process => process ∈ event.state.processes ∧
    Exists fun row => row ∈ event.state.store.db.shards ∧ fetches process = some row.id ∧
      row.state = .active ∧ ((event.state.pending event.action).any fun op => retires op row) = true

instance : DecidablePred RetiresPromoted := fun event =>
  inferInstanceAs (Decidable (Exists fun process => process ∈ event.state.processes ∧
    Exists fun row => row ∈ event.state.store.db.shards ∧ fetches process = some row.id ∧
      row.state = .active ∧ ((event.state.pending event.action).any fun op => retires op row) = true))

/-- The query that fetches a promoted row relies on the row being active. -/
def FetchesActive (call : Call) (done : List (Sigma Reply)) (op : Op) (moment : Moment) : Prop :=
  forall shardKey id bucketID rest, call = .resolveWrite shardKey -> op = .getShardByID id ->
    done = ⟨.promoteStandby bucketID, .ok id⟩ :: rest ->
    Exists fun row => row ∈ moment.db.shards ∧ row.id = id ∧ InState .active bucketID row

/-- Right after a promotion the row is active. -/
theorem promoteStandby_active {env : Env} {moment : Moment} {bucketID : String} {id : Nat}
    (promoted : (perform env (.promoteStandby bucketID) moment).1 = .ok id) :
    Exists fun row => row ∈ (perform env (.promoteStandby bucketID) moment).2.db.shards ∧ row.id = id ∧
      InState .active bucketID row := by
  simp only [perform, commit] at promoted ⊢
  rcases promoteStandby_cases moment.now bucketID moment.db with ⟨_, failed⟩ | ⟨_, _, _, _, _, failed⟩ |
    ⟨spare, written, found, _, outcome, table, _⟩
  · rw [failed] at promoted
    cases promoted
  · rw [failed] at promoted
    cases promoted
  · rw [outcome] at promoted ⊢
    cases promoted
    rcases nextStandby_some found with ⟨member, pooled⟩
    refine ⟨(Rewrite.activate moment.now bucketID).apply spare, ?_, rfl, pooled.1, rfl, rfl⟩
    change _ ∈ written.shards
    rw [table]
    exact mem_tableAt.mpr (Or.inl ⟨spare, member, rfl, rfl⟩)

/-- The row stays active until it is fetched, unless a step retires it. -/
theorem step_fetchesActive {env : Env} {system after : System} {action : Act} {index : Nat} {call : Call}
    {op : Op} {next : Reply op -> Routine Outcome} {done : List (Sigma Reply)}
    (present : system.processes[index]? = some ⟨call, .request op next⟩)
    (taken : (machine env).step system action = some after) (calm : ¬ RetiresPromoted ⟨system, action⟩)
    (relies : FetchesActive call done op system.store) : FetchesActive call done op after.store := by
  intro shardKey id bucketID rest isWrite isFetch told
  rcases relies shardKey id bucketID rest isWrite isFetch told with ⟨row, member, sameID, active⟩
  subst isWrite isFetch
  rcases step_cases taken with ⟨entry, rfl, rfl⟩ | ⟨tick, rfl, rfl⟩ |
    ⟨resumed, owner, performed, following, rfl, found, issued, rfl⟩
  · exact ⟨row, member, sameID, active⟩
  · exact ⟨row, member, sameID, active⟩
  · rcases perform_moved env performed member with ⟨moved, movedMember, moves⟩
    refine ⟨moved, movedMember, moves.keys.1.trans sameID, active_moves moves active ?_⟩
    by_contra retiring
    apply calm
    refine ⟨_, List.mem_of_getElem? present, row, member, ?_, active.2.2, ?_⟩
    · rw [fetches, sameID]
    · rw [issued]
      exact Bool.eq_true_of_not_eq_false retiring

theorem run_fetchesActive {env : Env} {db : Db} {now : Time} {past : Trace} {system : System}
    (run : Runs env db now past system) (calm : forall event, event ∈ past -> ¬ RetiresPromoted event)
    {index : Nat} {call : Call} {op : Op} {next : Reply op -> Routine Outcome}
    (present : system.processes[index]? = some ⟨call, .request op next⟩) :
    FetchesActive call (exchanges (machine env) index past) op system.store := by
  refine run_relies FetchesActive rfl ?_ ?_ run ?_ present
  · intro call op next moment _ shardKey id bucketID rest _ _ told
    cases told
  · intro call done previous op moment shardKey id bucketID rest _ _ told
    rcases List.cons.inj told with ⟨same, _⟩
    rcases Sigma.mk.inj_iff.mp same with ⟨rfl, reply⟩
    have promoted : (perform env (.promoteStandby bucketID) moment).1 = .ok id := eq_of_heq reply
    exact promoteStandby_active promoted
  · intro event member index call op next after done present _ taken relies
    exact step_fetchesActive present taken (calm event member) relies

/-- The row that a write was given was active for the bucket when the query ran. -/
theorem given_active {env : Env} {db : Db} {now : Time} {past : Trace} {system : System}
    (run : Runs env db now past system) (calm : forall event, event ∈ past -> ¬ RetiresPromoted event)
    {index : Nat} {shardKey : Key} {program : Routine Outcome}
    (present : system.processes[index]? = some ⟨.resolveWrite shardKey, program⟩)
    {bucketID : String} {shard : Shard} (given : Given bucketID shard (exchanges (machine env) index past)) :
    Exists fun event => event ∈ past ∧ event.action = .resume index ∧
      shard ∈ event.state.store.db.shards ∧ InState .active bucketID shard := by
  generalize told : exchanges (machine env) index past = done at given
  cases given with
  | active rest =>
      rcases exchanges_cons told with ⟨later, event, earlier, split, resumed, _, reply, _⟩
      rcases scan_head_some reply with ⟨member, active, _⟩
      have listed := Run.mem_of_split split
      exact ⟨event, listed, resumed, member, active⟩
  | promoted id rest =>
      rcases exchanges_cons told with ⟨later, event, earlier, split, resumed, issued, reply, before⟩
      have listed := Run.mem_of_split split
      -- The process under this index has been the same write all along.
      rcases Pool.pending_some issued with ⟨resumedIndex, call, next, action, fetching⟩
      rw [resumed] at action
      cases action
      rcases run_entry run listed fetching with ⟨_, lasting⟩
      rw [present] at lasting
      cases lasting
      have earlierCalm : forall older, older ∈ earlier -> ¬ RetiresPromoted older :=
        fun older member => calm older (Run.mem_of_earlier split member)
      rcases run_fetchesActive (run.suffix split) earlierCalm fetching shardKey id bucketID rest rfl rfl before with
        ⟨row, member, sameID, active⟩
      have fetched : getShardByID event.state.store.db id = some shard := reply
      rw [← sameID, getShardByID_mem member] at fetched
      cases fetched
      exact ⟨event, listed, resumed, member, active⟩

/-- The bucket that a call chose for its key, from the database. -/
theorem chosen_bucket {env : Env} {db : Db} {now : Time} {past : Trace} {system : System}
    (run : Runs env db now past system) {index : Nat} {shardKey : Key} {bucketID : String}
    (chosen : Chosen env.platform shardKey bucketID (exchanges (machine env) index past)) :
    Exists fun config => getConfig system.store.db = .ok config ∧
      Exists fun asked => asked ∈ past ∧ asked.action = .resume index ∧
        asked.state.pending asked.action = some .clock ∧
        Exists fun route => classifyWriteFor env.platform config asked.state.store.now shardKey = some route ∧
          route.kind = .bucket ∧ route.bucketID = bucketID := by
  rcases chosen with ⟨config, instant, route, loaded, told, classified, routed, same⟩
  rcases exchanges_mem loaded with ⟨load, loadListed, _, _, loadReply⟩
  rcases exchanges_mem told with ⟨asked, askedListed, resumed, issued, clock⟩
  have reading : asked.state.store.now = instant := clock
  rw [← reading] at classified
  exact ⟨config, (run_continues run loadListed).config config loadReply, asked, askedListed, resumed, issued,
    route, classified, routed, same⟩

/-- In every run in which no step retires a row between its promotion and the
query of the write that promoted it, every successful write to a bucket returns
a row that was a data row and active in that bucket when the write asked for it,
and the bucket is the one that the key belonged to at the instant that the write
read off the clock. -/
theorem writes_return_active_snapshots (env : Env) (db : Db) (now : Time) (past : Trace) (system : System)
    (run : Runs env db now past system) (calm : forall event, event ∈ past -> ¬ RetiresPromoted event)
    (index : Nat) (shardKey : Key) (result : WriteResult)
    (succeeded : system.processes[index]? = some ⟨.resolveWrite shardKey, .finish (.write (.ok result))⟩)
    (routed : result.routing = .bucket) :
    (Exists fun event => event ∈ past ∧ event.action = .resume index ∧
      Exists fun row => row ∈ event.state.store.db.shards ∧ InState .active result.bucketID row ∧
        result = writeResult env.platform .bucket result.bucketID none row) ∧
    (Exists fun config => getConfig system.store.db = .ok config ∧
      Exists fun asked => asked ∈ past ∧ asked.action = .resume index ∧
        asked.state.pending asked.action = some .clock ∧
        Exists fun route => classifyWriteFor env.platform config asked.state.store.now shardKey = some route ∧
          route.kind = .bucket ∧ route.bucketID = result.bucketID) := by
  cases run_source run succeeded with
  | write source =>
      cases source with
      | error found => cases routed
      | bucket chosen given =>
          rcases given_active run calm succeeded given with ⟨event, listed, resumed, member, active⟩
          exact ⟨⟨event, listed, resumed, _, member, active, rfl⟩, chosen_bucket run chosen⟩

/-! ## A write and a rotation -/

/-- What a successful write returned, with its key. -/
def writeAnswer (system : System) (index : Nat) : Option (Key × WriteResult) :=
  match system.processes[index]? with
  | some ⟨.resolveWrite shardKey, .finish (.write (.ok result))⟩ => some (shardKey, result)
  | _ => none

theorem writeAnswer_some {system : System} {index : Nat} {shardKey : Key} {result : WriteResult}
    (answered : writeAnswer system index = some (shardKey, result)) :
    system.processes[index]? = some ⟨.resolveWrite shardKey, .finish (.write (.ok result))⟩ := by
  unfold writeAnswer at answered
  split at answered
  · rename_i found
    cases answered
    exact found
  · cases answered

/-- A shard is registered, a write promotes it, then some other calls run, and
the write fetches the shard. -/
def fetchAfter (between : List Act) : List Act :=
  List.flatten [launch 0 (.registerShard 1 .data "a" "" "") 2, launch 1 (.resolveWrite (.string "57")) 9,
    between, resumes 1 1]

/-- With nothing in between the write returns the active shard. -/
theorem writes_return_active_snapshots_alone :
    Exists fun past => Exists fun system => Exists fun result : WriteResult =>
      Runs sampleEnv (sampleDb 100) 0 past system ∧
      Exists fun event => event ∈ past ∧ event.action = .resume 1 ∧
        Exists fun row => row ∈ event.state.store.db.shards ∧ InState .active result.bucketID row ∧
          result = writeResult samplePlatform .bucket result.bucketID none row := by
  have passed : replayCheck (machine sampleEnv).step (fetchAfter []) (System.idle (sampleDb 100) 0)
      (fun past system => (writeAnswer system 1).any fun answer =>
        decide ((forall event, event ∈ past -> ¬ RetiresPromoted event) ∧ answer.2.routing = .bucket)) =
      true := by
    decide +kernel
  rcases replayCheck_run passed with ⟨past, system, run, checked⟩
  rcases (Option.any_eq_true _ _).mp checked with ⟨⟨shardKey, result⟩, answered, holds⟩
  rcases of_decide_eq_true holds with ⟨calm, routed⟩
  exact ⟨past, system, result, run,
    (writes_return_active_snapshots sampleEnv (sampleDb 100) 0 past system run calm 1 shardKey result
      (writeAnswer_some answered) routed).1⟩

/-- When an administrator rotates the bucket in between, the write succeeds and
returns a shard that is sealed. -/
theorem write_returns_sealed_shard :
    Exists fun past => Exists fun system => Exists fun shardKey => Exists fun result : WriteResult =>
      Runs sampleEnv (sampleDb 100) 0 past system ∧
      system.processes[1]? = some ⟨.resolveWrite shardKey, .finish (.write (.ok result))⟩ ∧
      result.routing = .bucket ∧ result.state = State.sealed.text ∧
      forall row, InState .active result.bucketID row ->
        result ≠ writeResult samplePlatform .bucket result.bucketID none row := by
  have passed : replayCheck (machine sampleEnv).step
      (fetchAfter (launch 2 (.sealRotate "n5") 1)) (System.idle (sampleDb 100) 0)
      (fun _ system => (writeAnswer system 1).any fun answer =>
        decide (answer.2.routing = .bucket ∧ answer.2.state = State.sealed.text)) = true := by
    decide +kernel
  rcases replayCheck_run passed with ⟨past, system, run, checked⟩
  rcases (Option.any_eq_true _ _).mp checked with ⟨⟨shardKey, result⟩, answered, holds⟩
  rcases of_decide_eq_true holds with ⟨routed, isSealed⟩
  refine ⟨past, system, shardKey, result, run, writeAnswer_some answered, routed, isSealed, ?_⟩
  intro row active same
  have states : result.state = row.state.text := congrArg WriteResult.state same
  rw [isSealed, active.2.2] at states
  exact absurd states (by decide)

end Control
end Shardman
