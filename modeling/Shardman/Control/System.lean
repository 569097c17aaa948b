import Shardman.Control.Resolve
import Shardman.Foundation.Interleaving
import Shardman.Store.LifeCycle

namespace Shardman
namespace Control

open Fsm
open Bucket
open Store
open Foundation

/-!
# The control plane as a system

Three supervisors tick in the background: one seals full shards, one replaces
silent ones and one empties buckets that left the retention window.  Together
with the calls of clients, administrators and agents they are the programs of
one pool over the shared database.  Time passes between operations and never
runs back.
-/

/-! ## Supervisors -/

/-- A draining row may be sealed: its agent reported, or the timeout elapsed. -/
def drainDone (env : Env) (now : Time) (shard : Shard) : Bool :=
  shard.drainReady ||
    match shard.drainStartedAt with
    | some started => decide (env.drainTimeout <= now - started)
    | none => false

/-- Seal the draining rows of a list that are done.  Failures are only logged. -/
def completeDrains (env : Env) (now : Time) : List Shard -> Routine Unit
  | [] => pure ()
  | shard :: rest => do
      match shard.bucketID with
      | none => completeDrains env now rest
      | some bucketID =>
          if drainDone env now shard then
            let _ <- ask (.completeDrainSeal bucketID)
            completeDrains env now rest
          else
            completeDrains env now rest

def beginDrains : List Shard -> Routine Unit
  | [] => pure ()
  | shard :: rest => do
      match shard.bucketID with
      | none => beginDrains rest
      | some bucketID =>
          let _ <- ask (.beginDrain bucketID)
          beginDrains rest

/-- One tick of the seal supervisor. -/
def sealTick (env : Env) : Routine Unit := do
  let loaded : Except StoreError ClusterConfig <- ask .getConfig
  match loaded with
  | .error _ => pure ()
  | .ok config =>
      let draining : List Shard <- ask .shardsDraining
      let now : Time <- ask .clock
      completeDrains env now draining
      let need : List Shard <- ask (.shardsNeedingSeal config.shardMaxBytes)
      beginDrains need
      let _ <- ask .countStandbyPool
      pure ()

/-- Rotate the buckets of a list of silent rows, each because of its row. -/
def failoverAll : List Shard -> Routine Unit
  | [] => pure ()
  | shard :: rest => do
      match shard.bucketID with
      | none => failoverAll rest
      | some bucketID =>
          let _ <- ask (.sealRotate bucketID (.failover shard))
          failoverAll rest

/-- One tick of the health supervisor. -/
def healthTick : Routine Unit := do
  let stale : List Shard <- ask .listStaleActives
  failoverAll stale

def cleanBuckets : List String -> Routine Unit
  | [] => pure ()
  | bucketID :: rest => do
      let active : Bool <- ask (.hasActiveInBucket bucketID)
      if active then
        cleanBuckets rest
      else
        let _ <- ask (.markBucketCleaning bucketID)
        cleanBuckets rest

/-- One tick of the retention supervisor. -/
def retentionTick : Routine (Except ResolveError Unit) := do
  let loaded : Except StoreError ClusterConfig <- ask .getConfig
  match loaded with
  | .error failure => pure (.error (.store failure))
  | .ok config =>
      match config.bucketAxis, config.retentionDepth with
      | .time, some depth =>
          let now : Time <- ask .clock
          let known : List String <- ask .distinctBucketIDs
          match bucketsOutsideRetention config.bucketSpec now depth known with
          | none => pure (.error .routing)
          | some evict =>
              cleanBuckets evict
              pure (.ok ())
      | _, _ => pure (.ok ())

/-! ## Calls of administrators and agents -/

def registerShard (uuid : UUID) (role : Role) (dsn advertiseURL startupState : String) :
    Routine (Except StoreError Shard) := do
  let registered : Except StoreError Nat <-
    ask (.registerShard uuid role dsn advertiseURL startupState)
  match registered with
  | .error failure => pure (.error failure)
  | .ok id =>
      let found : Option Shard <- ask (.getShardByID id)
      match found with
      | some shard => pure (.ok shard)
      | none => pure (.error .notFound)

/-- The answer to a size report carries the state of the shard. -/
def reportStats (uuid : UUID) (reportedBytes : Int) : Routine (Except StoreError (Option State)) := do
  let updated : Except StoreError Unit <- ask (.updateStats uuid reportedBytes)
  match updated with
  | .error failure => pure (.error failure)
  | .ok () =>
      let found : Option Shard <- ask (.getShardByUUID uuid)
      pure (.ok (found.map Shard.state))

/-! ## The pool -/

inductive Call
  | resolveWrite (shardKey : Key)
  | resolveRead (shardKey : Key)
  | sealTick
  | healthTick
  | retentionTick
  | bootstrap (config : ClusterConfig)
  | registerShard (uuid : UUID) (role : Role) (dsn advertiseURL startupState : String)
  | sealRotate (bucketID : String)
  | patchState (id : Nat) (newState : State)
  | setLastSeenAt (uuid : UUID) (instant : Time)
  | reportStats (uuid : UUID) (reportedBytes : Int)
  | reportDrainComplete (uuid : UUID)
  | reportCleaned (uuid : UUID)

/-- The call of an administrator that sets a state by hand. -/
def isPatchCall : Call -> Bool
  | .patchState .. => true
  | _ => false

inductive Outcome
  | write (result : Except ResolveError WriteResult)
  | read (result : Except ResolveError ReadResult)
  | ticked
  | retained (result : Except ResolveError Unit)
  | registered (result : Except StoreError Shard)
  | stats (result : Except StoreError (Option State))
  | acknowledged (result : Except StoreError Unit)

def body (env : Env) : Call -> Routine Outcome
  | .resolveWrite shardKey => do return .write (<- resolveWrite env.platform shardKey)
  | .resolveRead shardKey => do return .read (<- resolveRead env.platform shardKey)
  | .sealTick => do sealTick env; return .ticked
  | .healthTick => do healthTick; return .ticked
  | .retentionTick => do return .retained (<- retentionTick)
  | .registerShard uuid role dsn advertiseURL startupState => do
      return .registered (<- registerShard uuid role dsn advertiseURL startupState)
  | .reportStats uuid reportedBytes => do return .stats (<- reportStats uuid reportedBytes)
  | .bootstrap config => do return .acknowledged (<- ask (.bootstrap config))
  | .sealRotate bucketID => do return .acknowledged (<- ask (.sealRotate bucketID .admin))
  | .patchState id newState => do return .acknowledged (<- ask (.patchState id newState))
  | .setLastSeenAt uuid instant => do return .acknowledged (<- ask (.setLastSeenAt uuid instant))
  | .reportDrainComplete uuid => do return .acknowledged (<- ask (.markDrainReady uuid))
  | .reportCleaned uuid => do return .acknowledged (<- ask (.finishCleaning uuid))

/-- Time passes by some number of nanoseconds. -/
def elapse (duration : Nat) (moment : Moment) : Moment :=
  { moment with now := moment.now + duration }

abbrev System := Pool Op Reply Outcome Moment Call

abbrev Act := PoolAction Call Nat

def machine (env : Env) : Machine Op Reply Outcome Moment Call Nat where
  perform := perform env
  body := body env
  elapse := elapse

def System.idle (db : Db) (now : Time) : System := ⟨⟨db, now⟩, []⟩

abbrev Trace := List (Event System Act)

/-- Runs of the control plane from a database with no call in progress. -/
def Runs (env : Env) (db : Db) (now : Time) (past : Trace) (system : System) : Prop :=
  Run (machine env).step (System.idle db now) past system

/-- All calls of a run are of a given kind. -/
def startsOnly (kind : Call -> Bool) (past : Trace) : Bool :=
  past.all fun event =>
    match event.action with
    | .start call => kind call
    | _ => true

/-- The process that an event resumes: its index, its call and the operation
that it performs. -/
def resumed (event : Event System Act) : Option (Nat × Call × Op) :=
  match event.action with
  | .resume index =>
      match event.state.processes[index]? with
      | some ⟨call, .request op _⟩ => some (index, call, op)
      | _ => none
  | _ => none

theorem resumed_some {event : Event System Act} {index : Nat} {call : Call} {op : Op}
    (acts : resumed event = some (index, call, op)) :
    event.action = .resume index ∧
      Exists fun next => event.state.processes[index]? = some ⟨call, .request op next⟩ := by
  unfold resumed at acts
  split at acts
  · rename_i action
    split at acts
    · rename_i next found
      cases acts
      exact ⟨action, next, found⟩
    · cases acts
  · cases acts

/-! ## Runs as histories of the store -/

section Stores

variable {env : Env} {db : Db} {now : Time} {past : Trace} {system after : System} {action : Act}

/-- Seen from the store, a step is a step of a history or none. -/
theorem step_advances (taken : (machine env).step system action = some after) :
    after.store = system.store ∨ Exists fun act => advance env system.store act = some after.store := by
  rcases step_cases taken with ⟨entry, rfl, rfl⟩ | ⟨tick, rfl, rfl⟩ |
    ⟨index, entry, op, next, rfl, found, issued, rfl⟩
  · exact Or.inl rfl
  · exact Or.inr ⟨.elapse tick, rfl⟩
  · exact Or.inr ⟨.perform op, rfl⟩

/-- What holds in every history of the store holds in every run of the control
plane. -/
theorem runs_history (run : Runs env db now past system) :
    Exists fun history => Histories env ⟨db, now⟩ history system.store := by
  induction run with
  | start => exact ⟨[], .start⟩
  | next earlier taken inductionHypothesis =>
      rcases inductionHypothesis with ⟨history, before⟩
      rcases step_advances taken with same | ⟨act, advanced⟩
      · rw [same]
        exact ⟨history, before⟩
      · exact ⟨_, before.next advanced⟩

theorem step_continues (taken : (machine env).step system action = some after) :
    Continues system.store after.store := by
  rcases step_advances taken with same | ⟨act, advanced⟩
  · rw [same]
    exact continues_refl _
  · exact advance_continues advanced

/-- A later state of a run continues every earlier one. -/
theorem run_continues (run : Runs env db now past system) {event : Event System Act} (member : event ∈ past) :
    Continues event.state.store system.store := by
  have related := Run.states_related (fun earlier later : System => Continues earlier.store later.store)
    (fun _ _ _ => continues_trans _ _ _) (fun _ _ _ => step_continues) run
  exact (List.pairwise_cons.mp related).1 event.state (List.mem_map.mpr ⟨event, member, rfl⟩)

end Stores

/-! ## A small cluster to run the model on -/

/-- A configured cluster without shards. -/
def sampleDb (shardMaxBytes : Int) : Db :=
  { Db.fresh with cluster := some ⟨sampleConfig shardMaxBytes, 1⟩ }

/-- Resume one process several times. -/
def resumes (index count : Nat) : List Act := List.replicate count (.resume index)

/-- Start a call, which becomes the process of the given index, and resume it
several times. -/
def launch (index : Nat) (call : Call) (count : Nat) : List Act := .start call :: resumes index count

end Control
end Shardman
