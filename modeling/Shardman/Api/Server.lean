import Shardman.Api.Handlers
import Shardman.Watch.Server

namespace Shardman
namespace Api

open Fsm
open Bucket
open Store
open Control
open Client
open Foundation

/-!
# The server as a whole

One process of the server holds the broadcaster and the streams of the topology
service, and runs a handler for every request next to its supervisors.  Every
handler may stop after any operation while others go on.  A handler that
notifies waits for the lock of the broadcaster, and keeps it until all
subscribers have been served.

Two smaller models are contained in this one.  Seen from the streams, the server
is the one of `Shardman.Watch`, whose database is changed by the handlers.
Seen from the store, it is the control plane: each request that is not refused
is one of its calls, and its answer is a translation of the outcome of the call.
-/

/-! ## Steps -/

/-- What the topology service and the clock do by themselves. -/
def isSignal : Watch.Act -> Bool
  | .store (.elapse _) => true
  | .deliver _ | .watch _ | .query _ | .send _ | .receive _ | .fail _ | .unsubscribe _ | .get | .answer _ => true
  | .store _ | .readVersion | .notify _ | .release => false

/-- The place of a version among those that wait to be notified. -/
def noticePlace (node : Watch.Server) (version : Nat) : Nat := node.notices.idxOf version

def performOp (env : Env) (op : Op ⊕ ServerOp) (node : Watch.Server) : BothReply Reply ServerReply op × Watch.Server :=
  match op with
  | .inl op => ((perform env op node.moment).1, { node with moment := (perform env op node.moment).2 })
  | .inr .readVersion =>
      match getTopologyVersion node.moment.db with
      | .ok version => (.ok version, { node with notices := version :: node.notices })
      | .error failure => (.error failure, node)
  | .inr (.notify version) => ((), (Watch.step env node (.notify (noticePlace node version))).getD node)
  | .inr .release => ((), (Watch.step env node .release).getD node)

def signal (env : Env) (act : Watch.Act) (node : Watch.Server) : Watch.Server :=
  if isSignal act then (Watch.step env node act).getD node else node

def serverMachine (env : Env) (settings : Settings) :
    Machine (Op ⊕ ServerOp) (BothReply Reply ServerReply) Answer Watch.Server Task Watch.Act where
  perform := performOp env
  body := taskBody env settings
  elapse := signal env

abbrev ServerPool := Pool (Op ⊕ ServerOp) (BothReply Reply ServerReply) Answer Watch.Server Task

abbrev ServerAct := PoolAction Task Watch.Act

abbrev ServerPast := List (Event ServerPool ServerAct)

/-- An operation of a handler with the reply that it was given. -/
abbrev Exchange := Sigma (BothReply Reply ServerReply)

/-- A handler waits for the lock, and with the lock for the subscribers. -/
def ready (env : Env) (pool : ServerPool) (action : ServerAct) : Bool :=
  match action with
  | .start _ => true
  | .elapse act => isSignal act && (Watch.step env pool.store act).isSome
  | .resume _ =>
      match pool.pending action with
      | some (.inr (.notify version)) => (Watch.step env pool.store (.notify (noticePlace pool.store version))).isSome
      | some (.inr .release) => (Watch.step env pool.store .release).isSome
      | _ => true

def serverStep (env : Env) (settings : Settings) : ServerPool -> ServerAct -> Option ServerPool :=
  guarded (ready env) (serverMachine env settings).step

/-- The runs of a server that starts on some database. -/
def ServerRuns (env : Env) (settings : Settings) (start : Moment) (past : ServerPast) (pool : ServerPool) : Prop :=
  Run (serverStep env settings) ⟨Watch.newServer start, []⟩ past pool

/-! ## Seen from the streams -/

/-- The step of the topology server that an event is. -/
def watchAct (event : Event ServerPool ServerAct) : Option Watch.Act :=
  match event.action with
  | .start _ => none
  | .elapse act => some act
  | .resume _ =>
      match event.state.pending event.action with
      | some (.inl op) => some (.store (.perform op))
      | some (.inr .readVersion) =>
          match getTopologyVersion event.state.store.moment.db with
          | .ok _ => some .readVersion
          | .error _ => none
      | some (.inr (.notify version)) => some (.notify (noticePlace event.state.store version))
      | some (.inr .release) => some .release
      | none => none

def watchEvent (event : Event ServerPool ServerAct) : Option (Event Watch.Server Watch.Act) :=
  (watchAct event).map fun act => ⟨event.state.store, act⟩

def watched (past : ServerPast) : Watch.Past := past.filterMap watchEvent

/-- The topology server takes a step, or stays as it is. -/
def WatchMoves (env : Env) (node next : Watch.Server) : Option Watch.Act -> Prop
  | some act => Watch.step env node act = some next
  | none => next = node

section Steps

variable {env : Env} {settings : Settings} {start : Moment} {past : ServerPast} {pool after : ServerPool}
variable {action : ServerAct}

theorem isSome_getD {found : Option Watch.Server} (node : Watch.Server) (present : found.isSome = true) :
    found = some (found.getD node) := by
  rcases Option.isSome_iff_exists.mp present with ⟨next, rfl⟩
  rfl

/-- Where an event is a step of the topology server, it takes that step, and
elsewhere it leaves the topology server alone. -/
theorem step_watched (taken : serverStep env settings pool action = some after) :
    WatchMoves env pool.store after.store (watchAct ⟨pool, action⟩) := by
  rcases guarded_some taken with ⟨admitted, stepped⟩
  rcases step_cases stepped with ⟨task, rfl, rfl⟩ | ⟨act, rfl, rfl⟩ | ⟨index, task, op, next, rfl, found, issued, rfl⟩
  · rfl
  · rcases Bool.and_eq_true_iff.mp admitted with ⟨isSignal, present⟩
    change Watch.step env pool.store act = some (signal env act pool.store)
    rw [signal, if_pos isSignal]
    exact isSome_getD pool.store present
  · simp only [ready, issued] at admitted
    simp only [watchAct, issued, serverMachine, WatchMoves]
    cases op with
    | inl op => rfl
    | inr op =>
        cases op with
        | notify version => exact isSome_getD pool.store admitted
        | release => exact isSome_getD pool.store admitted
        | readVersion =>
            simp only [performOp]
            cases read : getTopologyVersion pool.store.moment.db with
            | error failure => rfl
            | ok version =>
                simp only [Watch.step, read]

/-- Every run of the server is a run of the topology server. -/
theorem runs_watched (run : ServerRuns env settings start past pool) :
    Watch.Serves env start (watched past) pool.store := by
  induction run with
  | start => exact .start
  | @next past pool after action earlier taken inductionHypothesis =>
      have stepped := step_watched taken
      cases seen : watchAct ⟨pool, action⟩ with
      | none =>
          rw [seen] at stepped
          have unseen : watchEvent ⟨pool, action⟩ = none := by
            rw [watchEvent, seen, Option.map_none]
          change after.store = pool.store at stepped
          rw [watched, List.filterMap_cons_none unseen, stepped]
          exact inductionHypothesis
      | some act =>
          rw [seen] at stepped
          have event : watchEvent ⟨pool, action⟩ = some ⟨pool.store, act⟩ := by
            rw [watchEvent, seen, Option.map_some]
          rw [watched, List.filterMap_cons_some event]
          exact inductionHypothesis.next stepped

end Steps

/-! ## Seen from the store -/

/-- The call that a request with the right key stands for. -/
def keyedCall (platform : Platform) (settings : Settings) : KeyedRpc -> Option Call
  | .bootstrap request => (acceptedConfig request).toOption.map .bootstrap
  | .listShards => none
  | .registerShard shardUUID role dsn advertiseURL startupState =>
      (platform.parseUUID shardUUID).map fun uuid => .registerShard uuid (roleOfText role) dsn advertiseURL startupState
  | .sealRotate bucketID => some (.sealRotate bucketID)
  | .patchShardState shardID state =>
      if shardID.toInt < 0 then none else (stateOfText state).map (.patchState shardID.toInt.toNat)
  | .retentionTick => if settings.retentionConfigured then some .retentionTick else none
  | .reportStats shardUUID reportedBytes =>
      (platform.parseUUID shardUUID).map fun uuid => .reportStats uuid reportedBytes.toInt
  | .reportCleaned shardUUID => (platform.parseUUID shardUUID).map .reportCleaned
  | .reportDrainComplete shardUUID => (platform.parseUUID shardUUID).map .reportDrainComplete

def hasKey (settings : Settings) (metadata : Metadata) : Bool := (requireKey settings metadata).isOk

/-- The call of the control plane that a task carries out, if there is one. -/
def calledBy (platform : Platform) (settings : Settings) : Task -> Option Call
  | .resolve (.write shardKey) => (valueToAny platform shardKey).map .resolveWrite
  | .resolve (.read shardKey) => (valueToAny platform shardKey).map .resolveRead
  | .resolve (.listBucketShards _) => none
  | .keyed metadata request => if hasKey settings metadata then keyedCall platform settings request else none
  | .sealTick => some .sealTick
  | .healthTick => some .healthTick
  | .retentionTick => some .retentionTick
  | .refreshMetrics => none

/-- How the outcome of a call is answered. -/
inductive Answers (platform : Platform) : Task -> Outcome -> Answer -> Prop
  | write {shardKey : Option WireValue} {result : Except ResolveError WriteResult} :
      Answers platform (.resolve (.write shardKey)) (.write result) (writeAnswer result)
  | read {shardKey : Option WireValue} {result : Except ResolveError ReadResult} :
      Answers platform (.resolve (.read shardKey)) (.read result) (readAnswer result)
  | bootstrap {metadata : Metadata} {request : BootstrapRequest} {config : ClusterConfig}
      {result : Except StoreError Unit} (accepted : acceptedConfig request = .ok config) :
      Answers platform (.keyed metadata (.bootstrap request)) (.acknowledged result) (bootstrapAnswer config result)
  | registerShard {metadata : Metadata} {shardUUID role dsn advertiseURL startupState : String}
      {result : Except StoreError Shard} :
      Answers platform (.keyed metadata (.registerShard shardUUID role dsn advertiseURL startupState))
        (.registered result) (registerAnswer platform result)
  | sealRotate {metadata : Metadata} {bucketID : String} {result : Except StoreError Unit} :
      Answers platform (.keyed metadata (.sealRotate bucketID)) (.acknowledged result)
        (sealRotateAnswer bucketID result)
  | patchShardState {metadata : Metadata} {shardID : Int64} {state : String} {result : Except StoreError Unit} :
      Answers platform (.keyed metadata (.patchShardState shardID state)) (.acknowledged result) (patchAnswer result)
  | retentionTick {metadata : Metadata} {result : Except ResolveError Unit} :
      Answers platform (.keyed metadata .retentionTick) (.retained result) (retentionAnswer result)
  | reportStats {metadata : Metadata} {shardUUID : String} {reportedBytes : Int64}
      {result : Except StoreError (Option State)} :
      Answers platform (.keyed metadata (.reportStats shardUUID reportedBytes)) (.stats result) (statsAnswer result)
  | reportCleaned {metadata : Metadata} {shardUUID : String} {result : Except StoreError Unit} :
      Answers platform (.keyed metadata (.reportCleaned shardUUID)) (.acknowledged result) (cleanedAnswer result)
  | reportDrainComplete {metadata : Metadata} {shardUUID : String} {result : Except StoreError Unit} :
      Answers platform (.keyed metadata (.reportDrainComplete shardUUID)) (.acknowledged result)
        (drainCompleteAnswer result)
  | sealSupervisor : Answers platform .sealTick .ticked .ticked
  | healthSupervisor : Answers platform .healthTick .ticked .ticked
  | retentionSupervisor {result : Except ResolveError Unit} : Answers platform .retentionTick (.retained result) .ticked

/-- The requests that change the topology. -/
def announces : Task -> Bool
  | .keyed _ (.bootstrap _) | .keyed _ (.registerShard ..) | .keyed _ (.sealRotate _) | .keyed _ (.patchShardState ..)
  | .keyed _ .retentionTick | .keyed _ (.reportCleaned _) => true
  | _ => false

/-- How an answer names a shard. -/
def nameOf (platform : Platform) (row : Shard) : Nat × String := (row.id, platform.uuidString row.shardUUID)

/-- The names in an answer. -/
def namedShards : Answer -> List (Nat × String)
  | .response (.write message) => [(message.shardID, message.shardUUID)]
  | .response (.read message) => message.shards.map fun shard => (shard.shardID, shard.uuid)
  | .response (.bucketShards _ shards) => shards.map fun shard => (shard.id, shard.shardUUID)
  | .response (.shards shards) => shards.map fun shard => (shard.id, shard.shardUUID)
  | .response (.shard shard) => [(shard.id, shard.shardUUID)]
  | _ => []

/-! ### What a task does -/

/-- The program of a task, given the call that the task stands for.  It runs the
program of the call and answers, after notifying or without.  A task without a
call refuses, looks for one row and refuses, or lists rows.  The two tasks that
notify in other places are the health supervisor and the gauges. -/
inductive Handles (env : Env) (task : Task) : Option Call -> Handler Answer -> Prop
  | announced {X : Type} {call : Call} {program : Routine X} {outcome : X -> Outcome} {answer : X -> Answer}
      (same : body env call = program >>= fun value => .finish (outcome value))
      (translates : forall value, Answers env.platform task (outcome value) (answer value)) :
      Handles env task (some call) (routine program >>= fun value => announce (answer value))
  | returned {X : Type} {call : Call} {program : Routine X} {outcome : X -> Outcome} {answer : X -> Answer}
      (silent : announces task = false) (same : body env call = program >>= fun value => .finish (outcome value))
      (translates : forall value, Answers env.platform task (outcome value) (answer value)) :
      Handles env task (some call) (routine program >>= fun value => .finish (answer value))
  | supervised (isHealth : task = .healthTick) :
      Handles env task (some .healthTick) (healthTick >>= fun _ => .finish .ticked)
  | refused (status : Status) : Handles env task none (.finish (.refused status))
  | looked {id : Nat} {next : Option Shard -> Handler Answer}
      (refuses : forall found, Exists fun status => next found = .finish (.refused status)) :
      Handles env task none (query (.getShardByID id) >>= next)
  | listed {chosen : List Shard -> List Shard} {response : List Shard -> Response} (silent : announces task = false)
      (part : forall rows, chosen rows ⊆ rows)
      (names : forall rows, namedShards (.response (response rows)) = (chosen rows).map (nameOf env.platform)) :
      Handles env task none (query .listShards >>= fun rows => .finish (.response (response rows)))
  | measured (isMetrics : task = .refreshMetrics) :
      Handles env task none (refreshMetrics >>= fun _ => .finish .ticked)

section Tasks

variable {env : Env} {settings : Settings} {metadata : Metadata} {task : Task}

/-- A call that is one operation of the store. -/
theorem handles_query {call : Call} {op : Op} {outcome : Reply op -> Outcome} {answer : Reply op -> Answer}
    (same : body env call = ask op >>= fun value => .finish (outcome value))
    (translates : forall value, Answers env.platform task (outcome value) (answer value)) :
    Handles env task (some call) (query op >>= fun value => announce (answer value)) :=
  .announced same translates

theorem handles_withKey {call : Option Call} {handler : Handler Answer} (handles : Handles env task call handler) :
    Handles env task (if hasKey settings metadata then call else none) (withKey settings metadata handler) := by
  unfold withKey hasKey
  cases requireKey settings metadata with
  | error status => exact .refused status
  | ok known => exact handles

theorem handles_withUUID {call : UUID -> Call} {text : String} {handler : UUID -> Handler Answer}
    (handles : forall uuid, Handles env task (some (call uuid)) (handler uuid)) :
    Handles env task ((env.platform.parseUUID text).map call) (withUUID env.platform text handler) := by
  unfold withUUID
  cases env.platform.parseUUID text with
  | none => exact .refused _
  | some uuid => exact handles uuid

theorem handles_patchShardState (shardID : Int64) (state : String) :
    Handles env (.keyed metadata (.patchShardState shardID state))
      (calledBy env.platform settings (.keyed metadata (.patchShardState shardID state)))
      (patchShardState settings metadata shardID state) := by
  refine handles_withKey ?_
  simp only [keyedCall]
  by_cases negative : shardID.toInt < 0
  · simp only [if_pos negative]
    exact .refused _
  · simp only [if_neg negative]
    cases stateOfText state with
    | some newState => exact handles_query rfl fun _ => .patchShardState
    | none =>
        refine .looked fun found => ?_
        cases found with
        | none => exact ⟨_, rfl⟩
        | some shard => exact ⟨_, rfl⟩

theorem handleKeyed_handles (request : KeyedRpc) :
    Handles env (.keyed metadata request) (calledBy env.platform settings (.keyed metadata request))
      (handleKeyed env.platform settings metadata request) := by
  cases request with
  | bootstrap request =>
      refine handles_withKey ?_
      simp only [keyedCall]
      cases accepted : acceptedConfig request with
      | error failure => exact .refused _
      | ok config => exact handles_query rfl fun _ => .bootstrap accepted
  | listShards =>
      refine handles_withKey (.listed rfl List.Subset.refl fun rows => ?_)
      simp only [namedShards, List.map_map]
      rfl
  | registerShard shardUUID role dsn advertiseURL startupState =>
      exact handles_withKey (handles_withUUID fun uuid => .announced rfl fun _ => .registerShard)
  | sealRotate bucketID => exact handles_withKey (handles_query rfl fun _ => .sealRotate)
  | patchShardState shardID state => exact handles_patchShardState shardID state
  | retentionTick =>
      refine handles_withKey ?_
      simp only [keyedCall]
      by_cases configured : settings.retentionConfigured = true
      · simp only [if_pos configured]
        exact .announced rfl fun _ => .retentionTick
      · simp only [if_neg configured]
        exact .refused _
  | reportStats shardUUID reportedBytes =>
      exact handles_withKey (handles_withUUID fun uuid => .returned rfl rfl fun _ => .reportStats)
  | reportCleaned shardUUID =>
      exact handles_withKey (handles_withUUID fun uuid => handles_query rfl fun _ => .reportCleaned)
  | reportDrainComplete shardUUID =>
      refine handles_withKey (handles_withUUID fun uuid => ?_)
      have same : body env (.reportDrainComplete uuid) =
          ask (.markDrainReady uuid) >>= fun marked => .finish (.acknowledged marked) := rfl
      exact .returned rfl same fun _ => .reportDrainComplete

theorem taskBody_handles (task : Task) :
    Handles env task (calledBy env.platform settings task) (taskBody env settings task) := by
  cases task with
  | keyed metadata request => exact handleKeyed_handles request
  | sealTick => exact .returned rfl rfl fun _ => .sealSupervisor
  | retentionTick => exact .returned rfl rfl fun _ => .retentionSupervisor
  | healthTick => exact .supervised rfl
  | refreshMetrics => exact .measured rfl
  | resolve request =>
      cases request with
      | listBucketShards bucketID =>
          have part : forall rows : List Shard, (rows.filter fun shard => shard.bucketID = some bucketID) ⊆ rows :=
            fun rows => List.filter_subset_self rows
          refine .listed rfl part fun rows => ?_
          simp only [namedShards, List.map_map]
          rfl
      | write shardKey =>
          simp only [calledBy, taskBody, handleResolve, write]
          cases valueToAny env.platform shardKey with
          | none => exact .refused _
          | some key => exact .returned rfl rfl fun _ => .write
      | read shardKey =>
          simp only [calledBy, taskBody, handleResolve, read]
          cases valueToAny env.platform shardKey with
          | none => exact .refused _
          | some key => exact .returned rfl rfl fun _ => .read

end Tasks

section Programs

variable {env : Env} {settings : Settings} {X : Type} {agrees : Answer -> X -> Prop}

/-- Notifying is not seen in the store. -/
theorem implements_notifyTopology :
    notifyTopology.Implements (perform env) (fun _ (_ : Unit) => True) (.finish ()) := by
  refine .own fun read => ?_
  cases read with
  | error failure => exact .finish trivial
  | ok version => exact .own fun _ => .own fun _ => .finish trivial

theorem implements_announce {answer : Answer} {result : X} (same : agrees answer result) :
    (announce answer).Implements (perform env) agrees (.finish result) := by
  cases answer with
  | refused status => exact .finish same
  | ticked => exact .finish same
  | response response =>
      have silent : notifyTopology.Implements (perform env) (fun _ (_ : Unit) => True) (.finish ()) :=
        implements_notifyTopology
      exact silent.bind fun _ _ _ => .finish same

/-- A routine of the control plane whose value is announced or returned. -/
theorem implements_routine {Y : Type} (program : Routine Y) {answered : Y -> Handler Answer} {outcome : Y -> X}
    (rest : forall value, (answered value).Implements (perform env) agrees (.finish (outcome value))) :
    (routine program >>= answered).Implements (perform env) agrees
      (program >>= fun value => .finish (outcome value)) := by
  refine (Program.implements_lift program).bind ?_
  rintro value result rfl
  exact rest value

/-- The notifications of the health supervisor are not seen in the store. -/
theorem implements_failoverAll (shards : List Shard) :
    (failoverAll shards).Implements (perform env) (fun _ _ => True) (Control.failoverAll shards) := by
  induction shards with
  | nil => exact .finish trivial
  | cons shard rest inductionHypothesis =>
      unfold failoverAll Control.failoverAll
      cases shard.bucketID with
      | none => exact inductionHypothesis
      | some bucketID =>
          refine .shared fun rotated => ?_
          cases rotated with
          | error failure => exact inductionHypothesis
          | ok done =>
              have silent : notifyTopology.Implements (perform env) (fun _ (_ : Unit) => True) (.finish ()) :=
                implements_notifyTopology
              exact silent.bind fun _ _ _ => inductionHypothesis

/-- A task does what its call does. -/
theorem Handles.carries {task : Task} {call : Call} {handler : Handler Answer}
    (handles : Handles env task (some call) handler) :
    handler.Implements (perform env) (fun answer outcome => Answers env.platform task outcome answer)
      (body env call) := by
  cases handles with
  | announced same translates =>
      rw [same]
      exact implements_routine _ fun value => implements_announce (translates value)
  | returned silent same translates =>
      rw [same]
      exact implements_routine _ fun value => .finish (translates value)
  | supervised isHealth =>
      subst isHealth
      refine .shared fun stale => ?_
      exact (implements_failoverAll stale).bind fun _ _ _ => .finish .healthSupervisor

/-- A task without a call reads at most. -/
theorem Handles.idles {task : Task} {handler : Handler Answer} (handles : Handles env task none handler) :
    handler.ReadsOnly (perform env) := by
  cases handles with
  | refused status => exact .finish trivial
  | looked refuses =>
      refine .reads (fun _ => rfl) fun found => ?_
      rcases refuses found with ⟨status, same⟩
      simp only [Program.bind, same]
      exact .finish trivial
  | listed silent part names => exact .reads (fun _ => rfl) fun _ => .finish trivial
  | measured isMetrics =>
      refine .reads (fun _ => rfl) fun _ => .reads (fun _ => rfl) fun _ => .reads (fun _ => rfl) fun _ => ?_
      have silent : notifyTopology.Implements (perform env) (fun _ (_ : Unit) => True) (.finish ()) :=
        implements_notifyTopology
      exact silent.bind fun _ _ _ => .finish trivial

end Programs

/-- The step of the topology server is one of the store. -/
def isStoreAct : Watch.Act -> Bool
  | .store _ => true
  | _ => false

section Store

variable {env : Env} {settings : Settings} {start : Moment} {past : ServerPast} {pool : ServerPool}

/-- Only a step of the store changes the store. -/
theorem step_moment {node next : Watch.Server} {act : Watch.Act} (unstored : isStoreAct act = false)
    (taken : Watch.step env node act = some next) : next.moment = node.moment := by
  cases act with
  | store change => cases unstored
  | readVersion | notify | release | watch =>
      simp only [Watch.step] at taken
      split at taken <;> cases taken
      rfl
  | deliver index =>
      simp only [Watch.step] at taken
      split at taken
      · split at taken
        · rcases Watch.updateWatcher_some taken with ⟨_, _, _, _, rfl⟩
          rfl
        · cases taken
      · cases taken
  | unsubscribe index =>
      simp only [Watch.step] at taken
      split at taken
      · rcases Watch.updateWatcher_some taken with ⟨_, _, _, _, rfl⟩
        rfl
      · cases taken
  | query | send | receive | fail =>
      rcases Watch.updateWatcher_some taken with ⟨_, _, _, _, rfl⟩
      rfl
  | get =>
      cases taken
      rfl
  | answer index =>
      simp only [Watch.step, Watch.Server.updateGetter] at taken
      rcases Option.bind_eq_some_iff.mp taken with ⟨_, _, more⟩
      rcases Option.bind_eq_some_iff.mp more with ⟨_, _, same⟩
      cases same
      rfl

theorem getD_moment {node : Watch.Server} {act : Watch.Act} (unstored : isStoreAct act = false) :
    ((Watch.step env node act).getD node).moment = node.moment := by
  cases taken : Watch.step env node act with
  | none => rfl
  | some next => exact step_moment unstored taken

theorem performOp_moment (op : ServerOp) (node : Watch.Server) :
    (performOp env (.inr op) node).2.moment = node.moment := by
  cases op with
  | readVersion =>
      simp only [performOp]
      split <;> rfl
  | notify version => exact getD_moment rfl
  | release => exact getD_moment rfl

/-- Of what happens by itself, the store sees the clock. -/
theorem signal_moment (act : Watch.Act) (node : Watch.Server) : (signal env act node).moment = node.moment ∨
    Exists fun duration => (signal env act node).moment = elapse duration node.moment := by
  unfold signal
  split
  · rename_i isSignal
    cases act with
    | store change =>
        cases change with
        | elapse duration => exact Or.inr ⟨duration, rfl⟩
        | perform | bumpTopologyVersion => cases isSignal
    | _ => exact Or.inl (getD_moment rfl)
  · exact Or.inl rfl

theorem serverStep_continues {action : ServerAct} {after : ServerPool}
    (taken : serverStep env settings pool action = some after) :
    Continues pool.store.moment after.store.moment := by
  rcases step_cases (guarded_some taken).2 with ⟨task, rfl, rfl⟩ | ⟨act, rfl, rfl⟩ |
    ⟨index, task, op, next, rfl, found, issued, rfl⟩
  · exact continues_refl _
  · change Continues pool.store.moment (signal env act pool.store).moment
    have seen : (signal env act pool.store).moment = pool.store.moment ∨
        Exists fun duration => (signal env act pool.store).moment = elapse duration pool.store.moment :=
      signal_moment act pool.store
    rcases seen with same | ⟨duration, elapsed⟩
    · rw [same]
      exact continues_refl _
    · have advanced : advance env pool.store.moment (.elapse duration) =
          some (signal env act pool.store).moment := by
        rw [elapsed]
        rfl
      exact advance_continues advanced
  · cases op with
    | inl op =>
        have advanced : advance env pool.store.moment (.perform op) =
            some (performOp env (.inl op) pool.store).2.moment := rfl
        exact advance_continues advanced
    | inr op =>
        change Continues pool.store.moment (performOp env (.inr op) pool.store).2.moment
        rw [performOp_moment]
        exact continues_refl _

/-- A later state of a server continues every earlier one. -/
theorem server_continues (run : ServerRuns env settings start past pool) {event : Event ServerPool ServerAct}
    (member : event ∈ past) : Continues event.state.store.moment pool.store.moment := by
  have related := Run.states_related
    (fun earlier later : ServerPool => Continues earlier.store.moment later.store.moment)
    (fun _ _ _ => continues_trans _ _ _) (fun _ _ _ => serverStep_continues) run
  exact (List.pairwise_cons.mp related).1 event.state (List.mem_map.mpr ⟨event, member, rfl⟩)

/-- The server as a layer over the control plane. -/
def controlLayer (env : Env) (settings : Settings) : Layer (Control.machine env) (serverMachine env settings) where
  view := Watch.Server.moment
  entry := calledBy env.platform settings
  agrees task answer outcome := Answers env.platform task outcome answer
  shared_reply _ _ := rfl
  shared_view _ _ := rfl
  own_view := performOp_moment
  signal_view := signal_moment
  carried task call called := by
    have handles : Handles env task (calledBy env.platform settings task) (taskBody env settings task) :=
      taskBody_handles task
    rw [called] at handles
    exact handles.carries
  idle task uncalled := by
    have handles : Handles env task (calledBy env.platform settings task) (taskBody env settings task) :=
      taskBody_handles task
    rw [uncalled] at handles
    exact handles.idles

/-- Whatever requests a server receives, and however its handlers, supervisors
and streams are interleaved: its database is the one of a run of the control
plane, whose calls are those of the requests that were not refused.  Different
requests stand over different calls, and every answer to such a request
translates the outcome of its call. -/
theorem server_carries_control_plane (run : ServerRuns env settings start past pool) :
    Exists fun calls => Exists fun system => Exists fun place : Nat -> Option Nat =>
      Runs env start.db start.now calls system ∧ system.store = pool.store.moment ∧
      (forall event, event ∈ calls -> forall call, event.action = .start call ->
        Exists fun task => calledBy env.platform settings task = some call ∧
          Exists fun source => source ∈ past ∧ source.action = .start task) ∧
      (forall first second position, place first = some position -> place second = some position ->
        first = second) ∧
      (forall (index : Nat) task answer call, pool.processes[index]? = some ⟨task, .finish answer⟩ ->
        calledBy env.platform settings task = some call ->
        Exists fun position => Exists fun outcome => place index = some position ∧
          system.processes[position]? = some ⟨call, .finish outcome⟩ ∧ Answers env.platform task outcome answer) := by
  rcases (controlLayer env settings).run_carried run.unguarded with ⟨calls, system, carried⟩
  rcases carried.links with ⟨place, links⟩
  refine ⟨calls, system, place, carried.run, links.store, carried.starts, links.apart, ?_⟩
  intro index task answer call found called
  exact links.returned found called

end Store

/-! ## A small server -/

def sampleSettings : Settings := ⟨"secret", true⟩

def firstShard : String := "1"

/-- Start a task, which becomes the process of the given index, and resume it
several times. -/
def serveTask (index : Nat) (task : Task) (count : Nat) : List ServerAct :=
  .start task :: List.replicate count (.resume index)

/-- A registration, a request with a wrong key, and a write. -/
def registerAndWrite : List ServerAct :=
  List.flatten [serveTask 0 (.keyed (some ["secret"]) (.registerShard firstShard "data" "a" "" "")) 5,
    serveTask 1 (.keyed (some ["guess"]) (.sealRotate "n5")) 0,
    serveTask 2 (.resolve (.write (some (.string "57")))) 10]

/-- The process has answered a write of the key with a shard. -/
def answeredWrite (text : String) (shardID : Nat)
    (process : Process (Op ⊕ ServerOp) (BothReply Reply ServerReply) Answer Task) : Bool :=
  match process with
  | ⟨.resolve (.write (some (.string key))), .finish (.response (.write message))⟩ =>
      key == text && message.shardID == shardID
  | _ => false

theorem answeredWrite_eq {text : String} {shardID : Nat}
    {process : Process (Op ⊕ ServerOp) (BothReply Reply ServerReply) Answer Task}
    (answered : answeredWrite text shardID process = true) :
    Exists fun message => message.shardID = shardID ∧
      process = ⟨.resolve (.write (some (.string text))), .finish (.response (.write message))⟩ := by
  unfold answeredWrite at answered
  split at answered
  · rename_i key message
    rw [Bool.and_eq_true, beq_iff_eq, beq_iff_eq] at answered
    rcases answered with ⟨rfl, chosen⟩
    exact ⟨message, chosen, rfl⟩
  · cases answered

theorem server_carries_control_plane_write : Exists fun past => Exists fun pool : ServerPool =>
    Exists fun message => Exists fun calls => Exists fun system =>
      ServerRuns sampleEnv sampleSettings ⟨sampleDb 100, 0⟩ past pool ∧ message.shardID = 1 ∧
      pool.processes[2]? = some ⟨.resolve (.write (some (.string "57"))), .finish (.response (.write message))⟩ ∧
      Runs sampleEnv (sampleDb 100) 0 calls system ∧ system.store = pool.store.moment ∧
      Exists fun position : Nat => Exists fun outcome =>
        system.processes[position]? = some ⟨.resolveWrite (.string "57"), .finish outcome⟩ ∧
        Answers samplePlatform (.resolve (.write (some (.string "57")))) outcome (.response (.write message)) := by
  have passed : replayCheck (serverStep sampleEnv sampleSettings) registerAndWrite
      ⟨Watch.newServer ⟨sampleDb 100, 0⟩, []⟩ (fun _ pool => pool.processes[2]?.any (answeredWrite "57" 1)) = true := by
    decide +kernel
  rcases replayCheck_run passed with ⟨past, pool, run, answered⟩
  rcases (Option.any_eq_true _ _).mp answered with ⟨process, found, writes⟩
  rcases answeredWrite_eq writes with ⟨message, chosen, rfl⟩
  rcases server_carries_control_plane run with ⟨calls, system, place, carried, same, _, _, answers⟩
  rcases answers 2 _ _ _ found rfl with ⟨position, outcome, _, returned, translated⟩
  exact ⟨past, pool, message, calls, system, run, chosen, found, carried, same, position, outcome, returned,
    translated⟩

end Api
end Shardman
