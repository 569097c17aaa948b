import Shardman.Bucket.Wire
import Shardman.Client.Local
import Shardman.Control.Bootstrap
import Shardman.Control.System
import Shardman.Foundation.Layers

namespace Shardman
namespace Api

open Fsm
open Bucket
open Store
open Control
open Client
open Foundation

/-!
# The handlers of the server

A request arrives as texts and numbers and is answered by a message or by a
status.  Before a handler of an administrator or an agent looks at its request,
it compares the key that came with the call.  It then translates the request,
performs what the control plane does for it, and translates the outcome.  A
handler that has changed the topology notifies the new version before it
answers.

Handlers use the operations of the store and three operations of the server
itself: reading the version in order to notify it, taking the lock of the
broadcaster for a version, and releasing the lock when every subscriber has
been served.
-/

inductive ServerOp
  | readVersion
  | notify (version : Nat)
  | release
deriving DecidableEq, Repr

abbrev ServerReply : ServerOp -> Type
  | .readVersion => Except StoreError Nat
  | .notify _ => Unit
  | .release => Unit

abbrev Handler (X : Type) := Layered Reply ServerReply X

/-- Issue one operation of the store. -/
abbrev query (op : Op) : Handler (Reply op) := Program.ask (Sum.inl op)

/-- Issue one operation of the server. -/
abbrev serve (op : ServerOp) : Handler (ServerReply op) := Program.ask (Sum.inr op)

/-- A program of the control plane as part of a handler. -/
abbrev routine {X : Type} (program : Routine X) : Handler X := program.lift ServerReply

/-! ## Messages -/

inductive Code
  | invalidArgument
  | notFound
  | alreadyExists
  | aborted
  | unauthenticated
  | unavailable
  | internal
deriving DecidableEq, Repr

/-- What the message of a status says: a text, or the error that it prints. -/
inductive Detail
  | text (message : String)
  | store (failure : StoreError)
  | transition (role : Role) (source : State) (target : String)
  | bootstrap (failure : BootstrapError)
  | routing
  | uuid
deriving DecidableEq, Repr

structure Status where
  code : Code
  detail : Detail
deriving DecidableEq, Repr

structure ResolveWriteResponse where
  routing : String
  bucketID : String
  reason : String
  shardID : Nat
  shardUUID : String
  endpoint : String
  state : String
deriving DecidableEq, Repr

structure ResolveReadResponse where
  routing : String
  bucketID : String
  reason : String
  shards : List ReadShard
deriving DecidableEq, Repr

inductive Response
  | write (message : ResolveWriteResponse)
  | read (message : ResolveReadResponse)
  | bucketShards (bucketID : String) (shards : List ShardMessage)
  | bootstrap (status : String) (minShards : Int)
  | shards (shards : List ShardMessage)
  | shard (shard : ShardMessage)
  | sealRotate (status bucketID : String)
  | stats (status state : String)
  | status (status : String)

inductive Answer
  | response (response : Response)
  | refused (status : Status)
  | ticked

/-- Answer with a status. -/
def refuse (code : Code) (detail : Detail) : Answer := .refused ⟨code, detail⟩

def routeText : RouteKind -> String
  | .bucket => "bucket"
  | .error => "error"

def reasonText (reason : Option RouteReason) : String := (reason.map RouteReason.text).getD ""

def writeResultToProto (result : WriteResult) : ResolveWriteResponse :=
  ⟨routeText result.routing, result.bucketID, reasonText result.reason, result.shardID, result.uuid, result.endpoint,
    result.state⟩

def readResultToProto (result : ReadResult) : ResolveReadResponse :=
  ⟨routeText result.routing, result.bucketID, reasonText result.reason, result.shards⟩

/-- The requests of the resolve service, which need no key. -/
inductive ResolveRpc
  | write (shardKey : Option WireValue)
  | read (shardKey : Option WireValue)
  | listBucketShards (bucketID : String)

/-- The requests of administrators and agents. -/
inductive KeyedRpc
  | bootstrap (request : BootstrapRequest)
  | listShards
  | registerShard (shardUUID role dsn advertiseURL startupState : String)
  | sealRotate (bucketID : String)
  | patchShardState (shardID : Int64) (state : String)
  | retentionTick
  | reportStats (shardUUID : String) (reportedBytes : Int64)
  | reportCleaned (shardUUID : String)
  | reportDrainComplete (shardUUID : String)

/-! ## Keys and identifiers -/

/-- What a server is started with. -/
structure Settings where
  clusterKey : String
  retentionConfigured : Bool

/-- The values that the metadata of a call has for the cluster key, if the call
has metadata. -/
abbrev Metadata := Option (List String)

def checkKey (expected got : String) : Bool :=
  if expected = "" then false else expected == got

def requireKey (settings : Settings) (metadata : Metadata) : Except Status Unit :=
  if settings.clusterKey = "" then .error ⟨.unavailable, .text "CLUSTER_KEY not configured"⟩
  else
    match metadata with
    | none => .error ⟨.unauthenticated, .text "missing metadata"⟩
    | some [] => .error ⟨.unauthenticated, .text "invalid cluster key"⟩
    | some (first :: _) =>
        if checkKey settings.clusterKey first then .ok ()
        else .error ⟨.unauthenticated, .text "invalid cluster key"⟩

/-- Go on if the call has the key. -/
def withKey (settings : Settings) (metadata : Metadata) (handler : Handler Answer) : Handler Answer :=
  match requireKey settings metadata with
  | .error status => pure (.refused status)
  | .ok () => handler

/-- Go on with the uuid that a text stands for. -/
def withUUID (platform : Platform) (text : String) (handler : UUID -> Handler Answer) : Handler Answer :=
  match platform.parseUUID text with
  | none => pure (refuse .invalidArgument .uuid)
  | some uuid => handler uuid

def stateOfText (text : String) : Option State :=
  [State.standby, .active, .draining, .sealed, .cleaning].find? fun state => state.text == text

def roleOfText (text : String) : Role := if text = "error" then .error else .data

/-! ## Notifying -/

def notifyTopology : Handler Unit := do
  let read : Except StoreError Nat <- serve .readVersion
  match read with
  | .error _ => pure ()
  | .ok version =>
      let _ <- serve (.notify version)
      serve .release

/-- Answer, and before that notify a change that succeeded. -/
def announce : Answer -> Handler Answer
  | .response response => do
      notifyTopology
      pure (.response response)
  | answer => pure answer

/-! ## Resolving and listing -/

def writeAnswer : Except ResolveError WriteResult -> Answer
  | .ok result => .response (.write (writeResultToProto result))
  | .error (.store .notFound) => refuse .unavailable (.text "no active shard or standby pool exhausted")
  | .error (.store failure) => refuse .internal (.store failure)
  | .error .routing => refuse .internal .routing

def readAnswer : Except ResolveError ReadResult -> Answer
  | .ok result => .response (.read (readResultToProto result))
  | .error (.store failure) => refuse .internal (.store failure)
  | .error .routing => refuse .internal .routing

def missingKey : Answer := refuse .invalidArgument (.text "shard_key: shard_key required")

def write (platform : Platform) (shardKey : Option WireValue) : Handler Answer :=
  match valueToAny platform shardKey with
  | none => pure missingKey
  | some key => do
      let result <- routine (resolveWrite platform key)
      pure (writeAnswer result)

def read (platform : Platform) (shardKey : Option WireValue) : Handler Answer :=
  match valueToAny platform shardKey with
  | none => pure missingKey
  | some key => do
      let result <- routine (resolveRead platform key)
      pure (readAnswer result)

def listBucketShards (platform : Platform) (bucketID : String) : Handler Answer := do
  let all : List Shard <- query .listShards
  let shards := all.filter fun shard => shard.bucketID = some bucketID
  pure (.response (.bucketShards bucketID (shards.map (shardToProto platform))))

/-! ## Administration -/

/-- The configuration of an accepted request.  Its specification is parsed. -/
def acceptedConfig (request : BootstrapRequest) : Except BootstrapError ClusterConfig :=
  match acceptBootstrap request with
  | .error failure => .error failure
  | .ok row =>
      match parsed : parseSpec row.bucketAxis row.bucketSpec with
      | .error failure => .error (.spec failure)
      | .ok spec => .ok (row.withSpec spec parsed)

def minShards (retentionDepth maxFuture : Int) : Int := retentionDepth + 1 + maxFuture + 1

/-- The number of shards that a window needs; only the time axis has one. -/
def reportedMinShards (config : ClusterConfig) : Int :=
  match config.bucketAxis, config.retentionDepth, config.maxFutureBuckets with
  | .time, some depth, some future => wrap32 (minShards depth future)
  | _, _, _ => 0

def bootstrapAnswer (config : ClusterConfig) : Except StoreError Unit -> Answer
  | .ok () => .response (.bootstrap "bootstrapped" (reportedMinShards config))
  | .error .alreadyBootstrapped => refuse .alreadyExists (.store .alreadyBootstrapped)
  | .error failure => refuse .internal (.store failure)

def bootstrap (settings : Settings) (metadata : Metadata) (request : BootstrapRequest) : Handler Answer :=
  withKey settings metadata <|
    match acceptedConfig request with
    | .error failure => pure (refuse .invalidArgument (.bootstrap failure))
    | .ok config => do
        let stored : Except StoreError Unit <- query (.bootstrap config)
        announce (bootstrapAnswer config stored)

def listShards (platform : Platform) (settings : Settings) (metadata : Metadata) : Handler Answer :=
  withKey settings metadata do
    let shards : List Shard <- query .listShards
    pure (.response (.shards (shards.map (shardToProto platform))))

def registerAnswer (platform : Platform) : Except StoreError Shard -> Answer
  | .ok shard => .response (.shard (shardToProto platform shard))
  | .error .conflict => refuse .alreadyExists (.store .conflict)
  | .error failure => refuse .invalidArgument (.store failure)

def registerShard (platform : Platform) (settings : Settings) (metadata : Metadata)
    (shardUUID role dsn advertiseURL startupState : String) : Handler Answer :=
  withKey settings metadata <|
    withUUID platform shardUUID fun uuid => do
      let registered <- routine (Control.registerShard uuid (roleOfText role) dsn advertiseURL startupState)
      announce (registerAnswer platform registered)

def sealRotateAnswer (bucketID : String) : Except StoreError Unit -> Answer
  | .ok () => .response (.sealRotate "rotated" bucketID)
  | .error .notFound => refuse .notFound (.store .notFound)
  | .error failure => refuse .aborted (.store failure)

def sealRotate (settings : Settings) (metadata : Metadata) (bucketID : String) : Handler Answer :=
  withKey settings metadata do
    let rotated : Except StoreError Unit <- query (.sealRotate bucketID .admin)
    announce (sealRotateAnswer bucketID rotated)

/-- The answer to a request without a result of its own. -/
def statusAnswer (status : String) (code : Code) : Except StoreError Unit -> Answer
  | .ok () => .response (.status status)
  | .error failure => refuse code (.store failure)

def patchAnswer : Except StoreError Unit -> Answer := statusAnswer "ok" .aborted

/-- The state of a request may be any text.  No transition leads to a text that
names no state, so the transaction only reads the row then; and no row has a
negative id. -/
def patchShardState (settings : Settings) (metadata : Metadata) (shardID : Int64) (state : String) : Handler Answer :=
  withKey settings metadata <|
    if shardID.toInt < 0 then
      pure (refuse .aborted (.store .notFound))
    else
      match stateOfText state with
      | some newState => do
          let patched : Except StoreError Unit <- query (.patchState shardID.toInt.toNat newState)
          announce (patchAnswer patched)
      | none => do
          let found : Option Shard <- query (.getShardByID shardID.toInt.toNat)
          match found with
          | none => pure (refuse .aborted (.store .notFound))
          | some shard => pure (refuse .aborted (.transition shard.role shard.state state))

def retentionAnswer : Except ResolveError Unit -> Answer
  | .ok () => .response (.status "ok")
  | .error (.store failure) => refuse .internal (.store failure)
  | .error .routing => refuse .internal .routing

def retentionTick (settings : Settings) (metadata : Metadata) : Handler Answer :=
  withKey settings metadata <|
    if settings.retentionConfigured then do
      let ticked <- routine Control.retentionTick
      announce (retentionAnswer ticked)
    else
      pure (refuse .unavailable (.text "retention supervisor not configured"))

/-! ## Reports of agents -/

def statsAnswer : Except StoreError (Option State) -> Answer
  | .ok state => .response (.stats "ok" ((state.map State.text).getD ""))
  | .error failure => refuse .notFound (.store failure)

def reportStats (platform : Platform) (settings : Settings) (metadata : Metadata) (shardUUID : String)
    (reportedBytes : Int64) : Handler Answer :=
  withKey settings metadata <|
    withUUID platform shardUUID fun uuid => do
      let reported <- routine (Control.reportStats uuid reportedBytes.toInt)
      pure (statsAnswer reported)

def cleanedAnswer : Except StoreError Unit -> Answer := statusAnswer "standby" .internal

def reportCleaned (platform : Platform) (settings : Settings) (metadata : Metadata) (shardUUID : String) :
    Handler Answer :=
  withKey settings metadata <|
    withUUID platform shardUUID fun uuid => do
      let cleaned : Except StoreError Unit <- query (.finishCleaning uuid)
      announce (cleanedAnswer cleaned)

def drainCompleteAnswer : Except StoreError Unit -> Answer := statusAnswer "ok" .notFound

/-- Nothing that routing sees has changed, so nothing is notified. -/
def reportDrainComplete (platform : Platform) (settings : Settings) (metadata : Metadata) (shardUUID : String) :
    Handler Answer :=
  withKey settings metadata <|
    withUUID platform shardUUID fun uuid => do
      let marked : Except StoreError Unit <- query (.markDrainReady uuid)
      pure (drainCompleteAnswer marked)

/-! ## Tasks of the server -/

/-- The health supervisor notifies after every rotation that succeeds.  The other
two supervisors do not notify. -/
def failoverAll : List Shard -> Handler Unit
  | [] => pure ()
  | shard :: rest => do
      match shard.bucketID with
      | none => failoverAll rest
      | some bucketID =>
          let rotated : Except StoreError Unit <- query (.sealRotate bucketID (.failover shard))
          match rotated with
          | .error _ => failoverAll rest
          | .ok () =>
              notifyTopology
              failoverAll rest

def healthTick : Handler Unit := do
  let stale : List Shard <- query .listStaleActives
  failoverAll stale

/-- The gauges are set from three queries; the version is notified once more. -/
def refreshMetrics : Handler Unit := do
  let _ <- query .listShards
  let _ <- query .countStandbyPool
  let _ <- query .listStaleActives
  notifyTopology

def handleResolve (env : Env) : ResolveRpc -> Handler Answer
  | .write shardKey => write env.platform shardKey
  | .read shardKey => read env.platform shardKey
  | .listBucketShards bucketID => listBucketShards env.platform bucketID

def handleKeyed (platform : Platform) (settings : Settings) (metadata : Metadata) : KeyedRpc -> Handler Answer
  | .bootstrap request => bootstrap settings metadata request
  | .listShards => listShards platform settings metadata
  | .registerShard shardUUID role dsn advertiseURL startupState =>
      registerShard platform settings metadata shardUUID role dsn advertiseURL startupState
  | .sealRotate bucketID => sealRotate settings metadata bucketID
  | .patchShardState shardID state => patchShardState settings metadata shardID state
  | .retentionTick => retentionTick settings metadata
  | .reportStats shardUUID reportedBytes => reportStats platform settings metadata shardUUID reportedBytes
  | .reportCleaned shardUUID => reportCleaned platform settings metadata shardUUID
  | .reportDrainComplete shardUUID => reportDrainComplete platform settings metadata shardUUID

/-- What a server does for its callers and by itself.  The calls `Get` and `Watch`
of the topology service are not among it: they are the streams and getters of
`Shardman.Watch`. -/
inductive Task
  | resolve (request : ResolveRpc)
  | keyed (metadata : Metadata) (request : KeyedRpc)
  | sealTick
  | healthTick
  | retentionTick
  | refreshMetrics

def taskBody (env : Env) (settings : Settings) : Task -> Handler Answer
  | .resolve request => handleResolve env request
  | .keyed metadata request => handleKeyed env.platform settings metadata request
  | .sealTick => do
      routine (Control.sealTick env)
      pure .ticked
  | .healthTick => do
      healthTick
      pure .ticked
  | .retentionTick => do
      let _ <- routine Control.retentionTick
      pure .ticked
  | .refreshMetrics => do
      refreshMetrics
      pure .ticked

end Api
end Shardman
