import Shardman.Control.ReadSet

namespace Shardman
namespace Client

open Fsm
open Bucket
open Store
open Control
open Foundation

/-!
# Resolving keys in the client

The client library keeps a copy of the topology and resolves keys on it without
asking the server whenever it can.  The copy consists of messages: identifiers,
roles and states are texts, and absent values are empty texts.  The library
selects shards from these messages by its own code, while the server selects
rows by queries.  This module compares the two.
-/

/-! ## Messages -/

structure ShardMessage where
  id : Nat
  shardUUID : String
  role : String
  bucketID : String
  state : String
  dsn : String
  advertiseURL : String
  reportedBytes : Int
  maxBytes : Int
  version : Nat

structure ConfigMessage where
  mode : String
  bucketAxis : String
  bucketSpecJSON : RawMessage
  shardMaxBytes : Int
  retentionDepth : Option Int
  maxFutureBuckets : Option Int

structure Topology where
  topologyVersion : Nat
  config : Option ConfigMessage
  shards : List ShardMessage

def shardToProto (platform : Platform) (shard : Shard) : ShardMessage where
  id := shard.id
  shardUUID := platform.uuidString shard.shardUUID
  role := shard.role.text
  bucketID := shard.bucketID.getD ""
  state := shard.state.text
  dsn := shard.dsn
  advertiseURL := shard.advertiseURL.getD ""
  reportedBytes := shard.reportedBytes
  maxBytes := shard.maxBytes.getD 0
  version := shard.version

/-- Conversion to a signed 32-bit integer. -/
def wrap32 (value : Int) : Int := (value + 2 ^ 31) % 2 ^ 32 - 2 ^ 31

theorem wrap32_eq {value : Int} (fits : -2 ^ 31 <= value ∧ value < 2 ^ 31) : wrap32 value = value := by
  unfold wrap32
  omega

def configToProto (config : ClusterConfig) : ConfigMessage where
  mode := config.mode
  bucketAxis := config.bucketAxis.text
  bucketSpecJSON := config.bucketSpecRaw
  shardMaxBytes := config.shardMaxBytes
  retentionDepth := config.retentionDepth.map wrap32
  maxFutureBuckets := config.maxFutureBuckets.map wrap32

/-- The topology the server sends.  Before bootstrap it has no configuration. -/
def buildTopology (platform : Platform) : Routine Topology := do
  let version : Except StoreError Nat <- ask .getTopologyVersion
  let loaded : Except StoreError ClusterConfig <- ask .getConfig
  let shards : List Shard <- ask .listShards
  pure
    { topologyVersion := version.toOption.getD 0
      config := loaded.toOption.map configToProto
      shards := shards.map (shardToProto platform) }

/-! ## The library's own selection -/

structure LocalConfig where
  bucketSpec : Spec
  retentionDepth : Option Int
  maxFutureBuckets : Option Int

def clusterConfigFromProto (cfg : Option ConfigMessage) : Option LocalConfig :=
  match cfg with
  | none => none
  | some message =>
      match parseSpec (Axis.ofText message.bucketAxis) message.bucketSpecJSON with
      | .error _ => none
      | .ok spec => some ⟨spec, message.retentionDepth, message.maxFutureBuckets⟩

/-- The window of a configuration; absent values count as zero. -/
def retentionArgs (cfg : LocalConfig) : Int × Int :=
  (cfg.retentionDepth.getD 0, cfg.maxFutureBuckets.getD 0)

def shardEndpoint (shard : ShardMessage) : String :=
  if shard.advertiseURL ≠ "" then shard.advertiseURL else shard.dsn

def findErrorShard (shards : List ShardMessage) : Option ShardMessage :=
  shards.find? fun shard => shard.role = Role.error.text

def findActiveForBucket (shards : List ShardMessage) (bucketID : String) : Option ShardMessage :=
  shards.find? fun shard =>
    shard.role = Role.data.text ∧ shard.state = State.active.text ∧ shard.bucketID = bucketID

def shardsForBucketRead (shards : List ShardMessage) (bucketID : String) : List ShardMessage :=
  shards.filter fun shard =>
    (shard.role = Role.data.text ∧ shard.bucketID = bucketID) ∧
      (shard.state = State.active.text ∨ shard.state = State.sealed.text)

def localWriteResult (routing : RouteKind) (bucketID : String) (reason : Option RouteReason)
    (shard : ShardMessage) : WriteResult :=
  ⟨routing, bucketID, reason, shard.id, shard.shardUUID, shardEndpoint shard, shard.state⟩

def localReadShard (shard : ShardMessage) : ReadShard :=
  ⟨shard.id, shard.shardUUID, shardEndpoint shard, shard.state⟩

/-- Resolve a write on the copy.  `none` is a miss. -/
def tryResolveWriteLocal (platform : Platform) (now : Time) (topo : Option Topology) (shardKey : Key) :
    Option WriteResult := do
  let topology <- topo
  let config <- clusterConfigFromProto topology.config
  let route <- classifyWrite platform config.bucketSpec now shardKey (retentionArgs config).1
    (retentionArgs config).2
  match route.kind with
  | .error =>
      let shard <- findErrorShard topology.shards
      some (localWriteResult .error errorBucketID route.reason shard)
  | .bucket =>
      let shard <- findActiveForBucket topology.shards route.bucketID
      some (localWriteResult .bucket route.bucketID none shard)

def tryResolveReadLocal (platform : Platform) (now : Time) (topo : Option Topology) (shardKey : Key) :
    Option ReadResult := do
  let topology <- topo
  let config <- clusterConfigFromProto topology.config
  let route <- classifyRead platform config.bucketSpec now shardKey (retentionArgs config).1
    (retentionArgs config).2
  match route.kind with
  | .error =>
      if route.reason = some .evicted then
        some ⟨.error, "", route.reason, []⟩
      else
        let shard <- findErrorShard topology.shards
        some ⟨.error, errorBucketID, route.reason, [localReadShard shard]⟩
  | .bucket =>
      let matching := shardsForBucketRead topology.shards route.bucketID
      if matching = [] then none
      else some ⟨.bucket, route.bucketID, none, matching.map localReadShard⟩

/-! ## Messages and rows -/

section Messages

variable {platform : Platform} {shard : Shard}

theorem role_text_inj {first second : Role} : first.text = second.text ↔ first = second := by
  cases first <;> cases second <;> decide

theorem state_text_inj {first second : State} : first.text = second.text ↔ first = second := by
  cases first <;> cases second <;> decide

/-- Except for the empty name, flattening keeps bucket names apart from their
absence. -/
theorem bucketID_toProto {bucketID : String} (named : bucketID ≠ "") :
    (shardToProto platform shard).bucketID = bucketID ↔ shard.bucketID = some bucketID := by
  unfold shardToProto
  cases shard.bucketID with
  | none => simpa using named.symm
  | some name => simp

theorem shardEndpoint_toProto : shardEndpoint (shardToProto platform shard) = endpoint shard := by
  unfold shardEndpoint endpoint shardToProto
  cases shard.advertiseURL with
  | none => rfl
  | some url => rfl

theorem localReadShard_toProto : localReadShard (shardToProto platform shard) = readShard platform shard := by
  unfold localReadShard readShard
  rw [shardEndpoint_toProto]
  rfl

theorem localWriteResult_toProto (routing : RouteKind) (bucketID : String) (reason : Option RouteReason) :
    localWriteResult routing bucketID reason (shardToProto platform shard) =
      writeResult platform routing bucketID reason shard := by
  unfold localWriteResult writeResult
  rw [shardEndpoint_toProto]
  rfl

/-- The library reads back the configuration that the server has. -/
theorem clusterConfigFromProto_toProto (config : ClusterConfig) :
    clusterConfigFromProto (some (configToProto config)) =
      some ⟨config.bucketSpec, config.retentionDepth, config.maxFutureBuckets⟩ := by
  have axis : Axis.ofText config.bucketAxis.text = config.bucketAxis := by
    cases known : config.bucketAxis with
    | time | numeric | hash => rfl
    | other name =>
        exfalso
        have parsed := config.parsed
        rw [known, parseSpec] at parsed
        split at parsed <;> cases parsed
  have depth : config.retentionDepth.map wrap32 = config.retentionDepth := by
    cases known : config.retentionDepth with
    | none => rfl
    | some value => rw [Option.map_some, wrap32_eq (config.depthFits value known)]
  have future : config.maxFutureBuckets.map wrap32 = config.maxFutureBuckets := by
    cases known : config.maxFutureBuckets with
    | none => rfl
    | some value => rw [Option.map_some, wrap32_eq (config.futureFits value known)]
  simp only [clusterConfigFromProto, configToProto, axis, config.parsed, depth, future]

end Messages

/-! ## Selections agree -/

section Selections

variable {env : Env} {moment : Moment}

/-- Every active data shard has a fresh heartbeat. -/
def ActiveFresh (env : Env) (moment : Moment) : Prop :=
  forall row, row ∈ moment.db.shards -> row.role = .data -> row.state = .active ->
    Fresh env moment.now row

theorem findErrorShard_toProto (env : Env) {shard : ShardMessage}
    (found : findErrorShard (moment.db.shards.map (shardToProto env.platform)) = some shard) :
    Exists fun row => getErrorShard env moment.db = some row ∧ shardToProto env.platform row = shard := by
  rw [findErrorShard, List.find?_map] at found
  rcases Option.map_eq_some_iff.mp found with ⟨row, chosen, same⟩
  have selected := List.find?_some chosen
  have isError : row.role = .error := role_text_inj.mp (of_decide_eq_true selected)
  have member := List.mem_of_find?_eq_some chosen
  refine ⟨row, ?_, same⟩
  -- The index on error shards leaves the query no other row.
  cases answer : getErrorShard env moment.db with
  | none => exact absurd isError (scan_head_none answer member)
  | some other =>
      rcases scan_head_some answer with ⟨otherMember, otherError⟩
      have sameID : other.id = row.id := by
        apply moment.db.oneError other otherMember row member
        · simp [errorKey, otherError]
        · simp [errorKey, otherError, isError]
      rw [moment.db.eq_of_id otherMember member sameID]

theorem findActiveForBucket_toProto (fresh : ActiveFresh env moment) {bucketID : String}
    (named : bucketID ≠ "") {shard : ShardMessage}
    (found : findActiveForBucket (moment.db.shards.map (shardToProto env.platform)) bucketID = some shard) :
    Exists fun row => activeForBucket env moment.now moment.db bucketID = some row ∧
      shardToProto env.platform row = shard := by
  rw [findActiveForBucket, List.find?_map] at found
  rcases Option.map_eq_some_iff.mp found with ⟨row, chosen, same⟩
  have selected := List.find?_some chosen
  rcases of_decide_eq_true selected with ⟨role, state, bucket⟩
  have member := List.mem_of_find?_eq_some chosen
  have serves : InState .active bucketID row :=
    ⟨role_text_inj.mp role, (bucketID_toProto named).mp bucket, state_text_inj.mp state⟩
  exact ⟨row, activeForBucket_eq member serves (fresh row member serves.1 serves.2.2), same⟩

theorem shardsForBucketRead_toProto (fresh : ActiveFresh env moment) {bucketID : String}
    (named : bucketID ≠ "") :
    shardsForBucketRead (moment.db.shards.map (shardToProto env.platform)) bucketID =
      (Store.shardsForBucketRead env moment.now moment.db bucketID).map (shardToProto env.platform) := by
  rw [shardsForBucketRead, List.filter_map, Store.shardsForBucketRead]
  congr 1
  apply List.filter_congr
  intro row member
  rw [Function.comp_apply, decide_eq_decide]
  constructor
  · rintro ⟨⟨role, bucket⟩, state⟩
    have data : row.role = .data := role_text_inj.mp role
    refine ⟨data, (bucketID_toProto named).mp bucket, ?_⟩
    rcases state with active | isSealed
    · have isActive : row.state = .active := state_text_inj.mp active
      exact Or.inr ⟨isActive, fresh row member data isActive⟩
    · exact Or.inl (state_text_inj.mp isSealed)
  · rintro ⟨data, bucket, state⟩
    refine ⟨⟨congrArg Role.text data, (bucketID_toProto named).mpr bucket⟩, ?_⟩
    rcases state with isSealed | ⟨active, _⟩
    · exact Or.inr (congrArg State.text isSealed)
    · exact Or.inl (congrArg State.text active)

end Selections

/-! ## Hits agree with the server -/

section Hits

variable {env : Env} {moment : Moment}

/-- The topology that the server builds at a moment. -/
def topologyAt (env : Env) (moment : Moment) : Topology :=
  (runAlone env (buildTopology env.platform) moment).1

/-- A hit needs a configuration, and classifies by the server's own. -/
theorem topologyAt_config {config : LocalConfig}
    (read : clusterConfigFromProto (topologyAt env moment).config = some config) :
    Exists fun stored => getConfig moment.db = .ok stored ∧
      config = ⟨stored.bucketSpec, stored.retentionDepth, stored.maxFutureBuckets⟩ := by
  cases loaded : getConfig moment.db with
  | error failure =>
      have absent : (topologyAt env moment).config = none := by
        simp only [topologyAt, runAlone, buildTopology, Program.ask_bind, Program.run_request, perform,
          loaded, Program.pure_eq_finish, Program.run_finish, Except.toOption, Option.map_none]
      rw [absent] at read
      cases read
  | ok stored =>
      have present : (topologyAt env moment).config = some (configToProto stored) := by
        simp only [topologyAt, runAlone, buildTopology, Program.ask_bind, Program.run_request, perform,
          loaded, Program.pure_eq_finish, Program.run_finish, Except.toOption, Option.map_some]
      rw [present, clusterConfigFromProto_toProto] at read
      exact ⟨stored, rfl, (Option.some_inj.mp read).symm⟩

theorem topologyAt_shards : (topologyAt env moment).shards = moment.db.shards.map (shardToProto env.platform) := rfl

/-- A write that hits is a write that the server answers alike, on its first
query, without touching the store. -/
theorem writeHit_agrees (fresh : ActiveFresh env moment) {shardKey : Key} {result : WriteResult}
    (hit : tryResolveWriteLocal env.platform moment.now (some (topologyAt env moment)) shardKey = some result) :
    runAlone env (resolveWrite env.platform shardKey) moment = (.ok result, moment) := by
  simp only [tryResolveWriteLocal, Option.bind_eq_bind, Option.bind_some, Option.bind_eq_some_iff] at hit
  rcases hit with ⟨config, read, route, classified, selected⟩
  rcases topologyAt_config read with ⟨stored, loaded, rfl⟩
  have routes : classifyWriteFor env.platform stored moment.now shardKey = some route := classified
  rw [topologyAt_shards] at selected
  cases kind : route.kind with
  | error =>
      simp only [kind, Option.bind_eq_some_iff] at selected
      rcases selected with ⟨message, found, same⟩
      rcases findErrorShard_toProto env found with ⟨row, answer, sent⟩
      rw [← Option.some_inj.mp same, ← sent, localWriteResult_toProto]
      simp only [runAlone, resolveWrite, Program.ask_bind, Program.run_request, perform, loaded, routes,
        kind, answer, Program.pure_eq_finish, Program.run_finish]
  | bucket =>
      simp only [kind, Option.bind_eq_some_iff] at selected
      rcases selected with ⟨message, found, same⟩
      have named := classifyWrite_named classified kind
      rcases findActiveForBucket_toProto fresh named found with ⟨row, answer, sent⟩
      rw [← Option.some_inj.mp same, ← sent, localWriteResult_toProto]
      simp only [runAlone, resolveWrite, ensureActive, Program.ask_bind, Program.request_bind,
        Program.finish_bind, Program.run_request, perform, loaded, routes, kind, answer,
        Program.pure_eq_finish, Program.run_finish]

theorem readHit_agrees (fresh : ActiveFresh env moment) {shardKey : Key} {result : ReadResult}
    (hit : tryResolveReadLocal env.platform moment.now (some (topologyAt env moment)) shardKey = some result) :
    runAlone env (resolveRead env.platform shardKey) moment = (.ok result, moment) := by
  simp only [tryResolveReadLocal, Option.bind_eq_bind, Option.bind_some, Option.bind_eq_some_iff] at hit
  rcases hit with ⟨config, read, route, classified, selected⟩
  rcases topologyAt_config read with ⟨stored, loaded, rfl⟩
  have routes : classifyReadFor env.platform stored moment.now shardKey = some route := classified
  rw [topologyAt_shards] at selected
  cases kind : route.kind with
  | error =>
      by_cases evicted : route.reason = some .evicted
      · simp only [kind, evicted, if_true] at selected
        rw [← Option.some_inj.mp selected]
        simp only [runAlone, resolveRead, Program.ask_bind, Program.run_request, perform, loaded, routes,
          kind, evicted, if_true, Program.pure_eq_finish, Program.run_finish]
      · simp only [kind, evicted, if_false, Option.bind_eq_some_iff] at selected
        rcases selected with ⟨message, found, same⟩
        rcases findErrorShard_toProto env found with ⟨row, answer, sent⟩
        rw [← Option.some_inj.mp same, ← sent, localReadShard_toProto]
        simp only [runAlone, resolveRead, Program.ask_bind, Program.run_request, perform, loaded, routes,
          kind, evicted, if_false, answer, Program.pure_eq_finish, Program.run_finish]
  | bucket =>
      have named := classifyWrite_named classified kind
      simp only [kind, shardsForBucketRead_toProto fresh named, List.map_eq_nil_iff] at selected
      rw [run_resolveRead loaded routes kind]
      by_cases uncovered : Store.shardsForBucketRead env moment.now moment.db route.bucketID = []
      · rw [if_pos uncovered] at selected
        cases selected
      · rw [if_neg uncovered] at selected ⊢
        rw [← Option.some_inj.mp selected, List.map_map]
        have rows : localReadShard ∘ shardToProto env.platform = readShard env.platform :=
          funext fun _ => localReadShard_toProto
        rw [rows]

end Hits

/-- Whenever the library resolves a key on the topology of a moment at which
every active data shard is fresh, the server resolves the same key at the same
moment to an equal result and leaves the store as it was. -/
theorem localHits_agree_with_server (env : Env) (moment : Moment) (fresh : ActiveFresh env moment)
    (shardKey : Key) :
    (forall result,
      tryResolveWriteLocal env.platform moment.now (some (topologyAt env moment)) shardKey = some result ->
        runAlone env (resolveWrite env.platform shardKey) moment = (.ok result, moment)) ∧
    (forall result,
      tryResolveReadLocal env.platform moment.now (some (topologyAt env moment)) shardKey = some result ->
        runAlone env (resolveRead env.platform shardKey) moment = (.ok result, moment)) :=
  ⟨fun _ => writeHit_agrees fresh, fun _ => readHit_agrees fresh⟩

/-- With shard 1 serving the bucket of key 57, both kinds of resolve hit. -/
theorem localHits_agree_with_server_served :
    ActiveFresh sampleEnv servedBucket ∧
    (Exists fun result =>
      tryResolveWriteLocal samplePlatform servedBucket.now (some (topologyAt sampleEnv servedBucket))
        (.string "57") = some result ∧
      runAlone sampleEnv (resolveWrite samplePlatform (.string "57")) servedBucket =
        (.ok result, servedBucket)) ∧
    (Exists fun result =>
      tryResolveReadLocal samplePlatform servedBucket.now (some (topologyAt sampleEnv servedBucket))
        (.string "57") = some result ∧
      runAlone sampleEnv (resolveRead samplePlatform (.string "57")) servedBucket =
        (.ok result, servedBucket)) := by
  have fresh : ActiveFresh sampleEnv servedBucket := by
    unfold ActiveFresh
    decide +kernel
  have agrees := localHits_agree_with_server sampleEnv servedBucket fresh (.string "57")
  have writes : (tryResolveWriteLocal samplePlatform servedBucket.now
      (some (topologyAt sampleEnv servedBucket)) (.string "57")).isSome = true := by
    decide +kernel
  have reads : (tryResolveReadLocal samplePlatform servedBucket.now
      (some (topologyAt sampleEnv servedBucket)) (.string "57")).isSome = true := by
    decide +kernel
  rcases Option.isSome_iff_exists.mp writes with ⟨written, wrote⟩
  rcases Option.isSome_iff_exists.mp reads with ⟨returned, hit⟩
  exact ⟨fresh, ⟨written, wrote, agrees.1 written wrote⟩, ⟨returned, hit, agrees.2 returned hit⟩⟩

end Client
end Shardman
