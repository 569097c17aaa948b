import Shardman.Client.Stale

namespace Shardman
namespace Client

open Fsm
open Bucket
open Store
open Control
open Foundation
open Watch

/-!
# The library answers as the server would

`ResolveWrite` and `ResolveRead` of the client library look at the copy of the
topology first and ask the server only on a miss.  The copy may be older than
the table: heartbeats, sizes and row versions change without a new topology
version.  None of these shows in a result, so that on a copy of the current
version the library as a whole answers what the server would have answered,
hit or miss, as long as all active shards are fresh and the key survives the
wire.
-/

/-- The library's `ResolveRead`. -/
def clientResolveRead (platform : Platform) (now : Time) (topo : Option Topology) (shardKey : Key) :
    Routine (Except ClientError ReadResult) :=
  match tryResolveReadLocal platform now topo shardKey with
  | some result => pure (.ok result)
  | none =>
      match platform.newValue shardKey with
      | none => pure (.error .unsupportedKey)
      | some sent => do
          let answer <- resolveRead platform (platform.asInterface sent)
          pure (answer.mapError .server)

/-! ## Keys on the wire -/

section Wire

variable {platform : Platform} {shardKey : Key}

theorem resolveWrite_congr {other : Key} (same : SameBucket platform shardKey other) :
    resolveWrite platform other = resolveWrite platform shardKey := by
  have routes : forall config now,
      classifyWriteFor platform config now other = classifyWriteFor platform config now shardKey :=
    fun config now => classifyWrite_eq_of_id (same config.bucketSpec).symm now _ _
  simp only [resolveWrite, routes]

theorem resolveRead_congr {other : Key} (same : SameBucket platform shardKey other) :
    resolveRead platform other = resolveRead platform shardKey := by
  have routes : forall config now,
      classifyReadFor platform config now other = classifyReadFor platform config now shardKey :=
    fun config now => classifyWrite_eq_of_id (same config.bucketSpec).symm now _ _
  simp only [resolveRead, routes]

end Wire

/-! ## What a result shows of a row -/

/-- A message without the columns that change between topology versions. -/
def ShardMessage.lasting (message : ShardMessage) : ShardMessage :=
  { message with reportedBytes := 0, maxBytes := 0, version := 0 }

def Topology.lasting (topology : Topology) : Topology :=
  { topology with topologyVersion := 0, shards := topology.shards.map ShardMessage.lasting }

section Lasting

variable {platform : Platform} {now : Time} {shardKey : Key}

theorem findErrorShard_lasting (shards : List ShardMessage) :
    findErrorShard (shards.map ShardMessage.lasting) = (findErrorShard shards).map ShardMessage.lasting :=
  List.find?_map

theorem findActiveForBucket_lasting (shards : List ShardMessage) (bucketID : String) :
    findActiveForBucket (shards.map ShardMessage.lasting) bucketID =
      (findActiveForBucket shards bucketID).map ShardMessage.lasting :=
  List.find?_map

theorem shardsForBucketRead_lasting (shards : List ShardMessage) (bucketID : String) :
    shardsForBucketRead (shards.map ShardMessage.lasting) bucketID =
      (shardsForBucketRead shards bucketID).map ShardMessage.lasting :=
  List.filter_map

/-- A write is resolved without the changing columns. -/
theorem writeLocal_lasting (topology : Topology) :
    tryResolveWriteLocal platform now (some topology.lasting) shardKey =
      tryResolveWriteLocal platform now (some topology) shardKey := by
  have shown : forall routing bucketID reason (found : Option ShardMessage),
      ((found.map ShardMessage.lasting).bind fun shard => some (localWriteResult routing bucketID reason shard)) =
        found.bind fun shard => some (localWriteResult routing bucketID reason shard) := by
    intro routing bucketID reason found
    cases found <;> rfl
  simp only [tryResolveWriteLocal, Topology.lasting, Option.bind_eq_bind, Option.bind_some, findErrorShard_lasting,
    findActiveForBucket_lasting, shown]

theorem readLocal_lasting (topology : Topology) :
    tryResolveReadLocal platform now (some topology.lasting) shardKey =
      tryResolveReadLocal platform now (some topology) shardKey := by
  have shown : forall bucketID reason (found : Option ShardMessage),
      ((found.map ShardMessage.lasting).bind fun shard =>
        some (⟨.error, bucketID, reason, [localReadShard shard]⟩ : ReadResult)) =
        found.bind fun shard => some ⟨.error, bucketID, reason, [localReadShard shard]⟩ := by
    intro bucketID reason found
    cases found <;> rfl
  have listed : localReadShard ∘ ShardMessage.lasting = localReadShard := rfl
  simp only [tryResolveReadLocal, Topology.lasting, Option.bind_eq_bind, Option.bind_some, findErrorShard_lasting,
    shardsForBucketRead_lasting, shown, List.map_eq_nil_iff, List.map_map, listed]

end Lasting

/-! ## Copies of the current version -/

/-- Lists that agree in one respect, element by element, agree in another one
that is determined by it. -/
theorem map_eq_map_of {X Y Z : Type} {shown : X -> Y} {wanted : X -> Z} (first second : List X)
    (same : first.map shown = second.map shown)
    (determined : forall left, left ∈ first -> forall right, right ∈ second -> shown left = shown right ->
      wanted left = wanted right) : first.map wanted = second.map wanted := by
  induction first generalizing second with
  | nil =>
      cases second with
      | nil => rfl
      | cons => cases same
  | cons left rest inductionHypothesis =>
      cases second with
      | nil => cases same
      | cons right others =>
          rw [List.map_cons, List.map_cons, List.cons.injEq] at same
          rw [List.map_cons, List.map_cons,
            determined left List.mem_cons_self right List.mem_cons_self same.1,
            inductionHypothesis others same.2 fun left leftMember right rightMember =>
              determined left (List.mem_cons_of_mem _ leftMember) right (List.mem_cons_of_mem _ rightMember)]

section Copies

variable {env : Env} {moment : Moment} {topology : Topology}

/-- A copy of the current version has the lasting columns of the rows. -/
theorem upToDate_lasting (current : UpToDate env.platform topology moment) (booted : moment.db.cluster ≠ none) :
    topology.lasting = (topologyAt env moment).lasting := by
  rcases current.rows booted with ⟨earlier, rows, continues, view⟩
  have config : topology.config = (topologyAt env moment).config := current.config
  have shards : topology.shards.map ShardMessage.lasting =
      (topologyAt env moment).shards.map ShardMessage.lasting := by
    rw [topologyAt_shards, rows, currentShards, listShards, List.map_map, List.map_map]
    refine map_eq_map_of _ _ view fun before beforeMember row member entry => ?_
    rcases continues.rows before beforeMember with ⟨moved, movedMember, id, uuid, _⟩
    simp only [routingEntry, RoutingEntry.mk.injEq] at entry
    have same : moved.id = row.id :=
      moment.db.uuidUnique moved movedMember row member (Option.some_ne_none _)
        (congrArg some (uuid.trans entry.1))
    simp only [Function.comp_apply, ShardMessage.lasting, shardToProto, entry, ← id, same]
  rw [Topology.lasting, Topology.lasting, config, shards]

/-- On a copy of the current version the library finds what it would find on the
table itself. -/
theorem upToDate_local (current : UpToDate env.platform topology moment) (shardKey : Key) :
    tryResolveWriteLocal env.platform moment.now (some topology) shardKey =
      tryResolveWriteLocal env.platform moment.now (some (topologyAt env moment)) shardKey ∧
    tryResolveReadLocal env.platform moment.now (some topology) shardKey =
      tryResolveReadLocal env.platform moment.now (some (topologyAt env moment)) shardKey := by
  cases row : moment.db.cluster with
  | none =>
      have config : topology.config = (topologyAt env moment).config := current.config
      have absent : topology.config = none := by
        rw [current.config, currentConfig, getConfig, row]
        rfl
      simp only [tryResolveWriteLocal, tryResolveReadLocal, ← config, absent, clusterConfigFromProto,
        Option.bind_eq_bind, Option.bind_some, Option.bind_none, and_self]
  | some cluster =>
      have booted : moment.db.cluster ≠ none := by
        rw [row]
        exact Option.some_ne_none _
      have same : topology.lasting = (topologyAt env moment).lasting := upToDate_lasting current booted
      constructor
      · rw [← writeLocal_lasting topology, same, writeLocal_lasting]
      · rw [← readLocal_lasting topology, same, readLocal_lasting]

/-- On a miss the key goes over the wire. -/
theorem run_write_miss {topo : Option Topology} {shardKey : Key} {sent : WireValue}
    (encoded : env.platform.newValue shardKey = some sent)
    (same : SameBucket env.platform shardKey (env.platform.asInterface sent))
    (missed : tryResolveWriteLocal env.platform moment.now topo shardKey = none) :
    runAlone env (clientResolveWrite env.platform moment.now topo shardKey) moment =
      ((runAlone env (resolveWrite env.platform shardKey) moment).1.mapError .server,
        (runAlone env (resolveWrite env.platform shardKey) moment).2) := by
  simp only [clientResolveWrite, missed, encoded, resolveWrite_congr same, runAlone, Program.run_bind]
  rfl

theorem run_read_miss {topo : Option Topology} {shardKey : Key} {sent : WireValue}
    (encoded : env.platform.newValue shardKey = some sent)
    (same : SameBucket env.platform shardKey (env.platform.asInterface sent))
    (missed : tryResolveReadLocal env.platform moment.now topo shardKey = none) :
    runAlone env (clientResolveRead env.platform moment.now topo shardKey) moment =
      ((runAlone env (resolveRead env.platform shardKey) moment).1.mapError .server,
        (runAlone env (resolveRead env.platform shardKey) moment).2) := by
  simp only [clientResolveRead, missed, encoded, resolveRead_congr same, runAlone, Program.run_bind]
  rfl

end Copies

/-- On any topology that a server has handed out and that has the current
version, while all active shards are fresh, the library resolves every key that
can be sent and survives the wire as the server does: the same result or
failure, and the same table afterwards. -/
theorem client_resolves_like_server (env : Env) (start : Moment) {past : Past} {server : Server}
    (run : Serves env start past server) {topology : Topology} (handed : HandedOut server topology)
    (current : topology.topologyVersion = currentVersion server.moment.db)
    (fresh : ActiveFresh env server.moment) (documented : DocumentedWire env.platform) {shardKey : Key}
    {sent : WireValue} (encoded : env.platform.newValue shardKey = some sent)
    (survives : SurvivesWire env.platform shardKey) :
    runAlone env (clientResolveWrite env.platform server.moment.now (some topology) shardKey) server.moment =
      ((runAlone env (resolveWrite env.platform shardKey) server.moment).1.mapError .server,
        (runAlone env (resolveWrite env.platform shardKey) server.moment).2) ∧
    runAlone env (clientResolveRead env.platform server.moment.now (some topology) shardKey) server.moment =
      ((runAlone env (resolveRead env.platform shardKey) server.moment).1.mapError .server,
        (runAlone env (resolveRead env.platform shardKey) server.moment).2) := by
  have upToDate := handedOut_upToDate run handed current
  rcases upToDate_local upToDate shardKey with ⟨writes, reads⟩
  have same := survives_sameBucket documented encoded survives
  constructor
  · cases looked : tryResolveWriteLocal env.platform server.moment.now (some topology) shardKey with
    | none => exact run_write_miss encoded same looked
    | some result =>
        rw [run_clientResolveWrite_hit looked, writeHit_agrees fresh (writes ▸ looked)]
        rfl
  · cases looked : tryResolveReadLocal env.platform server.moment.now (some topology) shardKey with
    | none => exact run_read_miss encoded same looked
    | some result =>
        rw [readHit_agrees fresh (reads ▸ looked), clientResolveRead, looked]
        rfl

instance (env : Env) (moment : Moment) : Decidable (ActiveFresh env moment) :=
  inferInstanceAs (Decidable (forall row, row ∈ moment.db.shards -> _ -> _ -> _))

/-- Shard 1 reports its size after the topology was fetched, so that the copy is
older than the table. -/
theorem client_resolves_like_server_reported :
    Exists fun past => Exists fun server => Exists fun topology =>
      Serves sampleEnv servedBucket past server ∧ HandedOut server topology ∧
      topology.topologyVersion = currentVersion server.moment.db ∧ ActiveFresh sampleEnv server.moment ∧
      runAlone sampleEnv (clientResolveWrite samplePlatform server.moment.now (some topology) (.string "57"))
          server.moment =
        ((runAlone sampleEnv (resolveWrite samplePlatform (.string "57")) server.moment).1.mapError .server,
          (runAlone sampleEnv (resolveWrite samplePlatform (.string "57")) server.moment).2) := by
  have passed : replayCheck (step sampleEnv)
      [.get, .answer 0, .answer 0, .answer 0, .store (.perform (.updateStats 1 50))] (newServer servedBucket)
      (fun _ server => decide (ActiveFresh sampleEnv server.moment) && (fetched server).any fun topology =>
        topology.topologyVersion == currentVersion server.moment.db) = true := by
    decide +kernel
  rcases replayCheck_run passed with ⟨past, server, run, checked⟩
  rcases Bool.and_eq_true_iff.mp checked with ⟨fresh, copied⟩
  rcases (Option.any_eq_true _ _).mp copied with ⟨topology, found, current⟩
  have handed := handedOut_of_fetched found
  have encoded : sampleEnv.platform.newValue (.string "57") = some (.string "57") := rfl
  have survives : SurvivesWire sampleEnv.platform (.string "57") := trivial
  exact ⟨past, server, topology, run, handed, beq_iff_eq.mp current, of_decide_eq_true fresh,
    (client_resolves_like_server sampleEnv servedBucket run handed (beq_iff_eq.mp current) (of_decide_eq_true fresh)
      samplePlatform_documented encoded survives).1⟩

end Client
end Shardman
