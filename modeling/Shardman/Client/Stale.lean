import Shardman.Bucket.Wire
import Shardman.Watch.Current

namespace Shardman
namespace Client

open Fsm
open Bucket
open Store
open Control
open Foundation
open Watch

/-!
# Silent active shards

An active data shard that has missed its heartbeats should receive no writes: a
resolve should treat it as missing and let failover replace it.  The server
filters its query by the last heartbeat.  The client library resolves on its
copy of the topology, which carries no heartbeats and does not change when one
is missed.
-/

/-- The shard with an id is an active data shard without a fresh heartbeat. -/
def StaleActive (env : Env) (moment : Moment) (id : Nat) : Prop :=
  Exists fun row => row ∈ moment.db.shards ∧ row.id = id ∧ row.role = .data ∧ row.state = .active ∧
    ¬ Fresh env moment.now row

/-- A row is the silent active shard of the bucket that a key is written to. -/
def SilentFor (env : Env) (moment : Moment) (shardKey : Key) (row : Shard) : Prop :=
  Exists fun config => Exists fun route => getConfig moment.db = .ok config ∧
    classifyWriteFor env.platform config moment.now shardKey = some route ∧ route.kind = .bucket ∧
    row ∈ moment.db.shards ∧ InState .active route.bucketID row ∧ ¬ Fresh env moment.now row

inductive ClientError
  | unsupportedKey
  | server (failure : ResolveError)
deriving DecidableEq, Repr

/-- The library's `ResolveWrite`: on a miss the key goes over the wire to the
server. -/
def clientResolveWrite (platform : Platform) (now : Time) (topo : Option Topology) (shardKey : Key) :
    Routine (Except ClientError WriteResult) :=
  match tryResolveWriteLocal platform now topo shardKey with
  | some result => pure (.ok result)
  | none =>
      match platform.newValue shardKey with
      | none => pure (.error .unsupportedKey)
      | some sent => do
          let answer <- resolveWrite platform (platform.asInterface sent)
          pure (answer.mapError .server)

/-! ## The server's own resolve -/

section Server

variable {env : Env} {moment : Moment} {bucketID : String}

theorem not_staleActive {row : Shard} (member : row ∈ moment.db.shards)
    (serves : row.role = .data -> row.state = .active -> Fresh env moment.now row) :
    ¬ StaleActive env moment row.id := by
  rintro ⟨other, otherMember, same, data, active, silent⟩
  cases moment.db.eq_of_id otherMember member same
  exact silent (serves data active)

/-- `ensureActive` returns the fresh active shard, fails, or returns a standby
that it has activated.  A silent active shard has been sealed in any case. -/
theorem run_ensureActive (env : Env) (moment : Moment) (bucketID : String) :
    (Exists fun shard => activeForBucket env moment.now moment.db bucketID = some shard ∧
      runAlone env (ensureActive bucketID) moment = (.ok shard, moment)) ∨
    (activeForBucket env moment.now moment.db bucketID = none ∧
      ((Exists fun failure => Exists fun after =>
          runAlone env (ensureActive bucketID) moment = (.error failure, after)) ∨
        (Exists fun spare => Exists fun after => nextStandby moment.db = some spare ∧
          (Rewrite.activate moment.now bucketID).apply spare ∈ after.shards ∧
          runAlone env (ensureActive bucketID) moment =
            (.ok ((Rewrite.activate moment.now bucketID).apply spare), ⟨after, moment.now⟩))) ∧
      forall stale, stale ∈ moment.db.shards -> InState .active bucketID stale ->
        Exists fun retired => retired ∈ (runAlone env (ensureActive bucketID) moment).2.db.shards ∧
          retired.id = stale.id ∧ retired.state = .sealed) := by
  cases answer : activeForBucket env moment.now moment.db bucketID with
  | some shard =>
      refine Or.inl ⟨shard, rfl, ?_⟩
      simp only [runAlone, ensureActive, Program.ask_bind, Program.run_request, perform, answer,
        Program.pure_eq_finish, Program.run_finish]
  | none =>
      refine Or.inr ⟨rfl, ?_⟩
      cases silent : staleActiveForBucket env moment.now moment.db bucketID with
      | none =>
          have vacant : forall row, row ∈ moment.db.shards -> ¬ InState .active bucketID row := by
            intro row member serves
            by_cases fresh : Fresh env moment.now row
            · exact scan_head_none answer member ⟨serves, fresh⟩
            · exact scan_head_none silent member ⟨serves, fresh⟩
          refine ⟨?_, fun stale member serves => absurd serves (vacant stale member)⟩
          rcases run_ensureActive_vacant answer silent with ⟨failure, failed⟩ | ⟨spare, after, found, table, done⟩
          · exact Or.inl ⟨failure, moment, failed⟩
          · refine Or.inr ⟨spare, after, found, ?_, done⟩
            rw [table]
            exact mem_tableAt.mpr (Or.inl ⟨spare, (nextStandby_some found).1, rfl, rfl⟩)
      | some stale =>
          rcases scan_head_some silent with ⟨staleMember, staleServes, _⟩
          rcases run_ensureActive_silent answer silent with ⟨failure, after, _, table, failed⟩ |
            ⟨spare, after, found, table, done⟩
          · refine ⟨Or.inl ⟨failure, _, failed⟩, ?_⟩
            intro other member serves
            rw [active_unique member staleMember serves staleServes]
            refine ⟨(Rewrite.sealRow moment.now).apply stale, ?_, rfl, rfl⟩
            rw [failed, table]
            exact mem_tableAt.mpr (Or.inl ⟨stale, staleMember, rfl, rfl⟩)
          · rcases nextStandby_some found with ⟨spareMember, pooled⟩
            have different : spare.id ≠ stale.id :=
              pooled_id_ne spareMember pooled staleMember (active_not_pooled staleServes)
            refine ⟨Or.inr ⟨spare, after, found, ?_, done⟩, ?_⟩
            · rw [table]
              exact (mem_tableRotated staleMember spareMember different).mpr (Or.inr (Or.inl rfl))
            · intro other member serves
              rw [active_unique member staleMember serves staleServes]
              refine ⟨(Rewrite.sealRow moment.now).apply stale, ?_, rfl, rfl⟩
              rw [done, table]
              exact (mem_tableRotated staleMember spareMember different).mpr (Or.inl rfl)

/-- The server never returns a silent active shard, be it judged before the call
or after it. -/
theorem resolveWrite_not_stale {shardKey : Key} {result : WriteResult} {after : Moment}
    (resolved : runAlone env (resolveWrite env.platform shardKey) moment = (.ok result, after)) :
    ¬ StaleActive env moment result.shardID ∧ ¬ StaleActive env after result.shardID := by
  cases loaded : getConfig moment.db with
  | error failure =>
      simp only [runAlone, resolveWrite, Program.ask_bind, Program.run_request, perform, loaded,
        Program.pure_eq_finish, Program.run_finish] at resolved
      cases resolved
  | ok config =>
      cases classified : classifyWriteFor env.platform config moment.now shardKey with
      | none =>
          simp only [runAlone, resolveWrite, Program.ask_bind, Program.run_request, perform, loaded, classified,
            Program.pure_eq_finish, Program.run_finish] at resolved
          cases resolved
      | some route =>
          cases kind : route.kind with
          | error =>
              simp only [runAlone, resolveWrite, Program.ask_bind, Program.run_request, perform, loaded,
                classified, kind] at resolved
              cases found : getErrorShard env moment.db with
              | none =>
                  rw [found] at resolved
                  cases resolved
              | some row =>
                  rw [found] at resolved
                  cases resolved
                  rcases scan_head_some found with ⟨member, isError⟩
                  have never : ¬ StaleActive env moment row.id := by
                    apply not_staleActive member
                    intro data
                    rw [isError] at data
                    cases data
                  exact ⟨never, never⟩
          | bucket =>
              rw [run_resolveWrite loaded classified kind] at resolved
              rcases run_ensureActive env moment route.bucketID with ⟨shard, answer, done⟩ |
                ⟨_, ⟨failure, left, failed⟩ | ⟨spare, written, found, activated, done⟩, _⟩
              · rw [done] at resolved
                cases resolved
                rcases scan_head_some answer with ⟨member, _, fresh⟩
                have never : ¬ StaleActive env moment shard.id := not_staleActive member fun _ _ => fresh
                exact ⟨never, never⟩
              · rw [failed] at resolved
                cases resolved
              · rw [done] at resolved
                cases resolved
                rcases nextStandby_some found with ⟨member, pooled⟩
                constructor
                · -- Before the call the shard was a standby.
                  apply not_staleActive member
                  intro _ active
                  rw [pooled.2.1] at active
                  cases active
                · exact not_staleActive activated fun _ _ => activated_fresh spare

/-- Instead, a write to its bucket seals it. -/
theorem resolveWrite_seals_silent {shardKey : Key} {row : Shard} (silent : SilentFor env moment shardKey row) :
    Exists fun retired => retired ∈ (runAlone env (resolveWrite env.platform shardKey) moment).2.db.shards ∧
      retired.id = row.id ∧ retired.state = .sealed := by
  rcases silent with ⟨config, route, loaded, classified, kind, member, serves, missed⟩
  rw [run_resolveWrite loaded classified kind]
  rcases run_ensureActive env moment route.bucketID with ⟨shard, answer, _⟩ | ⟨_, _, sealed⟩
  · rcases scan_head_some answer with ⟨shardMember, shardServes, fresh⟩
    cases active_unique shardMember member shardServes serves
    exact absurd fresh missed
  · rcases sealed row member serves with ⟨retired, present, same⟩
    refine ⟨retired, ?_, same⟩
    rcases outcome : runAlone env (ensureActive route.bucketID) moment with ⟨reply, after⟩
    rw [outcome] at present
    cases reply <;> exact present

end Server

/-! ## The library on a current copy -/

section Library

variable {env : Env} {moment : Moment} {topology : Topology}

/-- A shard that a current copy shows as active is active, under the same id. -/
theorem upToDate_active (current : UpToDate env.platform topology moment) (booted : moment.db.cluster ≠ none)
    {bucketID : String} (named : bucketID ≠ "") {message : ShardMessage}
    (found : findActiveForBucket topology.shards bucketID = some message) :
    Exists fun row => row ∈ moment.db.shards ∧ row.id = message.id ∧ InState .active bucketID row := by
  rcases current.rows booted with ⟨earlier, rows, continues, view⟩
  rw [rows, currentShards, listShards, findActiveForBucket, List.find?_map] at found
  rcases Option.map_eq_some_iff.mp found with ⟨before, chosen, rfl⟩
  have selected := List.find?_some chosen
  rcases of_decide_eq_true selected with ⟨role, state, bucket⟩
  have beforeMember := List.mem_of_find?_eq_some chosen
  have seen : routingEntry before ∈ routingView moment.db := by
    rw [← view]
    exact List.mem_map_of_mem beforeMember
  rcases List.mem_map.mp seen with ⟨row, member, entry⟩
  rcases continues.rows before beforeMember with ⟨moved, movedMember, id, uuid, _⟩
  simp only [routingEntry, RoutingEntry.mk.injEq] at entry
  have same : row.id = moved.id :=
    moment.db.uuidUnique row member moved movedMember (Option.some_ne_none _)
      (congrArg some (entry.1.trans uuid.symm))
  refine ⟨row, member, same.trans id, ?_⟩
  refine ⟨entry.2.1.trans (role_text_inj.mp role), ?_, entry.2.2.1.trans (state_text_inj.mp state)⟩
  exact entry.2.2.2.1.trans ((bucketID_toProto named).mp bucket)

/-- A current copy shows every active shard. -/
theorem upToDate_finds (current : UpToDate env.platform topology moment) (booted : moment.db.cluster ≠ none)
    {bucketID : String} {row : Shard} (member : row ∈ moment.db.shards)
    (serves : InState .active bucketID row) :
    (findActiveForBucket topology.shards bucketID).isSome = true := by
  rcases current.rows booted with ⟨earlier, rows, _, view⟩
  have seen : routingEntry row ∈ routingView earlier.db := by
    rw [view]
    exact List.mem_map_of_mem member
  rcases List.mem_map.mp seen with ⟨before, beforeMember, entry⟩
  simp only [routingEntry, RoutingEntry.mk.injEq] at entry
  rw [rows, currentShards, listShards, findActiveForBucket, List.find?_isSome]
  refine ⟨shardToProto env.platform before, List.mem_map_of_mem beforeMember, decide_eq_true ⟨?_, ?_, ?_⟩⟩
  · exact congrArg Role.text (entry.2.1.trans serves.1)
  · exact congrArg State.text (entry.2.2.1.trans serves.2.2)
  · simp only [shardToProto, entry.2.2.2.1.trans serves.2.1, Option.getD_some]

theorem upToDate_error (current : UpToDate env.platform topology moment) (booted : moment.db.cluster ≠ none)
    {message : ShardMessage} (found : findErrorShard topology.shards = some message) :
    Exists fun row => row ∈ moment.db.shards ∧ row.id = message.id ∧ row.role = .error := by
  rcases current.rows booted with ⟨earlier, rows, continues, _⟩
  rw [rows, currentShards, listShards, findErrorShard, List.find?_map] at found
  rcases Option.map_eq_some_iff.mp found with ⟨before, chosen, rfl⟩
  have selected := List.find?_some chosen
  have isError : before.role = .error := role_text_inj.mp (of_decide_eq_true selected)
  rcases continues.rows before (List.mem_of_find?_eq_some chosen) with ⟨moved, member, id, _, role, _⟩
  exact ⟨moved, member, id, role.trans isError⟩

/-- What the library's classification on a current copy is. -/
theorem upToDate_config (current : UpToDate env.platform topology moment) {config : ClusterConfig}
    (loaded : getConfig moment.db = .ok config) :
    clusterConfigFromProto topology.config =
      some ⟨config.bucketSpec, config.retentionDepth, config.maxFutureBuckets⟩ := by
  rw [current.config, currentConfig, loaded]
  exact clusterConfigFromProto_toProto config

theorem booted_of_config {config : ClusterConfig} (loaded : getConfig moment.db = .ok config) :
    moment.db.cluster ≠ none := by
  intro absent
  rw [getConfig, absent] at loaded
  cases loaded

/-- A hit returns a silent active shard exactly when that is the shard of the
key's bucket. -/
theorem hit_stale_iff (current : UpToDate env.platform topology moment) {shardKey : Key} {result : WriteResult}
    (hit : tryResolveWriteLocal env.platform moment.now (some topology) shardKey = some result) :
    StaleActive env moment result.shardID ↔ Exists fun row => SilentFor env moment shardKey row := by
  simp only [tryResolveWriteLocal, Option.bind_eq_bind, Option.bind_some, Option.bind_eq_some_iff] at hit
  rcases hit with ⟨settings, read, route, classified, selected⟩
  cases loaded : getConfig moment.db with
  | error failure =>
      rw [current.config, currentConfig, loaded] at read
      cases read
  | ok config =>
      rw [upToDate_config current loaded, Option.some_inj] at read
      rw [← read] at classified
      have routes : classifyWriteFor env.platform config moment.now shardKey = some route := classified
      have booted := booted_of_config loaded
      cases kind : route.kind with
      | error =>
          simp only [kind, Option.bind_eq_some_iff] at selected
          rcases selected with ⟨message, found, same⟩
          rcases upToDate_error current booted found with ⟨row, member, id, isError⟩
          cases same
          refine iff_of_false ?_ ?_
          · change ¬ StaleActive env moment message.id
            rw [← id]
            apply not_staleActive member
            intro data
            rw [isError] at data
            cases data
          · rintro ⟨silent, otherConfig, otherRoute, otherLoaded, otherRoutes, otherKind, _⟩
            rw [loaded] at otherLoaded
            cases otherLoaded
            rw [routes] at otherRoutes
            cases otherRoutes
            rw [kind] at otherKind
            cases otherKind
      | bucket =>
          simp only [kind, Option.bind_eq_some_iff] at selected
          rcases selected with ⟨message, found, same⟩
          have named := classifyWrite_named classified kind
          rcases upToDate_active current booted named found with ⟨row, member, id, serves⟩
          cases same
          change StaleActive env moment message.id ↔ _
          constructor
          · rintro ⟨other, otherMember, otherID, _, _, silent⟩
            cases moment.db.eq_of_id otherMember member (otherID.trans id.symm)
            exact ⟨row, config, route, loaded, routes, kind, member, serves, silent⟩
          · rintro ⟨other, otherConfig, otherRoute, otherLoaded, otherRoutes, _, otherMember, otherServes, silent⟩
            rw [loaded] at otherLoaded
            cases otherLoaded
            rw [routes] at otherRoutes
            cases otherRoutes
            cases active_unique otherMember member otherServes serves
            exact ⟨row, member, id, serves.1, serves.2.2, silent⟩

/-- While the bucket of a key has an active shard, the library hits. -/
theorem hit_of_silent (current : UpToDate env.platform topology moment) {shardKey : Key} {row : Shard}
    (silent : SilentFor env moment shardKey row) :
    Exists fun result =>
      tryResolveWriteLocal env.platform moment.now (some topology) shardKey = some result := by
  rcases silent with ⟨config, route, loaded, classified, kind, member, serves, _⟩
  rcases Option.isSome_iff_exists.mp (upToDate_finds current (booted_of_config loaded) member serves) with
    ⟨message, found⟩
  have routes : classifyWrite env.platform config.bucketSpec moment.now shardKey
      (config.retentionDepth.getD 0) (config.maxFutureBuckets.getD 0) = some route := classified
  refine ⟨localWriteResult .bucket route.bucketID none message, ?_⟩
  simp only [tryResolveWriteLocal, Option.bind_eq_bind, Option.bind_some, upToDate_config current loaded,
    retentionArgs, routes, kind, found]

/-- On a miss the library returns what the server resolves some key to. -/
theorem run_clientResolveWrite_miss {topo : Option Topology} {shardKey : Key} {result : WriteResult}
    {after : Moment} (missed : tryResolveWriteLocal env.platform moment.now topo shardKey = none)
    (resolved : runAlone env (clientResolveWrite env.platform moment.now topo shardKey) moment =
      (.ok result, after)) :
    Exists fun received => runAlone env (resolveWrite env.platform received) moment = (.ok result, after) := by
  unfold clientResolveWrite at resolved
  rw [missed] at resolved
  cases encoded : env.platform.newValue shardKey with
  | none =>
      rw [encoded] at resolved
      cases resolved
  | some sent =>
      refine ⟨env.platform.asInterface sent, ?_⟩
      simp only [encoded, runAlone, Program.run_bind] at resolved
      rw [runAlone]
      rcases outcome : Program.run (perform env) (resolveWrite env.platform (env.platform.asInterface sent)) moment
        with ⟨answer, left⟩
      rw [outcome] at resolved
      cases answer with
      | error failure => cases resolved
      | ok found =>
          cases resolved
          rfl

theorem run_clientResolveWrite_hit {topo : Option Topology} {shardKey : Key} {result : WriteResult}
    (hit : tryResolveWriteLocal env.platform moment.now topo shardKey = some result) :
    runAlone env (clientResolveWrite env.platform moment.now topo shardKey) moment = (.ok result, moment) := by
  simp only [clientResolveWrite, hit, runAlone, Program.pure_eq_finish, Program.run_finish]

end Library

/-- The server never returns a silent active shard and seals the one of the
key's bucket.  The library, on a topology that some server has handed out and
that has the current version, does not return one exactly when the key's bucket
has none. -/
theorem silent_active_avoided_iff (env : Env) (start : Moment) {past : Past} {server : Server}
    (run : Serves env start past server) {topology : Topology} (handed : HandedOut server topology)
    (current : topology.topologyVersion = currentVersion server.moment.db) (shardKey : Key) :
    (forall moment received result after,
      runAlone env (resolveWrite env.platform received) moment = (.ok result, after) ->
        ¬ StaleActive env moment result.shardID ∧ ¬ StaleActive env after result.shardID) ∧
    (forall moment received row, SilentFor env moment received row ->
      Exists fun retired =>
        retired ∈ (runAlone env (resolveWrite env.platform received) moment).2.db.shards ∧
          retired.id = row.id ∧ retired.state = .sealed) ∧
    ((forall result after,
      runAlone env (clientResolveWrite env.platform server.moment.now (some topology) shardKey) server.moment =
        (.ok result, after) -> ¬ StaleActive env server.moment result.shardID) ↔
      forall row, ¬ SilentFor env server.moment shardKey row) := by
  refine ⟨fun _ _ _ _ => resolveWrite_not_stale, fun _ _ _ => resolveWrite_seals_silent, ?_⟩
  have upToDate := handedOut_upToDate run handed current
  constructor
  · intro avoided row silent
    rcases hit_of_silent upToDate silent with ⟨result, hit⟩
    exact avoided result server.moment (run_clientResolveWrite_hit hit)
      ((hit_stale_iff upToDate hit).mpr ⟨row, silent⟩)
  · intro lively result after resolved
    cases looked : tryResolveWriteLocal env.platform server.moment.now (some topology) shardKey with
    | some found =>
        rw [run_clientResolveWrite_hit looked] at resolved
        cases resolved
        intro stale
        rcases (hit_stale_iff upToDate looked).mp stale with ⟨row, silent⟩
        exact lively row silent
    | none =>
        rcases run_clientResolveWrite_miss looked resolved with ⟨received, answered⟩
        exact (resolveWrite_not_stale answered).1

instance (env : Env) (moment : Moment) (id : Nat) : Decidable (StaleActive env moment id) :=
  inferInstanceAs (Decidable (Exists fun row => row ∈ moment.db.shards ∧ _))

/-- The only topology that was fetched. -/
def fetched (server : Server) : Option Topology :=
  match server.getters with
  | [.built topology] => some topology
  | _ => none

theorem handedOut_of_fetched {server : Server} {topology : Topology} (found : fetched server = some topology) :
    HandedOut server topology := by
  unfold fetched at found
  split at found
  · rename_i listed
    cases found
    refine Or.inl ?_
    rw [listed]
    exact List.mem_singleton_self _
  · cases found

/-- What the library returns for key 57 on the topology that was fetched, and
whether that is a silent shard.  The topology must have the current version. -/
def resolvedOnCopy (server : Server) : Option (Nat × Bool) := do
  let topology <- fetched server
  let result <- (runAlone sampleEnv (clientResolveWrite samplePlatform server.moment.now (some topology)
    (.string "57")) server.moment).1.toOption
  if topology.topologyVersion = currentVersion server.moment.db then
    some (result.shardID, decide (StaleActive sampleEnv server.moment result.shardID))
  else
    none

theorem resolvedOnCopy_some {server : Server} {id : Nat} {stale : Bool}
    (resolved : resolvedOnCopy server = some (id, stale)) :
    Exists fun topology => Exists fun result => HandedOut server topology ∧
      topology.topologyVersion = currentVersion server.moment.db ∧
      (runAlone sampleEnv (clientResolveWrite samplePlatform server.moment.now (some topology)
        (.string "57")) server.moment).1 = .ok result ∧
      result.shardID = id ∧ decide (StaleActive sampleEnv server.moment result.shardID) = stale := by
  unfold resolvedOnCopy at resolved
  rcases Option.bind_eq_some_iff.mp resolved with ⟨topology, copied, rest⟩
  rcases Option.bind_eq_some_iff.mp rest with ⟨result, succeeded, shown⟩
  cases outcome : (runAlone sampleEnv (clientResolveWrite samplePlatform server.moment.now (some topology)
      (.string "57")) server.moment).1 with
  | error failure =>
      rw [outcome] at succeeded
      cases succeeded
  | ok answer =>
      rw [outcome] at succeeded
      cases succeeded
      by_cases current : topology.topologyVersion = currentVersion server.moment.db
      · rw [if_pos current, Option.some_inj, Prod.mk.injEq] at shown
        exact ⟨topology, result, handedOut_of_fetched copied, current, outcome, shown⟩
      · rw [if_neg current] at shown
        cases shown

/-- A topology fetched while shard 1 serves the bucket of key 57. -/
theorem silent_active_avoided_iff_served :
    Exists fun past => Exists fun server => Exists fun topology => Exists fun result =>
      Serves sampleEnv servedBucket past server ∧ HandedOut server topology ∧
      topology.topologyVersion = currentVersion server.moment.db ∧
      (runAlone sampleEnv (clientResolveWrite samplePlatform server.moment.now (some topology)
        (.string "57")) server.moment).1 = .ok result ∧ result.shardID = 1 ∧
      ((forall result after,
        runAlone sampleEnv (clientResolveWrite samplePlatform server.moment.now (some topology)
          (.string "57")) server.moment = (.ok result, after) ->
          ¬ StaleActive sampleEnv server.moment result.shardID) ↔
        forall row, ¬ SilentFor sampleEnv server.moment (.string "57") row) := by
  have passed : replayCheck (step sampleEnv) [.get, .answer 0, .answer 0, .answer 0] (newServer servedBucket)
      (fun _ server => resolvedOnCopy server == some (1, false)) = true := by
    decide +kernel
  rcases replayCheck_run passed with ⟨past, server, run, checked⟩
  rcases resolvedOnCopy_some (beq_iff_eq.mp checked) with ⟨topology, result, handed, current, resolved, same, _⟩
  exact ⟨past, server, topology, result, run, handed, current, resolved, same,
    (silent_active_avoided_iff sampleEnv servedBucket run handed current (.string "57")).2.2⟩

/-- After the topology was fetched shard 1 misses its heartbeats for 61 seconds.
The version stays, and the library still returns the shard. -/
theorem copy_returns_silent_active :
    Exists fun past => Exists fun server => Exists fun topology => Exists fun result =>
      Serves sampleEnv servedBucket past server ∧ HandedOut server topology ∧
      topology.topologyVersion = currentVersion server.moment.db ∧
      (runAlone sampleEnv (clientResolveWrite samplePlatform server.moment.now (some topology)
        (.string "57")) server.moment).1 = .ok result ∧ result.shardID = 1 ∧
      StaleActive sampleEnv server.moment result.shardID := by
  have passed : replayCheck (step sampleEnv)
      [.get, .answer 0, .answer 0, .answer 0, .store (.elapse 61000000000)] (newServer servedBucket)
      (fun _ server => resolvedOnCopy server == some (1, true)) = true := by
    decide +kernel
  rcases replayCheck_run passed with ⟨past, server, run, checked⟩
  rcases resolvedOnCopy_some (beq_iff_eq.mp checked) with
    ⟨topology, result, handed, current, resolved, same, stale⟩
  exact ⟨past, server, topology, result, run, handed, current, resolved, same, of_decide_eq_true stale⟩

end Client
end Shardman
