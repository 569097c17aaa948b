import Shardman.Watch.Versions

namespace Shardman
namespace Watch

open Bucket
open Store
open Control
open Client
open Foundation

/-!
# Topologies of the current version

The version of a topology, its configuration and its rows are read one after
the other, and the version may be raised afterwards.  As long as the database
still has the version of the topology, though, the copy is as good as new: its
configuration is the current one, and its rows show what routing sees now.
-/

/-! ## Where the configuration comes from -/

/-- A configuration that was read in a visited state.  Where there was none, the
topology has no version either. -/
def ConfigFrom (visited : List Server) (label : Nat) (config : Option ConfigMessage) : Prop :=
  (Exists fun earlier => earlier ∈ visited ∧ config = currentConfig earlier.moment.db) ∧
    (config = none -> label = 0)

theorem ConfigFrom.mono {visited more : List Server} {label : Nat} {config : Option ConfigMessage}
    (taken : ConfigFrom visited label config) (longer : visited ⊆ more) : ConfigFrom more label config := by
  rcases taken with ⟨⟨earlier, member, same⟩, unlabelled⟩
  exact ⟨⟨earlier, longer member, same⟩, unlabelled⟩

/-- What a builder owes for the configuration it has read. -/
def StageConfigured (visited : List Server) (received : Option Nat) : Stage -> Prop
  | .configured version config => ConfigFrom visited (max version (received.getD 0)) config
  | .built topology => ConfigFrom visited (max topology.topologyVersion (received.getD 0)) topology.config
  | _ => True

structure WatcherConfigured (visited : List Server) (watcher : Watcher) : Prop where
  building : forall received stage, watcher.phase = .building received stage ->
    StageConfigured visited received stage
  sent : forall event, event ∈ watcher.sent ->
    ConfigFrom visited event.topologyVersion event.topology.config

structure Configured (visited : List Server) (server : Server) : Prop where
  watchers : forall watcher, watcher ∈ server.watchers -> WatcherConfigured visited watcher
  getters : forall getter, getter ∈ server.getters -> StageConfigured visited none getter

theorem StageConfigured.mono {visited more : List Server} {received : Option Nat} {stage : Stage}
    (taken : StageConfigured visited received stage) (longer : visited ⊆ more) :
    StageConfigured more received stage := by
  cases stage with
  | unread | versioned => trivial
  | configured | built => exact ConfigFrom.mono taken longer

theorem Configured.mono {visited more : List Server} {server : Server} (held : Configured visited server)
    (longer : visited ⊆ more) : Configured more server where
  watchers watcher member :=
    ⟨fun received stage phase => ((held.watchers watcher member).building received stage phase).mono longer,
      fun event sent => ((held.watchers watcher member).sent event sent).mono longer⟩
  getters getter member := (held.getters getter member).mono longer

theorem currentConfig_none {db : Db} (absent : currentConfig db = none) : db.cluster = none := by
  cases row : db.cluster with
  | none => rfl
  | some cluster =>
      rw [currentConfig, getConfig, row] at absent
      cases absent

theorem currentVersion_unbooted {db : Db} (absent : db.cluster = none) : currentVersion db = 0 := by
  rw [currentVersion, getTopologyVersion, absent]
  rfl

/-- Before bootstrap nothing is received and versions are zero. -/
theorem stageConfigured_query {platform : Platform} {visited : List Server} {server : Server}
    {received : Option Nat} {stage next : Stage} (here : server ∈ visited)
    (found : stage.query platform server.moment.db = some next)
    (reached : forall version, received = some version -> Reached server.moment.db version)
    (known : forall version, stage.version = some version -> version <= currentVersion server.moment.db)
    (held : StageConfigured visited received stage) : StageConfigured visited received next := by
  cases stage with
  | unread =>
      cases found
      trivial
  | versioned version =>
      cases found
      refine ⟨⟨server, here, rfl⟩, ?_⟩
      intro absent
      have unbooted := currentConfig_none absent
      have zero : version <= 0 := currentVersion_unbooted unbooted ▸ known version rfl
      cases received with
      | none => exact Nat.max_eq_zero_iff.mpr ⟨Nat.le_zero.mp zero, rfl⟩
      | some version =>
          rcases reached version rfl with ⟨current, read, _⟩
          rw [getTopologyVersion, unbooted] at read
          cases read
  | configured version config =>
      cases found
      exact held
  | built topology => cases found

theorem WatcherStep.configured {env : Env} {visited : List Server} {server : Server} {watcher changed : Watcher}
    (stepped : WatcherStep env server watcher changed) (here : server ∈ visited)
    (known : WatcherKnown server.moment.db watcher) (held : WatcherConfigured visited watcher) :
    WatcherConfigured visited changed := by
  cases stepped with
  | kept => exact held
  | offered notifying => exact ⟨held.building, held.sent⟩
  | @queried received stage next phase found =>
      refine ⟨?_, held.sent⟩
      intro others reached same
      cases same
      refine stageConfigured_query here found ?_ ?_ (held.building received stage phase)
      · rintro version rfl
        exact known.received version stage phase
      · intro version
        exact known.stage received stage version phase
  | @sent received topology phase =>
      refine ⟨by rintro _ _ ⟨⟩, ?_⟩
      intro event member
      rcases List.mem_append.mp member with old | new
      · exact held.sent event old
      · cases List.mem_singleton.mp new
        rw [labelled_eq]
        exact held.building received _ phase
  | skipped phase since reached => exact ⟨by rintro _ _ ⟨⟩, held.sent⟩
  | received phase channel =>
      refine ⟨?_, held.sent⟩
      rintro _ _ ⟨⟩
      trivial
  | failed => exact ⟨by rintro _ _ ⟨⟩, held.sent⟩
  | unsubscribed phase => exact ⟨held.building, held.sent⟩

theorem ServerStep.configured {env : Env} {visited : List Server} {server after : Server}
    (stepped : ServerStep env server after) (here : server ∈ visited) (known : Known server)
    (held : Configured visited server) : Configured visited after := by
  constructor
  · refine stepped.every_watcher held.watchers ?_ ?_
    · intro sinceVersion
      refine ⟨?_, fun _ absent => absurd absent List.not_mem_nil⟩
      rintro _ _ ⟨⟩
      trivial
    · intro watcher changed present moved
      exact moved.configured here (known.watchers watcher present)
  · refine stepped.every_getter held.getters trivial ?_
    intro getter next present done
    exact stageConfigured_query here done (by rintro version ⟨⟩) fun version => known.getters getter version present

theorem serves_configured {env : Env} {start : Moment} {past : Past} {server : Server}
    (run : Serves env start past server) : Configured (Run.states past server) server := by
  refine Run.visited Configured (fun few more server longer held => held.mono longer) ?_ ?_ run
  · exact ⟨fun _ absent => absurd absent List.not_mem_nil, fun _ absent => absurd absent List.not_mem_nil⟩
  · intro past server action after earlier held taken
    exact (step_spec taken).configured List.mem_cons_self (serves_known earlier) held

/-! ## What a later state keeps -/

/-- What holds between any two states of a run: the promises of a history, and
that the first version after bootstrap is not zero. -/
structure Succeeds (earlier later : Moment) : Prop where
  continues : Continues earlier later
  topology : TopologyFollows earlier later
  boots : earlier.db.cluster = none -> later.db.cluster = none ∨ 1 <= currentVersion later.db

theorem succeeds_refl (moment : Moment) : Succeeds moment moment :=
  ⟨continues_refl moment, (topologyStep_refl _).follows, Or.inl⟩

theorem succeeds_trans (first second third : Moment) (earlier : Succeeds first second)
    (later : Succeeds second third) : Succeeds first third where
  continues := continues_trans first second third earlier.continues later.continues
  topology := topologyFollows_trans first second third earlier.topology later.topology
  boots absent := by
    rcases earlier.boots absent with still | booted
    · exact later.boots still
    · exact Or.inr (Nat.le_trans booted (currentVersion_le later.topology))

theorem advance_succeeds {env : Env} {moment after : Moment} {act : StoreAct}
    (taken : advance env moment act = some after) : Succeeds moment after where
  continues := advance_continues taken
  topology := advance_follows taken
  boots absent := by
    rcases advance_steps taken with stepped | ⟨_, booted⟩
    · cases stepped with
      | kept cluster _ => exact Or.inl (cluster.trans absent)
      | advanced cluster =>
          refine Or.inl (cluster.trans ?_)
          rw [Db.bumpTopologyVersion, absent]
          rfl
    · refine Or.inr ?_
      rw [currentVersion, booted]
      exact Nat.le_refl 1

theorem ServerStep.succeeds {env : Env} {server after : Server} (stepped : ServerStep env server after) :
    Succeeds server.moment after.moment := by
  cases stepped with
  | store done => exact advance_succeeds done
  | readVersion | notify | deliver | release | watch | update | get | answer => exact succeeds_refl _

theorem serves_succeeds {env : Env} {start : Moment} {past : Past} {server earlier : Server}
    (run : Serves env start past server) (visited : earlier ∈ Run.states past server) :
    Succeeds earlier.moment server.moment := by
  have ordered := Run.states_related (fun earlier later : Server => Succeeds earlier.moment later.moment)
    (fun _ _ _ => succeeds_trans _ _ _) (fun _ _ _ taken => (step_spec taken).succeeds) run
  rcases List.mem_cons.mp visited with rfl | older
  · exact succeeds_refl _
  · exact (List.pairwise_cons.mp ordered).1 earlier older

/-! ## Current copies -/

/-- The topologies that have left the server. -/
def HandedOut (server : Server) (topology : Topology) : Prop :=
  .built topology ∈ server.getters ∨
    Exists fun watcher => Exists fun event => watcher ∈ server.watchers ∧ event ∈ watcher.sent ∧
      event.topology = topology

/-- A copy that shows the current configuration, and what routing sees of the
rows, under their lasting ids. -/
structure UpToDate (platform : Platform) (topology : Topology) (moment : Moment) : Prop where
  config : topology.config = currentConfig moment.db
  rows : moment.db.cluster ≠ none -> Exists fun earlier =>
    topology.shards = currentShards platform earlier.db ∧ Continues earlier moment ∧
      routingView earlier.db = routingView moment.db

section Runs

variable {env : Env} {start : Moment} {past : Past} {server : Server} {topology : Topology}

theorem handedOut_from (run : Serves env start past server) (handed : HandedOut server topology) :
    RowsFrom env.platform (Run.states past server) topology.topologyVersion topology.shards ∧
      ConfigFrom (Run.states past server) topology.topologyVersion topology.config := by
  have dated := serves_dated run
  have configured := serves_configured run
  rcases handed with built | ⟨watcher, event, present, member, rfl⟩
  · refine ⟨dated.getters topology built, ?_⟩
    have owed : ConfigFrom _ (max topology.topologyVersion 0) topology.config := configured.getters _ built
    rwa [Nat.max_zero] at owed
  · have event := (dated.watchers watcher present).sent event member
    refine ⟨event.1 ▸ event.2, ?_⟩
    exact event.1 ▸ (configured.watchers watcher present).sent _ member

/-- A topology whose version is the current one is up to date. -/
theorem handedOut_upToDate (run : Serves env start past server) (handed : HandedOut server topology)
    (current : topology.topologyVersion = currentVersion server.moment.db) :
    UpToDate env.platform topology server.moment := by
  rcases handedOut_from run handed with ⟨⟨rowsState, rowsVisited, rows, label⟩,
    ⟨configState, configVisited, config⟩, unlabelled⟩
  have rowsLater := serves_succeeds run rowsVisited
  have configLater := serves_succeeds run configVisited
  constructor
  · cases loaded : getConfig configState.moment.db with
    | ok stored =>
        rw [config, currentConfig, currentConfig, loaded, configLater.continues.config stored loaded]
    | error failure =>
        have absent : currentConfig configState.moment.db = none := by
          rw [currentConfig, loaded]
          rfl
        have zero := unlabelled (config.trans absent)
        rcases configLater.boots (currentConfig_none absent) with still | booted
        · rw [config, absent, currentConfig, getConfig, still]
          rfl
        · omega
  · intro booted
    refine ⟨rowsState.moment, rows, rowsLater.continues, ?_⟩
    have rises := currentVersion_le rowsLater.topology
    cases read : getTopologyVersion rowsState.moment.db with
    | ok version =>
        rcases rowsLater.topology version read with ⟨next, readNow, _, same⟩
        have before : currentVersion rowsState.moment.db = version := by
          rw [currentVersion, read]
          rfl
        have now : currentVersion server.moment.db = next := by
          rw [currentVersion, readNow]
          rfl
        exact (same (by omega)).symm
    | error failure =>
        have absent : rowsState.moment.db.cluster = none := by
          cases row : rowsState.moment.db.cluster with
          | none => rfl
          | some cluster =>
              rw [getTopologyVersion, row] at read
              cases read
        have zero := currentVersion_unbooted absent
        rcases rowsLater.boots absent with still | first
        · exact absurd still booted
        · omega

end Runs

end Watch
end Shardman
