import Shardman.Watch.Server

namespace Shardman
namespace Watch

open Bucket
open Store
open Control
open Client
open Foundation

/-!
# Versions and the rows they stand for

The version of a topology is read before its rows, and `Watch` may raise it to
a version that was broadcast meanwhile.  All versions in a server come from the
database, which only raises its own, so a topology is never labelled with a
version that its rows do not have yet.
-/

/-! ## Every version was read from the database -/

/-- All versions that a watcher holds have been reached by the database. -/
structure WatcherKnown (db : Db) (watcher : Watcher) : Prop where
  channel : forall version, watcher.channel = some version -> Reached db version
  received : forall version stage, watcher.phase = .building (some version) stage -> Reached db version
  stage : forall received stage version, watcher.phase = .building received stage ->
    stage.version = some version -> version <= currentVersion db
  sent : forall event, event ∈ watcher.sent -> event.topologyVersion <= currentVersion db

/-- All versions that a server holds have been reached by its database. -/
structure Known (server : Server) : Prop where
  notices : forall version, version ∈ server.notices -> Reached server.moment.db version
  notifying : forall version rest, server.notifying = some (version, rest) -> Reached server.moment.db version
  watchers : forall watcher, watcher ∈ server.watchers -> WatcherKnown server.moment.db watcher
  getters : forall getter version, getter ∈ server.getters -> getter.version = some version ->
    version <= currentVersion server.moment.db

theorem WatcherKnown.later {earlier later : Moment} {watcher : Watcher} (known : WatcherKnown earlier.db watcher)
    (follows : TopologyFollows earlier later) : WatcherKnown later.db watcher where
  channel version found := (known.channel version found).later follows
  received version stage phase := (known.received version stage phase).later follows
  stage received stage version phase read :=
    Nat.le_trans (known.stage received stage version phase read) (currentVersion_le follows)
  sent event member := Nat.le_trans (known.sent event member) (currentVersion_le follows)

theorem WatcherKnown.received_le {db : Db} {watcher : Watcher} {received : Option Nat} {stage : Stage}
    (known : WatcherKnown db watcher) (phase : watcher.phase = .building received stage) :
    received.getD 0 <= currentVersion db := by
  cases received with
  | none => exact Nat.zero_le _
  | some version => exact (known.received version stage phase).le

/-- Versions of a builder count only while there is one. -/
theorem watcherKnown_idle {db : Db} {watcher : Watcher}
    (idle : forall received stage, watcher.phase ≠ .building received stage)
    (channel : forall version, watcher.channel = some version -> Reached db version)
    (sent : forall event, event ∈ watcher.sent -> event.topologyVersion <= currentVersion db) :
    WatcherKnown db watcher where
  channel := channel
  received version stage phase := absurd phase (idle (some version) stage)
  stage received stage _ phase := absurd phase (idle received stage)
  sent := sent

theorem watcherKnown_watch (db : Db) (sinceVersion : Int) : WatcherKnown db (.watch sinceVersion) where
  channel version found := by cases found
  received version stage phase := by cases phase
  stage received stage version phase read := by
    cases phase
    cases read
  sent event member := by cases member

/-- A query keeps the version of the topology, or reads it. -/
theorem Stage.query_version {platform : Platform} {db : Db} {stage next : Stage}
    (done : stage.query platform db = some next) :
    (stage = .unread ∧ next = .versioned (currentVersion db)) ∨ next.version = stage.version := by
  cases stage with
  | unread =>
      cases done
      exact Or.inl ⟨rfl, rfl⟩
  | versioned version =>
      cases done
      exact Or.inr rfl
  | configured version config =>
      cases done
      exact Or.inr rfl
  | built topology => cases done

theorem Stage.query_version_le {platform : Platform} {db : Db} {stage next : Stage} {version : Nat}
    (done : stage.query platform db = some next) (read : next.version = some version)
    (known : forall version, stage.version = some version -> version <= currentVersion db) :
    version <= currentVersion db := by
  rcases Stage.query_version done with ⟨_, rfl⟩ | same
  · cases read
    exact Nat.le_refl _
  · exact known version (same ▸ read)

theorem WatcherStep.known {env : Env} {server : Server} {watcher changed : Watcher}
    (stepped : WatcherStep env server watcher changed) (held : Known server)
    (known : WatcherKnown server.moment.db watcher) : WatcherKnown server.moment.db changed := by
  cases stepped with
  | kept => exact known
  | offered notifying =>
      refine { known with channel := ?_ }
      intro version found
      cases slot : watcher.channel with
      | none =>
          simp only [Watcher.offer, slot, Option.getD_none, Option.some_inj] at found
          exact found ▸ held.notifying _ _ notifying
      | some waiting =>
          simp only [Watcher.offer, slot, Option.getD_some, Option.some_inj] at found
          exact known.channel version (found ▸ slot)
  | queried phase found =>
      refine { known with received := ?_, stage := ?_ }
      · intro version stage same
        cases same
        exact known.received _ _ phase
      · intro received stage version same read
        cases same
        exact Stage.query_version_le found read fun version => known.stage _ _ version phase
  | @sent received topology phase =>
      refine watcherKnown_idle (by rintro _ _ ⟨⟩) known.channel ?_
      intro event member
      rcases List.mem_append.mp member with old | new
      · exact known.sent event old
      · cases List.mem_singleton.mp new
        rw [labelled_eq]
        exact Nat.max_le.mpr ⟨known.stage _ _ _ phase rfl, known.received_le phase⟩
  | skipped phase since reached => exact watcherKnown_idle (by rintro _ _ ⟨⟩) known.channel known.sent
  | received phase channel =>
      refine { known with channel := ?_, received := ?_, stage := ?_ }
      · intro version found
        cases found
      · intro version stage same
        cases same
        exact known.channel _ channel
      · intro received stage version same read
        cases same
        cases read
  | failed => exact watcherKnown_idle (by rintro _ _ ⟨⟩) known.channel known.sent
  | unsubscribed phase => exact ⟨known.channel, known.received, known.stage, known.sent⟩

theorem ServerStep.known {env : Env} {server after : Server} (stepped : ServerStep env server after)
    (held : Known server) : Known after := by
  have follows := stepped.follows
  refine ⟨?_, ?_, ?_, ?_⟩
  · intro version member
    suffices reached : Reached server.moment.db version from reached.later follows
    cases stepped with
    | store | deliver | release | watch | update | get | answer => exact held.notices version member
    | readVersion known =>
        rcases List.mem_cons.mp member with rfl | old
        · exact ⟨version, known, Nat.le_refl _⟩
        · exact held.notices version old
    | notify free found => exact held.notices version (List.mem_of_mem_eraseIdx member)
  · intro version rest notifying
    suffices reached : Reached server.moment.db version from reached.later follows
    cases stepped with
    | store | readVersion | update | get | answer | watch => exact held.notifying version rest notifying
    | notify free found =>
        cases notifying
        exact held.notices _ (List.mem_of_getElem? found)
    | deliver before found =>
        cases notifying
        exact held.notifying _ _ before
    | release before => cases notifying
  · have kept := stepped.every_watcher held.watchers (watcherKnown_watch _)
      fun watcher changed _ moved known => moved.known held known
    exact fun watcher member => (kept watcher member).later follows
  · have kept := stepped.every_getter
      (fun getter member version => held.getters getter version member) (by rintro version ⟨⟩)
      fun getter next _ done known version read => Stage.query_version_le done read known
    exact fun getter version member read => Nat.le_trans (kept getter member version read) stepped.version_le

theorem known_newServer (start : Moment) : Known (newServer start) where
  notices version member := by cases member
  notifying version rest same := by cases same
  watchers watcher member := by cases member
  getters getter version member := by cases member

section Runs

variable {env : Env} {start : Moment} {past : Past} {server : Server}

theorem serves_known (run : Serves env start past server) : Known server :=
  Run.invariant Known (fun _ _ => True) (known_newServer start)
    (fun _ _ _ held _ taken => (step_spec taken).known held) run fun _ _ => trivial

end Runs

/-! ## Where the rows come from -/

/-- Rows of a state that has been visited, with at least the given version. -/
def RowsFrom (platform : Platform) (visited : List Server) (label : Nat) (rows : List ShardMessage) : Prop :=
  Exists fun earlier => earlier ∈ visited ∧ rows = currentShards platform earlier.moment.db ∧
    label <= currentVersion earlier.moment.db

theorem RowsFrom.mono {platform : Platform} {visited more : List Server} {label : Nat} {rows : List ShardMessage}
    (taken : RowsFrom platform visited label rows) (longer : visited ⊆ more) : RowsFrom platform more label rows := by
  rcases taken with ⟨earlier, member, same, bound⟩
  exact ⟨earlier, longer member, same, bound⟩

structure WatcherDated (platform : Platform) (visited : List Server) (watcher : Watcher) : Prop where
  building : forall received topology, watcher.phase = .building received (.built topology) ->
    RowsFrom platform visited (max topology.topologyVersion (received.getD 0)) topology.shards
  sent : forall event, event ∈ watcher.sent ->
    event.topologyVersion = event.topology.topologyVersion ∧
      RowsFrom platform visited event.topologyVersion event.topology.shards

/-- The rows of every topology in the server come from a visited state that had
the version of the topology. -/
structure Dated (platform : Platform) (visited : List Server) (server : Server) : Prop where
  watchers : forall watcher, watcher ∈ server.watchers -> WatcherDated platform visited watcher
  getters : forall topology, .built topology ∈ server.getters ->
    RowsFrom platform visited topology.topologyVersion topology.shards

theorem WatcherDated.mono {platform : Platform} {visited more : List Server} {watcher : Watcher}
    (dated : WatcherDated platform visited watcher) (longer : visited ⊆ more) : WatcherDated platform more watcher where
  building received topology phase := (dated.building received topology phase).mono longer
  sent event member := ⟨(dated.sent event member).1, (dated.sent event member).2.mono longer⟩

/-- A watcher that has not built a topology owes nothing for it. -/
theorem watcherDated_unbuilt {platform : Platform} {visited : List Server} {watcher : Watcher}
    (unbuilt : forall received topology, watcher.phase ≠ .building received (.built topology))
    (sent : forall event, event ∈ watcher.sent ->
      event.topologyVersion = event.topology.topologyVersion ∧
        RowsFrom platform visited event.topologyVersion event.topology.shards) :
    WatcherDated platform visited watcher :=
  ⟨fun received topology phase => absurd phase (unbuilt received topology), sent⟩

/-- The query that completes a topology reads its rows. -/
theorem Stage.query_built {platform : Platform} {db : Db} {stage : Stage} {topology : Topology}
    (done : stage.query platform db = some (.built topology)) :
    stage.version = some topology.topologyVersion ∧ topology.shards = currentShards platform db := by
  cases stage with
  | unread => cases done
  | versioned version => cases done
  | configured version config =>
      cases done
      exact ⟨rfl, rfl⟩
  | built topology => cases done

theorem WatcherStep.dated {env : Env} {visited : List Server} {server : Server} {watcher changed : Watcher}
    (stepped : WatcherStep env server watcher changed) (here : server ∈ visited)
    (known : WatcherKnown server.moment.db watcher) (dated : WatcherDated env.platform visited watcher) :
    WatcherDated env.platform visited changed := by
  cases stepped with
  | kept => exact dated
  | offered notifying => exact ⟨dated.building, dated.sent⟩
  | @queried received stage next phase found =>
      refine ⟨?_, dated.sent⟩
      intro others topology same
      cases same
      rcases Stage.query_built found with ⟨read, rows⟩
      exact ⟨server, here, rows, Nat.max_le.mpr
        ⟨known.stage _ _ _ phase read, known.received_le phase⟩⟩
  | @sent received topology phase =>
      refine watcherDated_unbuilt (by rintro _ _ ⟨⟩) ?_
      intro event member
      rcases List.mem_append.mp member with old | new
      · exact dated.sent event old
      · cases List.mem_singleton.mp new
        refine ⟨rfl, ?_⟩
        rw [labelled_eq]
        exact dated.building received topology phase
  | skipped phase since reached => exact watcherDated_unbuilt (by rintro _ _ ⟨⟩) dated.sent
  | received phase channel => exact watcherDated_unbuilt (by rintro _ _ ⟨⟩) dated.sent
  | failed => exact watcherDated_unbuilt (by rintro _ _ ⟨⟩) dated.sent
  | unsubscribed phase => exact ⟨dated.building, dated.sent⟩

theorem ServerStep.dated {env : Env} {visited : List Server} {server after : Server}
    (stepped : ServerStep env server after) (here : server ∈ visited) (known : Known server)
    (dated : Dated env.platform visited server) : Dated env.platform visited after := by
  constructor
  · refine stepped.every_watcher dated.watchers ?_ ?_
    · intro sinceVersion
      exact watcherDated_unbuilt (by rintro _ _ ⟨⟩) fun _ absent => absurd absent List.not_mem_nil
    · intro watcher changed present moved
      exact moved.dated here (known.watchers watcher present)
  · intro topology member
    rcases stepped.getter member with old | impossible | ⟨source, present, done⟩
    · exact dated.getters topology old
    · cases impossible
    · rcases Stage.query_built done with ⟨read, rows⟩
      exact ⟨server, here, rows, known.getters source _ present read⟩

theorem serves_dated {env : Env} {start : Moment} {past : Past} {server : Server}
    (run : Serves env start past server) : Dated env.platform (Run.states past server) server := by
  refine Run.visited (Dated env.platform) ?_ ?_ ?_ run
  · intro few more server longer dated
    exact ⟨fun watcher member => (dated.watchers watcher member).mono longer,
      fun topology member => (dated.getters topology member).mono longer⟩
  · exact ⟨fun _ absent => absurd absent List.not_mem_nil, fun _ absent => absurd absent List.not_mem_nil⟩
  · intro past server action after earlier held taken
    exact (step_spec taken).dated List.mem_cons_self (serves_known earlier) held

/-- In every run, each topology that `Get` or `Watch` has handed out has the rows
of a state of the run whose version was at least the one of the topology. -/
theorem topology_not_newer_than_rows (env : Env) (start : Moment) {past : Past} {server : Server}
    (run : Serves env start past server) :
    (forall topology, .built topology ∈ server.getters ->
      RowsFrom env.platform (Run.states past server) topology.topologyVersion topology.shards) ∧
    (forall watcher event, watcher ∈ server.watchers -> event ∈ watcher.sent ->
      event.topologyVersion = event.topology.topologyVersion ∧
        RowsFrom env.platform (Run.states past server) event.topologyVersion event.topology.shards) := by
  have dated := serves_dated run
  exact ⟨dated.getters, fun watcher event present member => (dated.watchers watcher present).sent event member⟩

/-- A stream that has sent versions 1 and 2, and a single topology of version 1. -/
theorem topology_not_newer_than_rows_relayed :
    Exists fun past => Exists fun server => Serves sampleEnv ⟨Db.fresh, 0⟩ past server ∧
      (server.watchers.map fun watcher => watcher.sent.map TopologyEvent.topologyVersion) = [[1, 2]] ∧
      server.getters.map Stage.version = [some 1] ∧
      (forall topology, .built topology ∈ server.getters ->
        RowsFrom samplePlatform (Run.states past server) topology.topologyVersion topology.shards) ∧
      (forall watcher event, watcher ∈ server.watchers -> event ∈ watcher.sent ->
        event.topologyVersion = event.topology.topologyVersion ∧
          RowsFrom samplePlatform (Run.states past server) event.topologyVersion event.topology.shards) := by
  have passed : replayCheck (step sampleEnv) relayedChange (newServer ⟨Db.fresh, 0⟩) (fun _ server =>
      (server.watchers.map fun watcher => watcher.sent.map TopologyEvent.topologyVersion) == [[1, 2]] &&
        server.getters.map Stage.version == [some 1]) = true := by
    decide +kernel
  rcases replayCheck_run passed with ⟨past, server, run, checked⟩
  rw [Bool.and_eq_true, beq_iff_eq, beq_iff_eq] at checked
  exact ⟨past, server, run, checked.1, checked.2, topology_not_newer_than_rows sampleEnv _ run⟩

end Watch
end Shardman
