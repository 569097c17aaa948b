import Shardman.Watch.Versions

namespace Shardman
namespace Client

open Bucket
open Store
open Foundation
open Watch

/-!
# The client's copy of the topology

A client replaces its copy from two sides.  `refreshTopology` asks for the
topology and stores the answer when it arrives; the goroutine of
`WatchTopology` stores the events of a stream in their order.  Neither looks at
the version that is already there.  A topology is therefore on its way from the
moment its version is read from the database until it is stored, and others may
be stored in between.
-/

/-- A stream of the client: the call on the server, and the number of events
that have been stored. -/
structure Stream where
  watcher : Nat
  taken : Nat

/-- A server and one client of it.  The client's running refreshes are known by
the calls that they wait for. -/
structure System where
  server : Server
  topo : Option Topology
  topoVer : Nat
  refreshes : List Nat
  streams : List Stream

def newSystem (start : Moment) : System := ⟨newServer start, none, 0, [], []⟩

inductive ClientAct
  | serve (act : Act)
  | refresh
  | storeRefresh (index : Nat)
  | watchTopology
  | storeEvent (index : Nat)

namespace System

/-- The topology that a refresh has got as its answer. -/
def answered (system : System) (index : Nat) : Option Topology := do
  let getter <- system.refreshes[index]?
  match system.server.getters[getter]? with
  | some (.built topology) => some topology
  | _ => none

/-- The next event of a stream. -/
def nextEvent (system : System) (index : Nat) : Option TopologyEvent := do
  let stream <- system.streams[index]?
  let watcher <- system.server.watchers[stream.watcher]?
  watcher.sent[stream.taken]?

end System

/-- One step.  Everything that the server does, also for other clients, is a
step by itself. -/
def clientStep (env : Env) (system : System) : ClientAct -> Option System
  | .serve act => (step env system.server act).map fun server => { system with server := server }
  | .refresh =>
      (step env system.server .get).map fun server =>
        { system with server := server, refreshes := system.refreshes ++ [system.server.getters.length] }
  | .storeRefresh index =>
      (system.answered index).map fun topology =>
        { system with
          topo := some topology
          topoVer := topology.topologyVersion
          refreshes := system.refreshes.eraseIdx index }
  | .watchTopology =>
      (step env system.server (.watch 0)).map fun server =>
        { system with server := server, streams := system.streams ++ [⟨system.server.watchers.length, 0⟩] }
  | .storeEvent index =>
      (system.nextEvent index).map fun event =>
        { system with
          topo := some event.topology
          topoVer := event.topologyVersion
          streams := system.streams.modify index fun stream => { stream with taken := stream.taken + 1 } }

/-! ## Topologies on their way -/

/-- The version that the topology under construction will be sent with. -/
def pendingLabel (watcher : Watcher) : Option Nat :=
  match watcher.phase with
  | .building received stage => stage.version.map fun read => max read (received.getD 0)
  | _ => none

/-- The versions of a stream from some event on, with the one that is being built. -/
def streamLabels (watcher : Watcher) (taken : Nat) : List Nat :=
  (watcher.sent.drop taken).map TopologyEvent.topologyVersion ++ (pendingLabel watcher).toList

def refreshLabel (server : Server) (getter : Nat) : Option Nat := server.getters[getter]?.bind Stage.version

def labelsOf (server : Server) (stream : Stream) : List Nat :=
  (server.watchers[stream.watcher]?.map fun watcher => streamLabels watcher stream.taken).getD []

/-- The versions of the topologies on their way to the client. -/
def underway (system : System) : List Nat :=
  system.refreshes.filterMap (refreshLabel system.server) ++ system.streams.flatMap (labelsOf system.server)

/-- The version that a step stores. -/
def storedVersion (system : System) : ClientAct -> Option Nat
  | .storeRefresh index => (system.answered index).map Topology.topologyVersion
  | .storeEvent index => (system.nextEvent index).map TopologyEvent.topologyVersion
  | _ => none

/-- A step stores no topology while an older one is on its way. -/
def StoresOldest (system : System) (act : ClientAct) : Prop :=
  forall version, version ∈ storedVersion system act -> forall other, other ∈ underway system -> version <= other

instance (system : System) (act : ClientAct) : Decidable (StoresOldest system act) :=
  match found : storedVersion system act with
  | none => isTrue fun version member => by
      rw [found] at member
      cases member
  | some version =>
      if oldest : forall other, other ∈ underway system -> version <= other then
        isTrue fun stored member => by
          rw [found] at member
          cases member
          exact oldest
      else
        isFalse fun holds => oldest (holds version found)

/-! ## What becomes of the versions on their way -/

theorem mem_streamLabels {watcher : Watcher} {taken label : Nat} :
    label ∈ streamLabels watcher taken ↔
      (Exists fun event => event ∈ watcher.sent.drop taken ∧ event.topologyVersion = label) ∨
        pendingLabel watcher = some label := by
  rw [streamLabels, List.mem_append, List.mem_map, Option.mem_toList]

/-- A version of a stream was on its way before, or it has just been read. -/
theorem streamLabels_step {server : Server} {watcher changed : Watcher} {taken label : Nat}
    (stepped : WatcherStep env server watcher changed) (member : label ∈ streamLabels changed taken) :
    label ∈ streamLabels watcher taken ∨ currentVersion server.moment.db <= label := by
  rw [mem_streamLabels] at member ⊢
  cases stepped with
  | kept | offered | unsubscribed => exact Or.inl member
  | @queried received stage next phase found =>
      rcases member with sent | pending
      · exact Or.inl (Or.inl sent)
      · rcases Option.map_eq_some_iff.mp pending with ⟨read, readNow, rfl⟩
        rcases Stage.query_version found with ⟨_, rfl⟩ | same
        · cases readNow
          exact Or.inr (Nat.le_max_left _ _)
        · refine Or.inl (Or.inr ?_)
          rw [pendingLabel, phase]
          exact Option.map_eq_some_iff.mpr ⟨read, same ▸ readNow, rfl⟩
  | @sent received topology phase =>
      rcases member with ⟨event, member, rfl⟩ | pending
      · rw [Watcher.push, List.drop_append, List.mem_append] at member
        rcases member with old | new
        · exact Or.inl (Or.inl ⟨event, old, rfl⟩)
        · cases List.mem_singleton.mp (List.mem_of_mem_drop new)
          refine Or.inl (Or.inr ?_)
          rw [pendingLabel, phase, labelled_eq]
          rfl
      · cases pending
  | skipped | received | failed =>
      rcases member with sent | pending
      · exact Or.inl (Or.inl sent)
      · cases pending

section Server

variable {env : Env} {server after : Server}

theorem labelsOf_step {stream : Stream} {label : Nat} (stepped : ServerStep env server after)
    (member : label ∈ labelsOf after stream) :
    label ∈ labelsOf server stream ∨ currentVersion server.moment.db <= label := by
  unfold labelsOf at member ⊢
  cases present : after.watchers[stream.watcher]? with
  | none =>
      rw [present] at member
      cases member
  | some changed =>
      rw [present, Option.map_some, Option.getD_some] at member
      rcases stepped.watcher_at present with ⟨watcher, found, moved⟩ | ⟨_, sinceVersion, rfl⟩
      · rw [found]
        exact streamLabels_step moved member
      · rcases mem_streamLabels.mp member with ⟨event, absent, _⟩ | pending
        · exact absurd (List.mem_of_mem_drop absent) List.not_mem_nil
        · cases pending

theorem refreshLabel_step {getter label : Nat} (stepped : ServerStep env server after)
    (found : refreshLabel after getter = some label) :
    refreshLabel server getter = some label ∨ currentVersion server.moment.db <= label := by
  rcases Option.bind_eq_some_iff.mp found with ⟨changed, present, read⟩
  rcases stepped.getter_at present with old | rfl | ⟨stage, before, done⟩
  · exact Or.inl (Option.bind_eq_some_iff.mpr ⟨changed, old, read⟩)
  · cases read
  · rcases Stage.query_version done with ⟨_, rfl⟩ | same
    · cases read
      exact Or.inr (Nat.le_refl _)
    · exact Or.inl (Option.bind_eq_some_iff.mpr ⟨stage, before, same ▸ read⟩)

end Server

theorem mem_underway {system : System} {label : Nat} :
    label ∈ underway system ↔
      (Exists fun getter => getter ∈ system.refreshes ∧ refreshLabel system.server getter = some label) ∨
        (Exists fun stream => stream ∈ system.streams ∧ label ∈ labelsOf system.server stream) := by
  rw [underway, List.mem_append, List.mem_filterMap, List.mem_flatMap]

/-! ## Storing in the order of the versions -/

/-- The copy is no newer than the database and than anything on its way. -/
structure Ahead (system : System) : Prop where
  known : Known system.server
  reached : system.topoVer <= currentVersion system.server.moment.db
  underway : forall label, label ∈ underway system -> system.topoVer <= label

section Steps

variable {env : Env} {system after : System}

/-- A step of the server, with refreshes and streams that have nothing on its
way when they begin. -/
theorem ahead_served {server : Server} {refreshes : List Nat} {streams : List Stream} (held : Ahead system)
    (stepped : ServerStep env system.server server)
    (newRefreshes : forall getter, getter ∈ refreshes ->
      getter ∈ system.refreshes ∨ refreshLabel system.server getter = none)
    (newStreams : forall stream, stream ∈ streams ->
      stream ∈ system.streams ∨ labelsOf system.server stream = []) :
    Ahead { system with server := server, refreshes := refreshes, streams := streams } := by
  refine ⟨stepped.known held.known, Nat.le_trans held.reached stepped.version_le, ?_⟩
  intro label member
  rcases mem_underway.mp member with ⟨getter, listed, found⟩ | ⟨stream, listed, found⟩
  · rcases refreshLabel_step stepped found with old | current
    · rcases newRefreshes getter listed with before | unread
      · exact held.underway label (mem_underway.mpr (Or.inl ⟨getter, before, old⟩))
      · rw [unread] at old
        cases old
    · exact Nat.le_trans held.reached current
  · rcases labelsOf_step stepped found with old | current
    · rcases newStreams stream listed with before | silent
      · exact held.underway label (mem_underway.mpr (Or.inr ⟨stream, before, old⟩))
      · rw [silent] at old
        cases old
    · exact Nat.le_trans held.reached current

/-- Storing a version that is on its way, when nothing older is. -/
theorem ahead_stored {topo : Option Topology} {version : Nat} {refreshes : List Nat} {streams : List Stream}
    (held : Ahead system) (oldest : forall other, other ∈ underway system -> version <= other)
    (reached : version <= currentVersion system.server.moment.db)
    (fewer : underway ⟨system.server, topo, version, refreshes, streams⟩ ⊆ underway system) :
    Ahead ⟨system.server, topo, version, refreshes, streams⟩ :=
  ⟨held.known, reached, fun label member => oldest label (fewer member)⟩

theorem answered_underway {index : Nat} {topology : Topology} (held : Ahead system)
    (answered : system.answered index = some topology) :
    topology.topologyVersion ∈ underway system ∧
      topology.topologyVersion <= currentVersion system.server.moment.db := by
  rcases Option.bind_eq_some_iff.mp answered with ⟨getter, listed, rest⟩
  cases present : system.server.getters[getter]? with
  | none =>
      rw [present] at rest
      cases rest
  | some stage =>
      rw [present] at rest
      cases stage with
      | unread | versioned | configured => cases rest
      | built built =>
          cases rest
          refine ⟨mem_underway.mpr (Or.inl ⟨getter, List.mem_of_getElem? listed, ?_⟩), ?_⟩
          · exact Option.bind_eq_some_iff.mpr ⟨_, present, rfl⟩
          · exact held.known.getters _ _ (List.mem_of_getElem? present) rfl

theorem nextEvent_underway {index : Nat} {event : TopologyEvent} (held : Ahead system)
    (next : system.nextEvent index = some event) :
    event.topologyVersion ∈ underway system ∧
      event.topologyVersion <= currentVersion system.server.moment.db := by
  rcases Option.bind_eq_some_iff.mp next with ⟨stream, listed, rest⟩
  rcases Option.bind_eq_some_iff.mp rest with ⟨watcher, present, found⟩
  have inside : event ∈ watcher.sent.drop stream.taken := by
    rw [List.mem_iff_getElem?]
    exact ⟨0, by rw [List.getElem?_drop, Nat.add_zero, found]⟩
  refine ⟨mem_underway.mpr (Or.inr ⟨stream, List.mem_of_getElem? listed, ?_⟩), ?_⟩
  · rw [labelsOf, present]
    exact mem_streamLabels.mpr (Or.inl ⟨event, inside, rfl⟩)
  · exact (held.known.watchers watcher (List.mem_of_getElem? present)).sent event (List.mem_of_mem_drop inside)

/-- What a stream has on its way after one more of its events is stored. -/
theorem labelsOf_taken (server : Server) (stream : Stream) :
    labelsOf server { stream with taken := stream.taken + 1 } ⊆ labelsOf server stream := by
  intro label member
  unfold labelsOf at member ⊢
  cases present : server.watchers[stream.watcher]? with
  | none =>
      rw [present] at member
      cases member
  | some watcher =>
      rw [present, Option.map_some, Option.getD_some, mem_streamLabels] at member
      rw [Option.map_some, Option.getD_some, mem_streamLabels]
      rcases member with ⟨event, later, same⟩ | pending
      · refine Or.inl ⟨event, ?_, same⟩
        rw [← List.drop_drop] at later
        exact List.mem_of_mem_drop later
      · exact Or.inr pending

theorem ahead_step {act : ClientAct} (held : Ahead system) (oldest : StoresOldest system act)
    (taken : clientStep env system act = some after) : Ahead after ∧ system.topoVer <= after.topoVer := by
  cases act with
  | serve act =>
      rcases Option.map_eq_some_iff.mp taken with ⟨server, stepped, rfl⟩
      exact ⟨ahead_served held (step_spec stepped) (fun _ => Or.inl) (fun _ => Or.inl), Nat.le_refl _⟩
  | refresh =>
      rw [clientStep] at taken
      rcases Option.map_eq_some_iff.mp taken with ⟨server, stepped, rfl⟩
      refine ⟨ahead_served held (step_spec stepped) ?_ (fun _ => Or.inl), Nat.le_refl _⟩
      intro getter listed
      rcases List.mem_append.mp listed with old | new
      · exact Or.inl old
      · cases List.mem_singleton.mp new
        refine Or.inr ?_
        rw [refreshLabel, List.getElem?_eq_none (Nat.le_refl _), Option.bind_none]
  | storeRefresh index =>
      rcases Option.map_eq_some_iff.mp taken with ⟨topology, answered, rfl⟩
      rcases answered_underway held answered with ⟨member, reached⟩
      refine ⟨ahead_stored held (oldest _ (Option.map_eq_some_iff.mpr ⟨topology, answered, rfl⟩)) reached ?_,
        held.underway _ member⟩
      intro label present
      rcases mem_underway.mp present with ⟨getter, listed, found⟩ | streams
      · exact mem_underway.mpr (Or.inl ⟨getter, List.mem_of_mem_eraseIdx listed, found⟩)
      · exact mem_underway.mpr (Or.inr streams)
  | watchTopology =>
      rw [clientStep] at taken
      rcases Option.map_eq_some_iff.mp taken with ⟨server, stepped, rfl⟩
      refine ⟨ahead_served held (step_spec stepped) (fun _ => Or.inl) ?_, Nat.le_refl _⟩
      intro stream listed
      rcases List.mem_append.mp listed with old | new
      · exact Or.inl old
      · cases List.mem_singleton.mp new
        refine Or.inr ?_
        rw [labelsOf, List.getElem?_eq_none (Nat.le_refl _)]
        rfl
  | storeEvent index =>
      rcases Option.map_eq_some_iff.mp taken with ⟨event, next, rfl⟩
      rcases nextEvent_underway held next with ⟨member, reached⟩
      refine ⟨ahead_stored held (oldest _ (Option.map_eq_some_iff.mpr ⟨event, next, rfl⟩)) reached ?_,
        held.underway _ member⟩
      intro label present
      rcases mem_underway.mp present with refreshes | ⟨stream, listed, found⟩
      · exact mem_underway.mpr (Or.inl refreshes)
      · rcases List.mem_iff_getElem?.mp listed with ⟨other, place⟩
        rw [List.getElem?_modify] at place
        rcases Option.map_eq_some_iff.mp place with ⟨source, before, rfl⟩
        refine mem_underway.mpr (Or.inr ⟨source, List.mem_of_getElem? before, ?_⟩)
        split at found
        · exact labelsOf_taken system.server source found
        · exact found

end Steps

/-- In every run in which no topology is stored while an older one is on its way
to the client, the version of the client's copy never decreases. -/
theorem cached_version_never_decreases (env : Env) (start : Moment) {past : List (Event System ClientAct)}
    {system : System} (run : Run (clientStep env) (newSystem start) past system)
    (inOrder : forall event, event ∈ past -> StoresOldest event.state event.action) :
    (Run.states past system).Pairwise fun later earlier => earlier.topoVer <= later.topoVer := by
  have held : Ahead system ∧
      (Run.states past system).Pairwise fun later earlier => earlier.topoVer <= later.topoVer := by
    apply Run.history (fun past system => Ahead system ∧
      (Run.states past system).Pairwise fun later earlier => earlier.topoVer <= later.topoVer)
      StoresOldest ?_ ?_ run inOrder
    · refine ⟨⟨known_newServer start, Nat.zero_le _, ?_⟩, List.pairwise_singleton _ _⟩
      intro label absent
      exact Nat.zero_le _
    · intro past system act after _ held oldest taken
      rcases ahead_step held.1 oldest taken with ⟨ahead, rises⟩
      refine ⟨ahead, List.pairwise_cons.mpr ⟨?_, held.2⟩⟩
      intro earlier visited
      rcases List.mem_cons.mp visited with rfl | older
      · exact rises
      · exact Nat.le_trans ((List.pairwise_cons.mp held.2).1 earlier older) rises
  exact held.2

/-- A refresh is answered, the topology changes, and a stream delivers the new one. -/
def answerThenEvent : List ClientAct :=
  [.serve (.store (.perform (.bootstrap (sampleConfig 100)))), .refresh, .serve (.answer 0), .serve (.answer 0),
    .serve (.answer 0), .watchTopology, .serve (.store (.perform (.registerShard 1 .data "a" "" ""))),
    .serve (.query 0), .serve (.query 0), .serve (.query 0), .serve (.send 0)]

/-- With the answer stored first the versions are 1 and 2. -/
theorem cached_version_never_decreases_answer_first :
    Exists fun past => Exists fun system =>
      Run (clientStep sampleEnv) (newSystem ⟨Db.fresh, 0⟩) past system ∧
      ((Run.states past system).take 3).map System.topoVer = [2, 1, 0] ∧
      (forall event, event ∈ past -> StoresOldest event.state event.action) ∧
      (Run.states past system).Pairwise fun later earlier => earlier.topoVer <= later.topoVer := by
  have passed : replayCheck (clientStep sampleEnv) (answerThenEvent ++ [.storeRefresh 0, .storeEvent 0])
      (newSystem ⟨Db.fresh, 0⟩) (fun past system =>
        ((Run.states past system).take 3).map System.topoVer == [2, 1, 0] &&
          past.all fun event => decide (StoresOldest event.state event.action)) = true := by
    decide +kernel
  rcases replayCheck_run passed with ⟨past, system, run, checked⟩
  rw [Bool.and_eq_true, beq_iff_eq, List.all_eq_true] at checked
  have inOrder : forall event, event ∈ past -> StoresOldest event.state event.action :=
    fun event member => of_decide_eq_true (checked.2 event member)
  exact ⟨past, system, run, checked.1, inOrder, cached_version_never_decreases sampleEnv _ run inOrder⟩

/-- With the event stored first the late answer takes the copy back from version
2 to version 1. -/
theorem late_answer_takes_copy_back :
    Exists fun past => Exists fun system =>
      Run (clientStep sampleEnv) (newSystem ⟨Db.fresh, 0⟩) past system ∧
      ((Run.states past system).take 3).map System.topoVer = [1, 2, 0] ∧
      ¬ (Run.states past system).Pairwise fun later earlier => earlier.topoVer <= later.topoVer := by
  have passed : replayCheck (clientStep sampleEnv) (answerThenEvent ++ [.storeEvent 0, .storeRefresh 0])
      (newSystem ⟨Db.fresh, 0⟩) (fun past system =>
        ((Run.states past system).take 3).map System.topoVer == [1, 2, 0] &&
          !decide ((Run.states past system).Pairwise fun later earlier =>
            earlier.topoVer <= later.topoVer)) = true := by
    decide +kernel
  rcases replayCheck_run passed with ⟨past, system, run, checked⟩
  rw [Bool.and_eq_true, beq_iff_eq, Bool.not_eq_true', decide_eq_false_iff_not] at checked
  exact ⟨past, system, run, checked.1, checked.2⟩

end Client
end Shardman
