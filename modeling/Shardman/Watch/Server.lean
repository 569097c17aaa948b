import Shardman.Client.Local

namespace Shardman
namespace Watch

open Bucket
open Store
open Control
open Client
open Foundation

/-!
# Topology streams

The server hands the topology out in two ways.  `Get` builds it once.  `Watch`
keeps a stream open: it subscribes to the broadcaster, builds and sends a first
topology, and then builds and sends another one for every version it receives.

The broadcaster gives each subscriber a channel with one slot.  Whoever changed
the topology reads its version from the database and passes it to `Notify`,
which offers it to the subscribers one after the other while it holds the lock,
and drops it where the slot is taken.  Receiving takes no lock.

A topology is built by three queries that share no transaction, so a state of
the server records between which queries each builder stands.  The database
itself changes by any operation, of this server or of another one.
-/

/-! ## Building a topology query by query -/

/-- The version that a database shows; before bootstrap it counts as zero. -/
def currentVersion (db : Db) : Nat := (getTopologyVersion db).toOption.getD 0

def currentConfig (db : Db) : Option ConfigMessage := (getConfig db).toOption.map configToProto

def currentShards (platform : Platform) (db : Db) : List ShardMessage := (listShards db).map (shardToProto platform)

/-- How far the building of a topology has come. -/
inductive Stage
  | unread
  | versioned (version : Nat)
  | configured (version : Nat) (config : Option ConfigMessage)
  | built (topology : Topology)

namespace Stage

/-- The next query. -/
def query (platform : Platform) (db : Db) : Stage -> Option Stage
  | .unread => some (.versioned (currentVersion db))
  | .versioned version => some (.configured version (currentConfig db))
  | .configured version config => some (.built ⟨version, config, currentShards platform db⟩)
  | .built _ => none

/-- The version that the topology will have. -/
def version : Stage -> Option Nat
  | .unread => none
  | .versioned version => some version
  | .configured version _ => some version
  | .built topology => some topology.topologyVersion

/-- What is left of the builder. -/
def program (platform : Platform) : Stage -> Routine Topology
  | .unread => buildTopology platform
  | .versioned version => do
      let loaded : Except StoreError ClusterConfig <- ask .getConfig
      let shards : List Shard <- ask .listShards
      pure ⟨version, loaded.toOption.map configToProto, shards.map (shardToProto platform)⟩
  | .configured version config => do
      let shards : List Shard <- ask .listShards
      pure ⟨version, config, shards.map (shardToProto platform)⟩
  | .built topology => pure topology

/-- The stages follow the program: where it waits for an operation, the
operation is a query and its reply leads to the program of the next stage, and
where it has finished there is no next stage. -/
theorem program_query (env : Env) (moment : Moment) (stage : Stage) :
    match stage.program env.platform with
    | .finish topology => stage = .built topology ∧ stage.query env.platform moment.db = none
    | .request op next =>
        (perform env op moment).2 = moment ∧
          Exists fun after => stage.query env.platform moment.db = some after ∧
            after.program env.platform = next (perform env op moment).1 := by
  cases stage with
  | unread => exact ⟨rfl, _, rfl, rfl⟩
  | versioned version => exact ⟨rfl, _, rfl, rfl⟩
  | configured version config => exact ⟨rfl, _, rfl, rfl⟩
  | built topology => exact ⟨rfl, rfl⟩

end Stage

/-! ## The state of a server -/

structure TopologyEvent where
  topologyVersion : Nat
  topology : Topology

/-- Where a `Watch` call stands.  While it builds, it remembers the version that
it has received; the first topology is built without one. -/
inductive Phase
  | building (received : Option Nat) (stage : Stage)
  | waiting
  | returned

/-- A `Watch` call with its channel and the events of its stream, oldest first. -/
structure Watcher where
  sinceVersion : Int
  channel : Option Nat
  subscribed : Bool
  phase : Phase
  sent : List TopologyEvent

/-- The notification that holds the lock is recorded with its version and the
subscribers it has not come to yet. -/
structure Server where
  moment : Moment
  version : Nat
  notices : List Nat
  notifying : Option (Nat × List Nat)
  watchers : List Watcher
  getters : List Stage

def newServer (moment : Moment) : Server := ⟨moment, 0, [], none, [], []⟩

namespace Watcher

/-- Subscribe, and begin with the first topology. -/
def watch (sinceVersion : Int) : Watcher := ⟨sinceVersion, none, true, .building none .unread, []⟩

/-- A non-blocking send into the channel. -/
def offer (version : Nat) (watcher : Watcher) : Watcher :=
  { watcher with channel := some (watcher.channel.getD version) }

def query (platform : Platform) (db : Db) (watcher : Watcher) : Option Watcher :=
  match watcher.phase with
  | .building received stage =>
      (stage.query platform db).map fun after => { watcher with phase := .building received after }
  | _ => none

def push (watcher : Watcher) (topology : Topology) : Watcher :=
  { watcher with phase := .waiting, sent := watcher.sent ++ [⟨topology.topologyVersion, topology⟩] }

/-- A topology never carries a smaller version than the one that was received. -/
def relabel (topology : Topology) (received : Nat) : Topology :=
  if topology.topologyVersion < received then { topology with topologyVersion := received } else topology

/-- Send what was built.  The first topology is kept back if the client already
has its version. -/
def send (watcher : Watcher) : Option Watcher :=
  match watcher.phase with
  | .building none (.built topology) =>
      if 0 < watcher.sinceVersion then
        if watcher.sinceVersion < topology.topologyVersion then some (watcher.push topology)
        else some { watcher with phase := .waiting }
      else
        some (watcher.push topology)
  | .building (some received) (.built topology) => some (watcher.push (relabel topology received))
  | _ => none

def receive (watcher : Watcher) : Option Watcher :=
  match watcher.phase, watcher.channel with
  | .waiting, some version =>
      some { watcher with channel := none, phase := .building (some version) .unread }
  | _, _ => none

/-- The call ends: its context is done, a query fails, or the stream is broken. -/
def fail (watcher : Watcher) : Option Watcher :=
  match watcher.phase with
  | .returned => none
  | _ => some { watcher with phase := .returned }

def unsubscribe (watcher : Watcher) : Option Watcher :=
  match watcher.phase, watcher.subscribed with
  | .returned, true => some { watcher with subscribed := false }
  | _, _ => none

end Watcher

/-! ## Steps -/

inductive Act
  | store (act : StoreAct)
  | readVersion
  | notify (index : Nat)
  | deliver (index : Nat)
  | release
  | watch (sinceVersion : Int)
  | query (index : Nat)
  | send (index : Nat)
  | receive (index : Nat)
  | fail (index : Nat)
  | unsubscribe (index : Nat)
  | get
  | answer (index : Nat)

namespace Server

def updateWatcher (server : Server) (index : Nat) (change : Watcher -> Option Watcher) : Option Server := do
  let watcher <- server.watchers[index]?
  let changed <- change watcher
  some { server with watchers := server.watchers.set index changed }

def updateGetter (server : Server) (index : Nat) (change : Stage -> Option Stage) : Option Server := do
  let getter <- server.getters[index]?
  let changed <- change getter
  some { server with getters := server.getters.set index changed }

/-- The channels that the broadcaster holds. -/
def subscribers (server : Server) : List Nat :=
  (List.range server.watchers.length).filter fun index =>
    server.watchers[index]?.any Watcher.subscribed

end Server

/-- One step of the server.  Subscribing, unsubscribing and beginning to notify
wait for the lock. -/
def step (env : Env) (server : Server) : Act -> Option Server
  | .store act => (advance env server.moment act).map fun moment => { server with moment := moment }
  | .readVersion =>
      match getTopologyVersion server.moment.db with
      | .ok version => some { server with notices := version :: server.notices }
      | .error _ => none
  | .notify index =>
      match server.notifying, server.notices[index]? with
      | none, some version =>
          some { server with
            version := version
            notices := server.notices.eraseIdx index
            notifying := some (version, server.subscribers) }
      | _, _ => none
  | .deliver index =>
      match server.notifying with
      | some (version, rest) =>
          if index ∈ rest then
            Server.updateWatcher { server with notifying := some (version, rest.erase index) } index
              fun watcher => some (watcher.offer version)
          else
            none
      | none => none
  | .release =>
      match server.notifying with
      | some (_, []) => some { server with notifying := none }
      | _ => none
  | .watch sinceVersion =>
      match server.notifying with
      | none => some { server with watchers := server.watchers ++ [Watcher.watch sinceVersion] }
      | some _ => none
  | .query index => server.updateWatcher index (Watcher.query env.platform server.moment.db)
  | .send index => server.updateWatcher index Watcher.send
  | .receive index => server.updateWatcher index Watcher.receive
  | .fail index => server.updateWatcher index Watcher.fail
  | .unsubscribe index =>
      match server.notifying with
      | none => server.updateWatcher index Watcher.unsubscribe
      | some _ => none
  | .get => some { server with getters := server.getters ++ [.unread] }
  | .answer index => server.updateGetter index (Stage.query env.platform server.moment.db)

abbrev Past := List (Event Server Act)

/-- The runs of a server that starts on some database. -/
def Serves (env : Env) (start : Moment) (past : Past) (server : Server) : Prop :=
  Run (step env) (newServer start) past server

/-! ## What a step changes -/

/-- The topology as it is sent. -/
def labelled (topology : Topology) : Option Nat -> Topology
  | none => topology
  | some received => Watcher.relabel topology received

/-- The label is the greater one of the two versions, and the contents stay. -/
theorem labelled_eq (topology : Topology) (received : Option Nat) :
    labelled topology received =
      { topology with topologyVersion := max topology.topologyVersion (received.getD 0) } := by
  cases received with
  | none => rw [labelled, Option.getD_none, Nat.max_zero]
  | some version =>
      rw [labelled, Watcher.relabel, Option.getD_some]
      split
      · rename_i smaller
        rw [Nat.max_eq_right (Nat.le_of_lt smaller)]
      · rename_i notSmaller
        rw [Nat.max_eq_left (Nat.le_of_not_lt notSmaller)]

/-- What one step can make of a watcher. -/
inductive WatcherStep (env : Env) (server : Server) (watcher : Watcher) : Watcher -> Prop
  | kept : WatcherStep env server watcher watcher
  | offered {version : Nat} {rest : List Nat} (notifying : server.notifying = some (version, rest)) :
      WatcherStep env server watcher (watcher.offer version)
  | queried {received : Option Nat} {stage next : Stage} (phase : watcher.phase = .building received stage)
      (found : stage.query env.platform server.moment.db = some next) :
      WatcherStep env server watcher { watcher with phase := .building received next }
  | sent {received : Option Nat} {topology : Topology} (phase : watcher.phase = .building received (.built topology)) :
      WatcherStep env server watcher (watcher.push (labelled topology received))
  | skipped {topology : Topology} (phase : watcher.phase = .building none (.built topology))
      (since : 0 < watcher.sinceVersion) (known : topology.topologyVersion <= watcher.sinceVersion) :
      WatcherStep env server watcher { watcher with phase := .waiting }
  | received {version : Nat} (phase : watcher.phase = .waiting) (channel : watcher.channel = some version) :
      WatcherStep env server watcher
        { watcher with channel := none, phase := .building (some version) .unread }
  | failed : WatcherStep env server watcher { watcher with phase := .returned }
  | unsubscribed (phase : watcher.phase = .returned) :
      WatcherStep env server watcher { watcher with subscribed := false }

section Watchers

variable {env : Env} {server after : Server} {index : Nat} {watcher changed : Watcher}

theorem query_step (done : watcher.query env.platform server.moment.db = some changed) :
    WatcherStep env server watcher changed := by
  unfold Watcher.query at done
  split at done
  · rename_i received stage phase
    rcases Option.map_eq_some_iff.mp done with ⟨next, found, rfl⟩
    exact .queried phase found
  · cases done

theorem send_step (done : watcher.send = some changed) : WatcherStep env server watcher changed := by
  unfold Watcher.send at done
  split at done
  · rename_i topology phase
    split at done
    · rename_i since
      split at done
      · cases done
        exact .sent phase
      · rename_i known
        cases done
        exact .skipped phase since (by omega)
    · cases done
      exact .sent phase
  · rename_i received topology phase
    cases done
    exact .sent phase
  · cases done

theorem receive_step (done : watcher.receive = some changed) : WatcherStep env server watcher changed := by
  unfold Watcher.receive at done
  split at done
  · rename_i version phase channel
    cases done
    exact .received phase channel
  · cases done

theorem fail_step (done : watcher.fail = some changed) : WatcherStep env server watcher changed := by
  unfold Watcher.fail at done
  split at done
  · cases done
  · cases done
    exact .failed

theorem unsubscribe_step (done : watcher.unsubscribe = some changed) :
    WatcherStep env server watcher changed := by
  unfold Watcher.unsubscribe at done
  split at done
  · rename_i phase _
    cases done
    exact .unsubscribed phase
  · cases done

/-- An update changes one watcher and nothing else. -/
theorem updateWatcher_some {change : Watcher -> Option Watcher}
    (taken : server.updateWatcher index change = some after) :
    Exists fun watcher => Exists fun changed => server.watchers[index]? = some watcher ∧
      change watcher = some changed ∧ after = { server with watchers := server.watchers.set index changed } := by
  unfold Server.updateWatcher at taken
  rcases Option.bind_eq_some_iff.mp taken with ⟨watcher, found, rest⟩
  rcases Option.bind_eq_some_iff.mp rest with ⟨changed, done, same⟩
  exact ⟨watcher, changed, found, done, (Option.some_inj.mp same).symm⟩

end Watchers

/-- What one step can make of the server.  The steps of a single watcher are
taken together. -/
inductive ServerStep (env : Env) (server : Server) : Server -> Prop
  | store {act : StoreAct} {moment : Moment} (done : advance env server.moment act = some moment) :
      ServerStep env server { server with moment := moment }
  | readVersion {version : Nat} (known : getTopologyVersion server.moment.db = .ok version) :
      ServerStep env server { server with notices := version :: server.notices }
  | notify {index version : Nat} (free : server.notifying = none) (found : server.notices[index]? = some version) :
      ServerStep env server { server with
        version := version
        notices := server.notices.eraseIdx index
        notifying := some (version, server.subscribers) }
  | deliver {index version : Nat} {rest : List Nat} {watcher : Watcher}
      (notifying : server.notifying = some (version, rest)) (found : server.watchers[index]? = some watcher) :
      ServerStep env server { server with
        notifying := some (version, rest.erase index)
        watchers := server.watchers.set index (watcher.offer version) }
  | release {version : Nat} (notifying : server.notifying = some (version, [])) :
      ServerStep env server { server with notifying := none }
  | watch (free : server.notifying = none) (sinceVersion : Int) :
      ServerStep env server { server with watchers := server.watchers ++ [Watcher.watch sinceVersion] }
  | update {index : Nat} {watcher changed : Watcher} (found : server.watchers[index]? = some watcher)
      (stepped : WatcherStep env server watcher changed) :
      ServerStep env server { server with watchers := server.watchers.set index changed }
  | get : ServerStep env server { server with getters := server.getters ++ [.unread] }
  | answer {index : Nat} {getter next : Stage} (found : server.getters[index]? = some getter)
      (done : getter.query env.platform server.moment.db = some next) :
      ServerStep env server { server with getters := server.getters.set index next }

section Steps

variable {env : Env} {server after : Server} {act : Act}

theorem updateWatcher_step {index : Nat} {change : Watcher -> Option Watcher}
    (stepped : forall watcher changed, change watcher = some changed -> WatcherStep env server watcher changed)
    (taken : server.updateWatcher index change = some after) : ServerStep env server after := by
  rcases updateWatcher_some taken with ⟨watcher, changed, found, done, rfl⟩
  exact .update found (stepped watcher changed done)

theorem step_spec (taken : step env server act = some after) : ServerStep env server after := by
  cases act with
  | store act =>
      rcases Option.map_eq_some_iff.mp taken with ⟨moment, done, rfl⟩
      exact .store done
  | readVersion =>
      simp only [step] at taken
      split at taken
      · rename_i version known
        cases taken
        exact .readVersion known
      · cases taken
  | notify index =>
      simp only [step] at taken
      split at taken
      · rename_i version free found
        cases taken
        exact .notify free found
      · cases taken
  | deliver index =>
      simp only [step] at taken
      split at taken
      · rename_i version rest notifying
        split at taken
        · rcases updateWatcher_some taken with ⟨watcher, changed, found, done, rfl⟩
          cases done
          exact .deliver notifying found
        · cases taken
      · cases taken
  | release =>
      simp only [step] at taken
      split at taken
      · rename_i version notifying
        cases taken
        exact .release notifying
      · cases taken
  | watch sinceVersion =>
      simp only [step] at taken
      split at taken
      · rename_i free
        cases taken
        exact .watch free sinceVersion
      · cases taken
  | query index => exact updateWatcher_step (fun _ _ => query_step) taken
  | send index => exact updateWatcher_step (fun _ _ => send_step) taken
  | receive index => exact updateWatcher_step (fun _ _ => receive_step) taken
  | fail index => exact updateWatcher_step (fun _ _ => fail_step) taken
  | unsubscribe index =>
      simp only [step] at taken
      split at taken
      · exact updateWatcher_step (fun _ _ => unsubscribe_step) taken
      · cases taken
  | get =>
      cases taken
      exact .get
  | answer index =>
      simp only [step, Server.updateGetter] at taken
      rcases Option.bind_eq_some_iff.mp taken with ⟨getter, found, rest⟩
      rcases Option.bind_eq_some_iff.mp rest with ⟨next, done, same⟩
      cases same
      exact .answer found done

theorem getElem?_set_cases {X : Type} {items : List X} {index other : Nat} {item found : X}
    (present : (items.set index item)[other]? = some found) :
    (other = index ∧ found = item) ∨ (other ≠ index ∧ items[other]? = some found) := by
  by_cases same : other = index
  · cases same
    rw [List.getElem?_set_self'] at present
    rcases Option.map_eq_some_iff.mp present with ⟨_, _, rfl⟩
    exact Or.inl ⟨rfl, rfl⟩
  · rw [List.getElem?_set_ne fun equal => same equal.symm] at present
    exact Or.inr ⟨same, present⟩

/-- A watcher after a step was there before, or it has just subscribed. -/
theorem ServerStep.watcher_at {other : Nat} {changed : Watcher} (stepped : ServerStep env server after)
    (present : after.watchers[other]? = some changed) :
    (Exists fun watcher => server.watchers[other]? = some watcher ∧ WatcherStep env server watcher changed) ∨
      (server.notifying = none ∧ Exists fun sinceVersion => changed = Watcher.watch sinceVersion) := by
  cases stepped with
  | store | readVersion | notify | release | get | answer => exact Or.inl ⟨changed, present, .kept⟩
  | deliver notifying found =>
      rcases getElem?_set_cases present with ⟨rfl, rfl⟩ | ⟨_, old⟩
      · exact Or.inl ⟨_, found, .offered notifying⟩
      · exact Or.inl ⟨changed, old, .kept⟩
  | watch free sinceVersion =>
      by_cases inside : other < server.watchers.length
      · rw [List.getElem?_append_left inside] at present
        exact Or.inl ⟨changed, present, .kept⟩
      · rw [List.getElem?_append_right (Nat.le_of_not_lt inside)] at present
        exact Or.inr ⟨free, sinceVersion, List.mem_singleton.mp (List.mem_of_getElem? present)⟩
  | update found moved =>
      rcases getElem?_set_cases present with ⟨rfl, rfl⟩ | ⟨_, old⟩
      · exact Or.inl ⟨_, found, moved⟩
      · exact Or.inl ⟨changed, old, .kept⟩

theorem ServerStep.watcher {changed : Watcher} (stepped : ServerStep env server after)
    (member : changed ∈ after.watchers) :
    (Exists fun watcher => watcher ∈ server.watchers ∧ WatcherStep env server watcher changed) ∨
      Exists fun sinceVersion => changed = Watcher.watch sinceVersion := by
  rcases List.mem_iff_getElem?.mp member with ⟨other, present⟩
  rcases stepped.watcher_at present with ⟨watcher, found, moved⟩ | ⟨_, new⟩
  · exact Or.inl ⟨watcher, List.mem_of_getElem? found, moved⟩
  · exact Or.inr new

/-- The same for the builders of single topologies. -/
theorem ServerStep.getter_at {other : Nat} {changed : Stage} (stepped : ServerStep env server after)
    (present : after.getters[other]? = some changed) :
    server.getters[other]? = some changed ∨ changed = .unread ∨
      Exists fun getter => server.getters[other]? = some getter ∧
        getter.query env.platform server.moment.db = some changed := by
  cases stepped with
  | store | readVersion | notify | deliver | release | watch | update => exact Or.inl present
  | get =>
      by_cases inside : other < server.getters.length
      · rw [List.getElem?_append_left inside] at present
        exact Or.inl present
      · rw [List.getElem?_append_right (Nat.le_of_not_lt inside)] at present
        exact Or.inr (Or.inl (List.mem_singleton.mp (List.mem_of_getElem? present)))
  | answer found done =>
      rcases getElem?_set_cases present with ⟨rfl, rfl⟩ | ⟨_, old⟩
      · exact Or.inr (Or.inr ⟨_, found, done⟩)
      · exact Or.inl old

theorem ServerStep.getter {changed : Stage} (stepped : ServerStep env server after)
    (member : changed ∈ after.getters) :
    changed ∈ server.getters ∨ changed = .unread ∨
      Exists fun getter => getter ∈ server.getters ∧ getter.query env.platform server.moment.db = some changed := by
  rcases List.mem_iff_getElem?.mp member with ⟨other, present⟩
  rcases stepped.getter_at present with old | new | ⟨getter, found, done⟩
  · exact Or.inl (List.mem_of_getElem? old)
  · exact Or.inr (Or.inl new)
  · exact Or.inr (Or.inr ⟨getter, List.mem_of_getElem? found, done⟩)

/-- A property of single watchers that newly opened ones have and that their
steps keep. -/
theorem ServerStep.every_watcher {holds : Watcher -> Prop} (stepped : ServerStep env server after)
    (held : forall watcher, watcher ∈ server.watchers -> holds watcher)
    (opened : forall sinceVersion, holds (.watch sinceVersion))
    (moved : forall watcher changed, watcher ∈ server.watchers -> WatcherStep env server watcher changed ->
      holds watcher -> holds changed) :
    forall watcher, watcher ∈ after.watchers -> holds watcher := by
  intro watcher member
  rcases stepped.watcher member with ⟨source, present, move⟩ | ⟨sinceVersion, rfl⟩
  · exact moved source watcher present move (held source present)
  · exact opened sinceVersion

theorem ServerStep.every_getter {holds : Stage -> Prop} (stepped : ServerStep env server after)
    (held : forall getter, getter ∈ server.getters -> holds getter) (opened : holds .unread)
    (queried : forall getter next, getter ∈ server.getters -> getter.query env.platform server.moment.db = some next ->
      holds getter -> holds next) :
    forall getter, getter ∈ after.getters -> holds getter := by
  intro getter member
  rcases stepped.getter member with old | rfl | ⟨source, present, done⟩
  · exact held getter old
  · exact opened
  · exact queried source getter present done (held source present)

/-- The version of the database never falls. -/
theorem currentVersion_le {earlier later : Moment} (follows : TopologyFollows earlier later) :
    currentVersion earlier.db <= currentVersion later.db := by
  unfold currentVersion
  cases known : getTopologyVersion earlier.db with
  | error failure => exact Nat.zero_le _
  | ok version =>
      rcases follows version known with ⟨next, nextKnown, rises, _⟩
      rw [nextKnown]
      exact rises

/-- A version that the database has had. -/
def Reached (db : Db) (version : Nat) : Prop :=
  Exists fun current => getTopologyVersion db = .ok current ∧ version <= current

theorem Reached.le {db : Db} {version : Nat} (reached : Reached db version) : version <= currentVersion db := by
  rcases reached with ⟨current, known, bound⟩
  rw [currentVersion, known]
  exact bound

theorem Reached.later {earlier later : Moment} {version : Nat} (reached : Reached earlier.db version)
    (follows : TopologyFollows earlier later) : Reached later.db version := by
  rcases reached with ⟨current, known, bound⟩
  rcases follows current known with ⟨next, nextKnown, rises, _⟩
  exact ⟨next, nextKnown, Nat.le_trans bound rises⟩

theorem ServerStep.follows (stepped : ServerStep env server after) :
    TopologyFollows server.moment after.moment := by
  cases stepped with
  | store done => exact advance_follows done
  | readVersion | notify | deliver | release | watch | update | get | answer =>
      exact (topologyStep_refl _).follows

theorem ServerStep.version_le (stepped : ServerStep env server after) :
    currentVersion server.moment.db <= currentVersion after.moment.db :=
  currentVersion_le stepped.follows

end Steps

/-! ## A small run -/

/-- The topology changes while a stream is open, and once more while the change
is on its way. -/
def relayedChange : List Act :=
  [.store (.perform (.bootstrap (sampleConfig 100))), .watch 0, .query 0, .query 0, .query 0, .send 0, .get, .answer 0,
    .store (.perform (.registerShard 1 .data "a" "" "")), .readVersion, .notify 0, .deliver 0, .release,
    .receive 0, .query 0, .store (.perform (.registerShard 2 .data "b" "" "")), .query 0, .query 0, .send 0,
    .answer 0, .answer 0]

end Watch
end Shardman
