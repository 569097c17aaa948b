import Mathlib.Algebra.BigOperators.Group.List.Basic
import Mathlib.Algebra.Group.Nat.Defs
import Shardman.Watch.Current
import Shardman.Watch.Delivery

namespace Shardman
namespace Watch

open Bucket
open Store
open Control
open Client
open Foundation

/-!
# Streams catch up

Suppose that the database stays as it is and that somebody has read its version
in order to notify it.  What is left for the server to do then is to pass on
notifications and to build and send topologies.  It is done with that after a
bounded number of steps, in whatever order they are taken, and then the last
topology of every open stream has the current version and is up to date.
-/

/-- The steps in which the server only works off what is waiting. -/
def isInternal : Act -> Bool
  | .notify _ | .deliver _ | .release | .query _ | .send _ | .receive _ => true
  | _ => false

/-! ## The work that is left -/

def Stage.work : Stage -> Nat
  | .unread => 4
  | .versioned _ => 3
  | .configured _ _ => 2
  | .built _ => 1

def Phase.work : Phase -> Nat
  | .building _ stage => stage.work
  | .waiting => 0
  | .returned => 0

/-- A value in the channel stands for another topology to be built. -/
def slotWork : Option Nat -> Nat
  | none => 0
  | some _ => 5

def Watcher.work (watcher : Watcher) : Nat := watcher.phase.work + slotWork watcher.channel

def notifyingWork : Option (Nat × List Nat) -> Nat
  | none => 0
  | some (_, rest) => 6 * rest.length + 1

/-- Every pending notification may come to every stream. -/
def Server.work (server : Server) : Nat :=
  server.notices.length * (6 * server.watchers.length + 2) + notifyingWork server.notifying +
    (server.watchers.map Watcher.work).sum

section Work

variable {env : Env} {server after : Server} {act : Act}

theorem Watcher.work_offer (watcher : Watcher) (version : Nat) : (watcher.offer version).work <= watcher.work + 5 := by
  simp only [Watcher.work, Watcher.offer, slotWork]
  omega

theorem Watcher.work_query {platform : Platform} {db : Db} {watcher changed : Watcher}
    (done : watcher.query platform db = some changed) :
    changed.work < watcher.work := by
  unfold Watcher.query at done
  split at done
  · rename_i received stage phase
    rcases Option.map_eq_some_iff.mp done with ⟨next, found, rfl⟩
    have shorter : next.work < stage.work := by
      cases stage with
      | built topology => cases found
      | unread | versioned | configured =>
          cases found
          exact Nat.lt_succ_self _
    simp only [Watcher.work, phase, Phase.work]
    omega
  · cases done

theorem Watcher.work_send {watcher changed : Watcher} (done : watcher.send = some changed) :
    changed.work < watcher.work := by
  unfold Watcher.send at done
  split at done
  · rename_i topology phase
    split at done
    · split at done
      · cases done
        simp only [Watcher.work, Watcher.push, phase, Phase.work, Stage.work]
        omega
      · cases done
        simp only [Watcher.work, phase, Phase.work, Stage.work]
        omega
    · cases done
      simp only [Watcher.work, Watcher.push, phase, Phase.work, Stage.work]
      omega
  · rename_i received topology phase
    cases done
    simp only [Watcher.work, Watcher.push, phase, Phase.work, Stage.work]
    omega
  · cases done

theorem Watcher.work_receive {watcher changed : Watcher} (done : watcher.receive = some changed) :
    changed.work < watcher.work := by
  unfold Watcher.receive at done
  split at done
  · rename_i version phase channel
    cases done
    simp only [Watcher.work, phase, channel, Phase.work, Stage.work, slotWork]
    omega
  · cases done

/-- The sum changes as the watcher does. -/
theorem work_set {watchers : List Watcher} {index : Nat} {watcher : Watcher} (changed : Watcher)
    (found : watchers[index]? = some watcher) :
    ((watchers.set index changed).map Watcher.work).sum + watcher.work =
      (watchers.map Watcher.work).sum + changed.work := by
  rcases List.getElem?_eq_some_iff.mp found with ⟨inside, rfl⟩
  have before := ((List.getElem_cons_eraseIdx_perm inside).map Watcher.work).sum_eq
  have later := ((List.set_perm_cons_eraseIdx inside changed).map Watcher.work).sum_eq
  rw [List.map_cons, List.sum_cons] at before later
  omega

theorem updateWatcher_work {index : Nat} {change : Watcher -> Option Watcher}
    (shortens : forall watcher changed, change watcher = some changed -> changed.work < watcher.work)
    (taken : server.updateWatcher index change = some after) : after.work < server.work := by
  rcases updateWatcher_some taken with ⟨watcher, changed, found, done, rfl⟩
  have less := shortens watcher changed done
  have sums := work_set changed found
  simp only [Server.work, List.length_set]
  omega

theorem subscribers_length (server : Server) : server.subscribers.length <= server.watchers.length := by
  refine Nat.le_trans (List.length_filter_le _ _) ?_
  rw [List.length_range]

/-- Every internal step leaves less to do. -/
theorem step_work (internal : isInternal act = true) (taken : step env server act = some after) :
    after.work < server.work := by
  cases act with
  | notify index =>
      simp only [step] at taken
      split at taken
      · rename_i version free found
        cases taken
        rcases List.getElem?_eq_some_iff.mp found with ⟨inside, _⟩
        have length := subscribers_length server
        have one : server.notices.length = (server.notices.eraseIdx index).length + 1 := by
          rw [List.length_eraseIdx_of_lt inside]
          omega
        simp only [Server.work, free, notifyingWork, one, Nat.add_mul, Nat.one_mul]
        omega
      · cases taken
  | deliver index =>
      simp only [step] at taken
      split at taken
      · rename_i version rest notifying
        split at taken
        · rename_i listed
          rcases updateWatcher_some taken with ⟨watcher, changed, found, done, rfl⟩
          cases done
          have shorter : rest.length = (rest.erase index).length + 1 := by
            rw [List.length_erase_of_mem listed]
            have := List.length_pos_of_mem listed
            omega
          have more := watcher.work_offer version
          have present : server.watchers[index]? = some watcher := found
          have sums := work_set (watcher.offer version) present
          simp only [Server.work, notifying, notifyingWork, shorter, List.length_set]
          omega
        · cases taken
      · cases taken
  | release =>
      simp only [step] at taken
      split at taken
      · rename_i notifying
        cases taken
        simp only [Server.work, notifying, notifyingWork, List.length_nil]
        omega
      · cases taken
  | query index => exact updateWatcher_work (fun _ _ => Watcher.work_query) taken
  | send index => exact updateWatcher_work (fun _ _ => Watcher.work_send) taken
  | receive index => exact updateWatcher_work (fun _ _ => Watcher.work_receive) taken
  | store | readVersion | watch | fail | unsubscribe | get | answer => cases internal

end Work

/-- A run of internal steps is no longer than the work there was. -/
theorem internal_run_bounded {env : Env} {server final : Server} {more : Past}
    (run : Run (step env) server more final) (internal : forall event, event ∈ more -> isInternal event.action = true) :
    more.length + final.work <= server.work := by
  refine Run.history (fun more final => more.length + final.work <= server.work)
    (fun _ act => isInternal act = true) ?_ ?_ run internal
  · rw [List.length_nil, Nat.zero_add]
  · intro more state act after _ bound isInternal taken
    have less := step_work isInternal taken
    rw [List.length_cons]
    omega

/-! ## Notifications arrive -/

/-- A version that was read for a notification is still to be notified, is being
notified, or has been. -/
def Pending (past : Past) (server : Server) (version : Nat) : Prop :=
  version ∈ server.notices ∨ (Exists fun rest => server.notifying = some (version, rest)) ∨ EverNotified past version

theorem everNotified_mono {past : Past} {event : Event Server Act} {version : Nat}
    (notified : EverNotified past version) : EverNotified (event :: past) version := by
  rcases notified with ⟨older, member, facts⟩
  exact ⟨older, List.mem_cons_of_mem _ member, facts⟩

theorem mem_eraseIdx_or {versions : List Nat} {index chosen version : Nat} (found : versions[index]? = some chosen)
    (member : version ∈ versions) : version = chosen ∨ version ∈ versions.eraseIdx index := by
  rcases List.getElem?_eq_some_iff.mp found with ⟨inside, rfl⟩
  exact List.mem_cons.mp ((List.getElem_cons_eraseIdx_perm inside).mem_iff.mpr member)

/-- A notification keeps the lock until it has come to all subscribers. -/
theorem step_notifying {env : Env} {server after : Server} {act : Act} {version : Nat} {rest : List Nat}
    (taken : step env server act = some after) (notifying : server.notifying = some (version, rest)) :
    (Exists fun left => after.notifying = some (version, left)) ∨ act = .release ∧ rest = [] := by
  cases act with
  | release =>
      simp only [step, notifying] at taken
      split at taken
      · rename_i holds
        cases holds
        exact Or.inr ⟨rfl, rfl⟩
      · cases taken
  | deliver index =>
      simp only [step, notifying] at taken
      split at taken
      · rcases updateWatcher_some taken with ⟨_, _, _, _, rfl⟩
        exact Or.inl ⟨_, rfl⟩
      · cases taken
  | notify | watch | unsubscribe =>
      simp only [step, notifying] at taken
      cases taken
  | store act =>
      rcases Option.map_eq_some_iff.mp taken with ⟨_, _, rfl⟩
      exact Or.inl ⟨rest, notifying⟩
  | readVersion =>
      simp only [step] at taken
      split at taken
      · cases taken
        exact Or.inl ⟨rest, notifying⟩
      · cases taken
  | query | send | receive | fail =>
      rcases updateWatcher_some taken with ⟨_, _, _, _, rfl⟩
      exact Or.inl ⟨rest, notifying⟩
  | get =>
      cases taken
      exact Or.inl ⟨rest, notifying⟩
  | answer index =>
      simp only [step, Server.updateGetter] at taken
      rcases Option.bind_eq_some_iff.mp taken with ⟨_, _, more⟩
      rcases Option.bind_eq_some_iff.mp more with ⟨_, _, same⟩
      cases same
      exact Or.inl ⟨rest, notifying⟩

/-- Where a version stands after a step. -/
theorem step_pending {env : Env} {past : Past} {server after : Server} {act : Act} {version : Nat}
    (taken : step env server act = some after) (pending : Pending past server version) :
    Pending (⟨server, act⟩ :: past) after version := by
  rcases pending with waiting | ⟨rest, notifying⟩ | notified
  · cases step_spec taken with
    | store | deliver | release | watch | update | get | answer => exact Or.inl waiting
    | readVersion => exact Or.inl (List.mem_cons_of_mem _ waiting)
    | notify free found =>
        rcases mem_eraseIdx_or found waiting with rfl | still
        · exact Or.inr (Or.inl ⟨_, rfl⟩)
        · exact Or.inl still
  · rcases step_notifying taken notifying with holds | ⟨rfl, rfl⟩
    · exact Or.inr (Or.inl holds)
    · exact Or.inr (Or.inr ⟨_, List.mem_cons_self, rfl, notifying⟩)
  · exact Or.inr (Or.inr (everNotified_mono notified))

/-- Somebody has read the version in order to notify it. -/
def Noticed (past : Past) (version : Nat) : Prop :=
  Exists fun event => event ∈ past ∧ event.action = .readVersion ∧ currentVersion event.state.moment.db = version

theorem serves_pending {env : Env} {start : Moment} {past : Past} {server : Server}
    (run : Serves env start past server) : forall version, Noticed past version -> Pending past server version := by
  refine Run.history (fun past server => forall version, Noticed past version -> Pending past server version)
    (fun _ _ => True) ?_ ?_ run fun _ _ => trivial
  · rintro version ⟨event, absent, _⟩
    cases absent
  · rintro past server act after _ held _ taken version ⟨event, member, action, read⟩
    rcases List.mem_cons.mp member with rfl | older
    · cases action
      simp only [step] at taken
      split at taken
      · rename_i known
        cases taken
        refine Or.inl ?_
        rw [← read, currentVersion, known]
        exact List.mem_cons_self
      · cases taken
    · exact step_pending taken (held version ⟨event, older, action, read⟩)

/-- The lock holder only has subscribers before it. -/
theorem serves_recipients {env : Env} {start : Moment} {past : Past} {server : Server}
    (run : Serves env start past server) : forall version rest, server.notifying = some (version, rest) ->
      forall index, index ∈ rest -> index < server.watchers.length := by
  refine Run.invariant (fun server => forall version rest, server.notifying = some (version, rest) ->
    forall index, index ∈ rest -> index < server.watchers.length) (fun _ _ => True) ?_ ?_ run fun _ _ => trivial
  · rintro version rest ⟨⟩
  · intro server act after held _ taken version rest notifying index listed
    cases step_spec taken with
    | store | readVersion | get | answer => exact held version rest notifying index listed
    | release => cases notifying
    | watch free =>
        have held := free.symm.trans notifying
        cases held
    | notify =>
        cases notifying
        exact List.mem_range.mp (List.mem_filter.mp listed).1
    | deliver before found =>
        cases notifying
        rw [List.length_set]
        exact held _ _ before index (List.mem_of_mem_erase listed)
    | update =>
        rw [List.length_set]
        exact held version rest notifying index listed

/-! ## A server with nothing left to do -/

/-- No internal step is possible. -/
def Quiet (env : Env) (server : Server) : Prop :=
  forall act, isInternal act = true -> step env server act = none

section Quiet

variable {env : Env} {start : Moment} {past : Past} {server : Server}

theorem Quiet.not_notifying (run : Serves env start past server) (quiet : Quiet env server) :
    server.notifying = none := by
  cases notifying : server.notifying with
  | none => rfl
  | some holder =>
      exfalso
      rcases holder with ⟨version, rest⟩
      cases rest with
      | nil =>
          have stuck := quiet .release rfl
          simp only [step, notifying] at stuck
          cases stuck
      | cons index others =>
          have inside := serves_recipients run version _ notifying index List.mem_cons_self
          have stuck := quiet (.deliver index) rfl
          simp only [step, notifying, List.mem_cons_self, if_true, Server.updateWatcher,
            List.getElem?_eq_getElem inside] at stuck
          cases stuck

theorem Quiet.no_notices (free : server.notifying = none) (quiet : Quiet env server) : server.notices = [] := by
  cases waiting : server.notices with
  | nil => rfl
  | cons version others =>
      have stuck := quiet (.notify 0) rfl
      simp only [step, free, waiting, List.getElem?_cons_zero] at stuck
      cases stuck

/-- A watcher for which a change is possible takes a step. -/
theorem Quiet.no_change (quiet : Quiet env server) {index : Nat} {watcher : Watcher}
    (found : server.watchers[index]? = some watcher) :
    watcher.query env.platform server.moment.db = none ∧ watcher.send = none ∧ watcher.receive = none := by
  have stuck : forall (act : Act) (change : Watcher -> Option Watcher), isInternal act = true ->
      step env server act = server.updateWatcher index change -> change watcher = none := by
    intro act change internal same
    cases outcome : change watcher with
    | none => rfl
    | some changed =>
        have enabled : server.updateWatcher index change =
            some { server with watchers := server.watchers.set index changed } := by
          simp only [Server.updateWatcher, found, outcome, Option.bind_eq_bind, Option.bind_some]
        rw [quiet act internal, enabled] at same
        cases same
  exact ⟨stuck (.query index) _ rfl rfl, stuck (.send index) _ rfl rfl, stuck (.receive index) _ rfl rfl⟩

/-- An open stream waits, with an empty channel. -/
theorem Quiet.waits (quiet : Quiet env server) {watcher : Watcher} (member : watcher ∈ server.watchers)
    (isOpen : watcher.phase ≠ .returned) : watcher.phase = .waiting ∧ watcher.channel = none := by
  rcases List.getElem?_of_mem member with ⟨index, found⟩
  rcases quiet.no_change found with ⟨noQuery, noSend, noReceive⟩
  cases phase : watcher.phase with
  | returned => exact absurd phase isOpen
  | building received stage =>
      exfalso
      cases stage with
      | unread | versioned | configured =>
          simp only [Watcher.query, phase, Stage.query] at noQuery
          cases noQuery
      | built topology =>
          cases received with
          | some version =>
              simp only [Watcher.send, phase] at noSend
              cases noSend
          | none =>
              simp only [Watcher.send, phase] at noSend
              split at noSend
              · split at noSend <;> cases noSend
              · cases noSend
  | waiting =>
      refine ⟨rfl, ?_⟩
      cases channel : watcher.channel with
      | none => rfl
      | some version =>
          simp only [Watcher.receive, phase, channel] at noReceive
          cases noReceive

/-- The last event of a stream is as new as every version that was notified. -/
theorem Quiet.last_notified (run : Serves env start past server) (quiet : Quiet env server) {version : Nat}
    (notified : EverNotified past version) {watcher : Watcher} (member : watcher ∈ server.watchers)
    (isOpen : watcher.phase ≠ .returned) (since : watcher.sinceVersion < version) :
    Exists fun last => watcher.sent.getLast? = some last ∧ version <= last.topologyVersion := by
  rcases quiet.waits member isOpen with ⟨phase, channel⟩
  have covered := (serves_delivered run).covered _ watcher notified member
  rw [Watcher.Covers, channel, phase] at covered
  have seen : version <= watcher.seen := covered.resolve_left fun impossible => impossible rfl
  rw [Watcher.seen, Watcher.lastSent] at seen
  cases sent : watcher.sent.getLast? with
  | none =>
      exfalso
      rw [sent] at seen
      simp only [Option.map_none, Option.getD_none] at seen
      by_cases first : watcher.sinceVersion <= 0
      · exact (serves_ordered run watcher member).started first (Or.inl phase) (List.getLast?_eq_none_iff.mp sent)
      · omega
  | some last =>
      rw [sent] at seen
      simp only [Option.map_some, Option.getD_some] at seen
      exact ⟨last, rfl, by omega⟩

/-- The last event of a stream that has caught up. -/
theorem Quiet.last_current (run : Serves env start past server) (quiet : Quiet env server)
    (noticed : Noticed past (currentVersion server.moment.db)) {watcher : Watcher}
    (member : watcher ∈ server.watchers) (isOpen : watcher.phase ≠ .returned)
    (since : watcher.sinceVersion < currentVersion server.moment.db) :
    Exists fun last => watcher.sent.getLast? = some last ∧
      last.topologyVersion = currentVersion server.moment.db := by
  have free := quiet.not_notifying run
  have notified : EverNotified past (currentVersion server.moment.db) := by
    rcases serves_pending run _ noticed with waiting | ⟨rest, notifying⟩ | notified
    · rw [quiet.no_notices free] at waiting
      cases waiting
    · rw [free] at notifying
      cases notifying
    · exact notified
  rcases quiet.last_notified run notified member isOpen since with ⟨last, sent, recent⟩
  have known := ((serves_known run).watchers watcher member).sent last (List.mem_of_getLast? sent)
  exact ⟨last, sent, Nat.le_antisymm known recent⟩

end Quiet

/-- From every state that a server reaches, it is done with its internal steps
after a bounded number of them, whatever their order.  When it is, and the
current version was read in order to be notified, the last event of every open
stream has the current version, and its topology is up to date. -/
theorem quiet_server_converges (env : Env) (start : Moment) {past : Past} {server : Server}
    (run : Serves env start past server) :
    (forall more final, Run (step env) server more final ->
      (forall event, event ∈ more -> isInternal event.action = true) -> more.length <= server.work) ∧
    (Quiet env server -> Noticed past (currentVersion server.moment.db) ->
      forall watcher, watcher ∈ server.watchers -> watcher.phase ≠ .returned ->
        watcher.sinceVersion < currentVersion server.moment.db ->
        Exists fun last => watcher.sent.getLast? = some last ∧
          last.topologyVersion = currentVersion server.moment.db ∧
          UpToDate env.platform last.topology server.moment) := by
  refine ⟨?_, ?_⟩
  · intro more final steps internal
    have bound := internal_run_bounded steps internal
    omega
  · intro quiet noticed watcher member isOpen since
    rcases quiet.last_current run noticed member isOpen since with ⟨last, sent, current⟩
    have listed := List.mem_of_getLast? sent
    refine ⟨last, sent, current, handedOut_upToDate run (Or.inr ⟨watcher, last, member, listed, rfl⟩) ?_⟩
    rw [← ((serves_dated run).watchers watcher member).sent last listed |>.1]
    exact current

/-- The stream waits for a value. -/
def idles (watcher : Watcher) : Bool := waits watcher && watcher.channel.isNone

theorem idles_stuck {watcher : Watcher} (idle : idles watcher = true) (platform : Platform) (db : Db) :
    watcher.query platform db = none ∧ watcher.send = none ∧ watcher.receive = none := by
  rcases Bool.and_eq_true_iff.mp idle with ⟨waiting, empty⟩
  rw [Option.isNone_iff_eq_none] at empty
  cases phase : watcher.phase with
  | building | returned =>
      rw [waits, phase] at waiting
      cases waiting
  | waiting =>
      refine ⟨?_, ?_, ?_⟩
      · rw [Watcher.query, phase]
      · rw [Watcher.send, phase]
      · rw [Watcher.receive, phase, empty]

/-- Nothing is left to do when nobody notifies and all streams wait. -/
theorem quiet_of_idle {env : Env} {server : Server} (free : server.notifying = none) (unnoticed : server.notices = [])
    (idle : forall watcher, watcher ∈ server.watchers -> idles watcher = true) : Quiet env server := by
  have stuck : forall index (change : Watcher -> Option Watcher),
      (forall watcher, idles watcher = true -> change watcher = none) -> server.updateWatcher index change = none := by
    intro index change stays
    cases found : server.watchers[index]? with
    | none => simp only [Server.updateWatcher, found, Option.bind_eq_bind, Option.bind_none]
    | some watcher =>
        simp only [Server.updateWatcher, found, Option.bind_eq_bind, Option.bind_some,
          stays watcher (idle watcher (List.mem_of_getElem? found)), Option.bind_none]
  intro act internal
  cases act with
  | notify index => simp only [step, free, unnoticed, List.getElem?_nil]
  | deliver index => simp only [step, free]
  | release => simp only [step, free]
  | query index => exact stuck index _ fun _ waiting => (idles_stuck waiting env.platform server.moment.db).1
  | send index => exact stuck index _ fun _ waiting => (idles_stuck waiting env.platform server.moment.db).2.1
  | receive index => exact stuck index _ fun _ waiting => (idles_stuck waiting env.platform server.moment.db).2.2
  | store | readVersion | watch | fail | unsubscribe | get | answer => cases internal

/-- The event reads a version in order to notify it. -/
def notices (version : Nat) (event : Event Server Act) : Bool :=
  match event.action with
  | .readVersion => currentVersion event.state.moment.db == version
  | _ => false

theorem noticed_of_notices {past : Past} {version : Nat} (found : past.any (notices version) = true) :
    Noticed past version := by
  rcases List.any_eq_true.mp found with ⟨event, member, matched⟩
  refine ⟨event, member, ?_⟩
  unfold notices at matched
  split at matched
  · rename_i action
    exact ⟨action, beq_iff_eq.mp matched⟩
  · cases matched

/-- The second change of the small run is passed on as well. -/
theorem quiet_server_converges_relayed :
    Exists fun past => Exists fun server => Exists fun watcher => Exists fun last =>
      Serves sampleEnv ⟨Db.fresh, 0⟩ past server ∧ Quiet sampleEnv server ∧ currentVersion server.moment.db = 3 ∧
      Noticed past (currentVersion server.moment.db) ∧ watcher ∈ server.watchers ∧
      watcher.sent.getLast? = some last ∧ last.topologyVersion = currentVersion server.moment.db ∧
      UpToDate samplePlatform last.topology server.moment := by
  have passed : replayCheck (step sampleEnv)
      (List.flatten [relayedChange, [.readVersion, .notify 0, .deliver 0, .release, .receive 0, .query 0, .query 0,
        .query 0, .send 0]]) (newServer ⟨Db.fresh, 0⟩) (fun past server =>
      (past.any (notices 3) && (currentVersion server.moment.db == 3 && server.notifying.isNone)) &&
        (server.notices.isEmpty && (server.watchers.all idles &&
          server.watchers.any fun watcher => decide (watcher.sinceVersion <= 0)))) = true := by
    decide +kernel
  rcases replayCheck_run passed with ⟨past, server, run, checked⟩
  simp only [Bool.and_eq_true, beq_iff_eq, Option.isNone_iff_eq_none, List.isEmpty_iff] at checked
  rcases checked with ⟨⟨read, three, free⟩, unnoticed, idle, stream⟩
  rcases List.any_eq_true.mp stream with ⟨watcher, member, since⟩
  rw [decide_eq_true_eq] at since
  have quiet : Quiet sampleEnv server := quiet_of_idle free unnoticed (List.all_eq_true.mp idle)
  have noticed : Noticed past (currentVersion server.moment.db) := by
    rw [three]
    exact noticed_of_notices read
  have isOpen : watcher.phase ≠ .returned := by
    intro returned
    have waiting := List.all_eq_true.mp idle watcher member
    rw [idles, waits, returned] at waiting
    cases waiting
  rcases (quiet_server_converges sampleEnv _ run).2 quiet noticed watcher member isOpen (by omega) with
    ⟨last, sent, current, upToDate⟩
  exact ⟨past, server, watcher, last, run, quiet, three, noticed, member, sent, current, upToDate⟩

end Watch
end Shardman
