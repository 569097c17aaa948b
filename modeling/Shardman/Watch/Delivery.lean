import Shardman.Watch.Versions

namespace Shardman
namespace Watch

open Bucket
open Store
open Control
open Client
open Foundation

/-!
# No change is lost

A notification is dropped where the slot of the channel is taken, and several
notifications may overtake each other.  A stream still catches up with all of
them, because after each value it receives it reads the database again, and a
value that is still in the slot will make it do so.

`Watcher.Covers` says for one notified version why a watcher cannot miss it.
Each step of the server keeps this, and delivering the version establishes it.
-/

/-- The versions of the notifications that have been completed. -/
def EverNotified (past : Past) (version : Nat) : Prop :=
  Exists fun event => event ∈ past ∧ event.action = .release ∧ event.state.notifying = some (version, [])

theorem everNotified_cons {past : Past} {server : Server} {act : Act} {version : Nat}
    (notified : EverNotified (⟨server, act⟩ :: past) version) :
    server.notifying = some (version, []) ∨ EverNotified past version := by
  rcases notified with ⟨event, member, action, notifying⟩
  rcases List.mem_cons.mp member with rfl | old
  · exact Or.inl notifying
  · exact Or.inr ⟨event, old, action, notifying⟩

namespace Watcher

/-- The version of the last event. -/
def lastSent (watcher : Watcher) : Option Nat := watcher.sent.getLast?.map TopologyEvent.topologyVersion

/-- The version that the client of the stream has seen. -/
def seen (watcher : Watcher) : Nat := max (watcher.lastSent.getD 0) watcher.sinceVersion.toNat

/-- Why a watcher cannot miss a version: a value is waiting for it, or what it
builds or has sent last is recent enough. -/
def Covers (watcher : Watcher) (version : Nat) : Prop :=
  watcher.channel ≠ none ∨
    match watcher.phase with
    | .building received stage => forall read, stage.version = some read -> version <= max read (received.getD 0)
    | .waiting => version <= watcher.seen
    | .returned => True

theorem covers_offer (watcher : Watcher) (offered version : Nat) : (watcher.offer offered).Covers version :=
  Or.inl (Option.some_ne_none _)

theorem covers_watch (sinceVersion : Int) (version : Nat) : (watch sinceVersion).Covers version := by
  refine Or.inr ?_
  intro read impossible
  cases impossible

theorem covers_returned {watcher : Watcher} (phase : watcher.phase = .returned) (version : Nat) :
    watcher.Covers version := by
  unfold Covers
  rw [phase]
  exact Or.inr trivial

theorem lastSent_push (watcher : Watcher) (topology : Topology) :
    (watcher.push topology).lastSent = some topology.topologyVersion := by
  simp only [lastSent, push, List.getLast?_append, List.getLast?_singleton, Option.some_or, Option.map_some]

end Watcher

/-- A version that the database has reached stays covered. -/
theorem WatcherStep.covers {env : Env} {server : Server} {watcher changed : Watcher}
    (stepped : WatcherStep env server watcher changed) {version : Nat}
    (reached : version <= currentVersion server.moment.db) (covers : watcher.Covers version) :
    changed.Covers version := by
  cases stepped with
  | kept => exact covers
  | offered notifying => exact Watcher.covers_offer watcher _ version
  | @queried received stage next phase found =>
      rcases covers with full | covers
      · exact Or.inl full
      · refine Or.inr ?_
        intro read known
        rw [phase] at covers
        rcases Stage.query_version found with ⟨_, rfl⟩ | same
        · cases known
          exact Nat.le_trans reached (Nat.le_max_left _ _)
        · exact covers read (same ▸ known)
  | @sent received topology phase =>
      rcases covers with full | covers
      · exact Or.inl full
      · rw [phase] at covers
        have label := covers topology.topologyVersion rfl
        refine Or.inr ?_
        change version <= (watcher.push (labelled topology received)).seen
        rw [Watcher.seen, Watcher.lastSent_push, labelled_eq]
        exact Nat.le_trans label (Nat.le_max_left _ _)
  | @skipped topology phase since known =>
      rcases covers with full | covers
      · exact Or.inl full
      · rw [phase] at covers
        have label := covers topology.topologyVersion rfl
        refine Or.inr ?_
        change version <= max _ watcher.sinceVersion.toNat
        simp only [Option.getD_none] at label
        omega
  | received phase channel =>
      refine Or.inr ?_
      intro read impossible
      cases impossible
  | failed => exact Watcher.covers_returned rfl version
  | unsubscribed phase => exact Watcher.covers_returned phase version

/-! ## The invariant of the notifications -/

structure Delivered (past : Past) (server : Server) : Prop where
  /-- Only calls that have returned leave the broadcaster. -/
  subscribed : forall watcher, watcher ∈ server.watchers -> watcher.subscribed = false ->
    watcher.phase = .returned
  reached : forall version, EverNotified past version -> version <= currentVersion server.moment.db
  covered : forall version watcher, EverNotified past version -> watcher ∈ server.watchers ->
    watcher.Covers version
  /-- The notification that holds the lock has covered the watchers it is done with. -/
  current : forall version rest index watcher, server.notifying = some (version, rest) ->
    server.watchers[index]? = some watcher -> index ∉ rest -> watcher.Covers version

theorem WatcherStep.returned {env : Env} {server : Server} {watcher changed : Watcher}
    (stepped : WatcherStep env server watcher changed)
    (held : watcher.subscribed = false -> watcher.phase = .returned) (left : changed.subscribed = false) :
    changed.phase = .returned := by
  cases stepped with
  | kept => exact held left
  | offered notifying => exact held left
  | queried phase found => exact absurd (phase.symm.trans (held left)) (by rintro ⟨⟩)
  | sent phase => exact absurd (phase.symm.trans (held left)) (by rintro ⟨⟩)
  | skipped phase since known => exact absurd (phase.symm.trans (held left)) (by rintro ⟨⟩)
  | received phase channel => exact absurd (phase.symm.trans (held left)) (by rintro ⟨⟩)
  | failed => rfl
  | unsubscribed phase => exact phase

theorem not_subscribed {server : Server} {index : Nat} {watcher : Watcher}
    (found : server.watchers[index]? = some watcher) (absent : index ∉ server.subscribers) :
    watcher.subscribed = false := by
  have inside := (List.getElem?_eq_some_iff.mp found).1
  simp only [Server.subscribers, List.mem_filter, List.mem_range, found, Option.any_some, not_and,
    Bool.not_eq_true] at absent
  exact absent inside

/-- The lock holder's account after a step. -/
theorem ServerStep.current {env : Env} {past : Past} {server after : Server} (stepped : ServerStep env server after)
    (known : Known server) (held : Delivered past server) {version index : Nat} {rest : List Nat} {watcher : Watcher}
    (notifying : after.notifying = some (version, rest)) (found : after.watchers[index]? = some watcher)
    (done : index ∉ rest) : watcher.Covers version := by
  -- Steps that leave the lock alone keep the account by the step lemma of the watcher.
  have unchanged : server.notifying = some (version, rest) -> watcher.Covers version := by
    intro same
    rcases stepped.watcher_at found with ⟨source, present, moved⟩ | ⟨_, sinceVersion, rfl⟩
    · exact moved.covers (known.notifying version rest same).le
        (held.current version rest index source same present done)
    · exact Watcher.covers_watch sinceVersion version
  cases stepped with
  | store | readVersion | watch | update | get | answer => exact unchanged notifying
  | notify free notice =>
      cases notifying
      have left := not_subscribed found done
      exact Watcher.covers_returned (held.subscribed watcher (List.mem_of_getElem? found) left) version
  | @deliver target version waiting source before present =>
      cases notifying
      rcases getElem?_set_cases found with ⟨_, rfl⟩ | ⟨elsewhere, old⟩
      · exact Watcher.covers_offer source version version
      · refine held.current version waiting index watcher before old ?_
        intro stillWaiting
        exact done ((List.mem_erase_of_ne elsewhere).mpr stillWaiting)
  | release before => cases notifying

theorem ServerStep.delivered {env : Env} {past : Past} {server after : Server} {act : Act}
    (stepped : ServerStep env server after) (known : Known server) (held : Delivered past server) :
    Delivered (⟨server, act⟩ :: past) after := by
  -- What the database had reached, and what covered the watchers, before the step.
  have before : forall version, EverNotified (⟨server, act⟩ :: past) version ->
      version <= currentVersion server.moment.db ∧
        forall watcher, watcher ∈ server.watchers -> watcher.Covers version := by
    intro version notified
    rcases everNotified_cons notified with completed | earlier
    · refine ⟨(known.notifying version [] completed).le, ?_⟩
      intro watcher member
      rcases List.mem_iff_getElem?.mp member with ⟨index, found⟩
      exact held.current version [] index watcher completed found List.not_mem_nil
    · exact ⟨held.reached version earlier, fun watcher member => held.covered version watcher earlier member⟩
  refine ⟨?_, ?_, ?_, ?_⟩
  · intro watcher member left
    rcases stepped.watcher member with ⟨source, present, moved⟩ | ⟨sinceVersion, rfl⟩
    · exact moved.returned (held.subscribed source present) left
    · cases left
  · intro version notified
    exact Nat.le_trans (before version notified).1 stepped.version_le
  · intro version watcher notified member
    rcases stepped.watcher member with ⟨source, present, moved⟩ | ⟨sinceVersion, rfl⟩
    · exact moved.covers (before version notified).1 ((before version notified).2 source present)
    · exact Watcher.covers_watch sinceVersion version
  · intro version rest index watcher notifying found done
    exact stepped.current known held notifying found done

/-! ## The order of a stream -/

/-- The first topology has been dealt with. -/
def Watcher.Started (watcher : Watcher) : Prop :=
  watcher.phase = .waiting ∨ Exists fun version => Exists fun stage => watcher.phase = .building (some version) stage

structure WatcherOrdered (watcher : Watcher) : Prop where
  sent : watcher.sent.Pairwise fun earlier later => earlier.topologyVersion <= later.topologyVersion
  /-- What is being built comes after everything that was sent. -/
  building : forall received stage read event, watcher.phase = .building received stage ->
    stage.version = some read -> event ∈ watcher.sent -> event.topologyVersion <= read
  started : watcher.sinceVersion <= 0 -> watcher.Started -> watcher.sent ≠ []

theorem watcherOrdered_watch (sinceVersion : Int) : WatcherOrdered (.watch sinceVersion) where
  sent := List.Pairwise.nil
  building received stage read event _ _ member := absurd member List.not_mem_nil
  started since started := by
    rcases started with impossible | ⟨version, stage, impossible⟩
    · cases impossible
    · cases impossible

theorem WatcherStep.ordered {env : Env} {server : Server} {watcher changed : Watcher}
    (stepped : WatcherStep env server watcher changed) (known : WatcherKnown server.moment.db watcher)
    (ordered : WatcherOrdered watcher) : WatcherOrdered changed := by
  cases stepped with
  | kept => exact ordered
  | offered notifying => exact ⟨ordered.sent, ordered.building, ordered.started⟩
  | @queried received stage next phase found =>
      refine ⟨ordered.sent, ?_, ?_⟩
      · intro others reached read event same readNow member
        cases same
        rcases Stage.query_version found with ⟨_, rfl⟩ | unchanged
        · cases readNow
          exact known.sent event member
        · exact ordered.building _ _ read event phase (unchanged ▸ readNow) member
      · intro since started
        refine ordered.started since ?_
        rcases started with impossible | ⟨version, reached, same⟩
        · cases impossible
        · cases same
          exact Or.inr ⟨version, stage, phase⟩
  | @sent received topology phase =>
      refine ⟨?_, ?_, ?_⟩
      · refine List.pairwise_append.mpr ⟨ordered.sent, List.pairwise_singleton _ _, ?_⟩
        intro earlier member later new
        have below := ordered.building _ _ topology.topologyVersion earlier phase rfl member
        cases List.mem_singleton.mp new
        rw [labelled_eq]
        exact Nat.le_trans below (Nat.le_max_left _ _)
      · rintro _ _ _ _ ⟨⟩
      · intro _ _
        exact List.append_ne_nil_of_right_ne_nil _ (List.cons_ne_nil _ _)
  | skipped phase since reached =>
      refine ⟨ordered.sent, ?_, ?_⟩
      · rintro _ _ _ _ ⟨⟩
      · intro noSince
        exact absurd since (Int.not_lt.mpr noSince)
  | received phase channel =>
      refine ⟨ordered.sent, ?_, ?_⟩
      · rintro _ _ _ _ ⟨⟩ ⟨⟩
      · intro since _
        exact ordered.started since (Or.inl phase)
  | failed =>
      refine ⟨ordered.sent, ?_, ?_⟩
      · rintro _ _ _ _ ⟨⟩
      · rintro _ (impossible | ⟨_, _, impossible⟩)
        · cases impossible
        · cases impossible
  | unsubscribed phase => exact ⟨ordered.sent, ordered.building, ordered.started⟩

/-! ## Whole runs -/

section Runs

variable {env : Env} {start : Moment} {past : Past} {server : Server}

theorem serves_delivered (run : Serves env start past server) : Delivered past server := by
  apply Run.history Delivered (fun _ _ => True) ?_ ?_ run fun _ _ => trivial
  · refine ⟨?_, ?_, ?_, ?_⟩
    · intro watcher absent
      exact absurd absent List.not_mem_nil
    · rintro version ⟨event, absent, _⟩
      exact absurd absent List.not_mem_nil
    · intro version watcher _ absent
      exact absurd absent List.not_mem_nil
    · rintro version rest index watcher ⟨⟩
  · intro past server act after earlier held _ taken
    exact (step_spec taken).delivered (serves_known earlier) held

theorem serves_ordered (run : Serves env start past server) :
    forall watcher, watcher ∈ server.watchers -> WatcherOrdered watcher := by
  apply Run.history (fun _ server => forall watcher, watcher ∈ server.watchers -> WatcherOrdered watcher)
    (fun _ _ => True) ?_ ?_ run fun _ _ => trivial
  · intro watcher absent
    exact absurd absent List.not_mem_nil
  · intro past server act after earlier held _ taken
    refine (step_spec taken).every_watcher held watcherOrdered_watch ?_
    intro watcher changed present moved
    exact moved.ordered ((serves_known earlier).watchers watcher present)

end Runs

/-- In every state of every run, a stream that is open, was opened without a
version and is past its first topology has a value waiting for it, has still to
read the database for the value it received, holds back a topology that is as
recent as every version notified so far, or has sent such a topology last.  The
versions of the events of a stream never decrease. -/
theorem watch_loses_no_change (env : Env) (start : Moment) {past : Past} {server : Server}
    (run : Serves env start past server) {watcher : Watcher} (member : watcher ∈ server.watchers) :
    (watcher.sinceVersion <= 0 -> watcher.Started ->
      watcher.channel ≠ none ∨
      (Exists fun version => watcher.phase = .building (some version) .unread) ∨
      (Exists fun version => Exists fun stage => Exists fun read =>
        watcher.phase = .building (some version) stage ∧ stage.version = some read ∧
          forall notified, EverNotified past notified -> notified <= max read version) ∨
      (Exists fun last => watcher.sent.getLast? = some last ∧
        forall notified, EverNotified past notified -> notified <= last.topologyVersion)) ∧
    watcher.sent.Pairwise fun earlier later => earlier.topologyVersion <= later.topologyVersion := by
  have ordered := serves_ordered run watcher member
  refine ⟨?_, ordered.sent⟩
  intro since started
  have covers : forall notified, EverNotified past notified -> watcher.Covers notified :=
    fun notified happened => (serves_delivered run).covered notified watcher happened member
  by_cases full : watcher.channel ≠ none
  · exact Or.inl full
  · refine Or.inr ?_
    unfold Watcher.Covers at covers
    rcases started with waiting | ⟨version, stage, building⟩
    · refine Or.inr (Or.inr ?_)
      cases last : watcher.sent.getLast? with
      | none =>
          exact absurd (List.getLast?_eq_none_iff.mp last) (ordered.started since (Or.inl waiting))
      | some event =>
          refine ⟨event, rfl, ?_⟩
          intro notified happened
          have covered := (covers notified happened).resolve_left full
          rw [waiting] at covered
          simp only [Watcher.seen, Watcher.lastSent, last, Option.map_some, Option.getD_some] at covered
          omega
    · cases read : stage.version with
      | none =>
          cases stage with
          | unread => exact Or.inl ⟨version, building⟩
          | versioned | configured | built => cases read
      | some label =>
          refine Or.inr (Or.inl ⟨version, stage, label, building, read, ?_⟩)
          intro notified happened
          have covered := (covers notified happened).resolve_left full
          rw [building] at covered
          exact covered label read

/-- Whether a step completes the notification of a version. -/
def completes (version : Nat) (event : Event Server Act) : Bool :=
  match event.action with
  | .release => event.state.notifying == some (version, [])
  | _ => false

theorem everNotified_of_completes {past : Past} {version : Nat} (found : past.any (completes version) = true) :
    EverNotified past version := by
  rcases List.any_eq_true.mp found with ⟨event, member, matched⟩
  refine ⟨event, member, ?_⟩
  unfold completes at matched
  split at matched
  · rename_i action
    exact ⟨action, beq_iff_eq.mp matched⟩
  · cases matched

def waits (watcher : Watcher) : Bool :=
  match watcher.phase with
  | .building _ _ => false
  | .waiting => true
  | .returned => false

/-- The stream of a small run has sent version 2, which was notified. -/
theorem watch_loses_no_change_relayed :
    Exists fun past => Exists fun server => Exists fun watcher =>
      Serves sampleEnv ⟨Db.fresh, 0⟩ past server ∧ EverNotified past 2 ∧ watcher ∈ server.watchers ∧
      watcher.sinceVersion <= 0 ∧ watcher.phase = .waiting ∧
        (watcher.channel ≠ none ∨
        (Exists fun version => watcher.phase = .building (some version) .unread) ∨
        (Exists fun version => Exists fun stage => Exists fun read =>
          watcher.phase = .building (some version) stage ∧ stage.version = some read ∧
            forall notified, EverNotified past notified -> notified <= max read version) ∨
        (Exists fun last => watcher.sent.getLast? = some last ∧
          forall notified, EverNotified past notified -> notified <= last.topologyVersion)) := by
  have passed : replayCheck (step sampleEnv) relayedChange (newServer ⟨Db.fresh, 0⟩) (fun past server =>
      past.any (completes 2) && server.watchers.any fun watcher =>
        decide (watcher.sinceVersion <= 0) && waits watcher) = true := by
    decide +kernel
  rcases replayCheck_run passed with ⟨past, server, run, checked⟩
  rw [Bool.and_eq_true] at checked
  rcases List.any_eq_true.mp checked.2 with ⟨watcher, member, tested⟩
  rw [Bool.and_eq_true, decide_eq_true_eq] at tested
  have waiting : watcher.phase = .waiting := by
    cases phase : watcher.phase with
    | waiting => rfl
    | building | returned =>
        rw [waits, phase] at tested
        cases tested.2
  exact ⟨past, server, watcher, run, everNotified_of_completes checked.1, member, tested.1, waiting,
    (watch_loses_no_change sampleEnv _ run member).1 tested.1 (Or.inl waiting)⟩

end Watch
end Shardman
