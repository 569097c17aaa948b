import Shardman.Api.Server
import Shardman.Watch.Converge

namespace Shardman
namespace Api

open Fsm
open Bucket
open Store
open Control
open Client
open Foundation

/-!
# Acknowledged changes reach the streams

A handler that changes the topology reads the version after its change and
passes it to the broadcaster before it answers.  Other handlers may change the
database, read versions and wait for the lock in between, and the broadcaster
drops what does not fit into a channel.  Still, when the caller has got its
response, a stream that was opened for versions before the change cannot miss
it any more: as soon as the streams have nothing left to do, the last topology
of each such stream that is open is at least as new.
-/

/-! ## What handlers do with the broadcaster -/

/-- A version is notified right after it was read, and the lock is released by
the handler that has taken it. -/
def NotifyIssues (done : List Exchange) (op : Op ⊕ ServerOp) : Prop :=
  match op with
  | .inl _ => True
  | .inr .readVersion => True
  | .inr (.notify version) => Exists fun rest => done = ⟨.inr .readVersion, .ok version⟩ :: rest
  | .inr .release => Exists fun version => Exists fun rest =>
      done = ⟨.inr (.notify version), ()⟩ :: ⟨.inr .readVersion, .ok version⟩ :: rest

/-- The last thing that was done is to notify the version, unless there is none. -/
def Announced (done : List Exchange) : Prop :=
  (Exists fun version => Exists fun rest =>
    done = ⟨.inr .release, ()⟩ :: ⟨.inr (.notify version), ()⟩ :: ⟨.inr .readVersion, .ok version⟩ :: rest) ∨
  Exists fun failure => Exists fun rest => done = ⟨.inr .readVersion, .error failure⟩ :: rest

/-- A response to a request that changes the topology is given after notifying. -/
def ReturnsAnnounced (task : Task) (done : List Exchange) (answer : Answer) : Prop :=
  announces task = true -> forall response, answer = .response response -> Announced done

section Programs

variable {env : Env} {task : Task} {done : List Exchange}

theorem returnsAnnounced_refused (status : Status) : ReturnsAnnounced task done (.refused status) := by
  intro _ response impossible
  cases impossible

theorem returnsAnnounced_silent (silent : announces task = false) (answer : Answer) :
    ReturnsAnnounced task done answer := by
  intro announced
  rw [silent] at announced
  cases announced

theorem notifies_routine {X : Type} (program : Routine X) (done : List Exchange) :
    (routine program).Follows NotifyIssues (fun _ _ => True) done := by
  induction program generalizing done with
  | finish value => exact .finish trivial
  | request op next inductionHypothesis => exact .ask trivial fun reply => inductionHypothesis reply _

theorem notifies_notifyTopology : notifyTopology.Follows NotifyIssues (fun done _ => Announced done) done := by
  refine .ask trivial fun read => ?_
  cases read with
  | error failure => exact .finish (Or.inr ⟨failure, done, rfl⟩)
  | ok version =>
      refine .ask ⟨done, rfl⟩ fun _ => ?_
      exact .ask ⟨version, done, rfl⟩ fun _ => .finish (Or.inl ⟨version, done, rfl⟩)

theorem notifies_announce (answer : Answer) :
    (announce answer).Follows NotifyIssues (ReturnsAnnounced task) done := by
  cases answer with
  | refused status => exact .finish (returnsAnnounced_refused status)
  | ticked => exact .finish fun _ response impossible => by cases impossible
  | response response =>
      exact .bind notifies_notifyTopology fun after _ _ announced => .finish fun _ _ _ => announced

theorem notifies_failoverAll (shards : List Shard) (done : List Exchange) :
    (failoverAll shards).Follows NotifyIssues (fun _ _ => True) done := by
  induction shards generalizing done with
  | nil => exact .finish trivial
  | cons shard rest inductionHypothesis =>
      unfold failoverAll
      cases shard.bucketID with
      | none => exact inductionHypothesis done
      | some bucketID =>
          refine .ask trivial fun rotated => ?_
          cases rotated with
          | error failure => exact inductionHypothesis _
          | ok rotated => exact .bind notifies_notifyTopology fun after _ _ _ => inductionHypothesis after

theorem notifies_healthTick : healthTick.Follows NotifyIssues (fun _ _ => True) done :=
  .ask trivial fun stale => notifies_failoverAll stale _

theorem notifies_refreshMetrics : refreshMetrics.Follows NotifyIssues (fun done _ => Announced done) done :=
  .ask trivial fun _ => .ask trivial fun _ => .ask trivial fun _ => notifies_notifyTopology

/-- Whatever a task is, it notifies what it has read, and responds to a change
after notifying. -/
theorem Handles.notifies {call : Option Call} {handler : Handler Answer} (handles : Handles env task call handler) :
    handler.Follows NotifyIssues (ReturnsAnnounced task) done := by
  cases handles with
  | announced same translates => exact .bind (notifies_routine _ _) fun _ _ _ _ => notifies_announce _
  | returned silent same translates =>
      exact .bind (notifies_routine _ _) fun _ _ _ _ => .finish (returnsAnnounced_silent silent _)
  | supervised isHealth =>
      subst isHealth
      exact .bind notifies_healthTick fun _ _ _ _ => .finish (returnsAnnounced_silent rfl _)
  | refused status => exact .finish (returnsAnnounced_refused status)
  | looked refuses =>
      refine .ask trivial fun found => ?_
      rcases refuses found with ⟨status, same⟩
      rw [same]
      exact .finish (returnsAnnounced_refused status)
  | listed silent part names => exact .ask trivial fun _ => .finish (returnsAnnounced_silent silent _)
  | measured isMetrics =>
      subst isMetrics
      exact .bind notifies_refreshMetrics fun _ _ _ _ => .finish (returnsAnnounced_silent rfl _)

end Programs

/-! ## Who holds the lock -/

/-- What a handler has been told. -/
abbrev told (env : Env) (settings : Settings) (index : Nat) (past : ServerPast) : List Exchange :=
  exchanges (serverMachine env settings) index past

/-- The process is about to release the lock. -/
def AtRelease (pool : ServerPool) (index : Nat) : Prop :=
  Exists fun task => Exists fun next => pool.processes[index]? = some ⟨task, .request (.inr .release) next⟩

section Lock

variable {env : Env} {settings : Settings} {start : Moment} {past : ServerPast} {pool after : ServerPool}
variable {action : ServerAct} {index : Nat}

theorem notify_step {node next : Watch.Server} {version : Nat}
    (taken : Watch.step env node (.notify (noticePlace node version)) = some next) :
    node.notifying = none ∧ Exists fun left => next.notifying = some (version, left) := by
  simp only [Watch.step] at taken
  split at taken
  · rename_i chosen free found
    cases taken
    rcases List.getElem?_eq_some_iff.mp found with ⟨inside, rfl⟩
    refine ⟨free, node.subscribers, ?_⟩
    simp only [noticePlace, List.getElem_idxOf]
  · cases taken

theorem release_step {node next : Watch.Server} (taken : Watch.step env node .release = some next) :
    Exists fun version => node.notifying = some (version, []) := by
  simp only [Watch.step] at taken
  split at taken
  · rename_i version notifying
    exact ⟨version, notifying⟩
  · cases taken

/-- A process that releases has notified just before. -/
theorem told_at_release (run : ServerRuns env settings start past pool) (atRelease : AtRelease pool index) :
    Exists fun version => Exists fun rest => told env settings index past =
      ⟨.inr (.notify version), ()⟩ :: ⟨.inr .readVersion, .ok version⟩ :: rest := by
  rcases atRelease with ⟨task, next, present⟩
  exact (run_follows rfl (taskBody_handles task).notifies run.unguarded present).1

/-- The lock is released by a process that is about to. -/
theorem watchAct_release (admitted : ready env pool action = true) (seen : watchAct ⟨pool, action⟩ = some .release) :
    Exists fun index => action = .resume index ∧ AtRelease pool index := by
  cases action with
  | start task => cases seen
  | elapse act =>
      cases seen
      simp only [ready, isSignal, Bool.false_and] at admitted
      cases admitted
  | resume index =>
      simp only [watchAct] at seen
      split at seen
      · cases seen
      · split at seen <;> cases seen
      · cases seen
      · rename_i issued
        rcases Pool.pending_some issued with ⟨resumed, task, next, same, present⟩
        cases same
        exact ⟨index, rfl, task, next, present⟩
      · cases seen

/-- How a process has come to the point where it releases: it was there before,
or it has just taken the lock. -/
theorem atRelease_cases (run : ServerRuns env settings start past pool)
    (taken : serverStep env settings pool action = some after) (atRelease : AtRelease after index) :
    (action ≠ .resume index ∧ AtRelease pool index) ∨
    (action = .resume index ∧ pool.store.notifying = none ∧ Exists fun version => Exists fun left =>
      Exists fun rest => after.store.notifying = some (version, left) ∧
        told env settings index (⟨pool, action⟩ :: past) = ⟨.inr (.notify version), ()⟩ :: rest) := by
  rcases told_at_release (Run.next run taken) atRelease with ⟨version, rest, last⟩
  rcases atRelease with ⟨task, next, present⟩
  rcases guarded_some taken with ⟨admitted, stepped⟩
  rcases process_cases stepped present with ⟨other, kept⟩ | ⟨rfl, rfl, begun⟩ |
    ⟨op, following, rfl, found, issued, stored, resumed⟩
  · exact Or.inl ⟨other, task, next, kept⟩
  · have nothing : told env settings pool.processes.length (⟨pool, .start task⟩ :: past) = [] :=
      exchanges_unstarted run.unguarded (Nat.le_refl _)
    rw [nothing] at last
    cases last
  · have exchange := last
    rw [told, exchanges_resumed issued] at exchange
    injection exchange with newest older
    have same : op = .inr (.notify version) := congrArg Sigma.fst newest
    subst same
    simp only [ready, issued] at admitted
    rcases Option.isSome_iff_exists.mp admitted with ⟨locked, notify⟩
    rcases notify_step notify with ⟨free, left, holds⟩
    refine Or.inr ⟨rfl, free, version, left, _, ?_, last⟩
    have moved : after.store = locked := by
      rw [stored]
      simp only [serverMachine, performOp, notify, Option.getD_some]
    rw [moved, holds]

/-- At most one process is about to release the lock, and it holds the lock for
the version that it notifies. -/
theorem lock_held (run : ServerRuns env settings start past pool) :
    (forall index, AtRelease pool index -> Exists fun version => Exists fun left => Exists fun rest =>
      pool.store.notifying = some (version, left) ∧
        told env settings index past = ⟨.inr (.notify version), ()⟩ :: rest) ∧
    (forall first second, AtRelease pool first -> AtRelease pool second -> first = second) := by
  induction run with
  | start =>
      constructor
      · rintro index ⟨task, next, absent⟩
        cases absent
      · rintro first second ⟨task, next, absent⟩
        cases absent
  | @next past pool after action earlier taken inductionHypothesis =>
      rcases inductionHypothesis with ⟨held, alone⟩
      constructor
      · intro index atRelease
        rcases atRelease_cases earlier taken atRelease with ⟨other, before⟩ | ⟨_, _, version, left, rest, holds, last⟩
        · rcases held index before with ⟨version, left, rest, holds, last⟩
          have same : told env settings index (⟨pool, action⟩ :: past) = told env settings index past :=
            exchanges_other other
          rw [same]
          have moves := step_watched taken
          cases seen : watchAct ⟨pool, action⟩ with
          | none =>
              rw [seen] at moves
              refine ⟨version, left, rest, ?_, last⟩
              rw [show after.store = pool.store from moves]
              exact holds
          | some act =>
              rw [seen] at moves
              rcases Watch.step_notifying moves holds with ⟨still, holding⟩ | ⟨rfl, _⟩
              · exact ⟨version, still, rest, holding, last⟩
              · rcases watchAct_release (guarded_some taken).1 seen with ⟨releasing, resumed, releases⟩
                rw [alone releasing index releases before] at resumed
                exact absurd resumed other
        · exact ⟨version, left, rest, holds, last⟩
      · intro first second firstRelease secondRelease
        rcases atRelease_cases earlier taken firstRelease with ⟨_, firstBefore⟩ | ⟨firstResumed, firstFree, _⟩ <;>
          rcases atRelease_cases earlier taken secondRelease with ⟨_, secondBefore⟩ | ⟨secondResumed, secondFree, _⟩
        · exact alone first second firstBefore secondBefore
        · rcases held first firstBefore with ⟨_, _, _, holds, _⟩
          rw [secondFree] at holds
          cases holds
        · rcases held second secondBefore with ⟨_, _, _, holds, _⟩
          rw [firstFree] at holds
          cases holds
        · rw [firstResumed] at secondResumed
          cases secondResumed
          rfl

end Lock

/-! ## Changes before the response -/

/-- A caller has got its response, and after one of the operations for it the
database had the version. -/
def Acknowledged (env : Env) (past : ServerPast) (pool : ServerPool) (version : Nat) : Prop :=
  Exists fun index : Nat => Exists fun task => Exists fun response => Exists fun event => Exists fun op =>
    pool.processes[index]? = some ⟨task, .finish (.response response)⟩ ∧ announces task = true ∧ event ∈ past ∧
    event.action = .resume index ∧ event.state.pending event.action = some (.inl op) ∧
    getTopologyVersion (perform env op event.state.store.moment).2.db = .ok version

section Responses

variable {env : Env} {settings : Settings} {start : Moment} {past : ServerPast} {pool after : ServerPool}
variable {index : Nat} {version : Nat}

theorem told_append (env : Env) (settings : Settings) (index : Nat) (later earlier : ServerPast) :
    told env settings index (later ++ earlier) = told env settings index later ++ told env settings index earlier :=
  List.filterMap_append

/-- The exchange of an event stands between those after it and those before it. -/
theorem told_event {env : Env} {settings : Settings} {event : Event ServerPool ServerAct} {op : Op ⊕ ServerOp}
    (action : event.action = .resume index) (issued : event.state.pending event.action = some op)
    (later earlier : ServerPast) : Exists fun reply =>
      told env settings index (later ++ event :: earlier) =
        told env settings index later ++ ⟨op, reply⟩ :: told env settings index earlier := by
  rcases event with ⟨state, taken⟩
  cases action
  refine ⟨(performOp env op state.store).1, ?_⟩
  rw [told_append]
  congr 1
  exact exchanges_resumed issued

/-- An element that is not the first one stands behind it. -/
theorem cons_of_append {A : Type} {first other : A} {rest front back : List A}
    (same : first :: rest = front ++ other :: back) (different : first ≠ other) :
    Exists fun tail => front = first :: tail ∧ rest = tail ++ other :: back := by
  cases front with
  | nil =>
      cases same
      exact absurd rfl different
  | cons head tail =>
      cases same
      exact ⟨tail, rfl, rfl⟩

/-- What the database has had, it has later on. -/
theorem reached_later {first : ServerPool} (run : Run (serverStep env settings) first past pool)
    (reached : Watch.Reached first.store.moment.db version) : Watch.Reached pool.store.moment.db version := by
  refine Run.invariant (fun pool => Watch.Reached pool.store.moment.db version) (fun _ _ => True) reached ?_ run
    fun _ _ => trivial
  intro pool action after held _ taken
  have moves := step_watched taken
  cases seen : watchAct ⟨pool, action⟩ with
  | none =>
      rw [seen] at moves
      rw [show after.store = pool.store from moves]
      exact held
  | some act =>
      rw [seen] at moves
      exact held.later (Watch.step_spec moves).follows

/-- An operation of the store changes the store as it does. -/
theorem store_after {event : Event ServerPool ServerAct} {op : Op}
    (taken : serverStep env settings event.state event.action = some after)
    (issued : event.state.pending event.action = some (.inl op)) :
    after.store.moment = (perform env op event.state.store.moment).2 := by
  rcases step_cases (guarded_some taken).2 with ⟨task, same, _⟩ | ⟨act, same, _⟩ |
    ⟨index, task, performed, next, same, found, performs, rfl⟩
  · rw [same] at issued
    cases issued
  · rw [same] at issued
    cases issued
  · cases issued.symm.trans performs
    rfl

/-- The version that a handler reads after an event is one that the database has
had since then. -/
theorem read_after_change {newer later earlier : ServerPast} {event : Event ServerPool ServerAct}
    {read : Except StoreError Nat} {op : Op} {rest : List Exchange} (run : ServerRuns env settings start past pool)
    (split : past = newer ++ (later ++ event :: earlier))
    (issued : event.state.pending event.action = some (.inl op))
    (changed : getTopologyVersion (perform env op event.state.store.moment).2.db = .ok version)
    (newest : told env settings index later = ⟨.inr .readVersion, read⟩ :: rest) :
    Exists fun current => read = .ok current ∧ version <= current := by
  rcases exchanges_cons newest with ⟨after, reading, before, rfl, action, pending, reply, _⟩
  have order : past = (newer ++ after) ++ reading :: (before ++ event :: earlier) := by
    rw [split, List.append_assoc after, List.cons_append, ← List.append_assoc]
  have reachedRun := run.suffix order
  rcases reachedRun.rest rfl with ⟨next, stepped, following⟩
  have moved : Watch.Reached next.store.moment.db version := by
    rw [store_after stepped issued]
    exact ⟨version, changed, Nat.le_refl _⟩
  rcases reached_later following moved with ⟨current, known, bound⟩
  refine ⟨current, ?_, bound⟩
  simp only [serverMachine, performOp, known] at reply
  exact reply.symm

/-- A handler that has released the lock has notified the version for all
subscribers. -/
theorem released_notified {later earlier : ServerPast} {version : Nat} {rest : List Exchange}
    (run : ServerRuns env settings start past pool) (split : past = later ++ earlier)
    (newest : told env settings index later = ⟨.inr .release, ()⟩ :: ⟨.inr (.notify version), ()⟩ :: rest) :
    Watch.EverNotified (watched past) version := by
  rcases exchanges_cons newest with ⟨after, releasing, before, rfl, action, issued, _, remaining⟩
  have order : past = after ++ releasing :: (before ++ earlier) := by
    rw [split, List.append_assoc, List.cons_append]
  have atRelease : AtRelease releasing.state index := by
    rw [action] at issued
    rcases Pool.pending_some issued with ⟨resumed, task, next, same, present⟩
    cases same
    exact ⟨task, next, present⟩
  rcases (lock_held (run.suffix order)).1 index atRelease with ⟨held, left, others, holds, last⟩
  have same : held = version := by
    rw [told_append] at last
    have front : told env settings index before = ⟨.inr (.notify version), ()⟩ :: rest := remaining
    rw [front, List.cons_append] at last
    injection last with newestExchange _
    have op := congrArg Sigma.fst newestExchange
    cases op
    rfl
  subst same
  rcases run.rest order with ⟨next, stepped, _⟩
  have seen : watchAct releasing = some .release := by
    simp only [watchAct, action]
    rw [action] at issued
    simp only [issued]
  have moves := step_watched stepped
  rw [seen] at moves
  rcases release_step moves with ⟨shown, empty⟩
  refine ⟨⟨releasing.state.store, .release⟩, ?_, rfl, ?_⟩
  · refine List.mem_filterMap.mpr ⟨releasing, Run.mem_of_split order, ?_⟩
    rw [watchEvent, seen, Option.map_some]
  · change releasing.state.store.notifying = some (held, [])
    rw [empty] at holds ⊢
    cases holds
    rfl

/-- An acknowledged version, or a later one, has been notified. -/
theorem acknowledged_notified (run : ServerRuns env settings start past pool)
    (acknowledged : Acknowledged env past pool version) :
    Exists fun notified => version <= notified ∧ Watch.EverNotified (watched past) notified := by
  rcases acknowledged with ⟨index, task, response, event, op, present, announced, member, action, issued, changed⟩
  have follows : Announced (told env settings index past) :=
    run_follows rfl (taskBody_handles task).notifies run.unguarded present announced response rfl
  rcases List.append_of_mem member with ⟨later, earlier, split⟩
  rcases told_event action issued later earlier with ⟨reply, parts⟩
  rw [← split] at parts
  rcases follows with ⟨notified, rest, shape⟩ | ⟨failure, rest, shape⟩
  · -- The change comes before the last three exchanges, which are those of notifying.
    rcases cons_of_append (shape.symm.trans parts) nofun with ⟨afterRelease, front, partsRelease⟩
    rcases cons_of_append partsRelease nofun with ⟨afterNotify, rfl, partsNotify⟩
    rcases cons_of_append partsNotify nofun with ⟨afterRead, rfl, _⟩
    refine ⟨notified, ?_, released_notified run split front⟩
    rcases exchanges_cons front with ⟨newest, releasing, older, rfl, _, _, _, locked⟩
    rcases exchanges_cons locked with ⟨newer, notifying, oldest, rfl, _, _, _, reads⟩
    have order : past = (newest ++ releasing :: newer ++ [notifying]) ++ (oldest ++ event :: earlier) := by
      rw [split]
      simp only [List.append_assoc, List.cons_append, List.nil_append]
    rcases read_after_change run order issued changed reads with ⟨current, same, bound⟩
    cases same
    exact bound
  · rcases cons_of_append (shape.symm.trans parts) nofun with ⟨afterRead, front, _⟩
    have order : past = [] ++ (later ++ event :: earlier) := split
    rcases read_after_change run order issued changed front with ⟨current, impossible, _⟩
    cases impossible

/-- A watcher that cannot miss a version cannot miss an earlier one. -/
theorem covers_le {watcher : Watch.Watcher} {earlier later : Nat} (older : earlier <= later)
    (covers : watcher.Covers later) : watcher.Covers earlier := by
  unfold Watch.Watcher.Covers at covers ⊢
  refine covers.imp_right ?_
  cases watcher.phase with
  | building received stage =>
      intro recent read known
      exact Nat.le_trans older (recent read known)
  | waiting => exact Nat.le_trans older
  | returned => exact id

/-- When a caller has got its response to a change of the topology, no stream that
was opened for earlier versions can miss the change.  Each has a value waiting,
is building a topology that will be recent enough, or has sent one; and when the
streams have nothing left to do, the last topology of each open one is at least
as new as the change. -/
theorem acknowledged_changes_reach_streams (run : ServerRuns env settings start past pool)
    (acknowledged : Acknowledged env past pool version) :
    (forall watcher, watcher ∈ pool.store.watchers -> watcher.Covers version) ∧
    (Watch.Quiet env pool.store -> forall watcher, watcher ∈ pool.store.watchers -> watcher.phase ≠ .returned ->
      watcher.sinceVersion < version ->
      Exists fun last => watcher.sent.getLast? = some last ∧ version <= last.topologyVersion) := by
  rcases acknowledged_notified run acknowledged with ⟨notified, bound, everNotified⟩
  have serves := runs_watched run
  constructor
  · intro watcher member
    exact covers_le bound ((Watch.serves_delivered serves).covered notified watcher everNotified member)
  · intro quiet watcher member isOpen since
    have older : watcher.sinceVersion < notified := by omega
    rcases quiet.last_notified serves everNotified member isOpen older with ⟨last, sent, recent⟩
    exact ⟨last, sent, Nat.le_trans bound recent⟩

end Responses

/-- After an operation of the process the database has the version. -/
def changesTo (env : Env) (index version : Nat) (event : Event ServerPool ServerAct) : Bool :=
  event.action.resumes index &&
    match event.state.pending event.action with
    | some (.inl op) => (getTopologyVersion (perform env op event.state.store.moment).2.db).toOption == some version
    | _ => false

/-- The process has responded to a request that changes the topology. -/
def responded (process : Process (Op ⊕ ServerOp) (BothReply Reply ServerReply) Answer Task) : Bool :=
  match process with
  | ⟨task, .finish (.response _)⟩ => announces task
  | _ => false

theorem acknowledged_of_checks {env : Env} {past : ServerPast} {pool : ServerPool} {index version : Nat}
    (changed : past.any (changesTo env index version) = true) (answered : pool.processes[index]?.any responded = true) :
    Acknowledged env past pool version := by
  rcases List.any_eq_true.mp changed with ⟨event, member, changes⟩
  rcases (Option.any_eq_true _ _).mp answered with ⟨⟨task, program⟩, present, response⟩
  rcases Bool.and_eq_true_iff.mp changes with ⟨resumed, changes⟩
  unfold responded at response
  split at response
  · rename_i same
    cases same
    split at changes
    · rename_i op issued
      refine ⟨index, _, _, event, op, present, response, member, resumes_iff.mp resumed, issued, ?_⟩
      cases known : getTopologyVersion (perform env op event.state.store.moment).2.db with
      | error failure =>
          rw [known] at changes
          cases changes
      | ok current =>
          rw [known] at changes
          cases beq_iff_eq.mp changes
          rfl
    · cases changes
  · cases response

/-- The stream sends its first topology, a shard is registered, and the stream
catches up. -/
def registrationSeen : List ServerAct :=
  List.flatten [[.elapse (.watch 0), .elapse (.query 0), .elapse (.query 0), .elapse (.query 0), .elapse (.send 0)],
    serveTask 0 (.keyed (some ["secret"]) (.registerShard firstShard "data" "a" "" "")) 4,
    [.elapse (.deliver 0), .resume 0, .elapse (.receive 0), .elapse (.query 0), .elapse (.query 0), .elapse (.query 0),
      .elapse (.send 0)]]

theorem acknowledged_changes_reach_streams_registration : Exists fun past => Exists fun pool : ServerPool =>
    Exists fun watcher => Exists fun last => ServerRuns sampleEnv sampleSettings ⟨sampleDb 100, 0⟩ past pool ∧
      Acknowledged sampleEnv past pool 2 ∧ Watch.Quiet sampleEnv pool.store ∧ watcher ∈ pool.store.watchers ∧
      watcher.sent.getLast? = some last ∧ 2 <= last.topologyVersion := by
  have passed : replayCheck (serverStep sampleEnv sampleSettings) registrationSeen
      ⟨Watch.newServer ⟨sampleDb 100, 0⟩, []⟩ (fun past pool =>
        (past.any (changesTo sampleEnv 0 2) && pool.processes[0]?.any responded) &&
          ((pool.store.notifying.isNone && pool.store.notices.isEmpty) &&
            (pool.store.watchers.all Watch.idles &&
              pool.store.watchers.any fun watcher => watcher.sinceVersion == 0))) = true := by
    decide +kernel
  rcases replayCheck_run passed with ⟨past, pool, run, checked⟩
  simp only [Bool.and_eq_true, Option.isNone_iff_eq_none, List.isEmpty_iff] at checked
  rcases checked with ⟨⟨changed, answered⟩, ⟨free, unnoticed⟩, idle, stream⟩
  have acknowledged := acknowledged_of_checks changed answered
  have quiet : Watch.Quiet sampleEnv pool.store := Watch.quiet_of_idle free unnoticed (List.all_eq_true.mp idle)
  rcases List.any_eq_true.mp stream with ⟨watcher, member, since⟩
  have isOpen : watcher.phase ≠ .returned := by
    intro returned
    have waiting := List.all_eq_true.mp idle watcher member
    rw [Watch.idles, Watch.waits, returned] at waiting
    cases waiting
  have older : watcher.sinceVersion < (2 : Nat) := by
    rw [beq_iff_eq.mp since]
    decide
  rcases (acknowledged_changes_reach_streams run acknowledged).2 quiet watcher member isOpen older with
    ⟨last, sent, recent⟩
  exact ⟨past, pool, watcher, last, run, acknowledged, quiet, member, sent, recent⟩

end Api
end Shardman
