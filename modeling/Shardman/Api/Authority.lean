import Shardman.Api.Server
import Shardman.Control.Issued
import Shardman.Control.ReadSet

namespace Shardman
namespace Api

open Fsm
open Bucket
open Store
open Control
open Client
open Foundation

/-!
# What callers without the key can do

Resolving a key needs no cluster key, and it is not free of effects: it may
promote a standby and seal a silent shard.  The supervisors act by themselves.
Everything else that writes to the database is behind the key.  So as long as no
call has the right key, shards are used up and retired, but none is added, none
is given another address or size, none returns to the pool, and the
configuration stays as it is.
-/

/-! ## Calls with the key -/

/-- The call carries the key of the cluster, and there is one. -/
def CarriesKey (settings : Settings) (metadata : Metadata) : Prop :=
  settings.clusterKey ≠ "" ∧ metadata.bind List.head? = some settings.clusterKey

theorem requireKey_ok_iff {settings : Settings} {metadata : Metadata} :
    requireKey settings metadata = .ok () ↔ CarriesKey settings metadata := by
  unfold requireKey CarriesKey
  by_cases unset : settings.clusterKey = ""
  · rw [if_pos unset]
    exact iff_of_false nofun fun carries => carries.1 unset
  · rw [if_neg unset]
    cases metadata with
    | none => exact iff_of_false nofun fun carries => by cases carries.2
    | some values =>
        cases values with
        | nil => exact iff_of_false nofun fun carries => by cases carries.2
        | cons first rest =>
            simp only [checkKey, if_neg unset, beq_iff_eq, Option.bind_some, List.head?_cons, Option.some_inj]
            by_cases same : settings.clusterKey = first
            · rw [if_pos same]
              exact iff_of_true rfl ⟨unset, same.symm⟩
            · rw [if_neg same]
              exact iff_of_false nofun fun carries => same carries.2.symm

theorem hasKey_iff {settings : Settings} {metadata : Metadata} :
    hasKey settings metadata = true ↔ CarriesKey settings metadata := by
  rw [← requireKey_ok_iff, hasKey]
  cases requireKey settings metadata with
  | error status => exact iff_of_false nofun nofun
  | ok done => exact iff_of_true rfl rfl

/-- Every refusal for a missing key has one of two codes. -/
theorem requireKey_error {settings : Settings} {metadata : Metadata} {status : Status}
    (refused : requireKey settings metadata = .error status) :
    status.code = .unauthenticated ∨ status.code = .unavailable := by
  unfold requireKey at refused
  split at refused
  · cases refused
    exact Or.inr rfl
  · split at refused
    · cases refused
      exact Or.inl rfl
    · cases refused
      exact Or.inl rfl
    · split at refused <;> cases refused
      exact Or.inl rfl

theorem handleKeyed_without_key {settings : Settings} {metadata : Metadata} (platform : Platform)
    (unknown : ¬ CarriesKey settings metadata) (request : KeyedRpc) :
    Exists fun status => handleKeyed platform settings metadata request = .finish (.refused status) ∧
      (status.code = .unauthenticated ∨ status.code = .unavailable) := by
  cases outcome : requireKey settings metadata with
  | ok done => exact absurd (requireKey_ok_iff.mp outcome) unknown
  | error status =>
      refine ⟨status, ?_, requireKey_error outcome⟩
      have refused : forall handler, withKey settings metadata handler = .finish (.refused status) := by
        intro handler
        rw [withKey, outcome]
        rfl
      cases request <;> exact refused _

/-! ## Operations of calls without the key -/

def keylessOp : Op -> Bool
  | .bootstrap _ | .registerShard .. | .sealRotate _ .admin | .markDrainReady _ | .finishCleaning _ | .patchState ..
  | .updateStats .. | .setLastSeenAt .. => false
  | _ => true

/-- The calls of keyless requests and of the supervisors. -/
def keylessCall : Call -> Bool
  | .resolveWrite _ | .resolveRead _ | .sealTick | .healthTick | .retentionTick => true
  | _ => false

/-- A call that needs no key issues no operation behind the key. -/
theorem keylessOp_of_grounds {env : Env} {call : Call} {done : List (Sigma Reply)} {op : Op}
    (grounds : Grounds env call done op) (keyless : keylessCall call = true) : keylessOp op = true := by
  cases op with
  | bootstrap | registerShard | markDrainReady | finishCleaning | patchState | updateStats | setLastSeenAt =>
      cases grounds
      cases keyless
  | sealRotate bucketID cause =>
      cases cause with
      | failover stale => rfl
      | admin =>
          cases grounds
          cases keyless
  | _ => rfl

/-! ## Shards only advance -/

/-- The order in which a shard goes through its states. -/
def stage : State -> Nat
  | .standby => 0
  | .active => 1
  | .draining => 2
  | .sealed => 3
  | .cleaning => 4

/-- The shard has the same identity, address and size, its state has not gone
back, and it serves the bucket that it was given first. -/
structure Advances (row moved : Shard) : Prop where
  id : moved.id = row.id
  shardUUID : moved.shardUUID = row.shardUUID
  role : moved.role = row.role
  dsn : moved.dsn = row.dsn
  advertiseURL : moved.advertiseURL = row.advertiseURL
  reportedBytes : moved.reportedBytes = row.reportedBytes
  maxBytes : moved.maxBytes = row.maxBytes
  state : stage row.state <= stage moved.state
  bucketID : moved.bucketID = row.bucketID ∨ row.state = .standby

/-- The same shards under the same configuration, each advanced. -/
structure OnlyAdvances (earlier later : Moment) : Prop where
  rows : forall row, row ∈ earlier.db.shards -> Exists fun moved => moved ∈ later.db.shards ∧ Advances row moved
  sources : forall moved, moved ∈ later.db.shards -> Exists fun row => row ∈ earlier.db.shards ∧ Advances row moved
  config : getConfig later.db = getConfig earlier.db

section Advances

variable {env : Env} {moment : Moment} {op : Op}

theorem advances_refl (row : Shard) : Advances row row :=
  ⟨rfl, rfl, rfl, rfl, rfl, rfl, rfl, Nat.le_refl _, Or.inl rfl⟩

theorem stage_zero {state : State} (least : stage state <= 0) : state = .standby := by
  cases state with
  | standby => rfl
  | active | draining | sealed | cleaning => cases least

theorem Advances.trans {first second third : Shard} (earlier : Advances first second) (later : Advances second third) :
    Advances first third where
  id := later.id.trans earlier.id
  shardUUID := later.shardUUID.trans earlier.shardUUID
  role := later.role.trans earlier.role
  dsn := later.dsn.trans earlier.dsn
  advertiseURL := later.advertiseURL.trans earlier.advertiseURL
  reportedBytes := later.reportedBytes.trans earlier.reportedBytes
  maxBytes := later.maxBytes.trans earlier.maxBytes
  state := Nat.le_trans earlier.state later.state
  bucketID := by
    rcases later.bucketID with kept | pooled
    · exact earlier.bucketID.imp_left kept.trans
    · refine Or.inr (stage_zero ?_)
      have reached := earlier.state
      rw [pooled] at reached
      exact reached

theorem onlyAdvances_same {earlier later : Moment} (same : later.db = earlier.db) : OnlyAdvances earlier later where
  rows row member := ⟨row, by rwa [same], advances_refl row⟩
  sources row member := ⟨row, by rwa [← same], advances_refl row⟩
  config := by rw [same]

theorem OnlyAdvances.trans {first second third : Moment} (earlier : OnlyAdvances first second)
    (later : OnlyAdvances second third) : OnlyAdvances first third where
  rows row member := by
    rcases earlier.rows row member with ⟨middle, middleMember, before⟩
    rcases later.rows middle middleMember with ⟨moved, present, after⟩
    exact ⟨moved, present, before.trans after⟩
  sources moved present := by
    rcases later.sources moved present with ⟨middle, middleMember, after⟩
    rcases earlier.sources middle middleMember with ⟨row, member, before⟩
    exact ⟨row, member, before.trans after⟩
  config := later.config.trans earlier.config

/-- The moves that are left without the key. -/
theorem advances_of_moves {now : Time} {row moved : Shard} (moves : Moves now op row moved)
    (keyless : keylessOp op = true) : Advances row moved := by
  cases moves with
  | keep => exact advances_refl row
  | promote pooled | replaceSealed pooled | replaceDrained pooled =>
      refine ⟨rfl, rfl, rfl, rfl, rfl, rfl, rfl, ?_, Or.inr pooled.2.1⟩
      rw [pooled.2.1]
      exact Nat.zero_le _
  | sealActive serves | sealDrained serves | drain serves | clean serves =>
      refine ⟨rfl, rfl, rfl, rfl, rfl, rfl, rfl, ?_, Or.inl rfl⟩
      rw [serves.2.2]
      exact Nat.le_of_ble_eq_true rfl
  | ready | recycle | patch | stats | seen | readdress => cases keyless

theorem keyless_topology (keyless : keylessOp op = true) : TopologyStep moment.db (perform env op moment).2.db := by
  cases op with
  | promoteStandby bucketID => exact commit_topology fun _ _ done => promoteStandby_topology done
  | sealRotate bucketID cause =>
      exact commit_topology fun _ _ done => rotate_topology (by decide) (fun _ => rfl) done
  | completeDrainSeal bucketID =>
      exact commit_topology fun _ _ done => rotate_topology (by decide) (fun _ => rfl) done
  | beginDrain bucketID => exact commit_topology fun _ _ done => requireRows_bumped done
  | markBucketCleaning bucketID => exact commit_topology fun _ _ done => markBucketCleaning_topology done
  | bootstrap | registerShard | markDrainReady | finishCleaning | patchState | updateStats | setLastSeenAt =>
      cases keyless
  | _ => exact topologyStep_refl _

theorem perform_onlyAdvances (keyless : keylessOp op = true) : OnlyAdvances moment (perform env op moment).2 := by
  rcases perform_rowsMove env op moment with ⟨move, added, table, moves, fresh⟩
  have nothing : added = [] := by
    cases added with
    | nil => rfl
    | cons row rest =>
        rcases fresh row List.mem_cons_self with ⟨_, _, _, _, _, rfl, _⟩
        cases keyless
  rw [nothing, List.append_nil] at table
  refine ⟨?_, ?_, (keyless_topology keyless).config⟩
  · intro row member
    refine ⟨move row, ?_, advances_of_moves (moves row member) keyless⟩
    rw [table]
    exact List.mem_map_of_mem member
  · intro moved present
    rw [table] at present
    rcases List.mem_map.mp present with ⟨row, member, rfl⟩
    exact ⟨row, member, advances_of_moves (moves row member) keyless⟩

/-- Keyless calls of the control plane only advance shards. -/
theorem keyless_run_advances {db : Db} {now : Time} {past : Trace} {system : System}
    (run : Runs env db now past system)
    (keyless : forall event, event ∈ past -> forall call, event.action = .start call -> keylessCall call = true) :
    OnlyAdvances ⟨db, now⟩ system.store := by
  induction run with
  | start => exact onlyAdvances_same rfl
  | @next past system after action earlier taken inductionHypothesis =>
      have before := inductionHypothesis fun event member => keyless event (List.mem_cons_of_mem _ member)
      rcases step_cases taken with ⟨call, rfl, rfl⟩ | ⟨tick, rfl, rfl⟩ |
        ⟨index, call, op, next, rfl, found, issued, rfl⟩
      · exact before
      · exact before.trans (onlyAdvances_same rfl)
      · rcases run_started rfl earlier found with ⟨event, member, started⟩
        have allowed := keyless event (List.mem_cons_of_mem _ member) call started
        have permitted := keylessOp_of_grounds (run_grounds earlier found) allowed
        exact before.trans (perform_onlyAdvances permitted)

end Advances

/-! ## Servers without authorized requests -/

section Server

variable {env : Env} {settings : Settings} {start : Moment} {past : ServerPast} {pool : ServerPool}

/-- A task that has answered at once stays as it is. -/
theorem answered_stays (run : ServerRuns env settings start past pool) {index : Nat} {task : Task}
    {program : Handler Answer} {answer : Answer} (present : pool.processes[index]? = some ⟨task, program⟩)
    (answered : taskBody env settings task = .finish answer) : program = .finish answer := by
  refine run_exchanged (fun task _ program => taskBody env settings task = .finish answer -> program = .finish answer)
    rfl ?_ ?_ run.unguarded present answered
  · intro task same
    exact same
  · intro task done op next reply held same
    cases held same

/-- As long as no request carries the key, every request of an administrator or
an agent is refused, and the shards are those of the start, each of them at most
advanced in its life cycle, under the same configuration. -/
theorem keyless_traffic_only_advances (run : ServerRuns env settings start past pool)
    (keyless : forall event, event ∈ past -> forall metadata request,
      event.action = .start (.keyed metadata request) -> ¬ CarriesKey settings metadata) :
    (forall (index : Nat) metadata request program, pool.processes[index]? = some ⟨.keyed metadata request, program⟩ ->
      Exists fun status => program = .finish (.refused status) ∧
        (status.code = .unauthenticated ∨ status.code = .unavailable)) ∧
    OnlyAdvances start pool.store.moment := by
  constructor
  · intro index metadata request program present
    rcases run_started rfl run.unguarded present with ⟨event, member, started⟩
    rcases handleKeyed_without_key env.platform (keyless event member metadata request started) request with
      ⟨status, refused, code⟩
    exact ⟨status, answered_stays run present refused, code⟩
  · rcases (controlLayer env settings).run_carried run.unguarded with ⟨calls, system, carried⟩
    rcases carried.links with ⟨place, links⟩
    have same : system.store = pool.store.moment := links.store
    rw [← same]
    refine keyless_run_advances carried.run ?_
    intro event member call isStart
    rcases carried.starts event member call isStart with ⟨task, called, source, listed, started⟩
    change calledBy env.platform settings task = some call at called
    cases task with
    | sealTick | healthTick | retentionTick =>
        cases called
        rfl
    | refreshMetrics => cases called
    | keyed metadata request =>
        have unknown := keyless source listed metadata request started
        rw [← hasKey_iff] at unknown
        simp only [calledBy, if_neg unknown] at called
        cases called
    | resolve request =>
        cases request with
        | listBucketShards bucketID => cases called
        | write shardKey | read shardKey =>
            rcases Option.map_eq_some_iff.mp called with ⟨key, _, rfl⟩
            rfl

end Server

/-- Two reports with wrong keys, and a write that replaces a silent shard. -/
def strangers : List ServerAct :=
  List.flatten [serveTask 0 (.keyed (some ["guess"]) (.reportStats firstShard 5)) 0,
    serveTask 1 (.keyed none (.reportCleaned firstShard)) 0, serveTask 2 (.resolve (.write (some (.string "57")))) 6]

/-- No task of the run is a request with the key. -/
def keylessEvent (settings : Settings) (event : Event ServerPool ServerAct) : Bool :=
  match event.action with
  | .start (.keyed metadata _) => !hasKey settings metadata
  | _ => true

theorem keylessEvent_spec {settings : Settings} {event : Event ServerPool ServerAct}
    (keyless : keylessEvent settings event = true) (metadata : Metadata) (request : KeyedRpc)
    (started : event.action = .start (.keyed metadata request)) : ¬ CarriesKey settings metadata := by
  rw [keylessEvent, started, Bool.not_eq_true'] at keyless
  rw [← hasKey_iff, keyless]
  exact Bool.false_ne_true

theorem keyless_traffic_only_advances_strangers : Exists fun past => Exists fun pool : ServerPool =>
    ServerRuns sampleEnv sampleSettings silentBucket past pool ∧ pool.processes[2]?.any (answeredWrite "57" 2) = true ∧
      (forall (index : Nat) metadata request program,
        pool.processes[index]? = some ⟨.keyed metadata request, program⟩ ->
          Exists fun status => program = .finish (.refused status) ∧
            (status.code = .unauthenticated ∨ status.code = .unavailable)) ∧
      OnlyAdvances silentBucket pool.store.moment := by
  have passed : replayCheck (serverStep sampleEnv sampleSettings) strangers ⟨Watch.newServer silentBucket, []⟩
      (fun past pool => past.all (keylessEvent sampleSettings) && pool.processes[2]?.any (answeredWrite "57" 2)) =
        true := by
    decide +kernel
  rcases replayCheck_run passed with ⟨past, pool, run, checked⟩
  rcases Bool.and_eq_true_iff.mp checked with ⟨keyless, answered⟩
  have outcome := keyless_traffic_only_advances run fun event member =>
    keylessEvent_spec (List.all_eq_true.mp keyless event member)
  exact ⟨past, pool, run, answered, outcome.1, outcome.2⟩

end Api
end Shardman
