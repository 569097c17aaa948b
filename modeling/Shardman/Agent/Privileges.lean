import Shardman.Agent.Protocol
import Shardman.Control.Eviction

namespace Shardman
namespace Agent

open Fsm
open Bucket
open Store
open Control
open Foundation

/-!
# Write privileges over the life of a shard

Draining takes the write privileges of the application away.  A shard that was
drained, sealed, cleaned and returned to the pool may be promoted again, so the
question is whether the privileges are back by then.  No statement of an agent
grants them: they are in place exactly on shards that were never drained.
-/

/-- The application may write to every active data shard. -/
def Privileged (fleet : Fleet) : Prop :=
  forall row, row ∈ fleet.control.store.db.shards -> row.role = .data -> row.state = .active ->
    fleet.writable row.shardUUID = true

/-- The shard was drained in some past step. -/
def drained (uuid : UUID) (past : FleetTrace) : Bool :=
  past.any fun event => executes event = some (uuid, .drainShard)

/-- Draining revokes privileges: the mode is revoke and there is a role. -/
def Revokes (config : AgentConfig) : Prop :=
  config.drainMode = "revoke" ∧ config.appDBRole ≠ ""

theorem drainShard_revokes {config : AgentConfig} (revokes : Revokes config) (writable : Bool) :
    drainShard config writable = false := by
  have mode : config.drainMode ≠ "terminate" := by
    rw [revokes.1]
    decide
  rw [drainShard, if_neg mode, if_pos revokes.2]

section Runs

variable {env : Env} {configs : UUID -> AgentConfig}

/-- One step takes the privileges on a shard away exactly when it drains it. -/
theorem step_writable (revoking : forall uuid, Revokes (configs uuid)) {fleet after : Fleet}
    {action : FleetAct} (taken : step env configs fleet action = some after) (uuid : UUID) :
    after.writable uuid =
      (fleet.writable uuid && !decide (executes ⟨fleet, action⟩ = some (uuid, .drainShard))) := by
  cases steps_of_step taken with
  | @work worker size fate op next reply state replied =>
      simp only [executes, state]
      by_cases refused : fate = .refused
      · simp only [if_pos refused, reduceCtorEq, decide_false, Bool.not_false, Bool.and_true]
      · simp only [if_neg refused, Option.some.injEq, Prod.mk.injEq]
        by_cases same : uuid = worker
        · subst same
          rw [Function.update_self]
          cases op with
          | drainShard => simp [privilegesAfter, drainShard_revokes (revoking uuid)]
          | connect | measureSize | cleanDatabase | rpc => simp [privilegesAfter]
        · rw [Function.update_of_ne same]
          simp [Ne.symm same]
  | control | begin | send | deliver | receive | lose | restart => simp [executes]

/-- The privileges on a shard are in place exactly when it was never drained. -/
theorem run_writable (revoking : forall uuid, Revokes (configs uuid)) {db : Db} {now : Time}
    {past : FleetTrace} {fleet : Fleet} (run : FleetRuns env configs db now past fleet) (uuid : UUID) :
    fleet.writable uuid = !drained uuid past := by
  refine Run.history (fun past (fleet : Fleet) => fleet.writable uuid = !drained uuid past)
    (fun _ _ => True) rfl ?_ run (fun _ _ => trivial)
  intro past fleet action after _ held _ taken
  rw [step_writable revoking taken, held, drained, drained, List.any_cons, Bool.not_or, Bool.and_comm]

end Runs

/-! ## Steps that leave an active shard without privileges -/

/-- The bucket has no active shard. -/
def Vacant (bucketID : String) (db : Db) : Prop :=
  forall row, row ∈ db.shards -> ¬ InState .active bucketID row

/-- The operation makes a data shard active.  A promotion and a rotation take the
shard that is next in the pool, if the bucket is free for it.  A manual change
takes the shard it names, if that one is on standby and its bucket, where it has
one, is free. -/
def Activates (op : Op) (db : Db) (row : Shard) : Prop :=
  match op with
  | .promoteStandby bucketID => nextStandby db = some row ∧ Vacant bucketID db
  | .sealRotate bucketID _ => nextStandby db = some row ∧ Refills .active bucketID db
  | .completeDrainSeal bucketID => nextStandby db = some row ∧ Refills .draining bucketID db
  | .patchState id newState => newState = .active ∧ row ∈ db.shards ∧ row.id = id ∧ row.role = .data ∧
      row.state = .standby ∧ forall bucketID, row.bucketID = some bucketID -> Vacant bucketID db
  | _ => False

section Activation

variable {env : Env} {moment : Moment} {row : Shard} {bucketID : String}

/-- A promotion takes a shard exactly when it is next in the pool and the bucket
is vacant. -/
theorem promotion_takes_iff (member : row ∈ moment.db.shards) (standby : row.state = .standby) :
    (Exists fun moved => moved ∈ (perform env (.promoteStandby bucketID) moment).2.db.shards ∧
      moved.id = row.id ∧ moved.state = .active) ↔
        nextStandby moment.db = some row ∧ Vacant bucketID moment.db := by
  rcases promoteStandby_cases moment.now bucketID moment.db with ⟨empty, failed⟩ |
    ⟨spare, active, _, activeMember, serves, failed⟩ | ⟨spare, after, found, vacant, done, table, _⟩
  · refine iff_of_false ?_ ?_
    · rintro ⟨moved, kept, same, active⟩
      exact failed_takes_none failed member standby kept same active
    · rintro ⟨found, _⟩
      rw [empty] at found
      cases found
  · refine iff_of_false ?_ (fun takes => takes.2 active activeMember serves)
    rintro ⟨moved, kept, same, active⟩
    exact failed_takes_none failed member standby kept same active
  · simp only [perform, commit, done]
    rw [table]
    rcases nextStandby_some found with ⟨spareMember, _⟩
    constructor
    · rintro ⟨moved, movedMember, same, active⟩
      rcases mem_tableAt.mp movedMember with ⟨source, sourceMember, isSpare, rfl⟩ | ⟨kept, _⟩
      · rw [Rewrite.id_eq, isSpare] at same
        rw [← moment.db.eq_of_id spareMember member same]
        exact ⟨found, vacant⟩
      · exact absurd active (kept_not_absorbed member standby kept same)
    · rintro ⟨next, _⟩
      have same : spare = row := Option.some_inj.mp (found.symm.trans next)
      subst same
      exact ⟨_, mem_tableAt.mpr (Or.inl ⟨spare, spareMember, rfl, rfl⟩), rfl, rfl⟩

/-- A manual change that makes a shard active finds its bucket vacant. -/
theorem patch_vacant {id : Nat} {moved : Shard} (member : row ∈ moment.db.shards) (data : row.role = .data)
    (standby : row.state = .standby) (bucket : row.bucketID = some bucketID)
    (movedMember : moved ∈ (perform env (.patchState id .active) moment).2.db.shards)
    (same : moved.id = row.id) (active : moved.state = .active) : Vacant bucketID moment.db := by
  intro other otherMember serves
  -- An active shard of the bucket stays so, and the index admits no second one.
  rcases perform_moved env (.patchState id .active) otherMember with ⟨image, imageMember, moves⟩
  have imageServes : InState .active bucketID image := by
    cases moves with
    | keep => exact serves
    | patch => exact ⟨serves.1, serves.2.1, rfl⟩
  have movedServes : InState .active bucketID moved := by
    cases perform_moves member movedMember same with
    | keep => exact ⟨data, bucket, active⟩
    | patch => exact ⟨data, bucket, active⟩
  have imageSame : image = moved := active_unique imageMember movedMember imageServes movedServes
  have otherSame : other.id = row.id := by rw [← moves.keys.1, imageSame, same]
  rw [moment.db.eq_of_id otherMember member otherSame] at serves
  have states := standby.symm.trans serves.2.2
  cases states

/-- A manual change to active goes through on a standby shard whose bucket, if it
has one, is vacant. -/
theorem patch_activates (member : row ∈ moment.db.shards) (data : row.role = .data)
    (standby : row.state = .standby)
    (vacant : forall bucketID, row.bucketID = some bucketID -> Vacant bucketID moment.db) :
    Exists fun moved => moved ∈ (perform env (.patchState row.id .active) moment).2.db.shards ∧
      moved.id = row.id ∧ moved.state = .active := by
  have chosen : forall other, other ∈ moment.db.shards ->
      decide (other.id = row.id ∧ other.version = row.version) = true ->
      other.id = row.id ∧ activeKey ((Rewrite.patch .active).apply other) = row.bucketID := by
    intro other otherMember selected
    have same := (of_decide_eq_true selected).1
    rw [moment.db.eq_of_id otherMember member same]
    exact ⟨rfl, if_pos ⟨data, rfl⟩⟩
  have free : forall other, other ∈ moment.db.shards -> row.bucketID ≠ none ->
      activeKey other ≠ row.bucketID := by
    intro other otherMember held keyed
    rcases Option.ne_none_iff_exists'.mp held with ⟨bucketID, bucket⟩
    rw [bucket] at keyed
    exact vacant bucketID bucket other otherMember (activeKey_eq_some.mp keyed)
  rcases updateRow_succeeds chosen free with ⟨written, affected, outcome⟩
  have allowed : canTransition .data row.state .active = true := by
    rw [standby]
    rfl
  rcases patchState_of_update member data allowed outcome with ⟨done, table⟩
  refine ⟨(Rewrite.patch .active).apply row, ?_, rfl, rfl⟩
  simp only [perform, commit, done]
  rw [table]
  exact mem_tableAt.mpr (Or.inl ⟨row, member, rfl, rfl⟩)

/-- What an operation activates is a data shard on standby. -/
theorem activates_standby {op : Op} {db : Db} (activates : Activates op db row) :
    row ∈ db.shards ∧ row.role = .data ∧ row.state = .standby := by
  cases op with
  | promoteStandby | sealRotate | completeDrainSeal =>
      rcases nextStandby_some activates.1 with ⟨member, data, standby, _⟩
      exact ⟨member, data, standby⟩
  | patchState => exact ⟨activates.2.1, activates.2.2.2.1, activates.2.2.2.2.1⟩
  | _ => exact activates.elim

/-- An operation makes a data shard active exactly when its place in the pool,
and the bucket, are as the operation requires. -/
theorem activates_iff {op : Op} (member : row ∈ moment.db.shards) (data : row.role = .data)
    (idle : row.state ≠ .active) :
    (Exists fun moved => moved ∈ (perform env op moment).2.db.shards ∧ moved.id = row.id ∧
      moved.state = .active) ↔ Activates op moment.db row := by
  constructor
  · rintro ⟨moved, movedMember, same, active⟩
    cases perform_moves member movedMember same with
    | promote pooled => exact (promotion_takes_iff member pooled.2.1).mp ⟨_, movedMember, same, active⟩
    | replaceSealed pooled =>
        exact (sealRotate_takes_iff member pooled.2.1).mp ⟨_, movedMember, same, rfl, rfl⟩
    | replaceDrained pooled =>
        exact (completeDrainSeal_takes_iff member pooled.2.1).mp ⟨_, movedMember, same, rfl, rfl⟩
    | patch allowed =>
        cases active
        rw [data] at allowed
        have standby := standby_of_activation allowed
        exact ⟨rfl, member, rfl, data, standby,
          fun _ bucket => patch_vacant member data standby bucket movedMember same rfl⟩
    | sealActive | sealDrained | drain | clean | recycle => cases active
    | keep | ready | stats | seen | readdress => exact absurd active idle
  · intro activates
    cases op with
    | promoteStandby bucketID =>
        exact (promotion_takes_iff member (activates_standby activates).2.2).mpr activates
    | sealRotate bucketID cause =>
        rcases (sealRotate_takes_iff member (activates_standby activates).2.2).mpr activates with
          ⟨moved, movedMember, same, active, _⟩
        exact ⟨moved, movedMember, same, active⟩
    | completeDrainSeal bucketID =>
        rcases (completeDrainSeal_takes_iff member (activates_standby activates).2.2).mpr activates with
          ⟨moved, movedMember, same, active, _⟩
        exact ⟨moved, movedMember, same, active⟩
    | patchState id newState =>
        rcases activates with ⟨rfl, _, rfl, _, standby, vacant⟩
        exact patch_activates member data standby vacant
    | _ => exact activates.elim

end Activation

/-- A step drains the database of an active data shard. -/
def DrainsActive (event : Event Fleet FleetAct) : Prop :=
  Exists fun row => row ∈ event.state.control.store.db.shards ∧ row.role = .data ∧
    row.state = .active ∧ executes event = some (row.shardUUID, .drainShard)

/-- After some run, a step activates a shard that was drained in that run, or
drains a shard while it is active. -/
def StripsActive (earlier : FleetTrace) (event : Event Fleet FleetAct) : Prop :=
  (Exists fun op => Exists fun row => operation event = some op ∧
    Activates op event.state.control.store.db row ∧ drained row.shardUUID earlier = true) ∨ DrainsActive event

section Steps

variable {env : Env} {configs : UUID -> AgentConfig} {fleet after : Fleet} {action : FleetAct}

/-- A step that strips no active shard keeps the privileges of all of them. -/
theorem step_privileged (revoking : forall uuid, Revokes (configs uuid)) {db : Db} {now : Time}
    {earlier : FleetTrace} (run : FleetRuns env configs db now earlier fleet) (held : Privileged fleet)
    (clear : ¬ StripsActive earlier ⟨fleet, action⟩)
    (taken : step env configs fleet action = some after) : Privileged after := by
  intro row member data active
  rw [step_writable revoking taken]
  rcases step_shards taken with ⟨_, same⟩ | ⟨op, performs, reached⟩
  · rw [same] at member
    have undrained : executes ⟨fleet, action⟩ ≠ some (row.shardUUID, .drainShard) := by
      intro drains
      exact clear (Or.inr ⟨row, member, data, active, drains⟩)
    rw [held row member data active, decide_eq_false undrained]
    rfl
  · rw [executes_of_operation performs]
    rw [reached] at member
    rcases perform_row member with ⟨source, sourceMember, moves⟩ | ⟨_, _, _, _, _, _, registered, _⟩
    · rcases moves.keys with ⟨sameID, sameUUID, sameRole⟩
      rw [sameUUID]
      by_cases before : source.state = .active
      · rw [held source sourceMember (sameRole.symm.trans data) before]
        rfl
      · have activates : Activates op fleet.control.store.db source :=
          (activates_iff sourceMember (sameRole.symm.trans data) before).mp ⟨row, member, sameID, active⟩
        rw [run_writable revoking run]
        cases wasDrained : drained source.shardUUID earlier with
        | false => rfl
        | true => exact absurd (Or.inl ⟨op, source, performs, activates, wasDrained⟩) clear
    · -- A data shard is registered on standby.
      rw [registered] at data active
      simp only [registeredShard] at data active
      rw [data] at active
      cases active

theorem step_stripsActive (revoking : forall uuid, Revokes (configs uuid)) {db : Db} {now : Time}
    {earlier : FleetTrace} (run : FleetRuns env configs db now earlier fleet)
    (strips : StripsActive earlier ⟨fleet, action⟩)
    (taken : step env configs fleet action = some after) : ¬ Privileged after := by
  intro privileged
  rcases strips with ⟨op, row, performs, activates, wasDrained⟩ | ⟨row, member, data, active, drains⟩
  · rcases step_shards taken with ⟨nothing, _⟩ | ⟨other, performsOther, reached⟩
    · rw [nothing] at performs
      cases performs
    · have sameOp : other = op := Option.some_inj.mp (performsOther.symm.trans performs)
      subst sameOp
      rcases activates_standby activates with ⟨member, data, standby⟩
      have idle : row.state ≠ .active := by
        rw [standby]
        decide
      rcases (activates_iff member data idle).mpr activates with ⟨moved, movedMember, same, active⟩
      have keys := (perform_moves member movedMember same).keys
      rw [← reached] at movedMember
      have writable := privileged moved movedMember (keys.2.2.trans data) active
      rw [step_writable revoking taken, keys.2.1, run_writable revoking run, wasDrained] at writable
      cases writable
  · rcases step_shards taken with ⟨_, same⟩ | ⟨op, performs, _⟩
    · rw [← same] at member
      have writable := privileged row member data active
      rw [step_writable revoking taken, drains, decide_eq_true rfl, Bool.not_true, Bool.and_false] at writable
      cases writable
    · rw [executes_of_operation performs] at drains
      cases drains

end Steps

/-- With agents that revoke, the application may write to every active data
shard throughout a run exactly when no step of the run activates a shard that
was drained before, and none drains an active shard. -/
theorem privileged_iff_no_drained_activation (env : Env) (configs : UUID -> AgentConfig)
    (revoking : forall uuid, Revokes (configs uuid)) (db : Db) (now : Time) (past : FleetTrace)
    (fleet : Fleet) (run : FleetRuns env configs db now past fleet) :
    Run.Throughout Privileged past fleet ↔
      forall later event earlier, past = later ++ event :: earlier ->
        ¬ StripsActive earlier event := by
  refine Run.throughout_iff Privileged StripsActive (fun _ _ => True) (fun _ _ _ _ => rfl) ?_ ?_ run
    (fun _ _ => trivial)
  · intro earlier fleet action after before _ held clear taken
    exact step_privileged revoking before held clear taken
  · intro earlier fleet action after before strips taken
    exact step_stripsActive revoking before strips taken

/-! ## The life of one shard -/

theorem revokingAgents_revoke (uuid : UUID) : Revokes (revokingAgents uuid) :=
  ⟨rfl, show "app" ≠ "" by decide⟩

/-- It drains, is sealed, falls out of the retention window, is cleaned, and a
write promotes it again. -/
def secondService : List FleetAct :=
  controls ([.start .sealTick] ++ resumes 3 6) ++ busyTick 1 4 ++
  controls ([.start .sealTick] ++ resumes 6 6 ++ [.elapse (3 * 86400 * 10 ^ 9)] ++
    [.start .retentionTick] ++ resumes 7 5) ++ busyTick 3 8 ++
  controls ([.start (.resolveWrite (.string "1970-01-04"))] ++ resumes 10 10)

/-- During its first service the shard has not been drained. -/
theorem privileged_iff_no_drained_activation_first_service :
    Exists fun past => Exists fun fleet => FleetRuns sampleEnv revokingAgents dailyDb 0 past fleet ∧
      (Exists fun row => row ∈ fleet.control.store.db.shards ∧ row.state = .active) ∧
      (Run.Throughout Privileged past fleet ↔
        forall later event earlier, past = later ++ event :: earlier ->
          ¬ StripsActive earlier event) := by
  have passed : replayCheck (step sampleEnv revokingAgents) firstService (Fleet.idle dailyDb 0)
      (fun _ fleet => decide (Exists fun row =>
        row ∈ fleet.control.store.db.shards ∧ row.state = .active)) = true := by
    decide +kernel
  rcases replayCheck_run passed with ⟨past, fleet, run, active⟩
  exact ⟨past, fleet, run, of_decide_eq_true active,
    privileged_iff_no_drained_activation sampleEnv revokingAgents revokingAgents_revoke dailyDb 0 past
      fleet run⟩

/-- In its second service the shard is active, and writes are sent to it, while
the application may not write. -/
theorem recycled_shard_lacks_privileges :
    Exists fun past => Exists fun fleet => FleetRuns sampleEnv revokingAgents dailyDb 0 past fleet ∧
      startsOnly isLifeCycle (controlTrace past) = true ∧
      Exists fun row => row ∈ fleet.control.store.db.shards ∧ row.role = .data ∧ row.state = .active ∧
        fleet.writable row.shardUUID = false := by
  have passed : replayCheck (step sampleEnv revokingAgents) (firstService ++ secondService)
      (Fleet.idle dailyDb 0)
      (fun past fleet => startsOnly isLifeCycle (controlTrace past) &&
        decide (Exists fun row => row ∈ fleet.control.store.db.shards ∧ row.role = .data ∧
          row.state = .active ∧ fleet.writable row.shardUUID = false)) = true := by
    decide +kernel
  rcases replayCheck_run passed with ⟨past, fleet, run, checked⟩
  rcases Bool.and_eq_true_iff.mp checked with ⟨kinds, lacks⟩
  exact ⟨past, fleet, run, kinds, of_decide_eq_true lacks⟩

end Agent
end Shardman
