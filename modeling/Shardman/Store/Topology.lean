import Shardman.Store.Histories

namespace Shardman
namespace Store

open Fsm
open Foundation

/-!
# The topology version

Clients keep what they know about the shards until the topology version
changes.  The number is advanced by hand in each transaction.  This module
shows that no transaction forgets it: whatever changes a column that routing
depends on also advances the version.
-/

/-- What routing knows of a shard. -/
structure RoutingEntry where
  shardUUID : UUID
  role : Role
  state : State
  bucketID : Option String
  dsn : String
  advertiseURL : Option String

def routingEntry (row : Shard) : RoutingEntry :=
  ⟨row.shardUUID, row.role, row.state, row.bucketID, row.dsn, row.advertiseURL⟩

/-- The routing view of a database: its shards in the order of their ids. -/
def routingView (db : Db) : List RoutingEntry := db.shards.map routingEntry

/-- The two things a transaction may do: leave version and view alone, or
advance the version. -/
inductive TopologyStep (before after : Db) : Prop
  | kept (cluster : after.cluster = before.cluster) (view : routingView after = routingView before)
  | advanced (cluster : after.cluster = before.bumpTopologyVersion.cluster)

section Statements

variable {db after : Db}

theorem topologyStep_refl (db : Db) : TopologyStep db db := .kept rfl rfl

/-- A statement that writes no column of the view. -/
theorem routingView_only {condition : Shard -> Bool} {change : Rewrite}
    (hidden : forall row, routingEntry (change.apply row) = routingEntry row)
    (table : after.shards = db.shards.map (change.only condition).apply) :
    routingView after = routingView db := by
  rw [routingView, table, List.map_map, routingView]
  apply List.map_congr_left
  intro row _
  rw [Function.comp_apply, only_apply]
  split
  · exact hidden row
  · rfl

/-- A statement that selects no row. -/
theorem routingView_none {condition : Shard -> Bool} {change : Rewrite}
    (none : (db.shards.filter condition).length = 0)
    (table : after.shards = db.shards.map (change.only condition).apply) :
    routingView after = routingView db := by
  have unselected := List.filter_eq_nil_iff.mp (List.length_eq_zero_iff.mp none)
  rw [routingView, table, List.map_map, routingView]
  apply List.map_congr_left
  intro row member
  rw [Function.comp_apply, only_apply, if_neg (unselected row member)]

theorem bump_congr {before : Db} (same : after.cluster = before.cluster) :
    after.bumpTopologyVersion.cluster = before.bumpTopologyVersion.cluster := by
  rw [Db.bumpTopologyVersion, Db.bumpTopologyVersion, same]

end Statements

/-! ## Every transaction -/

section Transactions

variable {env : Env} {now : Time} {db after : Db}

theorem commit_topology {X : Type} {tx : Tx X} {moment : Moment}
    (steps : forall value after, tx moment.db = .ok (value, after) -> TopologyStep moment.db after) :
    TopologyStep moment.db (commit tx moment).2.db := by
  unfold commit
  split
  · rename_i value after outcome
    exact steps value after outcome
  · exact topologyStep_refl _

theorem registerShard_topology {uuid : UUID} {role : Role} {dsn advertiseURL startupState : String} {id : Nat}
    (done : registerShard now uuid role dsn advertiseURL startupState db = .ok (id, after)) :
    TopologyStep db after := by
  unfold registerShard at done
  split at done
  · cases done
  · split at done
    · cases done
    · split at done
      · cases outcome : db.updateWhere (fun other => other.shardUUID = uuid)
            (.readdress dsn (nullStr advertiseURL) now) with
        | error failure =>
            rw [outcome] at done
            cases done
        | ok updated =>
            rw [outcome] at done
            cases done
            exact .advanced (bump_congr (updateWhere_ok outcome).2.2.2)
      · cases done
        exact .advanced rfl

theorem promoteStandby_topology {bucketID : String} {id : Nat}
    (done : promoteStandby now bucketID db = .ok (id, after)) : TopologyStep db after := by
  rcases promoteStandby_cases now bucketID db with ⟨_, failed⟩ | ⟨_, _, _, _, _, failed⟩ |
    ⟨_, _, _, _, outcome, _, cluster⟩
  · rw [failed] at done
    cases done
  · rw [failed] at done
    cases done
  · rw [outcome] at done
    cases done
    exact .advanced cluster

theorem rotate_topology {bucketID : String} {retired : State} {retire : Rewrite}
    (busy : retired ≠ .standby) (sealing : forall row, (retire.apply row).state = .sealed)
    (done : rotate env now bucketID retired retire db = .ok ((), after)) : TopologyStep db after := by
  rcases rotate_cases env now bucketID busy sealing db with ⟨_, failed⟩ |
    ⟨_, _, _, ⟨_, _, outcome, _, cluster⟩ | ⟨_, _, ⟨_, _, outcome, _, cluster⟩ | ⟨_, failed⟩⟩⟩
  · rw [failed] at done
    cases done
  · rw [outcome] at done
    cases done
    exact .advanced cluster
  · rw [outcome] at done
    cases done
    exact .advanced cluster
  · rw [failed] at done
    cases done

/-- The statements whose transaction always advances the version. -/
theorem requireRows_bumped {condition : Shard -> Bool} {change : Rewrite}
    (done : requireRows (db.updateWhere condition change) Db.bumpTopologyVersion = .ok ((), after)) :
    TopologyStep db after := by
  rcases requireRows_ok done with ⟨affected, updated, outcome, _, rfl⟩
  exact .advanced (bump_congr (updateWhere_ok outcome).2.2.2)

/-- The statements that never do. -/
theorem requireRows_hidden {condition : Shard -> Bool} {change : Rewrite}
    (hidden : forall row, routingEntry (change.apply row) = routingEntry row)
    (done : requireRows (db.updateWhere condition change) id = .ok ((), after)) : TopologyStep db after := by
  rcases requireRows_ok done with ⟨affected, updated, outcome, _, rfl⟩
  rcases updateWhere_ok outcome with ⟨_, table, _, cluster⟩
  exact .kept cluster (routingView_only hidden table)

theorem setLastSeenAt_topology {uuid : UUID} {instant : Time}
    (done : setLastSeenAt uuid instant db = .ok ((), after)) : TopologyStep db after := by
  unfold setLastSeenAt at done
  cases outcome : db.updateWhere (fun row => row.shardUUID = uuid) (.seen instant) with
  | error failure =>
      rw [outcome] at done
      cases done
  | ok updated =>
      rw [outcome] at done
      cases done
      rcases updateWhere_ok outcome with ⟨_, table, _, cluster⟩
      exact .kept cluster (routingView_only (fun _ => rfl) table)

/-- The version is advanced only when rows were marked; otherwise the view is
the same. -/
theorem markBucketCleaning_topology {bucketID : String} {count : Nat}
    (done : markBucketCleaning bucketID db = .ok (count, after)) : TopologyStep db after := by
  unfold markBucketCleaning at done
  split at done
  · cases done
  · rename_i affected marked outcome
    rcases updateWhere_ok outcome with ⟨selected, table, _, cluster⟩
    by_cases some : 0 < affected
    · rw [if_pos some] at done
      cases done
      exact .advanced (bump_congr cluster)
    · rw [if_neg some] at done
      cases done
      have none := selected.symm.trans (Nat.eq_zero_of_not_pos some)
      exact .kept cluster (routingView_none none table)

theorem finishCleaning_topology {uuid : UUID} (done : finishCleaning uuid db = .ok ((), after)) :
    TopologyStep db after := by
  unfold finishCleaning at done
  split at done
  · cases done
  · rename_i affected recycled outcome
    by_cases none : affected = 0
    · rw [if_pos none] at done
      cases done
      exact topologyStep_refl db
    · rw [if_neg none] at done
      cases done
      exact .advanced (bump_congr (updateWhere_ok outcome).2.2.2)

theorem patchState_topology {id : Nat} {newState : State}
    (done : patchState id newState db = .ok ((), after)) : TopologyStep db after := by
  unfold patchState at done
  split at done
  · cases done
  · split at done
    · split at done
      · cases done
      · rename_i outcome
        split at done
        · cases done
        · cases done
          exact .advanced (bump_congr (updateWhere_ok outcome).2.2.2)
    · cases done

end Transactions

/-! ## Whole histories -/

/-- After bootstrap the version never falls, and while it stays the same so
does the view. -/
def TopologyFollows (earlier later : Moment) : Prop :=
  forall version, getTopologyVersion earlier.db = .ok version ->
    Exists fun next => getTopologyVersion later.db = .ok next ∧ version <= next ∧
      (version = next -> routingView later.db = routingView earlier.db)

theorem topologyFollows_trans (first second third : Moment) (earlier : TopologyFollows first second)
    (later : TopologyFollows second third) : TopologyFollows first third := by
  intro version known
  rcases earlier version known with ⟨middle, middleKnown, rises, sameView⟩
  rcases later middle middleKnown with ⟨last, lastKnown, risesAgain, sameAgain⟩
  refine ⟨last, lastKnown, Nat.le_trans rises risesAgain, ?_⟩
  intro same
  have still : version = middle := by omega
  have stillThen : middle = last := by omega
  rw [sameAgain stillThen, sameView still]

theorem TopologyStep.follows {earlier later : Moment} (stepped : TopologyStep earlier.db later.db) :
    TopologyFollows earlier later := by
  intro version known
  cases stepped with
  | kept cluster view =>
      refine ⟨version, ?_, Nat.le_refl _, fun _ => view⟩
      rw [getTopologyVersion, cluster]
      exact known
  | advanced cluster =>
      refine ⟨version + 1, ?_, Nat.le_succ _, fun same => absurd same (Nat.ne_of_lt (Nat.lt_succ_self _))⟩
      rw [getTopologyVersion, cluster, Db.bumpTopologyVersion]
      unfold getTopologyVersion at known
      cases row : earlier.db.cluster with
      | none =>
          rw [row] at known
          cases known
      | some cluster =>
          rw [row] at known
          cases known
          rfl

/-- Every operation keeps version and view, advances the version, or is the
bootstrap. -/
theorem perform_topology (env : Env) (op : Op) (moment : Moment) :
    TopologyStep moment.db (perform env op moment).2.db ∨
      (moment.db.cluster = none ∧ getTopologyVersion (perform env op moment).2.db = .ok 1) := by
  cases op with
  | clock | getConfig | getTopologyVersion | listShards | getShardByID | getShardByUUID | getErrorShard
  | activeForBucket | staleActiveForBucket | listStaleActives | shardsForBucketRead | hasActiveInBucket
  | distinctBucketIDs | shardsNeedingSeal | countStandbyPool | shardsDraining =>
      exact Or.inl (topologyStep_refl _)
  | bootstrap config =>
      cases row : moment.db.cluster with
      | some _ =>
          refine Or.inl (commit_topology ?_)
          intro value after done
          rw [bootstrap, row] at done
          cases done
      | none =>
          refine Or.inr ⟨rfl, ?_⟩
          simp only [perform, commit, bootstrap, row, getTopologyVersion]
  | registerShard uuid role dsn advertiseURL startupState =>
      exact Or.inl (commit_topology fun _ _ done => registerShard_topology done)
  | promoteStandby bucketID => exact Or.inl (commit_topology fun _ _ done => promoteStandby_topology done)
  | sealRotate bucketID cause =>
      exact Or.inl (commit_topology fun _ _ done => rotate_topology (by decide) (fun _ => rfl) done)
  | completeDrainSeal bucketID =>
      exact Or.inl (commit_topology fun _ _ done => rotate_topology (by decide) (fun _ => rfl) done)
  | beginDrain bucketID => exact Or.inl (commit_topology fun _ _ done => requireRows_bumped done)
  | markDrainReady uuid =>
      exact Or.inl (commit_topology fun _ _ done => requireRows_hidden (fun _ => rfl) done)
  | markBucketCleaning bucketID =>
      exact Or.inl (commit_topology fun _ _ done => markBucketCleaning_topology done)
  | finishCleaning uuid => exact Or.inl (commit_topology fun _ _ done => finishCleaning_topology done)
  | patchState id newState => exact Or.inl (commit_topology fun _ _ done => patchState_topology done)
  | updateStats uuid reportedBytes =>
      exact Or.inl (commit_topology fun _ _ done => requireRows_hidden (fun _ => rfl) done)
  | setLastSeenAt uuid instant => exact Or.inl (commit_topology fun _ _ done => setLastSeenAt_topology done)

/-- The same for every step of a history. -/
theorem advance_steps {env : Env} {moment after : Moment} {act : StoreAct}
    (taken : advance env moment act = some after) :
    TopologyStep moment.db after.db ∨ (moment.db.cluster = none ∧ getTopologyVersion after.db = .ok 1) := by
  cases act with
  | perform op =>
      cases taken
      exact perform_topology env op moment
  | bumpTopologyVersion =>
      cases taken
      exact Or.inl (.advanced rfl)
  | elapse duration =>
      cases taken
      exact Or.inl (topologyStep_refl _)

theorem advance_topology {env : Env} {moment after : Moment} {act : StoreAct}
    (taken : advance env moment act = some after) (booted : moment.db.cluster ≠ none) :
    TopologyStep moment.db after.db := by
  rcases advance_steps taken with stepped | ⟨absent, _⟩
  · exact stepped
  · exact absurd absent booted

theorem advance_follows {env : Env} {moment after : Moment} {act : StoreAct}
    (taken : advance env moment act = some after) : TopologyFollows moment after := by
  intro version known
  have booted : moment.db.cluster ≠ none := by
    intro absent
    rw [getTopologyVersion, absent] at known
    cases known
  exact (advance_topology taken booted).follows version known

/-- Of any two states of a history of which the earlier one is bootstrapped, the
later one has no smaller topology version, and if it has the same one, then it
also has the same routing view. -/
theorem version_determines_routingView (env : Env) (start moment : Moment) (past : History)
    (run : Histories env start past moment) :
    (Run.states past moment).Pairwise fun later earlier => TopologyFollows earlier later :=
  Run.states_related TopologyFollows topologyFollows_trans (fun _ _ _ => advance_follows) run

/-- The history of one round, in which the version reaches 8. -/
theorem version_determines_routingView_roundTrip :
    Exists fun past => Exists fun moment => Histories sampleEnv ⟨Db.fresh, 0⟩ past moment ∧
      getTopologyVersion moment.db = .ok 8 ∧
      (Run.states past moment).Pairwise fun later earlier => TopologyFollows earlier later := by
  have passed : replayCheck (advance sampleEnv) roundTrip ⟨Db.fresh, 0⟩ (fun _ moment =>
      (getTopologyVersion moment.db).toOption == some 8) = true := by
    decide +kernel
  rcases replayCheck_run passed with ⟨past, moment, run, checked⟩
  refine ⟨past, moment, run, ?_, version_determines_routingView sampleEnv _ moment past run⟩
  cases known : getTopologyVersion moment.db with
  | error failure =>
      rw [known] at checked
      cases checked
  | ok version =>
      rw [known] at checked
      exact congrArg Except.ok (Option.some_inj.mp (beq_iff_eq.mp checked))

end Store
end Shardman
