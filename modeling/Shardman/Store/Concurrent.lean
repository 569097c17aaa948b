import Shardman.Store.Coherence
import Shardman.Store.Commits

namespace Shardman
namespace Store

open Fsm
open Foundation

/-!
# Guarantees that survive interleaving

`Shardman.Store.Topology`, `Shardman.Store.LifeCycle` and
`Shardman.Store.Coherence` speak of transactions that run one after the other.
Here the same guarantees are shown for transactions whose statements are
interleaved: for the table as it is committed at any time.

The topology version needs a cluster that is bootstrapped from the start.  A
transaction that tries to advance the version before the row of the cluster
configuration is there changes nothing, and if the bootstrap commits before it
does, its own commit goes unnoticed.
-/

/-! ## Rows and plans -/

section Plans

variable {now : Time} {tx : StoreTx} {value : TxValue} {moved : List (Shard × Rewrite)} {added : Option Shard}
variable {change : ClusterChange} {boot : Prop} {before later : Db}

/-- The transaction is a manual state change. -/
def StoreTx.isPatch : StoreTx -> Bool
  | .patchState .. => true
  | _ => false

/-- What a plan does to a row is what an operation of the store does to it. -/
theorem Plan.moves (plan : Plan now tx value moved added change) {move : Shard × Rewrite} (member : move ∈ moved) :
    Exists fun op => isPatch op = tx.isPatch ∧ Moves now op move.1 (move.2.apply move.1) := by
  cases plan with
  | bootstrap | register | idle | unseen | bump => cases member
  | @readdress role _ _ startupState =>
      cases List.mem_singleton.mp member
      exact ⟨.registerShard _ role _ _ startupState, rfl, .readdress⟩
  | promote pooled =>
      cases List.mem_singleton.mp member
      exact ⟨_, rfl, .promote pooled⟩
  | retire kind serves =>
      cases List.mem_singleton.mp member
      cases kind with
      | sealing => exact ⟨.sealRotate _ .admin, rfl, .sealActive serves⟩
      | drained => exact ⟨_, rfl, .sealDrained serves⟩
  | rotate kind serves pooled =>
      rcases List.mem_cons.mp member with rfl | second
      · cases kind with
        | sealing => exact ⟨.sealRotate _ .admin, rfl, .sealActive serves⟩
        | drained => exact ⟨_, rfl, .sealDrained serves⟩
      · cases List.mem_singleton.mp second
        cases kind with
        | sealing => exact ⟨.sealRotate _ .admin, rfl, .replaceSealed pooled⟩
        | drained => exact ⟨_, rfl, .replaceDrained pooled⟩
  | drain serves =>
      cases List.mem_singleton.mp member
      exact ⟨_, rfl, .drain serves⟩
  | ready draining =>
      cases List.mem_singleton.mp member
      exact ⟨_, rfl, .ready draining⟩
  | clean isSealed =>
      rcases List.mem_map.mp member with ⟨row, listed, rfl⟩
      exact ⟨_, rfl, .clean (isSealed row listed)⟩
  | recycle cleaning =>
      cases List.mem_singleton.mp member
      exact ⟨_, rfl, .recycle cleaning⟩
  | patch allowed =>
      cases List.mem_singleton.mp member
      exact ⟨_, rfl, .patch allowed⟩
  | stats =>
      cases List.mem_singleton.mp member
      exact ⟨_, rfl, .stats⟩
  | seen =>
      cases List.mem_singleton.mp member
      exact ⟨_, rfl, .seen⟩

/-- A row that a plan adds is a registered one. -/
theorem Plan.registered (plan : Plan now tx value moved added change) {row : Shard} (isAdded : added = some row) :
    Exists fun id => Exists fun uuid => Exists fun role => Exists fun dsn => Exists fun advertiseURL =>
      row = registeredShard id uuid role dsn advertiseURL now := by
  cases plan with
  | register =>
      cases isAdded
      exact ⟨_, _, _, _, _, rfl⟩
  | _ => cases isAdded

/-- A plan that leaves the cluster configuration alone shows in no routing
entry and adds no row. -/
theorem Plan.hidden (plan : Plan now tx value moved added .same) :
    added = none ∧ forall move, move ∈ moved -> routingEntry (move.2.apply move.1) = routingEntry move.1 := by
  generalize kept : ClusterChange.same = change at plan
  cases plan with
  | ready | stats | seen =>
      refine ⟨rfl, fun move member => ?_⟩
      cases List.mem_singleton.mp member
      rfl
  | idle | unseen => exact ⟨rfl, fun _ absent => by cases absent⟩
  | @clean _ rows =>
      refine ⟨rfl, fun move member => ?_⟩
      cases rows with
      | nil => cases member
      | cons => cases kept
  | bootstrap | register | readdress | promote | retire | rotate | drain | recycle | patch | bump => cases kept

/-- Where a committed row comes from. -/
theorem Carries.source (carries : Carries boot before later moved added change)
    (plan : Plan now tx value moved added change) {row : Shard} (present : row ∈ later.shards) :
    (Exists fun source => source ∈ before.shards ∧ Exists fun op =>
      (isPatch op = true -> tx.isPatch = true) ∧ Moves now op source row) ∨
    ((forall source, source ∈ before.shards -> source.id ≠ row.id) ∧
      Exists fun id => Exists fun uuid => Exists fun role => Exists fun dsn => Exists fun advertiseURL =>
        row = registeredShard id uuid role dsn advertiseURL now) := by
  rcases (carries.rows row).mp present with ⟨move, member, rfl⟩ | isAdded | ⟨old, _⟩
  · rcases plan.moves member with ⟨op, same, moves⟩
    exact Or.inl ⟨move.1, carries.present move member, op, fun isPatch => same ▸ isPatch, moves⟩
  · exact Or.inr ⟨carries.new row isAdded, plan.registered isAdded⟩
  · exact Or.inl ⟨row, old, .clock, (fun impossible => by cases impossible), .keep⟩

/-- What becomes of a committed row. -/
theorem Carries.moved_row (carries : Carries boot before later moved added change)
    (plan : Plan now tx value moved added change) {row : Shard} (member : row ∈ before.shards) :
    Exists fun after => after ∈ later.shards ∧ Exists fun op => Moves now op row after := by
  by_cases changes : Exists fun move => move ∈ moved ∧ move.1.id = row.id
  · rcases changes with ⟨move, listed, same⟩
    have isRow : move.1 = row := before.eq_of_id (carries.present move listed) member same
    rcases plan.moves listed with ⟨op, _, moves⟩
    rw [isRow] at moves
    refine ⟨move.2.apply row, (carries.rows _).mpr (Or.inl ⟨move, listed, ?_⟩), op, moves⟩
    rw [isRow]
  · refine ⟨row, (carries.rows row).mpr (Or.inr (Or.inr ⟨member, ?_⟩)), .clock, .keep⟩
    exact fun move listed same => changes ⟨move, listed, same⟩

/-- Rows that keep their routing entries leave the view as it is. -/
theorem Carries.view (carries : Carries boot before later moved none change)
    (hidden : forall move, move ∈ moved -> routingEntry (move.2.apply move.1) = routingEntry move.1) :
    routingView later = routingView before := by
  have ids : (later.shards.map fun row => (row.id, routingEntry row)) =
      before.shards.map fun row => (row.id, routingEntry row) := by
    refine List.Pairwise.eq_of_mem_iff (r := fun first second => first.1 < second.1) ?_ ?_ ?_
    · exact List.pairwise_map.mpr later.ordered
    · exact List.pairwise_map.mpr before.ordered
    · intro entry
      simp only [List.mem_map]
      constructor
      · rintro ⟨row, present, rfl⟩
        rcases (carries.rows row).mp present with ⟨move, member, rfl⟩ | isAdded | ⟨old, _⟩
        · refine ⟨move.1, carries.present move member, ?_⟩
          rw [move.2.id_eq, hidden move member]
        · cases isAdded
        · exact ⟨row, old, rfl⟩
      · rintro ⟨row, member, rfl⟩
        by_cases changes : Exists fun move => move ∈ moved ∧ move.1.id = row.id
        · rcases changes with ⟨move, listed, same⟩
          have isRow : move.1 = row := before.eq_of_id (carries.present move listed) member same
          refine ⟨move.2.apply move.1, (carries.rows _).mpr (Or.inl ⟨move, listed, rfl⟩), ?_⟩
          rw [move.2.id_eq, hidden move listed, isRow]
        · refine ⟨row, (carries.rows row).mpr (Or.inr (Or.inr ⟨member, ?_⟩)), rfl⟩
          exact fun move listed same => changes ⟨move, listed, same⟩
  have entries := congrArg (List.map Prod.snd) ids
  rw [List.map_map, List.map_map] at entries
  exact entries

end Plans

/-! ## Runs -/

section Runs

variable {env : Env} {start : Db} {now : Time} {past : List (Event DbServer DbServerAction)} {server after : DbServer}

/-- What a committed state is, seen from a later one: the version has not fallen,
and if it is the same, so is the routing view. -/
def CommittedFollows (earlier later : DbServer) : Prop :=
  forall cluster, earlier.committed.single = some cluster ->
    Exists fun next => later.committed.single = some next ∧ cluster.topologyVersion <= next.topologyVersion ∧
      (cluster.topologyVersion = next.topologyVersion ->
        later.committed.table.map routingEntry = earlier.committed.table.map routingEntry)

theorem committedFollows_trans (first second third : DbServer) (earlier : CommittedFollows first second)
    (later : CommittedFollows second third) : CommittedFollows first third := by
  intro cluster known
  rcases earlier cluster known with ⟨middle, middleKnown, rises, sameView⟩
  rcases later middle middleKnown with ⟨last, lastKnown, risesAgain, sameAgain⟩
  refine ⟨last, lastKnown, Nat.le_trans rises risesAgain, ?_⟩
  intro same
  have still : cluster.topologyVersion = middle.topologyVersion := by omega
  have stillThen : middle.topologyVersion = last.topologyVersion := by omega
  rw [sameAgain stillThen, sameView still]

theorem step_committedFollows (booted : start.cluster ≠ none) (run : DbServerRun env (start.serve now) past server)
    {action : DbServerAction}
    (taken : server.step (fun tx now => StoreTx.body env now tx) action = some after) :
    CommittedFollows server after := by
  have meeting := run_follows_plans run
  rcases committed_represented meeting.sound with ⟨before, old⟩
  rcases committed_represented (Engine.step_sound meeting.sound taken) with ⟨later, new⟩
  intro cluster known
  have beforeKnown : before.cluster = some cluster := old.cluster.trans known
  rw [← new.cluster, ← new.shards, ← old.shards]
  rcases step_carries meeting taken old new with ⟨table, single⟩ |
    ⟨index, tx, started, value, held, moved, added, change, _, _, plan, carries⟩
  · exact ⟨cluster, single.trans beforeKnown, Nat.le_refl _, fun _ => by rw [table]⟩
  · have moves := carries.cluster
    cases change with
    | same =>
        rcases plan.hidden with ⟨rfl, hidden⟩
        exact ⟨cluster, moves.trans beforeKnown, Nat.le_refl _, fun _ => carries.view hidden⟩
    | bumped =>
        rcases moves with bumped | ⟨unbooted, _⟩
        · refine ⟨StoreTx.bumpRow cluster, ?_, Nat.le_succ _,
            fun same => absurd same (Nat.ne_of_lt (Nat.lt_succ_self _))⟩
          rw [bumped, beforeKnown]
          rfl
        · exact absurd booted unbooted
    | created config =>
        rw [beforeKnown] at moves
        cases moves.1

/-- In a cluster that is bootstrapped, whatever transactions run side by side and
however their statements are interleaved, the committed topology version never
falls, and two committed states with the same version have the same routing
view. -/
theorem interleaved_version_determines_view (booted : start.cluster ≠ none)
    (run : DbServerRun env (start.serve now) past server) :
    (Run.states past server).Pairwise fun later earlier => CommittedFollows earlier later :=
  Run.reached_related CommittedFollows committedFollows_trans
    (fun _ _ _ _ reached taken => step_committedFollows booted reached taken) run

/-- The rotation of a bucket and the promotion of another one, interleaved. -/
def rotationAndPromotion : List DbServerAction :=
  List.flatten [[.start (.sealRotate "n5"), .start (.promoteStandby "n6"), .resume 0, .resume 1],
    List.replicate 5 (.resume 0), [.resume 1, .close 1], List.replicate 3 (.resume 0), [.close 0]]

theorem interleaved_version_determines_view_rotation : Exists fun past => Exists fun server : DbServer =>
    DbServerRun sampleEnv (servingMoment.db.serve 0) past server ∧
      server.committed.single.map ClusterRow.topologyVersion = some 5 ∧
      (Run.states past server).Pairwise fun later earlier => CommittedFollows earlier later := by
  have passed : replayCheck (fun (server : DbServer) action =>
      server.step (fun tx now => StoreTx.body sampleEnv now tx) action) rotationAndPromotion
      (servingMoment.db.serve 0)
      (fun _ server => server.committed.single.map ClusterRow.topologyVersion == some 5) = true := by
    decide +kernel
  have booted : servingMoment.db.cluster.isSome = true := by decide +kernel
  rcases replayCheck_run passed with ⟨past, server, run, five⟩
  exact ⟨past, server, run, beq_iff_eq.mp five,
    interleaved_version_determines_view (Option.isSome_iff_ne_none.mp booted) run⟩

/-- A registration and a bootstrap, interleaved. -/
def registrationAroundBootstrap : List DbServerAction :=
  List.flatten [[.start (.registerShard 1 .data "a" "" "")], List.replicate 3 (.resume 0),
    [.start (.bootstrap (sampleConfig 100)), .resume 1, .resume 1, .close 1, .close 0]]

/-- In a cluster that is not bootstrapped, a registration that began before the
bootstrap commits after it: the routing view changes and the version stays at
1. -/
theorem early_registration_keeps_version : Exists fun past => Exists fun server : DbServer =>
    DbServerRun sampleEnv (Db.fresh.serve 0) past server ∧
      ¬ (Run.states past server).Pairwise fun later earlier => CommittedFollows earlier later := by
  have passed : replayCheck (fun (server : DbServer) action =>
      server.step (fun tx now => StoreTx.body sampleEnv now tx) action) registrationAroundBootstrap (Db.fresh.serve 0)
      (fun past server => past.any fun event =>
        event.state.committed.single.map ClusterRow.topologyVersion == some 1 &&
          (server.committed.single.map ClusterRow.topologyVersion == some 1 &&
            event.state.committed.table.length != server.committed.table.length)) = true := by
    decide +kernel
  rcases replayCheck_run passed with ⟨past, server, run, checked⟩
  rcases List.any_eq_true.mp checked with ⟨event, member, same⟩
  rcases Bool.and_eq_true_iff.mp same with ⟨earlierOne, rest⟩
  rcases Bool.and_eq_true_iff.mp rest with ⟨laterOne, lengths⟩
  refine ⟨past, server, run, fun follows => ?_⟩
  rcases Option.map_eq_some_iff.mp (beq_iff_eq.mp earlierOne) with ⟨cluster, known, one⟩
  rcases (List.pairwise_cons.mp follows).1 event.state (List.mem_map_of_mem member) cluster known with
    ⟨next, nextKnown, _, sameView⟩
  rw [nextKnown, Option.map_some, beq_iff_eq, Option.some_inj] at laterOne
  have views := congrArg List.length (sameView (one.trans laterOne.symm))
  rw [List.length_map, List.length_map] at views
  exact absurd views.symm (bne_iff_ne.mp lengths)

/-- How a bucket can change at a commit: a row of the standby pool enters one, and
a row in cleaning leaves its own. -/
def BucketKept (row moved : Shard) : Prop :=
  moved.bucketID = row.bucketID ∨ (Pooled row ∧ moved.state = .active) ∨
    (row.state = .cleaning ∧ moved.bucketID = none)

theorem Moves.bucketKept {started : Time} {op : Op} {row moved : Shard} (moves : Moves started op row moved) :
    BucketKept row moved := by
  cases moves with
  | keep | sealActive | sealDrained | drain | ready | clean | patch | stats | seen | readdress => exact Or.inl rfl
  | promote pooled | replaceSealed pooled | replaceDrained pooled => exact Or.inr (Or.inl ⟨pooled, rfl⟩)
  | recycle cleaning => exact Or.inr (Or.inr ⟨cleaning, rfl⟩)

/-- In every interleaving, each step of the server leaves a committed data row in
its state or moves it along one edge of the state machine, changes its bucket
only on the way out of the standby pool or out of cleaning, and commits new data
rows only as standbys without a bucket. -/
theorem commits_follow_state_machine (run : DbServerRun env (start.serve now) past server) {action : DbServerAction}
    (taken : server.step (fun tx now => StoreTx.body env now tx) action = some after) :
    (forall row, row ∈ server.committed.table -> row.role = .data ->
      Exists fun moved => moved ∈ after.committed.table ∧ moved.id = row.id ∧ moved.role = .data ∧
        (moved.state = row.state ∨ canTransition .data row.state moved.state = true) ∧ BucketKept row moved) ∧
    (forall row, row ∈ after.committed.table -> row.role = .data ->
      (forall source, source ∈ server.committed.table -> source.id ≠ row.id) ->
        row.state = .standby ∧ row.bucketID = none) := by
  have meeting := run_follows_plans run
  rcases committed_represented meeting.sound with ⟨before, old⟩
  rcases committed_represented (Engine.step_sound meeting.sound taken) with ⟨later, new⟩
  rw [← new.shards, ← old.shards]
  rcases step_carries meeting taken old new with ⟨table, _⟩ |
    ⟨index, tx, started, value, held, moved, added, change, _, _, plan, carries⟩
  · rw [table]
    refine ⟨fun row member data => ⟨row, member, rfl, data, Or.inl rfl, Or.inl rfl⟩, ?_⟩
    intro row present _ fresh
    exact absurd rfl (fresh row present)
  · refine ⟨?_, ?_⟩
    · intro row member data
      rcases carries.moved_row plan member with ⟨moved, present, op, moves⟩
      rcases moves.keys with ⟨sameID, _, sameRole⟩
      exact ⟨moved, present, sameID, sameRole.trans data, moves.edge data, moves.bucketKept⟩
    · intro row present data fresh
      rcases carries.source plan present with ⟨source, member, op, _, moves⟩ |
        ⟨_, id, uuid, role, dsn, advertiseURL, rfl⟩
      · exact absurd moves.keys.1.symm (fresh source member)
      · have isData : role ≠ .error := by
          intro isError
          rw [isError] at data
          cases data
        exact ⟨if_neg isData, rfl⟩

theorem commits_follow_state_machine_promotions : Exists fun past => Exists fun server : DbServer =>
    Exists fun after : DbServer => DbServerRun sampleEnv (Db.fresh.serve 0) past server ∧
      server.step (fun tx now => StoreTx.body sampleEnv now tx) (.close 4) = some after ∧
      (forall row, row ∈ server.committed.table -> row.role = .data ->
        Exists fun moved => moved ∈ after.committed.table ∧ moved.id = row.id ∧ moved.role = .data ∧
          (moved.state = row.state ∨ canTransition .data row.state moved.state = true) ∧ BucketKept row moved) ∧
      (forall row, row ∈ after.committed.table -> row.role = .data ->
        (forall source, source ∈ server.committed.table -> source.id ≠ row.id) ->
          row.state = .standby ∧ row.bucketID = none) := by
  have passed : replayCheck (fun (server : DbServer) action =>
      server.step (fun tx now => StoreTx.body sampleEnv now tx) action) twoPromotions (Db.fresh.serve 0)
      (fun _ server => (server.step (fun tx now => StoreTx.body sampleEnv now tx) (.close 4)).isSome) = true := by
    decide +kernel
  rcases replayCheck_run passed with ⟨past, server, run, ends⟩
  rcases Option.isSome_iff_exists.mp ends with ⟨after, taken⟩
  exact ⟨past, server, after, run, taken, commits_follow_state_machine run taken⟩

/-- The step commits a manual state change. -/
def commitsPatch (server : DbServer) : DbServerAction -> Bool
  | .close index => (server.sessions[index]?).any fun session => session.entry.isPatch
  | _ => false

/-- In every interleaving in which no manual state change is committed, the
columns of every committed data row agree with its state. -/
theorem committed_rows_stay_coherent (kept : forall row, row ∈ start.shards -> WellKept row)
    (run : DbServerRun env (start.serve now) past server)
    (automatic : forall event, event ∈ past -> commitsPatch event.state event.action = false) :
    forall row, row ∈ server.committed.table -> row.role = .data -> Coherent row ∧ ReadyWhileDraining row := by
  refine Run.history (fun _ server => forall row, row ∈ server.committed.table -> WellKept row)
    (fun server action => commitsPatch server action = false) kept ?_ run automatic
  intro past server action after reached wellKept automatic taken row present
  have meeting := run_follows_plans reached
  rcases committed_represented meeting.sound with ⟨before, old⟩
  rcases committed_represented (Engine.step_sound meeting.sound taken) with ⟨later, new⟩
  rw [← new.shards] at present
  rw [← old.shards] at wellKept
  rcases step_carries meeting taken old new with ⟨table, _⟩ |
    ⟨index, tx, started, value, held, moved, added, change, closes, found, plan, carries⟩
  · rw [table] at present
    exact wellKept row present
  · rcases carries.source plan present with ⟨source, member, op, patches, moves⟩ |
      ⟨_, id, uuid, role, dsn, advertiseURL, rfl⟩
    · have unpatched : isPatch op = false := by
        simp only [closes, commitsPatch, found, Option.any_some] at automatic
        exact Bool.eq_false_iff.mpr fun isPatch => absurd (patches isPatch) (Bool.eq_false_iff.mp automatic)
      exact wellKept_moves moves unpatched (wellKept source member)
    · exact wellKept_registered id uuid role dsn advertiseURL started

theorem committed_rows_stay_coherent_promotions : Exists fun past => Exists fun server : DbServer =>
    DbServerRun sampleEnv (Db.fresh.serve 0) past server ∧ server.committed.table.length = 2 ∧
      forall row, row ∈ server.committed.table -> row.role = .data -> Coherent row ∧ ReadyWhileDraining row := by
  have passed : replayCheck (fun (server : DbServer) action =>
      server.step (fun tx now => StoreTx.body sampleEnv now tx) action) twoPromotions (Db.fresh.serve 0)
      (fun past server => past.all (fun event => !commitsPatch event.state event.action) &&
        server.committed.table.length == 2) = true := by
    decide +kernel
  rcases replayCheck_run passed with ⟨past, server, run, checked⟩
  rcases Bool.and_eq_true_iff.mp checked with ⟨automatic, two⟩
  refine ⟨past, server, run, beq_iff_eq.mp two,
    committed_rows_stay_coherent (fun _ absent => absurd absent List.not_mem_nil) run ?_⟩
  intro event member
  exact (Bool.not_eq_true' _).mp (List.all_eq_true.mp automatic event member)

end Runs

end Store
end Shardman
