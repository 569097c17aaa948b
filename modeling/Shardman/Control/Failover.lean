import Shardman.Control.Issued

namespace Shardman
namespace Control

open Fsm
open Bucket
open Store
open Foundation

/-!
# Heartbeat failover

A silent active shard is found by a query and rotated out by a later
transaction.  The transaction is addressed to the bucket, not to the shard that
was found, so another failover may have replaced the active shard in between.
This module follows the row that made a failover act: it stays stale as time
passes, and as long as the rotation still finds that row in place, it retires
nothing else.
-/

/-! ## What a failover does -/

/-- A rotation of the health check: its bucket and the row it was issued for. -/
structure Failover where
  bucketID : String
  stale : Shard

/-- The failover that a step performs, if it performs one. -/
def failoverOf (event : Event System Act) : Option Failover :=
  match event.state.pending event.action with
  | some (.sealRotate bucketID (.failover stale)) => some ⟨bucketID, stale⟩
  | _ => none

theorem pending_failover {event : Event System Act} {failover : Failover}
    (performs : failover ∈ failoverOf event) :
    event.state.pending event.action = some (.sealRotate failover.bucketID (.failover failover.stale)) := by
  unfold failoverOf at performs
  split at performs
  · rename_i bucketID stale pending
    cases performs
    exact pending
  · cases performs

/-- The database a failover leaves. -/
def Failover.leaves (failover : Failover) (env : Env) (moment : Moment) : Db :=
  (perform env (.sealRotate failover.bucketID (.failover failover.stale)) moment).2.db

/-- A step that is a failover finds its bucket's active shard unchanged since
it was found stale, if the bucket has one. -/
def FindsTrigger (event : Event System Act) : Prop :=
  forall failover, failover ∈ failoverOf event ->
    forall row, row ∈ event.state.store.db.shards -> InState .active failover.bucketID row ->
      row = failover.stale

/-- A step is a failover that seals the row. -/
def SealsByFailover (env : Env) (event : Event System Act) (row : Shard) : Prop :=
  row ∈ event.state.store.db.shards ∧ row.state ≠ .sealed ∧
    Exists fun failover => failover ∈ failoverOf event ∧
      Exists fun moved => moved ∈ (failover.leaves env event.state.store).shards ∧
        moved.id = row.id ∧ moved.state = .sealed

/-- A step is a failover, made for the stale row, that takes a standby. -/
def SpendsFor (env : Env) (event : Event System Act) (stale : Shard) : Prop :=
  Exists fun failover => failover ∈ failoverOf event ∧ failover.stale = stale ∧
    countStandbyPool (failover.leaves env event.state.store) < countStandbyPool event.state.store.db

instance : DecidablePred FindsTrigger := fun event =>
  inferInstanceAs (Decidable (forall failover, failover ∈ failoverOf event -> _))

instance (env : Env) (event : Event System Act) : DecidablePred (SealsByFailover env event) := fun _ =>
  inferInstanceAs (Decidable (_ ∧ _ ∧ Exists fun failover => failover ∈ failoverOf event ∧ _))

instance (env : Env) (event : Event System Act) : DecidablePred (SpendsFor env event) := fun _ =>
  inferInstanceAs (Decidable (Exists fun failover => failover ∈ failoverOf event ∧ _))

theorem sealRotate_seals {now : Time} {bucketID : String} {cause : Cause} {row moved : Shard}
    (moves : Moves now (.sealRotate bucketID cause) row moved) (unsealed : row.state ≠ .sealed)
    (isSealed : moved.state = .sealed) :
    InState .active bucketID row ∧ row.version < moved.version := by
  cases moves with
  | keep => exact absurd isSealed unsealed
  | replaceSealed pooled => cases isSealed
  | sealActive serves => exact ⟨serves, Nat.lt_succ_self _⟩

/-- A failover seals an active row of its bucket and advances its version. -/
theorem sealsByFailover_active {env : Env} {event : Event System Act} {row : Shard}
    (seals : SealsByFailover env event row) :
    Exists fun failover => Exists fun moved => failover ∈ failoverOf event ∧
      InState .active failover.bucketID row ∧
      moved ∈ (failover.leaves env event.state.store).shards ∧ moved.id = row.id ∧
      row.version < moved.version := by
  rcases seals with ⟨member, unsealed, failover, performs, moved, movedMember, sameID, isSealed⟩
  rcases perform_row movedMember with ⟨source, sourceMember, moves⟩ | ⟨_, _, _, _, _, other, _⟩
  · have sameRow : source = row := by
      apply event.state.store.db.eq_of_id sourceMember member
      rw [← moves.keys.1, sameID]
    rw [sameRow] at moves
    rcases sealRotate_seals moves unsealed isSealed with ⟨serves, advanced⟩
    exact ⟨failover, moved, performs, serves, movedMember, sameID, advanced⟩
  · cases other

/-- A rotation that takes a standby takes exactly one, and seals the active row
of its bucket. -/
theorem sealRotate_spends {env : Env} {moment : Moment} {bucketID : String} {cause : Cause}
    (spends : countStandbyPool (perform env (.sealRotate bucketID cause) moment).2.db <
      countStandbyPool moment.db) :
    (Exists fun old => Exists fun moved => old ∈ moment.db.shards ∧ InState .active bucketID old ∧
      moved ∈ (perform env (.sealRotate bucketID cause) moment).2.db.shards ∧ moved.id = old.id ∧
      moved.state = .sealed) ∧
    countStandbyPool moment.db =
      countStandbyPool (perform env (.sealRotate bucketID cause) moment).2.db + 1 := by
  rcases sealRotate_cases env moment.now bucketID moment.db with ⟨_, failed⟩ |
    ⟨old, after, member, serves, done, rest⟩
  · simp only [perform, commit, failed] at spends
    exact absurd spends (Nat.lt_irrefl _)
  · simp only [perform, commit, done] at spends ⊢
    rcases rest with ⟨empty, _⟩ | ⟨spare, found, table⟩
    · rw [countStandbyPool_empty empty] at spends
      exact absurd spends (Nat.not_lt_zero _)
    · rcases nextStandby_some found with ⟨spareMember, pooled⟩
      have occupied : ¬ Pooled old := active_not_pooled serves
      have different : spare.id ≠ old.id := pooled_id_ne spareMember pooled member occupied
      constructor
      · refine ⟨old, (Rewrite.sealRow moment.now).apply old, member, serves, ?_, rfl, rfl⟩
        rw [table]
        exact (mem_tableRotated member spareMember different).mpr (Or.inl rfl)
      · exact countStandbyPool_erase found
          (standbyPool_rotated member occupied spareMember (fun _ => rfl) table)

theorem spendsFor_seals {env : Env} {event : Event System Act} {stale : Shard}
    (finds : FindsTrigger event) (spends : SpendsFor env event stale) :
    SealsByFailover env event stale := by
  rcases spends with ⟨failover, performs, rfl, shrinks⟩
  rcases sealRotate_spends shrinks with ⟨⟨old, moved, member, serves, movedMember, sameID, isSealed⟩, _⟩
  have unsealed : old.state ≠ .sealed := by
    rw [serves.2.2]
    exact State.noConfusion
  rw [← finds failover performs old member serves]
  exact ⟨member, unsealed, failover, performs, moved, movedMember, sameID, isSealed⟩

/-! ## Versions along a run -/

theorem version_moves {now : Time} {op : Op} {row moved : Shard} (moves : Moves now op row moved) :
    row.version <= moved.version := by
  cases moves <;> first | exact Nat.le_refl _ | exact Nat.le_succ _

/-- A row that a failover sealed has a later version from then on. -/
def SealedAdvance (env : Env) (past : Trace) (system : System) : Prop :=
  forall event row, event ∈ past -> SealsByFailover env event row ->
    Exists fun current => current ∈ system.store.db.shards ∧ current.id = row.id ∧
      row.version < current.version

theorem step_sealedAdvance {env : Env} {past : Trace} {system after : System} {action : Act}
    (held : SealedAdvance env past system) (taken : (machine env).step system action = some after) :
    SealedAdvance env (⟨system, action⟩ :: past) after := by
  intro event row member seals
  rcases List.mem_cons.mp member with rfl | earlier
  · rcases sealsByFailover_active seals with ⟨failover, moved, performs, _, movedMember, sameID, advanced⟩
    have pending := pending_failover performs
    rcases step_cases taken with ⟨call, rfl, rfl⟩ | ⟨duration, rfl, rfl⟩ |
      ⟨index, call, op, next, rfl, found, issued, rfl⟩
    · cases pending
    · cases pending
    · rw [issued, Option.some_inj] at pending
      subst pending
      exact ⟨moved, movedMember, sameID, advanced⟩
  · rcases held event row earlier seals with ⟨current, currentMember, sameID, advanced⟩
    rcases step_cases taken with ⟨call, rfl, rfl⟩ | ⟨duration, rfl, rfl⟩ |
      ⟨index, call, op, next, rfl, found, issued, rfl⟩
    · exact ⟨current, currentMember, sameID, advanced⟩
    · exact ⟨current, currentMember, sameID, advanced⟩
    · rcases perform_moved env op currentMember with ⟨moved, movedMember, moves⟩
      refine ⟨moved, movedMember, moves.keys.1.trans sameID, ?_⟩
      exact Nat.lt_of_lt_of_le advanced (version_moves moves)

theorem run_sealedAdvance {env : Env} {db : Db} {now : Time} {past : Trace} {system : System}
    (run : Runs env db now past system) : SealedAdvance env past system := by
  refine Run.history (SealedAdvance env) (fun _ _ => True) ?_ ?_ run (fun _ _ => trivial)
  · intro event row absent
    cases absent
  · intro past system action after _ held _ taken
    exact step_sealedAdvance held taken

/-! ## Failovers of whole runs -/

/-- In every run in which each failover finds the active shard of its bucket
unchanged since it was found stale: failovers seal only shards that are stale
when they are sealed, each takes one standby at most, and no two of them take
one for the same shard in the same period of service. -/
theorem failover_seals_stale_once (env : Env) (db : Db) (now : Time) (past : Trace) (system : System)
    (run : Runs env db now past system) (finds : forall event, event ∈ past -> FindsTrigger event) :
    (forall event row, event ∈ past -> SealsByFailover env event row ->
      ¬ Fresh env event.state.store.now row) ∧
    (forall event failover, event ∈ past -> failover ∈ failoverOf event ->
      countStandbyPool event.state.store.db <=
        countStandbyPool (failover.leaves env event.state.store) + 1) ∧
    (forall later second between first stale again, past = later ++ second :: between ->
      first ∈ between -> SpendsFor env first stale -> SpendsFor env second again ->
      ¬ (again.id = stale.id ∧ again.version = stale.version)) := by
  refine ⟨?_, ?_, ?_⟩
  · intro event row member seals
    rcases sealsByFailover_active seals with ⟨failover, moved, performs, serves, _⟩
    rcases List.append_of_mem member with ⟨later, earlier, split⟩
    rcases Pool.pending_some (pending_failover performs) with ⟨index, call, next, _, found⟩
    rw [finds event member failover performs row seals.1 serves]
    exact run_failover_stale (run.suffix split) found
  · intro event failover member performs
    by_cases spends : countStandbyPool (failover.leaves env event.state.store) <
        countStandbyPool event.state.store.db
    · exact Nat.le_of_eq (sealRotate_spends spends).2
    · exact Nat.le_succ_of_le (Nat.not_lt.mp spends)
  · rintro later second between first stale again split member spends spendsAgain ⟨sameID, sameVersion⟩
    have secondMember := Run.mem_of_split split
    have firstMember := Run.mem_of_earlier split member
    have seals := spendsFor_seals (finds first firstMember) spends
    have sealsAgain := spendsFor_seals (finds second secondMember) spendsAgain
    rcases run_sealedAdvance (run.suffix split) first stale member seals with
      ⟨current, currentMember, currentID, advanced⟩
    have sameRow : current = again := by
      apply second.state.store.db.eq_of_id currentMember sealsAgain.1
      rw [currentID, sameID]
    rw [sameRow, sameVersion] at advanced
    exact Nat.lt_irrefl _ advanced

/-- Shards A, B and C are registered and a write promotes A, which then stays
silent for longer than the timeout. -/
def silence : List Act :=
  [.start (.registerShard 1 .data "a" "" "")] ++ resumes 0 2 ++
  [.start (.registerShard 2 .data "b" "" "")] ++ resumes 1 2 ++
  [.start (.registerShard 3 .data "c" "" "")] ++ resumes 2 2 ++
  [.start (.resolveWrite (.string "57"))] ++ resumes 3 10 ++ [.elapse (61 * 10 ^ 9)]

/-- One health tick replaces A by B. -/
theorem failover_seals_stale_once_single_tick :
    Exists fun past => Exists fun system => Runs sampleEnv (sampleDb 100) 0 past system ∧
      (Exists fun event => event ∈ past ∧ Exists fun row => SealsByFailover sampleEnv event row) ∧
      (forall event row, event ∈ past -> SealsByFailover sampleEnv event row ->
        ¬ Fresh sampleEnv event.state.store.now row) := by
  have passed : replayCheck (machine sampleEnv).step (silence ++ [.start .healthTick] ++ resumes 4 2)
      (System.idle (sampleDb 100) 0) (fun past _ =>
        decide (forall event, event ∈ past -> FindsTrigger event) &&
        decide (Exists fun event => event ∈ past ∧
          Exists fun row => row ∈ event.state.store.db.shards ∧ SealsByFailover sampleEnv event row)) =
        true := by
    decide +kernel
  rcases replayCheck_run passed with ⟨past, system, run, checked⟩
  rcases Bool.and_eq_true_iff.mp checked with ⟨finds, seals⟩
  rcases of_decide_eq_true seals with ⟨event, member, row, _, sealsRow⟩
  exact ⟨past, system, run, ⟨event, member, row, sealsRow⟩,
    (failover_seals_stale_once sampleEnv (sampleDb 100) 0 past system run (of_decide_eq_true finds)).1⟩

/-- Writes, reads, health ticks and registrations. -/
def isResolveOrHealth : Call -> Bool
  | .resolveWrite _ | .resolveRead _ | .healthTick | .registerShard .. => true
  | _ => false

/-- A health tick finds A stale; before it rotates, a write also finds A stale
and replaces it by B; then the tick seals B, which is fresh, and takes C.  Both
standbys went for A. -/
theorem failover_race_seals_fresh :
    Exists fun past => Exists fun system => Runs sampleEnv (sampleDb 100) 0 past system ∧
      startsOnly isResolveOrHealth past = true ∧
      Exists fun second => Exists fun between => past = second :: between ∧
        (Exists fun row => SealsByFailover sampleEnv second row ∧
          Fresh sampleEnv second.state.store.now row) ∧
        (Exists fun first => first ∈ between ∧ Exists fun stale =>
          SpendsFor sampleEnv first stale ∧ SpendsFor sampleEnv second stale) := by
  have passed : replayCheck (machine sampleEnv).step
      (silence ++ [.start .healthTick] ++ resumes 4 1 ++
        [.start (.resolveWrite (.string "58"))] ++ resumes 5 6 ++ resumes 4 1)
      (System.idle (sampleDb 100) 0) (fun past _ =>
        startsOnly isResolveOrHealth past &&
        match past with
        | [] => false
        | second :: between =>
            decide (Exists fun row => row ∈ second.state.store.db.shards ∧
              SealsByFailover sampleEnv second row ∧ Fresh sampleEnv second.state.store.now row) &&
            decide (Exists fun first => first ∈ between ∧ Exists fun failover =>
              failover ∈ failoverOf second ∧ SpendsFor sampleEnv first failover.stale ∧
                SpendsFor sampleEnv second failover.stale)) = true := by
    decide +kernel
  rcases replayCheck_run passed with ⟨past, system, run, checked⟩
  rcases Bool.and_eq_true_iff.mp checked with ⟨kinds, races⟩
  refine ⟨past, system, run, kinds, ?_⟩
  cases past with
  | nil => cases races
  | cons second between =>
      rcases Bool.and_eq_true_iff.mp races with ⟨sealsFresh, spendsTwice⟩
      rcases of_decide_eq_true sealsFresh with ⟨row, _, sealsRow⟩
      rcases of_decide_eq_true spendsTwice with ⟨first, member, failover, _, spends⟩
      exact ⟨second, between, rfl, ⟨row, sealsRow⟩, first, member, failover.stale, spends⟩

end Control
end Shardman
