import Shardman.Control.Eviction
import Shardman.Control.ReadSet

namespace Shardman
namespace Control

open Fsm
open Bucket
open Store
open Foundation

/-!
# A retention tick that runs alone

A tick of the retention supervisor lists the buckets, picks the ones outside the
window, and for each of them asks whether a shard is in service before it sends
the sealed shards to cleaning.  Run alone, all of this comes to one update of
the table.  The update selects the sealed shards of the buckets that are outside
the window and have no shard in service, and a second one finds nothing to do.
-/

/-! ## The shards that a loop over buckets cleans -/

/-- A sealed data row of a chosen bucket without a shard in service. -/
def cleansWhere (db : Db) (chosen : String -> Bool) (row : Shard) : Bool :=
  decide (row.role = .data ∧ row.state = .sealed) &&
    row.bucketID.any fun bucketID => chosen bucketID && !hasActiveInBucket db bucketID

theorem cleansWhere_iff {db : Db} {chosen : String -> Bool} {row : Shard} :
    cleansWhere db chosen row = true ↔
      (row.role = .data ∧ row.state = .sealed) ∧ Exists fun bucketID => row.bucketID = some bucketID ∧
        chosen bucketID = true ∧ ¬ Exists fun other => other ∈ db.shards ∧ Live bucketID other := by
  simp only [cleansWhere, Bool.and_eq_true, decide_eq_true_iff, Option.any_eq_true, Bool.not_eq_true',
    ← Bool.not_eq_true, hasActiveInBucket_iff]

theorem cleansWhere_or (db : Db) (first second : String -> Bool) (row : Shard) :
    cleansWhere db (fun bucketID => first bucketID || second bucketID) row =
      (cleansWhere db first row || cleansWhere db second row) := by
  unfold cleansWhere
  cases row.bucketID with
  | none => simp only [Option.any_none, Bool.and_false, Bool.or_false]
  | some bucketID => simp only [Option.any_some, ← Bool.and_or_distrib_left, ← Bool.and_or_distrib_right]

/-- A row that is being cleaned is not cleaned again. -/
theorem cleansWhere_cleaned (db : Db) (chosen : String -> Bool) (row : Shard) :
    cleansWhere db chosen (Rewrite.clean.apply row) = false := by
  have notSealed : ¬ ((Rewrite.clean.apply row).role = .data ∧ (Rewrite.clean.apply row).state = .sealed) :=
    fun claimed => nomatch claimed.2
  rw [cleansWhere, decide_eq_false notSealed, Bool.false_and]

/-- One update of the table: exactly the rows of the chosen buckets are sent to
cleaning, and the version advances exactly when there are any. -/
structure Cleaned (chosen : String -> Bool) (before after : Db) : Prop where
  table : after.shards = before.shards.map (Rewrite.clean.only (cleansWhere before chosen)).apply
  nextID : after.nextID = before.nextID
  cluster : Exists fun steps =>
    after.cluster = before.cluster.map (fun row => { row with topologyVersion := row.topologyVersion + steps }) ∧
      (steps = 0 ↔ forall row, row ∈ before.shards -> cleansWhere before chosen row = false)

section Cleaned

variable {chosen first second : String -> Bool} {before middle after : Db}

theorem only_of_false {condition : Shard -> Bool} {change : Rewrite} {row : Shard}
    (unselected : condition row = false) : (change.only condition).apply row = row := by
  rw [only_apply, unselected]
  rfl

/-- Where no row is selected, nothing has to happen. -/
theorem Cleaned.refl (none : forall row, row ∈ before.shards -> cleansWhere before chosen row = false) :
    Cleaned chosen before before := by
  refine ⟨?_, rfl, 0, ?_, iff_of_true rfl none⟩
  · symm
    refine (List.map_congr_left ?_).trans (List.map_id _)
    intro row member
    exact only_of_false (none row member)
  · cases before.cluster <;> rfl

theorem Cleaned.congr (same : forall row, row ∈ before.shards ->
      cleansWhere before first row = cleansWhere before second row)
    (cleaned : Cleaned first before after) : Cleaned second before after := by
  rcases cleaned.cluster with ⟨steps, advanced, idle⟩
  refine ⟨?_, cleaned.nextID, steps, advanced, ?_⟩
  · rw [cleaned.table]
    apply List.map_congr_left
    intro row member
    rw [only_apply, only_apply, same row member]
  · rw [idle]
    constructor
    · intro none row member
      rw [← same row member]
      exact none row member
    · intro none row member
      rw [same row member]
      exact none row member

/-- Cleaning neither puts a shard into service nor takes one out. -/
theorem Cleaned.hasActiveInBucket (cleaned : Cleaned chosen before after) (bucketID : String) :
    hasActiveInBucket after bucketID = hasActiveInBucket before bucketID := by
  have kept : forall row, Live bucketID
      ((Rewrite.clean.only (cleansWhere before chosen)).apply row) ↔ Live bucketID row := by
    intro row
    rw [only_apply]
    split
    · rename_i selected
      have isSealed := (cleansWhere_iff.mp selected).1.2
      constructor
      · rintro ⟨_, _, state⟩
        rcases state with state | state <;> cases state
      · rintro ⟨_, _, state⟩
        rw [isSealed] at state
        rcases state with state | state <;> cases state
    · exact Iff.rfl
  rw [Bool.eq_iff_iff, hasActiveInBucket_iff, hasActiveInBucket_iff, cleaned.table]
  constructor
  · rintro ⟨row, member, live⟩
    rcases List.mem_map.mp member with ⟨source, present, rfl⟩
    exact ⟨source, present, (kept source).mp live⟩
  · rintro ⟨row, member, live⟩
    exact ⟨_, List.mem_map.mpr ⟨row, member, rfl⟩, (kept row).mpr live⟩

theorem Cleaned.cleansWhere_eq (cleaned : Cleaned first before after) (row : Shard) :
    cleansWhere after second row = cleansWhere before second row := by
  simp only [cleansWhere, cleaned.hasActiveInBucket]

/-- Two rounds of cleaning are one. -/
theorem Cleaned.trans (earlier : Cleaned first before middle) (later : Cleaned second middle after) :
    Cleaned (fun bucketID => first bucketID || second bucketID) before after := by
  rcases earlier.cluster with ⟨steps, advanced, idle⟩
  rcases later.cluster with ⟨more, advancedMore, idleMore⟩
  refine ⟨?_, later.nextID.trans earlier.nextID, steps + more, ?_, ?_⟩
  · rw [later.table, earlier.table, List.map_map]
    apply List.map_congr_left
    intro row _
    rw [Function.comp_apply, only_apply, only_apply, only_apply, cleansWhere_or]
    cases selected : cleansWhere before first row with
    | true =>
        simp only [if_true, Bool.true_or]
        rw [if_neg]
        rw [cleansWhere_cleaned]
        exact Bool.false_ne_true
    | false => simp only [Bool.false_eq_true, if_false, Bool.false_or, earlier.cleansWhere_eq]
  · rw [advancedMore, advanced, Option.map_map]
    congr 1
    funext row
    simp only [Function.comp_apply, Nat.add_assoc]
  · rw [Nat.add_eq_zero_iff, idle, idleMore]
    simp only [cleansWhere_or, Bool.or_eq_false_iff]
    constructor
    · rintro ⟨none, noneLater⟩ row member
      refine ⟨none row member, ?_⟩
      have kept : row ∈ middle.shards := by
        rw [earlier.table]
        exact List.mem_map.mpr ⟨row, member, only_of_false (none row member)⟩
      rw [← earlier.cleansWhere_eq]
      exact noneLater row kept
    · intro none
      refine ⟨fun row member => (none row member).1, ?_⟩
      intro row member
      rw [earlier.table] at member
      rcases List.mem_map.mp member with ⟨source, present, rfl⟩
      rw [only_of_false (none source present).1, earlier.cleansWhere_eq]
      exact (none source present).2

/-- In a bucket without a shard in service, the transaction selects what is to be
cleaned. -/
theorem cleansWhere_single {bucketID : String} (idle : hasActiveInBucket before bucketID = false) :
    (fun row => decide (InState .sealed bucketID row)) =
      cleansWhere before fun other => decide (other = bucketID) := by
  funext row
  rw [Bool.eq_iff_iff, decide_eq_true_iff, cleansWhere_iff]
  constructor
  · rintro ⟨isData, named, isSealed⟩
    refine ⟨⟨isData, isSealed⟩, bucketID, named, decide_eq_true rfl, ?_⟩
    rw [← hasActiveInBucket_iff, idle]
    exact Bool.false_ne_true
  · rintro ⟨⟨isData, isSealed⟩, other, named, same, _⟩
    rw [of_decide_eq_true same] at named
    exact ⟨isData, named, isSealed⟩

/-- The transaction that cleans one bucket, where no shard is in service. -/
theorem markBucketCleaning_cleaned {bucketID : String}
    (idle : hasActiveInBucket before bucketID = false) :
    Exists fun affected => Exists fun after => markBucketCleaning bucketID before = .ok (affected, after) ∧
      Cleaned (fun other => decide (other = bucketID)) before after := by
  have counted : (before.shards.filter fun row => decide (InState .sealed bucketID row)).length = 0 ↔
      forall row, row ∈ before.shards ->
        cleansWhere before (fun other => decide (other = bucketID)) row = false := by
    rw [cleansWhere_single idle, List.length_eq_zero_iff, List.filter_eq_nil_iff]
    simp only [Bool.not_eq_true]
  rcases updateWhere_unindexing before (fun row => decide (InState .sealed bucketID row)) .clean
    (fun row _ _ => Or.inr (if_neg fun active => nomatch active.2)) with ⟨marked, outcome⟩
  rcases updateWhere_ok outcome with ⟨_, table, nextID, cluster⟩
  rw [cleansWhere_single idle] at table
  refine ⟨_, _, by rw [markBucketCleaning, outcome], ?_⟩
  by_cases any : 0 < (before.shards.filter fun row => decide (InState .sealed bucketID row)).length
  · rw [if_pos any]
    refine ⟨table, nextID, 1, ?_, ?_⟩
    · change marked.cluster.map _ = _
      rw [cluster]
    · rw [← counted]
      omega
  · rw [if_neg any]
    refine ⟨table, nextID, 0, ?_, ?_⟩
    · rw [cluster]
      cases before.cluster <;> rfl
    · rw [← counted]
      omega

/-- After a round of cleaning nothing is left to clean. -/
theorem Cleaned.exhausted (cleaned : Cleaned chosen before after) {row : Shard} (member : row ∈ after.shards) :
    cleansWhere after chosen row = false := by
  rw [cleaned.table] at member
  rcases List.mem_map.mp member with ⟨source, _, rfl⟩
  rw [cleaned.cleansWhere_eq]
  cases selected : cleansWhere before chosen source with
  | true =>
      rw [only_apply, if_pos selected]
      exact cleansWhere_cleaned before chosen source
  | false =>
      rw [only_of_false selected]
      exact selected

/-- A round that finds nothing leaves the database as it is. -/
theorem Cleaned.eq_of_none (cleaned : Cleaned chosen before after)
    (none : forall row, row ∈ before.shards -> cleansWhere before chosen row = false) : after = before := by
  rcases cleaned.cluster with ⟨steps, advanced, idle⟩
  have unchanged := Cleaned.refl none
  refine Db.eq_of_contents ?_ cleaned.nextID ?_
  · rw [cleaned.table, ← unchanged.table]
  · rw [advanced, idle.mpr none]
    cases before.cluster <;> rfl

/-- The table changes exactly when a row is selected. -/
theorem Cleaned.changed_iff (cleaned : Cleaned chosen before after) :
    after.shards ≠ before.shards ↔
      Exists fun row => row ∈ before.shards ∧ cleansWhere before chosen row = true := by
  constructor
  · intro changed
    by_contra none
    apply changed
    rw [cleaned.eq_of_none fun row member => Bool.eq_false_iff.mpr fun selected => none ⟨row, member, selected⟩]
  · rintro ⟨row, member, selected⟩ same
    rw [cleaned.table] at same
    have kept := List.map_inj_left.mp (same.trans (List.map_id _).symm) row member
    rw [only_apply, if_pos selected] at kept
    exact absurd (congrArg Shard.version kept) (Nat.succ_ne_self row.version)

theorem Cleaned.getConfig (cleaned : Cleaned chosen before after) : getConfig after = getConfig before := by
  rcases cleaned.cluster with ⟨steps, advanced, _⟩
  rw [Store.getConfig, Store.getConfig, advanced]
  cases before.cluster <;> rfl

end Cleaned

theorem decide_mem_cons (bucketID : String) (rest : List String) :
    (fun other => decide (other ∈ bucketID :: rest)) =
      fun other => decide (other = bucketID) || decide (other ∈ rest) := by
  funext other
  simp only [List.mem_cons, Bool.decide_or]

/-- The loop over buckets cleans the rows of all of them in which no shard is in
service. -/
theorem run_cleanBuckets (env : Env) (buckets : List String) (moment : Moment) :
    Exists fun after => runAlone env (cleanBuckets buckets) moment = ((), ⟨after, moment.now⟩) ∧
      Cleaned (fun bucketID => decide (bucketID ∈ buckets)) moment.db after := by
  induction buckets generalizing moment with
  | nil =>
      refine ⟨moment.db, rfl, Cleaned.refl ?_⟩
      intro row _
      rw [← Bool.not_eq_true, cleansWhere_iff]
      rintro ⟨_, bucketID, _, absent, _⟩
      exact absurd (of_decide_eq_true absent) List.not_mem_nil
  | cons bucketID rest inductionHypothesis =>
      rw [decide_mem_cons]
      cases serving : hasActiveInBucket moment.db bucketID with
      | true =>
          rcases inductionHypothesis moment with ⟨after, ran, cleaned⟩
          refine ⟨after, ?_, cleaned.congr ?_⟩
          · rw [runAlone] at ran
            simp only [runAlone, cleanBuckets, Program.ask_bind, Program.run_request, perform, serving, if_true, ran]
          · intro row _
            have skipped : cleansWhere moment.db (fun other => decide (other = bucketID)) row = false := by
              rw [← Bool.not_eq_true, cleansWhere_iff]
              rintro ⟨_, other, _, same, unserved⟩
              rw [of_decide_eq_true same] at unserved
              exact unserved (hasActiveInBucket_iff.mp serving)
            rw [cleansWhere_or, skipped, Bool.false_or]
      | false =>
          rcases markBucketCleaning_cleaned serving with ⟨affected, marked, outcome, cleaned⟩
          rcases inductionHypothesis ⟨marked, moment.now⟩ with ⟨after, ran, others⟩
          refine ⟨after, ?_, cleaned.trans others⟩
          rw [runAlone] at ran
          simp only [runAlone, cleanBuckets, Program.ask_bind, Program.run_request, perform, serving,
            Bool.false_eq_true, if_false, commit, outcome, ran]

/-! ## The window -/

/-- Retention empties the bucket at this instant. -/
def outsideRetention (config : ClusterConfig) (now : Time) (bucketID : String) : Bool :=
  match config.retentionDepth with
  | some depth => decide (bucketsOutsideRetention config.bucketSpec now depth [bucketID] = some [bucketID])
  | none => false

/-- Buckets are selected one by one. -/
theorem bucketsOutsideRetention_each (spec : Spec) (now depth : Int) (known : List String) :
    (bucketsOutsideRetention spec now depth known = none ∧
      forall bucketID, bucketsOutsideRetention spec now depth [bucketID] = none) ∨
    (Exists fun evict => bucketsOutsideRetention spec now depth known = some evict ∧
      forall bucketID, bucketID ∈ evict ↔
        bucketID ∈ known ∧ bucketsOutsideRetention spec now depth [bucketID] = some [bucketID]) := by
  cases spec with
  | time unit =>
      simp only [bucketsOutsideRetention, Spec.currentID]
      cases (Spec.time unit).index (timeID unit now) with
      | none => exact Or.inl ⟨rfl, fun _ => rfl⟩
      | some currentIdx =>
          refine Or.inr ⟨_, rfl, ?_⟩
          intro bucketID
          simp only [List.mem_filter, Option.some_inj, List.filter_singleton]
          cases outsideWindow (Spec.time unit) (oldestIndex currentIdx depth) bucketID <;> simp
  | numeric width positive fits =>
      refine Or.inr ⟨[], rfl, ?_⟩
      intro bucketID
      simp [bucketsOutsideRetention]
  | hash bucketCount positive fits =>
      refine Or.inr ⟨[], rfl, ?_⟩
      intro bucketID
      simp [bucketsOutsideRetention]

/-- In the years 0..9999 the buckets outside are those whose index lies before the
oldest one that the depth keeps. -/
theorem outsideRetention_iff {config : ClusterConfig} {unit : TimeUnit} {now : Time} {depth : Int}
    (spec : config.bucketSpec = .time unit) (deep : config.retentionDepth = some depth)
    (years : TimeLayout.FourDigitYear now) (bucketID : String) :
    outsideRetention config now bucketID = true ↔
      Exists fun index => unit.index bucketID = some index ∧ index < unit.position now - depth + 1 := by
  have bounds := position_bounds unit years
  have small := config.depthFits depth deep
  have oldest : oldestIndex (unit.position now) depth = unit.position now - depth + 1 := by
    unfold oldestIndex Binary64.wrap64
    omega
  have reserved := index_reserved unit
  simp only [outsideRetention, deep, spec, bucketsOutsideRetention_time unit years, decide_eq_true_iff,
    Option.some_inj, List.filter_singleton, oldest]
  cases found : unit.index bucketID with
  | none =>
      have inside : outsideWindow (.time unit) (unit.position now - depth + 1) bucketID = false := by
        simp only [outsideWindow, Spec.index_time, found, ite_self]
      simp [inside]
  | some index =>
      have outside := outsideWindow_iff (unit.position now - depth + 1) found
      have unreserved : bucketID ≠ "" ∧ bucketID ≠ errorBucketID := by
        constructor <;> rintro rfl
        · rw [reserved.1] at found
          cases found
        · rw [reserved.2] at found
          cases found
      simp only [unreserved, ne_eq, not_false_eq_true, and_self, true_and] at outside
      cases window : outsideWindow (.time unit) (unit.position now - depth + 1) bucketID with
      | true =>
          rw [window] at outside
          simpa using outside
      | false =>
          rw [window] at outside
          simpa using outside

theorem mem_distinctBucketIDs {env : Env} {db : Db} {bucketID : String} :
    bucketID ∈ distinctBucketIDs env db ↔
      Exists fun row => row ∈ db.shards ∧ row.role = .data ∧ row.bucketID = some bucketID := by
  rw [distinctBucketIDs, List.mem_dedup, List.mem_filterMap]
  constructor
  · rintro ⟨row, member, named⟩
    rcases mem_scan.mp member with ⟨present, isData, _⟩
    exact ⟨row, present, isData, named⟩
  · rintro ⟨row, present, isData, named⟩
    refine ⟨row, mem_scan.mpr ⟨present, isData, ?_⟩, named⟩
    rw [named]
    exact Option.some_ne_none _

/-! ## The tick -/

/-- A tick on the time axis is one update: it cleans the sealed rows of the buckets
outside the window in which no shard is in service. -/
theorem run_retentionTick (env : Env) (moment : Moment) {config : ClusterConfig}
    (loaded : getConfig moment.db = .ok config) (timed : config.bucketAxis = .time) :
    Exists fun after => (runAlone env retentionTick moment).2 = ⟨after, moment.now⟩ ∧
      Cleaned (outsideRetention config moment.now) moment.db after := by
  have idle : (forall bucketID, outsideRetention config moment.now bucketID = false) ->
      Cleaned (outsideRetention config moment.now) moment.db moment.db := by
    intro inside
    refine Cleaned.refl fun row _ => ?_
    rw [← Bool.not_eq_true, cleansWhere_iff]
    rintro ⟨_, bucketID, _, outside, _⟩
    rw [inside bucketID] at outside
    cases outside
  cases deep : config.retentionDepth with
  | none =>
      refine ⟨moment.db, ?_, idle fun _ => by simp only [outsideRetention, deep]⟩
      simp only [runAlone, retentionTick, Program.ask_bind, Program.run_request, perform, loaded, timed, deep,
        Program.pure_eq_finish, Program.run_finish]
  | some depth =>
      rcases bucketsOutsideRetention_each config.bucketSpec moment.now depth (distinctBucketIDs env moment.db) with
        ⟨undefined, nowhere⟩ | ⟨evict, selected, members⟩
      · refine ⟨moment.db, ?_, idle fun _ => ?_⟩
        · simp only [runAlone, retentionTick, Program.ask_bind, Program.run_request, perform, loaded, timed,
            deep, undefined, Program.pure_eq_finish, Program.run_finish]
        · simp only [outsideRetention, deep, nowhere, reduceCtorEq, decide_false]
      · rcases run_cleanBuckets env evict moment with ⟨after, ran, cleaned⟩
        refine ⟨after, ?_, cleaned.congr ?_⟩
        · rw [runAlone] at ran
          simp only [runAlone, retentionTick, Program.ask_bind, Program.run_request, perform, loaded, timed,
            deep, selected, Program.run_bind, ran, Program.pure_eq_finish, Program.run_finish]
        · intro row member
          rw [Bool.eq_iff_iff, cleansWhere_iff, cleansWhere_iff]
          refine and_congr_right fun kind => exists_congr fun bucketID => and_congr_right fun named => ?_
          have listed : bucketID ∈ distinctBucketIDs env moment.db :=
            mem_distinctBucketIDs.mpr ⟨row, member, kind.1, named⟩
          simp only [outsideRetention, deep, decide_eq_true_iff, members, listed, true_and]

/-- A shard has served the first day and is sealed, and two days have passed. -/
def firstDaySealed : Moment :=
  let ops : List Op := [.registerShard 1 .data "a" "" "", .promoteStandby "1970-01-01",
    .beginDrain "1970-01-01", .completeDrainSeal "1970-01-01"]
  { ops.foldl (fun moment op => (perform sampleEnv op moment).2) ⟨windowDb, 0⟩ with now := 2 * oneDay }

end Control
end Shardman
