import Mathlib.Data.Int.ConditionallyCompleteOrder
import Mathlib.Data.Int.Interval
import Mathlib.Data.Set.Card
import Shardman.Bucket.BucketNames

namespace Shardman
namespace Bucket

open Foundation
open Foundation.Binary64
open Foundation.TimeLayout

/-!
# The window of writable buckets

A pool of shards is sized for the buckets that can be written to at one time.
`classifyWrite` decides this key by key, through the name of the key's bucket
and the index of that name.  Here the decisions are collected: at an instant
whose window lies in the years 0..9999 the names that writes are routed to are
those of the `retentionDepth + maxFuture` indices around the current one, and
every key outside has one reason for being refused.
-/

section Window

variable (platform : Platform) (unit : TimeUnit)

/-- The names of the buckets that some key is routed to. -/
def routedNames (now retentionDepth maxFuture : Int) : Set String :=
  { bucketID | Exists fun shardKey => Exists fun route =>
      classifyWrite platform (.time unit) now shardKey retentionDepth maxFuture = some route ∧
        route.kind = .bucket ∧ route.bucketID = bucketID }

/-- The index of the bucket of a key. -/
def keyIndex (shardKey : Key) : Option Int :=
  ((Spec.time unit).id platform shardKey).bind (Spec.time unit).index

/-- The index of the bucket of the wall clock. -/
def currentIndex (now : Int) : Option Int :=
  ((Spec.time unit).currentID now).bind (Spec.time unit).index

/-- All indices of the window belong to the years 0..9999. -/
def WindowInYears (current retentionDepth maxFuture : Int) : Prop :=
  forall index, current - retentionDepth < index -> index <= current + maxFuture -> unit.InYears index

end Window

/-! ## Indices of the years 0..9999 -/

theorem TimeUnit.InYears.bounds {unit : TimeUnit} {index : Int} (inYears : unit.InYears index) :
    -2 ^ 40 <= index ∧ index <= 2 ^ 40 := by
  rcases inYears with ⟨instant, years, rfl⟩
  exact position_bounds unit years

theorem TimeUnit.InYears.index_idFromIndex {unit : TimeUnit} {index : Int} (inYears : unit.InYears index) :
    unit.index (unit.idFromIndex index) = some index := by
  rcases inYears with ⟨instant, years, rfl⟩
  rw [idFromIndex_position unit years, index_timeID unit years]

theorem idFromIndex_injOn (unit : TimeUnit) : Set.InjOn unit.idFromIndex { index | unit.InYears index } := by
  intro first firstYears second secondYears same
  have found := TimeUnit.InYears.index_idFromIndex firstYears
  rw [same, TimeUnit.InYears.index_idFromIndex secondYears] at found
  exact (Option.some_inj.mp found).symm

/-- The name of a key's bucket is the one its index stands for. -/
theorem idFromIndex_of_id {platform : Platform} {unit : TimeUnit} {shardKey : Key} {targetID : String} {index : Int}
    (named : (Spec.time unit).id platform shardKey = some targetID) (found : unit.index targetID = some index)
    (inYears : unit.InYears index) : unit.idFromIndex index = targetID := by
  rcases Option.map_eq_some_iff.mp named with ⟨instant, _, name⟩
  have upTo : unit.UpToYears index := by
    rcases inYears with ⟨inside, years, rfl⟩
    exact ⟨inside, years, Int.le_refl _⟩
  exact (BucketName.fourDigitName ⟨instant, name⟩ found upTo).idFromIndex found

/-! ## Keys reach every index -/

/-- A number of seconds after the epoch, in the unit that the switch reads it in. -/
def secondsKey (seconds : Int) : Key :=
  if seconds <= unixSecondsYear3000 then .int64 (Int64.ofInt seconds) else .int64 (Int64.ofInt (seconds * 1000))

theorem parseTimeKey_secondsKey (platform : Platform) {seconds : Int}
    (bounds : -2 ^ 50 <= seconds ∧ seconds <= 2 ^ 50) :
    parseTimeKey platform (secondsKey seconds) = some (unixTime seconds) := by
  unfold secondsKey
  by_cases early : seconds <= unixSecondsYear3000
  · have same : (Int64.ofInt seconds).toInt = seconds :=
      Int64.toInt_ofInt_of_le (by omega) (by omega)
    rw [if_pos early, parseTimeKey_int64, same, numberTime, if_neg (by simpa using early)]
  · have same : (Int64.ofInt (seconds * 1000)).toInt = seconds * 1000 :=
      Int64.toInt_ofInt_of_le (by omega) (by omega)
    have late : unixSecondsYear3000 < seconds * 1000 := by
      unfold unixSecondsYear3000 at early ⊢
      omega
    rw [if_neg early, parseTimeKey_int64, same, numberTime, if_pos (decide_eq_true late), unixMilli, unixTime]
    congr 1
    omega

/-- Every index of the years 0..9999 is the index of a key. -/
theorem exists_key (platform : Platform) {unit : TimeUnit} {index : Int} (inYears : unit.InYears index) :
    Exists fun shardKey => (Spec.time unit).id platform shardKey = some (unit.idFromIndex index) := by
  rcases inYears with ⟨instant, years, rfl⟩
  have days := day_bounds years
  refine ⟨secondsKey (unixSeconds instant), ?_⟩
  rw [Spec.id_time, parseTimeKey_secondsKey platform ⟨by omega, by omega⟩, Option.map_some,
    idFromIndex_position unit years]
  -- The key drops the fraction of the second.
  exact congrArg some (timeID_start years rfl (by
    cases unit <;> simp only [TimeUnit.position, dateOf, unixSeconds_unixTime]))

/-! ## Decisions -/

/-- The decision on a key by the index of its bucket. -/
def windowDecision (current retentionDepth maxFuture : Int) (bucketID : Int -> String) : Option Int -> WriteRoute
  | none => .toError .invalidKey
  | some index =>
      if index <= current - retentionDepth then .toError .evicted
      else if index <= current + maxFuture then .toBucket (bucketID index)
      else if maxFuture = 0 then .toError .futureDisallowed
      else .toError .futureTooFar

theorem placeInWindow_eq {targetID : String} {index current retentionDepth maxFuture : Int}
    (future : 0 <= maxFuture)
    (oldest : oldestIndex current retentionDepth = current - retentionDepth + 1)
    (latest : wrap64 (current + maxFuture) = current + maxFuture) (bucketID : Int -> String)
    (named : current - retentionDepth < index -> index <= current + maxFuture -> bucketID index = targetID) :
    placeInWindow targetID index current retentionDepth maxFuture =
      windowDecision current retentionDepth maxFuture bucketID (some index) := by
  rw [placeInWindow, windowDecision, oldest, latest]
  by_cases old : index <= current - retentionDepth
  · rw [if_pos old, if_pos (by omega)]
  · rw [if_neg old, if_neg (by omega)]
    by_cases inside : index <= current + maxFuture
    · simp only [if_pos inside, named (by omega) inside]
      by_cases past : index <= current
      · rw [if_pos past]
      · rw [if_neg past, if_neg (by omega)]
    · simp only [if_neg inside, if_neg (show ¬ index <= current by omega)]

/-- Only indices of the window are routed to a bucket, and to their own. -/
theorem windowDecision_routed {current retentionDepth maxFuture : Int} {bucketID : Int -> String}
    {decided : Option Int}
    (routed : (windowDecision current retentionDepth maxFuture bucketID decided).kind = .bucket) :
    Exists fun index => index ∈ Set.Ioc (current - retentionDepth) (current + maxFuture) ∧
      windowDecision current retentionDepth maxFuture bucketID decided = .toBucket (bucketID index) := by
  cases decided with
  | none => cases routed
  | some index =>
      rw [windowDecision] at routed ⊢
      split at routed
      · cases routed
      · rename_i recent
        split at routed
        · rename_i inside
          exact ⟨index, ⟨by omega, inside⟩, by rw [if_neg recent, if_pos inside]⟩
        · split at routed
          · cases routed
          · cases routed

section Decisions

variable {platform : Platform} {unit : TimeUnit} {now current retentionDepth maxFuture : Int}

/-- Every key is decided by the index of its bucket. -/
theorem classifyWrite_decision (found : currentIndex unit now = some current) (positive : 1 <= retentionDepth)
    (future : 0 <= maxFuture) (window : WindowInYears unit current retentionDepth maxFuture) (shardKey : Key) :
    classifyWrite platform (.time unit) now shardKey retentionDepth maxFuture =
      some (windowDecision current retentionDepth maxFuture unit.idFromIndex (keyIndex platform unit shardKey)) := by
  have first := (window (current - retentionDepth + 1) (by omega) (by omega)).bounds
  have middle := (window current (by omega) (by omega)).bounds
  have last := (window (current + maxFuture) (by omega) (by omega)).bounds
  have oldest : oldestIndex current retentionDepth = current - retentionDepth + 1 := by
    rw [oldestIndex, wrap64_eq (show -2 ^ 63 <= current - retentionDepth by omega) (by omega),
      wrap64_eq (by omega) (by omega)]
  have latest : wrap64 (current + maxFuture) = current + maxFuture := wrap64_eq (by omega) (by omega)
  have currentFound : unit.index (timeID unit now) = some current := found
  unfold keyIndex
  cases named : (Spec.time unit).id platform shardKey with
  | none => rw [classifyWrite_elim, named, Option.elim_none, Option.bind_none, windowDecision]
  | some targetID =>
      cases indexed : unit.index targetID with
      | none =>
          rw [classifyWrite_elim, named, Option.elim_some, indexed, Option.elim_none, Option.bind_some, Spec.index_time,
            indexed, windowDecision]
      | some index =>
          rw [classifyWrite_elim, named, Option.elim_some, indexed, Option.elim_some, currentFound, Option.map_some,
            Option.bind_some, Spec.index_time, indexed, placeInWindow_eq future oldest latest unit.idFromIndex]
          intro lower upper
          exact idFromIndex_of_id named indexed (window index lower upper)

/-- The routed names are those of the window. -/
theorem routedNames_eq (found : currentIndex unit now = some current) (positive : 1 <= retentionDepth)
    (future : 0 <= maxFuture) (window : WindowInYears unit current retentionDepth maxFuture) :
    routedNames platform unit now retentionDepth maxFuture =
      unit.idFromIndex '' Set.Ioc (current - retentionDepth) (current + maxFuture) := by
  ext bucketID
  constructor
  · rintro ⟨shardKey, route, classified, routed, rfl⟩
    rw [classifyWrite_decision found positive future window, Option.some_inj] at classified
    rw [← classified] at routed ⊢
    rcases windowDecision_routed routed with ⟨index, inside, decided⟩
    rw [decided]
    exact ⟨index, inside, rfl⟩
  · rintro ⟨index, ⟨lower, upper⟩, rfl⟩
    have inYears := window index lower upper
    rcases exists_key platform inYears with ⟨shardKey, named⟩
    have indexed : keyIndex platform unit shardKey = some index := by
      rw [keyIndex, named]
      exact inYears.index_idFromIndex
    refine ⟨shardKey, .toBucket (unit.idFromIndex index), ?_, rfl, rfl⟩
    rw [classifyWrite_decision found positive future window, indexed, windowDecision, if_neg (by omega),
      if_pos upper]

theorem ncard_window (window : WindowInYears unit current retentionDepth maxFuture) :
    (unit.idFromIndex '' Set.Ioc (current - retentionDepth) (current + maxFuture)).ncard =
      (retentionDepth + maxFuture).toNat := by
  have injective : Set.InjOn unit.idFromIndex (Set.Ioc (current - retentionDepth) (current + maxFuture)) :=
    (idFromIndex_injOn unit).mono fun index inside => window index inside.1 inside.2
  rw [injective.ncard_image, ← Finset.coe_Ioc, Set.ncard_coe_finset, Int.card_Ioc]
  congr 1
  omega

/-- A window in the years 0..9999 has a length of 32 bits. -/
theorem WindowInYears.short (window : WindowInYears unit current retentionDepth maxFuture)
    (positive : 1 <= retentionDepth) (future : 0 <= maxFuture) : retentionDepth + maxFuture <= 2 ^ 28 + 1 := by
  rcases window (current - retentionDepth + 1) (by omega) (by omega) with ⟨first, firstYears, firstIndex⟩
  rcases window (current + maxFuture) (by omega) (by omega) with ⟨last, lastYears, lastIndex⟩
  have lower := position_narrow unit firstYears
  have upper := position_narrow unit lastYears
  omega

end Decisions

/-- The names that writes are routed to at an instant whose window lies in the
years 0..9999 are those of the indices in the window, there are
`retentionDepth + maxFuture` of them, and every other key is refused for the
one reason that its index gives. -/
theorem routed_names_fill_window (platform : Platform) (unit : TimeUnit)
    {now current retentionDepth maxFuture : Int} (found : currentIndex unit now = some current)
    (positive : 1 <= retentionDepth) (future : 0 <= maxFuture)
    (window : WindowInYears unit current retentionDepth maxFuture) :
    routedNames platform unit now retentionDepth maxFuture =
      unit.idFromIndex '' Set.Ioc (current - retentionDepth) (current + maxFuture) ∧
    ((routedNames platform unit now retentionDepth maxFuture).ncard : Int) = retentionDepth + maxFuture ∧
    forall shardKey,
      (keyIndex platform unit shardKey = none ->
        classifyWrite platform (.time unit) now shardKey retentionDepth maxFuture =
          some (.toError .invalidKey)) ∧
      (forall index, keyIndex platform unit shardKey = some index ->
        (index <= current - retentionDepth ->
          classifyWrite platform (.time unit) now shardKey retentionDepth maxFuture =
            some (.toError .evicted)) ∧
        (current - retentionDepth < index -> index <= current + maxFuture ->
          classifyWrite platform (.time unit) now shardKey retentionDepth maxFuture =
            some (.toBucket (unit.idFromIndex index))) ∧
        (current + maxFuture < index -> maxFuture = 0 ->
          classifyWrite platform (.time unit) now shardKey retentionDepth maxFuture =
            some (.toError .futureDisallowed)) ∧
        (current + maxFuture < index -> 0 < maxFuture ->
          classifyWrite platform (.time unit) now shardKey retentionDepth maxFuture =
            some (.toError .futureTooFar))) := by
  have names : routedNames platform unit now retentionDepth maxFuture = _ :=
    routedNames_eq found positive future window
  refine ⟨names, ?_, ?_⟩
  · rw [names, ncard_window window]
    omega
  · intro shardKey
    rw [classifyWrite_decision found positive future window]
    constructor
    · intro unindexed
      rw [unindexed, windowDecision]
    · intro index indexed
      rw [indexed, windowDecision]
      refine ⟨?_, ?_, ?_, ?_⟩
      · intro old
        rw [if_pos old]
      · intro lower upper
        rw [if_neg (by omega), if_pos upper]
      · intro above closed
        rw [if_neg (by omega), if_neg (by omega), if_pos closed]
      · intro above opened
        rw [if_neg (by omega), if_neg (by omega), if_neg (by omega)]

/-- June 2024 with two months of retention and one ahead: three names. -/
theorem routed_names_fill_window_june :
    currentIndex .month (unixTime 1717200000) = some 24293 ∧ WindowInYears .month 24293 2 1 ∧
      ((routedNames samplePlatform .month (unixTime 1717200000) 2 1).ncard : Int) = 2 + 1 ∧
      classifyWrite samplePlatform (.time .month) (unixTime 1717200000) (.string "2024-08") 2 1 =
        some (.toError .futureTooFar) := by
  have found : currentIndex .month (unixTime 1717200000) = some 24293 := by decide
  have window : WindowInYears .month 24293 2 1 := by
    intro index lower upper
    rcases (show index = 24292 ∨ index = 24293 ∨ index = 24294 by omega) with rfl | rfl | rfl
    · exact ⟨unixTime 1714521600, by decide, by decide⟩
    · exact ⟨unixTime 1717200000, by decide, by decide⟩
    · exact ⟨unixTime 1719792000, by decide, by decide⟩
  have august : keyIndex samplePlatform .month (.string "2024-08") = some 24295 := by decide
  rcases routed_names_fill_window samplePlatform .month found (by decide) (by decide) window with
    ⟨_, size, decisions⟩
  exact ⟨found, window, size, ((decisions _).2 _ august).2.2.2 (by decide) (by decide)⟩

end Bucket
end Shardman
