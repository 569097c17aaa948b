import Mathlib.Data.List.Nodup
import Shardman.Bucket.Routing

namespace Shardman
namespace Bucket

open Foundation

/-!
# Names of hash buckets

A hash bucket is named by the remainder of the hash, written with as many
digits as the largest remainder needs.  The source counts these digits with a
loop that has a case of its own for small numbers.  This module shows that the
count is right for every bucket count, powers of ten included.  The names of a
cluster then have one length, are ordered like the remainders they are made of,
and there are as many of them as buckets.
-/

/-- The bucket that a hash falls into. -/
def hashIndex (bucketCount : Int) (hash : UInt64) : Nat := hash.toNat % bucketCount.toNat

/-- The name of the bucket with an index. -/
def hashID (bucketCount : Int) (index : Nat) : String :=
  String.ofList ('h' :: Decimal.padded (digitWidth (bucketCount - 1)) index)

/-! ## Counting digits -/

/-- The loop counts the decimal digits of a positive number. -/
theorem digitLoop_eq (fuel : Nat) {number : Nat} (positive : 0 < number) (fits : number < 10 ^ fuel) :
    digitLoop fuel number = (Nat.toDigits 10 number).length := by
  induction fuel generalizing number with
  | zero =>
      rw [Nat.pow_zero] at fits
      omega
  | succ rounds inductionHypothesis =>
      rw [digitLoop, if_pos positive]
      by_cases small : number < 10
      · -- The next round sees zero and stops, whatever fuel is left.
        have stopped : digitLoop rounds (number / 10) = 0 := by
          rw [Nat.div_eq_of_lt small]
          cases rounds <;> rfl
        rw [stopped, Nat.toDigits_of_lt_base small]
        rfl
      · have shorter : number / 10 < 10 ^ rounds := by
          rw [Nat.pow_succ] at fits
          omega
        rw [inductionHypothesis (by omega) shorter, Nat.toDigits_of_base_le (by decide) (Nat.le_of_not_lt small),
          List.length_append]
        rfl

/-- The width of a 64-bit number is the length of its decimal form. -/
theorem digitWidth_eq {number : Int} (nonneg : 0 <= number) (fits : number < 2 ^ 63) :
    digitWidth number = (Nat.toDigits 10 number.toNat).length := by
  unfold digitWidth
  by_cases small : number < 10
  · rw [if_pos small, Nat.toDigits_of_lt_base (by omega)]
    rfl
  · rw [if_neg small]
    exact digitLoop_eq 20 (by omega) (by omega)

section Names

variable {bucketCount : Int} (positive : 0 < bucketCount) (fits : bucketCount < 2 ^ 63)

include positive fits

theorem digitWidth_pos : 0 < digitWidth (bucketCount - 1) := by
  rw [digitWidth_eq (by omega) (by omega)]
  exact Nat.length_toDigits_pos

/-- Every index of a cluster fits into the width of its names. -/
theorem index_fits {index : Nat} (below : index < bucketCount.toNat) :
    index < 10 ^ digitWidth (bucketCount - 1) := by
  have largest : (bucketCount - 1).toNat < 10 ^ digitWidth (bucketCount - 1) := by
    apply (Nat.length_toDigits_le_iff (by decide) (digitWidth_pos positive fits)).mp
    rw [digitWidth_eq (by omega) (by omega)]
  omega

theorem length_hashID {index : Nat} (below : index < bucketCount.toNat) :
    (hashID bucketCount index).length = 1 + digitWidth (bucketCount - 1) := by
  rw [hashID, String.length_ofList, List.length_cons,
    Decimal.length_padded (index_fits positive fits below) (digitWidth_pos positive fits), Nat.add_comm]

/-- Names are compared like the indices they name. -/
theorem hashID_lt_iff {first second : Nat} (firstBelow : first < bucketCount.toNat)
    (secondBelow : second < bucketCount.toNat) :
    hashID bucketCount first < hashID bucketCount second ↔ first < second := by
  rw [String.lt_iff, hashID, hashID, String.toList_ofList, String.toList_ofList, List.cons_lt_cons_iff]
  simp only [Char.lt_irrefl, false_or, true_and]
  exact Decimal.padded_lt_iff (digitWidth_pos positive fits) (index_fits positive fits firstBelow)
    (index_fits positive fits secondBelow)

omit fits in
theorem hashIndex_lt (hash : UInt64) : hashIndex bucketCount hash < bucketCount.toNat :=
  Nat.mod_lt _ (by omega)

/-- Every index is the remainder of some hash. -/
theorem exists_hashIndex {index : Nat} (below : index < bucketCount.toNat) :
    Exists fun hash => hashIndex bucketCount hash = index := by
  refine ⟨UInt64.ofNat index, ?_⟩
  rw [hashIndex, UInt64.toNat_ofNat_of_lt' (show index < 2 ^ 64 by omega), Nat.mod_eq_of_lt below]

end Names

theorem hashID_inj (bucketCount : Int) {first second : Nat} :
    hashID bucketCount first = hashID bucketCount second ↔ first = second := by
  rw [hashID, hashID, String.ofList_inj, List.cons_inj_right, Decimal.padded_inj]

/-- For every bucket count and every hash, the name of a hash bucket is the
letter and the remainder of the hash, padded to the digits of the largest
remainder.  All names have one length; they are equal, and in order, exactly
when the remainders are; and a list without repetitions holds all of them, one
for each bucket.  Texts are compared character by character, which for these
characters is the byte order of the source. -/
theorem hash_names_of_remainders (bucketCount : Int) (positive : 0 < bucketCount)
    (fits : bucketCount < 2 ^ 63) :
    (forall platform shardKey, (Spec.hash bucketCount positive fits).id platform shardKey =
      (stringifyKey platform shardKey).map fun text =>
        hashID bucketCount (hashIndex bucketCount (platform.sum64String text))) ∧
    (forall hash : UInt64,
      (hashID bucketCount (hashIndex bucketCount hash)).toList =
        'h' :: Decimal.padded (Nat.toDigits 10 (bucketCount - 1).toNat).length
          (hash.toNat % bucketCount.toNat) ∧
      (hashID bucketCount (hashIndex bucketCount hash)).length = 1 + digitWidth (bucketCount - 1)) ∧
    (forall first second : UInt64,
      (hashID bucketCount (hashIndex bucketCount first) = hashID bucketCount (hashIndex bucketCount second) ↔
        hashIndex bucketCount first = hashIndex bucketCount second) ∧
      (hashID bucketCount (hashIndex bucketCount first) < hashID bucketCount (hashIndex bucketCount second) ↔
        hashIndex bucketCount first < hashIndex bucketCount second)) ∧
    (Exists fun names : List String => names.Nodup ∧ names.length = bucketCount.toNat ∧
      forall name, name ∈ names ↔
        Exists fun hash => hashID bucketCount (hashIndex bucketCount hash) = name) := by
  refine ⟨fun platform shardKey => Spec.id_hash platform shardKey positive fits, ?_, ?_, ?_⟩
  · intro hash
    constructor
    · rw [hashID, String.toList_ofList, digitWidth_eq (by omega) (by omega), hashIndex]
    · exact length_hashID positive fits (hashIndex_lt positive hash)
  · intro first second
    exact ⟨hashID_inj bucketCount,
      hashID_lt_iff positive fits (hashIndex_lt positive first) (hashIndex_lt positive second)⟩
  · refine ⟨(List.range bucketCount.toNat).map (hashID bucketCount), ?_, ?_, ?_⟩
    · exact List.Nodup.map (fun first second => (hashID_inj bucketCount).mp) List.nodup_range
    · rw [List.length_map, List.length_range]
    · intro name
      rw [List.mem_map]
      constructor
      · rintro ⟨index, member, rfl⟩
        rcases exists_hashIndex positive fits (List.mem_range.mp member) with ⟨hash, rfl⟩
        exact ⟨hash, rfl⟩
      · rintro ⟨hash, rfl⟩
        exact ⟨hashIndex bucketCount hash, List.mem_range.mpr (hashIndex_lt positive hash), rfl⟩

/-- With a hundred buckets the names run from h00 to h99. -/
theorem hash_names_of_remainders_hundred :
    (hashID 100 (hashIndex 100 107) = "h07" ∧ digitWidth (100 - 1) = 2) ∧
      Exists fun names : List String => names.Nodup ∧ names.length = 100 ∧
        forall name, name ∈ names ↔ Exists fun hash => hashID 100 (hashIndex 100 hash) = name :=
  ⟨by decide, (hash_names_of_remainders 100 (by decide) (by decide)).2.2.2⟩

end Bucket
end Shardman
