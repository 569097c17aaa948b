import Shardman.Bucket.Routing

namespace Shardman
namespace Bucket

open Foundation
open Foundation.Binary64

/-!
# Numeric buckets and the mathematical floor

A numeric bucket is meant to hold an interval of numbers: bucket `i` of width
`w` holds the numbers from `i * w` up to, and without, `(i + 1) * w`.  The
source computes the index of a bucket with a division that truncates, after
shifting negative numbers in 64-bit arithmetic, and it turns doubles into
integers by dropping their fraction.  This module says exactly which keys end
up in the bucket of their interval.
-/

/-- The name of a numeric bucket. -/
def numericID (index : Int) : String := String.ofList ('n' :: Decimal.formatInt index)

/-- Bucket `index` of this width is meant to hold the number. -/
def InInterval (width index : Int) (value : Rat) : Prop :=
  (index : Rat) * width <= value ∧ value < (index + 1 : Rat) * width

/-- A key of one of the integer forms that stands for a number. -/
def Key.Spells (number : Int) : Key -> Prop
  | .int64 value => value.toInt = number
  | .int value => value.toInt = number
  | .string text => parseInt text = some number
  | _ => False

/-- The shift of a negative number stays inside 64 bits. -/
def ShiftFits (width number : Int) : Prop := 0 <= number ∨ -2 ^ 63 <= number - width + 1

instance (width number : Int) : Decidable (ShiftFits width number) :=
  inferInstanceAs (Decidable (_ ∨ _))

/-! ## Names -/

theorem numericID_inj {first second : Int} : numericID first = numericID second ↔ first = second := by
  constructor
  · intro same
    have lists := congrArg String.toList same
    simp only [numericID, String.toList_ofList] at lists
    exact Decimal.formatInt_injective (List.cons.inj lists).2
  · intro same
    rw [same]

/-- A decimal form spells its number. -/
theorem spells_formatInt {number : Int} (lower : -2 ^ 63 <= number) (upper : number < 2 ^ 63) :
    (Key.string (String.ofList (Decimal.formatInt number))).Spells number := by
  simp only [Key.Spells, parseInt, String.toList_ofList, Decimal.readInt_formatInt lower upper,
    Decimal.Reading.toOption]

theorem Key.Spells.parsed {number : Int} {key : Key} (spelled : key.Spells number) (platform : Platform) :
    parseNumericKey platform key = some number := by
  cases key with
  | int64 value | int value => exact congrArg some spelled
  | string text => exact spelled
  | null | bool | integer | float32 | float64 | jsonNumber | bytes | map | list => exact spelled.elim

/-- Every spelled number has 64 bits. -/
theorem Key.Spells.range {number : Int} {key : Key} (spelled : key.Spells number) :
    -2 ^ 63 <= number ∧ number < 2 ^ 63 := by
  cases key with
  | int64 value | int value =>
      change value.toInt = number at spelled
      rw [← spelled]
      exact ⟨Int64.le_toInt _, Int64.toInt_lt _⟩
  | string text =>
      change (Decimal.readInt text.toList).toOption = some number at spelled
      cases read : Decimal.readInt text.toList with
      | malformed =>
          rw [read] at spelled
          cases spelled
      | outOfRange limit =>
          rw [read] at spelled
          cases spelled
      | value found =>
          rw [read] at spelled
          cases spelled
          exact Decimal.readInt_range read
  | null | bool | integer | float32 | float64 | jsonNumber | bytes | map | list => exact spelled.elim

/-! ## Floors -/

/-- Dividing by a whole width commutes with the floor. -/
theorem floor_div_width {width : Int} (positive : 0 < width) (value : Rat) :
    ⌊value / width⌋ = ⌊value⌋ / width := by
  rcases Int.eq_ofNat_of_zero_le (Int.le_of_lt positive) with ⟨size, rfl⟩
  rw [Int.cast_natCast, Int.floor_div_natCast]

/-- The floor names the one interval that holds a number. -/
theorem inInterval_iff_floor {width : Int} (positive : 0 < width) (index : Int) (value : Rat) :
    InInterval width index value ↔ index = ⌊value / width⌋ := by
  have wide : (0 : Rat) < width := Int.cast_pos.mpr positive
  rw [eq_comm, Int.floor_eq_iff, le_div_iff₀ wide, div_lt_iff₀ wide, InInterval]

/-- Shifting down by almost a width makes truncation round down. -/
theorem tdiv_shifted {width number : Int} (positive : 0 < width) (negative : number < 0) :
    (number - width + 1).tdiv width = number / width := by
  have whole := Int.mul_ediv_add_emod number width
  have rest := Int.emod_nonneg number (Int.ne_of_gt positive)
  have small := Int.emod_lt_of_pos number positive
  have mirrored : (width - 1 - number) / width = -(number / width) := by
    have unique := (Int.ediv_emod_unique (a := width - 1 - number) (r := width - 1 - number % width)
      (q := -(number / width)) positive).mpr
    refine (unique ⟨?_, by omega, by omega⟩).1
    rw [Int.mul_neg]
    omega
  have flipped : number - width + 1 = -(width - 1 - number) := by omega
  rw [flipped, Int.neg_tdiv, Int.tdiv_eq_ediv_of_nonneg (by omega), mirrored, Int.neg_neg]

/-- The computed index is the floor exactly when the shift does not wrap. -/
theorem numericIndex_eq_iff {width number : Int} (positive : 0 < width) (fits : width < 2 ^ 63)
    (range : -2 ^ 63 <= number ∧ number < 2 ^ 63) :
    numericIndex width number = number / width ↔ ShiftFits width number := by
  rcases range with ⟨lower, upper⟩
  unfold numericIndex ShiftFits
  by_cases negative : number < 0
  · rw [if_pos negative]
    have below : number / width < 0 := Int.ediv_neg_of_neg_of_pos negative positive
    by_cases shifted : -2 ^ 63 <= number - width + 1
    · have unwrapped : wrap64 (wrap64 (number - width) + 1) = number - width + 1 := by
        unfold wrap64
        omega
      rw [unwrapped, tdiv_shifted positive negative]
      exact iff_of_true rfl (Or.inr shifted)
    · -- The sum comes back positive, and so does its quotient.
      have wrapped : wrap64 (wrap64 (number - width) + 1) = number - width + 1 + 2 ^ 64 := by
        unfold wrap64
        omega
      have above : 0 <= (number - width + 1 + 2 ^ 64).tdiv width := Int.tdiv_nonneg (by omega) (by omega)
      rw [wrapped]
      refine iff_of_false ?_ (by omega)
      intro same
      omega
  · rw [if_neg negative, Int.tdiv_eq_ediv_of_nonneg (by omega)]
    exact iff_of_true rfl (Or.inl (by omega))

/-! ## Integer keys -/

section IntegerKeys

variable (platform : Platform) {width : Int} (positive : 0 < width) (fits : width < 2 ^ 63)

theorem id_numeric {number : Int} {key : Key} (parsed : parseNumericKey platform key = some number) :
    (Spec.numeric width positive fits).id platform key = some (numericID (numericIndex width number)) := by
  rw [Spec.id_numeric, parsed, Option.map_some, numericID]

/-- The index that a key gets when its shift does not wrap. -/
theorem id_of_shiftFits {number : Int} {key : Key} (spelled : key.Spells number)
    (shifts : ShiftFits width number) :
    (Spec.numeric width positive fits).id platform key = some (numericID (number / width)) := by
  rw [id_numeric platform positive fits (spelled.parsed platform),
    (numericIndex_eq_iff positive fits spelled.range).mpr shifts]

/-- A number whose shift wraps shares its bucket with a large positive one. -/
theorem id_of_wrapped {number : Int} {key : Key} (spelled : key.Spells number)
    (wraps : ¬ ShiftFits width number) :
    Exists fun other : Int64 => 0 <= other.toInt ∧
      (Spec.numeric width positive fits).id platform key =
        (Spec.numeric width positive fits).id platform (.int64 other) := by
  rcases spelled.range with ⟨lower, upper⟩
  simp only [ShiftFits, not_or, not_le] at wraps
  rcases wraps with ⟨negative, low⟩
  have otherEq : (Int64.ofInt (number - width + 1 + 2 ^ 64)).toInt = number - width + 1 + 2 ^ 64 :=
    Int64.toInt_ofInt_of_le (by omega) (by omega)
  have otherSpelled : (Key.int64 (Int64.ofInt (number - width + 1 + 2 ^ 64))).Spells
      (number - width + 1 + 2 ^ 64) := otherEq
  refine ⟨Int64.ofInt (number - width + 1 + 2 ^ 64), by omega, ?_⟩
  have wrapped : wrap64 (wrap64 (number - width) + 1) = number - width + 1 + 2 ^ 64 := by
    unfold wrap64
    omega
  rw [id_numeric platform positive fits (spelled.parsed platform),
    id_numeric platform positive fits (otherSpelled.parsed platform), numericIndex, numericIndex,
    if_pos negative, if_neg (by omega), wrapped]

end IntegerKeys

/-- A key that spells a 64-bit number gets the bucket of the mathematical floor
exactly when the shift of the number does not wrap around.  The same condition
decides whether the key shares its bucket with exactly the numbers of its
interval, among those whose own shift does not wrap. -/
theorem numeric_id_floor_iff (platform : Platform) {width : Int} (positive : 0 < width)
    (fits : width < 2 ^ 63) {number : Int} {key : Key} (spelled : key.Spells number) :
    ((Spec.numeric width positive fits).id platform key =
        some (numericID ⌊(number : Rat) / (width : Rat)⌋) ↔ ShiftFits width number) ∧
    ((forall other otherKey, Key.Spells other otherKey -> ShiftFits width other ->
        ((Spec.numeric width positive fits).id platform key =
            (Spec.numeric width positive fits).id platform otherKey ↔
          Exists fun index => InInterval width index number ∧ InInterval width index other)) ↔
      ShiftFits width number) := by
  have floor : forall whole : Int, ⌊(whole : Rat) / (width : Rat)⌋ = whole / width := by
    intro whole
    rw [floor_div_width positive, Int.floor_intCast]
  have sameInterval : forall other : Int, (Exists fun index => InInterval width index number ∧
      InInterval width index other) ↔ number / width = other / width := by
    intro other
    simp only [inInterval_iff_floor positive, floor, exists_eq_left]
  constructor
  · rw [id_numeric platform positive fits (spelled.parsed platform), Option.some_inj, numericID_inj, floor]
    exact numericIndex_eq_iff positive fits spelled.range
  · constructor
    · intro shares
      by_contra wraps
      rcases id_of_wrapped platform positive fits spelled wraps with ⟨other, large, same⟩
      have quotients := (sameInterval other.toInt).mp
        ((shares other.toInt (.int64 other) rfl (Or.inl large)).mp same)
      simp only [ShiftFits, not_or, not_le] at wraps
      have below : number / width < 0 := Int.ediv_neg_of_neg_of_pos wraps.1 positive
      have above : 0 <= other.toInt / width := Int.ediv_nonneg large (Int.le_of_lt positive)
      omega
    · intro shifts other otherKey otherSpelled otherShifts
      rw [id_of_shiftFits platform positive fits spelled shifts,
        id_of_shiftFits platform positive fits otherSpelled otherShifts, Option.some_inj, numericID_inj,
        sameInterval]

/-- The number -7 in tens, as a decimal text. -/
theorem numeric_id_floor_iff_minus_seven :
    (Key.string (String.ofList (Decimal.formatInt (-7)))).Spells (-7) ∧ ShiftFits 10 (-7) ∧
      (Spec.numeric 10 (by decide) (by decide)).id samplePlatform
          (.string (String.ofList (Decimal.formatInt (-7)))) =
        some (numericID ⌊((-7 : Int) : Rat) / ((10 : Int) : Rat)⌋) := by
  have spelled := spells_formatInt (show -2 ^ 63 <= (-7 : Int) by decide) (by decide)
  exact ⟨spelled, by decide,
    (numeric_id_floor_iff samplePlatform (by decide) (by decide) spelled).1.mpr (by decide)⟩

/-- The smallest 64-bit number shares the bucket of one of the largest. -/
theorem smallest_number_wraps :
    (Spec.numeric 10 (by decide) (by decide)).id samplePlatform (.int64 Int64.minValue) =
        (Spec.numeric 10 (by decide) (by decide)).id samplePlatform
          (.int64 (Int64.ofInt 9223372036854775799)) ∧
      (Spec.numeric 10 (by decide) (by decide)).id samplePlatform (.int64 Int64.minValue) ≠
        some (numericID ⌊(Int64.minValue.toInt : Rat) / ((10 : Int) : Rat)⌋) := by
  have named : (Spec.numeric 10 (by decide) (by decide)).id samplePlatform (.int64 Int64.minValue) =
      some "n922337203685477579" := by decide +kernel
  refine ⟨by decide +kernel, ?_⟩
  rw [named, floor_div_width (by decide), Int.floor_intCast]
  decide +kernel

/-! ## Doubles -/

/-- Dropping the fraction of a negative number lifts it into the next bucket. -/
def LiftedAcross (width : Int) (value : Rat) : Prop :=
  value < 0 ∧ value.den ≠ 1 ∧ width ∣ ⌈value⌉

instance (width : Int) (value : Rat) : Decidable (LiftedAcross width value) :=
  inferInstanceAs (Decidable (_ ∧ _ ∧ _))

/-- Floor division moves to the next quotient exactly at the multiples. -/
theorem succ_ediv_eq_iff {width : Int} (positive : 0 < width) (whole : Int) :
    (whole + 1) / width = whole / width ↔ ¬ width ∣ whole + 1 := by
  have next := Int.mul_ediv_add_emod (whole + 1) width
  have rest := Int.emod_nonneg (whole + 1) (Int.ne_of_gt positive)
  have small := Int.emod_lt_of_pos (whole + 1) positive
  rw [Int.dvd_iff_emod_eq_zero]
  constructor
  · intro same divides
    have previous := Int.mul_ediv_add_emod whole width
    have previousRest := Int.emod_nonneg whole (Int.ne_of_gt positive)
    rw [← same] at previous
    omega
  · intro inside
    have unique := (Int.ediv_emod_unique (a := whole) (r := (whole + 1) % width - 1)
      (q := (whole + 1) / width) positive).mpr
    exact (unique ⟨by omega, by omega, by omega⟩).1.symm

theorem ceil_of_fraction {value : Rat} (fraction : value.den ≠ 1) : ⌈value⌉ = ⌊value⌋ + 1 := by
  rw [Int.ceil_eq_iff]
  have above := Int.lt_floor_add_one value
  have below := Int.floor_le value
  push_cast
  refine ⟨?_, le_of_lt above⟩
  have apart : (⌊value⌋ : Rat) ≠ value := by
    intro same
    apply fraction
    rw [← same]
    exact Rat.den_intCast _
  have strict := lt_of_le_of_ne below apart
  linarith

/-- The integer part of a number and its floor lie in one bucket, except where
the fraction is lifted across a bound. -/
theorem truncate_ediv_iff {width : Int} (positive : 0 < width) (value : Rat) :
    truncate value / width = ⌊value⌋ / width ↔ ¬ LiftedAcross width value := by
  unfold LiftedAcross
  by_cases negative : value < 0
  · rw [truncate_of_neg negative]
    by_cases whole : value.den = 1
    · have integer : value = (value.num : Rat) := (Rat.den_eq_one_iff value).mp whole |>.symm
      refine iff_of_true ?_ (by simp only [whole, ne_eq, not_true, false_and, and_false, not_false_eq_true])
      rw [integer, Int.ceil_intCast, Int.floor_intCast]
    · rw [ceil_of_fraction whole, succ_ediv_eq_iff positive]
      simp only [negative, ne_eq, whole, not_false_eq_true, true_and]
  · rw [truncate_of_nonneg (not_lt.mp negative)]
    exact iff_of_true rfl fun lifted => negative lifted.1

/-- Truncation does not leave the range of exact integers. -/
theorem truncate_bounds {value : Rat} {bound : Int} (lower : -bound <= value) (upper : value <= bound) :
    -bound <= truncate value ∧ truncate value <= bound := by
  rcases lt_or_ge value 0 with negative | nonneg
  · rw [truncate_of_neg negative]
    constructor
    · have low : ((-bound : Int) : Rat) <= ⌈value⌉ := by
        push_cast
        exact le_trans lower (Int.le_ceil value)
      exact_mod_cast low
    · exact Int.ceil_le.mpr upper
  · rw [truncate_of_nonneg nonneg]
    constructor
    · apply Int.le_floor.mpr
      push_cast
      exact lower
    · have high : (⌊value⌋ : Rat) <= (bound : Rat) := le_trans (Int.floor_le value) upper
      exact_mod_cast high

/-- A finite double of magnitude at most 2^53 gets the bucket of its
mathematical floor, and then lies in the interval of its bucket, exactly when
it is not a negative fraction just below a multiple of the width. -/
theorem float_id_floor_iff (platform : Platform) {width : Int} (positive : 0 < width)
    (small : width <= 2 ^ 53) {value : Rat} (representable : Representable value)
    (lower : -2 ^ 53 <= value) (upper : value <= 2 ^ 53) :
    ((Spec.numeric width positive (by omega)).id platform (.float64 (.finite value representable)) =
        some (numericID ⌊value / (width : Rat)⌋) ↔ ¬ LiftedAcross width value) ∧
    ((Exists fun index =>
        (Spec.numeric width positive (by omega)).id platform (.float64 (.finite value representable)) =
          some (numericID index) ∧ InInterval width index value) ↔ ¬ LiftedAcross width value) := by
  have bounds : -2 ^ 53 <= truncate value ∧ truncate value <= 2 ^ 53 := by
    apply truncate_bounds
    · exact_mod_cast lower
    · exact_mod_cast upper
  have parsed : parseNumericKey platform (.float64 (.finite value representable)) = some (truncate value) := by
    simp only [parseNumericKey, int64OfFloat, toInt64]
    rw [if_pos ⟨by omega, by omega⟩]
  have index : numericIndex width (truncate value) = truncate value / width :=
    (numericIndex_eq_iff positive (by omega) ⟨by omega, by omega⟩).mpr (Or.inr (by omega))
  rw [id_numeric platform positive (by omega) parsed, index]
  constructor
  · rw [Option.some_inj, numericID_inj, floor_div_width positive]
    exact truncate_ediv_iff positive value
  · rw [← truncate_ediv_iff positive value, ← floor_div_width positive]
    constructor
    · rintro ⟨found, same, inside⟩
      rw [Option.some_inj, numericID_inj] at same
      rw [same]
      exact (inInterval_iff_floor positive found value).mp inside
    · intro same
      exact ⟨_, rfl, (inInterval_iff_floor positive _ value).mpr same⟩

theorem representable_half (mantissa : Int) (small : mantissa.natAbs < 2 ^ 53) :
    Representable (mantissa / 2 : Rat) := by
  refine ⟨mantissa, -1, small, by decide, by decide, ?_⟩
  rw [zpow_neg_one, div_eq_mul_inv]

/-- The number -7.5 in tens. -/
theorem float_id_floor_iff_minus_seven_half :
    ¬ LiftedAcross 10 (-15 / 2) ∧
      (Spec.numeric 10 (by decide) (by decide)).id samplePlatform
          (.float64 (.finite (((-15 : Int) : Rat) / 2) (representable_half (-15) (by decide)))) =
        some (numericID ⌊(((-15 : Int) : Rat) / 2) / ((10 : Int) : Rat)⌋) := by
  have stays : ¬ LiftedAcross 10 (-15 / 2) := by decide +kernel
  refine ⟨stays, ?_⟩
  exact (float_id_floor_iff samplePlatform (by decide) (by decide) (representable_half (-15) (by decide))
    (by norm_num) (by norm_num)).1.mpr (by exact_mod_cast stays)

/-- The number -0.5 is put with the numbers from 0 to 9. -/
theorem minus_half_lands_at_zero :
    (Spec.numeric 10 (by decide) (by decide)).id samplePlatform
        (.float64 (.finite (((-1 : Int) : Rat) / 2) (representable_half (-1) (by decide)))) = some "n0" ∧
      (Spec.numeric 10 (by decide) (by decide)).id samplePlatform
          (.float64 (.finite (((-1 : Int) : Rat) / 2) (representable_half (-1) (by decide)))) ≠
        some (numericID ⌊(((-1 : Int) : Rat) / 2) / ((10 : Int) : Rat)⌋) ∧
      ¬ InInterval 10 0 (((-1 : Int) : Rat) / 2) := by
  have named : (Spec.numeric 10 (by decide) (by decide)).id samplePlatform
      (.float64 (.finite (((-1 : Int) : Rat) / 2) (representable_half (-1) (by decide)))) = some "n0" := by
    decide +kernel
  have floor : ⌊(((-1 : Int) : Rat) / 2) / ((10 : Int) : Rat)⌋ = -1 := by norm_num
  refine ⟨named, ?_, ?_⟩
  · rw [named, floor]
    decide +kernel
  · rw [inInterval_iff_floor (by decide), floor]
    decide

end Bucket
end Shardman
