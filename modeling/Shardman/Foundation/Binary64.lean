import Mathlib.Data.Rat.Floor
import Mathlib.Data.Nat.Log
import Mathlib.Algebra.Field.Rat
import Mathlib.Tactic.Ring
import Mathlib.Tactic.NormNum

namespace Shardman
namespace Foundation
namespace Binary64

/-!
# Double precision numbers and integers

A finite double is kept as the rational it stands for, with the proof that 53
bits of mantissa and the exponent range hold it.  Integers are converted by
rounding to the nearest double, ties to the even mantissa.  Conversion back
truncates towards zero; what it gives outside the target range is not fixed by
the number format, so it is a parameter.
-/

/-- The rationals with a double precision representation. -/
def Representable (value : Rat) : Prop :=
  Exists fun mantissa : Int => Exists fun exponent : Int =>
    mantissa.natAbs < 2 ^ 53 ∧ -1074 <= exponent ∧ exponent <= 971 ∧
      value = mantissa * (2 : Rat) ^ exponent

/-- A double.  The two zeros are one value here: no comparison or conversion
below tells them apart. -/
inductive Double
  | nan
  | infinite (negative : Bool)
  | finite (value : Rat) (representable : Representable value)
deriving DecidableEq

/-- What rounding adds to the last kept bit when `shift` bits are dropped:
the part above a half goes up, and so does a half after an odd bit. -/
def carry (size shift : Nat) : Nat :=
  if 2 ^ shift < 2 * (size % 2 ^ shift) ∨
      (2 * (size % 2 ^ shift) = 2 ^ shift ∧ size / 2 ^ shift % 2 = 1) then
    1
  else
    0

/-- Round a magnitude to 53 significant bits, ties to even. -/
def roundMagnitude (size : Nat) : Nat :=
  if size < 2 ^ 53 then
    size
  else
    let shift := size.log2 - 52
    (size / 2 ^ shift + carry size shift) * 2 ^ shift

/-- Round an integer to the nearest value with 53 significant bits. -/
def roundInt (value : Int) : Int :=
  if value < 0 then -(roundMagnitude value.natAbs) else roundMagnitude value.natAbs

theorem roundMagnitude_of_lt {size : Nat} (small : size < 2 ^ 53) : roundMagnitude size = size := by
  rw [roundMagnitude, if_pos small]

/-- The shape of a magnitude that needs rounding: a mantissa of exactly 53
bits, or the power of two above, times a power of two. -/
theorem roundMagnitude_of_le {size : Nat} (large : 2 ^ 53 <= size) :
    Exists fun mantissa => Exists fun shift =>
      0 < shift ∧ 2 ^ 52 <= mantissa ∧ mantissa <= 2 ^ 53 ∧
        roundMagnitude size = mantissa * 2 ^ shift := by
  have nonzero : size ≠ 0 := by
    have positive : 0 < 2 ^ 53 := by decide
    omega
  have bits : 53 <= size.log2 := (Nat.le_log2 nonzero).mpr large
  have exponent : size.log2 = 52 + (size.log2 - 52) := by omega
  have lower : 2 ^ 52 <= size / 2 ^ (size.log2 - 52) := by
    rw [Nat.le_div_iff_mul_le (Nat.two_pow_pos _), ← Nat.pow_add, ← exponent]
    exact Nat.log2_self_le nonzero
  have upper : size / 2 ^ (size.log2 - 52) < 2 ^ 53 := by
    rw [Nat.div_lt_iff_lt_mul (Nat.two_pow_pos _), ← Nat.pow_add]
    have wider : 53 + (size.log2 - 52) = size.log2 + 1 := by omega
    rw [wider]
    exact Nat.lt_log2_self
  have step : carry size (size.log2 - 52) <= 1 := by
    unfold carry
    split <;> omega
  refine ⟨size / 2 ^ (size.log2 - 52) + carry size (size.log2 - 52), size.log2 - 52, ?_, ?_, ?_, ?_⟩
  · omega
  · omega
  · omega
  · rw [roundMagnitude, if_neg (by omega)]

/-- Rounding leaves magnitudes below the mantissa alone and keeps the others
above it. -/
theorem roundMagnitude_threshold (size : Nat) :
    (size < 2 ^ 53 ∧ roundMagnitude size = size) ∨
      (2 ^ 53 <= size ∧ 2 ^ 53 <= roundMagnitude size) := by
  rcases Nat.lt_or_ge size (2 ^ 53) with small | large
  · exact Or.inl ⟨small, roundMagnitude_of_lt small⟩
  · rcases roundMagnitude_of_le large with ⟨mantissa, shift, positive, lower, _, equal⟩
    refine Or.inr ⟨large, ?_⟩
    have factor : 2 ^ 1 <= 2 ^ shift := Nat.pow_le_pow_right (by decide) positive
    calc
      2 ^ 53 = 2 ^ 52 * 2 ^ 1 := by decide
      _ <= mantissa * 2 ^ shift := Nat.mul_le_mul lower factor
      _ = roundMagnitude size := equal.symm

private theorem representable_nat {size : Nat} (bounded : (roundMagnitude size).log2 < 1024) :
    Representable (roundMagnitude size : Rat) := by
  rcases Nat.lt_or_ge size (2 ^ 53) with small | large
  · refine ⟨size, 0, by simpa using small, by decide, by decide, ?_⟩
    rw [roundMagnitude_of_lt small]
    simp
  · rcases roundMagnitude_of_le large with ⟨mantissa, shift, positive, lower, upper, equal⟩
    have exponents : forall bits, 2 ^ bits <= mantissa -> bits + shift < 1024 := by
      intro bits below
      have power : 2 ^ (bits + shift) <= roundMagnitude size := by
        rw [equal, Nat.pow_add]
        exact Nat.mul_le_mul_right _ below
      have nonzero : roundMagnitude size ≠ 0 := by
        have one := Nat.two_pow_pos (bits + shift)
        omega
      exact Nat.lt_of_le_of_lt ((Nat.le_log2 nonzero).mpr power) bounded
    have shiftBound := exponents 52 lower
    rcases Nat.lt_or_ge mantissa (2 ^ 53) with fits | carried
    · refine ⟨mantissa, shift, by simpa using fits, by omega, by omega, ?_⟩
      rw [equal]
      push_cast
      rw [zpow_natCast]
    · have carryBound := exponents 53 carried
      have exactly : mantissa = 2 ^ 52 * 2 := by omega
      refine ⟨2 ^ 52, (shift + 1 : Nat), by decide, by omega, by omega, ?_⟩
      rw [equal, exactly, zpow_natCast]
      push_cast
      ring

private theorem representable_neg {value : Rat} (representable : Representable value) :
    Representable (-value) := by
  rcases representable with ⟨mantissa, exponent, small, lower, upper, equal⟩
  refine ⟨-mantissa, exponent, by simpa using small, lower, upper, ?_⟩
  rw [equal]
  push_cast
  ring

theorem representable_roundInt {value : Int} (bounded : (roundMagnitude value.natAbs).log2 < 1024) :
    Representable (roundInt value : Rat) := by
  have size := representable_nat bounded
  unfold roundInt
  split
  · simpa using representable_neg size
  · simpa using size

/-- The double nearest to an integer. -/
def ofInt (value : Int) : Double :=
  if bounded : (roundMagnitude value.natAbs).log2 < 1024 then
    .finite (roundInt value) (representable_roundInt bounded)
  else
    .infinite (decide (value < 0))

/-- Two's complement reduction to 64 bits. -/
def wrap64 (value : Int) : Int := (value + 2 ^ 63) % 2 ^ 64 - 2 ^ 63

theorem wrap64_eq {value : Int} (lower : -2 ^ 63 <= value) (upper : value < 2 ^ 63) :
    wrap64 value = value := by
  unfold wrap64
  omega

/-- The integer part of a rational, towards zero. -/
def truncate (value : Rat) : Int := value.num.tdiv value.den

/-- A number that is not negative is rounded down. -/
theorem truncate_of_nonneg {value : Rat} (nonneg : 0 <= value) : truncate value = ⌊value⌋ := by
  rw [truncate, Int.tdiv_eq_ediv_of_nonneg (Rat.num_nonneg.mpr nonneg), Rat.floor_def']

/-- A negative number is rounded up. -/
theorem truncate_of_neg {value : Rat} (negative : value < 0) : truncate value = ⌈value⌉ := by
  have mirrored : truncate (-value) = ⌊-value⌋ := truncate_of_nonneg (by linarith)
  have flipped : truncate (-value) = -truncate value := by
    simp only [truncate, Rat.num_neg_eq_neg_num, Rat.den_neg_eq_den, Int.neg_tdiv]
  rw [flipped, Int.floor_neg] at mirrored
  omega

/-- Convert a double to a 64-bit integer. -/
def toInt64 (otherwise : Double -> Int64) (double : Double) : Int :=
  match double with
  | .finite value _ =>
      if -2 ^ 63 <= truncate value ∧ truncate value < 2 ^ 63 then truncate value
      else (otherwise double).toInt
  | _ => (otherwise double).toInt

theorem toInt64_range (otherwise : Double -> Int64) (double : Double) :
    -2 ^ 63 <= toInt64 otherwise double ∧ toInt64 otherwise double < 2 ^ 63 := by
  have fallback : -2 ^ 63 <= (otherwise double).toInt ∧ (otherwise double).toInt < 2 ^ 63 :=
    ⟨Int64.le_toInt _, Int64.toInt_lt _⟩
  cases double with
  | nan => exact fallback
  | infinite negative => exact fallback
  | finite value representable =>
      unfold toInt64
      by_cases fits : -2 ^ 63 <= truncate value ∧ truncate value < 2 ^ 63
      · simp only [if_pos fits]
        exact fits
      · simp only [if_neg fits]
        exact fallback

/-- Whether a double exceeds an integer. -/
def exceeds (double : Double) (bound : Int) : Bool :=
  match double with
  | .nan => false
  | .infinite negative => !negative
  | .finite value _ => decide ((bound : Rat) < value)

/-- Rounding to a double moves no integer across a bound below the mantissa. -/
theorem exceeds_ofInt (value : Int) {bound : Int} (small : bound.natAbs < 2 ^ 53) :
    exceeds (ofInt value) bound = decide (bound < value) := by
  have sizes := roundMagnitude_threshold value.natAbs
  have rounded : bound < roundInt value ↔ bound < value := by
    unfold roundInt
    split <;> omega
  unfold ofInt
  split
  · simp only [exceeds, Int.cast_lt, rounded]
  · rename_i huge
    have large : 2 ^ 53 <= value.natAbs := by
      rcases sizes with ⟨fits, same⟩ | ⟨large, _⟩
      · exfalso
        have bits : value.natAbs.log2 < 54 := by
          rcases Nat.eq_zero_or_pos value.natAbs with zero | positive
          · rw [zero]
            decide
          · exact (Nat.log2_lt (by omega)).mpr (by omega)
        rw [same] at huge
        omega
      · exact large
    simp only [exceeds]
    by_cases negative : value < 0
    · simp only [negative, decide_true, Bool.not_true]
      symm
      rw [decide_eq_false_iff_not]
      omega
    · simp only [negative, decide_false, Bool.not_false]
      symm
      rw [decide_eq_true_eq]
      omega

def Double.isFinite : Double -> Bool
  | .finite .. => true
  | _ => false

/-- Rounding at most doubles a magnitude. -/
theorem roundMagnitude_le (size : Nat) : roundMagnitude size <= 2 * size := by
  unfold roundMagnitude
  split
  · omega
  · rename_i large
    have nonzero : size ≠ 0 := by omega
    have kept : size / 2 ^ (size.log2 - 52) * 2 ^ (size.log2 - 52) <= size := Nat.div_mul_le_self _ _
    have unit : 2 ^ (size.log2 - 52) <= size :=
      Nat.le_trans (Nat.pow_le_pow_right (by decide) (Nat.sub_le _ _)) (Nat.log2_self_le nonzero)
    have carried : carry size (size.log2 - 52) * 2 ^ (size.log2 - 52) <= 1 * 2 ^ (size.log2 - 52) := by
      apply Nat.mul_le_mul_right
      unfold carry
      split <;> omega
    simp only [Nat.add_mul]
    omega

/-- The integers of all 64-bit types have a finite double. -/
theorem ofInt_isFinite {value : Int} (small : value.natAbs <= 2 ^ 64) : (ofInt value).isFinite = true := by
  have rounded := roundMagnitude_le value.natAbs
  have bounded : (roundMagnitude value.natAbs).log2 < 1024 := by
    rcases Nat.eq_zero_or_pos (roundMagnitude value.natAbs) with zero | positive
    · rw [zero]
      decide
    · have bits : (roundMagnitude value.natAbs).log2 < 66 := (Nat.log2_lt (by omega)).mpr (by omega)
      omega
  rw [ofInt, dif_pos bounded]
  rfl

/-- Magnitudes up to the size of the mantissa are not rounded. -/
theorem roundMagnitude_exact {size : Nat} (small : size <= 2 ^ 53) : roundMagnitude size = size := by
  rcases Nat.lt_or_eq_of_le small with below | limit
  · exact roundMagnitude_of_lt below
  · rw [limit]
    decide

/-- The double of an integer up to the size of the mantissa stands for it. -/
theorem ofInt_exact {value : Int} (small : value.natAbs <= 2 ^ 53) :
    Exists fun representable => ofInt value = .finite value representable := by
  have size := roundMagnitude_exact small
  have exactly : roundInt value = value := by
    unfold roundInt
    rw [size]
    split <;> omega
  have bounded : (roundMagnitude value.natAbs).log2 < 1024 := by
    rw [size]
    rcases Nat.eq_zero_or_pos value.natAbs with zero | positive
    · rw [zero]
      decide
    · have bits : value.natAbs.log2 < 54 := (Nat.log2_lt (by omega)).mpr (by omega)
      omega
  have representable := representable_roundInt bounded
  rw [exactly] at representable
  refine ⟨representable, ?_⟩
  rw [ofInt, dif_pos bounded]
  simp only [exactly]

theorem truncate_intCast (value : Int) : truncate value = value := by
  rw [truncate, Rat.num_intCast, Rat.den_intCast]
  exact Int.tdiv_one value

/-- An integer up to the size of the mantissa survives the detour through a
double, whatever happens outside the 64-bit range. -/
theorem toInt64_ofInt (otherwise : Double -> Int64) {value : Int} (small : value.natAbs <= 2 ^ 53) :
    toInt64 otherwise (ofInt value) = value := by
  rcases ofInt_exact small with ⟨representable, same⟩
  rw [same]
  simp only [toInt64, truncate_intCast]
  rw [if_pos (by omega)]

end Binary64
end Foundation
end Shardman
