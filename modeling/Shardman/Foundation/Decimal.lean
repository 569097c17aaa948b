import Mathlib.Algebra.Group.Int.Defs
import Mathlib.Algebra.Group.Nat.Defs
import Mathlib.Data.List.Basic

namespace Shardman
namespace Foundation
namespace Decimal

/-!
# Decimal text

Texts are lists of characters.  Numbers are written without a plus sign and
without leading zeros, or padded with zeros to a width.  Reading accepts a
sign and any number of digits, and reports values outside the signed 64-bit
range separately: a caller that ignores the error still sees the limit.
-/

/-- The decimal form of an integer. -/
def formatInt (value : Int) : List Char :=
  if value < 0 then '-' :: Nat.toDigits 10 value.natAbs else Nat.toDigits 10 value.natAbs

/-- The decimal form of a natural number, padded with zeros on the left. -/
def padded (width value : Nat) : List Char :=
  List.replicate (width - (Nat.toDigits 10 value).length) '0' ++ Nat.toDigits 10 value

/-- The value of a non-empty text of digits. -/
def magnitude (text : List Char) : Option Nat :=
  if text ≠ [] ∧ text.all Char.isDigit = true then some (Nat.ofDigitChars 10 text 0) else none

/-- Read exactly `count` digits off the front of a text. -/
def takeDigits (count : Nat) (text : List Char) : Option (Nat × List Char) :=
  if (text.take count).length = count ∧ (text.take count).all Char.isDigit = true then
    some (Nat.ofDigitChars 10 (text.take count) 0, text.drop count)
  else
    none

/-- The outcome of reading a signed 64-bit integer. -/
inductive Reading
  | malformed
  | outOfRange (limit : Int)
  | value (number : Int)
deriving DecidableEq, Repr

/-- Cut a leading sign off a text. -/
def splitSign : List Char -> Bool × List Char
  | '-' :: rest => (true, rest)
  | '+' :: rest => (false, rest)
  | text => (false, text)

/-- Read a signed 64-bit integer in base ten. -/
def readInt (text : List Char) : Reading :=
  match magnitude (splitSign text).2 with
  | none => .malformed
  | some size =>
      let number : Int := if (splitSign text).1 then -size else size
      if number < -2 ^ 63 then .outOfRange (-2 ^ 63)
      else if 2 ^ 63 <= number then .outOfRange (2 ^ 63 - 1)
      else .value number

/-- The number a reading stands for when its error is dropped. -/
def Reading.orZero : Reading -> Int
  | .malformed => 0
  | .outOfRange limit => limit
  | .value number => number

/-- The number of a reading that succeeded. -/
def Reading.toOption : Reading -> Option Int
  | .value number => some number
  | _ => none

/-! ## Written numbers are read back -/

theorem toDigits_all_isDigit (value : Nat) : (Nat.toDigits 10 value).all Char.isDigit = true := by
  rw [List.all_eq_true]
  intro char member
  exact Nat.isDigit_of_mem_toDigits (by decide) (by decide) member

theorem padded_all_isDigit (width value : Nat) : (padded width value).all Char.isDigit = true := by
  rw [padded, List.all_append, toDigits_all_isDigit, Bool.and_true, List.all_eq_true]
  intro char member
  rw [(List.mem_replicate.mp member).2]
  decide

theorem length_padded {width value : Nat} (fits : value < 10 ^ width) (positive : 0 < width) :
    (padded width value).length = width := by
  have short := (Nat.length_toDigits_le_iff (by decide) positive).mpr fits
  rw [padded, List.length_append, List.length_replicate]
  omega

theorem ofDigitChars_padded (width value : Nat) :
    Nat.ofDigitChars 10 (padded width value) 0 = value := by
  rw [padded, Nat.ofDigitChars_append, Nat.ofDigitChars_replicate_zero, Nat.mul_zero,
    Nat.ofDigitChars_ten_toDigits]

/-- A padded number is read back from the front of a text. -/
theorem takeDigits_padded {width value : Nat} (fits : value < 10 ^ width) (positive : 0 < width)
    (rest : List Char) : takeDigits width (padded width value ++ rest) = some (value, rest) := by
  have length := length_padded fits positive
  have front : (padded width value ++ rest).take width = padded width value :=
    List.take_left' length
  have back : (padded width value ++ rest).drop width = rest := List.drop_left' length
  rw [takeDigits, front, back, if_pos ⟨length, padded_all_isDigit width value⟩,
    ofDigitChars_padded]

theorem magnitude_toDigits (value : Nat) : magnitude (Nat.toDigits 10 value) = some value := by
  rw [magnitude, if_pos ⟨Nat.toDigits_ne_nil, toDigits_all_isDigit value⟩,
    Nat.ofDigitChars_ten_toDigits]

theorem splitSign_of_isDigit {text : List Char} (digits : text.all Char.isDigit = true) :
    splitSign text = (false, text) := by
  cases text with
  | nil => rfl
  | cons head tail =>
      have first : head.isDigit = true := by
        rw [List.all_cons, Bool.and_eq_true] at digits
        exact digits.1
      unfold splitSign
      split
      · rename_i same
        cases same
        exact absurd first (by decide)
      · rename_i same
        cases same
        exact absurd first (by decide)
      · rfl

/-- A 64-bit integer is read back from its decimal form. -/
theorem readInt_formatInt {number : Int} (lower : -2 ^ 63 <= number) (upper : number < 2 ^ 63) :
    readInt (formatInt number) = .value number := by
  have inRange : ¬ number < -2 ^ 63 ∧ ¬ 2 ^ 63 <= number := by omega
  by_cases negative : number < 0
  · have size : -(number.natAbs : Int) = number := by omega
    rw [formatInt, if_pos negative, readInt]
    simp only [splitSign, magnitude_toDigits, if_true, size, if_neg inRange.1, if_neg inRange.2]
  · have size : (number.natAbs : Int) = number := by omega
    rw [formatInt, if_neg negative, readInt, splitSign_of_isDigit (toDigits_all_isDigit _)]
    simp only [magnitude_toDigits, Bool.false_eq_true, if_false, size, if_neg inRange.1,
      if_neg inRange.2]

/-- Leading zeros do not change what is read. -/
theorem readInt_padded {width value : Nat} (positive : 0 < width) (small : value < 2 ^ 63) :
    readInt (padded width value) = .value value := by
  have digits := padded_all_isDigit width value
  have nonempty : padded width value ≠ [] := by
    intro empty
    have length := congrArg List.length empty
    rw [padded, List.length_append, List.length_replicate, List.length_nil] at length
    omega
  have size : magnitude (padded width value) = some value := by
    rw [magnitude, if_pos ⟨nonempty, digits⟩, ofDigitChars_padded]
  have inRange : ¬ (value : Int) < -2 ^ 63 ∧ ¬ 2 ^ 63 <= (value : Int) := by omega
  rw [readInt, splitSign_of_isDigit digits]
  simp only [size, Bool.false_eq_true, if_false, if_neg inRange.1, if_neg inRange.2]

/-- A number that was read has 64 bits. -/
theorem readInt_range {text : List Char} {number : Int} (read : readInt text = .value number) :
    -2 ^ 63 <= number ∧ number < 2 ^ 63 := by
  unfold readInt at read
  cases found : magnitude (splitSign text).2 with
  | none =>
      rw [found] at read
      cases read
  | some size =>
      simp only [found] at read
      generalize (if (splitSign text).1 = true then -(size : Int) else size) = signed at read
      by_cases low : signed < -2 ^ 63
      · rw [if_pos low] at read
        cases read
      · rw [if_neg low] at read
        by_cases high : 2 ^ 63 <= signed
        · rw [if_pos high] at read
          cases read
        · rw [if_neg high] at read
          cases read
          omega

/-! ## Texts of one length are determined by their value -/

/-- The value of a digit. -/
def digitValue (char : Char) : Nat := char.toNat - '0'.toNat

theorem digitValue_lt {char : Char} (digit : char.isDigit = true) :
    digitValue char < 10 ∧ char.toNat = digitValue char + '0'.toNat := by
  rw [Char.isDigit, Bool.and_eq_true, decide_eq_true_eq, decide_eq_true_eq] at digit
  have least : '0'.toNat <= char.toNat := digit.1
  have greatest : char.toNat <= '0'.toNat + 9 := digit.2
  unfold digitValue
  omega

/-- The leading digit counts by its place. -/
theorem ofDigitChars_head (head : Char) (tail : List Char) :
    Nat.ofDigitChars 10 (head :: tail) 0 =
      10 ^ tail.length * digitValue head + Nat.ofDigitChars 10 tail 0 := by
  rw [Nat.ofDigitChars_cons, Nat.ofDigitChars_eq_ofDigitChars_zero, Nat.mul_zero, Nat.zero_add]
  rfl

theorem ofDigitChars_lt {text : List Char} (digits : text.all Char.isDigit = true) :
    Nat.ofDigitChars 10 text 0 < 10 ^ text.length := by
  induction text with
  | nil => decide
  | cons head tail inductionHypothesis =>
      rw [List.all_cons, Bool.and_eq_true] at digits
      have small := inductionHypothesis digits.2
      have leading := (digitValue_lt digits.1).1
      calc
        Nat.ofDigitChars 10 (head :: tail) 0
          = 10 ^ tail.length * digitValue head + Nat.ofDigitChars 10 tail 0 := ofDigitChars_head head tail
        _ < 10 ^ tail.length * (digitValue head + 1) := by
          rw [Nat.mul_succ]
          exact Nat.add_lt_add_left small _
        _ <= 10 ^ tail.length * 10 := Nat.mul_le_mul_left _ leading
        _ = 10 ^ (head :: tail).length := (Nat.pow_succ ..).symm

/-- Two texts of digits with one length and one value are the same. -/
theorem ofDigitChars_injective {first second : List Char} (firstDigits : first.all Char.isDigit = true)
    (secondDigits : second.all Char.isDigit = true) (lengths : first.length = second.length)
    (values : Nat.ofDigitChars 10 first 0 = Nat.ofDigitChars 10 second 0) : first = second := by
  induction first generalizing second with
  | nil =>
      rw [List.length_nil, eq_comm, List.length_eq_zero_iff] at lengths
      exact lengths.symm
  | cons head tail inductionHypothesis =>
      cases second with
      | nil => cases lengths
      | cons other rest =>
          rw [List.all_cons, Bool.and_eq_true] at firstDigits secondDigits
          have sameLength : tail.length = rest.length := Nat.succ.inj lengths
          have positive : 0 < 10 ^ rest.length := Nat.pow_pos (by decide)
          have firstSmall := ofDigitChars_lt firstDigits.2
          have secondSmall := ofDigitChars_lt secondDigits.2
          rw [sameLength] at firstSmall
          rw [ofDigitChars_head, ofDigitChars_head, sameLength] at values
          -- The two summands are quotient and remainder of the value.
          have leading := congrArg (· / 10 ^ rest.length) values
          have trailing := congrArg (· % 10 ^ rest.length) values
          simp only [Nat.mul_add_div positive, Nat.div_eq_of_lt firstSmall, Nat.div_eq_of_lt secondSmall,
            Nat.add_zero] at leading
          simp only [Nat.mul_add_mod, Nat.mod_eq_of_lt firstSmall, Nat.mod_eq_of_lt secondSmall] at trailing
          have heads : head = other := by
            apply Char.toNat_inj.mp
            rw [(digitValue_lt firstDigits.1).2, (digitValue_lt secondDigits.1).2, leading]
          rw [heads, inductionHypothesis firstDigits.2 secondDigits.2 sameLength trailing]

/-- Texts of digits with one length are ordered like their values. -/
theorem lt_iff_ofDigitChars_lt {first second : List Char} (firstDigits : first.all Char.isDigit = true)
    (secondDigits : second.all Char.isDigit = true) (lengths : first.length = second.length) :
    first < second ↔ Nat.ofDigitChars 10 first 0 < Nat.ofDigitChars 10 second 0 := by
  induction first generalizing second with
  | nil =>
      rw [List.length_nil, eq_comm, List.length_eq_zero_iff] at lengths
      rw [lengths]
      exact iff_of_false (List.lt_irrefl []) (Nat.lt_irrefl _)
  | cons head tail inductionHypothesis =>
      cases second with
      | nil => cases lengths
      | cons other rest =>
          rw [List.all_cons, Bool.and_eq_true] at firstDigits secondDigits
          have sameLength : tail.length = rest.length := Nat.succ.inj lengths
          have firstSmall := ofDigitChars_lt firstDigits.2
          have secondSmall := ofDigitChars_lt secondDigits.2
          have firstHead := (digitValue_lt firstDigits.1).2
          have secondHead := (digitValue_lt secondDigits.1).2
          have tails := inductionHypothesis firstDigits.2 secondDigits.2 sameLength
          rw [sameLength] at firstSmall
          rw [List.cons_lt_cons_iff, ofDigitChars_head, ofDigitChars_head, sameLength, tails]
          change head.toNat < other.toNat ∨ _ ↔ _
          rw [firstHead, secondHead]
          -- A difference in the leading digit outweighs everything that follows.
          rcases Nat.lt_trichotomy (digitValue head) (digitValue other) with less | same | greater
          · have outweighed : 10 ^ rest.length * digitValue head + 10 ^ rest.length <=
                10 ^ rest.length * digitValue other := by
              rw [← Nat.mul_succ]
              exact Nat.mul_le_mul_left _ less
            exact iff_of_true (Or.inl (by omega)) (by omega)
          · have heads : head = other := by
              apply Char.toNat_inj.mp
              rw [firstHead, secondHead, same]
            rw [same, heads]
            simp only [Nat.lt_irrefl, false_or, true_and, Nat.add_lt_add_iff_left]
          · have outweighed : 10 ^ rest.length * digitValue other + 10 ^ rest.length <=
                10 ^ rest.length * digitValue head := by
              rw [← Nat.mul_succ]
              exact Nat.mul_le_mul_left _ greater
            refine iff_of_false ?_ (by omega)
            rintro (less | ⟨same, _⟩)
            · omega
            · rw [same] at greater
              omega

/-- Padded to one width, numbers are written in their order. -/
theorem padded_lt_iff {width first second : Nat} (positive : 0 < width) (firstFits : first < 10 ^ width)
    (secondFits : second < 10 ^ width) : padded width first < padded width second ↔ first < second := by
  have lengths : (padded width first).length = (padded width second).length := by
    rw [length_padded firstFits positive, length_padded secondFits positive]
  rw [lt_iff_ofDigitChars_lt (padded_all_isDigit ..) (padded_all_isDigit ..) lengths, ofDigitChars_padded,
    ofDigitChars_padded]

/-- Padding keeps different numbers apart. -/
theorem padded_inj {width first second : Nat} : padded width first = padded width second ↔ first = second := by
  constructor
  · intro same
    rw [← ofDigitChars_padded width first, same, ofDigitChars_padded]
  · intro same
    rw [same]

/-- What is read off the front of a text is the padded form of its value. -/
theorem takeDigits_sound {width value : Nat} {text rest : List Char} (positive : 0 < width)
    (taken : takeDigits width text = some (value, rest)) :
    text = padded width value ++ rest ∧ value < 10 ^ width := by
  unfold takeDigits at taken
  split at taken
  · rename_i shape
    cases taken
    have small := ofDigitChars_lt shape.2
    rw [shape.1] at small
    have same : text.take width = padded width (Nat.ofDigitChars 10 (text.take width) 0) := by
      apply ofDigitChars_injective shape.2 (padded_all_isDigit ..)
      · rw [length_padded small positive, shape.1]
      · rw [ofDigitChars_padded]
    refine ⟨?_, small⟩
    rw [← same, List.take_append_drop]
  · cases taken

/-- Different integers have different decimal forms. -/
theorem formatInt_injective {first second : Int} (same : formatInt first = formatInt second) :
    first = second := by
  have noSign : forall value, Nat.toDigits 10 value ≠ '-' :: Nat.toDigits 10 second.natAbs ∧
      Nat.toDigits 10 value ≠ '-' :: Nat.toDigits 10 first.natAbs := by
    intro value
    have digits := toDigits_all_isDigit value
    constructor <;> intro equal <;> rw [equal, List.all_cons] at digits <;> exact absurd digits (by simp)
  have sizes : forall left right, Nat.toDigits 10 left = Nat.toDigits 10 right -> left = right := by
    intro left right equal
    rw [← Nat.ofDigitChars_ten_toDigits (n := left), equal, Nat.ofDigitChars_ten_toDigits]
  unfold formatInt at same
  split at same <;> split at same
  · have size := sizes _ _ (List.cons.inj same).2
    omega
  · exact absurd same.symm (noSign _).2
  · exact absurd same (noSign _).1
  · have size := sizes _ _ same
    omega

end Decimal
end Foundation
end Shardman
