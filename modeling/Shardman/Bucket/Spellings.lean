import Shardman.Bucket.Numeric
import Shardman.Bucket.Wire

namespace Shardman
namespace Bucket

open Foundation
open Foundation.Binary64

/-!
# Ways to write one key

The command line passes numbers as text, the client library passes Go integers,
and the server receives doubles.  Every axis reads the three forms in branches
of its own, and the time axis tries date layouts on a text before it takes it
for a number.  This module shows that the forms of one integer name one bucket,
as long as a double holds the integer.

An instant has more forms still: seconds, milliseconds, and a full time in any
zone.  A single threshold tells seconds from milliseconds.  In the range where
it cannot be wrong, all forms name the bucket of the instant.
-/

/-- The decimal form of an integer. -/
def decimalText (number : Int) : String := String.ofList (Decimal.formatInt number)

/-- Lowering the case of a text leaves digits and signs alone. -/
theorem toLower_of_plain (platform : Platform) {text : String}
    (plain : forall char, char ∈ text.toList -> char.isDigit = true ∨ char = '-') : toLower platform text = text := by
  apply String.toList_injective
  rw [toLower, String.toList_ofList]
  refine (List.map_congr_left ?_).trans (List.map_id text.toList)
  intro char member
  have early : char.toNat < 'A'.toNat := by
    rcases plain char member with digit | dash
    · have bound := Decimal.digitValue_lt digit
      have limit : '0'.toNat + 10 < 'A'.toNat := by decide
      omega
    · rw [dash]
      decide
  have ascii : char.toNat <= 0x7F := Nat.le_of_lt (Nat.lt_trans early (by decide))
  rw [lowerRune, if_pos ascii]
  exact dif_neg fun letter => Nat.not_le_of_lt early letter.1

/-! ## Decimal forms are no dates -/

theorem formatInt_plain (number : Int) {char : Char} (member : char ∈ Decimal.formatInt number) :
    char.isDigit = true ∨ char = '-' := by
  have digits := fun size => List.all_eq_true.mp (Decimal.toDigits_all_isDigit size)
  unfold Decimal.formatInt at member
  split at member
  · rcases List.mem_cons.mp member with sign | digit
    · exact Or.inr sign
    · exact Or.inl (digits _ char digit)
  · exact Or.inl (digits _ char member)

/-- A layout that begins with a year and a dash reads no decimal form: a number
has its only dash in front. -/
theorem parse_formatInt_none (items : List TimeLayout.Item) (number : Int) :
    TimeLayout.parse (TimeLayout.yearMonth ++ items) (Decimal.formatInt number) = none := by
  cases parsed : TimeLayout.parse (TimeLayout.yearMonth ++ items) (Decimal.formatInt number) with
  | none => rfl
  | some instant =>
      exfalso
      rcases TimeLayout.parse_some parsed with ⟨civil, read, _, _⟩
      rcases TimeLayout.readItems_yearMonth read with ⟨year, month, tail, yearFits, _, text, _⟩
      have front : TimeLayout.write TimeLayout.yearMonth (TimeLayout.Civil.ofDate year month 1) =
          Decimal.padded 4 year ++ '-' :: Decimal.padded 2 month := by
        simp only [TimeLayout.write, TimeLayout.yearMonth, List.flatMap_cons, List.flatMap_nil,
          TimeLayout.Item.write, TimeLayout.Civil.ofDate, if_neg (show ¬ (year : Int) < 0 by omega),
          Int.natAbs_natCast, List.append_nil, List.cons_append, List.nil_append]
      rw [front, List.append_assoc, List.cons_append] at text
      have length := Decimal.length_padded yearFits (by decide)
      have digits := Decimal.padded_all_isDigit 4 year
      cases yearText : Decimal.padded 4 year with
      | nil =>
          rw [yearText] at length
          cases length
      | cons first others =>
          rw [yearText] at text digits
          have firstDigit : first.isDigit = true := by
            rw [List.all_cons, Bool.and_eq_true] at digits
            exact digits.1
          unfold Decimal.formatInt at text
          split at text
          · rw [← (List.cons.inj text).1] at firstDigit
            exact absurd firstDigit (by decide)
          · have dash : '-' ∈ Nat.toDigits 10 number.natAbs := by
              rw [text]
              simp
            exact not_dash_of_isDigit (Decimal.toDigits_all_isDigit _) dash

/-- A decimal form is read as the number it is the form of. -/
theorem parseTimeKey_decimalText (platform : Platform) {number : Int} (lower : -2 ^ 63 <= number)
    (upper : number < 2 ^ 63) :
    parseTimeKey platform (.string (decimalText number)) =
      some (numberTime (decide (unixSecondsYear3000 < number)) number) := by
  have undated : timeKeyLayouts.findSome? (fun layout =>
      TimeLayout.parse layout (decimalText number).toList) = none := by
    rw [List.findSome?_eq_none_iff]
    intro layout member
    rw [decimalText, String.toList_ofList]
    simp only [timeKeyLayouts, List.mem_cons, List.not_mem_nil, or_false] at member
    rcases member with rfl | rfl | rfl
    · exact parse_formatInt_none _ number
    · exact parse_formatInt_none _ number
    · exact parse_formatInt_none [] number
  have read : parseInt (decimalText number) = some number := spells_formatInt lower upper
  unfold parseTimeKey
  simp only [undated, read, Option.map_some]

/-! ## Forms of one integer -/

/-- The decimal form of a 64-bit integer is in the bucket of the integer. -/
theorem sameBucket_decimalText (platform : Platform) (value : Int64) :
    SameBucket platform (.string (decimalText value.toInt)) (.int64 value) := by
  have lower := Int64.le_toInt value
  have upper := Int64.toInt_lt value
  have read : parseInt (decimalText value.toInt) = some value.toInt := spells_formatInt lower upper
  have kept : toLower platform (decimalText value.toInt) = decimalText value.toInt := by
    apply toLower_of_plain
    intro char member
    rw [decimalText, String.toList_ofList] at member
    exact formatInt_plain _ member
  apply sameBucket_of_switches
  · rw [parseTimeKey_decimalText platform lower upper, parseTimeKey_int64]
  · exact read
  · exact congrArg (fun text => some (platform.sum64String text)) kept

/-- The text of an instant under RFC 3339, on a clock that is `offset` seconds
ahead of UTC. -/
def rfc3339Text (offset instant : Int) : String :=
  String.ofList (TimeLayout.write TimeLayout.rfc3339 (TimeLayout.civilAt offset instant))

/-- The keys that carry a number. -/
def numberKeys (number : Int) : List Key :=
  [.int64 (Int64.ofInt number), .int (Int64.ofInt number), .float64 (ofInt number),
    .string (decimalText number)]

/-- The name of a bucket depends on whole seconds only. -/
theorem timeID_of_seconds (unit : TimeUnit) {first second : Int}
    (same : TimeLayout.unixSeconds first = TimeLayout.unixSeconds second) :
    timeID unit first = timeID unit second := by
  rw [timeID, timeID, TimeLayout.write_of_unixSeconds unit.layout same]

/-- Every key that carries a number is read as this number. -/
theorem parseTimeKey_numberKeys (platform : Platform) {number : Int} (small : number.natAbs <= 2 ^ 53)
    {key : Key} (member : key ∈ numberKeys number) :
    parseTimeKey platform key = some (numberTime (decide (unixSecondsYear3000 < number)) number) := by
  have value : (Int64.ofInt number).toInt = number := Int64.toInt_ofInt_of_le (by omega) (by omega)
  have survives : int64OfFloat platform (ofInt number) = number := toInt64_ofInt _ small
  have threshold := exceeds_ofInt number (show unixSecondsYear3000.natAbs < 2 ^ 53 by decide)
  simp only [numberKeys, List.mem_cons, List.not_mem_nil, or_false] at member
  rcases member with rfl | rfl | rfl | rfl
  · rw [parseTimeKey_int64, value]
  · rw [parseTimeKey_int, parseTimeKey_int64, value]
  · rw [parseTimeKey_float64, survives, threshold]
  · exact parseTimeKey_decimalText platform (by omega) (by omega)

/-- A number names the bucket of every instant in the second that it stands for. -/
theorem id_numberKeys (platform : Platform) (unit : TimeUnit) {number instant : Int}
    (small : number.natAbs <= 2 ^ 53) {key : Key} (member : key ∈ numberKeys number)
    (same : TimeLayout.unixSeconds (numberTime (decide (unixSecondsYear3000 < number)) number) =
      TimeLayout.unixSeconds instant) : (Spec.time unit).id platform key = some (timeID unit instant) := by
  simp only [Spec.id_time, parseTimeKey_numberKeys platform small member, Option.map_some, Option.some_inj]
  exact timeID_of_seconds unit same

/-- A full time is the first layout that is tried. -/
theorem parseTimeKey_rfc3339Text (platform : Platform) {offset instant : Int}
    (whole : TimeLayout.WholeMinutes offset)
    (years : TimeLayout.FourDigitYear (instant + offset * 10 ^ 9)) :
    parseTimeKey platform (.string (rfc3339Text offset instant)) =
      some (TimeLayout.unixSeconds instant * 10 ^ 9) := by
  have parsed := TimeLayout.parse_rfc3339_civilAt whole years
  unfold parseTimeKey
  simp only [timeKeyLayouts, rfc3339Text, String.toList_ofList, List.findSome?_cons, parsed]

/-- For every time spec and every instant whose second is at most the threshold
while its milliseconds are above it, every form names the bucket of the instant:
the second as a number, every millisecond of that second as a number, and the
full time on every clock whose zone can be written. -/
theorem instant_forms_name_its_bucket (platform : Platform) (unit : TimeUnit) (instant : Int)
    (seconds : TimeLayout.unixSeconds instant <= unixSecondsYear3000)
    (milliseconds : unixSecondsYear3000 < 1000 * TimeLayout.unixSeconds instant) :
    (forall key, key ∈ numberKeys (TimeLayout.unixSeconds instant) ->
      (Spec.time unit).id platform key = some (timeID unit instant)) ∧
    (forall rest : Int, 0 <= rest -> rest < 1000 ->
      forall key, key ∈ numberKeys (1000 * TimeLayout.unixSeconds instant + rest) ->
        (Spec.time unit).id platform key = some (timeID unit instant)) ∧
    (forall offset, TimeLayout.WholeMinutes offset ->
      (Spec.time unit).id platform (.string (rfc3339Text offset instant)) =
        some (timeID unit instant)) := by
  unfold unixSecondsYear3000 at seconds milliseconds
  refine ⟨?_, ?_, ?_⟩
  · intro key member
    have below : ¬ unixSecondsYear3000 < TimeLayout.unixSeconds instant := by
      unfold unixSecondsYear3000
      omega
    apply id_numberKeys platform unit (by omega) member
    rw [decide_eq_false below]
    change unixTime (TimeLayout.unixSeconds instant) / 10 ^ 9 = _
    unfold unixTime
    omega
  · intro rest nonneg small key member
    have above : unixSecondsYear3000 < 1000 * TimeLayout.unixSeconds instant + rest := by
      unfold unixSecondsYear3000
      omega
    apply id_numberKeys platform unit (by omega) member
    rw [decide_eq_true above]
    change unixMilli (1000 * TimeLayout.unixSeconds instant + rest) / 10 ^ 9 = _
    unfold unixMilli
    omega
  · intro offset whole
    have years : TimeLayout.FourDigitYear (instant + offset * 10 ^ 9) := by
      rcases whole with ⟨_, bounded⟩
      have ahead : TimeLayout.unixSeconds (instant + offset * 10 ^ 9) =
          TimeLayout.unixSeconds instant + offset := by
        unfold TimeLayout.unixSeconds
        omega
      apply TimeLayout.fourDigitYear_of_day <;> omega
    simp only [Spec.id_time, parseTimeKey_rfc3339Text platform whole years, Option.map_some, Option.some_inj]
    apply timeID_of_seconds
    change TimeLayout.unixSeconds instant * 10 ^ 9 / 10 ^ 9 = _
    omega

/-- The last second of 2023 in UTC is already 2024 two hours further east; its
bucket is the last day of 2023 in every form. -/
theorem instant_forms_name_its_bucket_new_year :
    (rfc3339Text 7200 (1704067199 * 10 ^ 9) = "2024-01-01T01:59:59+02:00" ∧
      timeID .day (1704067199 * 10 ^ 9) = "2023-12-31") ∧
    (Spec.time .day).id samplePlatform (.string (rfc3339Text 7200 (1704067199 * 10 ^ 9))) =
      some (timeID .day (1704067199 * 10 ^ 9)) :=
  ⟨by decide,
    (instant_forms_name_its_bucket samplePlatform .day (1704067199 * 10 ^ 9) (by decide) (by decide)).2.2 7200
      (by decide)⟩

end Bucket
end Shardman
