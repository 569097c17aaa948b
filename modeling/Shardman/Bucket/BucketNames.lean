import Shardman.Bucket.TimeIndex

namespace Shardman
namespace Bucket

open Foundation
open Foundation.TimeLayout

/-!
# Texts that pass for bucket names

`Spec.index` reads an index out of any text it accepts, and retention empties
the known buckets whose index is too small.  The reader of each unit accepts a
different set of texts.  A day must be written in full.  An hour may be written
with one digit, and the two numbers of a month are read without looking at the
errors.  This module says which accepted texts are the names of buckets, and
which names are accepted.
-/

/-- The texts that `timeID` produces. -/
def BucketName (unit : TimeUnit) (text : String) : Prop :=
  Exists fun instant => timeID unit instant = text

/-- The name of a bucket of the years 0..9999. -/
def FourDigitName (unit : TimeUnit) (text : String) : Prop :=
  Exists fun instant => FourDigitYear instant ∧ timeID unit instant = text

/-- The indices of the years 0..9999. -/
def TimeUnit.InYears (unit : TimeUnit) (index : Int) : Prop :=
  Exists fun instant => FourDigitYear instant ∧ unit.position instant = index

/-- The indices that do not lie after the year 9999. -/
def TimeUnit.UpToYears (unit : TimeUnit) (index : Int) : Prop :=
  Exists fun instant => FourDigitYear instant ∧ index <= unit.position instant

/-- What an accepted text must satisfy to be a name: thirteen characters for an
hour, and the form of the layout for a month. -/
def TimeUnit.FullyWritten : TimeUnit -> String -> Prop
  | .hour, text => text.toList.length = 13
  | .day, _ => True
  | .month, text => (parse yearMonth text.toList).isSome = true

instance (unit : TimeUnit) (text : String) : Decidable (unit.FullyWritten text) :=
  match unit with
  | .hour => inferInstanceAs (Decidable (_ = _))
  | .day => isTrue trivial
  | .month => inferInstanceAs (Decidable (_ = _))

/-! ## Names are fully written -/

theorem length_year {instant : Int} (years : FourDigitYear instant) :
    (Item.year.write (civilOf instant)).length = 4 := by
  rcases length_write_year (civilOf instant) with ⟨_, _, length⟩ | ⟨outside, _⟩
  · exact length
  · exact absurd (civilOf_inRange years).year outside

theorem parse_write_yearMonth {instant : Int} (years : FourDigitYear instant) :
    (parse yearMonth (write yearMonth (civilOf instant))).isSome = true := by
  have range := civilOf_inRange years
  rw [parse_write range yearMonth (by decide)]
  · rfl
  · exact ⟨Nat.le_refl 1, daysIn_pos range.month _⟩

theorem FourDigitName.fullyWritten {unit : TimeUnit} {text : String} (name : FourDigitName unit text) :
    unit.FullyWritten text := by
  rcases name with ⟨instant, years, rfl⟩
  cases unit with
  | hour =>
      simp only [TimeUnit.FullyWritten, timeID, TimeUnit.layout, String.toList_ofList]
      rw [length_write_dateHour, length_year years]
  | day => trivial
  | month =>
      simp only [TimeUnit.FullyWritten, timeID, TimeUnit.layout, String.toList_ofList]
      exact parse_write_yearMonth years

/-- A name is computed back from its index. -/
theorem FourDigitName.idFromIndex {unit : TimeUnit} {text : String} {index : Int}
    (name : FourDigitName unit text) (found : unit.index text = some index) :
    unit.idFromIndex index = text := by
  rcases name with ⟨instant, years, rfl⟩
  rw [index_timeID unit years, Option.some_inj] at found
  rw [← found, idFromIndex_position unit years]

/-! ## Accepted texts that are fully written are names -/

/-- Thirteen characters leave two of them for the hour. -/
theorem padded_hour {instant : Int} (years : FourDigitYear instant)
    (length : (write dateOnly (civilOf instant) ++
      'T' :: Decimal.padded 1 (civilOf instant).hour).length = 13) :
    Decimal.padded 1 (civilOf instant).hour = Decimal.padded 2 (civilOf instant).hour := by
  rw [List.length_append, length_write_dateOnly, length_year years, List.length_cons] at length
  have hours := civilOf_hour_lt instant
  apply Decimal.ofDigitChars_injective (Decimal.padded_all_isDigit ..) (Decimal.padded_all_isDigit ..)
  · rw [Decimal.length_padded (show (civilOf instant).hour < 10 ^ 2 by omega) (by decide)]
    omega
  · rw [Decimal.ofDigitChars_padded, Decimal.ofDigitChars_padded]

private theorem ofList_eq {text : String} {chars : List Char} (same : text.toList = chars) :
    String.ofList chars = text := by
  rw [← same, String.ofList_toList]

theorem fourDigitName_of_index {unit : TimeUnit} {text : String} {index : Int}
    (found : unit.index text = some index) (written : unit.FullyWritten text) : FourDigitName unit text := by
  cases unit with
  | hour =>
      rcases Option.map_eq_some_iff.mp ((TimeUnit.index_hour text).symm.trans found) with ⟨instant, parsed, _⟩
      rcases parse_dateHour_sound parsed with ⟨years, full | short⟩
      · exact ⟨instant, years, ofList_eq full⟩
      · refine ⟨instant, years, ofList_eq ?_⟩
        have length : text.toList.length = 13 := written
        rw [short] at length
        rw [TimeUnit.layout, write_dateHour, ← padded_hour years length, short]
  | day =>
      rcases Option.map_eq_some_iff.mp ((TimeUnit.index_day text).symm.trans found) with ⟨instant, parsed, _⟩
      rcases parse_dateOnly_sound parsed with ⟨years, full⟩
      exact ⟨instant, years, ofList_eq full⟩
  | month =>
      rcases Option.isSome_iff_exists.mp written with ⟨instant, parsed⟩
      rcases parse_yearMonth_sound parsed with ⟨years, full⟩
      exact ⟨instant, years, ofList_eq full⟩

/-! ## Accepted names -/

/-- A text with a leading sign has too many parts for a month. -/
theorem monthIndex_negative {civil : Civil} (negative : civil.year < 0) :
    monthIndex (write yearMonth civil) = none := by
  have text : write yearMonth civil =
      [] ++ '-' :: (Decimal.padded 4 civil.year.natAbs ++ '-' :: Decimal.padded 2 civil.month) := by
    simp only [write, yearMonth, List.flatMap_cons, List.flatMap_nil, Item.write, if_pos negative,
      List.append_nil, List.cons_append, List.nil_append]
  have parts : (write yearMonth civil).splitOn '-' =
      [[], Decimal.padded 4 civil.year.natAbs, Decimal.padded 2 civil.month] := by
    rw [text, List.splitOn_append_cons_self_of_not_mem List.not_mem_nil,
      List.splitOn_append_cons_self_of_not_mem (not_dash_of_isDigit (Decimal.padded_all_isDigit ..)),
      List.splitOn_eq_singleton (not_dash_of_isDigit (Decimal.padded_all_isDigit ..))]
  rw [monthIndex, parts]

/-- Parsed dates have ten characters and parsed hours at most thirteen. -/
theorem length_of_parse_dateOnly {text : List Char} {instant : Int} (parsed : parse dateOnly text = some instant) :
    text.length = 10 := by
  rcases parse_dateOnly_sound parsed with ⟨years, rfl⟩
  rw [length_write_dateOnly, length_year years]

theorem length_of_parse_dateHour {text : List Char} {instant : Int} (parsed : parse dateHour text = some instant) :
    text.length <= 13 := by
  rcases parse_dateHour_sound parsed with ⟨years, rfl | rfl⟩
  · rw [length_write_dateHour, length_year years]
  · have hours := civilOf_hour_lt instant
    have short : (Decimal.padded 1 (civilOf instant).hour).length <= 2 := by
      have digits := (Nat.length_toDigits_le_iff (b := 10) (k := 2) (n := (civilOf instant).hour)
        (by decide) (by decide)).mpr (by omega)
      rw [Decimal.padded, List.length_append, List.length_replicate]
      omega
    rw [List.length_append, length_write_dateOnly, length_year years, List.length_cons]
    omega

/-- A name outside the years 0..9999 is refused, or it is a month after them. -/
theorem index_outside {unit : TimeUnit} {instant index : Int}
    (outside : ¬ (0 <= (civilOf instant).year ∧ (civilOf instant).year <= 9999))
    (found : unit.index (timeID unit instant) = some index) : unit = .month ∧ 120000 <= index := by
  have wide : 5 <= (Item.year.write (civilOf instant)).length := by
    rcases length_write_year (civilOf instant) with ⟨lower, upper, _⟩ | ⟨_, length⟩
    · exact absurd ⟨lower, upper⟩ outside
    · exact length
  cases unit with
  | hour =>
      simp only [TimeUnit.index_hour, timeID, TimeUnit.layout, String.toList_ofList] at found
      rcases Option.map_eq_some_iff.mp found with ⟨_, parsed, _⟩
      have length := length_of_parse_dateHour parsed
      rw [length_write_dateHour] at length
      omega
  | day =>
      simp only [TimeUnit.index_day, timeID, TimeUnit.layout, String.toList_ofList] at found
      rcases Option.map_eq_some_iff.mp found with ⟨_, parsed, _⟩
      have length := length_of_parse_dateOnly parsed
      rw [length_write_dateOnly] at length
      omega
  | month =>
      simp only [TimeUnit.index_month, timeID, TimeUnit.layout, String.toList_ofList] at found
      refine ⟨rfl, ?_⟩
      by_cases negative : (civilOf instant).year < 0
      · rw [monthIndex_negative negative] at found
        exact absurd found (by simp)
      · have months := civilOf_month instant
        rw [monthIndex_write ⟨by omega, civilOf_year_lt instant⟩ months, Option.some_inj] at found
        omega

/-- A name whose index does not lie after the year 9999 is the name of a bucket
of the years 0..9999. -/
theorem BucketName.fourDigitName {unit : TimeUnit} {text : String} {index : Int} (name : BucketName unit text)
    (found : unit.index text = some index) (bounded : unit.UpToYears index) : FourDigitName unit text := by
  rcases name with ⟨instant, rfl⟩
  by_cases shown : 0 <= (civilOf instant).year ∧ (civilOf instant).year <= 9999
  · rcases exists_fourDigitYear shown with ⟨inside, years, same⟩
    exact ⟨inside, years, by rw [timeID, same, timeID]⟩
  · exfalso
    rcases index_outside shown found with ⟨rfl, late⟩
    rcases bounded with ⟨last, years, upper⟩
    have months := (dateOf_valid last).1
    have year := years.2
    simp only [TimeUnit.position, Date.monthNumber] at upper
    omega

/-! ## Retention and the texts it lists -/

theorem index_of_listed {unit : TimeUnit} {now retentionDepth : Int} {known listed : List String} {text : String}
    (selected : bucketsOutsideRetention (.time unit) now retentionDepth known = some listed)
    (member : text ∈ listed) : Exists fun index => unit.index text = some index := by
  simp only [bucketsOutsideRetention, Spec.currentID, Spec.index_time] at selected
  cases current : unit.index (timeID unit now) with
  | none => simp [current] at selected
  | some currentIdx =>
      simp only [current, Option.some_inj] at selected
      rw [← selected, List.mem_filter, outsideWindow] at member
      cases found : unit.index text with
      | none =>
          rw [Spec.index_time, found] at member
          split at member <;> exact absurd member.2 Bool.false_ne_true
      | some index => exact ⟨index, rfl⟩

/-- An accepted text with an index of the years 0..9999 is computed back from
its index exactly when it is fully written.  Fully written texts have different
indices, and a text that retention lists is the name of a bucket exactly when
it is fully written, as long as its index does not lie after the year 9999. -/
theorem accepted_is_canonical_iff (unit : TimeUnit) :
    (forall text index, (Spec.time unit).index text = some index -> unit.InYears index ->
      ((Spec.time unit).idFromIndex index = some text ↔ unit.FullyWritten text)) ∧
    (forall first second index, (Spec.time unit).index first = some index ->
      (Spec.time unit).index second = some index ->
      unit.FullyWritten first -> unit.FullyWritten second -> first = second) ∧
    (forall now retentionDepth known listed text,
      bucketsOutsideRetention (.time unit) now retentionDepth known = some listed -> text ∈ listed ->
      Exists fun index => (Spec.time unit).index text = some index ∧
        (unit.UpToYears index -> (BucketName unit text ↔ unit.FullyWritten text))) := by
  refine ⟨?_, ?_, ?_⟩
  · intro text index found inYears
    constructor
    · intro back
      rcases inYears with ⟨instant, years, rfl⟩
      have name : timeID unit instant = text := by
        rw [← idFromIndex_position unit years]
        exact Option.some_inj.mp back
      exact FourDigitName.fullyWritten ⟨instant, years, name⟩
    · intro written
      exact congrArg some ((fourDigitName_of_index found written).idFromIndex found)
  · intro first second index foundFirst foundSecond firstWritten secondWritten
    rw [← (fourDigitName_of_index foundFirst firstWritten).idFromIndex foundFirst]
    exact (fourDigitName_of_index foundSecond secondWritten).idFromIndex foundSecond
  · intro now retentionDepth known listed text selected member
    rcases index_of_listed selected member with ⟨index, found⟩
    refine ⟨index, found, ?_⟩
    intro bounded
    constructor
    · intro name
      exact (name.fourDigitName found bounded).fullyWritten
    · intro written
      rcases fourDigitName_of_index found written with ⟨instant, _, same⟩
      exact ⟨instant, same⟩

/-- A padded hour of 2024, both ways of the equivalence, and a listed day. -/
theorem accepted_is_canonical_iff_2024 :
    ((Spec.time .hour).index "2024-01-02T05" = some 473381 ∧ TimeUnit.hour.InYears 473381 ∧
      TimeUnit.hour.FullyWritten "2024-01-02T05" ∧
      (Spec.time .hour).idFromIndex 473381 = some "2024-01-02T05") ∧
    bucketsOutsideRetention (.time .day) (unixTime 1704153600) 2 ["2023-12-31"] = some ["2023-12-31"] ∧
    BucketName .day "2023-12-31" := by
  have found : (Spec.time .hour).index "2024-01-02T05" = some 473381 := by decide
  have inYears : TimeUnit.hour.InYears 473381 := ⟨unixTime 1704171600, by decide, by decide⟩
  have written : TimeUnit.hour.FullyWritten "2024-01-02T05" := by decide
  have selected : bucketsOutsideRetention (.time .day) (unixTime 1704153600) 2 ["2023-12-31"] =
      some ["2023-12-31"] := by decide
  refine ⟨⟨found, inYears, written, ((accepted_is_canonical_iff .hour).1 _ _ found inYears).mpr written⟩,
    selected, ?_⟩
  rcases (accepted_is_canonical_iff .day).2.2 _ _ _ _ _ selected (List.mem_singleton.mpr rfl) with
    ⟨index, listed, canonical⟩
  have same : (Spec.time .day).index "2023-12-31" = some 19722 := by decide
  rw [same, Option.some_inj] at listed
  exact (canonical ⟨unixTime 1704153600, by decide, by rw [← listed]; decide⟩).mpr trivial

/-- A month whose second part is no number reads as the month before its year,
and an hour of one digit as the padded hour: retention lists both, and the
buckets of their indices have other names. -/
theorem unwritten_texts_listed :
    (Spec.time .month).index "2024-x" = some 24287 ∧
    (Spec.time .month).index "2023-12" = some 24287 ∧
    (Spec.time .month).idFromIndex 24287 = some "2023-12" ∧
    (Spec.time .hour).index "2024-01-02T5" = some 473381 ∧
    (Spec.time .hour).idFromIndex 473381 = some "2024-01-02T05" ∧
    bucketsOutsideRetention (.time .month) (unixTime 1717200000) 3 ["2024-x", "2024-06"] = some ["2024-x"] ∧
    ¬ BucketName .month "2024-x" := by
  have found : (Spec.time .month).index "2024-x" = some 24287 := by decide
  refine ⟨found, by decide, by decide, by decide, by decide, by decide, ?_⟩
  intro name
  have inside := name.fourDigitName found ⟨unixTime 1717200000, by decide, by decide⟩
  exact absurd inside.fullyWritten (by decide)

end Bucket
end Shardman
