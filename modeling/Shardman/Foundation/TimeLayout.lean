import Shardman.Foundation.Calendar
import Shardman.Foundation.Decimal

namespace Shardman
namespace Foundation
namespace TimeLayout


open Decimal

/-!
# Time layouts

A layout is a list of items.  An instant, counted in nanoseconds since the
Unix epoch, is broken down into calendar fields and written item by item;
reading goes through the same items and reports failure on the first one that
does not fit, on text left over, and on a day the month does not have.

The rules are those of the Go standard library: fixed two-digit fields, an
hour of one or two digits, a four-digit year, and an optional fraction after
the seconds.
-/

/-- The calendar fields of an instant, at an offset in seconds east of UTC. -/
@[ext] structure Civil where
  year : Int
  month : Nat
  day : Nat
  hour : Nat
  minute : Nat
  second : Nat
  nanosecond : Nat
  offset : Int
deriving DecidableEq, Repr

namespace Civil

/-- The fields that reading starts from. -/
def blank : Civil := ⟨0, 1, 1, 0, 0, 0, 0, 0⟩

def date (civil : Civil) : Date := ⟨civil.year, civil.month, civil.day⟩

/-- Seconds since the Unix epoch. -/
def unix (civil : Civil) : Int :=
  civil.date.dayNumber * 86400 + civil.hour * 3600 + civil.minute * 60 + civil.second - civil.offset

/-- The instant that fields stand for. -/
def instant (civil : Civil) : Int :=
  civil.unix * 10 ^ 9 + civil.nanosecond

end Civil

/-- Whole seconds since the Unix epoch. -/
def unixSeconds (instant : Int) : Int := instant / 10 ^ 9

/-- Seconds from the earliest year the calendar arithmetic can count from. -/
def absoluteZero : Int := 9223372028715321600

/-- Calendar arithmetic is done on unsigned 64-bit seconds: an instant before
the earliest year wraps around to the latest ones. -/
def wrapSeconds (seconds : Int) : Int :=
  (seconds + absoluteZero) % 2 ^ 64 - absoluteZero

/-- The calendar fields of an instant in UTC. -/
def civilOf (instant : Int) : Civil :=
  let seconds := wrapSeconds (unixSeconds instant)
  let day := dateOfDay (seconds / 86400)
  let secondOfDay := (seconds % 86400).toNat
  { year := day.year
    month := day.month
    day := day.day
    hour := secondOfDay / 3600
    minute := secondOfDay / 60 % 60
    second := secondOfDay % 60
    nanosecond := (instant % 10 ^ 9).toNat
    offset := 0 }

inductive Item
  | year
  | month
  | day
  | hour
  | minute
  | second
  | zone
  | mark (char : Char)
deriving DecidableEq, Repr

/-! ## Writing -/

def writeZone (offset : Int) : List Char :=
  if offset = 0 then
    ['Z']
  else
    (if offset < 0 then '-' else '+') ::
      (padded 2 (offset.natAbs / 3600) ++ ':' :: padded 2 (offset.natAbs / 60 % 60))

def Item.write (civil : Civil) : Item -> List Char
  | .year => if civil.year < 0 then '-' :: padded 4 civil.year.natAbs else padded 4 civil.year.natAbs
  | .month => padded 2 civil.month
  | .day => padded 2 civil.day
  | .hour => padded 2 civil.hour
  | .minute => padded 2 civil.minute
  | .second => padded 2 civil.second
  | .zone => writeZone civil.offset
  | .mark char => [char]

/-- The text of the fields under a layout. -/
def write (layout : List Item) (civil : Civil) : List Char :=
  layout.flatMap (Item.write civil)

/-- No layout shows parts of a second. -/
theorem write_of_unixSeconds (layout : List Item) {first second : Int} (same : unixSeconds first = unixSeconds second) :
    write layout (civilOf first) = write layout (civilOf second) := by
  have fields : civilOf second = { civilOf first with nanosecond := (second % 10 ^ 9).toNat } := by
    simp only [civilOf, same]
  have items : Item.write (civilOf first) = Item.write (civilOf second) := by
    rw [fields]
    funext item
    cases item <;> rfl
  rw [write, write, items]

/-! ## Reading -/

/-- One or two digits. -/
def takeNumber (text : List Char) : Option (Nat × List Char) :=
  match takeDigits 2 text with
  | some found => some found
  | none => takeDigits 1 text

/-- A fraction of a second, if the text goes on with one.  Digits past the
ninth are read over. -/
def takeFraction : List Char -> Nat × List Char
  | separator :: digit :: rest =>
      if (separator = '.' ∨ separator = ',') ∧ digit.isDigit = true then
        let digits := (digit :: rest.takeWhile Char.isDigit).take 9
        (Nat.ofDigitChars 10 digits 0 * 10 ^ (9 - digits.length), rest.dropWhile Char.isDigit)
      else
        (0, separator :: digit :: rest)
  | text => (0, text)

/-- A zone: the letter of UTC, or a sign with hours and minutes. -/
def takeZone : List Char -> Option (Int × List Char)
  | 'Z' :: rest => some (0, rest)
  | sign :: rest =>
      if sign = '+' ∨ sign = '-' then
        match takeDigits 2 rest with
        | some (hours, ':' :: tail) =>
            match takeDigits 2 tail with
            | some (minutes, last) =>
                if hours <= 24 ∧ minutes <= 60 then
                  let offset : Int := (hours * 60 + minutes) * 60
                  some (if sign = '-' then -offset else offset, last)
                else
                  none
            | none => none
        | _ => none
      else
        none
  | [] => none

/-- Read a number into a field when it lies in the field's range. -/
def readField (found : Option (Nat × List Char)) (allowed : Nat -> Bool) (store : Nat -> Civil) :
    Option (Civil × List Char) :=
  match found with
  | some (value, rest) => if allowed value then some (store value, rest) else none
  | none => none

def Item.read (civil : Civil) (text : List Char) : Item -> Option (Civil × List Char)
  | .year => readField (takeDigits 4 text) (fun _ => true) fun value => { civil with year := value }
  | .month =>
      readField (takeDigits 2 text) (fun value => decide (1 <= value ∧ value <= 12)) fun value =>
        { civil with month := value }
  | .day => readField (takeDigits 2 text) (fun _ => true) fun value => { civil with day := value }
  | .hour =>
      readField (takeNumber text) (fun value => decide (value < 24)) fun value =>
        { civil with hour := value }
  | .minute =>
      readField (takeDigits 2 text) (fun value => decide (value < 60)) fun value =>
        { civil with minute := value }
  | .second =>
      match readField (takeDigits 2 text) (fun value => decide (value < 60)) fun value =>
        { civil with second := value } with
      | some (stored, rest) =>
          let (nanosecond, last) := takeFraction rest
          some ({ stored with nanosecond := nanosecond }, last)
      | none => none
  | .zone =>
      match takeZone text with
      | some (offset, rest) => some ({ civil with offset := offset }, rest)
      | none => none
  | .mark char =>
      match text with
      | head :: rest => if head = char then some (civil, rest) else none
      | [] => none

def readItems : List Item -> Civil -> List Char -> Option (Civil × List Char)
  | [], civil, text => some (civil, text)
  | item :: items, civil, text =>
      match item.read civil text with
      | some (next, rest) => readItems items next rest
      | none => none

/-- Parse a whole text under a layout. -/
def parse (layout : List Item) (text : List Char) : Option Int :=
  match readItems layout Civil.blank text with
  | some (civil, []) =>
      if 1 <= civil.day ∧ civil.day <= daysIn civil.month civil.year then some civil.instant else none
  | _ => none

/-! ## What is written is read back -/

/-- Copy the field of an item from one record to another. -/
def Item.copy (source target : Civil) : Item -> Civil
  | .year => { target with year := source.year }
  | .month => { target with month := source.month }
  | .day => { target with day := source.day }
  | .hour => { target with hour := source.hour }
  | .minute => { target with minute := source.minute }
  | .second => { target with second := source.second }
  | .zone => { target with offset := source.offset }
  | .mark _ => target

/-- Fields that the fixed-width items can hold. -/
structure Civil.InRange (civil : Civil) : Prop where
  year : 0 <= civil.year ∧ civil.year <= 9999
  month : 1 <= civil.month ∧ civil.month <= 12
  day : civil.day < 100
  hour : civil.hour < 24
  minute : civil.minute < 60

/-- Items whose text ends where the field ends, whatever follows. -/
def Item.selfDelimiting (item : Item) : Bool :=
  item != .second && item != .zone

private theorem takeNumber_padded {value : Nat} (fits : value < 100) (rest : List Char) :
    takeNumber (padded 2 value ++ rest) = some (value, rest) := by
  rw [takeNumber, takeDigits_padded fits (by decide)]

/-- One item reads back the field it wrote. -/
theorem Item.read_write {source : Civil} (range : source.InRange) (target : Civil)
    (rest : List Char) (item : Item) (plain : item.selfDelimiting = true) :
    item.read target (item.write source ++ rest) = some (item.copy source target, rest) := by
  have years := range.year
  have months := range.month
  have hours := range.hour
  have minutes := range.minute
  cases item with
  | year =>
      have fits : source.year.natAbs < 10 ^ 4 := by omega
      have size : (source.year.natAbs : Int) = source.year := by omega
      simp only [Item.write, if_neg (show ¬ source.year < 0 by omega), Item.read,
        takeDigits_padded fits (by decide : 0 < 4), readField, if_true, size, Item.copy]
  | month =>
      have fits : source.month < 10 ^ 2 := by omega
      simp only [Item.write, Item.read, takeDigits_padded fits (by decide : 0 < 2), readField,
        months, and_self, decide_true, if_true, Item.copy]
  | day =>
      simp only [Item.write, Item.read, takeDigits_padded range.day (by decide : 0 < 2), readField,
        if_true, Item.copy]
  | hour =>
      have fits : source.hour < 100 := by omega
      simp only [Item.write, Item.read, takeNumber_padded fits, readField, hours, decide_true,
        if_true, Item.copy]
  | minute =>
      have fits : source.minute < 10 ^ 2 := by omega
      simp only [Item.write, Item.read, takeDigits_padded fits (by decide : 0 < 2), readField,
        minutes, decide_true, if_true, Item.copy]
  | second => exact absurd plain (by decide)
  | zone => exact absurd plain (by decide)
  | mark char =>
      simp only [Item.write, Item.read, List.cons_append, List.nil_append, if_true, Item.copy]

/-- A layout reads back every field it wrote. -/
theorem readItems_write {source : Civil} (range : source.InRange) (rest : List Char)
    (layout : List Item) (plain : forall item, item ∈ layout -> item.selfDelimiting = true)
    (target : Civil) :
    readItems layout target (write layout source ++ rest) =
      some (layout.foldl (Item.copy source) target, rest) := by
  induction layout generalizing target with
  | nil => rfl
  | cons item items inductionHypothesis =>
      have first := Item.read_write range target (write items source ++ rest) item
        (plain item (List.mem_cons_self ..))
      have others := inductionHypothesis
        (fun other member => plain other (List.mem_cons_of_mem _ member)) (item.copy source target)
      have split : write (item :: items) source ++ rest =
          item.write source ++ (write items source ++ rest) := by
        simp only [write, List.flatMap_cons, List.append_assoc]
      simp only [readItems, split, first, others, List.foldl_cons]

/-- A written time parses to the instant of the fields its layout names. -/
theorem parse_write {source : Civil} (range : source.InRange) (layout : List Item)
    (plain : forall item, item ∈ layout -> item.selfDelimiting = true)
    (valid : 1 <= (layout.foldl (Item.copy source) Civil.blank).day ∧
      (layout.foldl (Item.copy source) Civil.blank).day <=
        daysIn (layout.foldl (Item.copy source) Civil.blank).month
          (layout.foldl (Item.copy source) Civil.blank).year) :
    parse layout (write layout source) =
      some (layout.foldl (Item.copy source) Civil.blank).instant := by
  have read := readItems_write range [] layout plain Civil.blank
  rw [List.append_nil] at read
  rw [parse, read]
  exact if_pos valid

/-! ## Instants inside the four-digit years -/

/-- The date and the hour, as in 2006-01-02T15. -/
def dateHour : List Item :=
  [.year, .mark '-', .month, .mark '-', .day, .mark 'T', .hour]

/-- The date, as in 2006-01-02. -/
def dateOnly : List Item :=
  [.year, .mark '-', .month, .mark '-', .day]

/-- The month, as in 2006-01. -/
def yearMonth : List Item :=
  [.year, .mark '-', .month]

/-- The full time with its zone, as in 2006-01-02T15:04:05Z07:00. -/
def rfc3339 : List Item :=
  [.year, .mark '-', .month, .mark '-', .day, .mark 'T', .hour, .mark ':', .minute, .mark ':',
    .second, .zone]

/-- The UTC date of an instant. -/
def dateOf (instant : Int) : Date :=
  dateOfDay (unixSeconds instant / 86400)

/-- The instants whose year lies in 0..9999. -/
def FourDigitYear (instant : Int) : Prop :=
  0 <= (dateOf instant).year ∧ (dateOf instant).year <= 9999

instance (instant : Int) : Decidable (FourDigitYear instant) :=
  inferInstanceAs (Decidable (_ ∧ _))

/-- Day counts of the years 0..9999. -/
theorem day_bounds {instant : Int} (years : FourDigitYear instant) :
    -719528 <= unixSeconds instant / 86400 ∧ unixSeconds instant / 86400 <= 2932896 := by
  have count : (dateOf instant).dayNumber = unixSeconds instant / 86400 := dayNumber_dateOfDay _
  have valid : (dateOf instant).Valid := dateOfDay_valid _
  have first := valid.2.1
  have inMonth := valid.inMonth
  have inYear := valid.inYear
  have length : yearLength (isLeap (dateOf instant).year) <= 366 := by
    cases isLeap (dateOf instant).year <;> decide
  rcases years with ⟨lower, upper⟩
  rw [← count]
  simp only [Date.dayNumber, daysBeforeYear]
  constructor
  · omega
  · by_cases last : (dateOf instant).year = 9999
    · have short : yearLength (isLeap (dateOf instant).year) = 365 := by
        rw [last]
        decide
      omega
    · omega

/-- Calendar arithmetic does not wrap in the years 0..9999. -/
theorem wrapSeconds_eq {instant : Int} (years : FourDigitYear instant) :
    wrapSeconds (unixSeconds instant) = unixSeconds instant := by
  have bounds := day_bounds years
  unfold wrapSeconds absoluteZero
  omega

theorem civilOf_date {instant : Int} (years : FourDigitYear instant) :
    (civilOf instant).date = dateOf instant := by
  simp only [civilOf, wrapSeconds_eq years, Civil.date, dateOf]

theorem civilOf_inRange {instant : Int} (years : FourDigitYear instant) :
    (civilOf instant).InRange := by
  have same := civilOf_date years
  have valid : (dateOf instant).Valid := dateOfDay_valid _
  have length := daysIn_le valid.1.2 (dateOf instant).year
  have clock : ((wrapSeconds (unixSeconds instant)) % 86400).toNat < 86400 := by omega
  refine ⟨?_, ?_, ?_, ?_, ?_⟩
  · have year : (civilOf instant).year = (dateOf instant).year := congrArg Date.year same
    rw [year]
    exact years
  · have month : (civilOf instant).month = (dateOf instant).month := congrArg Date.month same
    rw [month]
    exact valid.1
  · have day : (civilOf instant).day = (dateOf instant).day := congrArg Date.day same
    rw [day]
    have upper := valid.2.2
    omega
  · simp only [civilOf]
    omega
  · simp only [civilOf]
    omega

theorem civilOf_hour {instant : Int} (years : FourDigitYear instant) :
    ((civilOf instant).hour : Int) = unixSeconds instant % 86400 / 3600 := by
  simp only [civilOf, wrapSeconds_eq years]
  omega

/-- A written date parses to the start of its day. -/
theorem parse_dateOnly {instant : Int} (years : FourDigitYear instant) :
    parse dateOnly (write dateOnly (civilOf instant)) =
      some (unixSeconds instant / 86400 * 86400 * 10 ^ 9) := by
  have same := civilOf_date years
  have valid : (dateOf instant).Valid := dateOfDay_valid _
  have count : (dateOf instant).dayNumber = unixSeconds instant / 86400 := dayNumber_dateOfDay _
  rw [← same] at valid count
  rw [parse_write (civilOf_inRange years) dateOnly (by decide) valid.2]
  simp only [dateOnly, List.foldl_cons, List.foldl_nil, Item.copy, Civil.blank, Civil.instant,
    Civil.unix]
  change some (((civilOf instant).date.dayNumber * 86400 + _ + _ + _ - _) * _ + _) = _
  rw [count]
  congr 1
  omega

/-- A written date and hour parse to the start of their hour. -/
theorem parse_dateHour {instant : Int} (years : FourDigitYear instant) :
    parse dateHour (write dateHour (civilOf instant)) =
      some (unixSeconds instant / 3600 * 3600 * 10 ^ 9) := by
  have same := civilOf_date years
  have valid : (dateOf instant).Valid := dateOfDay_valid _
  have count : (dateOf instant).dayNumber = unixSeconds instant / 86400 := dayNumber_dateOfDay _
  have hour := civilOf_hour years
  rw [← same] at valid count
  rw [parse_write (civilOf_inRange years) dateHour (by decide) valid.2]
  simp only [dateHour, List.foldl_cons, List.foldl_nil, Item.copy, Civil.blank, Civil.instant,
    Civil.unix]
  change some (((civilOf instant).date.dayNumber * 86400 + _ + _ + _ - _) * _ + _) = _
  rw [count, hour]
  congr 1
  omega

/-! ## What is read was written -/

theorem readField_some {found : Option (Nat × List Char)} {allowed : Nat -> Bool} {store : Nat -> Civil}
    {civil : Civil} {rest : List Char} (read : readField found allowed store = some (civil, rest)) :
    Exists fun value => found = some (value, rest) ∧ allowed value = true ∧ civil = store value := by
  unfold readField at read
  split at read
  · rename_i value tail
    by_cases inside : allowed value = true
    · rw [if_pos inside] at read
      cases read
      exact ⟨value, rfl, inside, rfl⟩
    · rw [if_neg inside] at read
      cases read
  · cases read

theorem readItems_cons {item : Item} {items : List Item} {civil final : Civil} {text rest : List Char}
    (read : readItems (item :: items) civil text = some (final, rest)) :
    Exists fun next => Exists fun tail => item.read civil text = some (next, tail) ∧
      readItems items next tail = some (final, rest) := by
  unfold readItems at read
  split at read
  · rename_i next tail first
    exact ⟨next, tail, first, read⟩
  · cases read

theorem readItems_mark {char : Char} {items : List Item} {civil final : Civil} {text rest : List Char}
    (read : readItems (.mark char :: items) civil text = some (final, rest)) :
    Exists fun tail => text = char :: tail ∧ readItems items civil tail = some (final, rest) := by
  rcases readItems_cons read with ⟨next, tail, first, others⟩
  cases text with
  | nil => cases first
  | cons head after =>
      change (if head = char then some (civil, after) else none) = some (next, tail) at first
      by_cases same : head = char
      · rw [if_pos same] at first
        cases first
        exact ⟨tail, by rw [same], others⟩
      · rw [if_neg same] at first
        cases first

/-- The fields of a date at midnight. -/
def Civil.ofDate (year month day : Nat) : Civil :=
  { Civil.blank with year := year, month := month, day := day }

/-- Reading a year and a month consumes exactly what writing them produces. -/
theorem readItems_yearMonth {items : List Item} {text rest : List Char} {final : Civil}
    (read : readItems (yearMonth ++ items) Civil.blank text = some (final, rest)) :
    Exists fun year => Exists fun month => Exists fun tail => year < 10 ^ 4 ∧ (1 <= month ∧ month <= 12) ∧
      text = write yearMonth (Civil.ofDate year month 1) ++ tail ∧
      readItems items (Civil.ofDate year month 1) tail = some (final, rest) := by
  rcases readItems_cons read with ⟨_, afterYear, readYear, readMark⟩
  rcases readField_some readYear with ⟨year, takenYear, _, rfl⟩
  rcases takeDigits_sound (by decide) takenYear with ⟨yearText, yearFits⟩
  rcases readItems_mark readMark with ⟨afterMark, markText, readNext⟩
  rcases readItems_cons readNext with ⟨_, tail, readMonth, others⟩
  rcases readField_some readMonth with ⟨month, takenMonth, monthFits, rfl⟩
  rcases takeDigits_sound (by decide) takenMonth with ⟨monthText, _⟩
  refine ⟨year, month, tail, yearFits, of_decide_eq_true monthFits, ?_, others⟩
  rw [yearText, markText, monthText]
  simp only [write, yearMonth, List.flatMap_cons, List.flatMap_nil, Item.write, Civil.ofDate,
    if_neg (show ¬ (year : Int) < 0 by omega), Int.natAbs_natCast, List.append_nil, List.append_assoc,
    List.cons_append, List.nil_append]

theorem readItems_dateOnly {items : List Item} {text rest : List Char} {final : Civil}
    (read : readItems (dateOnly ++ items) Civil.blank text = some (final, rest)) :
    Exists fun year => Exists fun month => Exists fun day => Exists fun tail =>
      year < 10 ^ 4 ∧ (1 <= month ∧ month <= 12) ∧
      text = write dateOnly (Civil.ofDate year month day) ++ tail ∧
      readItems items (Civil.ofDate year month day) tail = some (final, rest) := by
  have split : dateOnly ++ items = yearMonth ++ (.mark '-' :: .day :: items) := rfl
  rw [split] at read
  rcases readItems_yearMonth read with ⟨year, month, afterMonth, yearFits, monthFits, monthText, readMark⟩
  rcases readItems_mark readMark with ⟨afterMark, markText, readNext⟩
  rcases readItems_cons readNext with ⟨_, tail, readDay, others⟩
  rcases readField_some readDay with ⟨day, takenDay, _, rfl⟩
  rcases takeDigits_sound (by decide) takenDay with ⟨dayText, _⟩
  refine ⟨year, month, day, tail, yearFits, monthFits, ?_, others⟩
  have longer : write dateOnly (Civil.ofDate year month day) =
      write yearMonth (Civil.ofDate year month 1) ++ '-' :: padded 2 day := by
    simp only [write, dateOnly, yearMonth, List.flatMap_cons, List.flatMap_nil, Item.write, Civil.ofDate,
      List.append_nil, List.append_assoc, List.cons_append, List.nil_append]
  rw [monthText, markText, dayText, longer, List.append_assoc, List.cons_append]

/-- The hour is the one field that may be written with a single digit. -/
theorem takeNumber_sound {value : Nat} {text rest : List Char} (taken : takeNumber text = some (value, rest)) :
    text = padded 2 value ++ rest ∨ text = padded 1 value ++ rest := by
  unfold takeNumber at taken
  split at taken
  · rename_i found both
    cases taken
    exact Or.inl (takeDigits_sound (by decide) both).1
  · exact Or.inr (takeDigits_sound (by decide) taken).1

theorem parse_some {layout : List Item} {text : List Char} {instant : Int}
    (parsed : parse layout text = some instant) :
    Exists fun civil => readItems layout Civil.blank text = some (civil, []) ∧
      (1 <= civil.day ∧ civil.day <= daysIn civil.month civil.year) ∧ instant = civil.instant := by
  unfold parse at parsed
  split at parsed
  · rename_i civil read
    by_cases inMonth : 1 <= civil.day ∧ civil.day <= daysIn civil.month civil.year
    · rw [if_pos inMonth] at parsed
      cases parsed
      exact ⟨civil, read, inMonth, rfl⟩
    · rw [if_neg inMonth] at parsed
      cases parsed
  · cases parsed

/-- Fields that a clock in UTC shows in the years 0..9999. -/
structure Civil.Shown (civil : Civil) : Prop where
  valid : civil.date.Valid
  year : 0 <= civil.year ∧ civil.year <= 9999
  hour : civil.hour < 24
  minute : civil.minute < 60
  second : civil.second < 60
  nanosecond : civil.nanosecond < 10 ^ 9
  offset : civil.offset = 0

/-- An instant built from shown fields has these fields. -/
theorem civilOf_instant {civil : Civil} (shown : civil.Shown) :
    FourDigitYear civil.instant ∧ civilOf civil.instant = civil := by
  have hour := shown.hour
  have minute := shown.minute
  have second := shown.second
  have nanosecond := shown.nanosecond
  have offset := shown.offset
  have seconds : unixSeconds civil.instant =
      civil.date.dayNumber * 86400 + civil.hour * 3600 + civil.minute * 60 + civil.second := by
    unfold unixSeconds Civil.instant Civil.unix
    omega
  have date : dateOf civil.instant = civil.date := by
    have day : unixSeconds civil.instant / 86400 = civil.date.dayNumber := by omega
    rw [dateOf, day, dateOfDay_dayNumber shown.valid]
  have years : FourDigitYear civil.instant := by
    rw [FourDigitYear, date]
    exact shown.year
  have same := civilOf_date years
  rw [date] at same
  refine ⟨years, ?_⟩
  have fields : (civilOf civil.instant).year = civil.year ∧ (civilOf civil.instant).month = civil.month ∧
      (civilOf civil.instant).day = civil.day :=
    ⟨congrArg Date.year same, congrArg Date.month same, congrArg Date.day same⟩
  have clock : (civilOf civil.instant).hour = civil.hour ∧ (civilOf civil.instant).minute = civil.minute ∧
      (civilOf civil.instant).second = civil.second := by
    simp only [civilOf, wrapSeconds_eq years]
    omega
  have fraction : (civilOf civil.instant).nanosecond = civil.nanosecond := by
    simp only [civilOf, Civil.instant]
    omega
  have zone : (civilOf civil.instant).offset = civil.offset := offset.symm
  apply Civil.ext
  all_goals first | exact zone | exact fraction | omega

/-- The fields of an hour of a date. -/
def Civil.ofHour (year month day hour : Nat) : Civil :=
  { Civil.ofDate year month day with hour := hour }

theorem ofHour_shown {year month day hour : Nat} (yearFits : year < 10 ^ 4)
    (monthFits : 1 <= month ∧ month <= 12) (dayFits : 1 <= day ∧ day <= daysIn month year)
    (hourFits : hour < 24) : (Civil.ofHour year month day hour).Shown where
  valid := ⟨monthFits, dayFits⟩
  year := by
    change (0 : Int) <= year ∧ (year : Int) <= 9999
    omega
  hour := hourFits
  minute := (by decide : 0 < 60)
  second := (by decide : 0 < 60)
  nanosecond := (by decide : 0 < 10 ^ 9)
  offset := rfl

theorem write_dateHour (civil : Civil) :
    write dateHour civil = write dateOnly civil ++ 'T' :: padded 2 civil.hour := by
  simp only [write, dateHour, dateOnly, List.flatMap_cons, List.flatMap_nil, Item.write, List.append_nil,
    List.append_assoc, List.cons_append, List.nil_append]

/-- Every text that parses as a month is the written form of the month it names. -/
theorem parse_yearMonth_sound {text : List Char} {instant : Int} (parsed : parse yearMonth text = some instant) :
    FourDigitYear instant ∧ text = write yearMonth (civilOf instant) := by
  rcases parse_some parsed with ⟨civil, read, inMonth, rfl⟩
  rcases readItems_yearMonth (show readItems (yearMonth ++ []) Civil.blank text = some (civil, []) from read)
    with ⟨year, month, tail, yearFits, monthFits, textEq, finished⟩
  cases finished
  rcases civilOf_instant (ofHour_shown yearFits monthFits inMonth (show 0 < 24 by decide)) with ⟨years, same⟩
  refine ⟨years, ?_⟩
  rw [textEq, List.append_nil]
  exact congrArg (write yearMonth) same.symm

/-- Every text that parses as a date is the written form of the date it names. -/
theorem parse_dateOnly_sound {text : List Char} {instant : Int} (parsed : parse dateOnly text = some instant) :
    FourDigitYear instant ∧ text = write dateOnly (civilOf instant) := by
  rcases parse_some parsed with ⟨civil, read, inMonth, rfl⟩
  rcases readItems_dateOnly (show readItems (dateOnly ++ []) Civil.blank text = some (civil, []) from read)
    with ⟨year, month, day, tail, yearFits, monthFits, textEq, finished⟩
  cases finished
  rcases civilOf_instant (ofHour_shown yearFits monthFits inMonth (show 0 < 24 by decide)) with ⟨years, same⟩
  refine ⟨years, ?_⟩
  rw [textEq, List.append_nil]
  exact congrArg (write dateOnly) same.symm

/-- A text that parses as a date with an hour is the written form of the hour it
names, or that form with the hour in a single digit. -/
theorem parse_dateHour_sound {text : List Char} {instant : Int} (parsed : parse dateHour text = some instant) :
    FourDigitYear instant ∧ (text = write dateHour (civilOf instant) ∨
      text = write dateOnly (civilOf instant) ++ 'T' :: padded 1 (civilOf instant).hour) := by
  rcases parse_some parsed with ⟨civil, read, inMonth, rfl⟩
  rcases readItems_dateOnly
    (show readItems (dateOnly ++ [.mark 'T', .hour]) Civil.blank text = some (civil, []) from read)
    with ⟨year, month, day, tail, yearFits, monthFits, textEq, readMark⟩
  rcases readItems_mark readMark with ⟨afterMark, markText, readHour⟩
  rcases readItems_cons readHour with ⟨_, last, readNumber, finished⟩
  rcases readField_some readNumber with ⟨hour, taken, hourFits, rfl⟩
  cases finished
  have dayFits : 1 <= day ∧ day <= daysIn month year := inMonth
  rcases civilOf_instant (ofHour_shown yearFits monthFits dayFits (of_decide_eq_true hourFits)) with
    ⟨years, same⟩
  refine ⟨years, ?_⟩
  change _ = write dateHour (civilOf (Civil.ofHour year month day hour).instant) ∨ _ =
    write dateOnly (civilOf (Civil.ofHour year month day hour).instant) ++
      'T' :: padded 1 (civilOf (Civil.ofHour year month day hour).instant).hour
  rw [same, textEq, markText]
  have date : write dateOnly (Civil.ofHour year month day hour) =
      write dateOnly (Civil.ofDate year month day) := rfl
  rw [write_dateHour, date]
  rcases takeNumber_sound taken with both | single
  · rw [both, List.append_nil]
    exact Or.inl rfl
  · rw [single, List.append_nil]
    exact Or.inr rfl

/-! ## Instants outside the four-digit years -/

/-- An instant whose shown year has four digits shows the fields of an instant
inside these years. -/
theorem exists_fourDigitYear {instant : Int}
    (shown : 0 <= (civilOf instant).year ∧ (civilOf instant).year <= 9999) :
    Exists fun inside => FourDigitYear inside ∧ civilOf inside = civilOf instant := by
  -- The instant that calendar arithmetic wraps around to.
  have seconds : unixSeconds (wrapSeconds (unixSeconds instant) * 10 ^ 9 + instant % 10 ^ 9) =
      wrapSeconds (unixSeconds instant) := by
    unfold unixSeconds
    omega
  have twice : wrapSeconds (wrapSeconds (unixSeconds instant)) = wrapSeconds (unixSeconds instant) := by
    unfold wrapSeconds
    omega
  have fraction : (wrapSeconds (unixSeconds instant) * 10 ^ 9 + instant % 10 ^ 9) % 10 ^ 9 =
      instant % 10 ^ 9 := by omega
  have same : civilOf (wrapSeconds (unixSeconds instant) * 10 ^ 9 + instant % 10 ^ 9) = civilOf instant := by
    simp only [civilOf, seconds, twice, fraction]
  refine ⟨_, ?_, same⟩
  rw [FourDigitYear, dateOf, seconds]
  exact shown

theorem civilOf_month (instant : Int) : 1 <= (civilOf instant).month ∧ (civilOf instant).month <= 12 :=
  (dateOfDay_valid (wrapSeconds (unixSeconds instant) / 86400)).1

theorem civilOf_day_lt (instant : Int) : (civilOf instant).day < 100 := by
  have valid := dateOfDay_valid (wrapSeconds (unixSeconds instant) / 86400)
  have length := daysIn_le valid.1.2 (civilOf instant).year
  exact Nat.lt_of_le_of_lt (Nat.le_trans valid.2.2 length) (by decide)

theorem civilOf_hour_lt (instant : Int) : (civilOf instant).hour < 24 := by
  simp only [civilOf]
  omega

/-- The years of 64-bit seconds. -/
theorem civilOf_year_lt (instant : Int) : (civilOf instant).year < 2 ^ 50 := by
  have count : (dateOfDay (wrapSeconds (unixSeconds instant) / 86400)).dayNumber =
      wrapSeconds (unixSeconds instant) / 86400 := dayNumber_dateOfDay _
  change (dateOfDay (wrapSeconds (unixSeconds instant) / 86400)).year < 2 ^ 50
  simp only [Date.dayNumber, daysBeforeYear] at count
  unfold wrapSeconds absoluteZero at count ⊢
  omega

theorem length_padded_ge (width value : Nat) : width <= (padded width value).length := by
  rw [padded, List.length_append, List.length_replicate]
  omega

/-- A year takes four characters exactly when it has four digits. -/
theorem length_write_year (civil : Civil) :
    (0 <= civil.year ∧ civil.year <= 9999 ∧ (Item.year.write civil).length = 4) ∨
      (¬ (0 <= civil.year ∧ civil.year <= 9999) ∧ 5 <= (Item.year.write civil).length) := by
  have wide := length_padded_ge 4 civil.year.natAbs
  unfold Item.write
  by_cases negative : civil.year < 0
  · rw [if_pos negative, List.length_cons]
    exact Or.inr ⟨by omega, by omega⟩
  · rw [if_neg negative]
    by_cases short : civil.year <= 9999
    · exact Or.inl ⟨by omega, short, length_padded (by omega) (by decide)⟩
    · refine Or.inr ⟨by omega, ?_⟩
      by_contra narrow
      have digits : (Nat.toDigits 10 civil.year.natAbs).length <= 4 := by
        rw [padded, List.length_append, List.length_replicate] at narrow
        omega
      have small := (Nat.length_toDigits_le_iff (by decide) (by decide)).mp digits
      omega

/-- A date takes six characters besides the year. -/
theorem length_write_dateOnly (instant : Int) :
    (write dateOnly (civilOf instant)).length = (Item.year.write (civilOf instant)).length + 6 := by
  have months := civilOf_month instant
  have monthLength : (padded 2 (civilOf instant).month).length = 2 := length_padded (by omega) (by decide)
  have dayLength : (padded 2 (civilOf instant).day).length = 2 :=
    length_padded (civilOf_day_lt instant) (by decide)
  simp only [write, dateOnly, List.flatMap_cons, List.flatMap_nil, List.length_append]
  rw [show (Item.month.write (civilOf instant)).length = 2 from monthLength,
    show (Item.day.write (civilOf instant)).length = 2 from dayLength]
  rfl

/-- An hour takes three more. -/
theorem length_write_dateHour (instant : Int) :
    (write dateHour (civilOf instant)).length = (Item.year.write (civilOf instant)).length + 9 := by
  have hours := civilOf_hour_lt instant
  have hourLength : (padded 2 (civilOf instant).hour).length = 2 := length_padded (by omega) (by decide)
  rw [write_dateHour, List.length_append, length_write_dateOnly, List.length_cons, hourLength]

/-! ## Full times -/

theorem readItems_append (first second : List Item) (civil : Civil) (text : List Char) :
    readItems (first ++ second) civil text =
      match readItems first civil text with
      | some (next, rest) => readItems second next rest
      | none => none := by
  induction first generalizing civil text with
  | nil => rfl
  | cons item items inductionHypothesis =>
      simp only [List.cons_append, readItems]
      cases item.read civil text with
      | none => rfl
      | some found => exact inductionHypothesis found.1 found.2

/-- The offsets that a written zone can carry and reading accepts. -/
def WholeMinutes (offset : Int) : Prop := offset % 60 = 0 ∧ offset.natAbs < 25 * 3600

instance (offset : Int) : Decidable (WholeMinutes offset) := inferInstanceAs (Decidable (_ ∧ _))

/-- A zone starts with a character that begins no fraction. -/
theorem takeFraction_writeZone (offset : Int) : takeFraction (writeZone offset) = (0, writeZone offset) := by
  have separated : forall first rest, first ≠ '.' -> first ≠ ',' ->
      takeFraction (first :: rest) = (0, first :: rest) := by
    intro first rest point comma
    cases rest with
    | nil => rfl
    | cons second others =>
        rw [takeFraction, if_neg]
        rintro ⟨same | same, _⟩
        · exact point same
        · exact comma same
  unfold writeZone
  split
  · exact separated _ _ (by decide) (by decide)
  · split
    · exact separated _ _ (by decide) (by decide)
    · exact separated _ _ (by decide) (by decide)

/-- Hours and minutes after a sign are read back. -/
theorem takeZone_signed {hours minutes : Nat} (hourFits : hours <= 24) (minuteFits : minutes < 60) {sign : Char}
    (signed : sign = '+' ∨ sign = '-') :
    takeZone (sign :: (padded 2 hours ++ ':' :: padded 2 minutes)) =
      some (if sign = '-' then -((hours * 60 + minutes) * 60 : Int) else (hours * 60 + minutes) * 60, []) := by
  have readHours := takeDigits_padded (show hours < 10 ^ 2 by omega) (by decide : 0 < 2)
    (':' :: padded 2 minutes)
  have readMinutes := takeDigits_padded (show minutes < 10 ^ 2 by omega) (by decide : 0 < 2) []
  rw [List.append_nil] at readMinutes
  have notUtc : sign ≠ 'Z' := by rcases signed with rfl | rfl <;> decide
  rw [takeZone]
  · simp only [if_pos signed, readHours, readMinutes, hourFits, Nat.le_of_lt minuteFits, and_self, if_true]
  · exact notUtc

theorem takeZone_writeZone {offset : Int} (whole : WholeMinutes offset) :
    takeZone (writeZone offset) = some (offset, []) := by
  rcases whole with ⟨minutes, bounded⟩
  unfold writeZone
  by_cases utc : offset = 0
  · rw [if_pos utc, utc]
    rfl
  · rw [if_neg utc]
    by_cases west : offset < 0
    · rw [if_pos west, takeZone_signed (by omega) (by omega) (Or.inr rfl), if_pos rfl]
      congr 2
      omega
    · rw [if_neg west, takeZone_signed (by omega) (by omega) (Or.inl rfl), if_neg (by decide)]
      congr 2
      omega

/-- A full time parses to the second it was written for.  The fraction is not
written. -/
theorem parse_rfc3339 {civil : Civil} (range : civil.InRange) (second : civil.second < 60)
    (inMonth : 1 <= civil.day ∧ civil.day <= daysIn civil.month civil.year)
    (whole : WholeMinutes civil.offset) :
    parse rfc3339 (write rfc3339 civil) = some (civil.unix * 10 ^ 9) := by
  let front : List Item :=
    [.year, .mark '-', .month, .mark '-', .day, .mark 'T', .hour, .mark ':', .minute, .mark ':']
  have layout : rfc3339 = front ++ [.second, .zone] := rfl
  have text : write rfc3339 civil = write front civil ++ (padded 2 civil.second ++ writeZone civil.offset) := by
    rw [layout, write, write, List.flatMap_append]
    simp only [List.flatMap_cons, List.flatMap_nil, Item.write, List.append_nil]
  have seconds := takeDigits_padded (show civil.second < 10 ^ 2 by omega) (by decide : 0 < 2)
    (writeZone civil.offset)
  have read : readItems rfc3339 Civil.blank (write rfc3339 civil) =
      some ({ civil with nanosecond := 0 }, []) := by
    rw [layout, readItems_append, ← layout, text,
      readItems_write range (padded 2 civil.second ++ writeZone civil.offset) front (by decide)]
    simp only [readItems, Item.read, seconds, readField, second, decide_true, if_true,
      takeFraction_writeZone, takeZone_writeZone whole]
    rfl
  have dropped : ({ civil with nanosecond := 0 } : Civil).instant = civil.unix * 10 ^ 9 := Int.add_zero _
  rw [parse, read]
  simp only [inMonth, and_self, if_true, dropped]

/-- From the epoch up to this day count the year has four digits. -/
theorem fourDigitYear_of_day {instant : Int} (lower : 0 <= unixSeconds instant / 86400)
    (upper : unixSeconds instant / 86400 <= 2932896) : FourDigitYear instant := by
  have count : (dateOf instant).dayNumber = unixSeconds instant / 86400 := dayNumber_dateOfDay _
  have valid : (dateOf instant).Valid := dateOfDay_valid _
  have first := valid.2.1
  have inMonth := valid.inMonth
  have inYear := valid.inYear
  have length : yearLength (isLeap (dateOf instant).year) <= 366 := by
    cases isLeap (dateOf instant).year <;> decide
  simp only [Date.dayNumber, daysBeforeYear] at count
  constructor
  · by_contra negative
    omega
  · by_contra late
    omega

/-- The fields of an instant on a clock that is `offset` seconds ahead of UTC. -/
def civilAt (offset instant : Int) : Civil :=
  { civilOf (instant + offset * 10 ^ 9) with offset := offset }

/-- A full time on any clock parses to the second it was written for. -/
theorem parse_rfc3339_civilAt {offset instant : Int} (whole : WholeMinutes offset)
    (years : FourDigitYear (instant + offset * 10 ^ 9)) :
    parse rfc3339 (write rfc3339 (civilAt offset instant)) = some (unixSeconds instant * 10 ^ 9) := by
  have shown := civilOf_inRange years
  have same := civilOf_date years
  have valid : (dateOf (instant + offset * 10 ^ 9)).Valid := dateOfDay_valid _
  have count : (dateOf (instant + offset * 10 ^ 9)).dayNumber =
      unixSeconds (instant + offset * 10 ^ 9) / 86400 := dayNumber_dateOfDay _
  rw [← same] at valid count
  have ahead : unixSeconds (instant + offset * 10 ^ 9) = unixSeconds instant + offset := by
    unfold unixSeconds
    omega
  have clock : (civilOf (instant + offset * 10 ^ 9)).hour * 3600 +
      (civilOf (instant + offset * 10 ^ 9)).minute * 60 + (civilOf (instant + offset * 10 ^ 9)).second =
        unixSeconds (instant + offset * 10 ^ 9) % 86400 := by
    simp only [civilOf, wrapSeconds_eq years]
    omega
  have second : (civilOf (instant + offset * 10 ^ 9)).second < 60 := Nat.mod_lt _ (by decide)
  have unix : (civilAt offset instant).unix = unixSeconds instant := by
    change (civilOf (instant + offset * 10 ^ 9)).date.dayNumber * 86400 +
      (civilOf (instant + offset * 10 ^ 9)).hour * 3600 + (civilOf (instant + offset * 10 ^ 9)).minute * 60 +
        (civilOf (instant + offset * 10 ^ 9)).second - offset = _
    rw [count]
    omega
  have range : (civilAt offset instant).InRange :=
    ⟨shown.year, shown.month, shown.day, shown.hour, shown.minute⟩
  rw [parse_rfc3339 range second valid.2 whole, unix]

end TimeLayout
end Foundation
end Shardman
