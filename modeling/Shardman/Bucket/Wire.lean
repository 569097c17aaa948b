import Shardman.Bucket.HashNames
import Shardman.Bucket.Routing

namespace Shardman
namespace Bucket

open Foundation
open Foundation.Binary64

/-!
# Shard keys on the wire

A request carries its shard key as a protobuf value, which knows one kind of
number.  The server therefore classifies what is left of a key after it was
encoded and decoded, while the client library classifies the key it was given.
The package that converts is a parameter, and `DocumentedWire` is what it
documents of the conversions.  This module says which keys the two sides
classify alike: those of a type that the wire keeps, the integers that survive
the detour through a double, and doubles that are finite.  The other doubles
arrive as texts.
-/

/-! ## What the package documents -/

/-- The values that a Go value may be encoded as. -/
inductive Encoded : Key -> WireValue -> Prop
  | null : Encoded .null .null
  | bool (value : Bool) : Encoded (.bool value) (.bool value)
  | int (value : Int64) : Encoded (.int value) (.number (ofInt value.toInt))
  | int64 (value : Int64) : Encoded (.int64 value) (.number (ofInt value.toInt))
  | integer (kind : IntegerKind) (value : Int) (inRange : kind.holds value = true) :
      Encoded (.integer kind value inRange) (.number (ofInt value))
  | float32 (value : Double) : Encoded (.float32 value) (.number value)
  | float64 (value : Double) : Encoded (.float64 value) (.number value)
  | jsonNumber (text : String) (value : Double) : Encoded (.jsonNumber text) (.number value)
  | string (text : String) : Encoded (.string text) (.string text)
  | bytes (content : List UInt8) (text : String) : Encoded (.bytes content) (.string text)
  | map : Encoded .map .struct
  | list : Encoded .list .list

/-- The text that a number without a finite value is decoded as. -/
def nonFiniteText : Double -> Option String
  | .nan => some "NaN"
  | .infinite false => some "Infinity"
  | .infinite true => some "-Infinity"
  | .finite .. => none

/-- Integers become the nearest double, number texts some double and bytes some
text; everything else keeps its type.  Numbers are decoded as doubles, or as
texts if they are not finite. -/
structure DocumentedWire (platform : Platform) : Prop where
  encodes : forall {key sent}, platform.newValue key = some sent -> Encoded key sent
  null : platform.asInterface .null = .null
  bool : forall value, platform.asInterface (.bool value) = .bool value
  number : forall value, nonFiniteText value = none -> platform.asInterface (.number value) = .float64 value
  nonFinite : forall {value text}, nonFiniteText value = some text ->
    platform.asInterface (.number value) = .string text
  string : forall text, platform.asInterface (.string text) = .string text
  struct : platform.asInterface .struct = .map
  list : platform.asInterface .list = .list

theorem samplePlatform_documented : DocumentedWire samplePlatform where
  encodes := by
    intro key sent encoded
    cases key <;> cases encoded <;> constructor
  null := rfl
  bool _ := rfl
  number value isFinite := by
    cases value with
    | finite => rfl
    | nan => cases isFinite
    | infinite negative => cases negative <;> cases isFinite
  nonFinite := by
    intro value text named
    cases value with
    | finite => cases named
    | nan =>
        cases named
        rfl
    | infinite negative => cases negative <;> cases named <;> rfl
  string _ := rfl
  struct := rfl
  list := rfl

/-- The server refuses a request without a key. -/
def valueToAny (platform : Platform) : Option WireValue -> Option Key
  | none => none
  | some value => some (platform.asInterface value)

/-- The keys whose route the wire does not change.  A number text that stands for
no finite number survives if it is the text that the server hashes for it. -/
def SurvivesWire (platform : Platform) : Key -> Prop
  | .null | .bool _ | .string _ | .map | .list => True
  | .float64 value => nonFiniteText value = none
  | .int value | .int64 value => int64OfFloat platform (ofInt value.toInt) = value.toInt
  | .jsonNumber text => Exists fun value => Exists fun name =>
      platform.newValue (.jsonNumber text) = some (.number value) ∧ nonFiniteText value = some name ∧
        platform.sum64String text = platform.sum64String (toLower platform name)
  | .integer .. | .float32 _ | .bytes _ => False

theorem nonFiniteText_none_iff {value : Double} : nonFiniteText value = none ↔ value.isFinite = true := by
  cases value with
  | nan => exact iff_of_false nofun nofun
  | infinite negative => cases negative <;> exact iff_of_false nofun nofun
  | finite value representable => exact iff_of_true rfl rfl

/-- The nearest double of a 64-bit integer is decoded as a double. -/
theorem DocumentedWire.ofInt {platform : Platform} (documented : DocumentedWire platform) {value : Int}
    (small : value.natAbs <= 2 ^ 64) : platform.asInterface (.number (ofInt value)) = .float64 (ofInt value) :=
  documented.number _ (nonFiniteText_none_iff.mpr (ofInt_isFinite small))

theorem int64_small (value : Int64) : value.toInt.natAbs <= 2 ^ 64 := by
  have lower := Int64.le_toInt value
  have upper := Int64.toInt_lt value
  omega

theorem integer_small {kind : IntegerKind} {value : Int} (inRange : kind.holds value = true) :
    value.natAbs <= 2 ^ 64 := by
  cases kind with
  | int8 | int16 | int32 | uint | uint8 | uint16 | uint32 | uint64 =>
      have bounds := of_decide_eq_true inRange
      omega

/-! ## Keys with one bucket name on every axis -/

/-- Two keys that no axis tells apart. -/
def SameBucket (platform : Platform) (first second : Key) : Prop :=
  forall spec : Spec, spec.id platform first = spec.id platform second

/-- Classification looks at a key only through its bucket name. -/
theorem classifyWrite_eq_of_id {platform : Platform} {spec : Spec} {first second : Key}
    (same : spec.id platform first = spec.id platform second)
    (now retentionDepth maxFuture : Int) :
    classifyWrite platform spec now first retentionDepth maxFuture =
      classifyWrite platform spec now second retentionDepth maxFuture := by
  by_cases timed : spec.axis = .time
  · cases spec with
    | time unit => rw [classifyWrite_elim, classifyWrite_elim, same]
    | numeric | hash => cases timed
  · rw [classifyWrite_untimed _ _ _ _ _ timed, classifyWrite_untimed _ _ _ _ _ timed, same]

/-- Off the time axis the route of a key gives its bucket name away. -/
theorem id_eq_of_classifyWrite {platform : Platform} {spec : Spec} {first second : Key}
    (untimed : spec.axis ≠ .time) {now retentionDepth maxFuture : Int}
    (same : classifyWrite platform spec now first retentionDepth maxFuture =
      classifyWrite platform spec now second retentionDepth maxFuture) :
    spec.id platform first = spec.id platform second := by
  rw [classifyWrite_untimed _ _ _ _ _ untimed, classifyWrite_untimed _ _ _ _ _ untimed, Option.some_inj] at same
  cases firstID : spec.id platform first with
  | none =>
      cases secondID : spec.id platform second with
      | none => rfl
      | some bucketID =>
          rw [firstID, secondID] at same
          cases same
  | some bucketID =>
      cases secondID : spec.id platform second with
      | none =>
          rw [firstID, secondID] at same
          cases same
      | some otherID =>
          rw [firstID, secondID] at same
          exact congrArg some (congrArg WriteRoute.bucketID same)

theorem sameBucket_of_switches {platform : Platform} {first second : Key}
    (time : parseTimeKey platform first = parseTimeKey platform second)
    (numeric : parseNumericKey platform first = parseNumericKey platform second)
    (text : (stringifyKey platform first).map platform.sum64String =
      (stringifyKey platform second).map platform.sum64String) :
    SameBucket platform first second := by
  intro spec
  cases spec with
  | time unit => rw [Spec.id_time, Spec.id_time, time]
  | numeric width positive fits => rw [Spec.id_numeric, Spec.id_numeric, numeric]
  | hash bucketCount positive fits =>
      have named : forall key, (Spec.hash bucketCount positive fits).id platform key =
          ((stringifyKey platform key).map platform.sum64String).map fun hash =>
            hashID bucketCount (hashIndex bucketCount hash) := by
        intro key
        rw [Spec.id_hash, Option.map_map]
        rfl
      rw [named, named, text]

/-- An integer that survives the double is read alike by all three switches. -/
theorem sameBucket_of_roundTrip {platform : Platform} {value : Int64}
    (survives : int64OfFloat platform (ofInt value.toInt) = value.toInt) :
    SameBucket platform (.int64 value) (.float64 (ofInt value.toInt)) ∧
      SameBucket platform (.int value) (.float64 (ofInt value.toInt)) := by
  have threshold := exceeds_ofInt value.toInt (show unixSecondsYear3000.natAbs < 2 ^ 53 by decide)
  constructor <;> apply sameBucket_of_switches
  all_goals
    simp only [parseTimeKey_int, parseTimeKey_int64, parseTimeKey_float64, parseNumericKey, stringifyKey, survives,
      threshold, if_true]

/-- The texts for numbers that are not finite are no instants and no numbers. -/
theorem nonFiniteText_unread (platform : Platform) {value : Double} {name : String}
    (named : nonFiniteText value = some name) :
    parseTimeKey platform (.string name) = none ∧ parseNumericKey platform (.string name) = none := by
  have names : name = "NaN" ∨ name = "Infinity" ∨ name = "-Infinity" := by
    cases value with
    | nan =>
        cases named
        exact Or.inl rfl
    | infinite negative =>
        cases negative with
        | false =>
            cases named
            exact Or.inr (Or.inl rfl)
        | true =>
            cases named
            exact Or.inr (Or.inr rfl)
    | finite value representable => cases named
  have unread : parseInt name = none := by
    rcases names with rfl | rfl | rfl <;> decide
  have undated : (timeKeyLayouts.findSome? fun layout => TimeLayout.parse layout name.toList) = none := by
    rcases names with rfl | rfl | rfl <;> decide
  constructor
  · simp only [parseTimeKey, undated, unread, Option.map_none]
  · exact unread

/-! ## Keys that the wire changes -/

/-- Buckets of width one: the bucket name is the number. -/
def unitWidth : Spec := .numeric 1 (by decide) (by decide)

theorem unitWidth_accepted : parseSpec .numeric (.object [("width", .number "1")]) = .ok unitWidth := by
  decide

/-- The two largest numbers of hash buckets. -/
def oddBuckets : Spec := .hash 9223372036854775807 (by decide) (by decide)

def evenBuckets : Spec := .hash 9223372036854775806 (by decide) (by decide)

theorem oddBuckets_accepted :
    parseSpec .hash (.object [("bucket_count", .number "9223372036854775807")]) = .ok oddBuckets := by
  decide

theorem evenBuckets_accepted :
    parseSpec .hash (.object [("bucket_count", .number "9223372036854775806")]) = .ok evenBuckets := by
  decide

private theorem numericIndex_one {number : Int} (lower : -2 ^ 63 <= number) (upper : number < 2 ^ 63) :
    numericIndex 1 number = number := by
  unfold numericIndex
  by_cases negative : number < 0
  · have back : wrap64 (wrap64 (number - 1) + 1) = number := by
      unfold wrap64
      omega
    rw [if_pos negative, back, Int.tdiv_one]
  · rw [if_neg negative, Int.tdiv_one]

section Agreement

variable {platform : Platform} {first second : Key}

/-- Two keys that every accepted configuration routes alike. -/
def RoutedAlike (platform : Platform) (first second : Key) : Prop :=
  forall (axis : Axis) (raw : RawMessage) (spec : Spec), parseSpec axis raw = .ok spec ->
    forall now retentionDepth maxFuture : Int,
      classifyWrite platform spec now first retentionDepth maxFuture =
        classifyWrite platform spec now second retentionDepth maxFuture

theorem SameBucket.routedAlike (same : SameBucket platform first second) : RoutedAlike platform first second :=
  fun _ _ spec _ now retentionDepth maxFuture => classifyWrite_eq_of_id (same spec) now retentionDepth maxFuture

/-- With buckets of width one, equal names mean equal numbers. -/
theorem RoutedAlike.numbers (alike : RoutedAlike platform first second) :
    (parseNumericKey platform first).map (numericIndex 1) = (parseNumericKey platform second).map (numericIndex 1) := by
  have names := id_eq_of_classifyWrite (by decide) (alike _ _ unitWidth unitWidth_accepted 0 0 0)
  rw [unitWidth, Spec.id_numeric, Spec.id_numeric] at names
  cases read : parseNumericKey platform first with
  | none =>
      cases other : parseNumericKey platform second with
      | none => rfl
      | some number =>
          rw [read, other] at names
          cases names
  | some number =>
      cases other : parseNumericKey platform second with
      | none =>
          rw [read, other] at names
          cases names
      | some otherNumber =>
          rw [read, other] at names
          simp only [Option.map_some, Option.some_inj, String.ofList_inj, List.cons.injEq, true_and] at names ⊢
          exact Decimal.formatInt_injective names

/-- Both of the largest bucket counts give the hashes away. -/
theorem RoutedAlike.hashes (alike : RoutedAlike platform first second) :
    (stringifyKey platform first).map platform.sum64String =
      (stringifyKey platform second).map platform.sum64String := by
  have odd := id_eq_of_classifyWrite (by decide) (alike _ _ oddBuckets oddBuckets_accepted 0 0 0)
  have even := id_eq_of_classifyWrite (by decide) (alike _ _ evenBuckets evenBuckets_accepted 0 0 0)
  rw [oddBuckets, Spec.id_hash, Spec.id_hash] at odd
  rw [evenBuckets, Spec.id_hash, Spec.id_hash] at even
  cases read : stringifyKey platform first with
  | none =>
      cases other : stringifyKey platform second with
      | none => rfl
      | some text =>
          rw [read, other] at odd
          cases odd
  | some text =>
      cases other : stringifyKey platform second with
      | none =>
          rw [read, other] at odd
          cases odd
      | some otherText =>
          rw [read, other, Option.map_some, Option.map_some, Option.some_inj] at odd even
          have oddIndex : (platform.sum64String text).toNat % 9223372036854775807 =
              (platform.sum64String otherText).toNat % 9223372036854775807 := (hashID_inj 9223372036854775807).mp odd
          have evenIndex : (platform.sum64String text).toNat % 9223372036854775806 =
              (platform.sum64String otherText).toNat % 9223372036854775806 := (hashID_inj 9223372036854775806).mp even
          have small := (platform.sum64String text).toNat_lt
          have otherSmall := (platform.sum64String otherText).toNat_lt
          have same : (platform.sum64String text).toNat = (platform.sum64String otherText).toNat := by
            omega
          rw [Option.map_some, Option.map_some, UInt64.toNat_inj.mp same]

/-- A number that is read on one side only is routed to two places. -/
theorem not_routedAlike {number : Int} (unread : parseNumericKey platform first = none)
    (read : parseNumericKey platform second = some number) : ¬ RoutedAlike platform first second := by
  intro alike
  have numbers := alike.numbers
  rw [unread, read] at numbers
  cases numbers

theorem int64OfFloat_eq_of_alike {value : Int64} {double : Double}
    (read : parseNumericKey platform first = some value.toInt)
    (alike : RoutedAlike platform first (.float64 double)) : int64OfFloat platform double = value.toInt := by
  have received : -2 ^ 63 <= int64OfFloat platform double ∧ int64OfFloat platform double < 2 ^ 63 :=
    toInt64_range platform.int64OutOfRange double
  have numbers := alike.numbers
  rw [read, parseNumericKey, Option.map_some, Option.map_some, Option.some_inj,
    numericIndex_one (Int64.le_toInt _) (Int64.toInt_lt _), numericIndex_one received.1 received.2] at numbers
  exact numbers.symm

/-- A key that is routed alike on both sides of the wire survives it. -/
theorem survives_of_alike (documented : DocumentedWire platform) {shardKey : Key} {sent : WireValue}
    (encoded : platform.newValue shardKey = some sent)
    (alike : RoutedAlike platform shardKey (platform.asInterface sent)) : SurvivesWire platform shardKey := by
  cases documented.encodes encoded with
  | null | bool | string | map | list => trivial
  | int value =>
      rw [documented.ofInt (int64_small value)] at alike
      exact int64OfFloat_eq_of_alike rfl alike
  | int64 value =>
      rw [documented.ofInt (int64_small value)] at alike
      exact int64OfFloat_eq_of_alike rfl alike
  | integer kind value inRange =>
      rw [documented.ofInt (integer_small inRange)] at alike
      exact absurd alike (not_routedAlike rfl rfl)
  | float32 value =>
      cases named : nonFiniteText value with
      | none =>
          rw [documented.number value named] at alike
          exact absurd alike (not_routedAlike rfl rfl)
      | some name =>
          -- The text has a hash, and a key of this type has none.
          rw [documented.nonFinite named] at alike
          cases alike.hashes
  | float64 value =>
      cases named : nonFiniteText value with
      | none => exact named
      | some name =>
          rw [documented.nonFinite named] at alike
          have numbers := alike.numbers
          rw [(nonFiniteText_unread platform named).2] at numbers
          cases numbers
  | jsonNumber text value =>
      cases named : nonFiniteText value with
      | none =>
          rw [documented.number value named] at alike
          exact absurd alike (not_routedAlike rfl rfl)
      | some name =>
          rw [documented.nonFinite named] at alike
          exact ⟨value, name, encoded, named, Option.some_inj.mp alike.hashes⟩
  | bytes content text =>
      rw [documented.string] at alike
      cases alike.hashes

/-- A key that survives the wire arrives as a key with the same bucket names. -/
theorem survives_sameBucket (documented : DocumentedWire platform) {shardKey : Key} {sent : WireValue}
    (encoded : platform.newValue shardKey = some sent) (survives : SurvivesWire platform shardKey) :
    SameBucket platform shardKey (platform.asInterface sent) := by
  cases documented.encodes encoded with
  | null =>
      rw [documented.null]
      exact fun _ => rfl
  | bool value =>
      rw [documented.bool]
      exact fun _ => rfl
  | string text =>
      rw [documented.string]
      exact fun _ => rfl
  | map =>
      rw [documented.struct]
      exact fun _ => rfl
  | list =>
      rw [documented.list]
      exact fun _ => rfl
  | int value =>
      rw [documented.ofInt (int64_small value)]
      exact (sameBucket_of_roundTrip survives).2
  | int64 value =>
      rw [documented.ofInt (int64_small value)]
      exact (sameBucket_of_roundTrip survives).1
  | float64 value =>
      rw [documented.number value survives]
      exact fun _ => rfl
  | jsonNumber text value =>
      rcases survives with ⟨other, name, again, named, same⟩
      cases encoded.symm.trans again
      rw [documented.nonFinite named]
      have unread := nonFiniteText_unread platform named
      exact sameBucket_of_switches unread.1.symm unread.2.symm (congrArg some same)
  | integer | float32 | bytes => exact survives.elim

end Agreement

/-- The client library and the server classify a key alike, on every accepted
spec, at every instant and for every window, exactly when the key survives the
wire. -/
theorem routes_agree_iff_survivesWire (platform : Platform) (documented : DocumentedWire platform) (shardKey : Key)
    (sent : WireValue) (encoded : platform.newValue shardKey = some sent) :
    (forall (axis : Axis) (raw : RawMessage) (spec : Spec), parseSpec axis raw = .ok spec ->
      forall now retentionDepth maxFuture : Int,
        classifyWrite platform spec now shardKey retentionDepth maxFuture =
          classifyWrite platform spec now (platform.asInterface sent) retentionDepth maxFuture) ↔
      SurvivesWire platform shardKey :=
  ⟨fun agree => survives_of_alike documented encoded agree,
    fun survives => (survives_sameBucket documented encoded survives).routedAlike⟩

/-- The number 7 as a 64-bit integer survives. -/
theorem routes_agree_iff_survivesWire_seven :
    samplePlatform.newValue (.int64 7) = some (.number (ofInt 7)) ∧
      ((forall (axis : Axis) (raw : RawMessage) (spec : Spec), parseSpec axis raw = .ok spec ->
        forall now retentionDepth maxFuture : Int,
          classifyWrite samplePlatform spec now (.int64 7) retentionDepth maxFuture =
            classifyWrite samplePlatform spec now (samplePlatform.asInterface (.number (ofInt 7))) retentionDepth
              maxFuture) ↔
        SurvivesWire samplePlatform (.int64 7)) :=
  ⟨by decide, routes_agree_iff_survivesWire samplePlatform samplePlatform_documented (.int64 7) (.number (ofInt 7))
    (by decide)⟩

/-- An `int32` 42 goes to the error shard when the client library routes it and
to bucket n42 when the server does; the `int64` 2^53 + 1 goes to two different
buckets. -/
theorem routes_differ_int32_and_large_int64 :
    DocumentedWire samplePlatform ∧
    (samplePlatform.newValue (.integer .int32 42 (by decide)) = some (.number (ofInt 42)) ∧
      classifyWrite samplePlatform unitWidth 0 (.integer .int32 42 (by decide)) 0 0 =
        some (.toError .invalidKey) ∧
      classifyWrite samplePlatform unitWidth 0 (samplePlatform.asInterface (.number (ofInt 42))) 0 0 =
        some (.toBucket "n42")) ∧
    (samplePlatform.newValue (.int64 9007199254740993) = some (.number (ofInt 9007199254740993)) ∧
      classifyWrite samplePlatform unitWidth 0 (.int64 9007199254740993) 0 0 =
        some (.toBucket "n9007199254740993") ∧
      classifyWrite samplePlatform unitWidth 0 (samplePlatform.asInterface (.number (ofInt 9007199254740993))) 0 0 =
        some (.toBucket "n9007199254740992")) :=
  ⟨samplePlatform_documented, by decide⟩

end Bucket
end Shardman
