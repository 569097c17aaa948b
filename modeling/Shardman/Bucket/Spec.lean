import Shardman.Foundation.Decimal

namespace Shardman
namespace Bucket

open Foundation

/-!
# Bucket specifications

A cluster is configured with an axis and a JSON body that describes the
buckets on it.  `parseSpec` decodes the body into a `Spec` and checks it; the
constructors of `Spec` carry what the checks establish, so a spec that exists
is a spec the source accepted.

A JSON body is kept as far as decoding looks at it: the members of an object
in order, number literals as text, and nothing of nested values.
-/

/-! ## JSON bodies -/

inductive JsonValue
  | null
  | bool (value : Bool)
  | number (literal : String)
  | string (text : String)
  | composite
deriving DecidableEq, Repr

/-- A raw message: no bytes at all, bytes that are not JSON, or a document. -/
inductive RawMessage
  | empty
  | malformed
  | value (content : JsonValue)
  | object (members : List (String × JsonValue))
deriving DecidableEq, Repr

namespace JsonValue

/-- Decode into a string field.  `some none` leaves the field as it was. -/
def asString : JsonValue -> Option (Option String)
  | .null => some none
  | .string text => some (some text)
  | _ => none

/-- Decode into a 64-bit integer field.  Fractions, exponents and values out
of range are type errors. -/
def asInt : JsonValue -> Option (Option Int)
  | .null => some none
  | .number literal => (Decimal.readInt literal.toList).toOption.map some
  | _ => none

end JsonValue

/-- Simple case folding, as far as it reaches the letters of the field names:
the Kelvin sign and the long s fold to ASCII letters. -/
def foldChar (char : Char) : Char :=
  if char = Char.ofNat 0x212A then 'k' else if char = Char.ofNat 0x017F then 's' else char.toLower

def namesField (key name : String) : Bool :=
  key.toList.map foldChar == name.toList.map foldChar

/-- Decode one field of a struct.  Later members overwrite earlier ones; a
member of the wrong type fails the whole decoding. -/
def RawMessage.decodeField {X : Type} (raw : RawMessage) (name : String)
    (read : JsonValue -> Option (Option X)) (zero : X) : Option X :=
  match raw with
  | .empty => none
  | .malformed => none
  | .value .null => some zero
  | .value _ => none
  | .object members =>
      members.foldl
        (fun current member =>
          if namesField member.1 name then
            match current, read member.2 with
            | some kept, some none => some kept
            | some _, some (some next) => some next
            | _, _ => none
          else
            current)
        (some zero)

/-! ## Specs -/

inductive TimeUnit
  | hour
  | day
  | month
deriving DecidableEq, Repr

def unitHour : String := "hour"
def unitDay : String := "day"
def unitMonth : String := "month"

def hashAlgoXXHash64 : String := "xxhash64"

/-- The configured axis is free text until it is checked. -/
inductive Axis
  | time
  | numeric
  | hash
  | other (name : String)
deriving DecidableEq, Repr

def Axis.text : Axis -> String
  | .time => "time"
  | .numeric => "numeric"
  | .hash => "hash"
  | .other name => name

def Axis.ofText (text : String) : Axis :=
  if text = Axis.time.text then .time
  else if text = Axis.numeric.text then .numeric
  else if text = Axis.hash.text then .hash
  else .other text

/-- A checked specification. -/
inductive Spec
  | time (unit : TimeUnit)
  | numeric (width : Int) (positive : 0 < width) (fits : width < 2 ^ 63)
  | hash (bucketCount : Int) (positive : 0 < bucketCount) (fits : bucketCount < 2 ^ 63)
deriving DecidableEq, Repr

def Spec.axis : Spec -> Axis
  | .time _ => .time
  | .numeric .. => .numeric
  | .hash .. => .hash

inductive SpecError
  | specRequired
  | decode
  | unsupportedTimeUnit (unit : String)
  | widthNotPositive
  | bucketCountNotPositive
  | unsupportedHashAlgo (algo : String)
  | unsupportedAxis (axis : String)
deriving DecidableEq, Repr

def parseTimeUnit (text : String) : Except SpecError TimeUnit :=
  if text = unitHour then .ok .hour
  else if text = unitDay then .ok .day
  else if text = unitMonth then .ok .month
  else .error (.unsupportedTimeUnit text)

/-- A decoded number is always in range; `decodeField` only yields what
`asInt` read, or the zero it started from. -/
def checkPositive (number : Int) (failure : SpecError)
    (build : 0 < number -> number < 2 ^ 63 -> Spec) : Except SpecError Spec :=
  if positive : 0 < number then
    if fits : number < 2 ^ 63 then .ok (build positive fits) else .error .decode
  else
    .error failure

def parseSpec (axis : Axis) (raw : RawMessage) : Except SpecError Spec :=
  if raw = .empty then
    .error .specRequired
  else
    match axis with
    | .time =>
        match raw.decodeField "unit" JsonValue.asString "" with
        | none => .error .decode
        | some unit => (parseTimeUnit unit).map .time
    | .numeric =>
        match raw.decodeField "width" JsonValue.asInt 0 with
        | none => .error .decode
        | some width => checkPositive width .widthNotPositive (Spec.numeric width)
    | .hash =>
        match raw.decodeField "bucket_count" JsonValue.asInt 0,
          raw.decodeField "hash_algo" JsonValue.asString "" with
        | some bucketCount, some algo =>
            match checkPositive bucketCount .bucketCountNotPositive (Spec.hash bucketCount) with
            | .error failure => .error failure
            | .ok spec =>
                if algo = "" ∨ algo = hashAlgoXXHash64 then .ok spec
                else .error (.unsupportedHashAlgo algo)
        | _, _ => .error .decode
    | .other name => .error (.unsupportedAxis name)

/-- Every checked spec is the result of parsing some body on its axis. -/
theorem spec_accepted (spec : Spec) : Exists fun raw => parseSpec spec.axis raw = .ok spec := by
  cases spec with
  | time unit =>
      cases unit with
      | hour => exact ⟨.object [("unit", .string "hour")], by decide⟩
      | day => exact ⟨.object [("unit", .string "day")], by decide⟩
      | month => exact ⟨.object [("unit", .string "month")], by decide⟩
  | numeric width positive fits =>
      refine ⟨.object [("width", .number (String.ofList (Decimal.formatInt width)))], ?_⟩
      have read := Decimal.readInt_formatInt (show -2 ^ 63 <= width by omega) fits
      have named : namesField "width" "width" = true := by decide
      simp only [Spec.axis, parseSpec, RawMessage.decodeField, List.foldl_cons, List.foldl_nil, named,
        if_true, JsonValue.asInt, String.toList_ofList, read, Decimal.Reading.toOption, Option.map_some,
        checkPositive, dif_pos positive, dif_pos fits, reduceCtorEq, if_false]
  | hash bucketCount positive fits =>
      refine ⟨.object [("bucket_count", .number (String.ofList (Decimal.formatInt bucketCount)))], ?_⟩
      have read := Decimal.readInt_formatInt (show -2 ^ 63 <= bucketCount by omega) fits
      have named : namesField "bucket_count" "bucket_count" = true := by decide
      have unnamed : namesField "bucket_count" "hash_algo" = false := by decide
      simp only [Spec.axis, parseSpec, RawMessage.decodeField, List.foldl_cons, List.foldl_nil, named,
        unnamed, if_true, JsonValue.asInt, String.toList_ofList, read, Decimal.Reading.toOption,
        Option.map_some, checkPositive, dif_pos positive, dif_pos fits, reduceCtorEq, if_false,
        Bool.false_eq_true, true_or]

/-! ## Two accepted bodies -/

theorem ten_positive : (0 : Int) < 10 := by decide

theorem ten_fits : (10 : Int) < 2 ^ 63 := by decide

/-- Numeric buckets of width ten. -/
theorem ten_accepted :
    parseSpec .numeric (.object [("width", .number "10")]) = .ok (.numeric 10 ten_positive ten_fits) := by
  decide

/-- Daily buckets. -/
theorem day_accepted : parseSpec .time (.object [("unit", .string "day")]) = .ok (.time .day) := by
  decide

end Bucket
end Shardman
