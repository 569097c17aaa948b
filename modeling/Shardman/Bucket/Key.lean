import Shardman.Bucket.Spec
import Shardman.Foundation.Binary64
import Shardman.Foundation.TimeLayout

namespace Shardman

/-- The identity of a shard. -/
abbrev UUID := BitVec 128

namespace Bucket

open Foundation
open Foundation.Binary64

/-!
# Shard keys

A shard key is a Go value of any type.  The three axes read it through three
type switches with different supported cases; a key that falls through all
cases of a switch has no bucket on that axis.
-/

/-- The integer types that no type switch of the routing code names. -/
inductive IntegerKind
  | int8
  | int16
  | int32
  | uint
  | uint8
  | uint16
  | uint32
  | uint64
deriving DecidableEq, Repr

def IntegerKind.holds : IntegerKind -> Int -> Bool
  | .int8, value => decide (-2 ^ 7 <= value ∧ value < 2 ^ 7)
  | .int16, value => decide (-2 ^ 15 <= value ∧ value < 2 ^ 15)
  | .int32, value => decide (-2 ^ 31 <= value ∧ value < 2 ^ 31)
  | .uint8, value => decide (0 <= value ∧ value < 2 ^ 8)
  | .uint16, value => decide (0 <= value ∧ value < 2 ^ 16)
  | .uint32, value => decide (0 <= value ∧ value < 2 ^ 32)
  | .uint, value => decide (0 <= value ∧ value < 2 ^ 64)
  | .uint64, value => decide (0 <= value ∧ value < 2 ^ 64)

/-- A shard key by its dynamic type.  Maps and lists carry nothing: no switch
looks inside them. -/
inductive Key
  | null
  | bool (value : Bool)
  | int (value : Int64)
  | int64 (value : Int64)
  | integer (kind : IntegerKind) (value : Int) (inRange : kind.holds value = true)
  | float32 (value : Double)
  | float64 (value : Double)
  | jsonNumber (text : String)
  | string (text : String)
  | bytes (content : List UInt8)
  | map
  | list
deriving DecidableEq

/-- A protobuf value, without the contents of structs and lists. -/
inductive WireValue
  | null
  | bool (value : Bool)
  | number (value : Double)
  | string (text : String)
  | struct
  | list
deriving DecidableEq

/-- What the code calls and does not define: the implementation of Go, and the
packages for hashes, protobuf values and uuids.  The model passes their results
on; where a result rests on what a package documents, it names that as a
hypothesis. -/
structure Platform where
  sum64String : String -> UInt64
  /-- The lower case of a rune above ASCII, by the Unicode tables. -/
  unicodeLower : Char -> Char
  formatFloat : Double -> String
  /-- What converting a double to a 64-bit integer gives when the integer part
  does not fit: the language leaves it to the implementation. -/
  int64OutOfRange : Double -> Int64
  /-- Encoding a Go value, which fails for values that have no encoding. -/
  newValue : Key -> Option WireValue
  asInterface : WireValue -> Key
  parseUUID : String -> Option UUID
  uuidString : UUID -> String

/-- A platform to run the model on: its hash is the length of the text, its
conversions saturate to zero, its number texts are not numbers, and its uuids
are written in decimal. -/
def samplePlatform : Platform where
  sum64String text := text.length.toUInt64
  unicodeLower rune := rune
  formatFloat _ := "fraction"
  int64OutOfRange _ := 0
  newValue
    | .null => some .null
    | .bool value => some (.bool value)
    | .int value => some (.number (ofInt value.toInt))
    | .int64 value => some (.number (ofInt value.toInt))
    | .integer _ value _ => some (.number (ofInt value))
    | .float32 value => some (.number value)
    | .float64 value => some (.number value)
    | .jsonNumber _ => none
    | .string text => some (.string text)
    | .bytes content => some (.string (String.ofList (content.map fun byte => Char.ofNat byte.toNat)))
    | .map => some .struct
    | .list => some .list
  asInterface
    | .null => .null
    | .bool value => .bool value
    | .number .nan => .string "NaN"
    | .number (.infinite false) => .string "Infinity"
    | .number (.infinite true) => .string "-Infinity"
    | .number (.finite value representable) => .float64 (.finite value representable)
    | .string text => .string text
    | .struct => .map
    | .list => .list
  parseUUID text := (Decimal.readInt text.toList).toOption.map fun number => BitVec.ofInt 128 number
  uuidString uuid := String.ofList (Decimal.formatInt uuid.toNat)

section Switches

variable (platform : Platform)

def lowerRune (rune : Char) : Char :=
  if rune.toNat <= 0x7F then rune.toLower else platform.unicodeLower rune

/-- A text in lower case, rune by rune. -/
def toLower (text : String) : String := String.ofList (text.toList.map (lowerRune platform))

def int64OfFloat (value : Double) : Int :=
  toInt64 platform.int64OutOfRange value

/-- The text that the hash axis hashes. -/
def stringifyKey : Key -> Option String
  | .string text => some (toLower platform text)
  | .float64 value =>
      if value = ofInt (int64OfFloat platform value) then
        some (String.ofList (Decimal.formatInt (int64OfFloat platform value)))
      else
        some (platform.formatFloat value)
  | .int64 value => some (String.ofList (Decimal.formatInt value.toInt))
  | .int value => some (String.ofList (Decimal.formatInt value.toInt))
  | .jsonNumber text => some text
  | _ => none

/-- Numeric time keys above this many seconds are taken as milliseconds. -/
def unixSecondsYear3000 : Int := 32536800000

/-- Instants are nanoseconds since the Unix epoch. -/
def unixTime (seconds : Int) : Int := seconds * 10 ^ 9

def unixMilli (milliseconds : Int) : Int := milliseconds * 10 ^ 6

/-- The instant of a number, in seconds or milliseconds. -/
def numberTime (large : Bool) (number : Int) : Int :=
  if large then unixMilli number else unixTime number

def parseInt (text : String) : Option Int :=
  (Decimal.readInt text.toList).toOption

/-- The layouts a string time key is tried against, in this order. -/
def timeKeyLayouts : List (List TimeLayout.Item) :=
  [TimeLayout.rfc3339, TimeLayout.dateOnly, TimeLayout.yearMonth]

def parseTimeKey : Key -> Option Int
  | .string text =>
      match timeKeyLayouts.findSome? fun layout => TimeLayout.parse layout text.toList with
      | some instant => some instant
      | none =>
          (parseInt text).map fun number => numberTime (decide (unixSecondsYear3000 < number)) number
  | .float64 value =>
      some (numberTime (exceeds value unixSecondsYear3000) (int64OfFloat platform value))
  | .int64 value => some (numberTime (decide (unixSecondsYear3000 < value.toInt)) value.toInt)
  | .int value => some (numberTime (decide (unixSecondsYear3000 < value.toInt)) value.toInt)
  | _ => none

theorem parseTimeKey_float64 (value : Double) :
    parseTimeKey platform (.float64 value) =
      some (numberTime (exceeds value unixSecondsYear3000) (int64OfFloat platform value)) := rfl

theorem parseTimeKey_int64 (value : Int64) :
    parseTimeKey platform (.int64 value) =
      some (numberTime (decide (unixSecondsYear3000 < value.toInt)) value.toInt) := rfl

theorem parseTimeKey_int (value : Int64) :
    parseTimeKey platform (.int value) = parseTimeKey platform (.int64 value) := rfl

def parseNumericKey : Key -> Option Int
  | .float64 value => some (int64OfFloat platform value)
  | .int64 value => some value.toInt
  | .int value => some value.toInt
  | .string text => parseInt text
  | _ => none

end Switches

end Bucket
end Shardman
