import Mathlib.Algebra.GroupWithZero.Nat
import Mathlib.Data.Char
import Mathlib.Data.List.Lex
import Mathlib.Data.List.Sort
import Shardman.Bucket.Spec
import Shardman.Foundation.Keyed

namespace Shardman
namespace Bucket

open Foundation

/-!
# Bucket specifications in a JSONB column

The database keeps a bucket specification as JSONB.  An object is stored with
the last of the members that share a name, in the order of the names, shorter
names first.  A server that reads the column back decodes these members, while
the server that has bootstrapped the cluster has decoded the ones of the
request.  Decoding matches names regardless of case and lets the last match
decide, so the two may see different values.
-/

/-! ## Storing an object -/

/-- What the database does to a document beyond the order of its members. -/
structure Postgres where
  /-- The text in which a number is given back. -/
  number : String -> String
  /-- Whether the column takes a document at all; it refuses zero characters. -/
  storable : RawMessage -> Bool
  number_kept : forall literal value, Decimal.readInt literal.toList = .value value ->
    Decimal.readInt (number literal).toList = .value value

/-- A database that gives integers back as they were written. -/
def plainPostgres : Postgres where
  number literal := literal
  storable _ := true
  number_kept _ _ read := read

/-- The length of a name in UTF-8. -/
def utf8Length (name : String) : Nat := (name.toList.map Char.utf8Size).sum

/-- Names are ordered by length and then by their bytes.  Among names of one
length the order of the bytes is that of the characters. -/
def NameLe (first second : String) : Prop :=
  utf8Length first < utf8Length second ∨
    (utf8Length first = utf8Length second ∧ first.toList <= second.toList)

instance (first second : String) : Decidable (NameLe first second) :=
  inferInstanceAs (Decidable (_ ∨ _))

theorem nameLe_refl (name : String) : NameLe name name := Or.inr ⟨rfl, le_refl _⟩

theorem nameLe_antisymm (first second : String) (forth : NameLe first second) (back : NameLe second first) :
    first = second := by
  rcases forth with shorter | ⟨sameLength, below⟩
  · rcases back with longer | ⟨sameLength, _⟩
    · omega
    · omega
  · rcases back with longer | ⟨_, above⟩
    · omega
    · exact String.toList_inj.mp (le_antisymm below above)

theorem nameLe_trans (first second third : String) (earlier : NameLe first second) (later : NameLe second third) :
    NameLe first third := by
  rcases earlier with shorter | ⟨sameLength, below⟩
  · rcases later with longer | ⟨length, _⟩
    · exact Or.inl (by omega)
    · exact Or.inl (by omega)
  · rcases later with longer | ⟨length, above⟩
    · exact Or.inl (by omega)
    · exact Or.inr ⟨by omega, le_trans below above⟩

theorem nameLe_total (first second : String) : NameLe first second ∨ NameLe second first := by
  by_cases shorter : utf8Length first < utf8Length second
  · exact Or.inl (Or.inl shorter)
  · by_cases longer : utf8Length second < utf8Length first
    · exact Or.inr (Or.inl longer)
    · rcases le_total first.toList second.toList with below | above
      · exact Or.inl (Or.inr ⟨by omega, below⟩)
      · exact Or.inr (Or.inr ⟨by omega, above⟩)

abbrev Member := String × JsonValue

def MemberLe (first second : Member) : Prop := NameLe first.1 second.1

instance : DecidableRel MemberLe := fun first second => inferInstanceAs (Decidable (NameLe first.1 second.1))

instance : IsTrans Member MemberLe := ⟨fun first second third => nameLe_trans first.1 second.1 third.1⟩

instance : Std.Total MemberLe := ⟨fun first second => nameLe_total first.1 second.1⟩

namespace Postgres

variable (postgres : Postgres)

def value : JsonValue -> JsonValue
  | .number literal => .number (postgres.number literal)
  | other => other

/-- The document that the column gives back. -/
def jsonb : RawMessage -> RawMessage
  | .object members =>
      .object (((Keyed.keepLast members).insertionSort MemberLe).map fun member =>
        (member.1, postgres.value member.2))
  | .value content => .value (postgres.value content)
  | other => other

end Postgres

/-! ## Which member decides -/

section Fields

variable {X : Type} (name : String) (read : JsonValue -> Option (Option X))

/-- The value that a member has for a field, with the name under which it has it. -/
def fieldEntry (member : Member) : Option (String × X) :=
  if namesField member.1 name then (read member.2).join.map fun value => (member.1, value) else none

def fieldEntries (members : List Member) : List (String × X) := members.filterMap (fieldEntry name read)

/-- The last value of a field in the order of the document. -/
def lastValue (members : List Member) : Option X := ((fieldEntries name read members).getLast?).map Prod.snd

/-- The value under the greatest name, where only the last member of a name counts. -/
def GreatestValue (members : List Member) (value : X) : Prop :=
  Exists fun key => (key, value) ∈ fieldEntries name read (Keyed.keepLast members) ∧
    forall other, other ∈ fieldEntries name read (Keyed.keepLast members) -> NameLe other.1 key

/-- Every member that names the field has a value for it, or leaves it alone. -/
def Decodes (members : List Member) : Prop :=
  forall member, member ∈ members -> namesField member.1 name = true -> read member.2 ≠ none

end Fields

section Decoding

variable {X : Type} {name : String} {read : JsonValue -> Option (Option X)}

theorem fieldEntry_key {member : Member} {entry : String × X} (found : fieldEntry name read member = some entry) :
    entry.1 = member.1 := by
  unfold fieldEntry at found
  split at found
  · rcases Option.map_eq_some_iff.mp found with ⟨_, _, rfl⟩
    rfl
  · cases found

theorem lastValue_cons (member : Member) (rest : List Member) :
    lastValue name read (member :: rest) =
      (lastValue name read rest).or ((fieldEntry name read member).map Prod.snd) := by
  unfold lastValue fieldEntries
  cases entry : fieldEntry name read member with
  | none =>
      rw [List.filterMap_cons_none entry, Option.map_none, Option.or_none]
  | some found =>
      rw [List.filterMap_cons_some entry, List.getLast?_cons]
      cases (List.filterMap (fieldEntry name read) rest).getLast? with
      | none => rfl
      | some last => rfl

theorem entries_keys_sublist (members : List Member) :
    ((fieldEntries name read members).map Prod.fst).Sublist (members.map Prod.fst) := by
  induction members with
  | nil => exact List.Sublist.refl _
  | cons member rest inductionHypothesis =>
      unfold fieldEntries at inductionHypothesis ⊢
      cases entry : fieldEntry name read member with
      | none =>
          rw [List.filterMap_cons_none entry]
          exact inductionHypothesis.cons member.1
      | some found =>
          rw [List.filterMap_cons_some entry, List.map_cons, List.map_cons, fieldEntry_key entry]
          exact inductionHypothesis.cons_cons member.1

/-- One member of the fold that decodes a field. -/
def decodeMember (name : String) (read : JsonValue -> Option (Option X)) (current : Option X) (member : Member) :
    Option X :=
  if namesField member.1 name then
    match current, read member.2 with
    | some kept, some none => some kept
    | some _, some (some next) => some next
    | _, _ => none
  else
    current

theorem decodeField_object (members : List Member) (zero : X) :
    (RawMessage.object members).decodeField name read zero = members.foldl (decodeMember name read) (some zero) :=
  rfl

theorem foldl_decodeMember_none (members : List Member) :
    members.foldl (decodeMember name read) none = none := by
  induction members with
  | nil => rfl
  | cons member rest inductionHypothesis =>
      have stuck : decodeMember name read none member = none := by
        unfold decodeMember
        split
        · rfl
        · rfl
      rw [List.foldl_cons, stuck, inductionHypothesis]

theorem decodeMember_some {member : Member} (current : X)
    (decodes : namesField member.1 name = true -> read member.2 ≠ none) :
    decodeMember name read (some current) member =
      some (((fieldEntry name read member).map Prod.snd).getD current) := by
  unfold decodeMember fieldEntry
  by_cases named : namesField member.1 name = true
  · rw [if_pos named, if_pos named]
    cases content : read member.2 with
    | none => exact absurd content (decodes named)
    | some found =>
        cases found with
        | none => rfl
        | some value => rfl
  · rw [if_neg named, if_neg named]
    rfl

/-- Decoding ends with the last value, as long as every member decodes. -/
theorem foldl_decodeMember (members : List Member) (current : X) (decodes : Decodes name read members) :
    members.foldl (decodeMember name read) (some current) = some ((lastValue name read members).getD current) := by
  induction members generalizing current with
  | nil => rfl
  | cons member rest inductionHypothesis =>
      have later : Decodes name read rest := fun other listed => decodes other (List.mem_cons_of_mem _ listed)
      rw [List.foldl_cons, decodeMember_some current (decodes member List.mem_cons_self),
        inductionHypothesis _ later, lastValue_cons]
      cases lastValue name read rest with
      | none => rfl
      | some last => rfl

/-- A field that decodes, decodes from every member. -/
theorem decodes_of_decodeField {members : List Member} {zero value : X}
    (decoded : (RawMessage.object members).decodeField name read zero = some value) :
    Decodes name read members := by
  rw [decodeField_object] at decoded
  induction members generalizing zero with
  | nil =>
      intro member absent
      cases absent
  | cons member rest inductionHypothesis =>
      rw [List.foldl_cons] at decoded
      cases first : decodeMember name read (some zero) member with
      | none =>
          rw [first, foldl_decodeMember_none] at decoded
          cases decoded
      | some next =>
          rw [first] at decoded
          intro other listed named
          rcases List.mem_cons.mp listed with rfl | later
          · intro failed
            unfold decodeMember at first
            rw [if_pos named, failed] at first
            cases first
          · exact inductionHypothesis decoded other later named

/-- What the last member of a sorted document is. -/
theorem lastValue_sorted (members : List Member) (value : X) :
    lastValue name read ((Keyed.keepLast members).insertionSort MemberLe) = some value ↔
      GreatestValue name read members value := by
  have perm := (List.perm_insertionSort MemberLe (Keyed.keepLast members)).filterMap (fieldEntry name read)
  have sameEntries : forall entry, entry ∈ fieldEntries name read ((Keyed.keepLast members).insertionSort MemberLe) ↔
      entry ∈ fieldEntries name read (Keyed.keepLast members) := fun entry => perm.mem_iff
  have sorted : (fieldEntries name read ((Keyed.keepLast members).insertionSort MemberLe)).Pairwise
      fun first second => NameLe first.1 second.1 := by
    refine List.Pairwise.filterMap (fieldEntry name read) ?_
      (List.pairwise_insertionSort MemberLe (Keyed.keepLast members))
    intro first second ordered firstEntry firstFound secondEntry secondFound
    rw [fieldEntry_key firstFound, fieldEntry_key secondFound]
    exact ordered
  have distinct : ((fieldEntries name read ((Keyed.keepLast members).insertionSort MemberLe)).map
      Prod.fst).Nodup := by
    refine (perm.map Prod.fst).nodup_iff.mpr ?_
    exact List.Nodup.sublist (entries_keys_sublist (Keyed.keepLast members)) (Keyed.keepLast_nodup members)
  constructor
  · intro last
    rcases Option.map_eq_some_iff.mp last with ⟨⟨key, _⟩, found, rfl⟩
    refine ⟨key, (sameEntries _).mp (List.mem_of_getLast? found), ?_⟩
    intro other member
    exact Keyed.greatest_of_getLast nameLe_refl sorted found other ((sameEntries other).mpr member)
  · rintro ⟨key, member, greatest⟩
    refine Option.map_eq_some_iff.mpr ⟨(key, value), ?_, rfl⟩
    refine Keyed.getLast_of_greatest nameLe_refl nameLe_antisymm sorted distinct ((sameEntries _).mpr member) ?_
    intro other listed
    exact greatest other ((sameEntries other).mp listed)

/-- The field of a stored document: the value under the greatest name, or the
zero value if no value is left. -/
theorem decodeField_jsonb (postgres : Postgres) {members : List Member} {zero value : X}
    (decoded : (RawMessage.object members).decodeField name read zero = some value)
    (kept : forall content found, read content = some found -> read (postgres.value content) = some found) :
    Exists fun stored => (postgres.jsonb (.object members)).decodeField name read zero = some stored ∧
      ((GreatestValue name read members stored) ∨
        (stored = zero ∧ forall other, ¬ GreatestValue name read members other)) := by
  have decodes := decodes_of_decodeField decoded
  have survives : forall member, member ∈ (Keyed.keepLast members).insertionSort MemberLe -> member ∈ members := by
    intro member listed
    exact (Keyed.keepLast_sublist members).subset ((List.mem_insertionSort MemberLe).mp listed)
  -- Numbers are written differently but read alike.
  have sameValues : lastValue name read (((Keyed.keepLast members).insertionSort MemberLe).map fun member =>
      (member.1, postgres.value member.2)) =
      lastValue name read ((Keyed.keepLast members).insertionSort MemberLe) := by
    unfold lastValue fieldEntries
    rw [List.filterMap_map]
    congr 2
    apply List.filterMap_congr
    intro member listed
    simp only [Function.comp_apply, fieldEntry]
    by_cases named : namesField member.1 name = true
    · rw [if_pos named, if_pos named]
      cases content : read member.2 with
      | none => exact absurd content (decodes member (survives member listed) named)
      | some found => rw [kept member.2 found content]
    · rw [if_neg named, if_neg named]
  have storedDecodes : Decodes name read (((Keyed.keepLast members).insertionSort MemberLe).map fun member =>
      (member.1, postgres.value member.2)) := by
    intro member listed named
    rcases List.mem_map.mp listed with ⟨source, sourceListed, rfl⟩
    cases content : read source.2 with
    | none => exact absurd content (decodes source (survives source sourceListed) named)
    | some found =>
        rw [kept source.2 found content]
        exact Option.some_ne_none found
  refine ⟨_, (decodeField_object _ zero).trans (foldl_decodeMember _ zero storedDecodes), ?_⟩
  rw [sameValues]
  cases last : lastValue name read ((Keyed.keepLast members).insertionSort MemberLe) with
  | some stored => exact Or.inl ((lastValue_sorted members stored).mp last)
  | none =>
      refine Or.inr ⟨rfl, ?_⟩
      intro other greatest
      rw [(lastValue_sorted members other).mpr greatest] at last
      cases last

theorem greatestValue_unique {members : List Member} {first second : X}
    (one : GreatestValue name read members first) (other : GreatestValue name read members second) :
    first = second := by
  have last := (lastValue_sorted members first).mpr one
  rw [(lastValue_sorted members second).mpr other, Option.some_inj] at last
  exact last.symm

/-- A field that is not left at its zero has the last value of the document. -/
theorem decodeField_last {members : List Member} {zero value : X}
    (decoded : (RawMessage.object members).decodeField name read zero = some value) (set : value ≠ zero) :
    lastValue name read members = some value := by
  have folded := foldl_decodeMember members zero (decodes_of_decodeField decoded)
  rw [← decodeField_object, decoded, Option.some_inj] at folded
  cases found : lastValue name read members with
  | none =>
      rw [found, Option.getD_none] at folded
      exact absurd folded set
  | some last =>
      rw [found, Option.getD_some] at folded
      rw [folded]

end Decoding

/-! ## Reading a specification back -/

theorem asInt_kept (postgres : Postgres) (content : JsonValue) (found : Option Int)
    (read : content.asInt = some found) : (postgres.value content).asInt = some found := by
  cases content with
  | number literal =>
      unfold JsonValue.asInt at read
      rcases Option.map_eq_some_iff.mp read with ⟨value, converted, rfl⟩
      cases reading : Decimal.readInt literal.toList with
      | value number =>
          rw [reading] at converted
          cases converted
          simp only [Postgres.value, JsonValue.asInt, postgres.number_kept literal value reading,
            Decimal.Reading.toOption, Option.map_some]
      | malformed | outOfRange =>
          rw [reading] at converted
          cases converted
  | null | bool | string | composite => exact read

theorem asString_kept (postgres : Postgres) (content : JsonValue) (found : Option String)
    (read : content.asString = some found) : (postgres.value content).asString = some found := by
  cases content with
  | number literal => cases read
  | null | bool | string | composite => exact read

theorem greatestValue_range {name : String} {members : List Member} {value : Int}
    (greatest : GreatestValue name JsonValue.asInt members value) : value < 2 ^ 63 := by
  rcases greatest with ⟨key, member, _⟩
  rcases List.mem_filterMap.mp member with ⟨source, _, entry⟩
  unfold fieldEntry at entry
  split at entry
  · rcases Option.map_eq_some_iff.mp entry with ⟨number, joined, same⟩
    cases same
    cases content : source.2 with
    | number literal =>
        rw [content, JsonValue.asInt] at joined
        cases reading : Decimal.readInt literal.toList with
        | value found =>
            rw [reading] at joined
            cases joined
            exact (Decimal.readInt_range reading).2
        | malformed | outOfRange =>
            rw [reading] at joined
            cases joined
    | null | bool | string | composite =>
        rw [content] at joined
        cases joined
  · cases entry

/-- The spelling of a document does not matter to its specification: under the
greatest of the names that stand for the field of the axis it has the value that
it has last, unless the value there is refused. -/
def StableSpelling (axis : Axis) : RawMessage -> Prop
  | .object members =>
      match axis with
      | .time =>
          forall text, GreatestValue "unit" JsonValue.asString members text ->
            lastValue "unit" JsonValue.asString members = some text ∨
              (text ≠ unitHour ∧ text ≠ unitDay ∧ text ≠ unitMonth)
      | .numeric =>
          forall width, GreatestValue "width" JsonValue.asInt members width ->
            lastValue "width" JsonValue.asInt members = some width ∨ width <= 0
      | .hash =>
          (forall count, GreatestValue "bucket_count" JsonValue.asInt members count ->
            lastValue "bucket_count" JsonValue.asInt members = some count ∨ count <= 0) ∨
          (Exists fun algo => GreatestValue "hash_algo" JsonValue.asString members algo ∧ algo ≠ "" ∧
            algo ≠ hashAlgoXXHash64)
      | .other _ => True
  | _ => True

/-- The text of a unit. -/
def TimeUnit.text : TimeUnit -> String
  | .hour => unitHour
  | .day => unitDay
  | .month => unitMonth

/-- Only objects are accepted. -/
theorem parseSpec_object {axis : Axis} {raw : RawMessage} {spec : Spec} (parsed : parseSpec axis raw = .ok spec) :
    Exists fun members => raw = .object members := by
  cases raw with
  | object members => exact ⟨members, rfl⟩
  | empty => cases parsed
  | malformed => cases axis <;> cases parsed
  | value content => cases content <;> cases axis <;> cases parsed

theorem parseTimeUnit_error {text : String} {failure : SpecError} (refused : parseTimeUnit text = .error failure) :
    text ≠ unitHour ∧ text ≠ unitDay ∧ text ≠ unitMonth := by
  refine ⟨?_, ?_, ?_⟩
  · rintro rfl
    cases refused
  · rintro rfl
    cases refused
  · rintro rfl
    cases refused

theorem parseTimeUnit_ok {text : String} {unit : TimeUnit} (parsed : parseTimeUnit text = .ok unit) :
    text = unit.text := by
  unfold parseTimeUnit at parsed
  split at parsed
  · rename_i same
    cases parsed
    exact same
  · split at parsed
    · rename_i same
      cases parsed
      exact same
    · split at parsed
      · rename_i same
        cases parsed
        exact same
      · cases parsed

/-- The texts of the units are different. -/
theorem parseTimeUnit_inj {first second : String} {unit : TimeUnit} (one : parseTimeUnit first = .ok unit)
    (other : parseTimeUnit second = .ok unit) : first = second := by
  rw [parseTimeUnit_ok one, parseTimeUnit_ok other]

theorem checkPositive_ok {number : Int} {failure : SpecError}
    {build : 0 < number -> number < 2 ^ 63 -> Spec} {spec : Spec}
    (checked : checkPositive number failure build = .ok spec) :
    Exists fun positive => Exists fun fits => build positive fits = spec := by
  unfold checkPositive at checked
  split at checked
  · rename_i positive
    split at checked
    · rename_i fits
      cases checked
      exact ⟨positive, fits, rfl⟩
    · cases checked
  · cases checked

theorem checkPositive_pos {number : Int} {failure : SpecError}
    {build : 0 < number -> number < 2 ^ 63 -> Spec} (positive : 0 < number) (fits : number < 2 ^ 63) :
    checkPositive number failure build = .ok (build positive fits) := by
  rw [checkPositive, dif_pos positive, dif_pos fits]

/-- A field with a positive number, in the request and in the column. -/
theorem stored_number (postgres : Postgres) {name : String} {members : List Member} {number : Int}
    (decoded : (RawMessage.object members).decodeField name JsonValue.asInt 0 = some number)
    (positive : 0 < number) :
    Exists fun stored => (postgres.jsonb (.object members)).decodeField name JsonValue.asInt 0 = some stored ∧
      stored < 2 ^ 63 ∧
      ((0 < stored -> stored = number) ↔
        forall greatest, GreatestValue name JsonValue.asInt members greatest ->
          lastValue name JsonValue.asInt members = some greatest ∨ greatest <= 0) := by
  have last : lastValue name JsonValue.asInt members = some number :=
    decodeField_last decoded (Int.ne_of_gt positive)
  rcases decodeField_jsonb postgres decoded (asInt_kept postgres) with
    ⟨stored, decodedAgain, greatest | ⟨rfl, absent⟩⟩
  · refine ⟨stored, decodedAgain, greatestValue_range greatest, ?_⟩
    rw [last]
    constructor
    · intro same other otherGreatest
      cases greatestValue_unique otherGreatest greatest
      by_cases accepted : 0 < stored
      · exact Or.inl (congrArg some (same accepted).symm)
      · exact Or.inr (by omega)
    · intro spelled accepted
      rcases spelled stored greatest with same | refused
      · exact (Option.some_inj.mp same).symm
      · omega
  · refine ⟨0, decodedAgain, by decide, ?_⟩
    refine iff_of_true (fun impossible => absurd impossible (Int.lt_irrefl 0)) ?_
    intro other otherGreatest
    exact absurd otherGreatest (absent other)

theorem stored_unit (postgres : Postgres) {members : List Member} {text : String} {unit : TimeUnit}
    (decoded : (RawMessage.object members).decodeField "unit" JsonValue.asString "" = some text)
    (parsed : parseTimeUnit text = .ok unit) :
    Exists fun stored =>
      (postgres.jsonb (.object members)).decodeField "unit" JsonValue.asString "" = some stored ∧
      ((forall other, parseTimeUnit stored = .ok other -> other = unit) ↔
        StableSpelling .time (.object members)) := by
  have last : lastValue "unit" JsonValue.asString members = some text := by
    refine decodeField_last decoded ?_
    rintro rfl
    cases parsed
  rcases decodeField_jsonb postgres decoded (asString_kept postgres) with
    ⟨stored, decodedAgain, greatest | ⟨rfl, absent⟩⟩
  · refine ⟨stored, decodedAgain, ?_⟩
    unfold StableSpelling
    simp only
    rw [last]
    constructor
    · intro same other otherGreatest
      cases greatestValue_unique otherGreatest greatest
      cases again : parseTimeUnit stored with
      | ok other =>
          refine Or.inl (congrArg some ?_)
          rw [same other again] at again
          exact parseTimeUnit_inj parsed again
      | error failure => exact Or.inr (parseTimeUnit_error again)
    · intro spelled other again
      rcases spelled stored greatest with same | ⟨notHour, notDay, notMonth⟩
      · rw [← Option.some_inj.mp same, parsed] at again
        cases again
        rfl
      · rw [parseTimeUnit, if_neg notHour, if_neg notDay, if_neg notMonth] at again
        cases again
  · refine ⟨"", decodedAgain, ?_⟩
    refine iff_of_true ?_ ?_
    · intro other impossible
      cases impossible
    · intro other otherGreatest
      exact absurd otherGreatest (absent other)

/-- A text that is read back and whether it is refused as an algorithm. -/
theorem stored_algo (postgres : Postgres) {members : List Member} {algo : String}
    (decoded : (RawMessage.object members).decodeField "hash_algo" JsonValue.asString "" = some algo) :
    Exists fun stored =>
      (postgres.jsonb (.object members)).decodeField "hash_algo" JsonValue.asString "" = some stored ∧
      ((stored ≠ "" ∧ stored ≠ hashAlgoXXHash64) ↔
        Exists fun greatest => GreatestValue "hash_algo" JsonValue.asString members greatest ∧ greatest ≠ "" ∧
          greatest ≠ hashAlgoXXHash64) := by
  rcases decodeField_jsonb postgres decoded (asString_kept postgres) with
    ⟨stored, decodedAgain, greatest | ⟨rfl, absent⟩⟩
  · refine ⟨stored, decodedAgain, ?_⟩
    constructor
    · intro refused
      exact ⟨stored, greatest, refused⟩
    · rintro ⟨other, otherGreatest, refused⟩
      cases greatestValue_unique otherGreatest greatest
      exact refused
  · refine ⟨"", decodedAgain, iff_of_false (fun refused => refused.1 rfl) ?_⟩
    rintro ⟨other, otherGreatest, _⟩
    exact absent other otherGreatest

/-! ### The axes -/

theorem parseSpec_time {members : List Member} {spec : Spec} :
    parseSpec .time (.object members) = .ok spec ↔
      Exists fun text => Exists fun unit =>
        (RawMessage.object members).decodeField "unit" JsonValue.asString "" = some text ∧
          parseTimeUnit text = .ok unit ∧ spec = .time unit := by
  simp only [parseSpec, reduceCtorEq, if_false]
  cases decoded : (RawMessage.object members).decodeField "unit" JsonValue.asString "" with
  | none => simp only [reduceCtorEq, false_and, exists_false]
  | some text =>
      cases known : parseTimeUnit text with
      | error failure =>
          constructor
          · intro impossible
            simp only [known] at impossible
            cases impossible
          · rintro ⟨other, unit, same, parsed, rfl⟩
            rw [← Option.some_inj.mp same, known] at parsed
            cases parsed
      | ok unit =>
          constructor
          · intro parsed
            simp only [known] at parsed
            cases parsed
            exact ⟨text, unit, rfl, known, rfl⟩
          · rintro ⟨other, found, same, parsed, rfl⟩
            rw [← Option.some_inj.mp same, known] at parsed
            cases parsed
            simp only [known]
            rfl

theorem parseSpec_numeric {members : List Member} {spec : Spec} :
    parseSpec .numeric (.object members) = .ok spec ↔
      Exists fun width => Exists fun positive => Exists fun fits =>
        (RawMessage.object members).decodeField "width" JsonValue.asInt 0 = some width ∧
          spec = .numeric width positive fits := by
  simp only [parseSpec, reduceCtorEq, if_false]
  cases decoded : (RawMessage.object members).decodeField "width" JsonValue.asInt 0 with
  | none => simp only [reduceCtorEq, false_and, exists_false]
  | some width =>
      constructor
      · intro parsed
        rcases checkPositive_ok parsed with ⟨positive, fits, rfl⟩
        exact ⟨width, positive, fits, rfl, rfl⟩
      · rintro ⟨other, positive, fits, same, rfl⟩
        cases same
        exact checkPositive_pos positive fits

theorem parseSpec_hash {members : List Member} {spec : Spec} :
    parseSpec .hash (.object members) = .ok spec ↔
      Exists fun count => Exists fun positive => Exists fun fits => Exists fun algo =>
        (RawMessage.object members).decodeField "bucket_count" JsonValue.asInt 0 = some count ∧
          (RawMessage.object members).decodeField "hash_algo" JsonValue.asString "" = some algo ∧
          (algo = "" ∨ algo = hashAlgoXXHash64) ∧ spec = .hash count positive fits := by
  simp only [parseSpec, reduceCtorEq, if_false]
  cases counted : (RawMessage.object members).decodeField "bucket_count" JsonValue.asInt 0 with
  | none => simp only [reduceCtorEq, false_and, exists_false]
  | some count =>
      cases hashed : (RawMessage.object members).decodeField "hash_algo" JsonValue.asString "" with
      | none => simp only [reduceCtorEq, false_and, and_false, exists_false]
      | some algo =>
          constructor
          · intro parsed
            simp only at parsed
            cases checked : checkPositive count .bucketCountNotPositive (Spec.hash count) with
            | error failure =>
                rw [checked] at parsed
                cases parsed
            | ok found =>
                rcases checkPositive_ok checked with ⟨positive, fits, rfl⟩
                simp only [checked] at parsed
                split at parsed
                · rename_i supported
                  cases parsed
                  exact ⟨count, positive, fits, algo, rfl, rfl, supported, rfl⟩
                · cases parsed
          · rintro ⟨_, positive, fits, _, same, sameAlgo, supported, rfl⟩
            cases same
            cases sameAlgo
            simp only [checkPositive_pos positive fits, if_pos supported]

/-- The specification that is read back from the column of an accepted document,
if one is read back at all, is the accepted one exactly when the spelling of the
document is stable. -/
theorem reparsed_iff (postgres : Postgres) {axis : Axis} {raw : RawMessage} {spec : Spec}
    (parsed : parseSpec axis raw = .ok spec) :
    (forall stored, parseSpec axis (postgres.jsonb raw) = .ok stored -> stored = spec) ↔
      StableSpelling axis raw := by
  rcases parseSpec_object parsed with ⟨members, rfl⟩
  cases axis with
  | other name => cases parsed
  | time =>
      rcases parseSpec_time.mp parsed with ⟨text, unit, decoded, known, rfl⟩
      rcases stored_unit postgres decoded known with ⟨stored, decodedAgain, agrees⟩
      rw [← agrees]
      constructor
      · intro same other found
        cases same (.time other) (parseSpec_time.mpr ⟨stored, other, decodedAgain, found, rfl⟩)
        rfl
      · intro same other found
        rcases parseSpec_time.mp found with ⟨back, unitBack, decodedBack, knownBack, rfl⟩
        cases decodedAgain.symm.trans decodedBack
        rw [same unitBack knownBack]
  | numeric =>
      rcases parseSpec_numeric.mp parsed with ⟨width, positive, fits, decoded, rfl⟩
      rcases stored_number postgres decoded positive with ⟨stored, decodedAgain, storedFits, agrees⟩
      rw [StableSpelling, ← agrees]
      constructor
      · intro same accepted
        cases same _ (parseSpec_numeric.mpr ⟨stored, accepted, storedFits, decodedAgain, rfl⟩)
        rfl
      · intro same other found
        rcases parseSpec_numeric.mp found with ⟨back, accepted, _, decodedBack, rfl⟩
        cases decodedAgain.symm.trans decodedBack
        cases same accepted
        rfl
  | hash =>
      rcases parseSpec_hash.mp parsed with ⟨count, positive, fits, algo, decoded, hashed, supported, rfl⟩
      rcases stored_number postgres decoded positive with ⟨stored, decodedAgain, storedFits, agrees⟩
      rcases stored_algo postgres hashed with ⟨storedAlgo, hashedAgain, refused⟩
      rw [StableSpelling, ← agrees, ← refused]
      constructor
      · intro same
        by_cases accepted : storedAlgo = "" ∨ storedAlgo = hashAlgoXXHash64
        · refine Or.inl fun storedPositive => ?_
          cases same _ (parseSpec_hash.mpr
            ⟨stored, storedPositive, storedFits, storedAlgo, decodedAgain, hashedAgain, accepted, rfl⟩)
          rfl
        · exact Or.inr (not_or.mp accepted)
      · rintro spelled other found
        rcases parseSpec_hash.mp found with
          ⟨back, accepted, _, algoBack, decodedBack, hashedBack, supportedBack, rfl⟩
        cases decodedAgain.symm.trans decodedBack
        cases hashedAgain.symm.trans hashedBack
        rcases spelled with same | unsupported
        · cases same accepted
          rfl
        · exact absurd supportedBack (not_or.mpr unsupported)

end Bucket
end Shardman
