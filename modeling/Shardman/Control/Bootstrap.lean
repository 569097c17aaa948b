import Shardman.Control.Resolve
import Shardman.Store.ConfigCache

namespace Shardman

/-!
# Bootstrap requests

A bootstrap request goes through defaults for its mode and axis and through
checks in three places before it becomes the configuration of the cluster.
From then on every write is routed by it, in the process that has accepted it
and in any process that reads it back.  This module follows a request from the
handler to the router: whatever a server accepts, the router has an answer for
every key, and divides by nothing that could be zero.
-/

namespace Bucket

def modeRange : String := "range"
def modeHash : String := "hash"

inductive BootstrapError
  | unsupportedMode (mode : String)
  | hashAxisMode
  | hashModeAxis
  | retentionDepth
  | maxFutureBuckets
  | unsupportedAxis (axis : Axis)
  | spec (failure : SpecError)
  | shardMaxBytes
deriving DecidableEq, Repr

/-- Whether an optional number is missing or too small. -/
def tooSmall (least : Int) : Option Int -> Bool
  | none => true
  | some value => decide (value < least)

def validateBootstrap (mode : String) (axis : Axis) (retentionDepth maxFuture : Option Int) :
    Except BootstrapError Unit :=
  if ¬ (mode = modeRange ∨ mode = modeHash ∨ mode = "") then .error (.unsupportedMode mode)
  else if mode = modeHash ∨ axis = .hash then
    if mode ≠ modeHash ∧ mode ≠ "" then .error .hashAxisMode
    else if axis ≠ .hash then .error .hashModeAxis
    else .ok ()
  else if axis = .time ∧ tooSmall 1 retentionDepth then .error .retentionDepth
  else if axis = .time ∧ tooSmall 0 maxFuture then .error .maxFutureBuckets
  else if axis ≠ .time ∧ axis ≠ .numeric then .error (.unsupportedAxis axis)
  else .ok ()

theorem not_tooSmall_iff {least : Int} {number : Option Int} :
    ¬ tooSmall least number = true ↔ Exists fun value => number = some value ∧ least <= value := by
  cases number with
  | none => simp [tooSmall]
  | some value => simp [tooSmall]

/-- What the check accepts: the hash axis, the numeric axis, or the time axis with
a window. -/
theorem validateBootstrap_ok_iff {mode : String} {axis : Axis} {retentionDepth maxFuture : Option Int} :
    validateBootstrap mode axis retentionDepth maxFuture = .ok () ↔
      ((mode = modeHash ∨ mode = "") ∧ axis = .hash) ∨
      ((mode = modeRange ∨ mode = "") ∧ axis = .numeric) ∨
      ((mode = modeRange ∨ mode = "") ∧ axis = .time ∧
        (Exists fun depth => retentionDepth = some depth ∧ 1 <= depth) ∧
        Exists fun future => maxFuture = some future ∧ 0 <= future) := by
  have different : modeRange ≠ modeHash := by decide
  have named : modeHash ≠ "" := by decide
  rw [← not_tooSmall_iff, ← not_tooSmall_iff]
  unfold validateBootstrap
  cases axis with
  | time | numeric | hash | other => grind

/-! ## Routes -/

def RouteReason.text : RouteReason -> String
  | .futureDisallowed => "future_disallowed"
  | .futureTooFar => "future_too_far"
  | .evicted => "bucket_evicted"
  | .invalidKey => "invalid_shard_key"

/-- A route to a bucket that has a name of its own, or to the error shard for a
reason. -/
def WriteRoute.WellFormed (route : WriteRoute) : Prop :=
  (route.kind = .bucket ∧ route.bucketID ≠ "" ∧ route.bucketID ≠ errorBucketID) ∨
    (route.kind = .error ∧ route.bucketID = errorBucketID ∧
      Exists fun reason => route.reason = some reason ∧ reason.text ≠ "")

theorem wellFormed_toError (reason : RouteReason) : (WriteRoute.toError reason).WellFormed := by
  refine Or.inr ⟨rfl, rfl, reason, rfl, ?_⟩
  cases reason <;> decide

theorem wellFormed_toBucket {bucketID : String} (named : bucketID ≠ "") (unreserved : bucketID ≠ errorBucketID) :
    (WriteRoute.toBucket bucketID).WellFormed :=
  Or.inl ⟨rfl, named, unreserved⟩

/-- A name that starts with a letter of its axis is none of the reserved ones. -/
theorem wellFormed_lettered {letter : Char} (lettered : letter ≠ '_') (rest : List Char) :
    (WriteRoute.toBucket (String.ofList (letter :: rest))).WellFormed := by
  apply wellFormed_toBucket (ofList_cons_ne letter rest)
  intro same
  have lists := congrArg String.toList same
  rw [String.toList_ofList] at lists
  exact lettered (List.cons.inj lists).1

theorem wellFormed_placeInWindow {unit : TimeUnit} {targetID : String} {targetIdx : Int}
    (found : unit.index targetID = some targetIdx) (currentIdx retentionDepth maxFuture : Int) :
    (placeInWindow targetID targetIdx currentIdx retentionDepth maxFuture).WellFormed := by
  have reserved := index_reserved unit
  have unreserved : targetID ≠ "" ∧ targetID ≠ errorBucketID := by
    constructor <;> rintro rfl
    · rw [reserved.1] at found
      cases found
    · rw [reserved.2] at found
      cases found
  rcases placeInWindow_cases targetID targetIdx currentIdx retentionDepth maxFuture with
    ⟨_, placed⟩ | ⟨_, placed | placed | placed⟩ <;> rw [placed]
  · exact wellFormed_toError _
  · exact wellFormed_toBucket unreserved.1 unreserved.2
  · exact wellFormed_toError _
  · exact wellFormed_toError _

/-- In the years 0..9999 the router has an answer for every key. -/
theorem classifyWrite_wellFormed (platform : Platform) (spec : Spec) {now : Int}
    (years : Foundation.TimeLayout.FourDigitYear now) (shardKey : Key) (retentionDepth maxFuture : Int) :
    Exists fun route => classifyWrite platform spec now shardKey retentionDepth maxFuture = some route ∧
      route.WellFormed := by
  cases spec with
  | time unit =>
      refine ⟨_, classifyWrite_time platform unit years shardKey retentionDepth maxFuture, ?_⟩
      cases (Spec.time unit).id platform shardKey with
      | none => exact wellFormed_toError _
      | some targetID =>
          cases found : unit.index targetID with
          | none =>
              simp only [found]
              exact wellFormed_toError _
          | some targetIdx =>
              simp only [found]
              exact wellFormed_placeInWindow found _ _ _
  | numeric width positive fits =>
      have untimed : (Spec.numeric width positive fits).axis ≠ .time := show Axis.numeric ≠ .time by decide
      rw [classifyWrite_untimed _ _ _ _ _ untimed, Spec.id_numeric]
      cases parseNumericKey platform shardKey with
      | none => exact ⟨_, rfl, wellFormed_toError _⟩
      | some number => exact ⟨_, rfl, wellFormed_lettered (by decide) _⟩
  | hash bucketCount positive fits =>
      have untimed : (Spec.hash bucketCount positive fits).axis ≠ .time := show Axis.hash ≠ .time by decide
      rw [classifyWrite_untimed _ _ _ _ _ untimed, Spec.id_hash]
      cases stringifyKey platform shardKey with
      | none => exact ⟨_, rfl, wellFormed_toError _⟩
      | some text => exact ⟨_, rfl, wellFormed_lettered (by decide) _⟩

end Bucket

namespace Control

open Bucket
open Store
open Foundation

structure BootstrapRequest where
  mode : String
  bucketAxis : String
  bucketSpecJson : RawMessage
  shardMaxBytes : Int64
  retentionDepth : Option Int32
  maxFutureBuckets : Option Int32

namespace BootstrapRequest

variable (request : BootstrapRequest)

def defaultedMode : String :=
  if request.mode = "" then
    if Axis.ofText request.bucketAxis = .hash then modeHash else modeRange
  else
    request.mode

def defaultedAxis : Axis :=
  if request.defaultedMode = modeHash ∧ request.bucketAxis = "" then .hash
  else Axis.ofText request.bucketAxis

end BootstrapRequest

theorem int32_fits (number : Option Int32) (bound : Int) (same : number.map Int32.toInt = some bound) :
    -2 ^ 31 <= bound ∧ bound < 2 ^ 31 := by
  rcases Option.map_eq_some_iff.mp same with ⟨value, _, rfl⟩
  exact ⟨Int32.le_toInt value, Int32.toInt_lt value⟩

/-- The configuration that the handler of a request passes to the store. -/
def acceptBootstrap (request : BootstrapRequest) : Except BootstrapError ConfigRow :=
  let depth := request.retentionDepth.map Int32.toInt
  let future := request.maxFutureBuckets.map Int32.toInt
  match validateBootstrap request.defaultedMode request.defaultedAxis depth future with
  | .error failure => .error failure
  | .ok () =>
      match parseSpec request.defaultedAxis request.bucketSpecJson with
      | .error failure => .error (.spec failure)
      | .ok _ =>
          if request.shardMaxBytes.toInt <= 0 then
            .error .shardMaxBytes
          else
            .ok
              { mode := request.defaultedMode
                bucketAxis := request.defaultedAxis
                bucketSpec := request.bucketSpecJson
                shardMaxBytes := request.shardMaxBytes.toInt
                retentionDepth := depth
                maxFutureBuckets := future
                depthFits := int32_fits request.retentionDepth
                futureFits := int32_fits request.maxFutureBuckets }

/-- Defaults leave no mode empty. -/
theorem defaultedMode_ne_empty (request : BootstrapRequest) : request.defaultedMode ≠ "" := by
  unfold BootstrapRequest.defaultedMode
  by_cases empty : request.mode = ""
  · rw [if_pos empty]
    split <;> decide
  · rw [if_neg empty]
    exact empty

theorem acceptBootstrap_ok {request : BootstrapRequest} {row : ConfigRow}
    (accepted : acceptBootstrap request = .ok row) :
    row.mode = request.defaultedMode ∧
      validateBootstrap row.mode row.bucketAxis row.retentionDepth row.maxFutureBuckets = .ok () ∧
      (Exists fun spec => parseSpec row.bucketAxis row.bucketSpec = .ok spec) ∧ 0 < row.shardMaxBytes := by
  simp only [acceptBootstrap] at accepted
  split at accepted
  · cases accepted
  · rename_i validated
    split at accepted
    · cases accepted
    · rename_i spec parsed
      split at accepted
      · cases accepted
      · rename_i positive
        cases accepted
        exact ⟨rfl, validated, ⟨spec, parsed⟩, by simpa using positive⟩

/-! ## What a configuration guarantees -/

/-- A configuration under which routing cannot fail. -/
structure RoutesEveryKey (platform : Platform) (config : ClusterConfig) : Prop where
  /-- There is a route: no division by zero on the way to it, and no error. -/
  routes : forall now shardKey, TimeLayout.FourDigitYear now ->
    Exists fun route =>
      classifyWriteChecked platform config.bucketSpec now shardKey (config.retentionDepth.getD 0)
        (config.maxFutureBuckets.getD 0) = some (some route) ∧
      classifyWriteFor platform config now shardKey = some route ∧ route.WellFormed
  hashMode : config.mode = modeHash ↔ config.bucketAxis = .hash
  window : config.bucketAxis = .time ->
    (Exists fun depth => config.retentionDepth = some depth ∧ 1 <= depth) ∧
      Exists fun future => config.maxFutureBuckets = some future ∧ 0 <= future

/-- The specification may be read from the request or from the column: the rest of
the row is that of the request. -/
theorem routesEveryKey_of_row (platform : Platform) {request : BootstrapRequest} {row : ConfigRow}
    (raw : RawMessage) {config : ClusterConfig} (accepted : acceptBootstrap request = .ok row)
    (loaded : ({ row with bucketSpec := raw } : ConfigRow).config = .ok config) :
    RoutesEveryKey platform config := by
  rcases acceptBootstrap_ok accepted with ⟨mode, validated, _, _⟩
  rcases ConfigRow.config_ok loaded with ⟨spec, parsed, rfl⟩
  have named : row.mode ≠ "" := by
    rw [mode]
    exact defaultedMode_ne_empty request
  rw [validateBootstrap_ok_iff] at validated
  have different : modeRange ≠ modeHash := by decide
  refine ⟨?_, ?_, ?_⟩
  · intro now shardKey years
    rcases classifyWrite_wellFormed platform spec years shardKey (row.retentionDepth.getD 0)
      (row.maxFutureBuckets.getD 0) with ⟨route, classified, wellFormed⟩
    refine ⟨route, ?_, classified, wellFormed⟩
    rw [classifyWriteChecked_eq]
    exact congrArg some classified
  · change row.mode = modeHash ↔ row.bucketAxis = .hash
    rcases validated with ⟨modes, axis⟩ | ⟨modes, axis⟩ | ⟨modes, axis, _⟩
    · exact iff_of_true (modes.resolve_right named) axis
    · rw [modes.resolve_right named, axis]
      exact iff_of_false different (by decide)
    · rw [modes.resolve_right named, axis]
      exact iff_of_false different (by decide)
  · intro timed
    change row.bucketAxis = .time at timed
    rcases validated with ⟨_, axis⟩ | ⟨_, axis⟩ | ⟨_, _, window⟩
    · cases timed.symm.trans axis
    · cases timed.symm.trans axis
    · exact window

/-- Whatever request a server accepts: its configuration can be built, and in every
run of server processes that is bootstrapped by it, every configuration that a
process holds or has returned routes every key, in all years 0..9999. -/
theorem accepted_bootstrap_routes_every_key (postgres : Postgres) (platform : Platform)
    (request : BootstrapRequest) (row : ConfigRow) (accepted : acceptBootstrap request = .ok row) :
    (Exists fun config => row.config = .ok config ∧ RoutesEveryKey platform config) ∧
      forall past cluster config, Run (configStep postgres) newCluster past cluster ->
        BootedBy postgres past row -> cluster.Knows config -> RoutesEveryKey platform config := by
  constructor
  · rcases acceptBootstrap_ok accepted with ⟨_, _, ⟨spec, parsed⟩, _⟩
    have loaded := ConfigRow.config_eq parsed
    exact ⟨_, loaded, routesEveryKey_of_row platform row.bucketSpec accepted loaded⟩
  · intro past cluster config run booted known
    rcases (bootedBy_stands run booted).2 config known with loaded | loaded
    · exact routesEveryKey_of_row platform row.bucketSpec accepted loaded
    · exact routesEveryKey_of_row platform (postgres.jsonb row.bucketSpec) accepted loaded

/-- Daily buckets, with the mode left to its default. -/
def dailyRequest : BootstrapRequest where
  mode := ""
  bucketAxis := "time"
  bucketSpecJson := .object [("unit", .string "day")]
  shardMaxBytes := 100
  retentionDepth := some 7
  maxFutureBuckets := some 0

theorem accepted_bootstrap_routes_every_key_daily :
    Exists fun row => acceptBootstrap dailyRequest = .ok row ∧ row.mode = "range" ∧
      Exists fun config => row.config = .ok config ∧ RoutesEveryKey samplePlatform config := by
  have accepted : (acceptBootstrap dailyRequest).toOption.map ConfigRow.mode = some "range" := by decide
  cases outcome : acceptBootstrap dailyRequest with
  | error failure =>
      rw [outcome] at accepted
      cases accepted
  | ok row =>
      rw [outcome] at accepted
      exact ⟨row, rfl, Option.some_inj.mp accepted,
        (accepted_bootstrap_routes_every_key plainPostgres samplePlatform dailyRequest row outcome).1⟩

end Control
end Shardman
