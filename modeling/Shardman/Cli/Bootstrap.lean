import Shardman.Api.Identifiers
import Shardman.Bucket.Window

namespace Shardman
namespace Cli

open Bucket
open Store
open Control
open Client
open Api
open Foundation

/-!
# The bootstrap command

An administrator configures a cluster by a command whose flags become a request.
The flags for the buckets are written as JSON, which the server decodes and
checks; numbers of 64 bits become numbers of 32 bits on the way.  This module
states what the flags ask for and compares it with the configuration that a
server ends up with: what was asked for is what is stored, and a command that
asks for nothing sensible changes nothing.

The server answers with the number of shards that the cluster should have.  On
the time axis it is compared with the number of buckets that writes are routed to.
-/

/-! ## From flags to a request -/

/-- The flags of the command, with their defaults. -/
structure BootstrapFlags where
  axis : String := "time"
  unit : String := "month"
  width : Int64 := 0
  buckets : Int64 := 256
  retention : Int64 := 3
  future : Int64 := 0
  maxBytes : Int64 := 1073741824

def jsonNumber (number : Int64) : JsonValue := .number (String.ofList (Decimal.formatInt number.toInt))

/-- The document for the buckets.  An axis that is not known is taken for time. -/
def jsonSpec (flags : BootstrapFlags) : RawMessage :=
  if flags.axis = "numeric" then .object [("width", jsonNumber flags.width)]
  else if flags.axis = "hash" then
    .object [("bucket_count", jsonNumber flags.buckets), ("hash_algo", .string "xxhash64")]
  else .object [("unit", .string flags.unit)]

def runBootstrap (flags : BootstrapFlags) : BootstrapRequest where
  mode := if flags.axis = "hash" then "hash" else "range"
  bucketAxis := flags.axis
  bucketSpecJson := jsonSpec flags
  shardMaxBytes := flags.maxBytes
  retentionDepth := if flags.axis = "time" then some flags.retention.toInt32 else none
  maxFutureBuckets := if flags.axis = "time" then some flags.future.toInt32 else none

/-! ## What the flags ask for -/

/-- The mode, the axis, the buckets and the window that the flags ask for.  Of the
numbers for the window the lower 32 bits count. -/
inductive AsksFor (flags : BootstrapFlags) : String -> Axis -> Spec -> Option Int -> Option Int -> Prop
  | numeric (axis : flags.axis = "numeric") (positive : 0 < flags.width.toInt) (fits : flags.width.toInt < 2 ^ 63) :
      AsksFor flags modeRange .numeric (.numeric flags.width.toInt positive fits) none none
  | hash (axis : flags.axis = "hash") (positive : 0 < flags.buckets.toInt) (fits : flags.buckets.toInt < 2 ^ 63) :
      AsksFor flags modeHash .hash (.hash flags.buckets.toInt positive fits) none none
  | time {unit : TimeUnit} (axis : flags.axis = "time") (named : flags.unit = unit.text)
      (deep : 1 <= flags.retention.toInt32.toInt) (ahead : 0 <= flags.future.toInt32.toInt) :
      AsksFor flags modeRange .time (.time unit) (some flags.retention.toInt32.toInt)
        (some flags.future.toInt32.toInt)

/-- The configuration is the one that the flags ask for. -/
structure Asked (flags : BootstrapFlags) (config : ClusterConfig) : Prop where
  buckets : AsksFor flags config.mode config.bucketAxis config.bucketSpec config.retentionDepth
    config.maxFutureBuckets
  document : config.bucketSpecRaw = jsonSpec flags
  limit : config.shardMaxBytes = flags.maxBytes.toInt
  positive : 0 < flags.maxBytes.toInt

/-! ## Decoding what was encoded -/

theorem asInt_jsonNumber (number : Int64) : (jsonNumber number).asInt = some (some number.toInt) := by
  have read := Decimal.readInt_formatInt (Int64.le_toInt number) (Int64.toInt_lt number)
  simp only [jsonNumber, JsonValue.asInt, String.toList_ofList, read, Decimal.Reading.toOption, Option.map_some]

theorem parseSpec_width (width : Int64) :
    parseSpec .numeric (.object [("width", jsonNumber width)]) =
      checkPositive width.toInt .widthNotPositive (Spec.numeric width.toInt) := by
  have named : namesField "width" "width" = true := by decide
  simp only [parseSpec, RawMessage.decodeField, List.foldl_cons, List.foldl_nil, named, if_true,
    asInt_jsonNumber, reduceCtorEq, if_false]

theorem parseSpec_buckets (buckets : Int64) :
    parseSpec .hash (.object [("bucket_count", jsonNumber buckets), ("hash_algo", .string "xxhash64")]) =
      checkPositive buckets.toInt .bucketCountNotPositive (Spec.hash buckets.toInt) := by
  have named : namesField "bucket_count" "bucket_count" = true := by decide
  have unnamed : namesField "bucket_count" "hash_algo" = false := by decide
  have algorithm : namesField "hash_algo" "hash_algo" = true := by decide
  have other : namesField "hash_algo" "bucket_count" = false := by decide
  have known : hashAlgoXXHash64 = "xxhash64" := rfl
  simp only [parseSpec, RawMessage.decodeField, List.foldl_cons, List.foldl_nil, named, unnamed, algorithm, other,
    if_true, asInt_jsonNumber, JsonValue.asString, reduceCtorEq, if_false, Bool.false_eq_true, known, or_true]
  cases checkPositive buckets.toInt .bucketCountNotPositive (Spec.hash buckets.toInt) <;> rfl

theorem parseSpec_unit (unit : String) :
    parseSpec .time (.object [("unit", .string unit)]) = (parseTimeUnit unit).map .time := by
  have named : namesField "unit" "unit" = true := by decide
  simp only [parseSpec, RawMessage.decodeField, List.foldl_cons, List.foldl_nil, named, if_true,
    JsonValue.asString, reduceCtorEq, if_false]

theorem parseTimeUnit_text (unit : TimeUnit) : parseTimeUnit unit.text = .ok unit := by
  cases unit <;> decide

theorem text_injective {first second : TimeUnit} (same : first.text = second.text) : first = second := by
  have read := parseTimeUnit_text first
  rw [same, parseTimeUnit_text second] at read
  exact (Except.ok.inj read).symm

/-! ## From the request to the configuration -/

/-- The mode is always given, so the server fills in nothing. -/
theorem runBootstrap_defaulted (flags : BootstrapFlags) :
    (runBootstrap flags).defaultedMode = (runBootstrap flags).mode ∧
      (runBootstrap flags).defaultedAxis = Axis.ofText flags.axis := by
  have given : (runBootstrap flags).mode ≠ "" := by
    simp only [runBootstrap]
    split <;> decide
  have mode : (runBootstrap flags).defaultedMode = (runBootstrap flags).mode := if_neg given
  refine ⟨mode, if_neg ?_⟩
  -- An empty axis comes with the mode of ranges, so it is not taken for hash.
  rw [mode]
  rintro ⟨isHash, unnamed⟩
  change flags.axis = "" at unnamed
  simp only [runBootstrap, unnamed] at isHash
  exact absurd isHash (by decide)

/-- What the server checks of a request, in one place. -/
def Passes (request : BootstrapRequest) (spec : Spec) : Prop :=
  validateBootstrap request.defaultedMode request.defaultedAxis (request.retentionDepth.map Int32.toInt)
    (request.maxFutureBuckets.map Int32.toInt) = .ok () ∧
  parseSpec request.defaultedAxis request.bucketSpecJson = .ok spec ∧ 0 < request.shardMaxBytes.toInt

theorem acceptedConfig_passes {request : BootstrapRequest} {config : ClusterConfig}
    (accepted : acceptedConfig request = .ok config) :
    Passes request config.bucketSpec ∧
      (config.mode = request.defaultedMode ∧ config.bucketAxis = request.defaultedAxis) ∧
      (config.retentionDepth = request.retentionDepth.map Int32.toInt ∧
        config.maxFutureBuckets = request.maxFutureBuckets.map Int32.toInt) ∧
      config.bucketSpecRaw = request.bucketSpecJson ∧ config.shardMaxBytes = request.shardMaxBytes.toInt := by
  unfold acceptedConfig at accepted
  split at accepted
  · cases accepted
  · rename_i row taken
    split at accepted
    · cases accepted
    · rename_i spec parsed
      cases accepted
      simp only [acceptBootstrap] at taken
      split at taken
      · cases taken
      · rename_i validated
        split at taken
        · cases taken
        · split at taken
          · cases taken
          · rename_i above
            cases taken
            exact ⟨⟨validated, parsed, Int.not_le.mp above⟩, ⟨rfl, rfl⟩, ⟨rfl, rfl⟩, rfl, rfl⟩

theorem passes_acceptedConfig {request : BootstrapRequest} {spec : Spec} (passes : Passes request spec) :
    Exists fun config => acceptedConfig request = .ok config := by
  rcases passes with ⟨validated, parsed, positive⟩
  cases accepted : acceptedConfig request with
  | ok config => exact ⟨config, rfl⟩
  | error failure =>
      exfalso
      have above : ¬ request.shardMaxBytes.toInt <= 0 := Int.not_le.mpr positive
      simp only [acceptedConfig, acceptBootstrap, validated, parsed, if_neg above] at accepted
      split at accepted
      · rename_i impossible
        rw [parsed] at impossible
        cases impossible
      · cases accepted

/-- What the flags fill in, as far as the checks look at it. -/
structure Fills (flags : BootstrapFlags) (axis : Axis) (mode : String) (raw : RawMessage) (depth future : Option Int) :
    Prop where
  axis : Axis.ofText flags.axis = axis
  mode : (runBootstrap flags).mode = mode
  raw : jsonSpec flags = raw
  depth : (runBootstrap flags).retentionDepth.map Int32.toInt = depth
  future : (runBootstrap flags).maxFutureBuckets.map Int32.toInt = future

section Axes

variable {flags : BootstrapFlags}

theorem fills_numeric (chosen : flags.axis = "numeric") :
    Fills flags .numeric modeRange (.object [("width", jsonNumber flags.width)]) none none := by
  constructor <;> simp only [runBootstrap, jsonSpec, chosen] <;> rfl

theorem fills_hash (chosen : flags.axis = "hash") :
    Fills flags .hash modeHash
      (.object [("bucket_count", jsonNumber flags.buckets), ("hash_algo", .string "xxhash64")]) none none := by
  constructor <;> simp only [runBootstrap, jsonSpec, chosen] <;> rfl

theorem fills_time (chosen : flags.axis = "time") :
    Fills flags .time modeRange (.object [("unit", .string flags.unit)]) (some flags.retention.toInt32.toInt)
      (some flags.future.toInt32.toInt) := by
  constructor <;> simp only [runBootstrap, jsonSpec, chosen] <;> rfl

theorem Fills.passes_iff {axis : Axis} {mode : String} {raw : RawMessage} {depth future : Option Int} {spec : Spec}
    (fills : Fills flags axis mode raw depth future) : Passes (runBootstrap flags) spec ↔
      validateBootstrap mode axis depth future = .ok () ∧ parseSpec axis raw = .ok spec ∧
        0 < flags.maxBytes.toInt := by
  rcases runBootstrap_defaulted flags with ⟨givenMode, givenAxis⟩
  rw [Passes, givenMode, givenAxis, fills.axis, fills.mode, fills.depth, fills.future, ← fills.raw]
  rfl

/-- The server accepts what the flags ask for. -/
theorem asksFor_passes {mode : String} {axis : Axis} {spec : Spec} {depth future : Option Int}
    (asks : AsksFor flags mode axis spec depth future) (positive : 0 < flags.maxBytes.toInt) :
    Passes (runBootstrap flags) spec := by
  cases asks with
  | numeric chosen above fits =>
      refine (fills_numeric chosen).passes_iff.mpr ⟨?_, ?_, positive⟩
      · exact validateBootstrap_ok_iff.mpr (Or.inr (Or.inl ⟨Or.inl rfl, rfl⟩))
      · exact (parseSpec_width flags.width).trans (checkPositive_pos above fits)
  | hash chosen above fits =>
      refine (fills_hash chosen).passes_iff.mpr ⟨?_, ?_, positive⟩
      · exact validateBootstrap_ok_iff.mpr (Or.inl ⟨Or.inl rfl, rfl⟩)
      · exact (parseSpec_buckets flags.buckets).trans (checkPositive_pos above fits)
  | time chosen named deep ahead =>
      refine (fills_time chosen).passes_iff.mpr ⟨?_, ?_, positive⟩
      · exact validateBootstrap_ok_iff.mpr (Or.inr (Or.inr ⟨Or.inl rfl, rfl, ⟨_, rfl, deep⟩, _, rfl, ahead⟩))
      · rw [parseSpec_unit, named, parseTimeUnit_text]
        rfl

/-- The axes that the server knows. -/
theorem axis_known {mode : String} {depth future : Option Int}
    (validated : validateBootstrap mode (Axis.ofText flags.axis) depth future = .ok ()) :
    flags.axis = "numeric" ∨ flags.axis = "hash" ∨ flags.axis = "time" := by
  have supported : Axis.ofText flags.axis = .hash ∨ Axis.ofText flags.axis = .numeric ∨
      Axis.ofText flags.axis = .time := by
    rcases validateBootstrap_ok_iff.mp validated with ⟨_, axis⟩ | ⟨_, axis⟩ | ⟨_, axis, _⟩
    · exact Or.inl axis
    · exact Or.inr (Or.inl axis)
    · exact Or.inr (Or.inr axis)
  unfold Axis.ofText at supported
  split at supported
  · rename_i same
    exact Or.inr (Or.inr same)
  · split at supported
    · rename_i same
      exact Or.inl same
    · split at supported
      · rename_i same
        exact Or.inr (Or.inl same)
      · rcases supported with impossible | impossible | impossible <;> cases impossible

/-- What the server accepts is what the flags ask for. -/
theorem passes_asksFor {spec : Spec} (passes : Passes (runBootstrap flags) spec) :
    AsksFor flags (runBootstrap flags).mode (Axis.ofText flags.axis) spec
      ((runBootstrap flags).retentionDepth.map Int32.toInt)
      ((runBootstrap flags).maxFutureBuckets.map Int32.toInt) := by
  have validated := passes.1
  rw [(runBootstrap_defaulted flags).2] at validated
  rcases axis_known validated with chosen | chosen | chosen
  · have fills := fills_numeric chosen
    rw [fills.mode, fills.axis, fills.depth, fills.future]
    rcases fills.passes_iff.mp passes with ⟨_, parsed, _⟩
    rcases checkPositive_ok ((parseSpec_width flags.width).symm.trans parsed) with ⟨positive, fits, rfl⟩
    exact .numeric chosen positive fits
  · have fills := fills_hash chosen
    rw [fills.mode, fills.axis, fills.depth, fills.future]
    rcases fills.passes_iff.mp passes with ⟨_, parsed, _⟩
    rcases checkPositive_ok ((parseSpec_buckets flags.buckets).symm.trans parsed) with ⟨positive, fits, rfl⟩
    exact .hash chosen positive fits
  · have fills := fills_time chosen
    rw [fills.mode, fills.axis, fills.depth, fills.future]
    rcases fills.passes_iff.mp passes with ⟨window, parsed, _⟩
    rw [parseSpec_unit] at parsed
    cases read : parseTimeUnit flags.unit with
    | error failure =>
        rw [read] at parsed
        cases parsed
    | ok unit =>
        rw [read] at parsed
        cases parsed
        rcases validateBootstrap_ok_iff.mp window with ⟨_, axis⟩ | ⟨_, axis⟩ |
          ⟨_, _, ⟨depth, sameDepth, deep⟩, future, sameFuture, ahead⟩
        · cases axis
        · cases axis
        · cases sameDepth
          cases sameFuture
          exact .time chosen (parseTimeUnit_ok read) deep ahead

theorem asksFor_time {mode : String} {axis : Axis} {spec : Spec} {depth future : Option Int}
    (asks : AsksFor flags mode axis spec depth future) (onTime : flags.axis = "time") :
    (Exists fun unit => spec = .time unit ∧ flags.unit = unit.text) ∧
      (depth = some flags.retention.toInt32.toInt ∧ 1 <= flags.retention.toInt32.toInt) ∧
      future = some flags.future.toInt32.toInt ∧ 0 <= flags.future.toInt32.toInt := by
  cases asks with
  | numeric chosen => exact absurd (chosen.symm.trans onTime) (by decide)
  | hash chosen => exact absurd (chosen.symm.trans onTime) (by decide)
  | time _ named deep ahead => exact ⟨⟨_, rfl, named⟩, ⟨rfl, deep⟩, rfl, ahead⟩

/-- The configuration of an accepted command is the one that was asked for. -/
theorem accepted_asked {config : ClusterConfig} (accepted : acceptedConfig (runBootstrap flags) = .ok config) :
    Asked flags config := by
  rcases acceptedConfig_passes accepted with ⟨passes, ⟨mode, axis⟩, ⟨depth, future⟩, document, limit⟩
  rcases runBootstrap_defaulted flags with ⟨givenMode, givenAxis⟩
  refine ⟨?_, document, limit, passes.2.2⟩
  rw [mode, axis, depth, future, givenMode, givenAxis]
  exact passes_asksFor passes

/-- A command that asks for a configuration is accepted. -/
theorem asked_accepted {wanted : ClusterConfig} (asked : Asked flags wanted) :
    Exists fun config => acceptedConfig (runBootstrap flags) = .ok config :=
  passes_acceptedConfig (asksFor_passes asked.buckets asked.positive)

end Axes

/-! ## Storing the configuration -/

section Storing

variable {env : Env} {config : ClusterConfig} {program : Routine Outcome}

/-- How far a call that bootstraps has come. -/
inductive Bootstraps (env : Env) (config : ClusterConfig) : Routine Outcome -> Moment -> Prop
  | asks {moment : Moment} : Bootstraps env config (body env (.bootstrap config)) moment
  | stored {moment : Moment} (loaded : getConfig moment.db = .ok config) :
      Bootstraps env config (.finish (.acknowledged (.ok ()))) moment
  | refused {moment : Moment} {other : ClusterConfig} (loaded : getConfig moment.db = .ok other) :
      Bootstraps env config (.finish (.acknowledged (.error .alreadyBootstrapped))) moment

theorem Bootstraps.later {earlier later : Moment} (bootstraps : Bootstraps env config program earlier)
    (continues : Continues earlier later) : Bootstraps env config program later := by
  cases bootstraps with
  | asks => exact .asks
  | stored loaded => exact .stored (continues.config _ loaded)
  | refused loaded => exact .refused (continues.config _ loaded)

theorem bootstraps_performed (moment : Moment) :
    Bootstraps env config (.finish (.acknowledged (perform env (.bootstrap config) moment).1))
      (perform env (.bootstrap config) moment).2 := by
  cases row : moment.db.cluster with
  | none =>
      simp only [perform, commit, Store.bootstrap, row]
      exact .stored rfl
  | some present =>
      simp only [perform, commit, Store.bootstrap, row]
      refine .refused (?_ : getConfig moment.db = .ok present.config)
      rw [getConfig, row]

theorem bootstraps_resumed {op : Op} {next : Reply op -> Routine Outcome} {moment : Moment}
    (bootstraps : Bootstraps env config (.request op next) moment) :
    Bootstraps env config (next (perform env op moment).1) (perform env op moment).2 := by
  generalize shape : Program.request op next = program at bootstraps
  cases bootstraps with
  | asks =>
      cases shape
      exact bootstraps_performed moment
  | stored loaded => cases shape
  | refused loaded => cases shape

/-- Every call that bootstraps is as far as that. -/
def AllBootstrap (env : Env) (system : System) : Prop :=
  forall process, process ∈ system.processes -> forall config, process.entry = .bootstrap config ->
    Bootstraps env config process.program system.store

theorem step_allBootstrap {system after : System} {action : Act} (held : AllBootstrap env system)
    (taken : (machine env).step system action = some after) : AllBootstrap env after := by
  refine processes_preserved (fun process moment => forall config, process.entry = Call.bootstrap config ->
    Bootstraps env config process.program moment) ?_ ?_ ?_ held taken
  · rintro call config rfl
    exact .asks
  · intro process _ bootstraps config entry
    exact (bootstraps config entry).later (step_continues taken)
  · intro call op next _ bootstraps config entry
    exact bootstraps_resumed (bootstraps config entry)

theorem run_allBootstrap {db : Db} {now : Time} {past : Trace} {system : System}
    (run : Runs env db now past system) : AllBootstrap env system :=
  Run.invariant (AllBootstrap env) (fun _ _ => True) (fun _ absent => absurd absent List.not_mem_nil)
    (fun _ _ _ held _ taken => step_allBootstrap held taken) run fun _ _ => trivial

end Storing

/-! ## The command against a server -/

section Command

variable {env : Env} {settings : Settings} {start : Moment} {past : ServerPast} {pool : ServerPool} {index : Nat}
variable {metadata : Metadata} {flags : BootstrapFlags} {answer : Answer}

/-- A request that is not accepted is refused for its arguments. -/
theorem unaccepted_refused (run : ServerRuns env settings start past pool) {request : BootstrapRequest}
    {failure : BootstrapError} (known : hasKey settings metadata = true)
    (unaccepted : acceptedConfig request = .error failure)
    (answered : pool.processes[index]? = some ⟨.keyed metadata (.bootstrap request), .finish answer⟩) :
    answer = refuse .invalidArgument (.bootstrap failure) := by
  have follows : (taskBody env settings (.keyed metadata (.bootstrap request))).Follows (fun _ _ => True)
      (fun _ answer => answer = refuse .invalidArgument (.bootstrap failure)) [] := by
    simp only [taskBody, handleKeyed, Api.bootstrap, withKey_ok known, unaccepted]
    exact .finish rfl
  exact run_follows rfl follows run.unguarded answered

/-- A request that is accepted has been stored, or there was a configuration. -/
theorem accepted_stored (run : ServerRuns env settings start past pool) {request : BootstrapRequest}
    {config : ClusterConfig} (known : hasKey settings metadata = true) (accepted : acceptedConfig request = .ok config)
    (answered : pool.processes[index]? = some ⟨.keyed metadata (.bootstrap request), .finish answer⟩) :
    (answer = .response (.bootstrap "bootstrapped" (reportedMinShards config)) ∧
      getConfig pool.store.moment.db = .ok config) ∨
    (answer = refuse .alreadyExists (.store .alreadyBootstrapped) ∧
      Exists fun other => getConfig pool.store.moment.db = .ok other) := by
  have called : calledBy env.platform settings (.keyed metadata (.bootstrap request)) = some (.bootstrap config) := by
    simp only [calledBy, known, if_true, keyedCall, accepted, Except.toOption, Option.map_some]
  rcases (controlLayer env settings).run_carried run.unguarded with ⟨calls, system, carried⟩
  rcases carried.links with ⟨place, links⟩
  have same : system.store = pool.store.moment := links.store
  rcases links.returned answered called with ⟨position, outcome, _, finished, answers⟩
  -- The call has finished, so it is past asking and the two ends are left.
  have bootstraps := run_allBootstrap carried.run _ (List.mem_of_getElem? finished) config rfl
  rw [same] at bootstraps
  cases answers with
  | @bootstrap _ _ again result acceptedAgain =>
      cases accepted.symm.trans acceptedAgain
      cases bootstraps with
      | stored loaded => exact Or.inl ⟨rfl, loaded⟩
      | refused loaded => exact Or.inr ⟨rfl, _, loaded⟩

/-- The number of shards for a window that lies in the years 0..9999. -/
theorem reportedMinShards_time {config : ClusterConfig} {unit : TimeUnit} {current depth future : Int}
    (timed : config.bucketAxis = .time) (knownDepth : config.retentionDepth = some depth)
    (knownFuture : config.maxFutureBuckets = some future) (deep : 1 <= depth) (ahead : 0 <= future)
    (window : WindowInYears unit current depth future) : reportedMinShards config = depth + future + 2 := by
  -- No year up to 9999 is far enough for the sum to leave the 32 bits.
  have short := window.short deep ahead
  simp only [reportedMinShards, timed, knownDepth, knownFuture, minShards]
  rw [wrap32_eq (by omega)]
  omega

/-- In every run of a server: the number of shards that a bootstrap command on the
time axis is answered with exceeds by two the number of buckets that are routed to
at an instant, whichever instant that is, as long as the window around it lies in
the years 0..9999. -/
theorem reported_shards_exceed_routed_buckets (run : ServerRuns env settings start past pool)
    (known : hasKey settings metadata = true) (onTime : flags.axis = "time") {status : String} {count : Int}
    (answered : pool.processes[index]? = some ⟨.keyed metadata (.bootstrap (runBootstrap flags)),
      .finish (.response (.bootstrap status count))⟩) :
    Exists fun config => Exists fun unit => getConfig pool.store.moment.db = .ok config ∧
      config.bucketSpec = .time unit ∧ flags.unit = unit.text ∧
      forall platform now current, currentIndex unit now = some current ->
        WindowInYears unit current flags.retention.toInt32.toInt flags.future.toInt32.toInt ->
        ((routedNames platform unit now flags.retention.toInt32.toInt flags.future.toInt32.toInt).ncard : Int) + 2 =
          count := by
  cases accepted : acceptedConfig (runBootstrap flags) with
  | error failure => cases unaccepted_refused run known accepted answered
  | ok config =>
      rcases acceptedConfig_passes accepted with ⟨_, ⟨_, axis⟩, _⟩
      rw [(runBootstrap_defaulted flags).2, (fills_time onTime).axis] at axis
      rcases accepted_stored run known accepted answered with ⟨response, loaded⟩ | ⟨refused, _⟩
      · injection response with same
        injection same with _ reported
        rcases asksFor_time (accepted_asked accepted).buckets onTime with
          ⟨⟨unit, spec, named⟩, ⟨depth, deep⟩, future, ahead⟩
        refine ⟨config, unit, loaded, spec, named, ?_⟩
        intro platform now current found window
        rw [routedNames_eq found deep ahead window, ncard_window window, reported,
          reportedMinShards_time axis depth future deep ahead window]
        omega
      · cases refused

end Command

/-! ## A cluster that is configured -/

deriving instance DecidableEq for BootstrapRequest

/-- The command with the given flags has been answered with a number of shards. -/
def configuredBy (flags : BootstrapFlags) (count : Int) (answered : Task × Answer) : Bool :=
  match answered with
  | (.keyed (some ["secret"]) (.bootstrap request), .response (.bootstrap "bootstrapped" reported)) =>
      decide (request = runBootstrap flags) && decide (reported = count)
  | _ => false

theorem configuredBy_eq {flags : BootstrapFlags} {count : Int} {task : Task} {answer : Answer}
    (configured : configuredBy flags count (task, answer) = true) :
    task = .keyed (some ["secret"]) (.bootstrap (runBootstrap flags)) ∧
      answer = .response (.bootstrap "bootstrapped" count) := by
  simp only [configuredBy] at configured
  split at configured
  · rename_i same
    cases same
    rcases Bool.and_eq_true_iff.mp configured with ⟨request, reported⟩
    rw [of_decide_eq_true request, of_decide_eq_true reported]
    exact ⟨rfl, rfl⟩
  · cases configured

/-- Three months are kept, so the command is answered with five shards. -/
theorem configured_run : Exists fun past => Exists fun pool : ServerPool =>
    ServerRuns sampleEnv sampleSettings ⟨Db.fresh, 0⟩ past pool ∧
      pool.processes[0]? = some ⟨.keyed (some ["secret"]) (.bootstrap (runBootstrap {})),
        .finish (.response (.bootstrap "bootstrapped" 5))⟩ := by
  have passed : replayCheck (serverStep sampleEnv sampleSettings)
      (serveTask 0 (.keyed (some ["secret"]) (.bootstrap (runBootstrap {}))) 4)
      ⟨Watch.newServer ⟨Db.fresh, 0⟩, []⟩ (fun _ pool => (answerOf pool 0).any (configuredBy {} 5)) = true := by
    decide +kernel
  rcases replayCheck_run passed with ⟨past, pool, run, checked⟩
  rcases (Option.any_eq_true _ _).mp checked with ⟨⟨task, answer⟩, answered, configured⟩
  rcases configuredBy_eq configured with ⟨rfl, rfl⟩
  exact ⟨past, pool, run, answerOf_some answered⟩

theorem reported_shards_exceed_routed_buckets_month : Exists fun past => Exists fun pool : ServerPool =>
    ServerRuns sampleEnv sampleSettings ⟨Db.fresh, 0⟩ past pool ∧
      pool.processes[0]? = some ⟨.keyed (some ["secret"]) (.bootstrap (runBootstrap {})),
        .finish (.response (.bootstrap "bootstrapped" 5))⟩ ∧
      ((routedNames samplePlatform .month (unixTime 1717200000) 3 0).ncard : Int) + 2 = 5 := by
  rcases configured_run with ⟨past, pool, run, present⟩
  rcases reported_shards_exceed_routed_buckets run rfl rfl present with ⟨config, unit, _, _, named, counts⟩
  have month : TimeUnit.month = unit := text_injective named
  subst month
  have found : currentIndex .month (unixTime 1717200000) = some 24293 := by decide
  have window : WindowInYears .month 24293 3 0 := by
    intro index lower upper
    rcases (show index = 24291 ∨ index = 24292 ∨ index = 24293 by omega) with rfl | rfl | rfl
    · exact ⟨unixTime 1711929600, by decide, by decide⟩
    · exact ⟨unixTime 1714521600, by decide, by decide⟩
    · exact ⟨unixTime 1717200000, by decide, by decide⟩
  exact ⟨past, pool, run, present, counts samplePlatform _ _ found window⟩

end Cli
end Shardman
