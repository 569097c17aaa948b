import Shardman.Bucket.Jsonb
import Shardman.Foundation.Runs
import Shardman.Store.Schema

namespace Shardman
namespace Store

open Bucket
open Foundation

/-!
# The configuration that servers hold

Every server process keeps the configuration in memory.  The process that has
bootstrapped the cluster keeps what it has parsed from the request; any other
process, and the same one after a restart, parses the column.  This module
follows several processes on one database, with the calls that are under way in
each, and the configurations that their `GetConfig` calls return.

The rest of the development keeps one configuration in the database and lets
every call read it.  That is what all processes see where the spelling of the
specification is stable.
-/

/-! ## Requests and rows -/

/-- A configuration before its specification is parsed: the body of a bootstrap
request, or the row of `cluster_config`. -/
structure ConfigRow where
  mode : String
  bucketAxis : Axis
  bucketSpec : RawMessage
  shardMaxBytes : Int
  retentionDepth : Option Int
  maxFutureBuckets : Option Int
  depthFits : forall depth, retentionDepth = some depth -> -2 ^ 31 <= depth ∧ depth < 2 ^ 31
  futureFits : forall future, maxFutureBuckets = some future -> -2 ^ 31 <= future ∧ future < 2 ^ 31

inductive ConfigError
  | alreadyBootstrapped
  | notBootstrapped
  | spec (failure : SpecError)
  | refused
deriving DecidableEq, Repr

namespace ConfigRow

/-- The configuration with a specification that its raw form parses to. -/
def withSpec (row : ConfigRow) (spec : Spec) (parsed : parseSpec row.bucketAxis row.bucketSpec = .ok spec) :
    ClusterConfig where
  mode := row.mode
  bucketAxis := row.bucketAxis
  bucketSpec := spec
  bucketSpecRaw := row.bucketSpec
  shardMaxBytes := row.shardMaxBytes
  retentionDepth := row.retentionDepth
  maxFutureBuckets := row.maxFutureBuckets
  parsed := parsed
  depthFits := row.depthFits
  futureFits := row.futureFits

def config (row : ConfigRow) : Except ConfigError ClusterConfig :=
  match parsed : parseSpec row.bucketAxis row.bucketSpec with
  | .ok spec => .ok (row.withSpec spec parsed)
  | .error failure => .error (.spec failure)

theorem config_eq {row : ConfigRow} {spec : Spec} (parsed : parseSpec row.bucketAxis row.bucketSpec = .ok spec) :
    row.config = .ok (row.withSpec spec parsed) := by
  unfold config
  split
  · rename_i found again
    cases again.symm.trans parsed
    rfl
  · rename_i failure again
    cases again.symm.trans parsed

theorem config_ok {row : ConfigRow} {found : ClusterConfig} (loaded : row.config = .ok found) :
    Exists fun spec => Exists fun parsed => found = row.withSpec spec parsed := by
  unfold config at loaded
  split at loaded
  · rename_i spec parsed
    cases loaded
    exact ⟨spec, parsed, rfl⟩
  · cases loaded

end ConfigRow

section Database

variable (postgres : Postgres)

/-- The row that a request becomes. -/
def storedRow (request : ConfigRow) : ConfigRow :=
  { request with bucketSpec := postgres.jsonb request.bucketSpec }

/-- Whether the columns take the values of a request. -/
def insertable (request : ConfigRow) : Bool :=
  decide (request.mode.length <= 32) && postgres.storable request.bucketSpec

/-- The transaction of `Bootstrap`.  One that has looked before another one
commits fails when it inserts. -/
def bootstrapTx (row : Option ConfigRow) (request : ConfigRow) : Except ConfigError (ConfigRow × ClusterConfig) :=
  match row with
  | some _ => .error .alreadyBootstrapped
  | none =>
      match request.config with
      | .error failure => .error failure
      | .ok config => if insertable postgres request then .ok (storedRow postgres request, config) else .error .refused

def loadConfigFromDB (row : Option ConfigRow) : Except ConfigError ClusterConfig :=
  match row with
  | none => .error .notBootstrapped
  | some row => row.config

end Database

/-! ## Processes -/

/-- A call that is under way: `GetConfig` after it has found no configuration in
memory, and again when it has loaded one, or `Bootstrap` after its commit. -/
inductive ConfigCall
  | missed
  | loaded (config : ClusterConfig)
  | committed (config : ClusterConfig)

def ConfigCall.config : ConfigCall -> Option ClusterConfig
  | .missed => none
  | .loaded config => some config
  | .committed config => some config

structure ServerProcess where
  configCache : Option ClusterConfig
  calls : List ConfigCall

def newProcess : ServerProcess := ⟨none, []⟩

/-- The database, the server processes on it, and what their successful
`GetConfig` calls have returned, in the order of the answers. -/
structure Cluster where
  row : Option ConfigRow
  processes : List ServerProcess
  results : List ClusterConfig

def newCluster : Cluster := ⟨none, [], []⟩

namespace Cluster

def update (cluster : Cluster) (index : Nat) (process : ServerProcess) : Cluster :=
  { cluster with processes := cluster.processes.set index process }

def answer (cluster : Cluster) (config : ClusterConfig) : Cluster :=
  { cluster with results := cluster.results ++ [config] }

end Cluster

inductive ConfigAct
  | start
  | restart (process : Nat)
  | bootstrap (process : Nat) (request : ConfigRow)
  | getConfig (process : Nat)
  | load (process call : Nat)
  | storeConfigCache (process call : Nat)

/-- One step.  A failed call leaves nothing behind. -/
def configStep (postgres : Postgres) (cluster : Cluster) : ConfigAct -> Option Cluster
  | .start => some { cluster with processes := cluster.processes ++ [newProcess] }
  | .restart index => cluster.processes[index]?.map fun _ => cluster.update index newProcess
  | .bootstrap index request =>
      cluster.processes[index]?.map fun process =>
        match bootstrapTx postgres cluster.row request with
        | .error _ => cluster
        | .ok (row, config) =>
            { cluster.update index { process with calls := process.calls ++ [.committed config] } with row := some row }
  | .getConfig index =>
      cluster.processes[index]?.map fun process =>
        match process.configCache with
        | some config => cluster.answer config
        | none => cluster.update index { process with calls := process.calls ++ [.missed] }
  | .load index call =>
      match cluster.processes[index]? with
      | none => none
      | some process =>
          match process.calls[call]? with
          | some .missed =>
              match loadConfigFromDB cluster.row with
              | .error _ => some (cluster.update index { process with calls := process.calls.eraseIdx call })
              | .ok config =>
                  some (cluster.update index { process with calls := process.calls.set call (.loaded config) })
          | _ => none
  | .storeConfigCache index call =>
      match cluster.processes[index]? with
      | none => none
      | some process =>
          match process.calls[call]? with
          | some (.loaded config) =>
              some ((cluster.update index ⟨some config, process.calls.eraseIdx call⟩).answer config)
          | some (.committed config) => some (cluster.update index ⟨some config, process.calls.eraseIdx call⟩)
          | _ => none

/-! ## Where a configuration may be -/

def ServerProcess.Knows (process : ServerProcess) (config : ClusterConfig) : Prop :=
  process.configCache = some config ∨ Exists fun call => call ∈ process.calls ∧ call.config = some config

/-- A configuration is in the memory of a process, or it has been returned. -/
def Cluster.Knows (cluster : Cluster) (config : ClusterConfig) : Prop :=
  config ∈ cluster.results ∨ Exists fun process => process ∈ cluster.processes ∧ process.Knows config

/-- The bootstrap that succeeds. -/
def Boots (postgres : Postgres) (event : Event Cluster ConfigAct) (request : ConfigRow) : Prop :=
  event.state.row = none ∧ insertable postgres request = true ∧ (Exists fun config => request.config = .ok config) ∧
    Exists fun process => event.action = .bootstrap process request

/-- What a step does to the row and to the configurations. -/
inductive ConfigStep (postgres : Postgres) (cluster : Cluster) (act : ConfigAct) (after : Cluster) : Prop
  | boot (request : ConfigRow) (config : ClusterConfig) (empty : cluster.row = none)
      (parsed : request.config = .ok config) (row : after.row = some (storedRow postgres request))
      (only : forall other, Boots postgres ⟨cluster, act⟩ other -> other = request)
      (known : forall other, after.Knows other -> other = config ∨ cluster.Knows other)
  | load (row : ConfigRow) (config : ClusterConfig) (present : cluster.row = some row)
      (parsed : row.config = .ok config) (kept : after.row = cluster.row)
      (known : forall other, after.Knows other -> other = config ∨ cluster.Knows other)
  | other (kept : after.row = cluster.row) (noBoot : forall request, ¬ Boots postgres ⟨cluster, act⟩ request)
      (known : forall other, after.Knows other -> cluster.Knows other)

section Knowing

variable {cluster : Cluster} {index : Nat} {process changed : ServerProcess} {config : ClusterConfig}

theorem knows_process (found : cluster.processes[index]? = some process) (holds : process.Knows config) :
    cluster.Knows config :=
  Or.inr ⟨process, List.mem_of_getElem? found, holds⟩

/-- After one process has changed.  What it may know beyond what it knew is
left open. -/
theorem knows_update {new : Prop} (found : cluster.processes[index]? = some process)
    (kept : changed.Knows config -> new ∨ process.Knows config)
    (known : (cluster.update index changed).Knows config) : new ∨ cluster.Knows config := by
  rcases known with returned | ⟨other, member, holds⟩
  · exact Or.inr (Or.inl returned)
  · rcases List.mem_or_eq_of_mem_set member with old | rfl
    · exact Or.inr (Or.inr ⟨other, old, holds⟩)
    · exact (kept holds).imp_right (knows_process found)

theorem knows_answer {returned : ClusterConfig} (known : (cluster.answer returned).Knows config) :
    config = returned ∨ cluster.Knows config := by
  rcases known with result | holds
  · rcases List.mem_append.mp result with old | new
    · exact Or.inr (Or.inl old)
    · exact Or.inl (List.mem_singleton.mp new)
  · exact Or.inr (Or.inr holds)

theorem not_knows_newProcess : ¬ newProcess.Knows config := by
  rintro (cached | ⟨call, member, _⟩)
  · cases cached
  · cases member

/-- A call that begins. -/
theorem knows_append {cache : Option ClusterConfig} {calls : List ConfigCall} {call : ConfigCall}
    (known : ServerProcess.Knows ⟨cache, calls ++ [call]⟩ config) :
    call.config = some config ∨ ServerProcess.Knows ⟨cache, calls⟩ config := by
  rcases known with cached | ⟨other, member, holds⟩
  · exact Or.inr (Or.inl cached)
  · rcases List.mem_append.mp member with old | new
    · exact Or.inr (Or.inr ⟨other, old, holds⟩)
    · rw [List.mem_singleton.mp new] at holds
      exact Or.inl holds

/-- A call that ends and leaves its configuration in memory. -/
theorem knows_stored {stored : ClusterConfig} {call : Nat}
    (known : ServerProcess.Knows ⟨some stored, process.calls.eraseIdx call⟩ config) :
    config = stored ∨ process.Knows config := by
  rcases known with cached | ⟨other, member, holds⟩
  · exact Or.inl (Option.some_inj.mp cached).symm
  · exact Or.inr (Or.inr ⟨other, List.mem_of_mem_eraseIdx member, holds⟩)

theorem knows_erased {call : Nat}
    (known : ServerProcess.Knows { process with calls := process.calls.eraseIdx call } config) :
    process.Knows config := by
  rcases known with cached | ⟨other, member, holds⟩
  · exact Or.inl cached
  · exact Or.inr ⟨other, List.mem_of_mem_eraseIdx member, holds⟩

theorem knows_loaded {call : Nat} {loaded : ClusterConfig}
    (known : ServerProcess.Knows { process with calls := process.calls.set call (.loaded loaded) } config) :
    config = loaded ∨ process.Knows config := by
  rcases known with cached | ⟨other, member, holds⟩
  · exact Or.inr (Or.inl cached)
  · rcases List.mem_or_eq_of_mem_set member with old | rfl
    · exact Or.inr (Or.inr ⟨other, old, holds⟩)
    · exact Or.inl (Option.some_inj.mp holds).symm

end Knowing

theorem bootstrapTx_ok {postgres : Postgres} {row : Option ConfigRow} {request inserted : ConfigRow}
    {config : ClusterConfig} :
    bootstrapTx postgres row request = .ok (inserted, config) ↔
      row = none ∧ request.config = .ok config ∧ insertable postgres request = true ∧
        inserted = storedRow postgres request := by
  cases row with
  | some present => simp only [bootstrapTx, reduceCtorEq, false_and]
  | none =>
      cases parsed : request.config with
      | error failure => simp only [bootstrapTx, parsed, reduceCtorEq, false_and, and_false]
      | ok found =>
          simp only [bootstrapTx, parsed, true_and, Except.ok.injEq]
          by_cases fits : insertable postgres request = true
          · rw [if_pos fits, Except.ok.injEq, Prod.mk.injEq]
            constructor
            · rintro ⟨rfl, rfl⟩
              exact ⟨rfl, fits, rfl⟩
            · rintro ⟨rfl, _, rfl⟩
              exact ⟨rfl, rfl⟩
          · rw [if_neg fits]
            simp only [reduceCtorEq, fits, false_and, and_false]

/-- Steps of other kinds bootstrap nothing. -/
theorem not_boots {postgres : Postgres} {cluster : Cluster} {act : ConfigAct}
    (kind : forall process request, act ≠ .bootstrap process request) (request : ConfigRow) :
    ¬ Boots postgres ⟨cluster, act⟩ request := by
  rintro ⟨_, _, _, process, same⟩
  exact kind process request same

section Steps

variable {postgres : Postgres} {cluster after : Cluster} {index call : Nat}

theorem configStep_start (taken : configStep postgres cluster .start = some after) :
    ConfigStep postgres cluster .start after := by
  cases taken
  refine .other rfl (not_boots (by simp)) ?_
  rintro config (returned | ⟨process, member, holds⟩)
  · exact Or.inl returned
  · rcases List.mem_append.mp member with old | new
    · exact Or.inr ⟨process, old, holds⟩
    · rw [List.mem_singleton.mp new] at holds
      exact absurd holds not_knows_newProcess

theorem configStep_restart (taken : configStep postgres cluster (.restart index) = some after) :
    ConfigStep postgres cluster (.restart index) after := by
  rcases Option.map_eq_some_iff.mp taken with ⟨process, found, rfl⟩
  refine .other rfl (not_boots (by simp)) ?_
  intro config known
  exact (knows_update found (fun holds => absurd holds not_knows_newProcess) known).resolve_left not_false

theorem configStep_bootstrap {request : ConfigRow}
    (taken : configStep postgres cluster (.bootstrap index request) = some after) :
    ConfigStep postgres cluster (.bootstrap index request) after := by
  rcases Option.map_eq_some_iff.mp taken with ⟨process, found, rfl⟩
  cases done : bootstrapTx postgres cluster.row request with
  | error failure =>
      refine .other rfl ?_ (fun _ known => known)
      rintro other ⟨empty, fits, ⟨config, parsed⟩, _, same⟩
      cases same
      rw [bootstrapTx_ok.mpr ⟨empty, parsed, fits, rfl⟩] at done
      cases done
  | ok pair =>
      rcases bootstrapTx_ok.mp done with ⟨empty, parsed, _, row⟩
      refine .boot request pair.2 empty parsed (congrArg some row) ?_ ?_
      · rintro other ⟨_, _, _, _, same⟩
        cases same
        rfl
      · intro other known
        -- Knowing does not look at the row.
        have known : (cluster.update index ⟨process.configCache, process.calls ++ [.committed pair.2]⟩).Knows other :=
          known
        exact (knows_update found knows_append known).imp_left fun new => (Option.some_inj.mp new).symm

theorem configStep_getConfig (taken : configStep postgres cluster (.getConfig index) = some after) :
    ConfigStep postgres cluster (.getConfig index) after := by
  rcases Option.map_eq_some_iff.mp taken with ⟨⟨cache, calls⟩, found, rfl⟩
  cases cache with
  | some config =>
      refine .other rfl (not_boots (by simp)) ?_
      intro other known
      rcases knows_answer known with rfl | old
      · exact knows_process found (Or.inl rfl)
      · exact old
  | none =>
      refine .other rfl (not_boots (by simp)) ?_
      intro other known
      rcases knows_update found knows_append known with new | old
      · cases new
      · exact old

theorem configStep_load (taken : configStep postgres cluster (.load index call) = some after) :
    ConfigStep postgres cluster (.load index call) after := by
  simp only [configStep] at taken
  split at taken
  · cases taken
  · rename_i process found
    split at taken
    · split at taken
      · cases taken
        refine .other rfl (not_boots (by simp)) ?_
        intro other known
        exact (knows_update found (fun holds => Or.inr (knows_erased holds)) known).resolve_left not_false
      · rename_i config loaded
        cases taken
        cases present : cluster.row with
        | none =>
            rw [present] at loaded
            cases loaded
        | some row =>
            rw [present] at loaded
            exact .load row config present loaded rfl fun other known => knows_update found knows_loaded known
    · cases taken

/-- A configuration that is stored is the one of the call. -/
theorem knows_storeConfigCache {process : ServerProcess} {under : ConfigCall} {config other : ClusterConfig}
    (found : cluster.processes[index]? = some process) (here : process.calls[call]? = some under)
    (holds : under.config = some config)
    (known : (cluster.update index ⟨some config, process.calls.eraseIdx call⟩).Knows other) : cluster.Knows other := by
  rcases knows_update found knows_stored known with rfl | old
  · exact knows_process found (Or.inr ⟨under, List.mem_of_getElem? here, holds⟩)
  · exact old

theorem configStep_storeConfigCache
    (taken : configStep postgres cluster (.storeConfigCache index call) = some after) :
    ConfigStep postgres cluster (.storeConfigCache index call) after := by
  simp only [configStep] at taken
  split at taken
  · cases taken
  · rename_i process found
    split at taken
    · rename_i config here
      cases taken
      refine .other rfl (not_boots (by simp)) ?_
      intro other returned
      rcases knows_answer returned with rfl | old
      · exact knows_process found (Or.inr ⟨_, List.mem_of_getElem? here, rfl⟩)
      · exact knows_storeConfigCache found here rfl old
    · rename_i config here
      cases taken
      exact .other rfl (not_boots (by simp)) fun other => knows_storeConfigCache found here rfl
    · cases taken

theorem configStep_spec {act : ConfigAct} (taken : configStep postgres cluster act = some after) :
    ConfigStep postgres cluster act after := by
  cases act with
  | start => exact configStep_start taken
  | restart index => exact configStep_restart taken
  | bootstrap index request => exact configStep_bootstrap taken
  | getConfig index => exact configStep_getConfig taken
  | load index call => exact configStep_load taken
  | storeConfigCache index call => exact configStep_storeConfigCache taken

end Steps

/-! ## After the first bootstrap -/

def BootedBy (postgres : Postgres) (past : List (Event Cluster ConfigAct)) (request : ConfigRow) : Prop :=
  Exists fun event => event ∈ past ∧ Boots postgres event request

/-- The row is the one of a request, and every configuration is parsed from the
request or from the row. -/
def Stands (postgres : Postgres) (request : ConfigRow) (cluster : Cluster) : Prop :=
  cluster.row = some (storedRow postgres request) ∧
    forall config, cluster.Knows config ->
      request.config = .ok config ∨ (storedRow postgres request).config = .ok config

section Booted

variable {postgres : Postgres} {request : ConfigRow} {cluster after : Cluster} {act : ConfigAct}

theorem stands_step (stands : Stands postgres request cluster) (stepped : ConfigStep postgres cluster act after) :
    Stands postgres request after := by
  cases stepped with
  | boot _ _ empty =>
      rw [stands.1] at empty
      cases empty
  | load row config present parsed kept known =>
      cases stands.1.symm.trans present
      refine ⟨kept.trans stands.1, ?_⟩
      intro other holds
      rcases known other holds with rfl | old
      · exact Or.inr parsed
      · exact stands.2 other old
  | other kept _ known => exact ⟨kept.trans stands.1, fun other holds => stands.2 other (known other holds)⟩

theorem blank_step (blank : cluster.row = none -> forall config, ¬ cluster.Knows config)
    (stepped : ConfigStep postgres cluster act after) (empty : after.row = none) (config : ClusterConfig) :
    ¬ after.Knows config := by
  cases stepped with
  | boot _ _ _ _ row =>
      rw [row] at empty
      cases empty
  | load row _ present _ kept =>
      rw [kept, present] at empty
      cases empty
  | other kept _ known =>
      intro holds
      exact blank (kept.symm.trans empty) config (known config holds)

/-- The step that bootstraps. -/
theorem boots_stands (blank : cluster.row = none -> forall config, ¬ cluster.Knows config)
    (stepped : ConfigStep postgres cluster act after) (boots : Boots postgres ⟨cluster, act⟩ request) :
    Stands postgres request after := by
  cases stepped with
  | boot requested config empty parsed row only known =>
      cases only request boots
      refine ⟨row, ?_⟩
      intro other holds
      rcases known other holds with rfl | old
      · exact Or.inl parsed
      · exact absurd old (blank empty other)
  | load row _ present =>
      have empty : cluster.row = none := boots.1
      rw [present] at empty
      cases empty
  | other _ noBoot => exact absurd boots (noBoot request)

/-- From the first bootstrap on, whatever the processes do, they know only what
is parsed from its request and from its row. -/
theorem bootedBy_stands {past : List (Event Cluster ConfigAct)}
    (run : Run (configStep postgres) newCluster past cluster) (booted : BootedBy postgres past request) :
    Stands postgres request cluster := by
  have held : (forall request, BootedBy postgres past request -> Stands postgres request cluster) ∧
      (cluster.row = none -> forall config, ¬ cluster.Knows config) := by
    refine Run.history
      (fun past cluster => (forall request, BootedBy postgres past request -> Stands postgres request cluster) ∧
        (cluster.row = none -> forall config, ¬ cluster.Knows config))
      (fun _ _ => True) ⟨?_, ?_⟩ ?_ run fun _ _ => trivial
    · rintro request ⟨event, absent, _⟩
      cases absent
    · rintro _ config (returned | ⟨process, member, _⟩)
      · cases returned
      · cases member
    · rintro past cluster act after _ ⟨standing, blank⟩ _ taken
      have stepped := configStep_spec taken
      refine ⟨?_, blank_step blank stepped⟩
      rintro request ⟨event, member, boots⟩
      rcases List.mem_cons.mp member with rfl | earlier
      · exact boots_stands blank stepped boots
      · exact stands_step (standing request ⟨event, earlier, boots⟩) stepped
  exact held.1 request booted

end Booted

/-! ## Agreement -/

/-- Two configurations route alike and bound the same window. -/
structure SameBuckets (first second : ClusterConfig) : Prop where
  bucketAxis : first.bucketAxis = second.bucketAxis
  bucketSpec : first.bucketSpec = second.bucketSpec
  retentionDepth : first.retentionDepth = second.retentionDepth
  maxFutureBuckets : first.maxFutureBuckets = second.maxFutureBuckets

/-- All configurations that have been returned agree. -/
def ResultsAgree (cluster : Cluster) : Prop :=
  forall first, first ∈ cluster.results -> forall second, second ∈ cluster.results -> SameBuckets first second

/-- One process bootstraps and answers from memory; a second one loads the row. -/
theorem twoProcesses_run (postgres : Postgres) {request : ConfigRow} {config loaded : ClusterConfig}
    (fits : insertable postgres request = true) (parsed : request.config = .ok config)
    (again : (storedRow postgres request).config = .ok loaded) :
    Exists fun past => Exists fun cluster => Run (configStep postgres) newCluster past cluster ∧
      BootedBy postgres past request ∧ cluster.results = [config, loaded] := by
  have committed : bootstrapTx postgres none request = .ok (storedRow postgres request, config) :=
    bootstrapTx_ok.mpr ⟨rfl, parsed, fits, rfl⟩
  have read : loadConfigFromDB (some (storedRow postgres request)) = .ok loaded := again
  generalize storedRow postgres request = row at committed read
  have starts : configStep postgres newCluster .start = some ⟨none, [newProcess], []⟩ := rfl
  have boots : configStep postgres ⟨none, [newProcess], []⟩ (.bootstrap 0 request) =
      some ⟨some row, [⟨none, [.committed config]⟩], []⟩ := by
    simp only [configStep, List.getElem?_cons_zero, Option.map_some, committed]
    rfl
  have keeps : configStep postgres ⟨some row, [⟨none, [.committed config]⟩], []⟩ (.storeConfigCache 0 0) =
      some ⟨some row, [⟨some config, []⟩], []⟩ := rfl
  have answers : configStep postgres ⟨some row, [⟨some config, []⟩], []⟩ (.getConfig 0) =
      some ⟨some row, [⟨some config, []⟩], [config]⟩ := rfl
  have joins : configStep postgres ⟨some row, [⟨some config, []⟩], [config]⟩ .start =
      some ⟨some row, [⟨some config, []⟩, newProcess], [config]⟩ := rfl
  have misses : configStep postgres ⟨some row, [⟨some config, []⟩, newProcess], [config]⟩ (.getConfig 1) =
      some ⟨some row, [⟨some config, []⟩, ⟨none, [.missed]⟩], [config]⟩ := rfl
  have loads : configStep postgres ⟨some row, [⟨some config, []⟩, ⟨none, [.missed]⟩], [config]⟩ (.load 1 0) =
      some ⟨some row, [⟨some config, []⟩, ⟨none, [.loaded loaded]⟩], [config]⟩ := by
    simp only [configStep, List.getElem?_cons_succ, List.getElem?_cons_zero, read]
    rfl
  have returns : configStep postgres ⟨some row, [⟨some config, []⟩, ⟨none, [.loaded loaded]⟩], [config]⟩
      (.storeConfigCache 1 0) = some ⟨some row, [⟨some config, []⟩, ⟨some loaded, []⟩], [config, loaded]⟩ := rfl
  have booted := (Run.start.next starts).next boots
  have cached := (booted.next keeps).next answers
  have second := ((cached.next joins).next misses).next loads
  refine ⟨_, _, second.next returns, ⟨⟨⟨none, [newProcess], []⟩, .bootstrap 0 request⟩, ?_, ?_⟩, rfl⟩
  · simp only [List.mem_cons, true_or, or_true]
  · exact ⟨rfl, fits, ⟨config, parsed⟩, 0, rfl⟩

/-- With a stable spelling the row is parsed to what the request is parsed to. -/
theorem stands_config {postgres : Postgres} {request : ConfigRow} {cluster : Cluster} {config known : ClusterConfig}
    (parsed : request.config = .ok config) (stable : StableSpelling request.bucketAxis request.bucketSpec)
    (stands : Stands postgres request cluster) (knows : cluster.Knows known) : SameBuckets known config := by
  rcases ConfigRow.config_ok parsed with ⟨spec, accepted, rfl⟩
  rcases stands.2 known knows with requested | stored
  · cases parsed.symm.trans requested
    exact ⟨rfl, rfl, rfl, rfl⟩
  · rcases ConfigRow.config_ok stored with ⟨loaded, again, rfl⟩
    exact ⟨rfl, (reparsed_iff postgres accepted).mpr stable loaded again, rfl, rfl⟩

/-- Whatever a cluster has been bootstrapped with: in every run all returned
configurations agree exactly when the spelling of the specification is stable. -/
theorem configs_agree_iff_stable (postgres : Postgres) (request : ConfigRow) (config : ClusterConfig)
    (fits : insertable postgres request = true) (parsed : request.config = .ok config) :
    (forall past cluster, Run (configStep postgres) newCluster past cluster -> BootedBy postgres past request ->
        ResultsAgree cluster) ↔
      StableSpelling request.bucketAxis request.bucketSpec := by
  constructor
  · intro agree
    rcases ConfigRow.config_ok parsed with ⟨spec, accepted, rfl⟩
    refine (reparsed_iff postgres accepted).mp ?_
    intro stored again
    have loaded : (storedRow postgres request).config = .ok ((storedRow postgres request).withSpec stored again) :=
      ConfigRow.config_eq again
    rcases twoProcesses_run postgres fits parsed loaded with ⟨past, cluster, run, booted, results⟩
    have same := agree past cluster run booted
    unfold ResultsAgree at same
    rw [results] at same
    exact (same _ (List.mem_cons_of_mem _ List.mem_cons_self) _ List.mem_cons_self).bucketSpec
  · intro stable past cluster run booted first firstResult second secondResult
    have stands := bootedBy_stands run booted
    have one := stands_config parsed stable stands (Or.inl firstResult)
    have other := stands_config parsed stable stands (Or.inl secondResult)
    exact ⟨one.bucketAxis.trans other.bucketAxis.symm, one.bucketSpec.trans other.bucketSpec.symm,
      one.retentionDepth.trans other.retentionDepth.symm, one.maxFutureBuckets.trans other.maxFutureBuckets.symm⟩

/-- A request on the numeric axis. -/
def numericRequest (members : List Member) : ConfigRow where
  mode := "range"
  bucketAxis := .numeric
  bucketSpec := .object members
  shardMaxBytes := 100
  retentionDepth := none
  maxFutureBuckets := none
  depthFits := none_fits
  futureFits := none_fits

theorem configs_agree_iff_stable_plain :
    Exists fun config =>
      (numericRequest [("width", .number "10")]).config = .ok config ∧
      insertable plainPostgres (numericRequest [("width", .number "10")]) = true ∧
      forall past cluster, Run (configStep plainPostgres) newCluster past cluster ->
        BootedBy plainPostgres past (numericRequest [("width", .number "10")]) -> ResultsAgree cluster := by
  refine ⟨_, ConfigRow.config_eq ten_accepted, by decide, ?_⟩
  refine (configs_agree_iff_stable plainPostgres _ _ (by decide) (ConfigRow.config_eq ten_accepted)).mpr ?_
  rintro width ⟨key, member, _⟩
  have entries : fieldEntries "width" JsonValue.asInt (Keyed.keepLast [("width", .number "10")]) =
      [("width", 10)] := by decide
  rw [entries, List.mem_singleton] at member
  cases member
  exact Or.inl (by decide)

/-- The width is spelled twice. -/
def respelledWidth : ConfigRow := numericRequest [("width", .number "10"), ("WIDTH", .number "20")]

/-- The request is read with the last spelling, and the column puts the
upper-case one first. -/
theorem respelled_width_reloads_differently :
    Exists fun past => Exists fun cluster => Run (configStep plainPostgres) newCluster past cluster ∧
      BootedBy plainPostgres past respelledWidth ∧
      cluster.results.map ClusterConfig.bucketSpec =
        [.numeric 20 (by decide) (by decide), .numeric 10 (by decide) (by decide)] ∧
      ¬ ResultsAgree cluster := by
  have parsed : parseSpec respelledWidth.bucketAxis respelledWidth.bucketSpec =
      .ok (.numeric 20 (by decide) (by decide)) := by decide
  have again : parseSpec (storedRow plainPostgres respelledWidth).bucketAxis
      (storedRow plainPostgres respelledWidth).bucketSpec = .ok (.numeric 10 (by decide) (by decide)) := by decide
  rcases twoProcesses_run plainPostgres (by decide) (ConfigRow.config_eq parsed) (ConfigRow.config_eq again) with
    ⟨past, cluster, run, booted, results⟩
  refine ⟨past, cluster, run, booted, by rw [results]; rfl, ?_⟩
  intro agree
  unfold ResultsAgree at agree
  rw [results] at agree
  have same : Spec.numeric 20 (by decide) (by decide) = .numeric 10 (by decide) (by decide) :=
    (agree _ List.mem_cons_self _ (List.mem_cons_of_mem _ List.mem_cons_self)).bucketSpec
  cases same

end Store
end Shardman
