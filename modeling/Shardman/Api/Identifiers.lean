import Shardman.Api.Server
import Shardman.Control.Snapshots

namespace Shardman
namespace Api

open Fsm
open Bucket
open Store
open Control
open Client
open Foundation

/-!
# Identifiers that the server hands out

Callers learn of shards from answers, which name them by their ids and by the
texts of their uuids, and they come back with such a text later: an agent
reports under it, round after round.  This module shows that what was handed
out stays good.  Whatever an answer names is registered from then on, and the
text is the one that its uuid is printed as.  A report under a text that is
read as the uuid of a registered shard is recorded and answered with a state
that the shard had meanwhile.
-/

/-! ## Names of shards -/

/-- The shard with the id is registered, and the text is the one of its uuid. -/
def Registered (platform : Platform) (db : Db) (name : Nat × String) : Prop :=
  Exists fun row => row ∈ db.shards ∧ nameOf platform row = name

theorem Registered.later {platform : Platform} {earlier later : Moment} {name : Nat × String}
    (continues : Continues earlier later) (registered : Registered platform earlier.db name) :
    Registered platform later.db name := by
  rcases registered with ⟨row, member, rfl⟩
  rcases continues.rows row member with ⟨moved, movedMember, sameID, sameUUID, _⟩
  exact ⟨moved, movedMember, by rw [nameOf, nameOf, sameID, sameUUID]⟩

/-! ## What calls return -/

/-- The rows that a reply shows. -/
def shown : Sigma Reply -> List Shard
  | ⟨.getShardByID _, found⟩ => found.toList
  | ⟨.getErrorShard, found⟩ => found.toList
  | ⟨.activeForBucket _, found⟩ => found.toList
  | ⟨.shardsForBucketRead _, rows⟩ => rows
  | _ => []

/-- The call was shown the row. -/
def Told (done : List (Sigma Reply)) (row : Shard) : Prop :=
  Exists fun exchange => exchange ∈ done ∧ row ∈ shown exchange

/-- The names in an outcome. -/
def outcomeNames (platform : Platform) : Outcome -> List (Nat × String)
  | .write (.ok result) => [(result.shardID, result.uuid)]
  | .read (.ok result) => result.shards.map fun shard => (shard.shardID, shard.uuid)
  | .registered (.ok shard) => [nameOf platform shard]
  | _ => []

/-- An outcome names only shards that the call was shown. -/
def NamesTold (platform : Platform) (done : List (Sigma Reply)) (outcome : Outcome) : Prop :=
  forall name, name ∈ outcomeNames platform outcome -> Exists fun row => Told done row ∧ nameOf platform row = name

section Outcomes

variable {platform : Platform} {done : List (Sigma Reply)} {outcome : Outcome}

theorem told_given {bucketID : String} {shard : Shard} (given : Given bucketID shard done) : Told done shard := by
  cases given with
  | active rest => exact ⟨_, List.mem_cons_self, List.mem_cons_self⟩
  | promoted id rest => exact ⟨_, List.mem_cons_self, List.mem_cons_self⟩

theorem namesTold_none (nameless : outcomeNames platform outcome = []) : NamesTold platform done outcome := by
  intro name named
  rw [nameless] at named
  cases named

theorem namesTold_single {row : Shard} (names : outcomeNames platform outcome = [nameOf platform row])
    (told : Told done row) : NamesTold platform done outcome := by
  intro name named
  rw [names] at named
  exact ⟨row, told, (List.mem_singleton.mp named).symm⟩

theorem namesTold_rows {rows : List Shard} (names : outcomeNames platform outcome = rows.map (nameOf platform))
    (told : forall row, row ∈ rows -> Told done row) : NamesTold platform done outcome := by
  intro name named
  rw [names] at named
  rcases List.mem_map.mp named with ⟨row, member, same⟩
  exact ⟨row, told row member, same⟩

/-- The source of an outcome accounts for every shard that it names. -/
theorem source_names {env : Env} {call : Call} (source : Source env done call outcome) :
    NamesTold env.platform done outcome := by
  cases source with
  | write source =>
      cases source with
      | failed failure => exact namesTold_none rfl
      | error found => exact namesTold_single rfl ⟨_, found, List.mem_cons_self⟩
      | bucket chosen given => exact namesTold_single rfl (told_given given)
  | read source =>
      cases source with
      | failed failure => exact namesTold_none rfl
      | evicted => exact namesTold_none rfl
      | error found => exact namesTold_single rfl ⟨_, found, List.mem_cons_self⟩
      | uncovered chosen told given => exact namesTold_single rfl (told_given given)
      | covered chosen told =>
          refine namesTold_rows ?_ fun row member => ⟨_, told, member⟩
          simp only [outcomeNames, List.map_map]
          rfl
  | registered found => exact namesTold_single rfl ⟨_, found, List.mem_cons_self⟩
  | unregistered | ticked | retained | stats | acknowledged => exact namesTold_none rfl

end Outcomes

/-- What a reply shows is in the table. -/
theorem shown_mem {env : Env} {moment : Moment} {op : Op} {row : Shard}
    (listed : row ∈ shown ⟨op, (perform env op moment).1⟩) : row ∈ moment.db.shards := by
  cases op with
  | getShardByID id => exact List.mem_of_find?_eq_some (Option.mem_toList.mp listed)
  | getErrorShard => exact (scan_head_some (Option.mem_toList.mp listed)).1
  | activeForBucket bucketID => exact (scan_head_some (Option.mem_toList.mp listed)).1
  | shardsForBucketRead bucketID => exact (List.mem_filter.mp listed).1
  | _ => cases listed

/-- The shards that a finished call names are registered. -/
theorem outcome_registered {env : Env} {db : Db} {now : Time} {past : Trace} {system : System} {index : Nat}
    {call : Call} {outcome : Outcome} (run : Runs env db now past system)
    (finished : system.processes[index]? = some ⟨call, .finish outcome⟩) {name : Nat × String}
    (named : name ∈ outcomeNames env.platform outcome) : Registered env.platform system.store.db name := by
  rcases source_names (run_source run finished) name named with ⟨row, ⟨exchange, told, listed⟩, rfl⟩
  rcases exchanges_mem told with ⟨event, member, _, _, reply⟩
  rcases exchange with ⟨op, answer⟩
  have given : (perform env op event.state.store).1 = answer := reply
  rw [← given] at listed
  have registered : Registered env.platform event.state.store.db (nameOf env.platform row) :=
    ⟨row, shown_mem listed, rfl⟩
  exact registered.later (run_continues run member)

/-! ## What the server answers -/

/-- A translated outcome names what the outcome names. -/
theorem answers_names {platform : Platform} {task : Task} {outcome : Outcome} {answer : Answer}
    (answers : Answers platform task outcome answer) : namedShards answer = outcomeNames platform outcome := by
  cases answers with
  | write =>
      rename_i result
      cases result with
      | ok result => rfl
      | error failure => cases failure with
        | store failure => cases failure <;> rfl
        | routing => rfl
  | read =>
      rename_i result
      cases result with
      | ok result => rfl
      | error failure => cases failure <;> rfl
  | bootstrap accepted =>
      rename_i result
      cases result with
      | ok done => rfl
      | error failure => cases failure <;> rfl
  | registerShard =>
      rename_i result
      cases result with
      | ok shard => rfl
      | error failure => cases failure <;> rfl
  | sealRotate =>
      rename_i result
      cases result with
      | ok done => rfl
      | error failure => cases failure <;> rfl
  | retentionTick =>
      rename_i result
      cases result with
      | ok done => rfl
      | error failure => cases failure <;> rfl
  | patchShardState | reportStats | reportCleaned | reportDrainComplete =>
      rename_i result
      cases result <;> rfl
  | sealSupervisor | healthSupervisor | retentionSupervisor => rfl

/-- A list of shards as it was read from the table, or none at all. -/
def ListsShown (platform : Platform) (done : List Exchange) (answer : Answer) : Prop :=
  forall name, name ∈ namedShards answer -> Exists fun rows => Exists fun row =>
    (⟨.inl .listShards, rows⟩ : Exchange) ∈ done ∧ row ∈ rows ∧ nameOf platform row = name

section Server

variable {env : Env} {settings : Settings} {start : Moment} {past : ServerPast} {pool : ServerPool}
variable {task : Task} {answer : Answer} {index : Nat} {metadata : Metadata}

theorem listsShown_none {platform : Platform} {done : List Exchange} (nameless : namedShards answer = []) :
    ListsShown platform done answer := by
  intro name named
  rw [nameless] at named
  cases named

/-- A task that stands for no call names at most what it has listed. -/
theorem Handles.lists {handler : Handler Answer} (handles : Handles env task none handler) :
    handler.Follows (fun _ _ => True) (ListsShown env.platform) [] := by
  cases handles with
  | refused status => exact .finish (listsShown_none rfl)
  | looked refuses =>
      refine .ask trivial fun found => ?_
      rcases refuses found with ⟨status, same⟩
      rw [same]
      exact .finish (listsShown_none rfl)
  | listed silent part names =>
      refine .ask trivial fun rows => .finish ?_
      intro name named
      rw [names] at named
      rcases List.mem_map.mp named with ⟨row, member, same⟩
      exact ⟨rows, row, List.mem_cons_self, part rows member, same⟩
  | measured isMetrics => exact .bind (Program.follows_trivial _ _) fun _ _ _ _ => .finish (listsShown_none rfl)

/-- Whatever shard an answer of the server names, by its id and the text of its
uuid: the shard is registered, and the text is the one of its uuid. -/
theorem answers_name_registered_shards (run : ServerRuns env settings start past pool)
    (answered : pool.processes[index]? = some ⟨task, .finish answer⟩) :
    forall name, name ∈ namedShards answer -> Registered env.platform pool.store.moment.db name := by
  intro name named
  have handles : Handles env task (calledBy env.platform settings task) (taskBody env settings task) :=
    taskBody_handles task
  cases called : calledBy env.platform settings task with
  | some call =>
      rcases (controlLayer env settings).run_carried run.unguarded with ⟨calls, system, carried⟩
      rcases carried.links with ⟨place, links⟩
      have same : system.store = pool.store.moment := links.store
      rcases links.returned answered called with ⟨position, outcome, _, finished, answers⟩
      rw [answers_names answers] at named
      rw [← same]
      exact outcome_registered carried.run finished named
  | none =>
      rw [called] at handles
      rcases run_follows rfl handles.lists run.unguarded answered name named with ⟨rows, row, told, listed, rfl⟩
      rcases exchanges_mem told with ⟨event, member, _, _, reply⟩
      have given : event.state.store.moment.db.shards = rows := reply
      rw [← given] at listed
      have registered : Registered env.platform event.state.store.moment.db (nameOf env.platform row) :=
        ⟨row, listed, rfl⟩
      exact registered.later (server_continues run member)

/-! ## Reports -/

/-- A size is recorded exactly for a shard that is registered. -/
theorem updateStats_reply (env : Env) (moment : Moment) (uuid : UUID) (reportedBytes : Int) :
    ((Exists fun row => row ∈ moment.db.shards ∧ row.shardUUID = uuid) ∧
      (perform env (.updateStats uuid reportedBytes) moment).1 = .ok ()) ∨
    ((forall row, row ∈ moment.db.shards -> row.shardUUID ≠ uuid) ∧
      (perform env (.updateStats uuid reportedBytes) moment).1 = .error .notFound) := by
  rcases updateWhere_unindexing moment.db (fun row => row.shardUUID = uuid) (.stats reportedBytes moment.now)
    fun _ _ _ => Or.inl rfl with ⟨after, written⟩
  by_cases absent : (moment.db.shards.filter fun row => row.shardUUID = uuid).length = 0
  · refine Or.inr ⟨fun row member same => ?_, ?_⟩
    · have listed : row ∈ moment.db.shards.filter fun row => row.shardUUID = uuid :=
        List.mem_filter.mpr ⟨member, decide_eq_true same⟩
      rw [List.length_eq_zero_iff.mp absent] at listed
      cases listed
    · simp only [perform, commit, updateStats, requireRows, written, if_pos absent]
  · rcases List.exists_mem_of_length_pos (Nat.pos_of_ne_zero absent) with ⟨row, listed⟩
    rcases List.mem_filter.mp listed with ⟨member, same⟩
    refine Or.inl ⟨⟨row, member, of_decide_eq_true same⟩, ?_⟩
    simp only [perform, commit, updateStats, requireRows, written, if_neg absent]

/-- What a report has done when it is answered. -/
inductive ReportDone (uuid : UUID) (reportedBytes : Int) : List Exchange -> Answer -> Prop
  | unknown (failure : StoreError) :
      ReportDone uuid reportedBytes [⟨.inl (.updateStats uuid reportedBytes), .error failure⟩]
        (refuse .notFound (.store failure))
  | recorded (found : Option Shard) :
      ReportDone uuid reportedBytes
        [⟨.inl (.getShardByUUID uuid), found⟩, ⟨.inl (.updateStats uuid reportedBytes), .ok ()⟩]
        (statsAnswer (.ok (found.map Shard.state)))

theorem withKey_ok (known : hasKey settings metadata = true) (handler : Handler Answer) :
    withKey settings metadata handler = handler := by
  unfold hasKey at known
  unfold withKey
  cases outcome : requireKey settings metadata with
  | error status =>
      rw [outcome] at known
      cases known
  | ok done => rfl

theorem follows_report (env : Env) {text : String} {uuid : UUID} (known : hasKey settings metadata = true)
    (parsed : env.platform.parseUUID text = some uuid) (reportedBytes : Int64) :
    (taskBody env settings (.keyed metadata (.reportStats text reportedBytes))).Follows (fun _ _ => True)
      (ReportDone uuid reportedBytes.toInt) [] := by
  simp only [taskBody, handleKeyed, reportStats, withKey_ok known, withUUID, parsed]
  refine .ask trivial fun updated => ?_
  cases updated with
  | error failure => exact .finish (.unknown failure)
  | ok updated => exact .ask trivial fun found => .finish (.recorded found)

/-- A report with the key and a readable uuid is answered with a state that its
shard had while the report was served, unless no shard with that uuid was
registered when the report arrived. -/
theorem reports_are_answered_with_state (run : ServerRuns env settings start past pool) {text : String} {uuid : UUID}
    {reportedBytes : Int64} (known : hasKey settings metadata = true)
    (parsed : env.platform.parseUUID text = some uuid)
    (answered : pool.processes[index]? = some ⟨.keyed metadata (.reportStats text reportedBytes), .finish answer⟩) :
    (Exists fun event => event ∈ past ∧ event.action = .resume index ∧
      Exists fun row => row ∈ event.state.store.moment.db.shards ∧ row.shardUUID = uuid ∧
        answer = .response (.stats "ok" row.state.text)) ∨
    (Exists fun event => event ∈ past ∧ event.action = .resume index ∧
      (forall row, row ∈ event.state.store.moment.db.shards -> row.shardUUID ≠ uuid) ∧
        answer = refuse .notFound (.store .notFound)) := by
  have reported := run_follows rfl (follows_report env known parsed reportedBytes) run.unguarded answered
  generalize told : exchanges (serverMachine env settings) index past = done at reported
  cases reported with
  | unknown failure =>
      rcases exchanges_cons told with ⟨later, event, earlier, split, resumed, _, reply, _⟩
      have failed : (perform env (.updateStats uuid reportedBytes.toInt) event.state.store.moment).1 = .error failure :=
        reply
      rcases updateStats_reply env event.state.store.moment uuid reportedBytes.toInt with
        ⟨_, recorded⟩ | ⟨absent, unknown⟩
      · rw [recorded] at failed
        cases failed
      · rw [unknown] at failed
        cases failed
        exact Or.inr ⟨event, Run.mem_of_split split, resumed, absent, rfl⟩
  | recorded found =>
      -- Other requests may run between the update and the read; they leave the shard registered.
      rcases exchanges_cons told with ⟨later, event, earlier, split, resumed, _, reply, before⟩
      rcases exchanges_cons before with ⟨between, update, first, earlierSplit, _, _, recorded, _⟩
      have shownRow : getShardByUUID event.state.store.moment.db uuid = found := reply
      have wrote : (perform env (.updateStats uuid reportedBytes.toInt) update.state.store.moment).1 = .ok () :=
        recorded
      rcases updateStats_reply env update.state.store.moment uuid reportedBytes.toInt with
        ⟨⟨row, member, same⟩, _⟩ | ⟨_, unknown⟩
      · have reached : ServerRuns env settings start earlier event.state := Run.suffix run split
        rcases (server_continues reached (Run.mem_of_split earlierSplit)).rows row member with
          ⟨moved, movedMember, _, sameUUID, _⟩
        cases found with
        | none =>
            have missing := List.find?_eq_none.mp shownRow moved movedMember
            exact absurd (decide_eq_true (sameUUID.trans same)) missing
        | some shard =>
            have chosen := List.find?_some shownRow
            refine Or.inl ⟨event, Run.mem_of_split split, resumed, shard, List.mem_of_find?_eq_some shownRow,
              of_decide_eq_true chosen, rfl⟩
      · rw [unknown] at wrote
        cases wrote

end Server

/-! ## A shard that reports -/

/-- The answer of the process with the given index, if there is one. -/
def answerOf (pool : ServerPool) (index : Nat) : Option (Task × Answer) :=
  match pool.processes[index]? with
  | some ⟨task, .finish answer⟩ => some (task, answer)
  | _ => none

theorem answerOf_some {pool : ServerPool} {index : Nat} {task : Task} {answer : Answer}
    (answered : answerOf pool index = some (task, answer)) :
    pool.processes[index]? = some ⟨task, .finish answer⟩ := by
  unfold answerOf at answered
  split at answered
  · rename_i found
    cases answered
    exact found
  · cases answered

/-- A shard registers under a text of its uuid and reports under the text that it
was given. -/
def registerAndReport : List ServerAct :=
  List.flatten [serveTask 0 (.keyed (some ["secret"])
      (.registerShard "0010" "data" "a" "" "")) 5,
    serveTask 1 (.keyed (some ["secret"]) (.reportStats "10" 50)) 2]

theorem answers_name_registered_shards_canonical : Exists fun past => Exists fun pool : ServerPool =>
    ServerRuns sampleEnv sampleSettings ⟨sampleDb 100, 0⟩ past pool ∧
      (Exists fun task => Exists fun answer => pool.processes[0]? = some ⟨task, .finish answer⟩ ∧
        (1, "10") ∈ namedShards answer) ∧
      Registered samplePlatform pool.store.moment.db (1, "10") := by
  have passed : replayCheck (serverStep sampleEnv sampleSettings) registerAndReport
      ⟨Watch.newServer ⟨sampleDb 100, 0⟩, []⟩ (fun _ pool => (answerOf pool 0).any fun answered =>
        decide ((1, "10") ∈ namedShards answered.2)) = true := by
    decide +kernel
  rcases replayCheck_run passed with ⟨past, pool, run, checked⟩
  rcases (Option.any_eq_true _ _).mp checked with ⟨⟨task, answer⟩, answered, named⟩
  have present := answerOf_some answered
  have mentions := of_decide_eq_true named
  exact ⟨past, pool, run, ⟨task, answer, present, mentions⟩, answers_name_registered_shards run present _ mentions⟩

/-- The answer is that of a report under the text. -/
def reportAnswered (text : String) (answered : Task × Answer) : Bool :=
  match answered.1 with
  | .keyed (some ["secret"]) (.reportStats reported bytes) => reported == text && bytes == 50
  | _ => false

theorem reportAnswered_task {text : String} {task : Task} {answer : Answer}
    (answered : reportAnswered text (task, answer) = true) :
    task = .keyed (some ["secret"]) (.reportStats text 50) := by
  simp only [reportAnswered] at answered
  split at answered
  · rename_i reported bytes
    rw [Bool.and_eq_true, beq_iff_eq, beq_iff_eq] at answered
    rw [answered.1, answered.2]
  · cases answered

theorem reports_are_answered_with_state_registered : Exists fun past => Exists fun pool : ServerPool =>
    Exists fun answer => ServerRuns sampleEnv sampleSettings ⟨sampleDb 100, 0⟩ past pool ∧
      pool.processes[1]? = some ⟨.keyed (some ["secret"]) (.reportStats "10" 50),
        .finish answer⟩ ∧
      ((Exists fun event => event ∈ past ∧ event.action = .resume 1 ∧
        Exists fun row => row ∈ event.state.store.moment.db.shards ∧
          row.shardUUID = 10#128 ∧ answer = .response (.stats "ok" row.state.text)) ∨
      (Exists fun event => event ∈ past ∧ event.action = .resume 1 ∧
        (forall row, row ∈ event.state.store.moment.db.shards -> row.shardUUID ≠ 10#128) ∧
          answer = refuse .notFound (.store .notFound))) := by
  have passed : replayCheck (serverStep sampleEnv sampleSettings) registerAndReport
      ⟨Watch.newServer ⟨sampleDb 100, 0⟩, []⟩ (fun _ pool =>
        (answerOf pool 1).any (reportAnswered "10")) = true := by
    decide +kernel
  rcases replayCheck_run passed with ⟨past, pool, run, checked⟩
  rcases (Option.any_eq_true _ _).mp checked with ⟨⟨task, answer⟩, answered, isReport⟩
  have present := answerOf_some answered
  rw [reportAnswered_task isReport] at present
  have parsed : samplePlatform.parseUUID "10" = some 10#128 := by
    decide +kernel
  exact ⟨past, pool, answer, run, present, reports_are_answered_with_state run rfl parsed present⟩

end Api
end Shardman
