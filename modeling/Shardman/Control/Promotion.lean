import Shardman.Control.ReadSet

namespace Shardman
namespace Control

open Fsm
open Bucket
open Store
open Foundation

/-!
# Concurrent writes to an unserved bucket

Any number of writes may find a bucket without an active shard at the same
time, and each of them then tries to provide one.  They should all end up with
the same shard, at the price of one standby.

The bucket passes from unserved to served once, in the promotion of one call.
Before it, every query of every call leaves the database as it is.  After it, a
call that queries for the active shard once more finds the promoted one.  What
decides the fate of a call is therefore whether it still has such a query ahead
of it when the promotion happens: the query of `autoPromoteIfNoActive` is the
last one, and a call that missed there fails.
-/

/-! ## The calls -/

/-- The call is a write whose key belongs to the bucket at the given instant. -/
def WritesTo (env : Env) (config : ClusterConfig) (bucketID : String) (now : Time) : Call -> Prop
  | .resolveWrite shardKey => classifyWriteFor env.platform config now shardKey = some (.toBucket bucketID)
  | _ => False

/-- Nothing runs but writes to the bucket, and its active shard does not fall
silent. -/
def Undisturbed (env : Env) (config : ClusterConfig) (bucketID : String) (system : System) : Prop :=
  (forall process, process ∈ system.processes ->
    WritesTo env config bucketID system.store.now process.entry) ∧
  forall row, row ∈ system.store.db.shards -> InState .active bucketID row -> Fresh env system.store.now row

def queriesActive : Op -> Bool
  | .activeForBucket _ => true
  | _ => false

def promotes : Op -> Bool
  | .promoteStandby _ => true
  | _ => false

/-- A call that has done this much is past its third query for the active
shard, the one of `autoPromoteIfNoActive`, and has not promoted yet. -/
def pastCheck (done : List Op) : Bool :=
  done.countP queriesActive == 3 && !done.any promotes

/-- If the event is a promotion while the bucket has no active shard, then no
other call is past its check. -/
def PromotesAlone (bucketID : String) (earlier : Trace) (event : Event System Act) : Prop :=
  (event.state.pending event.action).any promotes = true ->
    (forall row, row ∈ event.state.store.db.shards -> ¬ InState .active bucketID row) ->
      forall other, other < event.state.processes.length -> event.action.resumes other = false ->
        pastCheck (performedBy other earlier) = false

/-- All promotions of a run happen in this way. -/
def PromotedAlone (bucketID : String) : Trace -> Prop
  | [] => True
  | event :: earlier => PromotesAlone bucketID earlier event ∧ PromotedAlone bucketID earlier

/-- All calls that have returned succeeded with one and the same shard. -/
def SameShard (env : Env) (bucketID : String) (system : System) : Prop :=
  Exists fun shard => forall process, process ∈ system.processes -> forall outcome,
    process.program = .finish outcome -> outcome = .write (.ok (writeResult env.platform .bucket bucketID none shard))

/-! ## A served bucket -/

section Served

variable (env : Env) (config : ClusterConfig) (bucketID : String)

/-- A moment at which a shard serves the bucket and the key of a call belongs to
it. -/
structure Served (shardKey : Key) (shard : Shard) (moment : Moment) : Prop where
  loaded : getConfig moment.db = .ok config
  member : shard ∈ moment.db.shards
  active : InState .active bucketID shard
  fresh : Fresh env moment.now shard
  classified : classifyWriteFor env.platform config moment.now shardKey = some (.toBucket bucketID)

/-- The rest of a call returns the shard, and changes nothing, while that shard
serves the bucket. -/
def Adopts (shardKey : Key) (shard : Shard) (program : Routine Outcome) : Prop :=
  program.Answers (perform env) (Served env config bucketID shardKey shard)
    fun outcome => outcome = .write (.ok (writeResult env.platform .bucket bucketID none shard))

/-- The rest of a call fails, and changes nothing, while a shard serves the
bucket. -/
def Fails (shardKey : Key) (shard : Shard) (program : Routine Outcome) : Prop :=
  program.Answers (perform env) (Served env config bucketID shardKey shard)
    fun outcome => Exists fun failure => outcome = .write (.error failure)

end Served

section Queries

variable {env : Env} {config : ClusterConfig} {bucketID : String} {shardKey : Key} {shard : Shard}
variable {claim : Outcome -> Prop}

theorem Served.found {moment : Moment} (served : Served env config bucketID shardKey shard moment) :
    activeForBucket env moment.now moment.db bucketID = some shard :=
  activeForBucket_eq served.member served.active served.fresh

theorem Served.notStale {moment : Moment} (served : Served env config bucketID shardKey shard moment) :
    staleActiveForBucket env moment.now moment.db bucketID = none := by
  cases found : staleActiveForBucket env moment.now moment.db bucketID with
  | none => rfl
  | some row =>
      rcases scan_head_some found with ⟨member, serves, silent⟩
      rw [active_unique member served.member serves served.active] at silent
      exact absurd served.fresh silent

theorem answers_getConfig {next : Except StoreError ClusterConfig -> Routine Outcome}
    (rest : (next (.ok config)).Answers (perform env) (Served env config bucketID shardKey shard) claim) :
    Program.Answers (perform env) (Served env config bucketID shardKey shard) claim (.request .getConfig next) := by
  refine Program.Answers.request (fun _ => rfl) ?_
  intro moment served
  simp only [perform, served.loaded]
  exact rest

theorem answers_activeQuery {next : Option Shard -> Routine Outcome}
    (rest : (next (some shard)).Answers (perform env) (Served env config bucketID shardKey shard) claim) :
    Program.Answers (perform env) (Served env config bucketID shardKey shard) claim
      (.request (.activeForBucket bucketID) next) := by
  refine Program.Answers.request (fun _ => rfl) ?_
  intro moment served
  simp only [perform, served.found]
  exact rest

theorem answers_staleQuery {next : Option Shard -> Routine Outcome}
    (rest : (next none).Answers (perform env) (Served env config bucketID shardKey shard) claim) :
    Program.Answers (perform env) (Served env config bucketID shardKey shard) claim
      (.request (.staleActiveForBucket bucketID) next) := by
  refine Program.Answers.request (fun _ => rfl) ?_
  intro moment served
  simp only [perform, served.notStale]
  exact rest

theorem answers_serviceQuery {next : Bool -> Routine Outcome}
    (rest : (next true).Answers (perform env) (Served env config bucketID shardKey shard) claim) :
    Program.Answers (perform env) (Served env config bucketID shardKey shard) claim
      (.request (.hasActiveInBucket bucketID) next) := by
  refine Program.Answers.request (fun _ => rfl) ?_
  intro moment served
  have serving : hasActiveInBucket moment.db bucketID = true := hasActiveInBucket_iff.mpr
    ⟨shard, served.member, served.active.1, served.active.2.1, Or.inl served.active.2.2⟩
  simp only [perform, serving]
  exact rest

/-- The query that follows a promotion finds the row by its id. -/
theorem answers_fetch {id : Nat} {next : Option Shard -> Routine Outcome} (same : shard.id = id)
    (rest : (next (some shard)).Answers (perform env) (Served env config bucketID shardKey shard) claim) :
    Program.Answers (perform env) (Served env config bucketID shardKey shard) claim
      (.request (.getShardByID id) next) := by
  refine Program.Answers.request (fun _ => rfl) ?_
  intro moment served
  have fetched := getShardByID_mem served.member
  rw [same] at fetched
  simp only [perform, fetched]
  exact rest

/-- A promotion into a served bucket fails: the pool is empty or the index on
active shards aborts it. -/
theorem answers_promotion {next : Except StoreError Nat -> Routine Outcome}
    (rest : forall failure, (next (.error failure)).Answers (perform env)
      (Served env config bucketID shardKey shard) claim) :
    Program.Answers (perform env) (Served env config bucketID shardKey shard) claim
      (.request (.promoteStandby bucketID) next) := by
  intro moment served
  rcases promoteStandby_cases moment.now bucketID moment.db with ⟨_, failed⟩ |
    ⟨_, _, _, _, _, failed⟩ | ⟨_, _, _, vacant, _, _, _⟩
  · simp only [perform, commit, failed]
    exact ⟨trivial, rest .notFound⟩
  · simp only [perform, commit, failed]
    exact ⟨trivial, rest .uniqueViolation⟩
  · exact absurd served.active (vacant shard served.member)

/-- A write whose clock reading is still ahead. -/
theorem answers_clock {next : Time -> Routine Outcome}
    (rest : forall now, classifyWriteFor env.platform config now shardKey = some (.toBucket bucketID) ->
      (next now).Answers (perform env) (Served env config bucketID shardKey shard) claim) :
    Program.Answers (perform env) (Served env config bucketID shardKey shard) claim (.request .clock next) :=
  Program.Answers.request (fun _ => rfl) fun moment served => rest moment.now served.classified

/-- A write that begins while the bucket is served returns the shard. -/
theorem adopts_resolveWrite :
    Adopts env config bucketID shardKey shard (body env (.resolveWrite shardKey)) := by
  simp only [body, resolveWrite, Program.ask_bind, Program.request_bind]
  refine answers_getConfig (answers_clock fun now classified => ?_)
  simp only [classified, WriteRoute.toBucket, ensureActive, Program.ask_bind, Program.request_bind]
  exact answers_activeQuery rfl

end Queries

/-! ## An unserved bucket -/

section Waiting

variable (env : Env) (config : ClusterConfig) (bucketID : String) (db : Db)

/-- A database in which a shard serves the bucket, at the price of one standby
of the database at the start. -/
structure Provided (shard : Shard) (after : Db) : Prop where
  loaded : getConfig after = .ok config
  member : shard ∈ after.shards
  active : InState .active bucketID shard
  price : countStandbyPool db = countStandbyPool after + 1

/-- The rest of a call while the bucket is unserved.  It goes on without
changing the database, until it provides a shard itself and returns it.  When
another call provides a shard first, this call fails exactly if it is past its
check. -/
def Waits (shardKey : Key) : List Op -> Routine Outcome -> Prop
  | _, .finish _ => False
  | done, .request op next =>
      (pastCheck done = false -> forall shard, Adopts env config bucketID shardKey shard (.request op next)) ∧
      (pastCheck done = true -> forall shard, Fails env config bucketID shardKey shard (.request op next)) ∧
      forall moment : Moment, moment.db = db ->
        classifyWriteFor env.platform config moment.now shardKey = some (.toBucket bucketID) ->
          (promotes op = false ∧ (perform env op moment).2 = moment ∧
            Waits shardKey (op :: done) (next (perform env op moment).1)) ∨
          (promotes op = true ∧ Exists fun shard =>
            Provided config bucketID db shard (perform env op moment).2.db ∧
            Adopts env config bucketID shardKey shard (next (perform env op moment).1))

end Waiting

section Unserved

variable {env : Env} {config : ClusterConfig} {bucketID : String} {db : Db} {shardKey : Key}

/-- A query of a call that still has a query for the active shard ahead. -/
theorem waits_early {done : List Op} {op : Op} {next : Reply op -> Routine Outcome}
    (early : pastCheck done = false) (query : promotes op = false)
    (unchanged : forall moment, (perform env op moment).2 = moment)
    (returns : forall shard, Adopts env config bucketID shardKey shard (.request op next))
    (rest : forall moment : Moment, moment.db = db ->
      classifyWriteFor env.platform config moment.now shardKey = some (.toBucket bucketID) ->
        Waits env config bucketID db shardKey (op :: done) (next (perform env op moment).1)) :
    Waits env config bucketID db shardKey done (.request op next) := by
  refine ⟨fun _ => returns, fun late => ?_, fun moment same classified =>
    Or.inl ⟨query, unchanged moment, rest moment same classified⟩⟩
  rw [early] at late
  cases late

/-- A query of a call that is past its check. -/
theorem waits_late {done : List Op} {op : Op} {next : Reply op -> Routine Outcome}
    (late : pastCheck done = true) (query : promotes op = false)
    (unchanged : forall moment, (perform env op moment).2 = moment)
    (fails : forall shard, Fails env config bucketID shardKey shard (.request op next))
    (rest : forall moment : Moment, moment.db = db ->
        Waits env config bucketID db shardKey (op :: done) (next (perform env op moment).1)) :
    Waits env config bucketID db shardKey done (.request op next) := by
  refine ⟨fun early => ?_, fun _ => fails, fun moment same _ =>
    Or.inl ⟨query, unchanged moment, rest moment same⟩⟩
  rw [late] at early
  cases early

/-- The promotion itself. -/
theorem waits_promotion {done : List Op} {next : Except StoreError Nat -> Routine Outcome}
    (loaded : getConfig db = .ok config) (vacant : forall row, row ∈ db.shards -> ¬ Live bucketID row)
    (pooled : 0 < countStandbyPool db) (late : pastCheck done = true)
    (fails : forall failure, Exists fun reason => next (.error failure) = .finish (.write (.error reason)))
    (returns : forall id shard, shard.id = id ->
      Adopts env config bucketID shardKey shard (next (.ok id))) :
    Waits env config bucketID db shardKey done (.request (.promoteStandby bucketID) next) := by
  refine ⟨fun early => ?_, fun _ shard => answers_promotion fun failure => ?_, fun moment same _ =>
    Or.inr ⟨rfl, ?_⟩⟩
  · rw [late] at early
    cases early
  · rcases fails failure with ⟨reason, done⟩
    rw [done]
    exact ⟨reason, rfl⟩
  · subst same
    rcases promoteStandby_cases moment.now bucketID moment.db with ⟨empty, _⟩ |
      ⟨_, active, _, member, serves, _⟩ | ⟨spare, after, found, _, outcome, table, cluster⟩
    · rw [countStandbyPool_empty empty] at pooled
      cases pooled
    · exact absurd ⟨serves.1, serves.2.1, Or.inl serves.2.2⟩ (vacant active member)
    · rcases nextStandby_some found with ⟨spareMember, isPooled⟩
      refine ⟨(Rewrite.activate moment.now bucketID).apply spare, ?_, ?_⟩
      · simp only [perform, commit, outcome]
        refine ⟨?_, ?_, ⟨isPooled.1, rfl, rfl⟩,
          countStandbyPool_erase found (standbyPool_promoted spareMember table)⟩
        · rw [getConfig_bumped cluster]
          exact loaded
        · rw [table]
          exact mem_tableAt.mpr (Or.inl ⟨spare, spareMember, rfl, rfl⟩)
      · simp only [perform, commit, outcome]
        exact returns _ _ (Rewrite.id_eq _ spare)

/-- What a write goes through while the bucket is unserved. -/
theorem waits_resolveWrite (loaded : getConfig db = .ok config)
    (vacant : forall row, row ∈ db.shards -> ¬ Live bucketID row) (pooled : 0 < countStandbyPool db) :
    Waits env config bucketID db shardKey [] (body env (.resolveWrite shardKey)) := by
  have noActive : forall row, row ∈ db.shards -> ¬ InState .active bucketID row :=
    fun row member active => vacant row member ⟨active.1, active.2.1, Or.inl active.2.2⟩
  have missing : forall now, activeForBucket env now db bucketID = none :=
    fun now => activeForBucket_none noActive
  have silent : forall now, staleActiveForBucket env now db bucketID = none :=
    fun now => staleActiveForBucket_none noActive
  have idle : hasActiveInBucket db bucketID = false := by
    rw [Bool.eq_false_iff]
    intro serving
    rcases hasActiveInBucket_iff.mp serving with ⟨row, member, live⟩
    exact vacant row member live
  simp only [body, resolveWrite, Program.ask_bind, Program.request_bind]
  refine waits_early rfl rfl (fun _ => rfl) (fun shard => adopts_resolveWrite) fun moment same _ => ?_
  simp only [perform, same, loaded, Program.request_bind]
  refine waits_early rfl rfl (fun _ => rfl) (fun shard => answers_clock fun now classified => ?_)
    fun moment _ classified => ?_
  · simp only [classified, WriteRoute.toBucket, ensureActive, Program.ask_bind, Program.request_bind]
    exact answers_activeQuery rfl
  simp only [perform, classified, WriteRoute.toBucket, ensureActive, Program.ask_bind, Program.request_bind]
  refine waits_early rfl rfl (fun _ => rfl) (fun shard => answers_activeQuery rfl) fun moment same _ => ?_
  simp only [perform, same, missing, failoverStaleActive, Program.ask_bind, Program.request_bind]
  refine waits_early rfl rfl (fun _ => rfl) (fun shard => answers_staleQuery (answers_activeQuery rfl))
    fun moment same _ => ?_
  simp only [perform, same, silent, Program.pure_eq_finish, Program.finish_bind, Program.request_bind]
  refine waits_early rfl rfl (fun _ => rfl) (fun shard => answers_activeQuery rfl) fun moment same _ => ?_
  simp only [perform, same, missing, autoPromoteIfNoActive, Program.ask_bind, Program.request_bind]
  refine waits_early rfl rfl (fun _ => rfl) (fun shard => answers_activeQuery (answers_activeQuery rfl))
    fun moment same _ => ?_
  simp only [perform, same, missing, Program.request_bind]
  -- From here on the call does not look for the active shard again.
  refine waits_late rfl rfl (fun _ => rfl) (fun shard => answers_serviceQuery ⟨_, rfl⟩) fun moment same => ?_
  simp only [perform, same, idle, Bool.false_eq_true, if_false, Program.request_bind]
  refine waits_late rfl rfl (fun _ => rfl)
    (fun shard => answers_staleQuery (answers_promotion fun failure => ⟨_, rfl⟩)) fun moment same => ?_
  simp only [perform, same, silent, promoteStandbyToActive, Program.ask_bind, Program.request_bind]
  exact waits_promotion loaded vacant pooled rfl (fun failure => ⟨_, rfl⟩)
    fun id shard same => answers_fetch same rfl

end Unserved

/-! ## Whole runs -/

section Runs

variable {env : Env} {config : ClusterConfig} {bucketID : String} {db : Db} {shard : Shard}
variable {system after : System} {action : Act}

theorem Undisturbed.write (calm : Undisturbed env config bucketID system) {index : Nat} {call : Call}
    {program : Routine Outcome} (present : system.processes[index]? = some ⟨call, program⟩) :
    Exists fun shardKey => call = .resolveWrite shardKey ∧
      classifyWriteFor env.platform config system.store.now shardKey = some (.toBucket bucketID) := by
  have writes := calm.1 _ (List.mem_of_getElem? present)
  cases call with
  | resolveWrite shardKey => exact ⟨shardKey, rfl, writes⟩
  | _ => exact writes.elim

theorem Provided.served (provided : Provided config bucketID db shard system.store.db)
    (calm : Undisturbed env config bucketID system) {shardKey : Key}
    (classified : classifyWriteFor env.platform config system.store.now shardKey = some (.toBucket bucketID)) :
    Served env config bucketID shardKey shard system.store :=
  ⟨provided.loaded, provided.member, provided.active, calm.2 shard provided.member provided.active, classified⟩

/-- Every call in progress has a settled answer as long as the shard serves the
bucket. -/
def Settled (env : Env) (config : ClusterConfig) (bucketID : String) (shard : Shard) (system : System) : Prop :=
  forall (index : Nat) shardKey program, system.processes[index]? = some ⟨.resolveWrite shardKey, program⟩ ->
    Adopts env config bucketID shardKey shard program ∨ Fails env config bucketID shardKey shard program

/-- A step at a served bucket leaves the database alone. -/
theorem step_served (provided : Provided config bucketID db shard system.store.db)
    (calm : Undisturbed env config bucketID system) (settled : Settled env config bucketID shard system)
    (taken : (machine env).step system action = some after) : after.store.db = system.store.db := by
  rcases step_cases taken with ⟨entry, rfl, rfl⟩ | ⟨tick, rfl, rfl⟩ |
    ⟨index, call, op, next, rfl, found, issued, rfl⟩
  · rfl
  · rfl
  · rcases calm.write found with ⟨shardKey, rfl, classified⟩
    have served := provided.served calm classified
    rcases settled index shardKey _ found with answers | answers
    · exact congrArg Moment.db (answers _ served).1
    · exact congrArg Moment.db (answers _ served).1

/-- Where a call in progress after a step at a served bucket comes from: it has
just begun, or it has kept its answer. -/
theorem served_before (provided : Provided config bucketID db shard system.store.db)
    (calm : Undisturbed env config bucketID system) (taken : (machine env).step system action = some after)
    {index : Nat} {shardKey : Key} {program : Routine Outcome}
    (present : after.processes[index]? = some ⟨.resolveWrite shardKey, program⟩) :
    program = body env (.resolveWrite shardKey) ∨
    (Exists fun before => system.processes[index]? = some ⟨.resolveWrite shardKey, before⟩ ∧
      forall claim, before.Answers (perform env) (Served env config bucketID shardKey shard) claim ->
        program.Answers (perform env) (Served env config bucketID shardKey shard) claim) := by
  rcases process_cases taken present with ⟨_, kept⟩ | ⟨_, _, begun⟩ | ⟨op, next, _, found, _, _, resumed⟩
  · exact Or.inr ⟨program, kept, fun _ answers => answers⟩
  · exact Or.inl begun
  · rcases calm.write found with ⟨key, same, classified⟩
    cases same
    change program = next (perform env op system.store).1 at resumed
    refine Or.inr ⟨_, found, fun claim answers => ?_⟩
    rw [resumed]
    exact (answers _ (provided.served calm classified)).2

/-- What becomes of a call in progress in a step at a served bucket: it keeps
its answer. -/
theorem served_after (provided : Provided config bucketID db shard system.store.db)
    (calm : Undisturbed env config bucketID system) (taken : (machine env).step system action = some after)
    {index : Nat} {shardKey : Key} {before : Routine Outcome} {claim : Outcome -> Prop}
    (present : system.processes[index]? = some ⟨.resolveWrite shardKey, before⟩)
    (answers : before.Answers (perform env) (Served env config bucketID shardKey shard) claim) :
    Exists fun program => after.processes[index]? = some ⟨.resolveWrite shardKey, program⟩ ∧
      program.Answers (perform env) (Served env config bucketID shardKey shard) claim := by
  rcases process_after taken present with ⟨_, kept⟩ | ⟨op, next, rfl, _, _, resumed⟩
  · exact ⟨before, kept, answers⟩
  · rcases calm.write present with ⟨key, same, classified⟩
    cases same
    exact ⟨_, resumed, (answers _ (provided.served calm classified)).2⟩

/-- At a served bucket a promotion is no longer asked to be alone. -/
theorem promotesAlone_served (provided : Provided config bucketID db shard system.store.db) (past : Trace) :
    PromotesAlone bucketID past ⟨system, action⟩ :=
  fun _ vacant => absurd provided.active (vacant shard provided.member)

/-- How far a run has come: the bucket is unserved, or served with all calls in
agreement, or served with a call that fails. -/
inductive Standing (env : Env) (config : ClusterConfig) (bucketID : String) (db : Db) (past : Trace)
    (system : System) : Prop
  | unserved (same : system.store.db = db) (alone : PromotedAlone bucketID past)
      (waits : forall (index : Nat) shardKey program,
        system.processes[index]? = some ⟨.resolveWrite shardKey, program⟩ ->
          Waits env config bucketID db shardKey (performedBy index past) program)
  | agreed (shard : Shard) (provided : Provided config bucketID db shard system.store.db)
      (alone : PromotedAlone bucketID past)
      (returns : forall (index : Nat) shardKey program,
        system.processes[index]? = some ⟨.resolveWrite shardKey, program⟩ ->
          Adopts env config bucketID shardKey shard program)
  | split (shard : Shard) (provided : Provided config bucketID db shard system.store.db)
      (crowded : ¬ PromotedAlone bucketID past) (settled : Settled env config bucketID shard system)
      (loser : Exists fun index : Nat => Exists fun shardKey => Exists fun program =>
        system.processes[index]? = some ⟨.resolveWrite shardKey, program⟩ ∧
          Fails env config bucketID shardKey shard program)

theorem standing_served {past : Trace} (provided : Provided config bucketID db shard system.store.db)
    (calm : Undisturbed env config bucketID system) (alone : PromotedAlone bucketID past)
    (returns : forall (index : Nat) shardKey program,
      system.processes[index]? = some ⟨.resolveWrite shardKey, program⟩ ->
        Adopts env config bucketID shardKey shard program)
    (taken : (machine env).step system action = some after) :
    Standing env config bucketID db (⟨system, action⟩ :: past) after := by
  have kept := step_served provided calm (fun index key program present =>
    Or.inl (returns index key program present)) taken
  refine .agreed shard (kept ▸ provided) ⟨promotesAlone_served provided past, alone⟩ ?_
  intro index shardKey program present
  rcases served_before provided calm taken present with rfl | ⟨before, found, keeps⟩
  · exact adopts_resolveWrite
  · exact keeps _ (returns index shardKey before found)

theorem standing_split {past : Trace} (provided : Provided config bucketID db shard system.store.db)
    (calm : Undisturbed env config bucketID system) (crowded : ¬ PromotedAlone bucketID past)
    (settled : Settled env config bucketID shard system)
    (loser : Exists fun index : Nat => Exists fun shardKey => Exists fun program =>
      system.processes[index]? = some ⟨.resolveWrite shardKey, program⟩ ∧
        Fails env config bucketID shardKey shard program)
    (taken : (machine env).step system action = some after) :
    Standing env config bucketID db (⟨system, action⟩ :: past) after := by
  have kept := step_served provided calm settled taken
  refine .split shard (kept ▸ provided) (fun alone => crowded alone.2) ?_ ?_
  · intro index shardKey program present
    rcases served_before provided calm taken present with rfl | ⟨before, found, keeps⟩
    · exact Or.inl adopts_resolveWrite
    · exact (settled index shardKey before found).imp (keeps _) (keeps _)
  · rcases loser with ⟨index, shardKey, before, present, fails⟩
    rcases served_after provided calm taken present fails with ⟨program, found, still⟩
    exact ⟨index, shardKey, program, found, still⟩

section Unserved

variable {now : Time} {past : Trace}
variable (loaded : getConfig db = .ok config) (vacant : forall row, row ∈ db.shards -> ¬ Live bucketID row)
variable (pooled : 0 < countStandbyPool db) (run : Runs env db now past system)
variable (waits : forall (index : Nat) shardKey program,
  system.processes[index]? = some ⟨.resolveWrite shardKey, program⟩ ->
    Waits env config bucketID db shardKey (performedBy index past) program)

include loaded vacant pooled run waits in
/-- The calls keep waiting in a step if the resumed one does. -/
theorem waits_step (taken : (machine env).step system action = some after)
    (resumed : forall (index : Nat) shardKey op next, action = .resume index ->
      system.processes[index]? = some ⟨.resolveWrite shardKey, .request op next⟩ ->
        Waits env config bucketID db shardKey (op :: performedBy index past)
          (next (perform env op system.store).1)) :
    forall (index : Nat) shardKey program,
      after.processes[index]? = some ⟨.resolveWrite shardKey, program⟩ ->
        Waits env config bucketID db shardKey (performedBy index (⟨system, action⟩ :: past)) program := by
  intro index shardKey program present
  rcases process_cases taken present with ⟨other, kept⟩ | ⟨rfl, rfl, begun⟩ |
    ⟨op, next, rfl, found, issued, _, advanced⟩
  · rw [performedBy_other other]
    exact waits index shardKey program kept
  · have nothing : performedBy system.processes.length
        (⟨system, .start (.resolveWrite shardKey)⟩ :: past : Trace) = [] :=
      performedBy_unstarted run (Nat.le_refl _)
    change program = body env (.resolveWrite shardKey) at begun
    rw [nothing, begun]
    exact waits_resolveWrite loaded vacant pooled
  · change program = next (perform env op system.store).1 at advanced
    rw [performedBy_resumed issued, advanced]
    exact resumed index shardKey op next rfl found

include waits in
/-- What a call makes of a shard that another call provides depends on whether
it is past its check. -/
theorem waits_settled {index : Nat} {shardKey : Key} {program : Routine Outcome}
    (present : system.processes[index]? = some ⟨.resolveWrite shardKey, program⟩) (shard : Shard) :
    (pastCheck (performedBy index past) = false -> Adopts env config bucketID shardKey shard program) ∧
    (pastCheck (performedBy index past) = true -> Fails env config bucketID shardKey shard program) := by
  have waiting := waits index shardKey program present
  cases program with
  | finish outcome => exact waiting.elim
  | request op next => exact ⟨fun early => waiting.1 early shard, fun late => waiting.2.1 late shard⟩

include vacant waits in
/-- The promotion: the calls agree if the promoting one is alone past its check,
and otherwise some call fails. -/
theorem standing_promotion {index : Nat} {shardKey : Key} {op : Op} {next : Reply op -> Routine Outcome}
    (same : system.store.db = db) (calm : Undisturbed env config bucketID system)
    (alone : PromotedAlone bucketID past) (taken : (machine env).step system (.resume index) = some after)
    (found : system.processes[index]? = some ⟨.resolveWrite shardKey, .request op next⟩)
    (issued : system.pending (.resume index : Act) = some op) (promotion : promotes op = true)
    (provided : Provided config bucketID db shard after.store.db)
    (returns : Adopts env config bucketID shardKey shard (next (perform env op system.store).1)) :
    Standing env config bucketID db (⟨system, .resume index⟩ :: past) after := by
  have origin : forall (position : Nat) key program,
      after.processes[position]? = some ⟨.resolveWrite key, program⟩ ->
        Adopts env config bucketID key shard program ∨
        (position ≠ index ∧ system.processes[position]? = some ⟨.resolveWrite key, program⟩) := by
    intro position key program present
    rcases process_cases taken present with ⟨other, kept⟩ | ⟨starts, _⟩ |
      ⟨_, _, resumes, source, _, _, advanced⟩
    · refine Or.inr ⟨?_, kept⟩
      rintro rfl
      exact other rfl
    · cases starts
    · cases resumes
      rw [found] at source
      cases source
      change program = next (perform env op system.store).1 at advanced
      rw [advanced]
      exact Or.inl returns
  by_cases crowd : forall other, other < system.processes.length ->
      (PoolAction.resume index : Act).resumes other = false -> pastCheck (performedBy other past) = false
  · refine .agreed shard provided ⟨fun _ _ => crowd, alone⟩ ?_
    intro position key program present
    rcases origin position key program present with done | ⟨apart, kept⟩
    · exact done
    · refine (waits_settled waits kept shard).1 (crowd position ?_ ?_)
      · exact (List.getElem?_eq_some_iff.mp kept).1
      · exact beq_false_of_ne apart.symm
  · push Not at crowd
    rcases crowd with ⟨other, inside, apart, late⟩
    have isLate : pastCheck (performedBy other past) = true := by
      simpa using late
    refine .split shard provided ?_ ?_ ?_
    · rintro ⟨promotesAlone, _⟩
      refine late (promotesAlone ?_ ?_ other inside apart)
      · change (system.pending (.resume index : Act)).any promotes = true
        rw [issued]
        exact promotion
      · intro row member active
        change row ∈ system.store.db.shards at member
        rw [same] at member
        exact vacant row member ⟨active.1, active.2.1, Or.inl active.2.2⟩
    · intro position key program present
      rcases origin position key program present with done | ⟨_, kept⟩
      · exact Or.inl done
      · have settles := waits_settled waits kept shard
        cases check : pastCheck (performedBy position past) with
        | false => exact Or.inl (settles.1 check)
        | true => exact Or.inr (settles.2 check)
    · rcases before : system.processes[other]? with _ | ⟨call, program⟩
      · rw [List.getElem?_eq_none_iff] at before
        omega
      · rcases calm.write before with ⟨key, rfl, _⟩
        have different : (PoolAction.resume index : Act) ≠ .resume other := fun same =>
          Bool.false_ne_true (apart.symm.trans (resumes_iff.mpr same))
        rcases process_after taken before with ⟨_, kept⟩ | ⟨_, _, _, resumes, _⟩
        · exact ⟨other, key, program, kept, (waits_settled waits before shard).2 isLate⟩
        · exact absurd resumes different

include loaded vacant pooled run waits in
theorem standing_unserved (same : system.store.db = db) (calm : Undisturbed env config bucketID system)
    (alone : PromotedAlone bucketID past) (taken : (machine env).step system action = some after) :
    Standing env config bucketID db (⟨system, action⟩ :: past) after := by
  rcases step_cases taken with ⟨call, rfl, rfl⟩ | ⟨tick, rfl, rfl⟩ |
    ⟨index, call, op, next, rfl, found, issued, rfl⟩
  · exact .unserved same ⟨nofun, alone⟩
      (waits_step loaded vacant pooled run waits taken fun _ _ _ _ resumes => nomatch resumes)
  · exact .unserved same ⟨nofun, alone⟩
      (waits_step loaded vacant pooled run waits taken fun _ _ _ _ resumes => nomatch resumes)
  · rcases calm.write found with ⟨shardKey, rfl, classified⟩
    rcases waits index shardKey _ found with ⟨_, _, goesOn⟩
    rcases goesOn system.store same classified with ⟨query, unchanged, rest⟩ |
      ⟨promotion, shard, provided, returns⟩
    · refine .unserved ((congrArg Moment.db unchanged).trans same) ⟨?_, alone⟩
        (waits_step loaded vacant pooled run waits taken ?_)
      · intro promotion
        change (system.pending (.resume index : Act)).any promotes = true at promotion
        rw [issued] at promotion
        exact absurd (query.symm.trans promotion) Bool.false_ne_true
      · intro position key other following resumes present
        cases resumes
        rw [found] at present
        cases present
        exact rest
    · exact standing_promotion vacant waits same calm alone taken found issued promotion provided returns

end Unserved

/-- Every run from an unserved bucket and a filled pool, in which nothing but
writes to the bucket happens. -/
theorem run_standing {now : Time} {past : Trace} (loaded : getConfig db = .ok config)
    (vacant : forall row, row ∈ db.shards -> ¬ Live bucketID row) (pooled : 0 < countStandbyPool db)
    (run : Runs env db now past system) (calm : Run.Throughout (Undisturbed env config bucketID) past system) :
    Standing env config bucketID db past system := by
  induction run with
  | start => exact .unserved rfl trivial fun _ _ _ absent => by cases absent
  | @next past system after action earlier taken inductionHypothesis =>
      rcases Run.throughout_cons.mp calm with ⟨throughout, _⟩
      cases inductionHypothesis throughout with
      | unserved same alone waits =>
          exact standing_unserved loaded vacant pooled earlier waits same throughout.2 alone taken
      | agreed shard provided alone returns =>
          exact standing_served provided throughout.2 alone returns taken
      | split shard provided crowded settled loser =>
          exact standing_split provided throughout.2 crowded settled loser taken

end Runs

/-! ## How long a write takes -/

theorem within_promoteStandbyToActive (bucketID : String) : (promoteStandbyToActive bucketID).Within 2 := by
  refine .ask fun promoted => ?_
  cases promoted with
  | error failure => trivial
  | ok id =>
      refine .ask fun found => ?_
      cases found <;> trivial

theorem within_autoPromoteIfNoActive (bucketID : String) : (autoPromoteIfNoActive bucketID).Within 5 := by
  refine .ask fun active => ?_
  cases active with
  | some shard => trivial
  | none =>
      refine .ask fun serving => ?_
      cases serving with
      | true => trivial
      | false =>
          refine .ask fun stale => ?_
          cases stale with
          | some shard => trivial
          | none =>
              refine ((within_promoteStandbyToActive bucketID).bind fun _ => ?_ : Program.Within _ (2 + 0))
              trivial

theorem within_failoverStaleActive (bucketID : String) : (failoverStaleActive bucketID).Within 2 := by
  refine .ask fun stale => ?_
  cases stale with
  | none => trivial
  | some shard =>
      refine .ask fun rotated => ?_
      rcases rotated with failure | _
      · cases failure <;> trivial
      · trivial

theorem within_ensureActive (bucketID : String) : (ensureActive bucketID).Within 10 := by
  refine .ask fun active => ?_
  cases active with
  | some shard => trivial
  | none =>
      refine ((within_failoverStaleActive bucketID).bind fun rotated => ?_ : Program.Within _ (2 + 7))
      rcases rotated with failure | _
      · trivial
      · refine .ask fun active => ?_
        cases active with
        | some shard => trivial
        | none =>
            refine ((within_autoPromoteIfNoActive bucketID).bind fun promoted => ?_ : Program.Within _ (5 + 1))
            rcases promoted with failure | (_ | shard)
            · trivial
            · refine .ask fun active => ?_
              cases active <;> trivial
            · trivial

/-- A write issues at most twelve operations, whatever it meets. -/
theorem within_resolveWrite (env : Env) (shardKey : Key) : (body env (.resolveWrite shardKey)).Within 12 := by
  have resolves : (resolveWrite env.platform shardKey).Within 12 := by
    refine .ask fun loaded => ?_
    cases loaded with
    | error failure => trivial
    | ok config =>
        refine .ask fun now => ?_
        cases classifyWriteFor env.platform config now shardKey with
        | none => trivial
        | some route =>
            rcases route with ⟨_ | _, bucketID, reason⟩
            · refine ((within_ensureActive bucketID).bind fun ensured => ?_ : Program.Within _ (10 + 0))
              cases ensured <;> trivial
            · refine .ask fun found => ?_
              cases found <;> trivial
  refine (resolves.bind fun _ => ?_ : Program.Within _ (12 + 0))
  trivial

/-! ## All interleavings -/

/-- A call that has returned. -/
def Returned (process : Process Op Reply Outcome Call) : Prop :=
  Exists fun outcome => process.program = .finish outcome

section Conclusions

variable {env : Env} {config : ClusterConfig} {bucketID : String} {db : Db} {past : Trace} {system : System}
variable (standing : Standing env config bucketID db past system)
variable (calm : Undisturbed env config bucketID system)

include calm in
theorem write_of_mem {process : Process Op Reply Outcome Call} (member : process ∈ system.processes) :
    Exists fun index : Nat => Exists fun shardKey =>
      system.processes[index]? = some ⟨.resolveWrite shardKey, process.program⟩ := by
  rcases List.getElem?_of_mem member with ⟨index, present⟩
  rcases process with ⟨call, program⟩
  rcases calm.write present with ⟨shardKey, rfl, _⟩
  exact ⟨index, shardKey, present⟩

include calm in
/-- While the bucket is unserved no call has returned. -/
theorem not_returned_waiting
    (waits : forall (index : Nat) shardKey program,
      system.processes[index]? = some ⟨.resolveWrite shardKey, program⟩ ->
        Waits env config bucketID db shardKey (performedBy index past) program)
    {process : Process Op Reply Outcome Call} (member : process ∈ system.processes) : ¬ Returned process := by
  rintro ⟨outcome, finished⟩
  rcases write_of_mem calm member with ⟨index, shardKey, present⟩
  have waiting := waits index shardKey _ present
  rw [finished] at waiting
  exact waiting

include standing calm in
theorem sameShard_of_alone (pooled : 0 < countStandbyPool db) (alone : PromotedAlone bucketID past) :
    SameShard env bucketID system := by
  cases standing with
  | unserved same _ waits =>
      rcases List.exists_mem_of_length_pos pooled with ⟨spare, _⟩
      refine ⟨spare, fun process member outcome finished => ?_⟩
      exact absurd ⟨outcome, finished⟩ (not_returned_waiting calm waits member)
  | agreed shard provided _ returns =>
      refine ⟨shard, fun process member outcome finished => ?_⟩
      rcases write_of_mem calm member with ⟨index, shardKey, present⟩
      have answer := returns index shardKey _ present
      rw [finished] at answer
      exact answer
  | split shard provided crowded => exact absurd alone crowded

include standing in
theorem alone_of_sameShard (complete : forall process, process ∈ system.processes -> Returned process)
    (agree : SameShard env bucketID system) : PromotedAlone bucketID past := by
  cases standing with
  | unserved _ alone => exact alone
  | agreed _ _ alone => exact alone
  | split shard provided crowded settled loser =>
      rcases loser with ⟨index, shardKey, program, present, fails⟩
      have member := List.mem_of_getElem? present
      rcases complete _ member with ⟨outcome, finished⟩
      rcases agree with ⟨returned, succeeds⟩
      have success := succeeds _ member outcome finished
      change program = .finish outcome at finished
      rw [finished] at fails
      rcases fails with ⟨failure, failed⟩
      rw [success] at failed
      cases failed

include standing calm in
theorem price_of_returned {process : Process Op Reply Outcome Call} (member : process ∈ system.processes)
    (returned : Returned process) : countStandbyPool db = countStandbyPool system.store.db + 1 := by
  cases standing with
  | unserved _ _ waits => exact absurd returned (not_returned_waiting calm waits member)
  | agreed _ provided => exact provided.price
  | split _ provided => exact provided.price

end Conclusions

/-- Any number of writes to a bucket without a shard in service, in any
interleaving.  If the promotion into the bucket happens while no other call is
past its check, the calls that have returned all succeeded with the same shard.
Once all have returned this is also necessary.  In any case a call that has not
returned can go on and is done after twelve operations, and a call that has
returned means that exactly one standby was used. -/
theorem concurrent_writes_agree_iff_promoted_alone (env : Env) (db : Db) (now : Time) (config : ClusterConfig)
    (bucketID : String) (loaded : getConfig db = .ok config)
    (vacant : forall row, row ∈ db.shards -> ¬ Live bucketID row) (pooled : 0 < countStandbyPool db)
    (past : Trace) (system : System) (run : Runs env db now past system)
    (calm : Run.Throughout (Undisturbed env config bucketID) past system) :
    (PromotedAlone bucketID past -> SameShard env bucketID system) ∧
    ((forall process, process ∈ system.processes -> Returned process) ->
      SameShard env bucketID system -> PromotedAlone bucketID past) ∧
    (forall (index : Nat) process, system.processes[index]? = some process -> ¬ Returned process ->
      ((machine env).step system (.resume index)).isSome = true ∧ (performedBy index past).length < 12) ∧
    (forall process, process ∈ system.processes -> Returned process ->
      countStandbyPool db = countStandbyPool system.store.db + 1) := by
  have standing := run_standing loaded vacant pooled run calm
  refine ⟨sameShard_of_alone standing calm.2 pooled, alone_of_sameShard standing, ?_,
    fun process => price_of_returned standing calm.2⟩
  rintro index ⟨call, program⟩ present unfinished
  rcases calm.2.write present with ⟨shardKey, rfl, _⟩
  rcases run_within rfl (within_resolveWrite env shardKey) run present with ⟨left, within, total⟩
  cases program with
  | finish outcome => exact absurd ⟨outcome, rfl⟩ unfinished
  | request op next =>
      rcases within with ⟨rest, rfl, _⟩
      refine ⟨?_, by omega⟩
      simp only [Machine.step, present, Option.isSome_some]

/-! ## Two writes -/

instance (env : Env) (config : ClusterConfig) (bucketID : String) (now : Time) :
    DecidablePred (WritesTo env config bucketID now)
  | .resolveWrite _ => inferInstanceAs (Decidable (_ = _))
  | .resolveRead _ | .sealTick | .healthTick | .retentionTick | .bootstrap _ | .registerShard .. | .sealRotate _
  | .patchState .. | .setLastSeenAt .. | .reportStats .. | .reportDrainComplete _ | .reportCleaned _ => isFalse id

instance (env : Env) (config : ClusterConfig) (bucketID : String) :
    DecidablePred (Undisturbed env config bucketID) :=
  fun _ => inferInstanceAs (Decidable (_ ∧ _))

instance (bucketID : String) (earlier : Trace) (event : Event System Act) :
    Decidable (PromotesAlone bucketID earlier event) :=
  inferInstanceAs (Decidable (_ -> _ -> _))

instance decidePromotedAlone (bucketID : String) : DecidablePred (PromotedAlone bucketID)
  | [] => isTrue trivial
  | event :: earlier =>
      match decidePromotedAlone bucketID earlier with
      | isTrue alone => decidable_of_iff (PromotesAlone bucketID earlier event) (iff_self_and.mpr fun _ => alone)
      | isFalse crowded => isFalse fun alone => crowded alone.2

/-- A configured cluster with two standbys. -/
def twoStandbys : Db :=
  let first := (runAlone sampleEnv (registerShard 1 .data "a" "" "") ⟨sampleDb 100, 0⟩).2
  (runAlone sampleEnv (registerShard 2 .data "b" "" "") first).2.db

/-- Two writes to the bucket n5, resumed as often as the list says. -/
def twoWrites (turns : List (Nat × Nat)) : List Act :=
  [.start (.resolveWrite (.string "57")), .start (.resolveWrite (.string "58"))] ++
    turns.flatMap fun turn => resumes turn.1 turn.2

instance : DecidablePred Returned
  | ⟨_, .finish outcome⟩ => isTrue ⟨outcome, rfl⟩
  | ⟨_, .request _ _⟩ => isFalse (by rintro ⟨_, same⟩; cases same)

/-- While one write stands right before its promotion, another one is up to its
check.  Both return the same shard. -/
theorem concurrent_writes_agree_iff_promoted_alone_two_writes :
    Exists fun past => Exists fun system => Runs sampleEnv twoStandbys 0 past system ∧
      Run.Throughout (Undisturbed sampleEnv (sampleConfig 100) "n5") past system ∧
      (forall process, process ∈ system.processes -> Returned process) ∧ system.processes.length = 2 ∧
      SameShard sampleEnv "n5" system ∧
      countStandbyPool twoStandbys = countStandbyPool system.store.db + 1 := by
  have passed : replayCheck (machine sampleEnv).step (twoWrites [(0, 8), (1, 5), (0, 2), (1, 2)])
      (System.idle twoStandbys 0) (fun past system =>
        decide (PromotedAlone "n5" past) &&
        decide (Run.Throughout (Undisturbed sampleEnv (sampleConfig 100) "n5") past system ∧
          (forall process, process ∈ system.processes -> Returned process) ∧
          system.processes.length = 2)) = true := by
    decide +kernel
  rcases replayCheck_run passed with ⟨past, system, run, checked⟩
  rcases Bool.and_eq_true_iff.mp checked with ⟨alone, rest⟩
  rcases of_decide_eq_true rest with ⟨calm, complete, two⟩
  have vacant : forall row, row ∈ twoStandbys.shards -> ¬ Live "n5" row := by decide +kernel
  rcases concurrent_writes_agree_iff_promoted_alone sampleEnv twoStandbys 0
    (sampleConfig 100) "n5" rfl vacant (by decide +kernel) past system run calm with ⟨agree, _, _, price⟩
  rcases List.exists_mem_of_length_pos (Nat.lt_of_lt_of_eq Nat.two_pos two.symm) with ⟨process, member⟩
  exact ⟨past, system, run, calm, complete, two, agree (of_decide_eq_true alone),
    price process member (complete process member)⟩

/-- The outcome of a write whose promotion the index on active shards aborted. -/
def losesRace (process : Process Op Reply Outcome Call) : Bool :=
  match process.program with
  | .finish (.write (.error (.store .uniqueViolation))) => true
  | _ => false

/-- Two writes pass all their checks; the first promotes a standby and returns
it, and the promotion of the second fails though its bucket is served. -/
theorem promotion_race_fails_write :
    getConfig twoStandbys = .ok (sampleConfig 100) ∧
    (forall row, row ∈ twoStandbys.shards -> ¬ Live "n5" row) ∧ 0 < countStandbyPool twoStandbys ∧
    Exists fun past => Exists fun system => Runs sampleEnv twoStandbys 0 past system ∧
      Run.Throughout (Undisturbed sampleEnv (sampleConfig 100) "n5") past system ∧
      Exists fun process => process ∈ system.processes ∧
        process.program = .finish (.write (.error (.store .uniqueViolation))) := by
  have passed : replayCheck (machine sampleEnv).step (twoWrites [(0, 8), (1, 8), (0, 2), (1, 1)])
      (System.idle twoStandbys 0) (fun past system =>
        decide (Run.Throughout (Undisturbed sampleEnv (sampleConfig 100) "n5") past system) &&
        system.processes.any losesRace) = true := by
    decide +kernel
  rcases replayCheck_run passed with ⟨past, system, run, checked⟩
  rcases Bool.and_eq_true_iff.mp checked with ⟨calm, loses⟩
  rcases List.any_eq_true.mp loses with ⟨process, member, lost⟩
  have vacant : forall row, row ∈ twoStandbys.shards -> ¬ Live "n5" row := by decide +kernel
  refine ⟨rfl, vacant, by decide +kernel, past, system, run, of_decide_eq_true calm, process, member, ?_⟩
  unfold losesRace at lost
  split at lost
  · assumption
  · cases lost

end Control
end Shardman
