import Shardman.Control.System

namespace Shardman
namespace Control

open Fsm
open Bucket
open Store
open Foundation

/-!
# What calls issue and return

Some operations are only ever issued under a condition that the database does
not check.  A rotation of the health check is issued for a row that was found
stale, a drain begins for a bucket of which a full row was listed, and only
administrators set states by hand.  The outcome of a call is likewise made of
rows that its queries have returned.

This module walks once through the programs of all calls.  It records for every
operation the grounds on which it is issued, and for every outcome the replies
it comes from.  What the other modules need to know about the programs of calls
they take from here.
-/

/-! ## Grounds of operations -/

/-- The calls that resolve a key. -/
def resolvesKey : Call -> Bool
  | .resolveWrite _ | .resolveRead _ => true
  | _ => false

/-- The grounds on which a call issues an operation, after the exchanges that it
has had with the store, newest first.  Queries need none. -/
def Grounds (env : Env) (call : Call) (done : List (Sigma Reply)) (op : Op) : Prop :=
  match op with
  | .bootstrap config => call = .bootstrap config
  | .registerShard uuid role dsn advertiseURL startupState =>
      call = .registerShard uuid role dsn advertiseURL startupState
  | .promoteStandby _ => resolvesKey call = true
  | .sealRotate bucketID .admin => call = .sealRotate bucketID
  | .sealRotate bucketID (.failover stale) =>
      (resolvesKey call = true ∧ (⟨.staleActiveForBucket bucketID, some stale⟩ : Sigma Reply) ∈ done) ∨
      (call = .healthTick ∧ Exists fun silent => (⟨.listStaleActives, silent⟩ : Sigma Reply) ∈ done ∧
        stale ∈ silent ∧ stale.bucketID = some bucketID)
  | .beginDrain bucketID => call = .sealTick ∧ Exists fun config => Exists fun need =>
      (⟨.getConfig, .ok config⟩ : Sigma Reply) ∈ done ∧
      (⟨.shardsNeedingSeal config.shardMaxBytes, need⟩ : Sigma Reply) ∈ done ∧
      Exists fun row => row ∈ need ∧ row.bucketID = some bucketID
  | .completeDrainSeal bucketID => call = .sealTick ∧ Exists fun draining => Exists fun now =>
      (⟨.shardsDraining, draining⟩ : Sigma Reply) ∈ done ∧ (⟨.clock, now⟩ : Sigma Reply) ∈ done ∧
      Exists fun row => row ∈ draining ∧ row.bucketID = some bucketID ∧ drainDone env now row = true
  | .markBucketCleaning bucketID =>
      call = .retentionTick ∧ Exists fun rest => done = ⟨.hasActiveInBucket bucketID, false⟩ :: rest
  | .markDrainReady uuid => call = .reportDrainComplete uuid
  | .finishCleaning uuid => call = .reportCleaned uuid
  | .patchState id newState => call = .patchState id newState
  | .updateStats uuid reportedBytes => call = .reportStats uuid reportedBytes
  | .setLastSeenAt uuid instant => call = .setLastSeenAt uuid instant
  | .clock | .getConfig | .getTopologyVersion | .listShards | .getShardByID _ | .getShardByUUID _ | .getErrorShard
  | .activeForBucket _ | .staleActiveForBucket _ | .listStaleActives | .shardsForBucketRead _ | .hasActiveInBucket _
  | .distinctBucketIDs | .shardsNeedingSeal _ | .countStandbyPool | .shardsDraining => True

/-! ## Sources of outcomes -/

/-- The bucket of a key, by the configuration and the instant that a call was
given. -/
def Chosen (platform : Platform) (shardKey : Key) (bucketID : String) (done : List (Sigma Reply)) : Prop :=
  Exists fun config => Exists fun now => Exists fun route =>
    (⟨.getConfig, .ok config⟩ : Sigma Reply) ∈ done ∧ (⟨.clock, now⟩ : Sigma Reply) ∈ done ∧
    classifyWriteFor platform config now shardKey = some route ∧ route.kind = .bucket ∧
    route.bucketID = bucketID

/-- A call does not forget what it was told. -/
theorem Chosen.later {platform : Platform} {shardKey : Key} {bucketID : String} {done after : List (Sigma Reply)}
    (chosen : Chosen platform shardKey bucketID done) (longer : done <:+ after) :
    Chosen platform shardKey bucketID after := by
  rcases chosen with ⟨config, now, route, loaded, clock, classified⟩
  exact ⟨config, now, route, longer.subset loaded, longer.subset clock, classified⟩

theorem chosen_of_classified {platform : Platform} {shardKey : Key} {config : ClusterConfig} {now : Time}
    {route : WriteRoute} (classified : classifyWriteFor platform config now shardKey = some route)
    (routed : route.kind = .bucket) :
    Chosen platform shardKey route.bucketID [⟨.clock, now⟩, ⟨.getConfig, .ok config⟩] :=
  ⟨config, now, route, List.mem_cons_of_mem _ List.mem_cons_self, List.mem_cons_self, classified, routed, rfl⟩

/-- The last query of a call gave it a row: the active shard of the bucket, or
the shard that the call has just promoted into it. -/
inductive Given (bucketID : String) (shard : Shard) : List (Sigma Reply) -> Prop
  | active (rest : List (Sigma Reply)) : Given bucketID shard (⟨.activeForBucket bucketID, some shard⟩ :: rest)
  | promoted (id : Nat) (rest : List (Sigma Reply)) :
      Given bucketID shard (⟨.getShardByID id, some shard⟩ :: ⟨.promoteStandby bucketID, .ok id⟩ :: rest)

/-- Where the result of a write comes from. -/
inductive WriteSource (platform : Platform) (shardKey : Key) (done : List (Sigma Reply)) :
    Except ResolveError WriteResult -> Prop
  | failed (failure : ResolveError) : WriteSource platform shardKey done (.error failure)
  | error {reason : Option RouteReason} {shard : Shard} (found : ⟨.getErrorShard, some shard⟩ ∈ done) :
      WriteSource platform shardKey done (.ok (writeResult platform .error errorBucketID reason shard))
  | bucket {bucketID : String} {shard : Shard} (chosen : Chosen platform shardKey bucketID done)
      (given : Given bucketID shard done) :
      WriteSource platform shardKey done (.ok (writeResult platform .bucket bucketID none shard))

/-- Where the result of a read comes from. -/
inductive ReadSource (platform : Platform) (shardKey : Key) (done : List (Sigma Reply)) :
    Except ResolveError ReadResult -> Prop
  | failed (failure : ResolveError) : ReadSource platform shardKey done (.error failure)
  | evicted {reason : Option RouteReason} : ReadSource platform shardKey done (.ok ⟨.error, "", reason, []⟩)
  | error {reason : Option RouteReason} {shard : Shard} (found : ⟨.getErrorShard, some shard⟩ ∈ done) :
      ReadSource platform shardKey done (.ok ⟨.error, errorBucketID, reason, [readShard platform shard]⟩)
  | uncovered {bucketID : String} {shard : Shard} (chosen : Chosen platform shardKey bucketID done)
      (told : ⟨.shardsForBucketRead bucketID, []⟩ ∈ done) (given : Given bucketID shard done) :
      ReadSource platform shardKey done (.ok ⟨.bucket, bucketID, none, [readShard platform shard]⟩)
  | covered {bucketID : String} {rows : List Shard} (chosen : Chosen platform shardKey bucketID done)
      (told : ⟨.shardsForBucketRead bucketID, rows⟩ ∈ done) :
      ReadSource platform shardKey done (.ok ⟨.bucket, bucketID, none, rows.map (readShard platform)⟩)

/-- Where the outcome of a call comes from.  Outcomes that carry no row have no
source. -/
inductive Source (env : Env) (done : List (Sigma Reply)) : Call -> Outcome -> Prop
  | write {shardKey : Key} {result : Except ResolveError WriteResult}
      (source : WriteSource env.platform shardKey done result) :
      Source env done (.resolveWrite shardKey) (.write result)
  | read {shardKey : Key} {result : Except ResolveError ReadResult}
      (source : ReadSource env.platform shardKey done result) :
      Source env done (.resolveRead shardKey) (.read result)
  | registered {call : Call} {id : Nat} {shard : Shard} (found : ⟨.getShardByID id, some shard⟩ ∈ done) :
      Source env done call (.registered (.ok shard))
  | unregistered {call : Call} {failure : StoreError} : Source env done call (.registered (.error failure))
  | ticked {call : Call} : Source env done call .ticked
  | retained {call : Call} {result : Except ResolveError Unit} : Source env done call (.retained result)
  | stats {call : Call} {result : Except StoreError (Option State)} : Source env done call (.stats result)
  | acknowledged {call : Call} {result : Except StoreError Unit} : Source env done call (.acknowledged result)

/-! ## Finding a shard for a bucket -/

section Resolving

variable {env : Env} {call : Call} (resolves : resolvesKey call = true) {done : List (Sigma Reply)}

/-- A row that is returned was given. -/
def ReturnsGiven (bucketID : String) (after : List (Sigma Reply)) (outcome : Except StoreError Shard) : Prop :=
  forall shard, outcome = .ok shard -> Given bucketID shard after

theorem returnsGiven_error {bucketID : String} {failure : StoreError} :
    ReturnsGiven bucketID done (.error failure) := by
  intro shard same
  cases same

theorem returnsGiven_ok {bucketID : String} {shard : Shard} (given : Given bucketID shard done) :
    ReturnsGiven bucketID done (.ok shard) := by
  intro returned same
  cases same
  exact given

/-- A shard that `autoPromoteIfNoActive` returns was given. -/
def PromotesGiven (bucketID : String) (after : List (Sigma Reply))
    (outcome : Except StoreError (Option Shard)) : Prop :=
  forall shard, outcome = .ok (some shard) -> Given bucketID shard after

theorem promotesGiven_map {bucketID : String} {outcome : Except StoreError Shard}
    (given : ReturnsGiven bucketID done outcome) : PromotesGiven bucketID done (outcome.map some) := by
  intro shard same
  cases outcome with
  | error failure => cases same
  | ok returned =>
      cases same
      exact given shard rfl

include resolves

theorem follows_promoteStandbyToActive (bucketID : String) :
    (promoteStandbyToActive bucketID).Follows (Grounds env call) (ReturnsGiven bucketID) done := by
  refine .ask resolves fun promoted => ?_
  cases promoted with
  | error failure => exact .finish returnsGiven_error
  | ok id =>
      refine .ask trivial fun found => ?_
      cases found with
      | none => exact .finish returnsGiven_error
      | some shard => exact .finish (returnsGiven_ok (.promoted id done))

theorem follows_autoPromoteIfNoActive (bucketID : String) :
    (autoPromoteIfNoActive bucketID).Follows (Grounds env call) (PromotesGiven bucketID) done := by
  refine .ask trivial fun active => ?_
  cases active with
  | some shard => exact .finish (fun _ same => by cases same)
  | none =>
      refine .ask trivial fun inService => ?_
      cases inService with
      | true => exact .finish (fun _ same => by cases same)
      | false =>
          refine .ask trivial fun stale => ?_
          cases stale with
          | some shard => exact .finish (fun _ same => by cases same)
          | none =>
              exact .bind (follows_promoteStandbyToActive resolves bucketID)
                fun _ _ _ given => .finish (promotesGiven_map given)

theorem follows_failoverStaleActive (bucketID : String) :
    (failoverStaleActive bucketID).Follows (Grounds env call) (fun _ _ => True) done := by
  refine .ask trivial fun stale => ?_
  cases stale with
  | none => exact .finish trivial
  | some stale =>
      refine .ask (Or.inl ⟨resolves, List.mem_cons_self⟩) fun rotated => ?_
      split <;> exact .finish trivial

theorem follows_ensureActive (bucketID : String) :
    (ensureActive bucketID).Follows (Grounds env call) (ReturnsGiven bucketID) done := by
  refine .ask trivial fun active => ?_
  cases active with
  | some shard => exact .finish (returnsGiven_ok (.active done))
  | none =>
      refine .bind (follows_failoverStaleActive resolves bucketID) fun after rotated _ _ => ?_
      cases rotated with
      | error failure => exact .finish returnsGiven_error
      | ok rotated =>
          refine .ask trivial fun active => ?_
          cases active with
          | some shard => exact .finish (returnsGiven_ok (.active after))
          | none =>
              refine .bind (follows_autoPromoteIfNoActive resolves bucketID) fun later promoted _ given => ?_
              match promoted with
              | .error failure => exact .finish returnsGiven_error
              | .ok (some shard) => exact .finish (returnsGiven_ok (given shard rfl))
              | .ok none =>
                  refine .ask trivial fun active => ?_
                  cases active with
                  | some shard => exact .finish (returnsGiven_ok (.active later))
                  | none => exact .finish returnsGiven_error

end Resolving

/-! ## The programs of calls -/

section Programs

variable {env : Env} {call : Call}

theorem follows_resolveWrite (shardKey : Key) :
    (resolveWrite env.platform shardKey).Follows (Grounds env (.resolveWrite shardKey))
      (WriteSource env.platform shardKey) [] := by
  refine .ask trivial fun loaded => ?_
  cases loaded with
  | error failure => exact .finish (.failed _)
  | ok config =>
      refine .ask trivial fun now => ?_
      cases classified : classifyWriteFor env.platform config now shardKey with
      | none => exact .finish (.failed _)
      | some route =>
          cases routed : route.kind with
          | error =>
              simp only [routed]
              refine .ask trivial fun found => ?_
              cases found with
              | none => exact .finish (.failed _)
              | some shard => exact .finish (.error List.mem_cons_self)
          | bucket =>
              simp only [routed]
              refine .bind (follows_ensureActive rfl route.bucketID) fun after provided longer given => ?_
              cases provided with
              | error failure => exact .finish (.failed _)
              | ok shard =>
                  exact .finish (.bucket ((chosen_of_classified classified routed).later longer) (given shard rfl))

theorem follows_resolveRead (shardKey : Key) :
    (resolveRead env.platform shardKey).Follows (Grounds env (.resolveRead shardKey))
      (ReadSource env.platform shardKey) [] := by
  refine .ask trivial fun loaded => ?_
  cases loaded with
  | error failure => exact .finish (.failed _)
  | ok config =>
      refine .ask trivial fun now => ?_
      cases classified : classifyReadFor env.platform config now shardKey with
      | none => exact .finish (.failed _)
      | some route =>
          cases routed : route.kind with
          | error =>
              by_cases evicted : route.reason = some .evicted
              · simp only [routed, if_pos evicted]
                exact .finish .evicted
              · simp only [routed, if_neg evicted]
                refine .ask trivial fun found => ?_
                cases found with
                | none => exact .finish (.failed _)
                | some shard => exact .finish (.error List.mem_cons_self)
          | bucket =>
              simp only [routed]
              refine .ask trivial fun rows => ?_
              have chosen : Chosen env.platform shardKey route.bucketID
                  [⟨.shardsForBucketRead route.bucketID, rows⟩, ⟨.clock, now⟩, ⟨.getConfig, .ok config⟩] :=
                (chosen_of_classified classified routed).later (List.suffix_cons _ _)
              by_cases uncovered : rows = []
              · subst uncovered
                simp only [if_true]
                refine .bind (follows_ensureActive rfl route.bucketID) fun after provided longer given => ?_
                cases provided with
                | error failure => exact .finish (.failed _)
                | ok shard =>
                    exact .finish
                      (.uncovered (chosen.later longer) (longer.subset List.mem_cons_self) (given shard rfl))
              · simp only [if_neg uncovered]
                exact .finish (.covered chosen List.mem_cons_self)

theorem follows_completeDrains {now : Time} {draining : List Shard} (shards : List Shard)
    (listed : shards ⊆ draining) (done : List (Sigma Reply)) (told : ⟨.shardsDraining, draining⟩ ∈ done)
    (clock : ⟨.clock, now⟩ ∈ done) :
    (completeDrains env now shards).Follows (Grounds env .sealTick) (fun _ _ => True) done := by
  induction shards generalizing done with
  | nil => exact .finish trivial
  | cons shard rest inductionHypothesis =>
      rcases List.cons_subset.mp listed with ⟨member, others⟩
      unfold completeDrains
      cases bucket : shard.bucketID with
      | none => exact inductionHypothesis others done told clock
      | some bucketID =>
          cases finished : drainDone env now shard with
          | false => exact inductionHypothesis others done told clock
          | true =>
              refine .ask ⟨rfl, draining, now, told, clock, shard, member, bucket, finished⟩ fun reply => ?_
              exact inductionHypothesis others _ (List.mem_cons_of_mem _ told) (List.mem_cons_of_mem _ clock)

theorem follows_beginDrains (config : ClusterConfig) {need : List Shard} (shards : List Shard)
    (listed : shards ⊆ need) (done : List (Sigma Reply)) (loaded : ⟨.getConfig, .ok config⟩ ∈ done)
    (told : ⟨.shardsNeedingSeal config.shardMaxBytes, need⟩ ∈ done) :
    (beginDrains shards).Follows (Grounds env .sealTick) (fun _ _ => True) done := by
  induction shards generalizing done with
  | nil => exact .finish trivial
  | cons shard rest inductionHypothesis =>
      rcases List.cons_subset.mp listed with ⟨member, others⟩
      unfold beginDrains
      cases bucket : shard.bucketID with
      | none => exact inductionHypothesis others done loaded told
      | some bucketID =>
          refine .ask ⟨rfl, config, need, loaded, told, shard, member, bucket⟩ fun reply => ?_
          exact inductionHypothesis others _ (List.mem_cons_of_mem _ loaded) (List.mem_cons_of_mem _ told)

theorem follows_sealTick : (sealTick env).Follows (Grounds env .sealTick) (fun _ _ => True) [] := by
  refine .ask trivial fun loaded => ?_
  cases loaded with
  | error failure => exact .finish trivial
  | ok config =>
      refine .ask trivial fun draining => .ask trivial fun now => ?_
      refine .bind (follows_completeDrains draining (List.Subset.refl _) _
        (List.mem_cons_of_mem _ List.mem_cons_self) List.mem_cons_self) fun after _ longer _ => ?_
      refine .ask trivial fun need => ?_
      refine .bind (follows_beginDrains config need (List.Subset.refl _) _ ?_ List.mem_cons_self)
        fun _ _ _ _ => .ask trivial fun _ => .finish trivial
      refine List.mem_cons_of_mem _ (longer.subset ?_)
      exact List.mem_cons_of_mem _ (List.mem_cons_of_mem _ List.mem_cons_self)

theorem follows_failoverAll {silent : List Shard} (shards : List Shard) (listed : shards ⊆ silent)
    (done : List (Sigma Reply)) (told : ⟨.listStaleActives, silent⟩ ∈ done) :
    (failoverAll shards).Follows (Grounds env .healthTick) (fun _ _ => True) done := by
  induction shards generalizing done with
  | nil => exact .finish trivial
  | cons shard rest inductionHypothesis =>
      rcases List.cons_subset.mp listed with ⟨member, others⟩
      unfold failoverAll
      cases bucket : shard.bucketID with
      | none => exact inductionHypothesis others done told
      | some bucketID =>
          refine .ask (Or.inr ⟨rfl, silent, told, member, bucket⟩) fun _ => ?_
          exact inductionHypothesis others _ (List.mem_cons_of_mem _ told)

theorem follows_cleanBuckets (buckets : List String) (done : List (Sigma Reply)) :
    (cleanBuckets buckets).Follows (Grounds env .retentionTick) (fun _ _ => True) done := by
  induction buckets generalizing done with
  | nil => exact .finish trivial
  | cons bucketID rest inductionHypothesis =>
      unfold cleanBuckets
      refine .ask trivial fun active => ?_
      cases active with
      | true => exact inductionHypothesis _
      | false => exact .ask ⟨rfl, done, rfl⟩ fun _ => inductionHypothesis _

theorem follows_retentionTick : retentionTick.Follows (Grounds env .retentionTick) (fun _ _ => True) [] := by
  refine .ask trivial fun loaded => ?_
  cases loaded with
  | error failure => exact .finish trivial
  | ok config =>
      simp only
      split
      · refine .ask trivial fun now => .ask trivial fun known => ?_
        split
        · exact .finish trivial
        · exact .bind (follows_cleanBuckets _ _) fun _ _ _ _ => .finish trivial
      · exact .finish trivial

end Programs

/-- Every call issues its operations on their grounds, and returns what it was
given. -/
theorem follows_body (env : Env) (call : Call) :
    (body env call).Follows (Grounds env call) (fun done outcome => Source env done call outcome) [] := by
  cases call with
  | resolveWrite shardKey => exact .bind (follows_resolveWrite shardKey) fun _ _ _ source => .finish (.write source)
  | resolveRead shardKey => exact .bind (follows_resolveRead shardKey) fun _ _ _ source => .finish (.read source)
  | sealTick => exact .bind follows_sealTick fun _ _ _ _ => .finish .ticked
  | healthTick =>
      refine .ask trivial fun silent => ?_
      exact .bind (follows_failoverAll silent (List.Subset.refl _) _ List.mem_cons_self)
        fun _ _ _ _ => .finish .ticked
  | retentionTick => exact .bind follows_retentionTick fun _ _ _ _ => .finish .retained
  | registerShard uuid role dsn advertiseURL startupState =>
      refine .ask rfl fun registered => ?_
      cases registered with
      | error failure => exact .finish .unregistered
      | ok id =>
          refine .ask trivial fun found => ?_
          cases found with
          | none => exact .finish .unregistered
          | some shard => exact .finish (.registered List.mem_cons_self)
  | reportStats uuid reportedBytes =>
      refine .ask rfl fun updated => ?_
      cases updated with
      | error failure => exact .finish .stats
      | ok updated => exact .ask trivial fun _ => .finish .stats
  | bootstrap | sealRotate | patchState | setLastSeenAt | reportDrainComplete | reportCleaned =>
      exact .ask rfl fun _ => .finish .acknowledged

/-! ## Runs -/

section Runs

variable {env : Env} {db : Db} {now : Time} {past : Trace} {system : System} {index : Nat} {call : Call}

/-- What a process is about to issue has its grounds in what the process was
told. -/
theorem run_grounds (run : Runs env db now past system) {op : Op} {next : Reply op -> Routine Outcome}
    (present : system.processes[index]? = some ⟨call, .request op next⟩) :
    Grounds env call (exchanges (machine env) index past) op :=
  (run_follows rfl (follows_body env call) run present).1

theorem run_source (run : Runs env db now past system) {outcome : Outcome}
    (finished : system.processes[index]? = some ⟨call, .finish outcome⟩) :
    Source env (exchanges (machine env) index past) call outcome := by
  have follows := run_follows rfl (follows_body env call) run finished
  exact follows

/-- A row that is not written stays stale. -/
theorem stale_later {earlier later : Time} {row : Shard} (elapsed : earlier <= later)
    (stale : ¬ Fresh env earlier row) : ¬ Fresh env later row := by
  intro fresh
  apply stale
  unfold Fresh at fresh ⊢
  cases seen : row.lastSeenAt with
  | none => simp only [seen] at fresh
  | some instant =>
      simp only [seen] at fresh ⊢
      exact Int.le_trans (Int.sub_le_sub_right elapsed _) fresh

/-- A failover is issued because of a row that was found stale. -/
theorem run_failover_stale (run : Runs env db now past system) {bucketID : String} {stale : Shard}
    {next : Reply (.sealRotate bucketID (.failover stale)) -> Routine Outcome}
    (present : system.processes[index]? = some ⟨call, .request (.sealRotate bucketID (.failover stale)) next⟩) :
    ¬ Fresh env system.store.now stale := by
  rcases run_grounds run present with ⟨_, told⟩ | ⟨_, silent, told, member, _⟩
  · rcases exchanges_mem told with ⟨event, listed, _, _, reply⟩
    have found : staleActiveForBucket env event.state.store.now event.state.store.db bucketID = some stale := reply
    exact stale_later (run_continues run listed).elapsed (scan_head_some found).2.2
  · rcases exchanges_mem told with ⟨event, listed, _, _, reply⟩
    have found : listStaleActives env event.state.store.now event.state.store.db = silent := reply
    rw [← found] at member
    exact stale_later (run_continues run listed).elapsed (of_decide_eq_true (List.mem_filter.mp member).2).2.2.2

end Runs

/-! ## Systems without their past -/

/-- Every process issues its operations on some grounds. -/
def AllGrounded (env : Env) (system : System) : Prop :=
  forall process, process ∈ system.processes -> Exists fun done =>
    process.program.Follows (Grounds env process.entry) (fun done outcome => Source env done process.entry outcome) done

theorem step_allGrounded {env : Env} {system after : System} {action : Act}
    (held : AllGrounded env system) (taken : (machine env).step system action = some after) :
    AllGrounded env after := by
  refine processes_preserved (fun process _ => Exists fun done => process.program.Follows (Grounds env process.entry)
    (fun done outcome => Source env done process.entry outcome) done)
    (fun call => ⟨[], follows_body env call⟩) ?_ ?_ held taken
  · intro process _ grounded
    exact grounded
  · intro call op next _ grounded
    rcases grounded with ⟨done, follows⟩
    exact ⟨_, follows.2 _⟩

theorem AllGrounded.grounds {env : Env} {system : System} (held : AllGrounded env system) {index : Nat}
    {call : Call} {op : Op} {next : Reply op -> Routine Outcome}
    (found : system.processes[index]? = some ⟨call, .request op next⟩) :
    Exists fun done => Grounds env call done op := by
  rcases held _ (List.mem_of_getElem? found) with ⟨done, follows⟩
  exact ⟨done, follows.1⟩

end Control
end Shardman
