import Shardman.Store.Topology

namespace Shardman
namespace Store

open Fsm
open Foundation

/-!
# The life cycle of a shard

Only manual state changes consult the table of the state machine.  Every other
transaction writes states and buckets directly, under conditions of its own.
This module shows that they all keep to the table, and that a shard changes its
bucket only by entering one from the standby pool and by leaving it when it has
been cleaned.  The error shard takes no part in the cycle at all.
-/

section Rows

variable {env : Env} {op : Op} {moment : Moment} {row moved : Shard}

/-- The row that an operation makes of another is the one with its id. -/
theorem perform_moves (member : row ∈ moment.db.shards)
    (present : moved ∈ (perform env op moment).2.db.shards) (same : moved.id = row.id) :
    Moves moment.now op row moved := by
  rcases perform_moved env op member with ⟨other, otherPresent, moves⟩
  have sameID : moved.id = other.id := same.trans moves.keys.1.symm
  rw [(perform env op moment).2.db.eq_of_id present otherPresent sameID]
  exact moves

/-! ## States -/

/-- A data row stays in its state or moves along one edge of the table. -/
theorem Moves.edge {now : Time} (moves : Moves now op row moved) (data : row.role = .data) :
    moved.state = row.state ∨ canTransition .data row.state moved.state = true := by
  cases moves with
  | keep | ready | stats | seen | readdress => exact Or.inl rfl
  | promote pooled | replaceSealed pooled | replaceDrained pooled =>
      refine Or.inr ?_
      rw [pooled.2.1]
      rfl
  | sealActive serves | sealDrained serves | drain serves | clean serves =>
      refine Or.inr ?_
      rw [serves.2.2]
      rfl
  | recycle cleaning =>
      refine Or.inr ?_
      rw [cleaning]
      rfl
  | patch allowed =>
      rw [data] at allowed
      exact Or.inr allowed

/-- The operations that put a standby in service. -/
def fillsBucket (bucketID : String) : Op -> Bool
  | .promoteStandby filled | .sealRotate filled _ | .completeDrainSeal filled => filled == bucketID
  | _ => false

/-- Those operations activate rows of the standby pool only. -/
theorem Moves.activates {now : Time} {bucketID : String} (moves : Moves now op row moved)
    (fills : fillsBucket bucketID op = true) (changed : moved ≠ row) (active : moved.state = .active) :
    Pooled row := by
  cases moves with
  | keep => exact absurd rfl changed
  | promote pooled | replaceSealed pooled | replaceDrained pooled => exact pooled
  | sealActive | sealDrained => cases active
  | drain | ready | clean | recycle | patch | stats | seen | readdress => cases fills

/-- A row whose id is not in the table before an operation is one it has
registered. -/
theorem perform_registered (present : row ∈ (perform env op moment).2.db.shards)
    (new : forall source, source ∈ moment.db.shards -> source.id ≠ row.id) :
    Exists fun uuid => Exists fun role => Exists fun dsn => Exists fun advertiseURL =>
      row = registeredShard moment.db.nextID uuid role dsn advertiseURL moment.now := by
  rcases perform_row present with ⟨source, member, moves⟩ |
    ⟨uuid, role, dsn, advertiseURL, _, _, registered, _⟩
  · exact absurd moves.keys.1.symm (new source member)
  · exact ⟨uuid, role, dsn, nullStr advertiseURL, registered⟩

/-! ## Buckets -/

/-- How a row can change its bucket. -/
inductive BucketChange (op : Op) (row moved : Shard) : Prop
  | enters (bucketID : String) (fills : fillsBucket bucketID op = true) (pooled : Pooled row)
      (filled : moved.bucketID = some bucketID)
  | leaves (cleaned : op = .finishCleaning row.shardUUID) (cleaning : row.state = .cleaning)
      (freed : moved.bucketID = none)

theorem Moves.bucket {now : Time} (moves : Moves now op row moved) (changed : moved.bucketID ≠ row.bucketID) :
    BucketChange op row moved := by
  cases moves with
  | keep | sealActive | sealDrained | drain | ready | clean | patch | stats | seen | readdress =>
      exact absurd rfl changed
  | promote pooled | replaceSealed pooled | replaceDrained pooled =>
      exact .enters _ (beq_self_eq_true _) pooled rfl
  | recycle cleaning => exact .leaves rfl cleaning rfl

end Rows

/-- The transactions refine the state machine: in every database, every
operation leaves the state of a data row alone or moves it along one edge of the
table; a data row that it adds is a standby without a bucket; and an operation
that puts standbys in service activates only rows of the standby pool. -/
theorem operations_refine_state_machine (env : Env) (op : Op) (moment : Moment) :
    (forall row, row ∈ moment.db.shards -> row.role = .data ->
      Exists fun moved => moved ∈ (perform env op moment).2.db.shards ∧ moved.id = row.id ∧
        moved.role = .data ∧
        (moved.state = row.state ∨ canTransition .data row.state moved.state = true)) ∧
    (forall row, row ∈ (perform env op moment).2.db.shards -> row.role = .data ->
      (forall source, source ∈ moment.db.shards -> source.id ≠ row.id) ->
        row.state = .standby ∧ row.bucketID = none) ∧
    (forall bucketID, fillsBucket bucketID op = true ->
      forall row, row ∈ moment.db.shards ->
        forall moved, moved ∈ (perform env op moment).2.db.shards -> moved.id = row.id ->
          moved ≠ row -> moved.state = .active -> Pooled row) := by
  refine ⟨?_, ?_, ?_⟩
  · intro row member data
    rcases perform_moved env op member with ⟨moved, present, moves⟩
    rcases moves.keys with ⟨sameID, _, sameRole⟩
    exact ⟨moved, present, sameID, sameRole.trans data, moves.edge data⟩
  · intro row present data new
    rcases perform_registered present new with ⟨uuid, role, dsn, advertiseURL, rfl⟩
    have isData : role ≠ .error := by
      intro isError
      rw [isError] at data
      cases data
    exact ⟨if_neg isData, rfl⟩
  · intro bucketID fills row member moved present same changed active
    exact (perform_moves member present same).activates fills changed active

/-! ## Buckets over time -/

section Periods

variable {env : Env} {start moment : Moment} {past : History}

/-- The event frees the shard with the given id: it is in cleaning and its
cleaning is finished. -/
def FreesShard (id : Nat) (event : Event Moment StoreAct) : Prop :=
  Exists fun row => row ∈ event.state.db.shards ∧ row.id = id ∧ row.state = .cleaning ∧
    event.action = .perform (.finishCleaning row.shardUUID)

/-- A row keeps its bucket in a step that does not free it. -/
theorem RowStep.keepsBucket {now : Time} {row moved : Shard} {act : StoreAct} {bucketID : String}
    (stepped : RowStep now row moved act) (held : row.bucketID = some bucketID) :
    moved.bucketID = some bucketID ∨
      (row.state = .cleaning ∧ act = .perform (.finishCleaning row.shardUUID)) := by
  cases act with
  | perform op =>
      by_cases changed : moved.bucketID = row.bucketID
      · exact Or.inl (changed.trans held)
      · cases Moves.bucket stepped changed with
        | enters _ _ pooled =>
            rw [pooled.2.2] at held
            cases held
        | leaves cleaned cleaning => exact Or.inr ⟨cleaning, congrArg StoreAct.perform cleaned⟩
  | bumpTopologyVersion =>
      cases stepped
      exact Or.inl held
  | elapse duration =>
      cases stepped
      exact Or.inl held

/-- As long as a history does not free a shard, the shard stays in its bucket. -/
theorem history_keepsBucket (run : Histories env start past moment) {row : Shard} {bucketID : String}
    (member : row ∈ start.db.shards) (held : row.bucketID = some bucketID) :
    (Exists fun event => event ∈ past ∧ FreesShard row.id event) ∨
    (Exists fun later => later ∈ moment.db.shards ∧ later.id = row.id ∧ later.bucketID = some bucketID) := by
  induction run with
  | start => exact Or.inr ⟨row, member, rfl, held⟩
  | @next past moment after act earlier taken inductionHypothesis =>
      rcases inductionHypothesis with ⟨event, listed, frees⟩ | ⟨current, present, sameID, still⟩
      · exact Or.inl ⟨event, List.mem_cons_of_mem _ listed, frees⟩
      · rcases advance_moved taken present with ⟨moved, movedPresent, stepped⟩
        rcases stepped.keepsBucket still with kept | ⟨cleaning, rfl⟩
        · exact Or.inr ⟨moved, movedPresent, stepped.keys.1.trans sameID, kept⟩
        · exact Or.inl ⟨_, List.mem_cons_self, current, present, sameID, cleaning, rfl⟩

end Periods

/-- Buckets change in two ways only: a row of the standby pool enters the bucket
that an operation fills, and a row in cleaning leaves its bucket when its
cleaning is finished.  Hence a shard that holds a bucket at the start of a
history and another one at its end was freed in between. -/
theorem buckets_change_through_pool (env : Env) (start moment : Moment) (past : History)
    (run : Histories env start past moment) :
    (forall event, event ∈ past -> forall op, event.action = .perform op ->
      forall row, row ∈ event.state.db.shards ->
        forall moved, moved ∈ (perform env op event.state).2.db.shards -> moved.id = row.id ->
          moved.bucketID ≠ row.bucketID -> BucketChange op row moved) ∧
    (forall row, row ∈ start.db.shards -> forall moved, moved ∈ moment.db.shards -> moved.id = row.id ->
      forall first second, row.bucketID = some first -> moved.bucketID = some second -> first ≠ second ->
        Exists fun event => event ∈ past ∧ FreesShard row.id event) := by
  refine ⟨?_, ?_⟩
  · intro event _ op _ row member moved present same changed
    exact (perform_moves member present same).bucket changed
  · intro row member moved present same first second held holds different
    rcases history_keepsBucket run member held with freed | ⟨later, laterPresent, sameID, still⟩
    · exact freed
    · have isMoved : later = moved := moment.db.eq_of_id laterPresent present (sameID.trans same.symm)
      rw [isMoved, holds] at still
      exact absurd (Option.some_inj.mp still).symm different

/-- The store after the first standby has been promoted. -/
def servingMoment : Moment :=
  (roundTrip.take 4).foldl (fun moment act => (advance sampleEnv moment act).getD moment) ⟨Db.fresh, 0⟩

/-- Shard 1 goes on from the bucket n5 to n6, and is freed on the way. -/
theorem buckets_change_through_pool_round :
    Exists fun past => Exists fun moment => Histories sampleEnv servingMoment past moment ∧
      Exists fun event => event ∈ past ∧ FreesShard 1 event := by
  have before : Exists fun row => row ∈ servingMoment.db.shards ∧ row.id = 1 ∧ row.bucketID = some "n5" := by
    decide +kernel
  have passed : replayCheck (advance sampleEnv) (roundTrip.drop 4 ++ [.perform (.promoteStandby "n6")])
      servingMoment (fun _ moment => decide (Exists fun row => row ∈ moment.db.shards ∧ row.id = 1 ∧
        row.bucketID = some "n6")) = true := by
    decide +kernel
  rcases replayCheck_run passed with ⟨past, moment, run, checked⟩
  rcases before with ⟨row, member, first, held⟩
  rcases of_decide_eq_true checked with ⟨moved, present, same, holds⟩
  have freed := (buckets_change_through_pool sampleEnv servingMoment moment past run).2 row member moved present
    (same.trans first.symm) "n5" "n6" held holds (by decide)
  rw [first] at freed
  exact ⟨past, moment, run, freed⟩

/-! ## What a history never takes back -/

/-- What holds from any moment of a history on: time does not run back, no row
disappears or changes its keys or its limit, and a configuration stays. -/
structure Continues (earlier later : Moment) : Prop where
  elapsed : earlier.now <= later.now
  rows : forall row, row ∈ earlier.db.shards -> Exists fun moved => moved ∈ later.db.shards ∧
    moved.id = row.id ∧ moved.shardUUID = row.shardUUID ∧ moved.role = row.role ∧
    moved.maxBytes = row.maxBytes
  config : forall config, getConfig earlier.db = .ok config -> getConfig later.db = .ok config

theorem continues_refl (moment : Moment) : Continues moment moment where
  elapsed := Int.le_refl _
  rows row member := ⟨row, member, rfl, rfl, rfl, rfl⟩
  config _ loaded := loaded

theorem continues_trans (first second third : Moment) (earlier : Continues first second)
    (later : Continues second third) : Continues first third where
  elapsed := Int.le_trans earlier.elapsed later.elapsed
  rows row member := by
    rcases earlier.rows row member with ⟨middle, middleMember, id, uuid, role, limit⟩
    rcases later.rows middle middleMember with ⟨last, lastMember, lastID, lastUUID, lastRole, lastLimit⟩
    exact ⟨last, lastMember, lastID.trans id, lastUUID.trans uuid, lastRole.trans role, lastLimit.trans limit⟩
  config config loaded := later.config config (earlier.config config loaded)

theorem RowStep.limit {now : Time} {row moved : Shard} {act : StoreAct}
    (stepped : RowStep now row moved act) : moved.maxBytes = row.maxBytes := by
  cases act with
  | perform op => cases stepped <;> rfl
  | bumpTopologyVersion =>
      cases stepped
      rfl
  | elapse duration =>
      cases stepped
      rfl

theorem TopologyStep.config {before after : Db} (stepped : TopologyStep before after) :
    getConfig after = getConfig before := by
  cases stepped with
  | kept cluster view => rw [getConfig, getConfig, cluster]
  | advanced cluster => exact getConfig_bumped cluster

theorem advance_continues {env : Env} {moment after : Moment} {act : StoreAct}
    (taken : advance env moment act = some after) : Continues moment after where
  elapsed := by
    cases act with
    | perform op =>
        cases taken
        exact Int.le_of_eq (perform_now env op moment).symm
    | bumpTopologyVersion =>
        cases taken
        exact Int.le_refl _
    | elapse duration =>
        cases taken
        exact Int.le_add_of_nonneg_right (Int.natCast_nonneg duration)
  rows row member := by
    rcases advance_moved taken member with ⟨moved, present, stepped⟩
    rcases stepped.keys with ⟨id, uuid, role⟩
    exact ⟨moved, present, id, uuid, role, stepped.limit⟩
  config config loaded := by
    have booted : moment.db.cluster ≠ none := by
      intro absent
      rw [getConfig, absent] at loaded
      cases loaded
    rw [(advance_topology taken booted).config, loaded]

/-! ## The error shard -/

/-- The error shard serves without a bucket. -/
def ServesErrors (row : Shard) : Prop := row.role = .error -> row.state = .active ∧ row.bucketID = none

theorem servesErrors_registered (id : Nat) (uuid : UUID) (role : Role) (dsn : String)
    (advertiseURL : Option String) (now : Time) :
    ServesErrors (registeredShard id uuid role dsn advertiseURL now) :=
  fun isError => ⟨if_pos isError, rfl⟩

/-- No operation moves the error shard: those with a bucket ask for a data row,
and the others for a state that the error shard is never in. -/
theorem servesErrors_moves {now : Time} {op : Op} {row moved : Shard} (moves : Moves now op row moved)
    (serves : ServesErrors row) : ServesErrors moved := by
  intro isError
  rw [moves.keys.2.2] at isError
  rcases serves isError with ⟨active, unassigned⟩
  have notData : row.role ≠ .data := by
    rw [isError]
    exact Role.noConfusion
  cases moves with
  | keep | ready | stats | seen | readdress => exact ⟨active, unassigned⟩
  | promote pooled | replaceSealed pooled | replaceDrained pooled => exact absurd pooled.1 notData
  | sealActive inState | sealDrained inState | drain inState | clean inState =>
      exact absurd inState.1 notData
  | recycle cleaning =>
      rw [active] at cleaning
      cases cleaning
  | @patch newState row allowed =>
      -- From active, the table of the error role allows only active again.
      rw [isError, active] at allowed
      refine ⟨?_, unassigned⟩
      cases newState with
      | active => rfl
      | standby | draining | sealed | cleaning => cases allowed

/-- In every history, whoever issues its operations, there is at most one error
shard at any time; it is active and has no bucket; and an error shard that was
there at any earlier moment is still there. -/
theorem error_shard_stays_in_service (env : Env) (start moment : Moment) (past : History)
    (initial : forall row, row ∈ start.db.shards -> row.role = .error ->
      row.state = .active ∧ row.bucketID = none)
    (run : Histories env start past moment) :
    (forall row, row ∈ moment.db.shards -> row.role = .error ->
      row.state = .active ∧ row.bucketID = none ∧
        forall other, other ∈ moment.db.shards -> other.role = .error -> other = row) ∧
    (forall event, event ∈ past -> forall row, row ∈ event.state.db.shards -> row.role = .error ->
      Exists fun later => later ∈ moment.db.shards ∧ later.id = row.id ∧
        later.shardUUID = row.shardUUID ∧ later.role = .error ∧ later.state = .active ∧
        later.bucketID = none) := by
  have serving : forall row, row ∈ moment.db.shards -> ServesErrors row := by
    refine rows_preserved ServesErrors (fun _ => True) servesErrors_registered ?_ initial run (fun _ _ => trivial)
    intro now row moved act _ stepped serves
    cases act with
    | perform op => exact servesErrors_moves stepped serves
    | bumpTopologyVersion =>
        cases stepped
        exact serves
    | elapse duration =>
        cases stepped
        exact serves
  have related := Run.states_related Continues continues_trans (fun _ _ _ => advance_continues) run
  refine ⟨?_, ?_⟩
  · intro row member isError
    rcases serving row member isError with ⟨active, unassigned⟩
    refine ⟨active, unassigned, ?_⟩
    intro other otherMember otherError
    have keyed : errorKey other = errorKey row := by rw [errorKey, errorKey, otherError, isError]
    refine moment.db.eq_of_id otherMember member (moment.db.oneError other otherMember row member ?_ keyed)
    rw [errorKey, if_pos otherError]
    exact Option.some_ne_none _
  · intro event listed row member isError
    have visited : event.state ∈ past.map Event.state := List.mem_map.mpr ⟨event, listed, rfl⟩
    rcases ((List.pairwise_cons.mp related).1 event.state visited).rows row member with
      ⟨later, present, id, uuid, role, _⟩
    have laterError : later.role = .error := role.trans isError
    rcases serving later present laterError with ⟨active, unassigned⟩
    exact ⟨later, present, id, uuid, laterError, active, unassigned⟩

/-- An error shard is registered, its heartbeat is set far back, it reports more
than its limit, and every operation on single shards is tried on it. -/
def errorShardTrials : List StoreAct :=
  [.perform (.bootstrap (sampleConfig 100)), .perform (.registerShard 7 .error "e" "" ""),
    .perform (.registerShard 8 .error "f" "" ""), .perform (.setLastSeenAt 7 (-1000000000000)),
    .perform (.updateStats 7 1000), .perform (.markDrainReady 7), .perform (.finishCleaning 7),
    .perform (.patchState 1 .sealed), .perform (.patchState 1 .active), .perform (.promoteStandby "n5")]

/-- After all of this the first error shard is there and no other. -/
theorem error_shard_stays_in_service_tried :
    Exists fun past => Exists fun moment => Histories sampleEnv ⟨Db.fresh, 0⟩ past moment ∧
      Exists fun row => row ∈ moment.db.shards ∧ row.role = .error ∧ row.shardUUID = 7 ∧
        row.state = .active ∧ row.bucketID = none ∧
        forall other, other ∈ moment.db.shards -> other.role = .error -> other = row := by
  have passed : replayCheck (advance sampleEnv) errorShardTrials ⟨Db.fresh, 0⟩ (fun _ moment =>
      decide (Exists fun row => row ∈ moment.db.shards ∧ row.role = .error ∧ row.shardUUID = 7)) = true := by
    decide +kernel
  rcases replayCheck_run passed with ⟨past, moment, run, checked⟩
  rcases of_decide_eq_true checked with ⟨row, member, isError, uuid⟩
  have stays := error_shard_stays_in_service sampleEnv ⟨Db.fresh, 0⟩ moment past
    (fun _ absent => absurd absent List.not_mem_nil) run
  exact ⟨past, moment, run, row, member, isError, uuid, stays.1 row member isError⟩

end Store
end Shardman
