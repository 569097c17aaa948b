import Shardman.Control.Issued

namespace Shardman
namespace Control

open Fsm
open Bucket
open Store
open Foundation

/-!
# Reads and the history of shards

A shard that was active for a bucket holds rows of that bucket until it is
cleaned.  This module follows the shards of a bucket through whole runs and
compares them with what reads return.  The history of a run is the list of its
databases, newest first; whether a shard has served a bucket is read off it.
-/

/-- The databases of a run, newest first. -/
def databases (past : Trace) (system : System) : List Db :=
  system.store.db :: past.map fun event => event.state.store.db

/-- Going back in time, the shard was active for the bucket before it was last
on standby; and it is not being cleaned. -/
def hasServed (id : Nat) (bucketID : String) : List Db -> Bool
  | [] => false
  | db :: older =>
      match getShardByID db id with
      | none => false
      | some row =>
          if row.state = .standby ∨ row.state = .cleaning then false
          else if row.state = .active ∧ row.bucketID = some bucketID then true
          else hasServed id bucketID older

/-- A row that belongs to a bucket and is neither pooled nor being cleaned. -/
def Holding (bucketID : String) (row : Shard) : Prop :=
  row.bucketID = some bucketID ∧ (row.state = .active ∨ row.state = .draining ∨ row.state = .sealed)

/-! ## Served shards hold their bucket -/

/-- No operation takes the bucket away from a row, short of recycling it. -/
theorem holding_moves {now : Time} {op : Op} {row moved : Shard} {bucketID : String}
    (holding : Holding bucketID row) (moves : Moves now op row moved)
    (kept : ¬ (moved.state = .standby ∨ moved.state = .cleaning)) : Holding bucketID moved := by
  rcases holding with ⟨bucket, state⟩
  have busy : ¬ Pooled row := by
    rintro ⟨_, _, unassigned⟩
    rw [unassigned] at bucket
    cases bucket
  cases moves with
  | keep => exact ⟨bucket, state⟩
  | promote pooled => exact absurd pooled busy
  | replaceSealed pooled => exact absurd pooled busy
  | replaceDrained pooled => exact absurd pooled busy
  | sealActive serves => exact ⟨bucket, Or.inr (Or.inr rfl)⟩
  | sealDrained serves => exact ⟨bucket, Or.inr (Or.inr rfl)⟩
  | drain serves => exact ⟨bucket, Or.inr (Or.inl rfl)⟩
  | ready draining => exact ⟨bucket, state⟩
  | clean isSealed => exact absurd (Or.inr rfl) kept
  | recycle cleaning => exact absurd (Or.inl rfl) kept
  | @patch newState row allowed =>
      refine ⟨bucket, ?_⟩
      cases newState with
      | standby => exact absurd (Or.inl rfl) kept
      | active => exact Or.inl rfl
      | draining => exact Or.inr (Or.inl rfl)
      | sealed => exact Or.inr (Or.inr rfl)
      | cleaning => exact absurd (Or.inr rfl) kept
  | stats => exact ⟨bucket, state⟩
  | seen => exact ⟨bucket, state⟩
  | readdress => exact ⟨bucket, state⟩

theorem hasServed_cons {db : Db} {older : List Db} {row : Shard} {bucketID : String}
    (member : row ∈ db.shards) (served : hasServed row.id bucketID (db :: older) = true) :
    ¬ (row.state = .standby ∨ row.state = .cleaning) ∧
      ((row.state = .active ∧ row.bucketID = some bucketID) ∨ hasServed row.id bucketID older = true) := by
  simp only [hasServed, getShardByID_mem member] at served
  by_cases idle : row.state = .standby ∨ row.state = .cleaning
  · rw [if_pos idle] at served
    cases served
  · refine ⟨idle, ?_⟩
    rw [if_neg idle] at served
    by_cases active : row.state = .active ∧ row.bucketID = some bucketID
    · exact Or.inl active
    · rw [if_neg active] at served
      exact Or.inr served

/-- Shards that have served a bucket hold it. -/
def ServedHold (past : Trace) (system : System) : Prop :=
  forall row bucketID, row ∈ system.store.db.shards ->
    hasServed row.id bucketID (databases past system) = true -> Holding bucketID row

/-- One step: the row served in the new database, or it had served before and
moved from a row that held the bucket. -/
theorem step_servedHold {env : Env} {past : Trace} {system after : System} {action : Act}
    (held : ServedHold past system) (taken : (machine env).step system action = some after) :
    ServedHold (⟨system, action⟩ :: past) after := by
  intro row bucketID member served
  rcases hasServed_cons member served with ⟨kept, active | earlier⟩
  · exact ⟨active.2, Or.inl active.1⟩
  · change hasServed row.id bucketID (databases past system) = true at earlier
    rcases step_cases taken with ⟨entry, rfl, rfl⟩ | ⟨tick, rfl, rfl⟩ |
      ⟨index, entry, op, next, rfl, found, issued, rfl⟩
    · exact held row bucketID member earlier
    · exact held row bucketID member earlier
    · rcases perform_row member with ⟨source, sourceMember, moves⟩ | ⟨_, _, _, _, _, _, rfl, _⟩
      · rw [moves.keys.1] at earlier
        exact holding_moves (held source bucketID sourceMember earlier) moves kept
      · -- A row that was just registered is in no older database.
        exfalso
        have absent : getShardByID system.store.db system.store.db.nextID = none := by
          apply List.find?_eq_none.mpr
          intro other otherMember
          have smaller := system.store.db.issued other otherMember
          simpa using Nat.ne_of_lt smaller
        simp only [databases, hasServed, registeredShard, absent] at earlier
        cases earlier

theorem run_servedHold {env : Env} {db : Db} {now : Time} {past : Trace} {system : System}
    (run : Runs env db now past system) : ServedHold past system := by
  refine Run.history ServedHold (fun _ _ => True) ?_ ?_ run (fun _ _ => trivial)
  · intro row bucketID member served
    rcases hasServed_cons member served with ⟨_, active | earlier⟩
    · exact ⟨active.2, Or.inl active.1⟩
    · cases earlier
  · intro past system action after _ held _ taken
    exact step_servedHold held taken

/-! ## From the query to the result -/

/-- A successful read of a bucket has asked for the read set of the bucket, and
returns at least the rows that it was given. -/
theorem run_readSet {env : Env} {db : Db} {now : Time} {past : Trace} {system : System}
    (run : Runs env db now past system) {index : Nat} {shardKey : Key} {result : ReadResult}
    (succeeded : system.processes[index]? = some ⟨.resolveRead shardKey, .finish (.read (.ok result))⟩)
    (routed : result.routing = .bucket) :
    Exists fun rows => ⟨.shardsForBucketRead result.bucketID, rows⟩ ∈ exchanges (machine env) index past ∧
      forall row, row ∈ rows -> readShard env.platform row ∈ result.shards := by
  cases run_source run succeeded with
  | read source =>
      cases source with
      | evicted => cases routed
      | error found => cases routed
      | uncovered chosen told given => exact ⟨[], told, fun row absent => absurd absent List.not_mem_nil⟩
      | covered chosen told => exact ⟨_, told, fun row member => List.mem_map_of_mem member⟩

/-- All active shards have a fresh heartbeat. -/
def HeartbeatsFresh (env : Env) (moment : Moment) : Prop :=
  forall row, row ∈ moment.db.shards -> row.state = .active -> Fresh env moment.now row

instance (env : Env) (moment : Moment) : Decidable (HeartbeatsFresh env moment) :=
  inferInstanceAs (Decidable (forall row, row ∈ moment.db.shards -> row.state = .active ->
    Fresh env moment.now row))

/-- In every run with fresh heartbeats, a successful read of a bucket returns
every data shard that, when the call asked the database for the read set, had
served the bucket since it was last on standby, was not being cleaned and was
not draining. -/
theorem read_returns_served_shards (env : Env) (db : Db) (now : Time) (past : Trace) (system : System)
    (run : Runs env db now past system)
    (fresh : forall event, event ∈ past -> HeartbeatsFresh env event.state.store)
    (index : Nat) (shardKey : Key) (result : ReadResult)
    (succeeded : system.processes[index]? = some ⟨.resolveRead shardKey, .finish (.read (.ok result))⟩)
    (routed : result.routing = .bucket) :
    Exists fun later => Exists fun event => Exists fun earlier =>
      past = later ++ event :: earlier ∧ event.action = .resume index ∧
        event.state.pending event.action = some (.shardsForBucketRead result.bucketID) ∧
        forall row, row ∈ event.state.store.db.shards -> row.role = .data ->
          hasServed row.id result.bucketID (databases earlier event.state) = true ->
          row.state ≠ .draining -> readShard env.platform row ∈ result.shards := by
  rcases run_readSet run succeeded routed with ⟨rows, told, listed⟩
  rcases exchanges_mem told with ⟨event, member, resumed, pending, reply⟩
  rcases List.append_of_mem member with ⟨later, earlier, split⟩
  have query : shardsForBucketRead env event.state.store.now event.state.store.db result.bucketID = rows := reply
  rw [← query] at listed
  refine ⟨later, event, earlier, split, resumed, pending, ?_⟩
  intro row present data served flowing
  apply listed
  have holding := run_servedHold (run.suffix split) row result.bucketID present served
  refine List.mem_filter.mpr ⟨present, decide_eq_true ⟨data, holding.1, ?_⟩⟩
  rcases holding.2 with active | draining | isSealed
  · exact Or.inr ⟨active, fresh event member row present active⟩
  · exact absurd draining flowing
  · exact Or.inl isSealed

/-! ## A read beside a draining shard -/

/-- What a successful read returned, with its key. -/
def readAnswer (system : System) (index : Nat) : Option (Key × ReadResult) :=
  match system.processes[index]? with
  | some ⟨.resolveRead shardKey, .finish (.read (.ok result))⟩ => some (shardKey, result)
  | _ => none

theorem readAnswer_some {system : System} {index : Nat} {shardKey : Key} {result : ReadResult}
    (answered : readAnswer system index = some (shardKey, result)) :
    system.processes[index]? = some ⟨.resolveRead shardKey, .finish (.read (.ok result))⟩ := by
  unfold readAnswer at answered
  split at answered
  · rename_i found
    cases answered
    exact found
  · cases answered

/-- Shards A and B are registered, a write promotes A, an administrator rotates
to B, B reports that it is full, the seal supervisor lets it drain, and then the
bucket is read. -/
def readBesideDraining : List Act :=
  [.start (.registerShard 1 .data "a" "" "")] ++ resumes 0 2 ++
  [.start (.registerShard 2 .data "b" "" "")] ++ resumes 1 2 ++
  [.start (.resolveWrite (.string "57"))] ++ resumes 2 10 ++
  [.start (.sealRotate "n5")] ++ resumes 3 1 ++
  [.start (.reportStats 2 200)] ++ resumes 4 2 ++
  [.start .sealTick] ++ resumes 5 6 ++
  [.start (.resolveRead (.string "57"))] ++ resumes 6 3

/-- A data shard that served the bucket, stood in the table during all three
operations of the read that ends a run, and is not in its result. -/
def Omits (past : Trace) (system : System) (result : ReadResult) (row : Shard) : Prop :=
  row.role = .data ∧ hasServed row.id result.bucketID (databases past system) = true ∧
    readShard samplePlatform row ∉ result.shards ∧
    forall event, event ∈ past.take 3 -> row ∈ event.state.store.db.shards

instance (past : Trace) (system : System) (result : ReadResult) (row : Shard) :
    Decidable (Omits past system result row) :=
  inferInstanceAs (Decidable (_ ∧ _ ∧ _ ∧ _))

/-- The run of that schedule, with all heartbeats fresh and a successful read. -/
private theorem readBesideDraining_run :
    Exists fun past => Exists fun system => Exists fun shardKey => Exists fun result =>
      Runs sampleEnv (sampleDb 100) 0 past system ∧
      (forall event, event ∈ past -> HeartbeatsFresh sampleEnv event.state.store) ∧
      system.processes[6]? = some ⟨.resolveRead shardKey, .finish (.read (.ok result))⟩ ∧
      result.routing = .bucket ∧
      Exists fun row => row ∈ system.store.db.shards ∧ Omits past system result row := by
  have passed : replayCheck (machine sampleEnv).step readBesideDraining (System.idle (sampleDb 100) 0)
      (fun past system => (readAnswer system 6).any fun answer =>
        decide ((forall event, event ∈ past -> HeartbeatsFresh sampleEnv event.state.store) ∧
          answer.2.routing = .bucket ∧
          Exists fun row => row ∈ system.store.db.shards ∧ Omits past system answer.2 row)) =
        true := by
    decide +kernel
  rcases replayCheck_run passed with ⟨past, system, run, checked⟩
  rcases (Option.any_eq_true _ _).mp checked with ⟨⟨shardKey, result⟩, answered, holds⟩
  rcases of_decide_eq_true holds with ⟨fresh, routed, omitted⟩
  exact ⟨past, system, shardKey, result, run, fresh, readAnswer_some answered, routed, omitted⟩

/-- The theorem applies to this read: it returns A, which is sealed. -/
theorem read_returns_served_shards_beside_draining :
    Exists fun past => Exists fun system => Exists fun result : ReadResult =>
      Runs sampleEnv (sampleDb 100) 0 past system ∧
      Exists fun later => Exists fun event => Exists fun earlier =>
        past = later ++ event :: earlier ∧ event.action = .resume 6 ∧
          event.state.pending event.action = some (.shardsForBucketRead result.bucketID) ∧
          forall row, row ∈ event.state.store.db.shards -> row.role = .data ->
            hasServed row.id result.bucketID (databases earlier event.state) = true ->
            row.state ≠ .draining -> readShard samplePlatform row ∈ result.shards := by
  rcases readBesideDraining_run with ⟨past, system, shardKey, result, run, fresh, succeeded, routed, _⟩
  exact ⟨past, system, result, run,
    read_returns_served_shards sampleEnv (sampleDb 100) 0 past system run fresh 6 shardKey result
      succeeded routed⟩

/-- B, which served the bucket last and drains, is missing from the result. -/
theorem read_omits_draining_shard :
    Exists fun past => Exists fun system => Exists fun shardKey => Exists fun result =>
      Runs sampleEnv (sampleDb 100) 0 past system ∧
      (forall event, event ∈ past -> HeartbeatsFresh sampleEnv event.state.store) ∧
      system.processes[6]? = some ⟨.resolveRead shardKey, .finish (.read (.ok result))⟩ ∧
      result.routing = .bucket ∧
      Exists fun row => row ∈ system.store.db.shards ∧ row.role = .data ∧
        hasServed row.id result.bucketID (databases past system) = true ∧
        readShard samplePlatform row ∉ result.shards ∧
        forall event, event ∈ past.take 3 -> row ∈ event.state.store.db.shards := by
  rcases readBesideDraining_run with
    ⟨past, system, shardKey, result, run, fresh, succeeded, routed, row, member, omitted⟩
  rcases omitted with ⟨data, served, missing, throughout⟩
  exact ⟨past, system, shardKey, result, run, fresh, succeeded, routed, row, member, data, served,
    missing, throughout⟩

end Control
end Shardman
