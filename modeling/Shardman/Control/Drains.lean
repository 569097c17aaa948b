import Shardman.Control.Issued

namespace Shardman
namespace Control

open Fsm
open Bucket
open Store
open Foundation

/-!
# The shards that a seal tick drains and seals

The seal supervisor decides about single shards, from two listings: it drains
the shards that are full, and it seals the draining shards that are done.  But
the transactions that it issues name a bucket.  They act on whatever shard of
the bucket is active, or draining, when they run.

This module connects each transaction of a tick with the rows that the tick was
shown, and determines when it acts on one of them.
-/

/-! ## The rows a tick was shown -/

/-- The full rows that the process was shown. -/
def shownFull (env : Env) (index : Nat) (past : Trace) : List Shard :=
  (exchanges (machine env) index past).flatMap fun exchange =>
    match exchange with
    | ⟨.shardsNeedingSeal _, need⟩ => need
    | _ => []

/-- The draining rows that the process was shown. -/
def shownDraining (env : Env) (index : Nat) (past : Trace) : List Shard :=
  (exchanges (machine env) index past).flatMap fun exchange =>
    match exchange with
    | ⟨.shardsDraining, draining⟩ => draining
    | _ => []

/-- The row is the one that was shown, and it is no emptier. -/
def StillFull (shown row : Shard) : Prop := row.id = shown.id ∧ shown.reportedBytes <= row.reportedBytes

/-- The row is the one that was shown, in the same drain. -/
def StillDraining (shown row : Shard) : Prop :=
  row.id = shown.id ∧ row.drainStartedAt = shown.drainStartedAt ∧
    (shown.drainReady = true -> row.drainReady = true)

instance (shown : Shard) : DecidablePred (StillFull shown) := fun _ => inferInstanceAs (Decidable (_ ∧ _))

instance (shown : Shard) : DecidablePred (StillDraining shown) := fun _ =>
  inferInstanceAs (Decidable (_ ∧ _ ∧ (_ -> _)))

/-- If the event is a seal tick that begins a drain, then the active row of the
bucket is the one that the tick was shown; if it completes a drain, then every
draining row of the bucket is. -/
def ActsOnShown (env : Env) (earlier : Trace) (event : Event System Act) : Prop :=
  match resumed event with
  | some (index, .sealTick, .beginDrain bucketID) =>
      forall row, row ∈ event.state.store.db.shards -> InState .active bucketID row ->
        forall shown, shown ∈ shownFull env index earlier -> shown.bucketID = some bucketID ->
          StillFull shown row
  | some (index, .sealTick, .completeDrainSeal bucketID) =>
      forall row, row ∈ event.state.store.db.shards -> InState .draining bucketID row ->
        forall shown, shown ∈ shownDraining env index earlier -> shown.bucketID = some bucketID ->
          StillDraining shown row
  | _ => True

instance (env : Env) (earlier : Trace) (event : Event System Act) : Decidable (ActsOnShown env earlier event) := by
  unfold ActsOnShown
  split <;> infer_instance

/-- The reported size of the row is at or above its own limit, or the one of the
cluster. -/
def AtLimit (db : Db) (row : Shard) : Prop :=
  match getConfig db with
  | .ok config => row.maxBytes.getD config.shardMaxBytes <= row.reportedBytes
  | .error _ => False

instance (db : Db) : DecidablePred (AtLimit db) := fun row => by
  unfold AtLimit
  split <;> infer_instance

/-! ## Only full shards are drained -/

section Steps

variable {env : Env} {db : Db} {now : Time} {past : Trace} {system : System} {index : Nat}

/-- A row that was listed as full is full by the limit that it still has. -/
theorem full_row {config : ClusterConfig} {need : List Shard} {shown row : Shard}
    (run : Runs env db now past system)
    (loaded : ⟨.getConfig, .ok config⟩ ∈ exchanges (machine env) index past)
    (told : ⟨.shardsNeedingSeal config.shardMaxBytes, need⟩ ∈ exchanges (machine env) index past)
    (listed : shown ∈ need) (member : row ∈ system.store.db.shards) (still : StillFull shown row) :
    AtLimit system.store.db row := by
  rcases exchanges_mem loaded with ⟨load, loadListed, _, _, loadReply⟩
  rcases exchanges_mem told with ⟨query, queryListed, _, _, queryReply⟩
  have full : shown ∈ shardsNeedingSeal env query.state.store.db config.shardMaxBytes := by
    have reply : shardsNeedingSeal env query.state.store.db config.shardMaxBytes = need := queryReply
    rw [reply]
    exact listed
  rcases List.mem_filter.mp full with ⟨scanned, limit⟩
  rcases (run_continues run queryListed).rows shown (mem_scan.mp scanned).1 with
    ⟨later, laterMember, id, _, _, maxBytes⟩
  have isRow : later = row := system.store.db.eq_of_id laterMember member (id.trans still.1.symm)
  rw [isRow] at maxBytes
  rw [AtLimit, (run_continues run loadListed).config config loadReply, maxBytes]
  exact Int.le_trans (of_decide_eq_true limit) still.2

/-- A drain that was done stays done. -/
theorem drained_row {instant : Time} {shown row : Shard} (run : Runs env db now past system)
    (clock : ⟨.clock, instant⟩ ∈ exchanges (machine env) index past)
    (finished : drainDone env instant shown = true) (still : StillDraining shown row) :
    drainDone env system.store.now row = true := by
  rcases exchanges_mem clock with ⟨read, readListed, _, _, reading⟩
  have elapsed : instant <= system.store.now := by
    have same : read.state.store.now = instant := reading
    rw [← same]
    exact (run_continues run readListed).elapsed
  rcases still with ⟨_, started, ready⟩
  unfold drainDone at finished ⊢
  rw [Bool.or_eq_true] at finished ⊢
  rcases finished with reported | overdue
  · exact Or.inl (ready reported)
  · refine Or.inr ?_
    rw [started]
    cases begun : shown.drainStartedAt with
    | none =>
        rw [begun] at overdue
        cases overdue
    | some beginning =>
        rw [begun] at overdue
        have late := of_decide_eq_true overdue
        exact decide_eq_true (Int.le_trans late (Int.sub_le_sub_right elapsed _))

end Steps

/-- What is asked of a step of a seal tick: a shard begins to drain because it is
full, and is sealed because its own drain is done. -/
def Justified (env : Env) (moment : Moment) (row moved : Shard) : Prop :=
  (row.state = .active -> moved.state = .draining -> AtLimit moment.db row) ∧
  (row.state = .draining -> moved.state = .sealed -> drainDone env moment.now row = true)

instance (env : Env) (moment : Moment) (row : Shard) : DecidablePred (Justified env moment row) := fun _ =>
  inferInstanceAs (Decidable ((_ -> _ -> _) ∧ (_ -> _ -> _)))

theorem begins_drain {now : Time} {op : Op} {row moved : Shard} (moves : Moves now op row moved)
    (manual : isPatch op = false) (active : row.state = .active) (draining : moved.state = .draining) :
    Exists fun bucketID => op = .beginDrain bucketID ∧ InState .active bucketID row := by
  cases moves with
  | drain serves => exact ⟨_, rfl, serves⟩
  | patch => cases manual
  | keep | ready | stats | seen | readdress =>
      have states : State.active = .draining := active.symm.trans draining
      cases states
  | promote | replaceSealed | replaceDrained | sealActive | sealDrained | clean | recycle => cases draining

theorem completes_drain {now : Time} {op : Op} {row moved : Shard} (moves : Moves now op row moved)
    (manual : isPatch op = false) (draining : row.state = .draining) (isSealed : moved.state = .sealed) :
    Exists fun bucketID => op = .completeDrainSeal bucketID ∧ InState .draining bucketID row := by
  cases moves with
  | sealDrained serves => exact ⟨_, rfl, serves⟩
  | sealActive serves =>
      have states : State.active = .draining := serves.2.2.symm.trans draining
      cases states
  | patch => cases manual
  | keep | ready | stats | seen | readdress =>
      have states : State.draining = .sealed := draining.symm.trans isSealed
      cases states
  | promote | replaceSealed | replaceDrained | drain | clean | recycle => cases isSealed

/-- In every run, a step of a seal tick that acts on the shards which the tick
was shown lets a shard drain only when that shard is full, and seals it only
when its own drain is done. -/
theorem sealTick_justified_on_shown (env : Env) (db : Db) (now : Time) (past : Trace) (system : System)
    (run : Runs env db now past system) (later : Trace) (event : Event System Act) (earlier : Trace)
    (split : past = later ++ event :: earlier) (index : Nat) (op : Op)
    (acts : resumed event = some (index, .sealTick, op)) (onShown : ActsOnShown env earlier event) :
    forall row, row ∈ event.state.store.db.shards ->
      forall moved, moved ∈ (perform env op event.state.store).2.db.shards -> moved.id = row.id ->
        Justified env event.state.store row moved := by
  rcases resumed_some acts with ⟨_, next, present⟩
  have before := run.suffix split
  have grounds := run_grounds before present
  have manual : isPatch op = false := by
    cases op with
    | patchState id newState => cases grounds
    | _ => rfl
  rw [ActsOnShown, acts] at onShown
  intro row member moved movedMember same
  have moves := perform_moves member movedMember same
  constructor
  · intro active draining
    rcases begins_drain moves manual active draining with ⟨bucketID, rfl, serves⟩
    rcases grounds with ⟨_, config, need, loaded, told, shown, listed, bucket⟩
    have wasShown : shown ∈ shownFull env index earlier := List.mem_flatMap.mpr ⟨_, told, listed⟩
    exact full_row before loaded told listed member (onShown row member serves shown wasShown bucket)
  · intro draining isSealed
    rcases completes_drain moves manual draining isSealed with ⟨bucketID, rfl, serves⟩
    rcases grounds with ⟨_, drains, instant, told, clock, shown, listed, bucket, finished⟩
    have wasShown : shown ∈ shownDraining env index earlier := List.mem_flatMap.mpr ⟨_, told, listed⟩
    exact drained_row before clock finished (onShown row member serves shown wasShown bucket)

/-! ## A tick and a rotation -/

/-- The bucket whose drain a seal tick begins in an event. -/
def beginsDrain (event : Event System Act) : Option (Nat × String) :=
  match resumed event with
  | some (index, .sealTick, .beginDrain bucketID) => some (index, bucketID)
  | _ => none

theorem beginsDrain_some {event : Event System Act} {index : Nat} {bucketID : String}
    (begins : beginsDrain event = some (index, bucketID)) :
    resumed event = some (index, .sealTick, .beginDrain bucketID) := by
  unfold beginsDrain at begins
  split at begins
  · rename_i found
    cases begins
    exact found
  · cases begins

/-- Shards A and B are registered, a write promotes A, A reports that it is full,
a seal tick lists A, then some other calls run, and the tick begins the drain. -/
def drainAfter (between : List Act) : List Act :=
  List.flatten [launch 0 (.registerShard 1 .data "a" "" "") 2, launch 1 (.registerShard 2 .data "b" "" "") 2,
    launch 2 (.resolveWrite (.string "57")) 10, launch 3 (.reportStats 1 200) 2, launch 4 .sealTick 4,
    between, resumes 4 1]

/-- The last step of a run begins a drain, and what it does passes a test. -/
def lastDrain (past : Trace) (test : Trace -> Event System Act -> String -> Bool) : Bool :=
  match past with
  | event :: earlier => (beginsDrain event).any fun begun => test earlier event begun.2
  | [] => false

theorem lastDrain_some {past : Trace} {test : Trace -> Event System Act -> String -> Bool}
    (passed : lastDrain past test = true) :
    Exists fun event => Exists fun earlier => Exists fun index => Exists fun bucketID =>
      past = event :: earlier ∧ resumed event = some (index, .sealTick, .beginDrain bucketID) ∧
      test earlier event bucketID = true := by
  unfold lastDrain at passed
  split at passed
  · rename_i event earlier
    rcases (Option.any_eq_true _ _).mp passed with ⟨⟨index, bucketID⟩, begins, tested⟩
    exact ⟨event, earlier, index, bucketID, rfl, beginsDrain_some begins, tested⟩
  · cases passed

/-- With nothing in between A is drained, which is full. -/
theorem sealTick_justified_on_shown_alone :
    Exists fun past => Exists fun system => Runs sampleEnv (sampleDb 100) 0 past system ∧
      Exists fun event => Exists fun bucketID => event ∈ past ∧
        Exists fun row => row ∈ event.state.store.db.shards ∧
          Exists fun moved => moved ∈ (perform sampleEnv (.beginDrain bucketID) event.state.store).2.db.shards ∧
            row.state = .active ∧ moved.state = .draining ∧ AtLimit event.state.store.db row := by
  have passed : replayCheck (machine sampleEnv).step (drainAfter []) (System.idle (sampleDb 100) 0)
      (fun past _ => lastDrain past fun earlier event bucketID =>
        decide (ActsOnShown sampleEnv earlier event ∧
          Exists fun row => row ∈ event.state.store.db.shards ∧
            Exists fun moved =>
              moved ∈ (perform sampleEnv (.beginDrain bucketID) event.state.store).2.db.shards ∧
              moved.id = row.id ∧ row.state = .active ∧ moved.state = .draining)) = true := by
    decide +kernel
  rcases replayCheck_run passed with ⟨past, system, run, checked⟩
  rcases lastDrain_some checked with ⟨event, earlier, index, bucketID, split, acts, tested⟩
  rcases of_decide_eq_true tested with ⟨onShown, row, member, moved, movedMember, same, active, draining⟩
  have justified := sealTick_justified_on_shown sampleEnv (sampleDb 100) 0 past system run [] event earlier split
    index (.beginDrain bucketID) acts onShown row member moved movedMember same
  have listed : event ∈ past := split ▸ List.mem_cons_self
  exact ⟨past, system, run, event, bucketID, listed, row, member, moved, movedMember, active, draining,
    justified.1 active draining⟩

/-- When an administrator rotates the bucket in between, the tick drains B, which
is empty. -/
theorem sealTick_drains_empty_shard :
    Exists fun past => Exists fun system => Runs sampleEnv (sampleDb 100) 0 past system ∧
      Exists fun event => Exists fun earlier => Exists fun index => Exists fun bucketID =>
        past = event :: earlier ∧ resumed event = some (index, .sealTick, .beginDrain bucketID) ∧
        Exists fun row => row ∈ event.state.store.db.shards ∧
          Exists fun moved => moved ∈ (perform sampleEnv (.beginDrain bucketID) event.state.store).2.db.shards ∧
            moved.id = row.id ∧ row.reportedBytes = 0 ∧ ¬ Justified sampleEnv event.state.store row moved := by
  have passed : replayCheck (machine sampleEnv).step
      (drainAfter (launch 5 (.sealRotate "n5") 1)) (System.idle (sampleDb 100) 0)
      (fun past _ => lastDrain past fun _ event bucketID =>
        decide (Exists fun row => row ∈ event.state.store.db.shards ∧
          Exists fun moved => moved ∈ (perform sampleEnv (.beginDrain bucketID) event.state.store).2.db.shards ∧
            moved.id = row.id ∧ row.reportedBytes = 0 ∧ ¬ Justified sampleEnv event.state.store row moved)) =
        true := by
    decide +kernel
  rcases replayCheck_run passed with ⟨past, system, run, checked⟩
  rcases lastDrain_some checked with ⟨event, earlier, index, bucketID, split, acts, tested⟩
  exact ⟨past, system, run, event, earlier, index, bucketID, split, acts, of_decide_eq_true tested⟩

end Control
end Shardman
