import Shardman.Store.LifeCycle

namespace Shardman
namespace Store

open Fsm
open Foundation

/-!
# Columns that follow the state

A data row records more about its place in the life cycle than its state: the
bucket it holds, when its drain began and whether its agent is done, and when it
was sealed.  The supervisors rely on these columns agreeing with the state.
Every transaction keeps them in agreement, except the manual state change, which
writes the state and nothing else.
-/

/-- The columns of a row agree with its state. -/
structure Coherent (row : Shard) : Prop where
  standby_iff : row.state = .standby ↔ row.bucketID = none
  standby_clear : row.state = .standby ->
    row.sealedAt = none ∧ row.drainStartedAt = none ∧ row.drainReady = false
  draining_dated : row.state = .draining -> row.drainStartedAt ≠ none
  sealed_dated : row.state = .sealed ∨ row.state = .cleaning -> row.sealedAt ≠ none

/-- Only a draining row is marked as ready. -/
def ReadyWhileDraining (row : Shard) : Prop := row.drainReady = true -> row.state = .draining

instance (row : Shard) : Decidable (Coherent row) :=
  decidable_of_iff
    ((row.state = .standby ↔ row.bucketID = none) ∧
      (row.state = .standby -> row.sealedAt = none ∧ row.drainStartedAt = none ∧ row.drainReady = false) ∧
      (row.state = .draining -> row.drainStartedAt ≠ none) ∧
      (row.state = .sealed ∨ row.state = .cleaning -> row.sealedAt ≠ none))
    ⟨fun fields => ⟨fields.1, fields.2.1, fields.2.2.1, fields.2.2.2⟩,
      fun row => ⟨row.standby_iff, row.standby_clear, row.draining_dated, row.sealed_dated⟩⟩

instance : DecidablePred ReadyWhileDraining := fun _ => inferInstanceAs (Decidable (_ -> _))

/-- All that is asked of a data row; other rows are not part of the cycle. -/
def WellKept (row : Shard) : Prop := row.role = .data -> Coherent row ∧ ReadyWhileDraining row

/-! ## Every transaction but the manual one -/

section Rows

variable {row : Shard}

theorem wellKept_registered (id : Nat) (uuid : UUID) (role : Role) (dsn : String)
    (advertiseURL : Option String) (now : Time) :
    WellKept (registeredShard id uuid role dsn advertiseURL now) := by
  intro data
  have standby : (registeredShard id uuid role dsn advertiseURL now).state = .standby := by
    change role = .data at data
    rw [data]
    rfl
  refine ⟨⟨iff_of_true standby rfl, fun _ => ⟨rfl, rfl, rfl⟩, ?_, ?_⟩, nofun⟩
  · intro draining
    rw [standby] at draining
    cases draining
  · intro dated
    rw [standby] at dated
    rcases dated with dated | dated <;> cases dated

/-- A row that is not on standby holds a bucket. -/
theorem Coherent.bucket_of_state {state : State} (coherent : Coherent row) (inState : row.state = state)
    (busy : state ≠ .standby) : row.bucketID ≠ none := by
  intro absent
  exact busy (inState.symm.trans (coherent.standby_iff.mpr absent))

/-- A row that is not draining is not ready. -/
theorem ReadyWhileDraining.not_ready {state : State} (ready : ReadyWhileDraining row)
    (inState : row.state = state) (idle : state ≠ .draining) : row.drainReady = false := by
  cases set : row.drainReady with
  | false => rfl
  | true => exact absurd (inState.symm.trans (ready set)) idle

theorem wellKept_moves {now : Time} {op : Op} {moved : Shard} (moves : Moves now op row moved)
    (automatic : isPatch op = false) (kept : WellKept row) : WellKept moved := by
  intro data
  rw [moves.keys.2.2] at data
  rcases kept data with ⟨coherent, ready⟩
  cases moves with
  | keep => exact ⟨coherent, ready⟩
  | promote pooled | replaceSealed pooled | replaceDrained pooled =>
      refine ⟨⟨iff_of_false nofun nofun, nofun, nofun, by rintro (dated | dated) <;> cases dated⟩, ?_⟩
      intro set
      have clear := ready.not_ready pooled.2.1 (by decide)
      exact absurd (clear.symm.trans set) Bool.false_ne_true
  | sealActive serves =>
      have held := coherent.bucket_of_state serves.2.2 (by decide)
      refine ⟨⟨iff_of_false nofun held, nofun, nofun, fun _ => Option.some_ne_none _⟩, ?_⟩
      intro set
      have clear := ready.not_ready serves.2.2 (by decide)
      exact absurd (clear.symm.trans set) Bool.false_ne_true
  | sealDrained serves =>
      have held := coherent.bucket_of_state serves.2.2 (by decide)
      exact ⟨⟨iff_of_false nofun held, nofun, nofun, fun _ => Option.some_ne_none _⟩, nofun⟩
  | drain serves =>
      have held := coherent.bucket_of_state serves.2.2 (by decide)
      exact ⟨⟨iff_of_false nofun held, nofun, fun _ => Option.some_ne_none _,
        by rintro (dated | dated) <;> cases dated⟩, nofun⟩
  | ready draining =>
      refine ⟨⟨coherent.standby_iff, ?_, coherent.draining_dated, coherent.sealed_dated⟩, fun _ => draining⟩
      intro standby
      exact absurd (draining.symm.trans standby) (by decide)
  | clean serves =>
      have held := coherent.bucket_of_state serves.2.2 (by decide)
      refine ⟨⟨iff_of_false nofun held, nofun, nofun, fun _ => coherent.sealed_dated (Or.inl serves.2.2)⟩, ?_⟩
      intro set
      have clear := ready.not_ready serves.2.2 (by decide)
      exact absurd (clear.symm.trans set) Bool.false_ne_true
  | recycle cleaning =>
      exact ⟨⟨iff_of_true rfl rfl, fun _ => ⟨rfl, rfl, rfl⟩, nofun,
        by rintro (dated | dated) <;> cases dated⟩, nofun⟩
  | patch allowed => cases automatic
  | stats | seen | readdress =>
      exact ⟨⟨coherent.standby_iff, coherent.standby_clear, coherent.draining_dated, coherent.sealed_dated⟩, ready⟩

end Rows

/-- The step is not a manual state change. -/
def isAutomatic : StoreAct -> Bool
  | .perform op => !isPatch op
  | _ => true

/-- In every history without manual state changes, from any table of well-kept
rows, the columns of every data row agree with its state. -/
theorem rows_stay_coherent (env : Env) (start moment : Moment) (past : History)
    (initial : forall row, row ∈ start.db.shards -> WellKept row) (run : Histories env start past moment)
    (automatic : forall event, event ∈ past -> isAutomatic event.action = true) :
    forall row, row ∈ moment.db.shards -> row.role = .data -> Coherent row ∧ ReadyWhileDraining row := by
  refine rows_preserved WellKept (fun act => isAutomatic act = true) wellKept_registered ?_ initial run automatic
  intro now row moved act unpatched stepped kept
  cases act with
  | perform op =>
      have automatic : isPatch op = false := by simpa [isAutomatic] using unpatched
      exact wellKept_moves stepped automatic kept
  | bumpTopologyVersion =>
      cases stepped
      exact kept
  | elapse duration =>
      cases stepped
      exact kept

/-- The empty table of a new store, and a round of the cycle. -/
theorem rows_stay_coherent_roundTrip :
    Exists fun past => Exists fun moment => Histories sampleEnv ⟨Db.fresh, 0⟩ past moment ∧
      moment.db.shards.length = 2 ∧
      forall row, row ∈ moment.db.shards -> row.role = .data -> Coherent row ∧ ReadyWhileDraining row := by
  have passed : replayCheck (advance sampleEnv) roundTrip ⟨Db.fresh, 0⟩ (fun past moment =>
      past.all (fun event => isAutomatic event.action) && moment.db.shards.length == 2) = true := by
    decide +kernel
  rcases replayCheck_run passed with ⟨past, moment, run, checked⟩
  rcases Bool.and_eq_true_iff.mp checked with ⟨automatic, two⟩
  exact ⟨past, moment, run, beq_iff_eq.mp two,
    rows_stay_coherent sampleEnv ⟨Db.fresh, 0⟩ moment past (fun _ absent => absurd absent List.not_mem_nil) run
      (List.all_eq_true.mp automatic)⟩

/-! ## The manual state change -/

/-- The columns that a transaction maintains besides the state. -/
structure Columns where
  bucketID : Option String
  sealedAt : Option Time
  drainStartedAt : Option Time
  drainReady : Bool
deriving DecidableEq

def columns (row : Shard) : Columns := ⟨row.bucketID, row.sealedAt, row.drainStartedAt, row.drainReady⟩

/-- What the transaction made for an edge of the state machine writes: the
promotion into a bucket, the begin of a drain, the seal of an active and of a
drained row, the begin and the end of cleaning. -/
def dedicated (now : Time) (bucketID : String) : State -> State -> Option Rewrite
  | .standby, .active => some (.activate now bucketID)
  | .active, .draining => some (.beginDrain now)
  | .active, .sealed => some (.sealRow now)
  | .draining, .sealed => some (.drainSeal now)
  | .sealed, .cleaning => some .clean
  | .cleaning, .standby => some .recycle
  | _, _ => none

/-- The edges that need no column but the state. -/
def NeedsOnlyState (row : Shard) (target : State) : Prop :=
  target = .cleaning ∨ (target = .draining ∧ row.drainStartedAt ≠ none) ∨
    (target = .sealed ∧ row.sealedAt ≠ none)

/-- The columns already have the values that the transaction of the edge would
write. -/
def AlreadyWritten (now : Time) (row : Shard) (target : State) : Prop :=
  target = .cleaning ∨
    (target = .draining ∧ row.drainStartedAt = some now ∧ row.drainReady = false) ∨
    (target = .sealed ∧ row.sealedAt = some now ∧ (row.state = .draining -> row.drainReady = false))

section Patch

variable {db : Db} {row : Shard} {target : State}

/-- The edges of the table. -/
theorem edge_cases {source : State} (allowed : canTransition .data source target = true) :
    (source = .standby ∧ target = .active) ∨ (source = .active ∧ target = .draining) ∨
      (source = .active ∧ target = .sealed) ∨ (source = .draining ∧ target = .sealed) ∨
      (source = .sealed ∧ target = .cleaning) ∨ (source = .cleaning ∧ target = .standby) := by
  revert allowed
  cases source <;> cases target <;> decide

/-- A manual change never enters the index of active shards: an active row that
it makes of a standby has no bucket. -/
theorem patched_unindexed (coherent : Coherent row)
    (allowed : canTransition .data row.state target = true) :
    activeKey ((Rewrite.patch target).apply row) = none := by
  by_cases active : row.role = .data ∧ target = .active
  · rw [active.2] at allowed
    exact (if_pos active).trans (coherent.standby_iff.mp (standby_of_activation allowed))
  · exact if_neg active

/-- A manual change along an edge goes through on a coherent row and writes the
state only. -/
theorem patchState_ok (member : row ∈ db.shards) (data : row.role = .data) (coherent : Coherent row)
    (allowed : canTransition .data row.state target = true) :
    Exists fun after => patchState row.id target db = .ok ((), after) ∧
      (Rewrite.patch target).apply row ∈ after.shards := by
  have chosen : forall other, other ∈ db.shards ->
      decide (other.id = row.id ∧ other.version = row.version) = true -> other = row := by
    intro other otherMember selected
    exact db.eq_of_id otherMember member (of_decide_eq_true selected).1
  rcases updateWhere_unindexing db
    (fun other => decide (other.id = row.id ∧ other.version = row.version)) (.patch target) (by
      intro other otherMember selected
      rw [chosen other otherMember selected]
      exact Or.inr (patched_unindexed coherent allowed)) with ⟨written, outcome⟩
  rcases patchState_of_update member data allowed outcome with ⟨done, table⟩
  refine ⟨written.bumpTopologyVersion, done, ?_⟩
  rw [table]
  exact mem_tableAt.mpr (Or.inl ⟨row, member, rfl, rfl⟩)

/-- A row that holds a bucket and goes to a state other than standby needs the
dates of that state. -/
theorem patched_held_iff (held : row.bucketID ≠ none) (busy : target ≠ .standby) :
    Coherent ((Rewrite.patch target).apply row) ↔
      (target = .draining -> row.drainStartedAt ≠ none) ∧
      (target = .sealed ∨ target = .cleaning -> row.sealedAt ≠ none) := by
  constructor
  · intro patched
    exact ⟨patched.draining_dated, patched.sealed_dated⟩
  · rintro ⟨draining, dated⟩
    exact ⟨iff_of_false busy held, fun standby => absurd standby busy, draining, dated⟩

/-- Edge by edge, the row is coherent afterwards exactly when the edge needs no
other column. -/
theorem patched_coherent_iff (coherent : Coherent row)
    (allowed : canTransition .data row.state target = true) :
    Coherent ((Rewrite.patch target).apply row) ↔ NeedsOnlyState row target := by
  rcases edge_cases allowed with ⟨source, rfl⟩ | ⟨source, rfl⟩ | ⟨source, rfl⟩ | ⟨source, rfl⟩ |
    ⟨source, rfl⟩ | ⟨source, rfl⟩
  · -- An active row without a bucket.
    refine iff_of_false ?_ (by simp [NeedsOnlyState])
    intro patched
    have standby := patched.standby_iff.mpr (coherent.standby_iff.mp source)
    cases standby
  · rw [patched_held_iff (coherent.bucket_of_state source (by decide)) (by decide)]
    simp [NeedsOnlyState]
  · rw [patched_held_iff (coherent.bucket_of_state source (by decide)) (by decide)]
    simp [NeedsOnlyState]
  · rw [patched_held_iff (coherent.bucket_of_state source (by decide)) (by decide)]
    simp [NeedsOnlyState]
  · rw [patched_held_iff (coherent.bucket_of_state source (by decide)) (by decide)]
    simp [NeedsOnlyState, coherent.sealed_dated (Or.inl source)]
  · -- A standby that still holds its bucket.
    refine iff_of_false ?_ (by simp [NeedsOnlyState])
    intro patched
    exact coherent.bucket_of_state source (by decide) (patched.standby_iff.mp rfl)

/-- Edge by edge, the manual change and the transaction of the edge leave the
same columns exactly when that transaction would write what is there already. -/
theorem patched_columns_iff (now : Time) (bucketID : String) (coherent : Coherent row)
    (allowed : canTransition .data row.state target = true) :
    Exists fun change => dedicated now bucketID row.state target = some change ∧
      (columns ((Rewrite.patch target).apply row) = columns (change.apply row) ↔
        AlreadyWritten now row target) := by
  rcases edge_cases allowed with ⟨source, rfl⟩ | ⟨source, rfl⟩ | ⟨source, rfl⟩ | ⟨source, rfl⟩ |
    ⟨source, rfl⟩ | ⟨source, rfl⟩
  · have free := coherent.standby_iff.mp source
    refine ⟨_, by rw [source]; rfl, ?_⟩
    simp [columns, AlreadyWritten, Rewrite.patch, Rewrite.activate, free]
  · refine ⟨_, by rw [source]; rfl, ?_⟩
    simp [columns, AlreadyWritten, Rewrite.patch, Rewrite.beginDrain]
  · refine ⟨_, by rw [source]; rfl, ?_⟩
    simp [columns, AlreadyWritten, Rewrite.patch, Rewrite.sealRow, source]
  · refine ⟨_, by rw [source]; rfl, ?_⟩
    simp [columns, AlreadyWritten, Rewrite.patch, Rewrite.drainSeal, source]
  · refine ⟨_, by rw [source]; rfl, ?_⟩
    simp [columns, AlreadyWritten, Rewrite.patch, Rewrite.clean]
  · have held := coherent.bucket_of_state source (by decide)
    refine ⟨_, by rw [source]; rfl, ?_⟩
    simp [columns, AlreadyWritten, Rewrite.patch, Rewrite.recycle, held]

end Patch

/-- A manual change of a coherent data row along an edge of the state machine
goes through.  It leaves the row coherent exactly when the edge leads to
cleaning, or the date that the new state needs is there already; and it leaves
the columns that the transaction of the edge leaves exactly when that one would
write nothing new. -/
theorem patchState_coherent_iff (db : Db) (row : Shard) (target : State) (now : Time) (bucketID : String)
    (member : row ∈ db.shards) (data : row.role = .data) (coherent : Coherent row)
    (allowed : canTransition row.role row.state target = true) :
    Exists fun after => patchState row.id target db = .ok ((), after) ∧
      Exists fun patched => patched ∈ after.shards ∧ patched.id = row.id ∧ patched.state = target ∧
        (Coherent patched ↔ NeedsOnlyState row target) ∧
        Exists fun change => dedicated now bucketID row.state target = some change ∧
          (columns patched = columns (change.apply row) ↔ AlreadyWritten now row target) := by
  rw [data] at allowed
  rcases patchState_ok member data coherent allowed with ⟨after, done, present⟩
  exact ⟨after, done, _, present, rfl, rfl, patched_coherent_iff coherent allowed,
    patched_columns_iff now bucketID coherent allowed⟩

/-- The round of the cycle up to the point at which its first shard is sealed. -/
def sealedMoment : Moment :=
  (roundTrip.take 8).foldl (fun moment act => (advance sampleEnv moment act).getD moment) ⟨Db.fresh, 0⟩

/-- A sealed shard may be put to cleaning by hand. -/
theorem patchState_coherent_iff_sealed :
    Exists fun row => row ∈ sealedMoment.db.shards ∧ row.state = .sealed ∧
      Exists fun after => patchState row.id .cleaning sealedMoment.db = .ok ((), after) ∧
        Exists fun patched => patched ∈ after.shards ∧ patched.id = row.id ∧ Coherent patched := by
  have found : Exists fun row => row ∈ sealedMoment.db.shards ∧ row.state = .sealed ∧ row.role = .data ∧
      Coherent row ∧ canTransition row.role row.state .cleaning = true := by
    decide +kernel
  rcases found with ⟨row, member, isSealed, data, coherent, allowed⟩
  rcases patchState_coherent_iff sealedMoment.db row .cleaning 0 "n5" member data coherent allowed with
    ⟨after, done, patched, present, same, _, kept, _⟩
  exact ⟨row, member, isSealed, after, done, patched, present, same, kept.mpr (Or.inl rfl)⟩

/-- A shard that is set to draining by hand has no date at which its drain
began, so that its drain never times out. -/
theorem patchState_drains_undated :
    Exists fun row => row ∈ servingMoment.db.shards ∧ row.role = .data ∧ Coherent row ∧
      canTransition row.role row.state .draining = true ∧
      Exists fun after => patchState row.id .draining servingMoment.db = .ok ((), after) ∧
        Exists fun patched => patched ∈ after.shards ∧ patched.id = row.id ∧ ¬ Coherent patched := by
  have found : Exists fun row => row ∈ servingMoment.db.shards ∧ row.role = .data ∧ Coherent row ∧
      canTransition .data row.state .draining = true ∧ row.drainStartedAt = none := by
    decide +kernel
  rcases found with ⟨row, member, data, coherent, allowed, undated⟩
  rcases patchState_ok member data coherent allowed with ⟨after, done, present⟩
  refine ⟨row, member, data, coherent, by rw [data]; exact allowed, after, done, _, present, rfl, ?_⟩
  intro patched
  exact patched.draining_dated rfl undated

end Store
end Shardman
