import Shardman.Control.LiveShards
import Shardman.Control.ReadSet

namespace Shardman
namespace Control

open Fsm
open Bucket
open Store
open Foundation

/-!
# Rotations in a row

Two supervisors rotate several buckets in one loop: the one for draining shards
that are done, and the one for active shards that are silent.  All rotations take
their standbys from one pool.  Run alone, such a loop comes to one change of the
table: the shards of the list are retired, and the shards of the pool are put,
in their order, in the places of the first shards of the list.
-/

section Loops

variable (env : Env) (now : Time) (retired : State) (retire : Rewrite)

/-- One round: a rotation that fails is only logged. -/
def rotateOrKeep (db : Db) (old : Shard) : Db :=
  match rotate env now (old.bucketID.getD "") retired retire db with
  | .ok (_, after) => after
  | .error _ => db

def rotateAll (olds : List Shard) (db : Db) : Db := olds.foldl (rotateOrKeep env now retired retire) db

/-- A rotation of the shard's bucket is one round. -/
theorem commit_rotate (db : Db) {old : Shard} {bucketID : String} (bucket : old.bucketID = some bucketID) :
    (commit (rotate env now bucketID retired retire) ⟨db, now⟩).2 =
      ⟨rotateOrKeep env now retired retire db old, now⟩ := by
  rw [commit, rotateOrKeep, bucket, Option.getD_some]
  cases rotate env now bucketID retired retire db <;> rfl

end Loops

/-- What a row becomes when shards are retired and standbys are put in their
places. -/
def replaceRow (now : Time) (retire : Rewrite) (olds : List Shard) (places : List (Shard × Shard)) (row : Shard) :
    Shard :=
  if row ∈ olds then
    retire.apply row
  else
    match places.lookup row with
    | some old => (Rewrite.activate now (old.bucketID.getD "")).apply row
    | none => row

/-- A shard that a rotation of its bucket retires, and no other one: no second
shard of the bucket is in the same state or active. -/
structure Replaceable (retired : State) (db : Db) (old : Shard) : Prop where
  member : old ∈ db.shards
  serves : InState retired (old.bucketID.getD "") old
  alone : forall row, row ∈ db.shards -> row.role = .data -> row.bucketID = old.bucketID ->
    row.state = retired ∨ row.state = .active -> row = old

theorem nextStandby_eq_head (db : Db) : nextStandby db = (standbyPool db).head? := by
  rw [nextStandby, standbyPool, List.head?_filter]

theorem mem_standbyPool {db : Db} {row : Shard} : row ∈ standbyPool db ↔ row ∈ db.shards ∧ Pooled row := by
  rw [standbyPool, List.mem_filter, decide_eq_true_iff]

/-! ## Rows under a replacement -/

section Rows

variable {now : Time} {retire : Rewrite} {olds : List Shard} {places : List (Shard × Shard)} {row : Shard}

theorem replaceRow_retired (listed : row ∈ olds) : replaceRow now retire olds places row = retire.apply row :=
  if_pos listed

theorem replaceRow_kept (unlisted : row ∉ olds) (unplaced : forall place, place ∈ places -> place.1 ≠ row) :
    replaceRow now retire olds places row = row := by
  have absent : places.lookup row = none := by
    rw [List.lookup_eq_none_iff]
    intro place member
    exact bne_iff_ne.mpr (unplaced place member).symm
  rw [replaceRow, if_neg unlisted, absent]

theorem replaceRow_nil : replaceRow now retire [] [] row = row :=
  replaceRow_kept List.not_mem_nil fun _ absent => absurd absent List.not_mem_nil

theorem replaceRow_cons_self {old : Shard} (unlisted : row ∉ olds) :
    replaceRow now retire olds ((row, old) :: places) row =
      (Rewrite.activate now (old.bucketID.getD "")).apply row := by
  rw [replaceRow, if_neg unlisted, List.lookup_cons, beq_self_eq_true]

theorem replaceRow_cons_other {spare old : Shard} (different : row ≠ spare) (notOld : row ≠ old) :
    replaceRow now retire (old :: olds) ((spare, old) :: places) row = replaceRow now retire olds places row := by
  have apart : (row == spare) = false := beq_eq_false_iff_ne.mpr different
  simp only [replaceRow, List.mem_cons, notOld, false_or, List.lookup_cons, apart]

/-- A row is retired, put in the place of a retired one, or kept. -/
theorem replaceRow_cases (now : Time) (retire : Rewrite) (olds : List Shard) (places : List (Shard × Shard))
    (row : Shard) :
    (row ∈ olds ∧ replaceRow now retire olds places row = retire.apply row) ∨
    (row ∉ olds ∧ Exists fun old => (row, old) ∈ places ∧
      replaceRow now retire olds places row = (Rewrite.activate now (old.bucketID.getD "")).apply row) ∨
    (row ∉ olds ∧ (forall place, place ∈ places -> place.1 ≠ row) ∧
      replaceRow now retire olds places row = row) := by
  by_cases listed : row ∈ olds
  · exact Or.inl ⟨listed, replaceRow_retired listed⟩
  · refine Or.inr ?_
    cases found : places.lookup row with
    | some old =>
        rcases List.lookup_eq_some_iff.mp found with ⟨before, after, split, _⟩
        refine Or.inl ⟨listed, old, ?_, ?_⟩
        · rw [split]
          exact List.mem_append_right _ List.mem_cons_self
        · rw [replaceRow, if_neg listed, found]
    | none =>
        refine Or.inr ⟨listed, ?_, ?_⟩
        · intro place member same
          have apart := List.lookup_eq_none_iff.mp found place member
          exact bne_iff_ne.mp apart same.symm
        · rw [replaceRow, if_neg listed, found]

theorem replaceRow_id : (replaceRow now retire olds places row).id = row.id := by
  unfold replaceRow
  split
  · exact retire.id_eq row
  · split <;> rfl

end Rows

/-! ## One rotation -/

section Round

variable (env : Env) (now : Time) {retired : State} {retire : Rewrite} {db : Db} {old : Shard}

theorem not_mem_singleton_of_id {row : Shard} (different : row.id ≠ old.id) : row ∉ [old] := by
  rw [List.mem_singleton]
  rintro rfl
  exact different rfl

/-- A change of one row, as a replacement without a successor. -/
theorem tableAt_eq_map (retire : Rewrite) (member : old ∈ db.shards) :
    db.tableAt old.id retire = db.shards.map (replaceRow now retire [old] []) := by
  apply List.map_congr_left
  intro row rowMember
  rw [only_apply]
  by_cases same : row.id = old.id
  · rw [if_pos (decide_eq_true same), db.eq_of_id rowMember member same, replaceRow_retired List.mem_cons_self]
  · rw [if_neg (by simpa using same), replaceRow_kept (not_mem_singleton_of_id same)]
    intro place listed
    cases listed

/-- A rotation of two rows, as a replacement with one. -/
theorem tableRotated_eq_map (retire : Rewrite) {spare : Shard} (member : old ∈ db.shards)
    (spareMember : spare ∈ db.shards) (different : spare.id ≠ old.id) :
    db.tableRotated now (old.bucketID.getD "") old spare retire =
      db.shards.map (replaceRow now retire [old] [(spare, old)]) := by
  apply List.map_congr_left
  intro row rowMember
  by_cases same : row.id = old.id
  · rw [if_pos same, db.eq_of_id rowMember member same, replaceRow_retired List.mem_cons_self]
  · rw [if_neg same]
    by_cases isSpare : row.id = spare.id
    · rw [if_pos isSpare, db.eq_of_id rowMember spareMember isSpare,
        replaceRow_cons_self (not_mem_singleton_of_id different)]
    · rw [if_neg isSpare, replaceRow_kept (not_mem_singleton_of_id same)]
      intro place listed
      rw [List.mem_singleton] at listed
      rw [listed]
      rintro rfl
      exact isSpare rfl

/-- Sealing a row puts nothing into an empty pool. -/
theorem standbyPool_sealed {after : Db} (sealing : forall row, (retire.apply row).state = .sealed)
    (empty : nextStandby db = none) (table : after.shards = db.tableAt old.id retire) : standbyPool after = [] := by
  rw [standbyPool, List.filter_eq_nil_iff]
  intro row rowMember pooled
  rw [table] at rowMember
  rcases mem_tableAt.mp rowMember with ⟨source, _, _, same⟩ | ⟨kept, _⟩
  · have states := (sealing source).symm.trans (same ▸ (of_decide_eq_true pooled).2.1)
    cases states
  · exact nextStandby_none empty kept (of_decide_eq_true pooled)

/-- The rotation of a replaceable shard succeeds: the first shard of the pool, if
there is one, takes its place and leaves the pool. -/
theorem rotateOrKeep_replaces (busy : retired ≠ .standby)
    (sealing : forall row, (retire.apply row).state = .sealed) (replaceable : Replaceable retired db old) :
    (rotateOrKeep env now retired retire db old).shards =
        db.shards.map (replaceRow now retire [old] ((standbyPool db).zip [old])) ∧
      standbyPool (rotateOrKeep env now retired retire db old) = (standbyPool db).tail ∧
      (rotateOrKeep env now retired retire db old).cluster = db.bumpTopologyVersion.cluster := by
  have isOld : forall row, row ∈ db.shards -> InState retired (old.bucketID.getD "") row -> row = old := by
    intro row member serves
    exact replaceable.alone row member serves.1 (serves.2.1.trans replaceable.serves.2.1.symm) (Or.inl serves.2.2)
  have occupied : ¬ Pooled old := fun pooled => busy (replaceable.serves.2.2.symm.trans pooled.2.1)
  unfold rotateOrKeep
  rcases rotate_cases env now (old.bucketID.getD "") busy sealing db with ⟨vacant, _⟩ |
    ⟨found, member, serves, ⟨empty, after, outcome, table, cluster⟩ |
      ⟨spare, next, ⟨_, after, outcome, table, cluster⟩ | ⟨⟨other, otherMember, active, different⟩, _⟩⟩⟩
  · exact absurd replaceable.serves (vacant old replaceable.member)
  · rw [isOld found member serves] at table
    have noPool : standbyPool db = [] := by
      rw [nextStandby_eq_head, List.head?_eq_none_iff] at empty
      exact empty
    rw [outcome, noPool, List.zip_nil_left, List.tail_nil]
    exact ⟨table.trans (tableAt_eq_map now retire replaceable.member), standbyPool_sealed sealing empty table, cluster⟩
  · rw [isOld found member serves] at table
    rcases nextStandby_some next with ⟨spareMember, pooled⟩
    have notOld : spare.id ≠ old.id := pooled_id_ne spareMember pooled replaceable.member occupied
    rcases pool : standbyPool db with _ | ⟨first, tail⟩
    · rw [nextStandby_eq_head, pool] at next
      cases next
    · rw [nextStandby_eq_head, pool, List.head?_cons, Option.some_inj] at next
      subst next
      rw [outcome, List.zip_cons_cons, List.zip_nil_right]
      refine ⟨table.trans (tableRotated_eq_map now retire replaceable.member spareMember notOld), ?_, cluster⟩
      rw [standbyPool_rotated replaceable.member occupied spareMember sealing table, pool, List.erase_cons_head,
        List.tail_cons]
  · exact absurd (replaceable.alone other otherMember active.1 (active.2.1.trans replaceable.serves.2.1.symm)
      (Or.inr active.2.2)) (fun same => different (same.trans (isOld found member serves).symm))

/-- The other shards of a list stay replaceable. -/
theorem Replaceable.after_other (busy : retired ≠ .standby) (unsealed : retired ≠ .sealed)
    (sealing : forall row, (retire.apply row).state = .sealed) (replaceable : Replaceable retired db old)
    {other : Shard} (others : Replaceable retired db other) (different : other ≠ old) :
    Replaceable retired (rotateOrKeep env now retired retire db old) other := by
  rcases rotateOrKeep_replaces env now busy sealing replaceable with ⟨table, _, _⟩
  have occupied : ¬ Pooled other := fun pooled => busy (others.serves.2.2.symm.trans pooled.2.1)
  have elsewhere : other.bucketID ≠ old.bucketID := by
    intro same
    exact different (replaceable.alone other others.member others.serves.1 same (Or.inl others.serves.2.2))
  have placed : forall place, place ∈ (standbyPool db).zip [old] -> Pooled place.1 ∧ place.2 = old := by
    intro place listed
    rcases List.of_mem_zip listed with ⟨inPool, isOld⟩
    exact ⟨(mem_standbyPool.mp inPool).2, List.mem_singleton.mp isOld⟩
  refine ⟨?_, others.serves, ?_⟩
  · rw [table]
    refine List.mem_map.mpr ⟨other, others.member, replaceRow_kept ?_ ?_⟩
    · rw [List.mem_singleton]
      exact different
    · rintro place listed rfl
      exact occupied (placed place listed).1
  · intro row member isData bucket state
    rw [table] at member
    rcases List.mem_map.mp member with ⟨source, present, rfl⟩
    rcases replaceRow_cases now retire [old] ((standbyPool db).zip [old]) source with
      ⟨_, same⟩ | ⟨_, owner, placedHere, same⟩ | ⟨_, _, same⟩ <;> rw [same] at isData bucket state ⊢
    · rw [sealing] at state
      rcases state with state | state
      · exact absurd state.symm unsealed
      · cases state
    · have isOld : owner = old := (placed _ placedHere).2
      rw [isOld] at bucket
      exact absurd (bucket.symm.trans replaceable.serves.2.1.symm) elsewhere
    · exact others.alone source present isData bucket state

end Round

/-! ## The loop -/

section Loop

variable {now : Time} {retired : State} {retire : Rewrite} {db : Db}

/-- One round and the rest of the loop are the whole loop, row by row: a row that
the first round has changed is left alone by the rest. -/
theorem replaceRow_comp (busy : retired ≠ .standby)
    (sealing : forall row, (retire.apply row).state = .sealed) {old : Shard} {rest : List Shard}
    (replaceable : forall other, other ∈ old :: rest -> Replaceable retired db other) (fresh : old ∉ rest)
    {row : Shard} (member : row ∈ db.shards) :
    replaceRow now retire rest ((standbyPool db).tail.zip rest)
        (replaceRow now retire [old] ((standbyPool db).zip [old]) row) =
      replaceRow now retire (old :: rest) ((standbyPool db).zip (old :: rest)) row := by
  have occupied : forall other, other ∈ old :: rest -> ¬ Pooled other := by
    intro other listed pooled
    exact busy ((replaceable other listed).serves.2.2.symm.trans pooled.2.1)
  have inPool : forall {places others : List Shard} {place : Shard × Shard}, places ⊆ standbyPool db ->
      place ∈ places.zip others -> place.1 ∈ db.shards ∧ Pooled place.1 := by
    intro places others place listed zipped
    exact mem_standbyPool.mp (listed (List.of_mem_zip zipped).1)
  -- A changed row keeps its id, so it is neither another listed row nor a pooled one.
  have settled : forall changed : Shard, changed.id = row.id -> row ∉ rest -> ¬ Pooled changed ->
      replaceRow now retire rest ((standbyPool db).tail.zip rest) changed = changed := by
    intro changed sameID unlisted unpooled
    apply replaceRow_kept
    · intro listed
      have present := (replaceable changed (List.mem_cons_of_mem _ listed)).member
      rw [db.eq_of_id present member sameID] at listed
      exact unlisted listed
    · rintro place zipped rfl
      exact unpooled (inPool (fun _ => List.mem_of_mem_tail) zipped).2
  by_cases isOld : row = old
  · subst isOld
    rw [replaceRow_retired List.mem_cons_self, replaceRow_retired List.mem_cons_self]
    apply settled _ (retire.id_eq row) fresh
    rintro ⟨_, standby, _⟩
    have states := (sealing row).symm.trans standby
    cases states
  · have notFirst : row ∉ [old] := by
      rw [List.mem_singleton]
      exact isOld
    cases pool : standbyPool db with
    | nil =>
        have kept : replaceRow now retire [old] [] row = row :=
          replaceRow_kept notFirst fun _ absent => absurd absent List.not_mem_nil
        simp only [List.zip_nil_left, List.tail_nil, kept]
        simp only [replaceRow, List.mem_cons, isOld, false_or]
    | cons spare tail =>
        rw [List.zip_cons_cons, List.zip_cons_cons, List.zip_nil_right, List.tail_cons]
        by_cases isSpare : row = spare
        · subst isSpare
          have pooled : Pooled row := (mem_standbyPool.mp (pool ▸ List.mem_cons_self)).2
          have unlisted : row ∉ old :: rest := fun listed => occupied row listed pooled
          have activated : ¬ Pooled ((Rewrite.activate now (old.bucketID.getD "")).apply row) := by
            rintro ⟨_, standby, _⟩
            cases standby
          rw [pool, List.tail_cons] at settled
          rw [replaceRow_cons_self notFirst, replaceRow_cons_self unlisted,
            settled ((Rewrite.activate now (old.bucketID.getD "")).apply row) rfl
              (fun listed => unlisted (List.mem_cons_of_mem _ listed)) activated]
        · rw [replaceRow_cons_other isSpare isOld, replaceRow_cons_other isSpare isOld, replaceRow_nil]

/-- The whole loop: the shards of the list are retired, and the first shards of the
pool are put in the places of the first of them. -/
theorem rotateAll_replaces (env : Env) (busy : retired ≠ .standby) (unsealed : retired ≠ .sealed)
    (sealing : forall row, (retire.apply row).state = .sealed) {olds : List Shard} (distinct : olds.Nodup)
    (replaceable : forall old, old ∈ olds -> Replaceable retired db old) :
    (rotateAll env now retired retire olds db).shards =
        db.shards.map (replaceRow now retire olds ((standbyPool db).zip olds)) ∧
      standbyPool (rotateAll env now retired retire olds db) = (standbyPool db).drop olds.length ∧
      getConfig (rotateAll env now retired retire olds db) = getConfig db := by
  induction olds generalizing db with
  | nil =>
      refine ⟨?_, rfl, rfl⟩
      refine ((List.map_congr_left ?_).trans (List.map_id db.shards)).symm
      intro row _
      rw [List.zip_nil_right, replaceRow_nil]
      rfl
  | cons old rest inductionHypothesis =>
      rcases List.nodup_cons.mp distinct with ⟨fresh, distinctRest⟩
      have first := replaceable old List.mem_cons_self
      rcases rotateOrKeep_replaces env now busy sealing first with ⟨table, pool, cluster⟩
      have others : forall other, other ∈ rest ->
          Replaceable retired (rotateOrKeep env now retired retire db old) other := by
        intro other listed
        apply first.after_other env now busy unsealed sealing (replaceable other (List.mem_cons_of_mem _ listed))
        rintro rfl
        exact fresh listed
      rcases inductionHypothesis distinctRest others with ⟨restTable, restPool, restConfig⟩
      rw [rotateAll, List.foldl_cons, ← rotateAll]
      refine ⟨?_, ?_, restConfig.trans (getConfig_bumped cluster)⟩
      · rw [restTable, table, pool, List.map_map]
        apply List.map_congr_left
        intro row member
        exact replaceRow_comp busy sealing replaceable fresh member
      · rw [restPool, pool, List.length_cons, List.drop_tail]

/-- The loop keeps one shard in service per bucket. -/
theorem rotateAll_oneLive (env : Env) (busy : retired ≠ .standby)
    (serving : forall bucketID row, InState retired bucketID row -> Live bucketID row)
    (sealing : forall row, (retire.apply row).state = .sealed) (olds : List Shard) (held : OneLive db) :
    OneLive (rotateAll env now retired retire olds db) := by
  induction olds generalizing db with
  | nil => exact held
  | cons old rest inductionHypothesis =>
      apply inductionHypothesis
      unfold rotateOrKeep
      split
      · rename_i outcome
        exact rotate_oneLive held busy (serving _) sealing outcome
      · exact held

end Loop

end Control
end Shardman
