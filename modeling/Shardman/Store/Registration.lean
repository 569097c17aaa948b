import Shardman.Store.Histories

namespace Shardman
namespace Store

open Fsm
open Foundation

/-!
# Registration as an upsert

`registerShard` inserts a row for a new uuid and refreshes the address of a known
one.  Two things keep it from being an upsert on the pair of uuid and role.  The
check for a second error shard also counts the shard that is being registered,
so the error shard can never register again.  And the refresh leaves the role
alone, so a known uuid registers successfully under a role that it does not
have.  This module says for which registrations the contract of an idempotent
upsert holds all the same.
-/

section Outcomes

variable (now : Time) (uuid : UUID) (role : Role) (dsn advertiseURL startupState : String) (db : Db)

/-- What a registration is refused for. -/
def Refused : Prop :=
  (startupStateAllowed startupState = false ∧ role = .data) ∨
    (role = .error ∧ Exists fun row => row ∈ db.shards ∧ row.role = .error)

/-- The table after the address of one shard was refreshed. -/
def Db.tableReaddressed : List Shard :=
  db.shards.map ((Rewrite.readdress dsn (nullStr advertiseURL) now).only fun row => row.shardUUID = uuid).apply

/-- A registration is refused, or refreshes the row of its uuid, or inserts a
row for it. -/
theorem registerShard_cases :
    (Refused role startupState db ∧ Exists fun failure =>
      registerShard now uuid role dsn advertiseURL startupState db = .error failure) ∨
    (¬ Refused role startupState db ∧ Exists fun id => Exists fun after =>
      registerShard now uuid role dsn advertiseURL startupState db = .ok (id, after) ∧
      ((Exists fun row => row ∈ db.shards ∧ row.shardUUID = uuid ∧
          after.shards = db.tableReaddressed now uuid dsn advertiseURL) ∨
        ((forall other, other ∈ db.shards -> other.shardUUID ≠ uuid) ∧
          after.shards =
            db.shards ++ [registeredShard db.nextID uuid role dsn (nullStr advertiseURL) now]))) := by
  have roles : role ≠ .error ↔ role = .data := by cases role <;> decide
  unfold registerShard
  split
  · rename_i unwelcome
    exact Or.inl ⟨Or.inl ⟨Bool.eq_false_iff.mpr unwelcome.1, roles.mp unwelcome.2⟩, _, rfl⟩
  · rename_i welcome
    split
    · rename_i taken
      exact Or.inl ⟨Or.inr taken, _, rfl⟩
    · rename_i free
      refine Or.inr ⟨?_, ?_⟩
      · rintro (⟨refused, isData⟩ | taken)
        · exact welcome ⟨Bool.eq_false_iff.mp refused, roles.mpr isData⟩
        · exact free taken
      · split
        · rename_i row known
          rcases updateWhere_unindexing db (fun other => other.shardUUID = uuid)
            (.readdress dsn (nullStr advertiseURL) now) (fun _ _ _ => Or.inl rfl) with ⟨updated, outcome⟩
          rw [outcome]
          have named := List.find?_some known
          exact ⟨_, _, rfl, Or.inl ⟨row, List.mem_of_find?_eq_some known, of_decide_eq_true named,
            (updateWhere_ok outcome).2.1⟩⟩
        · rename_i unknown
          refine ⟨_, _, rfl, Or.inr ⟨?_, rfl⟩⟩
          intro other member same
          exact List.find?_eq_none.mp unknown other member (decide_eq_true same)

end Outcomes

/-- The uuid identifies a row. -/
theorem eq_of_uuid {db : Db} {first second : Shard} (firstMember : first ∈ db.shards)
    (secondMember : second ∈ db.shards) (same : first.shardUUID = second.shardUUID) : first = second :=
  db.eq_of_id firstMember secondMember
    (db.uuidUnique first firstMember second secondMember (Option.some_ne_none _) (congrArg some same))

/-! ## The contract -/

/-- The table holds one row for a uuid, with the given role and address.  An
earlier row of the uuid kept what it is used for, and the other rows are the
same as before. -/
def Upserted (uuid : UUID) (role : Role) (dsn advertiseURL : String) (before after : Db) : Prop :=
  (Exists fun row => row ∈ after.shards ∧ row.shardUUID = uuid ∧
    (forall other, other ∈ after.shards -> other.shardUUID = uuid -> other = row) ∧
    row.role = role ∧ row.dsn = dsn ∧ row.advertiseURL = nullStr advertiseURL ∧
    forall old, old ∈ before.shards -> old.shardUUID = uuid ->
      row.state = old.state ∧ row.bucketID = old.bucketID ∧ row.reportedBytes = old.reportedBytes ∧
        row.version = old.version) ∧
  forall other, other.shardUUID ≠ uuid -> (other ∈ after.shards ↔ other ∈ before.shards)

/-- The contract of an idempotent upsert for one registration. -/
structure RegistersOnce (env : Env) (moment : Moment) (uuid : UUID) (role : Role)
    (dsn advertiseURL startupState : String) : Prop where
  succeeded : forall id,
    (perform env (.registerShard uuid role dsn advertiseURL startupState) moment).1 = .ok id ->
      Upserted uuid role dsn advertiseURL moment.db
        (perform env (.registerShard uuid role dsn advertiseURL startupState) moment).2.db
  repeats : (Exists fun row => row ∈ moment.db.shards ∧ row.shardUUID = uuid ∧ row.role = role) ->
    Exists fun id =>
      (perform env (.registerShard uuid role dsn advertiseURL startupState) moment).1 = .ok id
  failed : forall failure,
    (perform env (.registerShard uuid role dsn advertiseURL startupState) moment).1 = .error failure ->
      (perform env (.registerShard uuid role dsn advertiseURL startupState) moment).2.db.shards =
        moment.db.shards ∧
      getTopologyVersion (perform env (.registerShard uuid role dsn advertiseURL startupState) moment).2.db =
        getTopologyVersion moment.db

/-- The registrations that keep the contract: of an unknown uuid; of a data
shard as a data shard, with a startup state that is allowed; of the error shard
as a data shard with a startup state that is not; and of a data shard as an error
shard while there is one. -/
def KeepsRole (db : Db) (uuid : UUID) (role : Role) (startupState : String) : Prop :=
  forall row, row ∈ db.shards -> row.shardUUID = uuid ->
    (row.role = .data ∧ role = .data ∧ startupStateAllowed startupState = true) ∨
    (row.role = .error ∧ role = .data ∧ startupStateAllowed startupState = false) ∨
    (row.role = .data ∧ role = .error ∧ Exists fun other => other ∈ db.shards ∧ other.role = .error)

/-! ## What a refresh and an insert leave behind -/

section Upserts

variable {now : Time} {uuid : UUID} {role : Role} {dsn advertiseURL : String} {before after : Db}

theorem mem_tableReaddressed {row : Shard} :
    row ∈ before.tableReaddressed now uuid dsn advertiseURL ↔
      (Exists fun old => old ∈ before.shards ∧ old.shardUUID = uuid ∧
        row = (Rewrite.readdress dsn (nullStr advertiseURL) now).apply old) ∨
      (row ∈ before.shards ∧ row.shardUUID ≠ uuid) := by
  rw [Db.tableReaddressed, List.mem_map]
  constructor
  · rintro ⟨old, present, rfl⟩
    rw [only_apply]
    by_cases named : old.shardUUID = uuid
    · rw [if_pos (decide_eq_true named)]
      exact Or.inl ⟨old, present, named, rfl⟩
    · rw [if_neg (by simpa using named)]
      exact Or.inr ⟨present, named⟩
  · rintro (⟨old, present, named, rfl⟩ | ⟨present, unnamed⟩)
    · refine ⟨old, present, ?_⟩
      rw [only_apply, if_pos (decide_eq_true named)]
    · refine ⟨row, present, ?_⟩
      rw [only_apply, if_neg (by simpa using unnamed)]

/-- A refresh is an upsert exactly under the role that the row has. -/
theorem upserted_readdressed {row : Shard} (member : row ∈ before.shards) (named : row.shardUUID = uuid)
    (table : after.shards = before.tableReaddressed now uuid dsn advertiseURL) :
    Upserted uuid role dsn advertiseURL before after ↔ row.role = role := by
  have refreshed : (Rewrite.readdress dsn (nullStr advertiseURL) now).apply row ∈ after.shards := by
    rw [table]
    exact mem_tableReaddressed.mpr (Or.inl ⟨row, member, named, rfl⟩)
  constructor
  · rintro ⟨⟨found, _, _, unique, sameRole, _⟩, _⟩
    have same := unique _ refreshed named
    rw [← sameRole, ← same]
    rfl
  · intro sameRole
    refine ⟨⟨_, refreshed, named, ?_, sameRole, rfl, rfl, ?_⟩, ?_⟩
    · intro other otherMember otherNamed
      rw [table] at otherMember
      rcases mem_tableReaddressed.mp otherMember with ⟨old, present, oldNamed, rfl⟩ | ⟨_, unnamed⟩
      · rw [eq_of_uuid present member (oldNamed.trans named.symm)]
      · exact absurd otherNamed unnamed
    · intro old present oldNamed
      rw [eq_of_uuid present member (oldNamed.trans named.symm)]
      exact ⟨rfl, rfl, rfl, rfl⟩
    · intro other unnamed
      rw [table, mem_tableReaddressed]
      constructor
      · rintro (⟨old, _, oldNamed, rfl⟩ | ⟨present, _⟩)
        · exact absurd oldNamed unnamed
        · exact present
      · intro present
        exact Or.inr ⟨present, unnamed⟩

/-- An insert is an upsert. -/
theorem upserted_inserted {id : Nat} (unknown : forall other, other ∈ before.shards -> other.shardUUID ≠ uuid)
    (table : after.shards =
      before.shards ++ [registeredShard id uuid role dsn (nullStr advertiseURL) now]) :
    Upserted uuid role dsn advertiseURL before after := by
  have members : forall row, row ∈ after.shards ↔
      row ∈ before.shards ∨ row = registeredShard id uuid role dsn (nullStr advertiseURL) now := by
    intro row
    rw [table, List.mem_append, List.mem_singleton]
  refine ⟨⟨_, (members _).mpr (Or.inr rfl), rfl, ?_, rfl, rfl, rfl, ?_⟩, ?_⟩
  · intro other member named
    rcases (members other).mp member with old | new
    · exact absurd named (unknown other old)
    · exact new
  · intro old present named
    exact absurd named (unknown old present)
  · intro other unnamed
    rw [members]
    constructor
    · rintro (present | rfl)
      · exact present
      · exact absurd rfl unnamed
    · exact Or.inl

end Upserts

/-! ## When the contract holds -/

section Contract

variable {env : Env} {moment : Moment} {uuid : UUID} {role : Role} {dsn advertiseURL startupState : String}

/-- A refused registration keeps the contract when no row should have been
refreshed. -/
theorem registersOnce_of_failure {failure : StoreError}
    (failed : registerShard moment.now uuid role dsn advertiseURL startupState moment.db = .error failure) :
    RegistersOnce env moment uuid role dsn advertiseURL startupState ↔
      forall row, row ∈ moment.db.shards -> row.shardUUID = uuid -> row.role ≠ role := by
  have outcome : perform env (.registerShard uuid role dsn advertiseURL startupState) moment =
      (.error failure, moment) := by
    simp only [perform, commit, failed]
  constructor
  · intro contract row member named same
    rcases contract.repeats ⟨row, member, named, same⟩ with ⟨id, done⟩
    rw [outcome] at done
    cases done
  · intro unmatched
    refine ⟨?_, ?_, ?_⟩
    · intro id done
      rw [outcome] at done
      cases done
    · rintro ⟨row, member, named, same⟩
      exact absurd same (unmatched row member named)
    · intro _ _
      rw [outcome]
      exact ⟨rfl, rfl⟩

/-- A registration that goes through keeps the contract when it is an upsert. -/
theorem registersOnce_of_success {id : Nat} {after : Db}
    (done : registerShard moment.now uuid role dsn advertiseURL startupState moment.db = .ok (id, after)) :
    RegistersOnce env moment uuid role dsn advertiseURL startupState ↔
      Upserted uuid role dsn advertiseURL moment.db after := by
  have outcome : perform env (.registerShard uuid role dsn advertiseURL startupState) moment =
      (.ok id, { moment with db := after }) := by
    simp only [perform, commit, done]
  constructor
  · intro contract
    have upserted := contract.succeeded id (by rw [outcome])
    rw [outcome] at upserted
    exact upserted
  · intro upserted
    refine ⟨?_, fun _ => ⟨id, by rw [outcome]⟩, ?_⟩
    · intro _ _
      rw [outcome]
      exact upserted
    · intro failure failed
      rw [outcome] at failed
      cases failed

end Contract

/-! ## The condition -/

section Condition

variable {db : Db} {uuid : UUID} {role : Role} {startupState : String}

/-- Where a registration is refused, the condition is that the row has another
role. -/
theorem keepsRole_iff_of_refused (refused : Refused role startupState db) :
    KeepsRole db uuid role startupState ↔
      forall row, row ∈ db.shards -> row.shardUUID = uuid -> row.role ≠ role := by
  constructor
  · intro keeps row member named same
    rcases keeps row member named with ⟨_, isData, allowed⟩ | ⟨isError, isData, _⟩ | ⟨isData, isError, _⟩
    · rcases refused with ⟨refused, _⟩ | ⟨isError, _⟩
      · rw [allowed] at refused
        cases refused
      · rw [isData] at isError
        cases isError
    · rw [isError, isData] at same
      cases same
    · rw [isData, isError] at same
      cases same
  · intro unmatched row member named
    have different := unmatched row member named
    rcases refused with ⟨refused, rfl⟩ | ⟨rfl, present⟩
    · cases isRole : row.role with
      | data => exact absurd isRole different
      | error => exact Or.inr (Or.inl ⟨rfl, rfl, refused⟩)
    · cases isRole : row.role with
      | data => exact Or.inr (Or.inr ⟨rfl, rfl, present⟩)
      | error => exact absurd isRole different

/-- Where it goes through, the condition is that the row has this role. -/
theorem keepsRole_iff_of_welcome (welcome : ¬ Refused role startupState db) {row : Shard}
    (member : row ∈ db.shards) (named : row.shardUUID = uuid) :
    KeepsRole db uuid role startupState ↔ row.role = role := by
  constructor
  · intro keeps
    rcases keeps row member named with ⟨first, second, _⟩ | ⟨_, isData, refused⟩ | ⟨_, isError, present⟩
    · rw [first, second]
    · exact absurd (Or.inl ⟨refused, isData⟩) welcome
    · exact absurd (Or.inr ⟨isError, present⟩) welcome
  · rintro rfl other otherMember otherNamed
    rw [eq_of_uuid otherMember member (otherNamed.trans named.symm)]
    cases isRole : row.role with
    | data =>
        refine Or.inl ⟨rfl, rfl, ?_⟩
        by_contra refused
        exact welcome (Or.inl ⟨Bool.eq_false_iff.mpr refused, isRole⟩)
    | error => exact absurd (Or.inr ⟨isRole, row, member, isRole⟩) welcome

end Condition

/-- For every database, uuid, role, address and startup state, registration
keeps the contract of an idempotent upsert exactly when the uuid is unknown, or
the registration does not ask an existing row to be what it is not. -/
theorem registersOnce_iff_keepsRole (env : Env) (moment : Moment) (uuid : UUID) (role : Role)
    (dsn advertiseURL startupState : String) :
    RegistersOnce env moment uuid role dsn advertiseURL startupState ↔
      KeepsRole moment.db uuid role startupState := by
  rcases registerShard_cases moment.now uuid role dsn advertiseURL startupState moment.db with
    ⟨refused, failure, failed⟩ | ⟨welcome, id, after, done, ⟨row, member, named, table⟩ | ⟨unknown, table⟩⟩
  · rw [registersOnce_of_failure failed, keepsRole_iff_of_refused refused]
  · rw [registersOnce_of_success done, upserted_readdressed member named table,
      keepsRole_iff_of_welcome welcome member named]
  · rw [registersOnce_of_success done]
    refine iff_of_true (upserted_inserted unknown table) ?_
    intro other member named
    exact absurd named (unknown other member)

/-- A data shard and an error shard are registered. -/
def twoRegistrations : List StoreAct :=
  [.perform (.bootstrap (sampleConfig 100)), .perform (.registerShard 1 .data "a" "" ""),
    .perform (.registerShard 7 .error "e" "" "")]

/-- The data shard can move to another address. -/
theorem registersOnce_iff_keepsRole_moved :
    Exists fun past => Exists fun moment => Histories sampleEnv ⟨Db.fresh, 0⟩ past moment ∧
      (Exists fun row => row ∈ moment.db.shards ∧ row.shardUUID = 1) ∧
      RegistersOnce sampleEnv moment 1 .data "b" "" "" := by
  have passed : replayCheck (advance sampleEnv) twoRegistrations ⟨Db.fresh, 0⟩ (fun _ moment =>
      decide ((Exists fun row => row ∈ moment.db.shards ∧ row.shardUUID = 1) ∧
        forall row, row ∈ moment.db.shards -> row.shardUUID = 1 -> row.role = .data)) = true := by
    decide +kernel
  rcases replayCheck_run passed with ⟨past, moment, run, checked⟩
  rcases of_decide_eq_true checked with ⟨known, isData⟩
  refine ⟨past, moment, run, known, (registersOnce_iff_keepsRole sampleEnv moment 1 .data "b" "" "").mpr ?_⟩
  intro row member named
  exact Or.inl ⟨isData row member named, rfl, rfl⟩

/-- After these registrations the error shard is refused when it registers again
with the same uuid, role and address.  And before the error shard came, the data
shard registers as an error shard with success, and is a data shard afterwards. -/
theorem error_shard_registers_only_once :
    (Exists fun past => Exists fun moment => Histories sampleEnv ⟨Db.fresh, 0⟩ past moment ∧
      (Exists fun row => row ∈ moment.db.shards ∧ row.shardUUID = 7 ∧ row.role = .error ∧ row.dsn = "e") ∧
      (perform sampleEnv (.registerShard 7 .error "e" "" "") moment).1 = .error .conflict ∧
      ¬ RegistersOnce sampleEnv moment 7 .error "e" "" "") ∧
    (Exists fun past => Exists fun moment => Histories sampleEnv ⟨Db.fresh, 0⟩ past moment ∧
      (perform sampleEnv (.registerShard 1 .error "e" "" "") moment).1 = .ok 1 ∧
      (forall row, row ∈ (perform sampleEnv (.registerShard 1 .error "e" "" "") moment).2.db.shards ->
        row.shardUUID = 1 ∧ row.role = .data) ∧
      ¬ RegistersOnce sampleEnv moment 1 .error "e" "" "") := by
  constructor
  · have passed : replayCheck (advance sampleEnv) twoRegistrations ⟨Db.fresh, 0⟩ (fun _ moment =>
        decide ((Exists fun row => row ∈ moment.db.shards ∧ row.shardUUID = 7 ∧ row.role = .error ∧
          row.dsn = "e") ∧
          (perform sampleEnv (.registerShard 7 .error "e" "" "") moment).1 = .error .conflict)) = true := by
      decide +kernel
    rcases replayCheck_run passed with ⟨past, moment, run, checked⟩
    rcases of_decide_eq_true checked with ⟨⟨row, member, named, isError, address⟩, refused⟩
    refine ⟨past, moment, run, ⟨row, member, named, isError, address⟩, refused, ?_⟩
    intro contract
    rcases contract.repeats ⟨row, member, named, isError⟩ with ⟨id, done⟩
    rw [refused] at done
    cases done
  · have passed : replayCheck (advance sampleEnv) (twoRegistrations.take 2) ⟨Db.fresh, 0⟩ (fun _ moment =>
        decide ((perform sampleEnv (.registerShard 1 .error "e" "" "") moment).1 = .ok 1 ∧
          forall row, row ∈ (perform sampleEnv (.registerShard 1 .error "e" "" "") moment).2.db.shards ->
            row.shardUUID = 1 ∧ row.role = .data)) = true := by
      decide +kernel
    rcases replayCheck_run passed with ⟨past, moment, run, checked⟩
    rcases of_decide_eq_true checked with ⟨done, stillData⟩
    refine ⟨past, moment, run, done, stillData, ?_⟩
    intro contract
    rcases (contract.succeeded 1 done).1 with ⟨row, member, _, _, isError, _⟩
    rw [(stillData row member).2] at isError
    cases isError

end Store
end Shardman
