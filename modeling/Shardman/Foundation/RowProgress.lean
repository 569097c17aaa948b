import Mathlib.Logic.Hydra
import Mathlib.Data.List.Perm.Basic
import Shardman.Foundation.RowStatements

namespace Shardman
namespace Foundation

/-!
# Transactions that never deadlock

A transaction waits for a row that another one holds, for a key that another one
is about to give up or to take, or for the single row.  Three disciplines rule
out that transactions wait for each other in a circle.  The single row is locked
last.  Rows are locked in increasing order of their ids.  And a transaction that
has written a row with a key that others may want, a bound transaction, waits
for nothing any more.  `Ready` states them for one access, `Orderly` for a whole
program.

In a state where nobody could move, all transactions would wait for rows, and
the holder of an awaited row would itself wait for a row with a larger id.
-/

variable {Row Single Entry Failure Value X Y Fixed : Type} {layout : Layout Row}

/-- Two rows clash because of a key that never changes, or because both have a
key that rows come to have. -/
structure Keys (layout : Layout Row) (Fixed : Type) where
  fixed : Row -> Fixed
  Keyed : Row -> Prop
  split : forall first second, layout.clash first second = true ->
    fixed first = fixed second ∨ Keyed first ∧ Keyed second
  shared : forall first second, fixed first = fixed second -> layout.clash first second = true

section Disciplines

variable (keys : Keys layout Fixed) (held : Held Row Single)

def KeepsFixed (change : RowChange layout) : Prop :=
  forall row, keys.fixed (change.apply row) = keys.fixed row

/-- The transaction has only written rows without a key, and inserted none. -/
def Unbound : Prop :=
  forall version, version ∈ held.own -> ¬ keys.Keyed version ∧ Exists fun row => row ∈ held.locked ∧
    layout.ident row = layout.ident version ∧ ¬ keys.Keyed row ∧ keys.fixed row = keys.fixed version

/-- A row comes after all rows that the transaction holds. -/
def Ascending (layout : Layout Row) (held : Held Row Single) (id : Nat) : Prop :=
  forall other, held.Has layout other -> other < id

/-- The keys of a new version are those of its row, or those that a row written
before has given up. -/
def Covers (layout : Layout Row) (held : Held Row Single) (id : Nat) (condition : Row -> Bool)
    (change : RowChange layout) : Prop :=
  Exists fun old => old ∈ held.locked ∧ layout.Names held.own (layout.ident old) ∧
    forall row, held.Reads layout row -> layout.ident row = id -> condition row = true -> forall other,
      layout.clash (change.apply row) other = true ->
      layout.clash row other = true ∨ layout.clash old other = true

/-- The discipline of one access. -/
def Ready : Access layout Single -> Prop
  | .lock id _ => Unbound keys held ∧ (held.Has layout id ∨ Ascending layout held id)
  | .write id condition change => KeepsFixed keys change ∧
      (Unbound keys held ∧ (held.Has layout id ∨ Ascending layout held id) ∨
        held.Has layout id ∧ Covers layout held id condition change)
  | .insert new target change => held.locked = [] ∧ held.own = [] ∧ KeepsFixed keys change ∧
      forall id row, target row = true ↔ keys.fixed row = keys.fixed (new.make id)
  | _ => True

/-- Every access of the program keeps to the disciplines, whatever the others
do. -/
def Orderly (given : Committed Row Single -> Prop) : Accessing layout Single X -> Held Row Single -> Prop
  | .finish _, _ => True
  | .request op next, held =>
      forall committed others, given committed -> Context layout committed others held ->
        (held.single = none ∧ Ready keys held op) ∧
          forall reply after, access layout others committed held op = some (reply, after) ->
            Orderly given (next reply) after

end Disciplines

/-! ## Waiting for keys -/

section Waiting

variable {keys : Keys layout Fixed} {committed : Committed Row Single} {others : List (Held Row Single)}
variable {held : Held Row Single}

theorem Ascending.of_empty {id : Nat} (locked : held.locked = []) (own : held.own = []) : Ascending layout held id := by
  rintro other ⟨row, member, _⟩
  rw [locked, own] at member
  cases member

theorem unbound_of_unwritten (own : held.own = []) : Unbound keys held := by
  intro version member
  rw [own] at member
  cases member

/-- What must be waited for: another transaction has written a row with a key of
the version, or a version with such a key. -/
theorem verdict_waits {table : List Row} {version : Row}
    (waits : verdict layout others table held version = .waits) :
    Exists fun other => other ∈ others ∧
      ((Exists fun theirs => theirs ∈ other.own ∧ layout.clash version theirs = true) ∨
        Exists fun row => row ∈ table ∧ layout.ident row ≠ layout.ident version ∧
          ¬ layout.Names held.own (layout.ident row) ∧ layout.clash version row = true ∧
          layout.Names other.own (layout.ident row)) := by
  unfold verdict at waits
  split at waits
  · cases waits
  · split at waits
    · cases waits
    · rename_i undecided
      split at waits
      · rename_i reason
        rcases reason with ⟨row, member, clashing⟩ | ⟨other, member, theirs, written, clashes⟩
        · have claimed : ¬ forall other, other ∈ others -> ¬ layout.Names other.own (layout.ident row) :=
            fun unclaimed => undecided ⟨row, member, clashing, unclaimed⟩
          simp only [not_forall, not_not] at claimed
          rcases claimed with ⟨other, listed, named⟩
          exact ⟨other, listed, Or.inr ⟨row, member, clashing.1, clashing.2.1, clashing.2.2, named⟩⟩
        · exact ⟨other, member, Or.inl ⟨theirs, written, clashes⟩⟩
      · cases waits

/-- A row that the transaction sees, and that nobody else holds, shares no key
with what the others have written. -/
theorem Context.clear_of_theirs (context : Context layout committed others held) {row theirs : Row}
    {other : Held Row Single} (member : other ∈ others) (seen : row ∈ held.visible layout committed.table)
    (free : ¬ other.Has layout (layout.ident row)) (written : theirs ∈ other.own) :
    layout.clash row theirs = false := by
  rcases Layout.mem_overlay.mp seen with mine | ⟨old, _⟩
  · exact (context.apart other member).versions row mine theirs written
  · rw [layout.clash_comm]
    exact (context.theirs other member).clear theirs written row old fun named =>
      free (Layout.names_append.mpr (Or.inr named))

/-- Nor does it share a key with the committed rows that it leaves visible. -/
theorem Context.clear_of_table (context : Context layout committed others held) {row other : Row}
    (seen : row ∈ held.visible layout committed.table) (member : other ∈ committed.table)
    (different : layout.ident other ≠ layout.ident row) (unwritten : ¬ layout.Names held.own (layout.ident other)) :
    layout.clash row other = false := by
  rcases Layout.mem_overlay.mp seen with mine | ⟨old, _⟩
  · exact context.fits.clear row mine other member unwritten
  · exact context.clashFree row old other member (Ne.symm different)

/-- A committed row that an unbound transaction has written has no key. -/
theorem Unbound.not_keyed {other : Held Row Single} (unbound : Unbound keys other) (fits : Fits layout committed other)
    (sorted : layout.Sorted committed.table) {row : Row} (member : row ∈ committed.table)
    (named : layout.Names other.own (layout.ident row)) : ¬ keys.Keyed row := by
  rcases named with ⟨version, written, same⟩
  rcases (unbound version written).2 with ⟨base, locked, alike, unkeyed, _⟩
  rw [← sorted.eq_of_ident (fits.locked base locked) member (alike.trans same)]
  exact unkeyed

/-- Nobody waits for the keys of unbound transactions when a row changes. -/
theorem verdict_of_unbound (context : Context layout committed others held)
    (unbound : forall other, other ∈ others -> Unbound keys other) {row : Row} {change : RowChange layout}
    (keeps : KeepsFixed keys change) (seen : row ∈ held.visible layout committed.table)
    (free : ¬ Taken layout others (layout.ident row)) :
    verdict layout others committed.table held (change.apply row) ≠ .waits := by
  intro waits
  rcases verdict_waits waits with ⟨other, member, ⟨theirs, written, clashes⟩ |
    ⟨claimed, listed, different, unwritten, clashes, named⟩⟩
  · rcases keys.split _ _ clashes with same | ⟨_, keyed⟩
    · rw [keeps] at same
      have clear := context.clear_of_theirs member seen (not_has_of_not_taken free member) written
      rw [keys.shared _ _ same] at clear
      cases clear
    · exact (unbound other member theirs written).1 keyed
  · rw [change.ident_eq] at different
    rcases keys.split _ _ clashes with same | ⟨_, keyed⟩
    · rw [keeps] at same
      have clear := context.clear_of_table seen listed different unwritten
      rw [keys.shared _ _ same] at clear
      cases clear
    · exact (unbound other member).not_keyed (context.theirs other member) context.sorted listed named keyed

/-- A transaction that takes over a key which it has given up itself waits for
nobody. -/
theorem verdict_of_covers (context : Context layout committed others held) {row : Row} {condition : Row -> Bool}
    {change : RowChange layout} (covers : Covers layout held (layout.ident row) condition change)
    (reads : held.Reads layout row) (selected : condition row = true) :
    verdict layout others committed.table held (change.apply row) ≠ .waits := by
  intro waits
  rcases covers with ⟨old, locked, given, clash⟩
  have seen := reads.visible context.fits
  have stored := context.fits.locked old locked
  have mine : held.Has layout (layout.ident old) := Layout.names_append.mpr (Or.inr given)
  rcases verdict_waits waits with ⟨other, member, ⟨theirs, written, clashes⟩ |
    ⟨claimed, listed, different, unwritten, clashes, _⟩⟩
  · have apart := context.apart other member
    rcases clash row reads rfl selected theirs clashes with before | given
    · rw [context.clear_of_theirs member seen (apart.ids _ reads.has) written] at before
      cases before
    · have unnamed : ¬ layout.Names other.own (layout.ident old) := fun named =>
        apart.ids _ mine (Layout.names_append.mpr (Or.inr named))
      rw [layout.clash_comm, (context.theirs other member).clear theirs written old stored unnamed] at given
      cases given
  · rw [change.ident_eq] at different
    rcases clash row reads rfl selected claimed clashes with before | taken
    · rw [context.clear_of_table seen listed different unwritten] at before
      cases before
    · have apart := context.clashFree old stored claimed listed (by
        intro same
        rw [same] at given
        exact unwritten given)
      rw [apart] at taken
      cases taken

theorem lockRow_none {table : List Row} {id : Nat} {condition : Row -> Bool}
    (blocked : lockRow layout others table held id condition = none) : Taken layout others id := by
  unfold lockRow at blocked
  split at blocked
  · assumption
  · split at blocked
    · split at blocked <;> cases blocked
    · cases blocked

theorem writeRow_none {table : List Row} {id : Nat} {condition : Row -> Bool} {change : RowChange layout}
    (blocked : writeRow layout others table held id condition change = none) (free : ¬ Taken layout others id) :
    Exists fun row => row ∈ held.visible layout table ∧ layout.ident row = id ∧ condition row = true ∧
      verdict layout others table held (change.apply row) = .waits := by
  unfold writeRow at blocked
  rw [if_neg free] at blocked
  split at blocked
  · cases blocked
  · rename_i row found
    split at blocked
    · rename_i selected
      split at blocked
      · rename_i waits
        rcases Layout.lookup_some found with ⟨seen, same⟩
        exact ⟨row, seen, same, selected, waits⟩
      · cases blocked
      · cases blocked
    · cases blocked

/-- What a transaction sees of a row that it holds, it reads. -/
theorem Context.reads_of_has (context : Context layout committed others held) {row : Row}
    (seen : row ∈ held.visible layout committed.table) (has : held.Has layout (layout.ident row)) :
    held.Reads layout row := by
  have reads := take_reads context.sorted context.fits seen
  rw [Held.take, if_pos has] at reads
  exact reads

theorem Context.not_taken_of_has (context : Context layout committed others held) {id : Nat}
    (has : held.Has layout id) : ¬ Taken layout others id := by
  rintro ⟨other, member, theirs⟩
  exact (context.apart other member).ids id has theirs

/-- A write in order waits only for a row that comes after all rows held. -/
theorem writeRow_awaits (context : Context layout committed others held)
    (unbound : forall other, other ∈ others -> Unbound keys other) {id : Nat} {condition : Row -> Bool}
    {change : RowChange layout} (keeps : KeepsFixed keys change)
    (ordered : held.Has layout id ∨ Ascending layout held id)
    (blocked : writeRow layout others committed.table held id condition change = none) :
    Taken layout others id ∧ Ascending layout held id := by
  by_cases taken : Taken layout others id
  · exact ⟨taken, ordered.resolve_left fun has => context.not_taken_of_has has taken⟩
  · rcases writeRow_none blocked taken with ⟨row, seen, rfl, _, waits⟩
    exact absurd waits (verdict_of_unbound context unbound keeps seen taken)

theorem writeRow_covered (context : Context layout committed others held) {id : Nat} {condition : Row -> Bool}
    {change : RowChange layout} (has : held.Has layout id) (covers : Covers layout held id condition change) :
    writeRow layout others committed.table held id condition change ≠ none := by
  intro blocked
  rcases writeRow_none blocked (context.not_taken_of_has has) with ⟨row, seen, rfl, selected, waits⟩
  exact verdict_of_covers context covers (context.reads_of_has seen has) selected waits

/-- An insertion waits only for the row that is there already. -/
theorem insertRow_awaits (context : Context layout committed others held)
    (unbound : forall other, other ∈ others -> Unbound keys other) (locked : held.locked = []) (own : held.own = [])
    {new : NewRow layout} {target : Row -> Bool} {change : RowChange layout} (keeps : KeepsFixed keys change)
    (targets : forall id row, target row = true ↔ keys.fixed row = keys.fixed (new.make id))
    (blocked : insertRow layout others committed.table held new target change = none) :
    Exists fun id => Taken layout others id ∧ Ascending layout held id := by
  have visible : forall row, row ∈ committed.table -> row ∈ held.visible layout committed.table := by
    intro row member
    refine Layout.mem_overlay.mpr (Or.inr ⟨member, ?_⟩)
    rw [own]
    exact Layout.not_names_nil
  unfold insertRow at blocked
  split at blocked
  · rename_i old found
    split at blocked
    · rename_i waiting
      exact ⟨_, writeRow_awaits context unbound keeps (Or.inr (.of_empty locked own)) waiting⟩
    · cases blocked
    · cases blocked
  · rename_i absent
    have untargeted : forall row, row ∈ committed.table -> ¬ target row = true := fun row member =>
      List.find?_eq_none.mp absent row (visible row member)
    split at blocked
    · cases blocked
    · rename_i id drawn
      split at blocked
      · cases blocked
      · rename_i unused
        exfalso
        split at blocked
        · rename_i claimed
          rcases claimed with ⟨other, member, theirs, written, wanted⟩
          rcases (unbound other member theirs written).2 with ⟨base, isLocked, alike, _, fixed⟩
          have stored := (context.theirs other member).locked base isLocked
          rcases wanted with targeted | same
          · exact untargeted base stored ((targets id base).mpr (fixed.trans ((targets id theirs).mp targeted)))
          · exact unused ⟨base, visible base stored, alike.trans same⟩
        · split at blocked
          · rename_i waits
            rcases verdict_waits waits with ⟨other, member, ⟨theirs, written, clashes⟩ |
              ⟨row, listed, _, _, clashes, named⟩⟩
            · rcases keys.split _ _ clashes with same | ⟨_, keyed⟩
              · rcases (unbound other member theirs written).2 with ⟨base, isLocked, _, _, fixed⟩
                exact untargeted base ((context.theirs other member).locked base isLocked)
                  ((targets id base).mpr (fixed.trans same.symm))
              · exact (unbound other member theirs written).1 keyed
            · rcases keys.split _ _ clashes with same | ⟨_, keyed⟩
              · exact untargeted row listed ((targets id row).mpr same.symm)
              · exact (unbound other member).not_keyed (context.theirs other member) context.sorted listed named keyed
          · cases blocked
          · cases blocked

/-- A bound transaction waits for nothing but the single row. -/
theorem access_of_bound (context : Context layout committed others held) {op : Access layout Single}
    (ready : Ready keys held op) (bound : ¬ Unbound keys held) (free : ¬ SingleTaken others) :
    access layout others committed held op ≠ none := by
  cases op with
  | view condition => exact Option.some_ne_none _
  | lock id condition => exact absurd ready.1 bound
  | tryLock id condition =>
      simp only [access]
      split <;> exact Option.some_ne_none _
  | write id condition change =>
      rcases ready.2 with ⟨unbound, _⟩ | ⟨has, covers⟩
      · exact absurd unbound bound
      · exact writeRow_covered context has covers
  | draw => exact Option.some_ne_none _
  | insert new target change => exact absurd (unbound_of_unwritten ready.2.1) bound
  | peek => exact Option.some_ne_none _
  | create value =>
      simp only [access, if_neg free]
      split <;> exact Option.some_ne_none _
  | alter change =>
      simp only [access, if_neg free]
      split <;> exact Option.some_ne_none _

/-- Among unbound transactions only rows are waited for, and only in increasing
order of their ids. -/
theorem access_awaits (context : Context layout committed others held) {op : Access layout Single}
    (ready : Ready keys held op) (unbound : forall other, other ∈ others -> Unbound keys other)
    (free : ¬ SingleTaken others) (blocked : access layout others committed held op = none) :
    Exists fun id => Taken layout others id ∧ Ascending layout held id := by
  cases op with
  | view condition => cases blocked
  | lock id condition =>
      have taken := lockRow_none blocked
      exact ⟨id, taken, ready.2.resolve_left fun has => context.not_taken_of_has has taken⟩
  | tryLock id condition =>
      simp only [access] at blocked
      split at blocked <;> cases blocked
  | write id condition change =>
      rcases ready.2 with ⟨_, ordered⟩ | ⟨has, covers⟩
      · exact ⟨id, writeRow_awaits context unbound ready.1 ordered blocked⟩
      · exact absurd blocked (writeRow_covered context has covers)
  | draw => cases blocked
  | insert new target change =>
      exact insertRow_awaits context unbound ready.1 ready.2.1 ready.2.2.1 ready.2.2.2 blocked
  | peek => cases blocked
  | create value =>
      simp only [access, if_neg free] at blocked
      split at blocked <;> cases blocked
  | alter change =>
      simp only [access, if_neg free] at blocked
      split at blocked <;> cases blocked

end Waiting

/-! ## Runs -/

section Runs

variable {keys : Keys layout Fixed} {given : Committed Row Single -> Prop}
variable {body : Entry -> Int -> Transaction Row Single Failure Value layout}
variable {engine after : Engine Row Single Entry Failure Value layout}

variable (keys given) in
/-- Every transaction in progress keeps to the disciplines, and those that have
ended hold nothing. -/
structure Disciplined (engine : Engine Row Single Entry Failure Value layout) : Prop where
  sound : Sound engine
  state : given engine.committed
  orderly : forall session, session ∈ engine.sessions -> session.isOpen = true ->
    Orderly keys given session.program session.held
  ended : forall session, session ∈ engine.sessions -> session.isOpen = false -> session.held = .empty

theorem Engine.step_disciplined (lasting : Lasting layout given)
    (bodies : forall entry started, Orderly keys given (body entry started) .empty)
    {action : EngineAction Entry} (disciplined : Disciplined keys given engine)
    (taken : engine.step body action = some after) : Disciplined keys given after := by
  have sound := Engine.step_sound disciplined.sound taken
  rcases Engine.step_cases taken with ⟨entry, _, rfl⟩ |
    ⟨index, entry, started, op, next, held, reply, later, _, found, done, rfl⟩ |
    ⟨index, entry, started, value, held, _, found, rfl⟩ |
    ⟨index, session, last, found, _, released, isClosed, rfl⟩ | ⟨duration, _, rfl⟩
  · refine ⟨sound, disciplined.state, ?_, ?_⟩
    · intro session member isOpen
      rcases List.mem_append.mp member with old | new
      · exact disciplined.orderly session old isOpen
      · cases List.mem_singleton.mp new
        exact bodies entry engine.now
    · intro session member isClosed
      rcases List.mem_append.mp member with old | new
      · exact disciplined.ended session old isClosed
      · cases List.mem_singleton.mp new
        cases isClosed
  · refine ⟨sound, lasting.advance _ op disciplined.state, ?_, ?_⟩
    · intro session member isOpen
      rcases mem_set_cases member with rfl | elsewhere
      · exact (disciplined.orderly _ (List.mem_of_getElem? found) rfl engine.committed (engine.others index)
          disciplined.state (disciplined.sound.context found)).2 reply later done
      · exact disciplined.orderly session (List.mem_of_mem_eraseIdx elsewhere) isOpen
    · intro session member isClosed
      rcases mem_set_cases member with rfl | elsewhere
      · cases isClosed
      · exact disciplined.ended session (List.mem_of_mem_eraseIdx elsewhere) isClosed
  · refine ⟨sound, lasting.absorb _ held disciplined.state, ?_, ?_⟩
    · intro session member isOpen
      rcases mem_set_cases member with rfl | elsewhere
      · cases isOpen
      · exact disciplined.orderly session (List.mem_of_mem_eraseIdx elsewhere) isOpen
    · intro session member isClosed
      rcases mem_set_cases member with rfl | elsewhere
      · rfl
      · exact disciplined.ended session (List.mem_of_mem_eraseIdx elsewhere) isClosed
  · refine ⟨sound, disciplined.state, ?_, ?_⟩
    · intro session member isOpen
      rcases mem_set_cases member with rfl | elsewhere
      · rw [isClosed] at isOpen
        cases isOpen
      · exact disciplined.orderly session (List.mem_of_mem_eraseIdx elsewhere) isOpen
    · intro session member closed
      rcases mem_set_cases member with rfl | elsewhere
      · exact released
      · exact disciplined.ended session (List.mem_of_mem_eraseIdx elsewhere) closed
  · exact ⟨sound, disciplined.state, disciplined.orderly, disciplined.ended⟩

theorem run_disciplined (lasting : Lasting layout given)
    (bodies : forall entry started, Orderly keys given (body entry started) .empty)
    {start : Engine Row Single Entry Failure Value layout} (sound : Sound start) (initial : given start.committed)
    (idle : start.sessions = [])
    {past : List (Event (Engine Row Single Entry Failure Value layout) (EngineAction Entry))}
    (run : EngineRun body start past engine) : Disciplined keys given engine := by
  refine Run.invariant (Disciplined keys given) (fun _ _ => True) ⟨sound, initial, ?_, ?_⟩ ?_ run fun _ _ => trivial
  · intro session member
    rw [idle] at member
    cases member
  · intro session member
    rw [idle] at member
    cases member
  · intro engine action after disciplined _ taken
    exact Engine.step_disciplined lasting bodies disciplined taken

/-- A transaction can make its next access, or has finished and can be closed. -/
def Engine.Moves (body : Entry -> Int -> Transaction Row Single Failure Value layout)
    (engine : Engine Row Single Entry Failure Value layout) (index : Nat) : Prop :=
  (engine.step body (.resume index)).isSome = true ∨ (engine.step body (.close index)).isSome = true

/-- A transaction in progress that cannot move has a next access, and it waits. -/
theorem Engine.stuck {index : Nat} {session : Session Row Single Entry Failure Value layout}
    (found : engine.sessions[index]? = some session) (isOpen : session.isOpen = true)
    (stuck : ¬ engine.Moves body index) :
    Exists fun op => Exists fun next => session.program = .request op next ∧
      access layout (engine.others index) engine.committed session.held op = none := by
  rcases session with ⟨entry, started, program, held, flag⟩
  have flagged : flag = true := isOpen
  subst flagged
  cases program with
  | finish outcome =>
      refine absurd (Or.inr ?_) stuck
      simp only [Engine.step, found, Option.isSome_some]
  | request op next =>
      refine ⟨op, next, rfl, ?_⟩
      cases outcome : access layout (engine.others index) engine.committed held op with
      | none => rfl
      | some result =>
          refine absurd (Or.inl ?_) stuck
          simp only [Engine.step, found, outcome, Option.isSome_some]

/-- The other transactions have their places in the list of sessions. -/
theorem Engine.placed {index : Nat} {other : Held Row Single} (member : other ∈ engine.others index) :
    Exists fun place : Nat => Exists fun session : Session Row Single Entry Failure Value layout =>
      engine.sessions[place]? = some session ∧ session.held = other := by
  rcases List.mem_map.mp member with ⟨session, elsewhere, rfl⟩
  rcases List.mem_eraseIdx_iff_getElem?.mp elsewhere with ⟨place, _, found⟩
  exact ⟨place, session, found, rfl⟩

/-! ### A state in which nobody moves -/

section Stuck

variable (disciplined : Disciplined keys given engine) (stuck : forall index, ¬ engine.Moves body index)

include disciplined stuck

theorem Disciplined.waiting {index : Nat} {session : Session Row Single Entry Failure Value layout}
    (found : engine.sessions[index]? = some session) (isOpen : session.isOpen = true) :
    Exists fun op => access layout (engine.others index) engine.committed session.held op = none ∧
      session.held.single = none ∧ Ready keys session.held op := by
  rcases Engine.stuck found isOpen (stuck index) with ⟨op, next, program, blocked⟩
  have orderly := disciplined.orderly session (List.mem_of_getElem? found) isOpen
  rw [program] at orderly
  have now := (orderly _ _ disciplined.state (disciplined.sound.context found)).1
  exact ⟨op, blocked, now.1, now.2⟩

theorem Disciplined.single_free (index : Nat) : ¬ SingleTaken (engine.others index) := by
  rintro ⟨other, member, holds⟩
  rcases Engine.placed member with ⟨place, session, found, rfl⟩
  cases isOpen : session.isOpen with
  | true =>
      rcases disciplined.waiting stuck found isOpen with ⟨_, _, single, _⟩
      rw [single] at holds
      cases holds
  | false =>
      rw [disciplined.ended session (List.mem_of_getElem? found) isOpen] at holds
      cases holds

theorem Disciplined.all_unbound {index : Nat} {other : Held Row Single} (member : other ∈ engine.others index) :
    Unbound keys other := by
  rcases Engine.placed member with ⟨place, session, found, rfl⟩
  cases isOpen : session.isOpen with
  | true =>
      rcases disciplined.waiting stuck found isOpen with ⟨op, blocked, _, ready⟩
      by_contra bound
      exact access_of_bound (disciplined.sound.context found) ready bound (disciplined.single_free stuck place) blocked
  | false =>
      rw [disciplined.ended session (List.mem_of_getElem? found) isOpen]
      exact unbound_of_unwritten rfl

/-- A transaction in progress waits for a row after all rows it holds. -/
theorem Disciplined.awaits {index : Nat} {session : Session Row Single Entry Failure Value layout}
    (found : engine.sessions[index]? = some session) (isOpen : session.isOpen = true) :
    Exists fun id => Taken layout (engine.others index) id ∧ Ascending layout session.held id := by
  rcases disciplined.waiting stuck found isOpen with ⟨op, blocked, _, ready⟩
  exact access_awaits (disciplined.sound.context found) ready (fun _ => disciplined.all_unbound stuck)
    (disciplined.single_free stuck index) blocked

/-- No row can be awaited: awaited ids grow from holder to holder, and they are
below the next id of the sequence. -/
theorem Disciplined.not_awaited (rest : Nat) {index id : Nat} (taken : Taken layout (engine.others index) id)
    (bound : engine.committed.next <= id + rest) : False := by
  induction rest generalizing index id with
  | zero =>
      rcases taken with ⟨other, member, row, listed, rfl⟩
      rcases Engine.placed member with ⟨place, holder, held, rfl⟩
      have fits := disciplined.sound.fits holder (List.mem_of_getElem? held)
      rcases List.mem_append.mp listed with locked | own
      · exact absurd (disciplined.sound.issued row (fits.locked row locked)) (Nat.not_lt.mpr bound)
      · exact absurd (fits.issued row own) (Nat.not_lt.mpr bound)
  | succ rest inductionHypothesis =>
      rcases taken with ⟨other, member, has⟩
      rcases Engine.placed member with ⟨place, holder, held, rfl⟩
      cases isOpen : holder.isOpen with
      | false =>
          rw [disciplined.ended holder (List.mem_of_getElem? held) isOpen] at has
          exact Layout.not_names_nil has
      | true =>
          rcases disciplined.awaits stuck held isOpen with ⟨awaited, taken, ascending⟩
          have later : id < awaited := ascending id has
          exact inductionHypothesis taken (by omega)

end Stuck

/-- As long as transactions are in progress, one of them can move. -/
theorem Disciplined.progress (disciplined : Disciplined keys given engine)
    {session : Session Row Single Entry Failure Value layout} (member : session ∈ engine.sessions)
    (isOpen : session.isOpen = true) : Exists fun index => engine.Moves body index := by
  by_contra nobody
  have stuck : forall index, ¬ engine.Moves body index := fun index moves => nobody ⟨index, moves⟩
  rcases List.getElem?_of_mem member with ⟨index, found⟩
  rcases disciplined.awaits stuck found isOpen with ⟨id, taken, _⟩
  exact disciplined.not_awaited stuck engine.committed.next taken (Nat.le_add_left _ _)

/-! ### Running to the end -/

/-- A program after one of its requests. -/
inductive Continues : Accessing layout Single X -> Accessing layout Single X -> Prop
  | reply {op : Access layout Single} {next : op.Reply -> Accessing layout Single X} (reply : op.Reply) :
      Continues (next reply) (.request op next)

theorem continues_wellFounded :
    WellFounded (Continues : Accessing layout Single X -> Accessing layout Single X -> Prop) := by
  refine ⟨fun program => ?_⟩
  induction program with
  | finish value =>
      refine ⟨_, fun later continues => ?_⟩
      cases continues
  | request op next inductionHypothesis =>
      refine ⟨_, fun later continues => ?_⟩
      cases continues with
      | reply reply => exact inductionHypothesis reply

/-- What the transactions in progress have still to do. -/
def inProgress (sessions : List (Session Row Single Entry Failure Value layout)) :
    Multiset (Transaction Row Single Failure Value layout) :=
  Multiset.ofList ((sessions.filter fun session => session.isOpen).map Session.program)

section Sessions

variable {sessions : List (Session Row Single Entry Failure Value layout)}
variable {session : Session Row Single Entry Failure Value layout} {index : Nat}

theorem inProgress_open (isOpen : session.isOpen = true) :
    inProgress (session :: sessions) = {session.program} + inProgress sessions := by
  rw [inProgress, List.filter_cons_of_pos isOpen]
  rfl

theorem inProgress_closed (isClosed : session.isOpen = false) :
    inProgress (session :: sessions) = 0 + inProgress sessions := by
  rw [inProgress, List.filter_cons_of_neg (by rw [isClosed]; exact Bool.false_ne_true), zero_add]
  rfl

theorem inProgress_get (found : sessions[index]? = some session) :
    inProgress sessions = inProgress (session :: sessions.eraseIdx index) := by
  rcases List.getElem?_eq_some_iff.mp found with ⟨inside, rfl⟩
  exact Multiset.coe_eq_coe.mpr (((List.getElem_cons_eraseIdx_perm inside).symm.filter _).map _)

theorem inProgress_set (found : sessions[index]? = some session)
    (new : Session Row Single Entry Failure Value layout) :
    inProgress (sessions.set index new) = inProgress (new :: sessions.eraseIdx index) := by
  rcases List.getElem?_eq_some_iff.mp found with ⟨inside, _⟩
  exact Multiset.coe_eq_coe.mpr (((List.set_perm_cons_eraseIdx inside new).filter _).map _)

end Sessions

/-- An access leaves less to do, and so does the end of a transaction. -/
theorem Engine.step_shortens {index : Nat} {action : EngineAction Entry}
    (moves : action = .resume index ∨ action = .close index) (taken : engine.step body action = some after) :
    Relation.CutExpand Continues (inProgress after.sessions) (inProgress engine.sessions) := by
  rcases Engine.step_cases taken with ⟨entry, rfl, rfl⟩ |
    ⟨index, entry, started, op, next, held, reply, later, _, found, done, rfl⟩ |
    ⟨index, entry, started, value, held, _, found, rfl⟩ |
    ⟨index, session, last, found, isOpen, _, isClosed, rfl⟩ | ⟨duration, rfl, rfl⟩
  · rcases moves with absurdity | absurdity <;> cases absurdity
  · rw [inProgress_set found, inProgress_get found, inProgress_open rfl, inProgress_open rfl]
    exact Relation.cutExpand_single_add (.reply reply) _
  · rw [inProgress_set found, inProgress_get found, inProgress_closed rfl, inProgress_open rfl]
    exact (Relation.cutExpand_add_right _).mpr Relation.cutExpand_zero
  · rw [inProgress_set found, inProgress_get found, inProgress_closed isClosed, inProgress_open isOpen]
    exact (Relation.cutExpand_add_right _).mpr Relation.cutExpand_zero
  · rcases moves with absurdity | absurdity <;> cases absurdity

/-- Every run can be continued until no transaction is in progress, by accesses
and by ending finished transactions alone. -/
theorem run_completes (lasting : Lasting layout given)
    (bodies : forall entry started, Orderly keys given (body entry started) .empty)
    {start : Engine Row Single Entry Failure Value layout} (sound : Sound start) (initial : given start.committed)
    (idle : start.sessions = [])
    {past : List (Event (Engine Row Single Entry Failure Value layout) (EngineAction Entry))}
    (run : EngineRun body start past engine) :
    Exists fun later => Exists fun final => EngineRun body start (later ++ past) final ∧
      (forall event, event ∈ later ->
        Exists fun index => event.action = .resume index ∨ event.action = .close index) ∧
      forall session, session ∈ final.sessions -> session.isOpen = false := by
  generalize remaining : inProgress engine.sessions = programs
  induction programs using continues_wellFounded.cutExpand.induction generalizing engine past with
  | _ programs inductionHypothesis =>
      by_cases busy : Exists fun session => session ∈ engine.sessions ∧ session.isOpen = true
      · rcases busy with ⟨session, member, isOpen⟩
        have disciplined := run_disciplined lasting bodies sound initial idle run
        have move : Exists fun action => Exists fun index => Exists fun after =>
            (action = .resume index ∨ action = .close index) ∧ engine.step body action = some after := by
          rcases disciplined.progress member isOpen with ⟨index, resumes | closes⟩
          · rcases Option.isSome_iff_exists.mp resumes with ⟨after, taken⟩
            exact ⟨_, index, after, Or.inl rfl, taken⟩
          · rcases Option.isSome_iff_exists.mp closes with ⟨after, taken⟩
            exact ⟨_, index, after, Or.inr rfl, taken⟩
        rcases move with ⟨action, index, after, kind, taken⟩
        have shorter := Engine.step_shortens kind taken
        rw [remaining] at shorter
        rcases inductionHypothesis _ shorter (run.next taken) rfl with ⟨later, final, completed, kinds, ended⟩
        refine ⟨later ++ [⟨engine, action⟩], final, ?_, ?_, ended⟩
        · rw [List.append_assoc]
          exact completed
        · intro event listed
          rcases List.mem_append.mp listed with earlier | last
          · exact kinds event earlier
          · cases List.mem_singleton.mp last
            exact ⟨index, kind⟩
      · refine ⟨[], engine, run, (fun _ absent => by cases absent), fun session member => ?_⟩
        exact Bool.eq_false_iff.mpr fun isOpen => busy ⟨session, member, isOpen⟩

end Runs

/-! ## Programs -/

section Programs

variable {keys : Keys layout Fixed} {given : Committed Row Single -> Prop} {held : Held Row Single}

theorem orderly_of_context {program : Accessing layout Single X}
    (orderly : forall committed others, given committed -> Context layout committed others held ->
      Orderly keys given program held) : Orderly keys given program held := by
  cases program with
  | finish value => trivial
  | request op next =>
      intro committed others holds context
      exact orderly committed others holds context committed others holds context

theorem orderly_pure {value : X} : Orderly keys given (pure value : Accessing layout Single X) held :=
  trivial

theorem orderly_bind (program : Accessing layout Single X) (next : X -> Accessing layout Single Y)
    (orderly : Orderly keys given program held)
    (meets : Meets given (fun later value => Orderly keys given (next value) later) program held) :
    Orderly keys given (program >>= next) held := by
  induction program generalizing held with
  | finish value => exact orderly_of_context meets
  | request op rest inductionHypothesis =>
      intro committed others holds context
      rcases orderly committed others holds context with ⟨ready, later⟩
      exact ⟨ready, fun reply after done =>
        inductionHypothesis reply (later reply after done) (meets committed others reply after holds context done)⟩

/-- An access by itself. -/
theorem orderly_ask {op : Access layout Single} (free : held.single = none) (ready : Ready keys held op) :
    Orderly keys given (Access.ask op) held :=
  fun _ _ _ _ => ⟨⟨free, ready⟩, fun _ _ _ => trivial⟩

theorem orderly_lockEach {condition : Row -> Bool} (candidates : List Row) (sorted : layout.Sorted candidates)
    (free : held.single = none) (unwritten : held.own = [])
    (ascending : forall row, row ∈ candidates -> Ascending layout held (layout.ident row)) :
    Orderly keys given (lockEach Single layout condition candidates) held := by
  induction candidates generalizing held with
  | nil => exact orderly_pure
  | cons candidate rest inductionHypothesis =>
      have order := List.pairwise_cons.mp sorted
      intro committed others holds context
      refine ⟨⟨free, unbound_of_unwritten unwritten, Or.inr (ascending candidate List.mem_cons_self)⟩, ?_⟩
      intro reply after done
      rcases lockRow_reads context done with ⟨locks, _⟩
      have later : forall row, row ∈ rest -> Ascending layout after (layout.ident row) := by
        intro row member id has
        rcases lockRow_some done with ⟨_, ⟨_, rfl⟩ | ⟨taken, _, rfl, _, same, _⟩⟩
        · exact ascending row (List.mem_cons_of_mem _ member) id has
        · rcases has_take.mp has with rfl | earlier
          · rw [same]
            exact order.1 row member
          · exact ascending row (List.mem_cons_of_mem _ member) id earlier
      refine orderly_bind (lockEach Single layout condition rest) _
        (inductionHypothesis order.2 (locks.single.trans free) (locks.own.trans unwritten) later) ?_
      exact meets_lockEach rest fun _ _ _ _ => orderly_pure

theorem orderly_selectForUpdate {condition : Row -> Bool} {order : List Row -> List Row}
    (keepsOrder : forall rows, layout.Sorted rows -> layout.Sorted (order rows)) :
    Orderly keys given (selectForUpdate Single layout order condition) .empty := by
  intro committed others _ context
  refine ⟨⟨rfl, trivial⟩, fun reply after done => ?_⟩
  cases done
  refine orderly_lockEach _ (keepsOrder _ ?_) rfl rfl fun _ _ => .of_empty rfl rfl
  exact context.visible_sorted.filter _

theorem orderly_firstFree {condition : Row -> Bool} (candidates : List Row) (free : held.single = none) :
    Orderly keys given (firstFree Single layout condition candidates) held := by
  induction candidates generalizing held with
  | nil => exact orderly_pure
  | cons candidate rest inductionHypothesis =>
      intro committed others _ context
      refine ⟨⟨free, trivial⟩, fun reply after done => ?_⟩
      have single : after.single = none := by
        simp only [access] at done
        split at done
        · rename_i locked
          cases done
          exact (lockRow_reads context locked).1.single.trans free
        · cases done
          exact free
      cases reply with
      | some row => exact orderly_pure
      | none => exact inductionHypothesis single

theorem orderly_selectFree {condition : Row -> Bool} (free : held.single = none) :
    Orderly keys given (selectFree Single layout condition) held := by
  intro committed others _ context
  refine ⟨⟨free, trivial⟩, fun reply after done => ?_⟩
  cases done
  exact orderly_firstFree _ free

/-- An update of at most one row. -/
theorem orderly_updateFew {condition : Row -> Bool} {change : RowChange layout} {order : List Row -> List Row}
    (ordering : forall rows, (order rows).Perm rows) (free : held.single = none)
    (few : forall committed others, Context layout committed others held -> forall first second,
      first ∈ held.visible layout committed.table -> second ∈ held.visible layout committed.table ->
      condition first = true -> condition second = true -> first = second)
    (ready : forall row, condition row = true -> Ready keys held (.write (layout.ident row) condition change)) :
    Orderly keys given (updateRows Single layout order condition change) held := by
  intro committed others _ context
  refine ⟨⟨free, trivial⟩, fun reply after done => ?_⟩
  cases done
  have permuted := ordering ((held.visible layout committed.table).filter condition)
  have facts : forall row, row ∈ order ((held.visible layout committed.table).filter condition) ->
      row ∈ held.visible layout committed.table ∧ condition row = true :=
    fun row member => List.mem_filter.mp (permuted.mem_iff.mp member)
  have distinct : (order ((held.visible layout committed.table).filter condition)).Nodup := by
    refine permuted.nodup_iff.mpr ?_
    exact (List.Nodup.of_map _ context.visible_sorted.nodup_ident).filter _
  change Orderly keys given (writeEach Single layout condition change
    (order ((held.visible layout committed.table).filter condition))) held
  rcases listed : order ((held.visible layout committed.table).filter condition) with _ | ⟨first, _ | ⟨second, rest⟩⟩
  · exact orderly_pure
  · rw [listed] at facts
    have only := facts first List.mem_cons_self
    intro committed others _ _
    refine ⟨⟨free, ready first only.2⟩, fun written after _ => ?_⟩
    cases written <;> exact orderly_pure
  · exfalso
    rw [listed] at facts distinct
    have firstFacts := facts first List.mem_cons_self
    have secondFacts := facts second (List.mem_cons_of_mem _ List.mem_cons_self)
    have same := few committed others context first second firstFacts.1 secondFacts.1 firstFacts.2 secondFacts.2
    rw [List.nodup_cons, same] at distinct
    exact distinct.1 List.mem_cons_self

/-- An update of a row by its id. -/
theorem orderly_updateOne {condition : Row -> Bool} {change : RowChange layout}
    {order : List Row -> List Row} {id : Nat} (ordering : forall rows, (order rows).Perm rows)
    (free : held.single = none)
    (only : forall row, condition row = true -> layout.ident row = id)
    (ready : Ready keys held (.write id condition change)) :
    Orderly keys given (updateRows Single layout order condition change) held := by
  refine orderly_updateFew ordering free ?_ ?_
  · intro committed others context first second firstSeen secondSeen firstChosen secondChosen
    exact context.visible_sorted.eq_of_ident firstSeen secondSeen ((only first firstChosen).trans
      (only second secondChosen).symm)
  · intro row chosen
    rw [only row chosen]
    exact ready

/-- A first update, of a row by its key. -/
theorem orderly_updateKeyed {condition : Row -> Bool} {change : RowChange layout} {order : List Row -> List Row}
    (ordering : forall rows, (order rows).Perm rows) (keeps : KeepsFixed keys change)
    (keyed : forall first second, condition first = true -> condition second = true ->
      layout.clash first second = true) :
    Orderly keys given (updateRows Single layout order condition change) .empty := by
  refine orderly_updateFew ordering rfl ?_ ?_
  · intro committed others context first second firstSeen secondSeen firstChosen secondChosen
    by_contra different
    have apart := context.visible_clashFree first firstSeen second secondSeen fun same =>
      different (context.visible_sorted.eq_of_ident firstSeen secondSeen same)
    rw [keyed first second firstChosen secondChosen] at apart
    cases apart
  · exact fun row _ => ⟨keeps, Or.inl ⟨unbound_of_unwritten rfl, Or.inr (.of_empty rfl rfl)⟩⟩

/-- An update of many rows, none of which has a key before or after it. -/
theorem orderly_writeEach {condition : Row -> Bool} {change : RowChange layout} (keeps : KeepsFixed keys change)
    (unkeyed : forall row, condition row = true -> ¬ keys.Keyed row ∧ ¬ keys.Keyed (change.apply row))
    (candidates : List Row) (sorted : layout.Sorted candidates) (free : held.single = none)
    (unbound : Unbound keys held) (written : forall version, version ∈ held.own -> condition version = false)
    (ascending : forall row, row ∈ candidates -> Ascending layout held (layout.ident row))
    (changed : forall row, condition row = true -> condition (change.apply row) = false) :
    Orderly keys given (writeEach Single layout condition change candidates) held := by
  induction candidates generalizing held with
  | nil => exact orderly_pure
  | cons candidate rest inductionHypothesis =>
      have order := List.pairwise_cons.mp sorted
      intro committed others holds context
      refine ⟨⟨free, keeps, Or.inl ⟨unbound, Or.inr (ascending candidate List.mem_cons_self)⟩⟩, ?_⟩
      intro outcome after done
      have earlier : forall row, row ∈ rest -> Ascending layout held (layout.ident row) := fun row member =>
        ascending row (List.mem_cons_of_mem _ member)
      rcases writeRow_some done with ⟨_, ⟨failed, rfl⟩ | ⟨row, rfl, rfl, seen, same, selected, _⟩⟩
      · cases outcome with
        | done => exact absurd rfl failed
        | refused => exact orderly_pure
        | missed => exact inductionHypothesis order.2 free unbound written earlier
      · have reads := take_reads context.sorted context.fits seen
        have locked : row ∈ (held.take layout row).locked := by
          rcases reads with mine | ⟨locked, _⟩
          · rw [take_own] at mine
            rw [written row mine] at selected
            cases selected
          · exact locked
        refine orderly_bind (writeEach Single layout condition change rest) _
          (inductionHypothesis order.2 (take_single.trans free) ?_ ?_ ?_) ?_
        · intro version member
          rcases mem_put_own.mp member with rfl | ⟨mine, _⟩
          · exact ⟨(unkeyed row selected).2, row, locked, (change.ident_eq row).symm, (unkeyed row selected).1,
              (keeps row).symm⟩
          · rw [take_own] at mine
            rcases unbound version mine with ⟨bare, base, isLocked, facts⟩
            exact ⟨bare, base, locked_subset_take isLocked, facts⟩
        · intro version member
          rcases mem_put_own.mp member with rfl | ⟨mine, _⟩
          · exact changed row selected
          · rw [take_own] at mine
            exact written version mine
        · intro later member id has
          rcases has_put.mp has with rfl | taken
          · rw [change.ident_eq, same]
            exact order.1 later member
          · rcases has_take.mp taken with rfl | before
            · rw [same]
              exact order.1 later member
            · exact earlier later member id before
        · have distinct : (rest.map layout.ident).Nodup := Layout.Sorted.nodup_ident order.2
          exact meets_writeEach rest distinct (fun _ => orderly_pure) fun _ _ _ _ _ => orderly_pure

theorem orderly_updateMany {condition : Row -> Bool} {change : RowChange layout} {order : List Row -> List Row}
    (keepsOrder : forall rows, layout.Sorted rows -> layout.Sorted (order rows)) (keeps : KeepsFixed keys change)
    (unkeyed : forall row, condition row = true -> ¬ keys.Keyed row ∧ ¬ keys.Keyed (change.apply row))
    (changed : forall row, condition row = true -> condition (change.apply row) = false) :
    Orderly keys given (updateRows Single layout order condition change) .empty := by
  intro committed others _ context
  refine ⟨⟨rfl, trivial⟩, fun reply after done => ?_⟩
  cases done
  refine orderly_writeEach keeps unkeyed _ (keepsOrder _ ?_) rfl (unbound_of_unwritten rfl)
    (fun _ absent => by cases absent) (fun _ _ => .of_empty rfl rfl) changed
  exact context.visible_sorted.filter _

theorem orderly_upsert {new : NewRow layout} {target : Row -> Bool} {change : RowChange layout}
    (keeps : KeepsFixed keys change)
    (targets : forall id row, target row = true ↔ keys.fixed row = keys.fixed (new.make id)) :
    Orderly keys given (upsert Single layout new target change) .empty := by
  intro committed others _ context
  refine ⟨⟨rfl, trivial⟩, fun reply after done => ?_⟩
  cases done
  exact orderly_ask rfl ⟨rfl, rfl, keeps, targets⟩

end Programs

end Foundation
end Shardman
