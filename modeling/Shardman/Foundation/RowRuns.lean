import Shardman.Foundation.RowIsolation

namespace Shardman
namespace Foundation

/-!
# Runs of many transactions

Every state that is reached keeps the guarantees of the locks between all pairs
of running transactions.  `Meets` is the rule for programs that follows: it
describes a transaction by what it holds when it finishes, whatever the others
did between its accesses.  A commit then changes the committed state by exactly
what the transaction holds, and what it has locked is committed at that moment.
-/

variable {Row Single Entry Failure Value X Y : Type} {layout : Layout Row}

/-- What holds of every state that is reached. -/
structure Sound (engine : Engine Row Single Entry Failure Value layout) : Prop where
  sorted : layout.Sorted engine.committed.table
  clashFree : layout.ClashFree engine.committed.table
  issued : forall row, row ∈ engine.committed.table -> layout.ident row < engine.committed.next
  fits : forall session, session ∈ engine.sessions -> Fits layout engine.committed session.held
  apart : engine.sessions.Pairwise fun first second => Apart layout first.held second.held

section Lists

variable {T : Type} {relation : T -> T -> Prop} {items : List T} {index : Nat} {item other : T}

theorem relation_of_pairwise (symmetric : forall first second, relation first second -> relation second first)
    (pairwise : items.Pairwise relation) (found : items[index]? = some item)
    (elsewhere : other ∈ items.eraseIdx index) : relation item other := by
  rcases List.mem_eraseIdx_iff_getElem?.mp elsewhere with ⟨place, different, placed⟩
  rcases List.getElem?_eq_some_iff.mp found with ⟨bound, rfl⟩
  rcases List.getElem?_eq_some_iff.mp placed with ⟨placeBound, rfl⟩
  rw [List.pairwise_iff_getElem] at pairwise
  rcases Nat.lt_or_gt_of_ne different with before | after
  · exact symmetric _ _ (pairwise place index placeBound bound before)
  · exact pairwise index place bound placeBound after

theorem mem_set_cases (member : other ∈ items.set index item) : other = item ∨ other ∈ items.eraseIdx index := by
  rcases List.getElem?_of_mem member with ⟨place, placed⟩
  rw [List.getElem?_set] at placed
  split at placed
  · split at placed
    · cases placed
      exact Or.inl rfl
    · cases placed
  · rename_i different
    exact Or.inr (List.mem_eraseIdx_iff_getElem?.mpr ⟨place, Ne.symm different, placed⟩)

theorem pairwise_set (symmetric : forall first second, relation first second -> relation second first)
    (pairwise : items.Pairwise relation) (related : forall other, other ∈ items.eraseIdx index -> relation item other) :
    (items.set index item).Pairwise relation := by
  rw [List.pairwise_iff_getElem] at pairwise ⊢
  intro first second firstBound secondBound before
  rw [List.length_set] at firstBound secondBound
  have elsewhere : forall place (bound : place < items.length), place ≠ index -> relation item items[place] :=
    fun place bound different =>
      related _ (List.mem_eraseIdx_iff_getElem.mpr ⟨place, bound, different, rfl⟩)
  rw [List.getElem_set, List.getElem_set]
  split
  · rename_i isFirst
    rw [if_neg (by omega)]
    exact elsewhere second secondBound (by omega)
  · rename_i notFirst
    split
    · exact symmetric _ _ (elsewhere first firstBound (by omega))
    · exact pairwise first second firstBound secondBound before

end Lists

section Steps

variable {body : Entry -> Int -> Transaction Row Single Failure Value layout}
variable {engine after : Engine Row Single Entry Failure Value layout}

/-- A session in its place among the others. -/
theorem Sound.context (sound : Sound engine) {index : Nat}
    {session : Session Row Single Entry Failure Value layout} (found : engine.sessions[index]? = some session) :
    Context layout engine.committed (engine.others index) session.held where
  sorted := sound.sorted
  clashFree := sound.clashFree
  issued := sound.issued
  fits := sound.fits session (List.mem_of_getElem? found)
  theirs other member := by
    rcases List.mem_map.mp member with ⟨theirs, elsewhere, rfl⟩
    exact sound.fits theirs (List.mem_of_mem_eraseIdx elsewhere)
  apart other member := by
    rcases List.mem_map.mp member with ⟨theirs, elsewhere, rfl⟩
    have related := relation_of_pairwise (fun _ _ => Apart.symm) sound.apart found elsewhere
    exact related

/-- The complete inversion of a step. -/
theorem Engine.step_cases {action : EngineAction Entry} (taken : engine.step body action = some after) :
    (Exists fun entry => action = .start entry ∧ after = { engine with
      sessions := engine.sessions ++ [⟨entry, engine.now, body entry engine.now, .empty, true⟩] }) ∨
    (Exists fun index => Exists fun entry => Exists fun started => Exists fun op => Exists fun next =>
      Exists fun held => Exists fun reply => Exists fun later => action = .resume index ∧
        engine.sessions[index]? = some ⟨entry, started, .request op next, held, true⟩ ∧
        access layout (engine.others index) engine.committed held op = some (reply, later) ∧
        after = { engine with
          committed := op.advance layout engine.committed
          sessions := engine.sessions.set index ⟨entry, started, next reply, later, true⟩ }) ∨
    (Exists fun index => Exists fun entry => Exists fun started => Exists fun value => Exists fun held =>
      action = .close index ∧
        engine.sessions[index]? = some ⟨entry, started, .finish (.ok value), held, true⟩ ∧
        after = { engine with
          committed := engine.committed.absorb layout held
          sessions := engine.sessions.set index ⟨entry, started, .finish (.ok value), .empty, false⟩ }) ∨
    (Exists fun index => Exists fun session => Exists fun last : Session Row Single Entry Failure Value layout =>
      engine.sessions[index]? = some session ∧ session.isOpen = true ∧ last.held = .empty ∧ last.isOpen = false ∧
        after = { engine with sessions := engine.sessions.set index last }) ∨
    (Exists fun duration => action = .elapse duration ∧ after = { engine with now := engine.now + duration }) := by
  cases action with
  | start entry =>
      cases taken
      exact Or.inl ⟨entry, rfl, rfl⟩
  | resume index =>
      simp only [Engine.step] at taken
      split at taken
      · rename_i entry started op next held found
        split at taken
        · rename_i reply later done
          cases taken
          exact Or.inr (Or.inl ⟨index, entry, started, op, next, held, reply, later, rfl, found, done, rfl⟩)
        · cases taken
      · cases taken
  | close index =>
      simp only [Engine.step] at taken
      split at taken
      · rename_i entry started outcome held found
        cases outcome with
        | error failure =>
            cases taken
            exact Or.inr (Or.inr (Or.inr (Or.inl ⟨index, _, _, found, rfl, rfl, rfl, rfl⟩)))
        | ok value =>
            cases taken
            exact Or.inr (Or.inr (Or.inl ⟨index, entry, started, value, held, rfl, found, rfl⟩))
      · cases taken
  | abort index =>
      simp only [Engine.step] at taken
      split at taken
      · rename_i session found
        split at taken
        · rename_i isOpen
          cases taken
          exact Or.inr (Or.inr (Or.inr (Or.inl ⟨index, session, _, found, isOpen, rfl, rfl, rfl⟩)))
        · cases taken
      · cases taken
  | elapse duration =>
      cases taken
      exact Or.inr (Or.inr (Or.inr (Or.inr ⟨duration, rfl, rfl⟩)))

/-- Replacing one session keeps the distance between all of them. -/
theorem Sound.apart_set (sound : Sound engine) {index : Nat}
    {session : Session Row Single Entry Failure Value layout}
    (related : forall other, other ∈ engine.others index -> Apart layout session.held other) :
    (engine.sessions.set index session).Pairwise fun first second => Apart layout first.held second.held :=
  pairwise_set (fun _ _ => Apart.symm) sound.apart fun theirs elsewhere =>
    related theirs.held (List.mem_map_of_mem elsewhere)

theorem Engine.step_sound {action : EngineAction Entry} (sound : Sound engine)
    (taken : engine.step body action = some after) : Sound after := by
  rcases Engine.step_cases taken with ⟨entry, _, rfl⟩ |
    ⟨index, entry, started, op, next, held, reply, later, _, found, done, rfl⟩ |
    ⟨index, entry, started, value, held, _, found, rfl⟩ |
    ⟨index, session, last, found, _, released, _, rfl⟩ | ⟨duration, _, rfl⟩
  · refine { sound with fits := ?_, apart := ?_ }
    · intro session member
      rcases List.mem_append.mp member with old | new
      · exact sound.fits session old
      · cases List.mem_singleton.mp new
        exact fits_empty _
    · rw [List.pairwise_append]
      refine ⟨sound.apart, List.pairwise_singleton _ _, ?_⟩
      intro first _ second new
      cases List.mem_singleton.mp new
      exact (apart_empty first.held).symm
  · rcases access_keeps (sound.context found) done with ⟨fits, apart⟩
    have table : (op.advance layout engine.committed).table = engine.committed.table := by cases op <;> rfl
    have later : engine.committed.next <= (op.advance layout engine.committed).next := by
      cases op with
      | draw => exact Nat.le_succ _
      | _ => exact Nat.le_refl _
    refine ⟨?_, ?_, ?_, ?_, sound.apart_set apart⟩
    · rw [table]
      exact sound.sorted
    · rw [table]
      exact sound.clashFree
    · intro row member
      rw [table] at member
      exact Nat.lt_of_lt_of_le (sound.issued row member) later
    · intro session member
      rcases mem_set_cases member with rfl | elsewhere
      · exact fits
      · exact (sound.fits session (List.mem_of_mem_eraseIdx elsewhere)).advance op
  · have context := sound.context found
    refine ⟨absorb_sorted sound.sorted context.fits, absorb_clashFree sound.clashFree context.fits,
      absorb_issued sound.issued context.fits, ?_, sound.apart_set fun other _ => apart_empty other⟩
    intro session member
    rcases mem_set_cases member with rfl | elsewhere
    · exact fits_empty _
    · exact absorb_fits (sound.fits session (List.mem_of_mem_eraseIdx elsewhere))
        (context.apart _ (List.mem_map_of_mem elsewhere))
  · refine { sound with fits := ?_, apart := sound.apart_set fun other _ => ?_ }
    · intro session member
      rcases mem_set_cases member with rfl | elsewhere
      · rw [released]
        exact fits_empty _
      · exact sound.fits session (List.mem_of_mem_eraseIdx elsewhere)
    · rw [released]
      exact apart_empty other
  · exact { sound with }

end Steps

/-! ## Programs -/

/-- Whatever the others do, the program finishes with what is claimed, as long as
the committed state has the given property.  The claim may use the situation in
which the program finishes. -/
def Meets (given : Committed Row Single -> Prop) (final : Held Row Single -> X -> Prop) :
    Program (Access layout Single) Access.Reply X -> Held Row Single -> Prop
  | .finish value, held =>
      forall committed others, given committed -> Context layout committed others held -> final held value
  | .request op next, held =>
      forall committed others reply after, given committed -> Context layout committed others held ->
        access layout others committed held op = some (reply, after) -> Meets given final (next reply) after

/-- A property of the committed state that no step loses. -/
structure Lasting (layout : Layout Row) (given : Committed Row Single -> Prop) : Prop where
  advance : forall committed (op : Access layout Single), given committed -> given (op.advance layout committed)
  absorb : forall committed held, given committed -> given (committed.absorb layout held)

variable {given : Committed Row Single -> Prop}

/-- What is claimed of a program may be shown in any situation it is in. -/
theorem meets_of_context {final : Held Row Single -> X -> Prop} {held : Held Row Single}
    {program : Program (Access layout Single) Access.Reply X}
    (meets : forall committed others, given committed -> Context layout committed others held ->
      Meets given final program held) : Meets given final program held := by
  cases program with
  | finish value =>
      intro committed others holds context
      exact meets committed others holds context committed others holds context
  | request op next =>
      intro committed others reply after holds context done
      exact meets committed others holds context committed others reply after holds context done

theorem meets_bind {final : Held Row Single -> Y -> Prop} {held : Held Row Single}
    (program : Program (Access layout Single) Access.Reply X)
    (next : X -> Program (Access layout Single) Access.Reply Y) :
    Meets given final (program >>= next) held ↔
      Meets given (fun later value => Meets given final (next value) later) program held := by
  induction program generalizing held with
  | finish value => exact ⟨fun meets _ _ _ _ => meets, meets_of_context⟩
  | request op rest inductionHypothesis =>
      exact forall_congr' fun _ => forall_congr' fun _ => forall_congr' fun reply => forall_congr' fun _ =>
        forall_congr' fun _ => forall_congr' fun _ => forall_congr' fun _ => inductionHypothesis reply

/-- The claim about a finished program may use the situation it is then in. -/
theorem meets_in_context {final : Held Row Single -> X -> Prop} {held : Held Row Single}
    {program : Program (Access layout Single) Access.Reply X}
    (meets : Meets given (fun later value => (Exists fun committed => Exists fun others =>
      given committed ∧ Context layout committed others later) -> final later value) program held) :
    Meets given final program held := by
  induction program generalizing held with
  | finish value =>
      intro committed others holds context
      exact meets committed others holds context ⟨committed, others, holds, context⟩
  | request op rest inductionHypothesis =>
      intro committed others reply after holds context done
      exact inductionHypothesis reply (meets committed others reply after holds context done)

theorem meets_pure {final : Held Row Single -> X -> Prop} {held : Held Row Single} {value : X}
    (claim : final held value) :
    Meets given final (pure value : Program (Access layout Single) Access.Reply X) held :=
  fun _ _ _ _ => claim

section Transactions

variable {body : Entry -> Int -> Transaction Row Single Failure Value layout}
variable {engine after : Engine Row Single Entry Failure Value layout}
variable (given) (final : Entry -> Int -> Held Row Single -> Except Failure Value -> Prop)

/-- The state is sound, has the given property, and every transaction in
progress will finish as its entry says. -/
structure Meeting (engine : Engine Row Single Entry Failure Value layout) : Prop where
  sound : Sound engine
  state : given engine.committed
  sessions : forall session, session ∈ engine.sessions -> session.isOpen = true ->
    Meets given (final session.entry session.started) session.program session.held

variable {given} {final}

theorem Engine.step_meeting (lasting : Lasting layout given)
    (bodies : forall entry started, Meets given (final entry started) (body entry started) .empty)
    {action : EngineAction Entry} (meeting : Meeting given final engine)
    (taken : engine.step body action = some after) : Meeting given final after := by
  have sound := Engine.step_sound meeting.sound taken
  rcases Engine.step_cases taken with ⟨entry, _, rfl⟩ |
    ⟨index, entry, started, op, next, held, reply, later, _, found, done, rfl⟩ |
    ⟨index, entry, started, value, held, _, found, rfl⟩ |
    ⟨index, session, last, found, _, _, isClosed, rfl⟩ | ⟨duration, _, rfl⟩
  · refine ⟨sound, meeting.state, ?_⟩
    intro session member isOpen
    rcases List.mem_append.mp member with old | new
    · exact meeting.sessions session old isOpen
    · cases List.mem_singleton.mp new
      exact bodies entry engine.now
  · refine ⟨sound, lasting.advance _ op meeting.state, ?_⟩
    intro session member isOpen
    rcases mem_set_cases member with rfl | elsewhere
    · exact meeting.sessions _ (List.mem_of_getElem? found) rfl engine.committed (engine.others index) reply later
        meeting.state (meeting.sound.context found) done
    · exact meeting.sessions session (List.mem_of_mem_eraseIdx elsewhere) isOpen
  · refine ⟨sound, lasting.absorb _ held meeting.state, ?_⟩
    intro session member isOpen
    rcases mem_set_cases member with rfl | elsewhere
    · cases isOpen
    · exact meeting.sessions session (List.mem_of_mem_eraseIdx elsewhere) isOpen
  · refine ⟨sound, meeting.state, ?_⟩
    intro session member isOpen
    rcases mem_set_cases member with rfl | elsewhere
    · rw [isClosed] at isOpen
      cases isOpen
    · exact meeting.sessions session (List.mem_of_mem_eraseIdx elsewhere) isOpen
  · exact ⟨sound, meeting.state, meeting.sessions⟩

/-- A database without transactions. -/
theorem sound_idle (committed : Committed Row Single) (now : Int) (sorted : layout.Sorted committed.table)
    (clashFree : layout.ClashFree committed.table)
    (issued : forall row, row ∈ committed.table -> layout.ident row < committed.next) :
    Sound (⟨committed, now, []⟩ : Engine Row Single Entry Failure Value layout) where
  sorted := sorted
  clashFree := clashFree
  issued := issued
  fits _ absent := by cases absent
  apart := List.Pairwise.nil

abbrev EngineRun (body : Entry -> Int -> Transaction Row Single Failure Value layout)
    (start : Engine Row Single Entry Failure Value layout)
    (past : List (Event (Engine Row Single Entry Failure Value layout) (EngineAction Entry)))
    (engine : Engine Row Single Entry Failure Value layout) : Prop :=
  Run (fun engine action => engine.step body action) start past engine

/-- The description of all transactions holds along every run. -/
theorem run_meeting (lasting : Lasting layout given)
    (bodies : forall entry started, Meets given (final entry started) (body entry started) .empty)
    {start : Engine Row Single Entry Failure Value layout} (sound : Sound start) (initial : given start.committed)
    (idle : start.sessions = [])
    {past : List (Event (Engine Row Single Entry Failure Value layout) (EngineAction Entry))}
    (run : EngineRun body start past engine) : Meeting given final engine := by
  refine Run.invariant (Meeting given final) (fun _ _ => True) ⟨sound, initial, ?_⟩ ?_ run fun _ _ => trivial
  · intro session member
    rw [idle] at member
    cases member
  · intro engine action after meeting _ taken
    exact Engine.step_meeting lasting bodies meeting taken

/-- The committed rows change only when a transaction commits, and then by what
it holds. -/
theorem Engine.step_committed {action : EngineAction Entry} (meeting : Meeting given final engine)
    (taken : engine.step body action = some after) :
    (after.committed.table = engine.committed.table ∧ after.committed.single = engine.committed.single) ∨
    Exists fun index => Exists fun entry => Exists fun started => Exists fun value => Exists fun held =>
      action = .close index ∧
        engine.sessions[index]? = some ⟨entry, started, .finish (.ok value), held, true⟩ ∧
        Fits layout engine.committed held ∧ final entry started held (.ok value) ∧
        after.committed = engine.committed.absorb layout held := by
  rcases Engine.step_cases taken with ⟨entry, _, rfl⟩ |
    ⟨index, entry, started, op, next, held, reply, later, _, found, done, rfl⟩ |
    ⟨index, entry, started, value, held, same, found, rfl⟩ |
    ⟨index, session, last, found, _, _, _, rfl⟩ | ⟨duration, _, rfl⟩
  · exact Or.inl ⟨rfl, rfl⟩
  · left
    cases op <;> exact ⟨rfl, rfl⟩
  · exact Or.inr ⟨index, entry, started, value, held, same, found, (meeting.sound.context found).fits,
      meeting.sessions _ (List.mem_of_getElem? found) rfl _ _ meeting.state (meeting.sound.context found), rfl⟩
  · exact Or.inl ⟨rfl, rfl⟩
  · exact Or.inl ⟨rfl, rfl⟩

end Transactions

end Foundation
end Shardman
