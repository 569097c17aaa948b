import Shardman.Foundation.RowStatements

namespace Shardman
namespace Foundation

/-!
# Transactions without company

A transaction that runs while no other holds anything never waits, and each of
its statements does what it says to the table as the transaction sees it.
`Alone` is the rule for such executions; it asserts that the program finishes.
`run_alone` turns it into a run of the server.
-/

variable {Row Single Entry Failure Value X Y : Type} {layout : Layout Row}

/-- Run by itself, the program finishes with what is claimed. -/
def Alone (claim : X -> Held Row Single -> Committed Row Single -> Prop) :
    Accessing layout Single X -> Committed Row Single -> Held Row Single -> Prop
  | .finish value, committed, held => claim value held committed
  | .request op next, committed, held => Exists fun reply => Exists fun after =>
      access layout [] committed held op = some (reply, after) ∧
        Alone claim (next reply) (op.advance layout committed) after

/-- The situation of a transaction without company. -/
abbrev Solo (layout : Layout Row) (committed : Committed Row Single) (held : Held Row Single) : Prop :=
  Context layout committed [] held

section Rules

variable {committed : Committed Row Single} {held : Held Row Single}

theorem alone_bind {claim : Y -> Held Row Single -> Committed Row Single -> Prop}
    (program : Accessing layout Single X) (next : X -> Accessing layout Single Y) :
    Alone claim (program >>= next) committed held ↔
      Alone (fun value later state => Alone claim (next value) state later) program committed held := by
  induction program generalizing committed held with
  | finish value => exact Iff.rfl
  | request op rest inductionHypothesis =>
      exact exists_congr fun reply => exists_congr fun _ => and_congr_right fun _ => inductionHypothesis reply

/-- Nobody else appears by an access. -/
theorem Context.solo (solo : Solo layout committed held) (op : Access layout Single) {reply : op.Reply}
    {after : Held Row Single} (done : access layout [] committed held op = some (reply, after)) :
    Solo layout (op.advance layout committed) after := by
  have table : (op.advance layout committed).table = committed.table := by cases op <;> rfl
  refine ⟨?_, ?_, ?_, (access_keeps solo done).1, (fun _ absent => by cases absent), fun _ absent => by cases absent⟩
  · rw [table]
    exact solo.sorted
  · rw [table]
    exact solo.clashFree
  · intro row member
    rw [table] at member
    refine Nat.lt_of_lt_of_le (solo.issued row member) ?_
    cases op with
    | draw => exact Nat.le_succ _
    | _ => exact Nat.le_refl _

theorem not_taken_nil {id : Nat} : ¬ Taken layout ([] : List (Held Row Single)) id := by
  rintro ⟨_, absent, _⟩
  cases absent

theorem not_singleTaken_nil : ¬ SingleTaken ([] : List (Held Row Single)) := by
  rintro ⟨_, absent, _⟩
  cases absent

/-! ## Selections -/

theorem lockRow_solo (solo : Solo layout committed held) {row : Row} {condition : Row -> Bool}
    (seen : row ∈ held.visible layout committed.table) (selected : condition row = true) :
    lockRow layout [] committed.table held (layout.ident row) condition =
      some (some row, held.take layout row) := by
  rw [lockRow, if_neg not_taken_nil, solo.visible_sorted.lookup_eq seen]
  simp only [selected, if_true]

theorem LocksOnly.visible {after : Held Row Single} (locks : LocksOnly held after) (table : List Row) :
    after.visible layout table = held.visible layout table := by
  simp only [Held.visible, locks.own]

theorem alone_lockEach {claim : List Row -> Held Row Single -> Committed Row Single -> Prop}
    {condition : Row -> Bool} (solo : Solo layout committed held) (candidates : List Row)
    (seen : forall row, row ∈ candidates -> row ∈ held.visible layout committed.table ∧ condition row = true)
    (finishes : forall after, Solo layout committed after -> LocksOnly held after -> claim candidates after committed) :
    Alone claim (lockEach Single layout condition candidates) committed held := by
  induction candidates generalizing held claim with
  | nil => exact finishes held solo (.refl held)
  | cons row rest inductionHypothesis =>
      have first := seen row List.mem_cons_self
      have done := lockRow_solo solo first.1 first.2
      have locks : LocksOnly held (held.take layout row) := .take
      have later : Solo layout committed (held.take layout row) :=
        solo.solo (.lock (layout.ident row) condition) done
      refine ⟨some row, held.take layout row, done, ?_⟩
      refine (alone_bind (lockEach Single layout condition rest) _).mpr (inductionHypothesis later ?_ ?_)
      · intro other member
        rw [locks.visible]
        exact seen other (List.mem_cons_of_mem _ member)
      · intro after solo more
        exact finishes after solo (locks.trans more)

theorem alone_selectForUpdate {claim : List Row -> Held Row Single -> Committed Row Single -> Prop}
    {condition : Row -> Bool} {order : List Row -> List Row} (solo : Solo layout committed held)
    (ordering : forall rows, (order rows).Perm rows)
    (finishes : forall after, Solo layout committed after -> LocksOnly held after ->
      claim (order ((held.visible layout committed.table).filter condition)) after committed) :
    Alone claim (selectForUpdate Single layout order condition) committed held := by
  refine ⟨_, held, rfl, alone_lockEach solo _ ?_ finishes⟩
  intro row member
  exact List.mem_filter.mp ((ordering _).mem_iff.mp member)

theorem alone_selectFree {claim : Option Row -> Held Row Single -> Committed Row Single -> Prop}
    {condition : Row -> Bool} (solo : Solo layout committed held)
    (finishes : forall after, Solo layout committed after -> LocksOnly held after ->
      claim ((held.visible layout committed.table).find? condition) after committed) :
    Alone claim (selectFree Single layout condition) committed held := by
  refine ⟨_, held, rfl, ?_⟩
  rw [← List.head?_filter] at finishes
  cases found : (held.visible layout committed.table).filter condition with
  | nil =>
      rw [found] at finishes
      exact finishes held solo (.refl held)
  | cons row rest =>
      have listed : row ∈ (held.visible layout committed.table).filter condition := by
        rw [found]
        exact List.mem_cons_self
      have facts := List.mem_filter.mp listed
      have locked := lockRow_solo solo facts.1 facts.2
      have done : access layout [] committed held (.tryLock (layout.ident row) condition) =
          some (some row, held.take layout row) := by
        simp only [access, locked]
        rfl
      rw [found] at finishes
      exact ⟨some row, held.take layout row, done,
        finishes _ (solo.solo (.tryLock (layout.ident row) condition) done) .take⟩

/-! ## Updates -/

/-- The indexes compare a version with the table as the transaction sees it. -/
theorem verdict_solo {table : List Row} {version : Row}
    (free : forall other, other ∈ held.visible layout table -> layout.ident other ≠ layout.ident version ->
      layout.clash version other = false) :
    verdict layout [] table held version = .free := by
  unfold verdict
  rw [if_neg, if_neg, if_neg]
  · rintro (⟨row, member, different, unwritten, clashes⟩ | ⟨_, absent, _⟩)
    · rw [free row (Layout.mem_overlay.mpr (Or.inr ⟨member, unwritten⟩)) different] at clashes
      cases clashes
    · cases absent
  · rintro ⟨row, member, ⟨different, unwritten, clashes⟩, _⟩
    rw [free row (Layout.mem_overlay.mpr (Or.inr ⟨member, unwritten⟩)) different] at clashes
    cases clashes
  · rintro ⟨mine, member, different, clashes⟩
    rw [free mine (Layout.mem_overlay.mpr (Or.inl member)) different] at clashes
    cases clashes

theorem verdict_solo_refused {table : List Row} {version other : Row} (seen : other ∈ held.visible layout table)
    (different : layout.ident other ≠ layout.ident version) (clashes : layout.clash version other = true) :
    verdict layout [] table held version = .refused := by
  unfold verdict
  rcases Layout.mem_overlay.mp seen with mine | ⟨old, unwritten⟩
  · rw [if_pos ⟨other, mine, different, clashes⟩]
  · split
    · rfl
    · rw [if_pos ⟨other, old, ⟨different, unwritten, clashes⟩, fun _ absent => by cases absent⟩]

theorem writeRow_solo (solo : Solo layout committed held) {row : Row} {condition : Row -> Bool}
    {change : RowChange layout} (seen : row ∈ held.visible layout committed.table) (selected : condition row = true)
    (free : forall other, other ∈ held.visible layout committed.table -> layout.ident other ≠ layout.ident row ->
      layout.clash (change.apply row) other = false) :
    writeRow layout [] committed.table held (layout.ident row) condition change =
      some (.done, (held.take layout row).put layout (change.apply row)) := by
  have passes : verdict layout [] committed.table held (change.apply row) = .free := by
    apply verdict_solo
    rw [change.ident_eq]
    exact free
  rw [writeRow, if_neg not_taken_nil, solo.visible_sorted.lookup_eq seen]
  simp only [selected, if_true, passes]

/-- What the transaction sees after a change of rows. -/
theorem Changes.visible {change : RowChange layout} {rows : List Row} {after : Held Row Single}
    {others : List (Held Row Single)} (changes : Changes change held rows after)
    (context : Context layout committed others held) (later : Fits layout committed after)
    (seen : forall row, row ∈ rows -> row ∈ held.visible layout committed.table) :
    after.visible layout committed.table = (held.visible layout committed.table).map fun row =>
      if layout.Names rows (layout.ident row) then change.apply row else row := by
  have sorted := context.visible_sorted
  have named : forall row, row ∈ held.visible layout committed.table -> layout.Names rows (layout.ident row) ->
      row ∈ rows := by
    rintro row member ⟨other, listed, same⟩
    rw [← sorted.eq_of_ident (seen other listed) member same]
    exact listed
  have keeps : forall row : Row, layout.ident
      (if layout.Names rows (layout.ident row) then change.apply row else row) = layout.ident row := by
    intro row
    split
    · exact change.ident_eq row
    · rfl
  have mapped : layout.Sorted ((held.visible layout committed.table).map fun row =>
      if layout.Names rows (layout.ident row) then change.apply row else row) := by
    refine List.pairwise_map.mpr (sorted.imp fun before => ?_)
    rw [keeps, keeps]
    exact before
  apply (Layout.overlay_sorted context.sorted later.distinct).eq_of_mem_iff mapped
  intro version
  rw [Layout.mem_overlay, changes.own, List.mem_map]
  constructor
  · rintro ((⟨row, member, rfl⟩ | ⟨mine, unnamed⟩) | ⟨old, unwritten⟩)
    · exact ⟨row, seen row member, if_pos (Layout.names_of_mem member)⟩
    · exact ⟨version, Layout.mem_overlay.mpr (Or.inl mine), if_neg unnamed⟩
    · have notOwn : ¬ layout.Names held.own (layout.ident version) := by
        rintro ⟨mine, member, same⟩
        by_cases listed : layout.Names rows (layout.ident mine)
        · rcases listed with ⟨row, inRows, alike⟩
          refine unwritten ⟨change.apply row, (changes.own _).mpr (Or.inl ⟨row, inRows, rfl⟩), ?_⟩
          rw [change.ident_eq, alike, same]
        · exact unwritten ⟨mine, (changes.own _).mpr (Or.inr ⟨member, listed⟩), same⟩
      have unnamed : ¬ layout.Names rows (layout.ident version) := by
        rintro ⟨row, member, same⟩
        refine unwritten ⟨change.apply row, (changes.own _).mpr (Or.inl ⟨row, member, rfl⟩), ?_⟩
        rw [change.ident_eq, same]
      exact ⟨version, Layout.mem_overlay.mpr (Or.inr ⟨old, notOwn⟩), if_neg unnamed⟩
  · rintro ⟨row, member, rfl⟩
    split
    · rename_i isNamed
      exact Or.inl (Or.inl ⟨row, named row member isNamed, rfl⟩)
    · rename_i unnamed
      rcases Layout.mem_overlay.mp member with mine | ⟨old, unwritten⟩
      · exact Or.inl (Or.inr ⟨mine, unnamed⟩)
      · refine Or.inr ⟨old, ?_⟩
        rintro ⟨version, own, same⟩
        rcases (changes.own version).mp own with ⟨other, listed, rfl⟩ | ⟨mine, _⟩
        · rw [change.ident_eq] at same
          exact unnamed ⟨other, listed, same⟩
        · exact unwritten ⟨version, mine, same⟩

/-- A change that takes no key away from another row. -/
def Harmless (change : RowChange layout) : Prop :=
  forall row other, layout.clash (change.apply row) other = true -> layout.clash row other = true

theorem Harmless.free {change : RowChange layout} (harmless : Harmless change)
    {others : List (Held Row Single)} (context : Context layout committed others held) {row : Row}
    (seen : row ∈ held.visible layout committed.table) :
    forall other, other ∈ held.visible layout committed.table -> layout.ident other ≠ layout.ident row ->
      layout.clash (change.apply row) other = false := by
  intro other member different
  refine Bool.eq_false_iff.mpr fun clashes => ?_
  have apart := context.visible_clashFree row seen other member (Ne.symm different)
  rw [harmless row other clashes] at apart
  cases apart

theorem alone_writeEach {claim : Option Nat -> Held Row Single -> Committed Row Single -> Prop}
    {condition : Row -> Bool} {change : RowChange layout} (harmless : Harmless change)
    (solo : Solo layout committed held) (candidates : List Row) (distinct : (candidates.map layout.ident).Nodup)
    (seen : forall row, row ∈ candidates -> row ∈ held.visible layout committed.table ∧ condition row = true)
    (finishes : forall after, Solo layout committed after -> Changes change held candidates after ->
      claim (some candidates.length) after committed) :
    Alone claim (writeEach Single layout condition change candidates) committed held := by
  induction candidates generalizing held claim with
  | nil => exact finishes held solo (.none change held)
  | cons row rest inductionHypothesis =>
      rw [List.map_cons, List.nodup_cons] at distinct
      have first := seen row List.mem_cons_self
      have fresh : ¬ layout.Names rest (layout.ident row) := by
        rintro ⟨other, member, same⟩
        exact distinct.1 (List.mem_map.mpr ⟨other, member, same⟩)
      have done := writeRow_solo solo first.1 first.2 (harmless.free solo first.1)
      have later : Solo layout committed ((held.take layout row).put layout (change.apply row)) :=
        solo.solo (.write (layout.ident row) condition change) done
      have reads := take_reads solo.sorted solo.fits first.1
      have one := Changes.cons reads Layout.not_names_nil (.none change _)
      refine ⟨.done, _, done, ?_⟩
      refine (alone_bind (writeEach Single layout condition change rest) _).mpr
        (inductionHypothesis later distinct.2 ?_ ?_)
      · intro other member
        have facts := seen other (List.mem_cons_of_mem _ member)
        refine ⟨?_, facts.2⟩
        rw [one.visible solo later.fits (fun only listed => List.mem_singleton.mp listed ▸ first.1)]
        refine List.mem_map.mpr ⟨other, facts.1, if_neg ?_⟩
        rintro ⟨only, listed, same⟩
        rw [List.mem_singleton.mp listed] at same
        exact distinct.1 (List.mem_map.mpr ⟨other, member, same.symm⟩)
      · intro after solo changes
        exact finishes after solo (changes.cons reads fresh)

/-- The rows that an update selects are replaced in what the transaction sees. -/
def Updates (layout : Layout Row) (condition : Row -> Bool) (change : RowChange layout)
    (table : List Row) (held after : Held Row Single) : Prop :=
  after.visible layout table =
    (held.visible layout table).map (fun row => if condition row then change.apply row else row) ∧
    after.single = held.single ∧ after.drawn = held.drawn

theorem Changes.updates {condition : Row -> Bool} {change : RowChange layout} {rows : List Row}
    {after : Held Row Single} (changes : Changes change held rows after) (solo : Solo layout committed held)
    (later : Solo layout committed after)
    (selected : rows.Perm ((held.visible layout committed.table).filter condition)) :
    Updates layout condition change committed.table held after := by
  have listed : forall row, row ∈ rows ↔ row ∈ held.visible layout committed.table ∧ condition row = true :=
    fun row => selected.mem_iff.trans List.mem_filter
  refine ⟨?_, changes.single, changes.drawn⟩
  rw [changes.visible solo later.fits fun row member => ((listed row).mp member).1]
  apply List.map_congr_left
  intro row member
  have same : layout.Names rows (layout.ident row) ↔ condition row = true := by
    constructor
    · rintro ⟨other, inRows, same⟩
      have facts := (listed other).mp inRows
      rw [← solo.visible_sorted.eq_of_ident facts.1 member same]
      exact facts.2
    · exact fun holds => ⟨row, (listed row).mpr ⟨member, holds⟩, rfl⟩
  simp only [same]

theorem alone_updateRows {claim : Option Nat -> Held Row Single -> Committed Row Single -> Prop}
    {condition : Row -> Bool} {change : RowChange layout} {order : List Row -> List Row}
    (harmless : Harmless change) (solo : Solo layout committed held)
    (ordering : forall rows, (order rows).Perm rows)
    (finishes : forall after, Solo layout committed after ->
      Updates layout condition change committed.table held after ->
      claim (some ((held.visible layout committed.table).filter condition).length) after committed) :
    Alone claim (updateRows Single layout order condition change) committed held := by
  have permuted := ordering ((held.visible layout committed.table).filter condition)
  refine ⟨_, held, rfl, alone_writeEach harmless solo _ ?_ ?_ ?_⟩
  · refine (permuted.map layout.ident).nodup_iff.mpr ?_
    exact solo.visible_sorted.nodup_ident.sublist (List.filter_sublist.map _)
  · exact fun row member => List.mem_filter.mp (permuted.mem_iff.mp member)
  · intro after later changes
    rw [permuted.length_eq]
    exact finishes after later (changes.updates solo later permuted)

/-- An update of one row is refused exactly when its new version shares a key. -/
theorem alone_updateSingle {claim : Option Nat -> Held Row Single -> Committed Row Single -> Prop}
    {condition : Row -> Bool} {change : RowChange layout} {order : List Row -> List Row} {row : Row}
    (solo : Solo layout committed held) (ordering : forall rows, (order rows).Perm rows)
    (found : (held.visible layout committed.table).filter condition = [row])
    (refused : (Exists fun other => other ∈ held.visible layout committed.table ∧
      layout.ident other ≠ layout.ident row ∧ layout.clash (change.apply row) other = true) ->
      claim none held committed)
    (finishes : forall after, (forall other, other ∈ held.visible layout committed.table ->
        layout.ident other ≠ layout.ident row -> layout.clash (change.apply row) other = false) ->
      Solo layout committed after -> Updates layout condition change committed.table held after ->
      claim (some 1) after committed) :
    Alone claim (updateRows Single layout order condition change) committed held := by
  have listed : row ∈ (held.visible layout committed.table).filter condition := by
    rw [found]
    exact List.mem_singleton_self row
  have facts := List.mem_filter.mp listed
  refine ⟨_, held, rfl, ?_⟩
  have single : order ((held.visible layout committed.table).filter condition) = [row] := by
    rw [found]
    exact List.perm_singleton.mp (ordering [row])
  change Alone claim (writeEach Single layout condition change (order _)) committed held
  rw [single]
  by_cases clashing : Exists fun other => other ∈ held.visible layout committed.table ∧
      layout.ident other ≠ layout.ident row ∧ layout.clash (change.apply row) other = true
  · rcases clashing with ⟨other, seen, different, clashes⟩
    have verdictIs : verdict layout [] committed.table held (change.apply row) = .refused :=
      verdict_solo_refused seen (by rw [change.ident_eq]; exact different) clashes
    have done : writeRow layout [] committed.table held (layout.ident row) condition change =
        some (.refused, held) := by
      rw [writeRow, if_neg not_taken_nil, solo.visible_sorted.lookup_eq facts.1]
      simp only [facts.2, if_true, verdictIs]
    exact ⟨.refused, held, done, refused ⟨other, seen, different, clashes⟩⟩
  · have free : forall other, other ∈ held.visible layout committed.table ->
        layout.ident other ≠ layout.ident row -> layout.clash (change.apply row) other = false :=
      fun other seen different => Bool.eq_false_iff.mpr fun clashes => clashing ⟨other, seen, different, clashes⟩
    have done := writeRow_solo solo facts.1 facts.2 free
    have later : Solo layout committed ((held.take layout row).put layout (change.apply row)) :=
      solo.solo (.write (layout.ident row) condition change) done
    have changes := Changes.cons (take_reads solo.sorted solo.fits facts.1) Layout.not_names_nil (.none change _)
    refine ⟨.done, _, done, finishes _ free later (changes.updates solo later ?_)⟩
    rw [found]

/-! ## Insertions and the single row -/

theorem insertRow_solo_known {table : List Row} (new : NewRow layout) {target : Row -> Bool}
    {change : RowChange layout} {row : Row} {after : Held Row Single}
    (found : (held.visible layout table).find? target = some row)
    (done : writeRow layout [] table held (layout.ident row) target change = some (.done, after)) :
    insertRow layout [] table held new target change = some (some (layout.ident row), after) := by
  rw [insertRow, found]
  simp only [done]

/-- An upsert changes the row that is there. -/
theorem alone_upsert_known {claim : Option Nat -> Held Row Single -> Committed Row Single -> Prop}
    {new : NewRow layout} {target : Row -> Bool} {change : RowChange layout} {row : Row}
    (harmless : Harmless change) (solo : Solo layout committed held)
    (found : (held.visible layout committed.table).find? target = some row)
    (only : forall other, other ∈ held.visible layout committed.table -> target other = true -> other = row)
    (finishes : forall after, Solo layout { committed with next := committed.next + 1 } after ->
      after.visible layout committed.table =
        (held.visible layout committed.table).map (fun row => if target row then change.apply row else row) ->
      after.single = held.single ->
      claim (some (layout.ident row)) after { committed with next := committed.next + 1 }) :
    Alone claim (upsert Single layout new target change) committed held := by
  have drew : access layout [] committed held .draw = some ((), { held with drawn := some committed.next }) := rfl
  have drawn := solo.solo .draw drew
  have seen := List.mem_of_find?_eq_some found
  have selected := List.find?_some found
  have done := writeRow_solo drawn seen selected (harmless.free drawn seen)
  have stillFound : (({ held with drawn := some committed.next } : Held Row Single).visible layout
      committed.table).find? target = some row := found
  have inserted := insertRow_solo_known new stillFound done
  have later := drawn.solo (.insert new target change) inserted
  have changes := Changes.cons (take_reads drawn.sorted drawn.fits seen) Layout.not_names_nil (.none change _)
  have permuted : [row].Perm ((held.visible layout committed.table).filter target) := by
    refine (List.perm_ext_iff_of_nodup (List.nodup_singleton row) ?_).mpr fun other => ?_
    · exact (List.Nodup.of_map _ solo.visible_sorted.nodup_ident).filter _
    · rw [List.mem_filter, List.mem_singleton]
      refine ⟨?_, fun facts => only other facts.1 facts.2⟩
      rintro rfl
      exact ⟨seen, selected⟩
  have updates := changes.updates drawn later permuted
  exact ⟨(), _, drew, some (layout.ident row), _, inserted, finishes _ later updates.1 updates.2.1⟩

/-- An upsert of a row that shares no key inserts it under the next id. -/
theorem alone_upsert_new {claim : Option Nat -> Held Row Single -> Committed Row Single -> Prop}
    {new : NewRow layout} {target : Row -> Bool} {change : RowChange layout} (solo : Solo layout committed held)
    (absent : (held.visible layout committed.table).find? target = none)
    (free : forall other, other ∈ held.visible layout committed.table ->
      layout.clash (new.make committed.next) other = false)
    (finishes : forall after, Solo layout { committed with next := committed.next + 1 } after ->
      after.visible layout committed.table = held.visible layout committed.table ++ [new.make committed.next] ->
      after.single = held.single ->
      claim (some committed.next) after { committed with next := committed.next + 1 }) :
    Alone claim (upsert Single layout new target change) committed held := by
  have drew : access layout [] committed held .draw = some ((), { held with drawn := some committed.next }) := rfl
  have drawn := solo.solo .draw drew
  have issued : forall row, row ∈ held.visible layout committed.table -> layout.ident row < committed.next := by
    intro row seen
    rcases Layout.mem_overlay.mp seen with mine | ⟨old, _⟩
    · exact solo.fits.issued row mine
    · exact solo.issued row old
  have unused : ¬ layout.Names (held.visible layout committed.table) committed.next := by
    rintro ⟨row, seen, same⟩
    exact Nat.lt_irrefl _ (same ▸ issued row seen)
  have passes : verdict layout [] committed.table { held with drawn := some committed.next }
      (new.make committed.next) = .free :=
    verdict_solo fun other seen _ => free other seen
  have inserted : insertRow layout [] committed.table { held with drawn := some committed.next } new target change =
      some (some committed.next, ({ held with drawn := some committed.next } : Held Row Single).put layout
        (new.make committed.next)) := by
    have again : ({ held with drawn := some committed.next } : Held Row Single).visible layout committed.table =
        held.visible layout committed.table := rfl
    rw [insertRow, again, absent]
    simp only
    rw [if_neg unused, if_neg]
    · simp only [passes]
    · rintro ⟨_, nobody, _⟩
      cases nobody
  have later := drawn.solo (.insert new target change) inserted
  refine ⟨(), _, drew, some committed.next, _, inserted, finishes _ later ?_ rfl⟩
  -- The new row comes last, because its id is the largest.
  refine (Layout.overlay_sorted solo.sorted later.fits.distinct).eq_of_mem_iff ?_ fun row => ?_
  · refine List.pairwise_append.mpr ⟨solo.visible_sorted, List.pairwise_singleton _ _, ?_⟩
    intro first member second isNew
    rw [List.mem_singleton.mp isNew, new.ident_eq]
    exact issued first member
  · rw [Layout.mem_overlay, mem_put_own, names_put_own, new.ident_eq, List.mem_append, List.mem_singleton, Held.visible,
      Layout.mem_overlay]
    have fresh : forall row, row ∈ held.own ∨ row ∈ committed.table -> layout.ident row ≠ committed.next := by
      rintro row (mine | old)
      · exact Nat.ne_of_lt (solo.fits.issued row mine)
      · exact Nat.ne_of_lt (solo.issued row old)
    constructor
    · rintro ((rfl | ⟨mine, _⟩) | ⟨old, unwritten⟩)
      · exact Or.inr rfl
      · exact Or.inl (Or.inl mine)
      · exact Or.inl (Or.inr ⟨old, fun named => unwritten (Or.inr named)⟩)
    · rintro ((mine | ⟨old, unwritten⟩) | rfl)
      · exact Or.inl (Or.inr ⟨mine, fresh row (Or.inl mine)⟩)
      · exact Or.inr ⟨old, fun either => either.elim (fun same => fresh row (Or.inr old) same.symm) unwritten⟩
      · exact Or.inl (Or.inl rfl)

theorem alone_alter {claim : Unit -> Held Row Single -> Committed Row Single -> Prop} {change : Single -> Single}
    (solo : Solo layout committed held)
    (finishes : forall after, Solo layout committed after -> after.own = held.own ->
      after.visibleSingle committed.single = (held.visibleSingle committed.single).map change ->
      claim () after committed) :
    Alone claim (Access.ask (.alter change) : Accessing layout Single Unit) committed held := by
  cases found : held.visibleSingle committed.single with
  | none =>
      rw [found] at finishes
      have done : access layout [] committed held (.alter change) = some ((), held) := by
        simp only [access, found]
        rfl
      exact ⟨(), held, done, finishes held solo rfl found⟩
  | some value =>
      rw [found] at finishes
      have done : access layout [] committed held (.alter change) =
          some ((), held.putSingle committed.single (change value)) := by
        simp only [access, found, if_neg not_singleTaken_nil]
        rfl
      exact ⟨(), _, done, finishes _ (solo.solo (.alter change) done) rfl rfl⟩

end Rules

/-! ## Runs of the server -/

section Idle

variable {others : List (Held Row Single)} {committed : Committed Row Single} {held : Held Row Single}

/-- Transactions that hold nothing are like no transactions. -/
theorem taken_idle (idle : forall other, other ∈ others -> other = .empty) (id : Nat) :
    Taken layout others id ↔ Taken layout ([] : List (Held Row Single)) id := by
  refine iff_of_false ?_ not_taken_nil
  rintro ⟨other, member, has⟩
  rw [idle other member] at has
  exact Layout.not_names_nil has

theorem singleTaken_idle (idle : forall other, other ∈ others -> other = .empty) :
    SingleTaken others ↔ SingleTaken ([] : List (Held Row Single)) := by
  refine iff_of_false ?_ not_singleTaken_nil
  rintro ⟨other, member, held⟩
  rw [idle other member] at held
  cases held

theorem verdict_idle (idle : forall other, other ∈ others -> other = .empty) (table : List Row) (version : Row) :
    verdict layout others table held version = verdict layout [] table held version := by
  have unwritten : forall row : Row, (forall other, other ∈ others -> ¬ layout.Names other.own (layout.ident row)) ↔
      forall other, other ∈ ([] : List (Held Row Single)) -> ¬ layout.Names other.own (layout.ident row) := by
    refine fun row => iff_of_true (fun other member => ?_) fun _ absent => by cases absent
    rw [idle other member]
    exact Layout.not_names_nil
  have unclaimed : (Exists fun other => other ∈ others ∧ Exists fun theirs => theirs ∈ other.own ∧
        layout.clash version theirs = true) ↔
      Exists fun other => other ∈ ([] : List (Held Row Single)) ∧ Exists fun theirs => theirs ∈ other.own ∧
        layout.clash version theirs = true := by
    refine iff_of_false ?_ ?_
    · rintro ⟨other, member, theirs, written, _⟩
      rw [idle other member] at written
      cases written
    · rintro ⟨_, absent, _⟩
      cases absent
  simp only [verdict, unwritten, unclaimed]

theorem lockRow_idle (idle : forall other, other ∈ others -> other = .empty) (table : List Row) (id : Nat)
    (condition : Row -> Bool) :
    lockRow layout others table held id condition = lockRow layout [] table held id condition := by
  simp only [lockRow, taken_idle idle]

theorem writeRow_idle (idle : forall other, other ∈ others -> other = .empty) (table : List Row) (id : Nat)
    (condition : Row -> Bool) (change : RowChange layout) :
    writeRow layout others table held id condition change = writeRow layout [] table held id condition change := by
  simp only [writeRow, taken_idle idle, verdict_idle idle]

theorem insertRow_idle (idle : forall other, other ∈ others -> other = .empty) (table : List Row)
    (new : NewRow layout) (target : Row -> Bool) (change : RowChange layout) :
    insertRow layout others table held new target change = insertRow layout [] table held new target change := by
  have unclaimed : forall id, (Exists fun other => other ∈ others ∧ Exists fun theirs => theirs ∈ other.own ∧
        (target theirs = true ∨ layout.ident theirs = id)) ↔
      Exists fun other => other ∈ ([] : List (Held Row Single)) ∧ Exists fun theirs => theirs ∈ other.own ∧
        (target theirs = true ∨ layout.ident theirs = id) := by
    refine fun id => iff_of_false ?_ ?_
    · rintro ⟨other, member, theirs, written, _⟩
      rw [idle other member] at written
      cases written
    · rintro ⟨_, absent, _⟩
      cases absent
  simp only [insertRow, writeRow_idle idle, verdict_idle idle, unclaimed]

theorem access_idle (idle : forall other, other ∈ others -> other = .empty) (op : Access layout Single) :
    access layout others committed held op = access layout [] committed held op := by
  cases op with
  | view condition => rfl
  | lock id condition => exact lockRow_idle idle _ _ _
  | tryLock id condition => simp only [access, lockRow_idle idle]
  | write id condition change => exact writeRow_idle idle _ _ _ _
  | draw => rfl
  | insert new target change => exact insertRow_idle idle _ _ _ _
  | peek => rfl
  | create value => simp only [access, singleTaken_idle idle]
  | alter change => simp only [access, singleTaken_idle idle]

end Idle

section Runs

variable {body : Entry -> Int -> Transaction Row Single Failure Value layout}

/-- No transaction is in progress. -/
def Engine.Idle (engine : Engine Row Single Entry Failure Value layout) : Prop :=
  forall session, session ∈ engine.sessions -> session.isOpen = false ∧ session.held = .empty

/-- The committed state when a transaction is closed. -/
def Committed.settle (layout : Layout Row) (committed : Committed Row Single) (held : Held Row Single) :
    Except Failure Value -> Committed Row Single
  | .ok _ => committed.absorb layout held
  | .error _ => committed

theorem eraseIdx_length_append {T : Type} (items : List T) (item : T) :
    (items ++ [item]).eraseIdx items.length = items := by
  rw [List.eraseIdx_append_of_length_le (Nat.le_refl _), Nat.sub_self]
  exact List.append_nil items

theorem set_length_append {T : Type} (items : List T) (old item : T) :
    (items ++ [old]).set items.length item = items ++ [item] := by
  rw [List.set_append_right _ _ (Nat.le_refl _), Nat.sub_self]
  rfl

/-- The last transaction is resumed until it has finished, and closed. -/
theorem run_resumed {start : Engine Row Single Entry Failure Value layout}
    {past : List (Event (Engine Row Single Entry Failure Value layout) (EngineAction Entry))}
    {committed : Committed Row Single} {now started : Int} {entry : Entry}
    {sessions : List (Session Row Single Entry Failure Value layout)}
    (idle : forall session, session ∈ sessions -> session.isOpen = false ∧ session.held = .empty)
    {claim : Except Failure Value -> Held Row Single -> Committed Row Single -> Prop}
    (program : Transaction Row Single Failure Value layout) {held : Held Row Single}
    (alone : Alone claim program committed held)
    (run : EngineRun body start past ⟨committed, now, sessions ++ [⟨entry, started, program, held, true⟩]⟩) :
    Exists fun outcome => Exists fun last => Exists fun state => Exists fun later => claim outcome last state ∧
      EngineRun body start later
        ⟨state.settle layout last outcome, now, sessions ++ [⟨entry, started, .finish outcome, .empty, false⟩]⟩ := by
  induction program generalizing past committed held with
  | finish outcome =>
      have taken : Engine.step body ⟨committed, now, sessions ++ [⟨entry, started, .finish outcome, held, true⟩]⟩
          (.close sessions.length) = some ⟨committed.settle layout held outcome, now,
            sessions ++ [⟨entry, started, .finish outcome, .empty, false⟩]⟩ := by
        simp only [Engine.step, List.getElem?_concat_length, set_length_append]
        cases outcome <;> rfl
      exact ⟨outcome, held, committed, _, alone, .next run taken⟩
  | request op next inductionHypothesis =>
      rcases alone with ⟨reply, after, done, rest⟩
      have others : forall other, other ∈ Engine.others
          (⟨committed, now, sessions ++ [⟨entry, started, .request op next, held, true⟩]⟩ :
            Engine Row Single Entry Failure Value layout) sessions.length -> other = .empty := by
        intro other member
        rw [Engine.others, eraseIdx_length_append] at member
        rcases List.mem_map.mp member with ⟨session, listed, rfl⟩
        exact (idle session listed).2
      have taken : Engine.step body ⟨committed, now, sessions ++ [⟨entry, started, .request op next, held, true⟩]⟩
          (.resume sessions.length) = some ⟨op.advance layout committed, now,
            sessions ++ [⟨entry, started, next reply, after, true⟩]⟩ := by
        simp only [Engine.step, List.getElem?_concat_length, access_idle others, done, set_length_append]
      exact inductionHypothesis reply rest (.next run taken)

/-- A transaction started on an idle server runs to its end there. -/
theorem run_alone (body : Entry -> Int -> Transaction Row Single Failure Value layout)
    {engine : Engine Row Single Entry Failure Value layout} (idle : engine.Idle) (entry : Entry)
    {claim : Except Failure Value -> Held Row Single -> Committed Row Single -> Prop}
    (alone : Alone claim (body entry engine.now) engine.committed .empty) :
    Exists fun outcome => Exists fun last => Exists fun state => Exists fun past => claim outcome last state ∧
      EngineRun body engine past
        ⟨state.settle layout last outcome, engine.now,
          engine.sessions ++ [⟨entry, engine.now, .finish outcome, .empty, false⟩]⟩ := by
  have first : EngineRun body engine [⟨engine, .start entry⟩]
      ⟨engine.committed, engine.now,
        engine.sessions ++ [⟨entry, engine.now, body entry engine.now, .empty, true⟩]⟩ :=
    .next .start rfl
  exact run_resumed idle _ alone first

end Runs

end Foundation
end Shardman
