import Shardman.Foundation.RowLocks

namespace Shardman
namespace Foundation

/-!
# What locks guarantee

A transaction keeps what it has locked: nobody else can write it, so at its own
commit the committed table still has those rows as they were read.  The unique
indexes hold in every committed table, although they are only ever checked
against single rows, because a version that is written shares no key with the
versions of other running transactions.
-/

variable {Row Single : Type} {layout : Layout Row}

/-- What a transaction holds agrees with the committed state. -/
structure Fits (layout : Layout Row) (committed : Committed Row Single) (held : Held Row Single) : Prop where
  locked : forall row, row ∈ held.locked -> row ∈ committed.table
  based : forall version, version ∈ held.own -> layout.Names held.locked (layout.ident version) ∨
    ¬ layout.Names committed.table (layout.ident version)
  distinct : (held.own.map layout.ident).Nodup
  clear : forall version, version ∈ held.own -> forall row, row ∈ committed.table ->
    ¬ layout.Names held.own (layout.ident row) -> layout.clash version row = false
  apart : forall version, version ∈ held.own -> forall other, other ∈ held.own ->
    layout.ident version ≠ layout.ident other -> layout.clash version other = false
  issued : forall version, version ∈ held.own -> layout.ident version < committed.next
  drawn : forall id, held.drawn = some id -> id < committed.next
  single : forall base mine, held.single = some (base, mine) -> base = committed.single

/-- What two transactions hold does not overlap. -/
structure Apart (layout : Layout Row) (first second : Held Row Single) : Prop where
  ids : forall id, first.Has layout id -> ¬ second.Has layout id
  versions : forall version, version ∈ first.own -> forall theirs, theirs ∈ second.own ->
    layout.clash version theirs = false
  single : first.single = none ∨ second.single = none

/-- The situation in which a transaction makes an access. -/
structure Context (layout : Layout Row) (committed : Committed Row Single) (others : List (Held Row Single))
    (held : Held Row Single) : Prop where
  sorted : layout.Sorted committed.table
  clashFree : layout.ClashFree committed.table
  issued : forall row, row ∈ committed.table -> layout.ident row < committed.next
  fits : Fits layout committed held
  theirs : forall other, other ∈ others -> Fits layout committed other
  apart : forall other, other ∈ others -> Apart layout held other

theorem Apart.symm {first second : Held Row Single} (apart : Apart layout first second) :
    Apart layout second first where
  ids id has held := apart.ids id held has
  versions version member theirs theirMember := by
    rw [layout.clash_comm]
    exact apart.versions theirs theirMember version member
  single := apart.single.symm

theorem fits_empty (committed : Committed Row Single) : Fits layout committed Held.empty where
  locked _ absent := by cases absent
  based _ absent := by cases absent
  distinct := List.nodup_nil
  clear _ absent := by cases absent
  apart _ absent := by cases absent
  issued _ absent := by cases absent
  drawn _ absent := by cases absent
  single _ _ absent := by cases absent

theorem apart_empty (held : Held Row Single) : Apart layout Held.empty held where
  ids _ has := absurd has Layout.not_names_nil
  versions _ absent := by cases absent
  single := Or.inl rfl

/-! ## Taking and writing rows -/

section Rows

variable {committed : Committed Row Single} {held other : Held Row Single} {row version : Row} {id : Nat}

theorem take_own : (held.take layout row).own = held.own := by
  unfold Held.take
  split <;> rfl

theorem take_single : (held.take layout row).single = held.single := by
  unfold Held.take
  split <;> rfl

theorem take_drawn : (held.take layout row).drawn = held.drawn := by
  unfold Held.take
  split <;> rfl

theorem locked_subset_take : held.locked ⊆ (held.take layout row).locked := by
  intro old member
  unfold Held.take
  split
  · exact member
  · exact List.mem_cons_of_mem _ member

theorem has_take : (held.take layout row).Has layout id ↔ layout.ident row = id ∨ held.Has layout id := by
  unfold Held.take
  split
  · rename_i already
    refine ⟨Or.inr, ?_⟩
    rintro (rfl | has)
    · exact already
    · exact has
  · exact Layout.names_cons

theorem mem_put_own :
    version ∈ (held.put layout row).own ↔
      version = row ∨ version ∈ held.own ∧ layout.ident version ≠ layout.ident row := by
  simp only [Held.put, List.mem_cons, List.mem_filter, decide_eq_true_eq]

theorem names_put_own :
    layout.Names (held.put layout row).own id ↔ layout.ident row = id ∨ layout.Names held.own id := by
  constructor
  · rintro ⟨version, member, rfl⟩
    rcases mem_put_own.mp member with rfl | ⟨old, _⟩
    · exact Or.inl rfl
    · exact Or.inr ⟨version, old, rfl⟩
  · rintro (rfl | ⟨version, member, rfl⟩)
    · exact ⟨row, mem_put_own.mpr (Or.inl rfl), rfl⟩
    · by_cases same : layout.ident version = layout.ident row
      · exact ⟨row, mem_put_own.mpr (Or.inl rfl), same.symm⟩
      · exact ⟨version, mem_put_own.mpr (Or.inr ⟨member, same⟩), rfl⟩

theorem has_put : (held.put layout row).Has layout id ↔ layout.ident row = id ∨ held.Has layout id := by
  simp only [Held.Has, Layout.names_append, names_put_own]
  exact or_left_comm

theorem Held.Reads.has (reads : held.Reads layout row) : held.Has layout (layout.ident row) := by
  rcases reads with mine | ⟨locked, _⟩
  · exact Layout.names_append.mpr (Or.inr (Layout.names_of_mem mine))
  · exact Layout.names_append.mpr (Or.inl (Layout.names_of_mem locked))

/-- A visible row that the transaction has not written is a committed one. -/
theorem mem_table_of_visible (seen : row ∈ held.visible layout committed.table)
    (unwritten : ¬ layout.Names held.own (layout.ident row)) : row ∈ committed.table := by
  rcases Layout.mem_overlay.mp seen with mine | ⟨old, _⟩
  · exact absurd (Layout.names_of_mem mine) unwritten
  · exact old

theorem take_fits (fits : Fits layout committed held) (seen : row ∈ held.visible layout committed.table) :
    Fits layout committed (held.take layout row) := by
  by_cases already : held.Has layout (layout.ident row)
  · rw [Held.take, if_pos already]
    exact fits
  · have unwritten : ¬ layout.Names held.own (layout.ident row) := fun named =>
      already (Layout.names_append.mpr (Or.inr named))
    have committedRow := mem_table_of_visible seen unwritten
    rw [Held.take, if_neg already]
    refine { fits with locked := ?_, based := ?_ }
    · intro old member
      rcases List.mem_cons.mp member with rfl | earlier
      · exact committedRow
      · exact fits.locked old earlier
    · intro version member
      exact (fits.based version member).imp_left fun named => Layout.names_cons.mpr (Or.inr named)

/-- A visible row is read by the transaction that takes it. -/
theorem take_reads (sorted : layout.Sorted committed.table) (fits : Fits layout committed held)
    (seen : row ∈ held.visible layout committed.table) : (held.take layout row).Reads layout row := by
  unfold Held.Reads
  rw [take_own]
  rcases Layout.mem_overlay.mp seen with mine | ⟨old, unwritten⟩
  · exact Or.inl mine
  · refine Or.inr ⟨?_, unwritten⟩
    unfold Held.take
    split
    · rename_i already
      rcases (Layout.names_append.mp already).resolve_right unwritten with ⟨lockedRow, member, same⟩
      rw [← sorted.eq_of_ident (fits.locked lockedRow member) old same]
      exact member
    · exact List.mem_cons_self

/-- What a transaction reads is visible to it. -/
theorem Held.Reads.visible (reads : held.Reads layout row) (fits : Fits layout committed held) :
    row ∈ held.visible layout committed.table :=
  Layout.mem_overlay.mpr (reads.imp_right fun both => ⟨fits.locked row both.1, both.2⟩)

theorem take_apart (apart : Apart layout held other) (free : ¬ other.Has layout (layout.ident row)) :
    Apart layout (held.take layout row) other where
  ids id has := by
    rcases has_take.mp has with rfl | earlier
    · exact free
    · exact apart.ids id earlier
  versions := by
    rw [take_own]
    exact apart.versions
  single := by
    rw [take_single]
    exact apart.single

/-- A version that the indexes let pass clashes with nothing that stays. -/
theorem verdict_free {others : List (Held Row Single)} {table : List Row}
    (passes : verdict layout others table held version = .free) :
    (forall mine, mine ∈ held.own -> layout.ident mine ≠ layout.ident version ->
      layout.clash version mine = false) ∧
    (forall old, old ∈ table -> layout.ident old ≠ layout.ident version ->
      ¬ layout.Names held.own (layout.ident old) -> layout.clash version old = false) ∧
    forall other, other ∈ others -> forall theirs, theirs ∈ other.own -> layout.clash version theirs = false := by
  unfold verdict at passes
  split at passes
  · cases passes
  · rename_i noneOwn
    split at passes
    · cases passes
    · split at passes
      · cases passes
      · rename_i noneElse
        rw [not_or] at noneElse
        refine ⟨?_, ?_, ?_⟩
        · intro mine member different
          exact Bool.eq_false_iff.mpr fun clashes => noneOwn ⟨mine, member, different, clashes⟩
        · intro old member different unwritten
          exact Bool.eq_false_iff.mpr fun clashes =>
            noneElse.1 ⟨old, member, different, unwritten, clashes⟩
        · intro other member theirs theirMember
          exact Bool.eq_false_iff.mpr fun clashes =>
            noneElse.2 ⟨other, member, theirs, theirMember, clashes⟩

/-- The indexes look at the own versions only. -/
theorem verdict_take (row : Row) {others : List (Held Row Single)} {table : List Row} :
    verdict layout others table (held.take layout row) version = verdict layout others table held version := by
  unfold Held.take
  split <;> rfl

theorem put_fits {others : List (Held Row Single)} (fits : Fits layout committed held)
    (based : layout.Names held.locked (layout.ident row) ∨ ¬ layout.Names committed.table (layout.ident row))
    (issued : layout.ident row < committed.next)
    (passes : verdict layout others committed.table held row = .free) :
    Fits layout committed (held.put layout row) := by
  rcases verdict_free passes with ⟨clearOwn, clearTable, _⟩
  refine ⟨fits.locked, ?_, ?_, ?_, ?_, ?_, fits.drawn, fits.single⟩
  · intro version member
    rcases mem_put_own.mp member with rfl | ⟨old, _⟩
    · exact based
    · exact fits.based version old
  · change (layout.ident row :: (held.own.filter _).map layout.ident).Nodup
    refine List.nodup_cons.mpr ⟨?_, fits.distinct.sublist (List.filter_sublist.map _)⟩
    intro repeated
    rcases List.mem_map.mp repeated with ⟨version, member, same⟩
    exact of_decide_eq_true (List.mem_filter.mp member).2 same
  · intro version member old oldMember unwritten
    rw [names_put_own, not_or] at unwritten
    rcases mem_put_own.mp member with rfl | ⟨mine, _⟩
    · exact clearTable old oldMember (Ne.symm unwritten.1) unwritten.2
    · exact fits.clear version mine old oldMember unwritten.2
  · intro version member second secondMember different
    rcases mem_put_own.mp member with rfl | ⟨mine, notRow⟩ <;>
      rcases mem_put_own.mp secondMember with rfl | ⟨secondMine, secondNotRow⟩
    · exact absurd rfl different
    · exact clearOwn second secondMine secondNotRow
    · rw [layout.clash_comm]
      exact clearOwn version mine notRow
    · exact fits.apart version mine second secondMine different
  · intro version member
    rcases mem_put_own.mp member with rfl | ⟨mine, _⟩
    · exact issued
    · exact fits.issued version mine

theorem put_apart {others : List (Held Row Single)} {table : List Row} (apart : Apart layout held other)
    (member : other ∈ others) (free : ¬ other.Has layout (layout.ident row))
    (passes : verdict layout others table held row = .free) : Apart layout (held.put layout row) other where
  ids id has := by
    rcases has_put.mp has with rfl | earlier
    · exact free
    · exact apart.ids id earlier
  versions version own theirs theirMember := by
    rcases mem_put_own.mp own with rfl | ⟨mine, _⟩
    · exact (verdict_free passes).2.2 other member theirs theirMember
    · exact apart.versions version mine theirs theirMember
  single := apart.single

end Rows

/-! ## One access -/

section Accesses

variable {others : List (Held Row Single)} {committed : Committed Row Single} {held after : Held Row Single}

/-- What a transaction sees is a table. -/
theorem Context.visible_sorted (context : Context layout committed others held) :
    layout.Sorted (held.visible layout committed.table) :=
  Layout.overlay_sorted context.sorted context.fits.distinct

theorem Context.visible_clashFree (context : Context layout committed others held) :
    layout.ClashFree (held.visible layout committed.table) :=
  Layout.overlay_clashFree context.clashFree context.fits.apart context.fits.clear

theorem lockRow_some {table : List Row} {id : Nat} {condition : Row -> Bool} {reply : Option Row}
    (done : lockRow layout others table held id condition = some (reply, after)) :
    ¬ Taken layout others id ∧
      (reply = none ∧ after = held ∨
        Exists fun row => reply = some row ∧ after = held.take layout row ∧
          row ∈ held.visible layout table ∧ layout.ident row = id ∧ condition row = true) := by
  unfold lockRow at done
  split at done
  · cases done
  · rename_i free
    refine ⟨free, ?_⟩
    split at done
    · rename_i row found
      split at done
      · rename_i selected
        cases done
        rcases Layout.lookup_some found with ⟨seen, same⟩
        exact Or.inr ⟨row, rfl, rfl, seen, same, selected⟩
      · cases done
        exact Or.inl ⟨rfl, rfl⟩
    · cases done
      exact Or.inl ⟨rfl, rfl⟩

theorem writeRow_some {table : List Row} {id : Nat} {condition : Row -> Bool} {change : RowChange layout}
    {written : Written} (done : writeRow layout others table held id condition change = some (written, after)) :
    ¬ Taken layout others id ∧
      (written ≠ .done ∧ after = held ∨
        Exists fun row => written = .done ∧ after = (held.take layout row).put layout (change.apply row) ∧
          row ∈ held.visible layout table ∧ layout.ident row = id ∧ condition row = true ∧
          verdict layout others table held (change.apply row) = .free) := by
  unfold writeRow at done
  split at done
  · cases done
  · rename_i free
    refine ⟨free, ?_⟩
    split at done
    · cases done
      exact Or.inl ⟨by decide, rfl⟩
    · rename_i row found
      split at done
      · rename_i selected
        split at done
        · cases done
        · cases done
          exact Or.inl ⟨by decide, rfl⟩
        · rename_i passes
          cases done
          rcases Layout.lookup_some found with ⟨seen, same⟩
          exact Or.inr ⟨row, rfl, rfl, seen, same, selected, passes⟩
      · cases done
        exact Or.inl ⟨by decide, rfl⟩

/-- A row that the transaction reads itself does not slip away. -/
theorem writeRow_reads (context : Context layout committed others held) {row : Row} {condition : Row -> Bool}
    {change : RowChange layout} {written : Written} (reads : held.Reads layout row) (selected : condition row = true)
    (done : writeRow layout others committed.table held (layout.ident row) condition change = some (written, after)) :
    written = .refused ∨
      written = .done ∧ after = (held.take layout row).put layout (change.apply row) := by
  have found : layout.lookup (held.visible layout committed.table) (layout.ident row) = some row :=
    context.visible_sorted.lookup_eq (reads.visible context.fits)
  unfold writeRow at done
  split at done
  · cases done
  · rw [found] at done
    simp only [selected, if_true] at done
    split at done
    · cases done
    · cases done
      exact Or.inl rfl
    · cases done
      exact Or.inr ⟨rfl, rfl⟩

theorem insertRow_some {table : List Row} {new : NewRow layout} {target : Row -> Bool}
    {change : RowChange layout} {reply : Option Nat}
    (done : insertRow layout others table held new target change = some (reply, after)) :
    (reply = none ∧ after = held) ∨
    (Exists fun id => reply = some id ∧ writeRow layout others table held id target change = some (.done, after)) ∨
    (Exists fun id => reply = some id ∧ held.drawn = some id ∧ after = held.put layout (new.make id) ∧
      (forall row, row ∈ held.visible layout table -> target row = false) ∧
      (forall other, other ∈ others -> ¬ layout.Names other.own id) ∧
      ¬ layout.Names (held.visible layout table) id ∧
      verdict layout others table held (new.make id) = .free) := by
  unfold insertRow at done
  split at done
  · rename_i old found
    split at done
    · cases done
    · rename_i changed
      cases done
      exact Or.inr (Or.inl ⟨_, rfl, changed⟩)
    · rename_i written changed failed outcome
      cases done
      rcases writeRow_some outcome with ⟨_, ⟨_, same⟩ | ⟨row, isDone, _⟩⟩
      · exact Or.inl ⟨rfl, same⟩
      · exact absurd isDone failed
  · rename_i absent
    split at done
    · cases done
      exact Or.inl ⟨rfl, rfl⟩
    · rename_i id drawn
      split at done
      · cases done
        exact Or.inl ⟨rfl, rfl⟩
      · rename_i unused
        split at done
        · cases done
        · rename_i unclaimed
          split at done
          · cases done
          · cases done
            exact Or.inl ⟨rfl, rfl⟩
          · rename_i passes
            cases done
            refine Or.inr (Or.inr ⟨id, rfl, drawn, rfl, ?_, ?_, unused, passes⟩)
            · intro row member
              exact Bool.eq_false_iff.mpr (List.find?_eq_none.mp absent row member)
            · rintro other member ⟨theirs, theirMember, same⟩
              exact unclaimed ⟨other, member, theirs, theirMember, Or.inr same⟩

theorem not_has_of_not_taken {id : Nat} (free : ¬ Taken layout others id) {other : Held Row Single}
    (member : other ∈ others) : ¬ other.Has layout id :=
  fun has => free ⟨other, member, has⟩

/-- What the holder of a context keeps by an access: its own facts and its
distance to the others. -/
def Keeps (layout : Layout Row) (committed : Committed Row Single) (others : List (Held Row Single))
    (after : Held Row Single) : Prop :=
  Fits layout committed after ∧ forall other, other ∈ others -> Apart layout after other

theorem Context.keeps (context : Context layout committed others held) : Keeps layout committed others held :=
  ⟨context.fits, context.apart⟩

theorem lockRow_keeps (context : Context layout committed others held) {id : Nat} {condition : Row -> Bool}
    {reply : Option Row}
    (done : lockRow layout others committed.table held id condition = some (reply, after)) :
    Keeps layout committed others after := by
  rcases lockRow_some done with ⟨free, ⟨_, rfl⟩ | ⟨row, _, rfl, seen, rfl, _⟩⟩
  · exact context.keeps
  · exact ⟨take_fits context.fits seen, fun other member =>
      take_apart (context.apart other member) (not_has_of_not_taken free member)⟩

theorem writeRow_keeps (context : Context layout committed others held) {id : Nat} {condition : Row -> Bool}
    {change : RowChange layout} {written : Written}
    (done : writeRow layout others committed.table held id condition change = some (written, after)) :
    Keeps layout committed others after := by
  rcases writeRow_some done with ⟨free, ⟨_, rfl⟩ | ⟨row, _, rfl, seen, rfl, _, passes⟩⟩
  · exact context.keeps
  · have reads := take_reads context.sorted context.fits seen
    have taken := take_fits context.fits seen
    have issued : layout.ident row < committed.next := by
      rcases Layout.mem_overlay.mp seen with mine | ⟨old, _⟩
      · exact context.fits.issued row mine
      · exact context.issued row old
    rw [← verdict_take row] at passes
    refine ⟨put_fits taken ?_ ?_ passes, ?_⟩
    · rw [change.ident_eq]
      rcases reads with mine | ⟨locked, _⟩
      · exact taken.based row mine
      · exact Or.inl (Layout.names_of_mem locked)
    · rw [change.ident_eq]
      exact issued
    · intro other member
      have apart : Apart layout (held.take layout row) other :=
        take_apart (context.apart other member) (not_has_of_not_taken free member)
      refine put_apart apart member ?_ passes
      rw [change.ident_eq]
      exact not_has_of_not_taken free member

theorem insertRow_keeps (context : Context layout committed others held) {new : NewRow layout}
    {target : Row -> Bool} {change : RowChange layout} {reply : Option Nat}
    (done : insertRow layout others committed.table held new target change = some (reply, after)) :
    Keeps layout committed others after := by
  rcases insertRow_some done with ⟨_, rfl⟩ | ⟨id, _, changed⟩ |
    ⟨id, _, drawn, rfl, _, unclaimed, unused, passes⟩
  · exact context.keeps
  · exact writeRow_keeps context changed
  · -- The id is in nobody's hands: a locked row would be in the table.
    have notCommitted : ¬ layout.Names committed.table id := by
      rintro ⟨row, member, rfl⟩
      by_cases written : layout.Names held.own (layout.ident row)
      · rcases written with ⟨version, mine, same⟩
        exact unused ⟨version, Layout.mem_overlay.mpr (Or.inl mine), same⟩
      · exact unused ⟨row, Layout.mem_overlay.mpr (Or.inr ⟨member, written⟩), rfl⟩
    refine ⟨put_fits context.fits ?_ ?_ passes, ?_⟩
    · rw [new.ident_eq]
      exact Or.inr notCommitted
    · rw [new.ident_eq]
      exact context.fits.drawn id drawn
    · intro other member
      refine put_apart (context.apart other member) member ?_ passes
      rw [new.ident_eq]
      intro has
      rcases Layout.names_append.mp has with ⟨row, locked, same⟩ | named
      · exact notCommitted ⟨row, (context.theirs other member).locked row locked, same⟩
      · exact unclaimed other member named

theorem putSingle_keeps (context : Context layout committed others held) (free : ¬ SingleTaken others)
    (value : Single) : Keeps layout committed others (held.putSingle committed.single value) := by
  refine ⟨{ context.fits with single := ?_ }, fun other member =>
    { context.apart other member with single := ?_ }⟩
  · intro base mine same
    cases same
    rfl
  · right
    rw [← Option.not_isSome_iff_eq_none]
    exact fun held => free ⟨other, member, held⟩

/-- Facts about the committed state survive the sequence. -/
theorem Fits.advance (fits : Fits layout committed held) (op : Access layout Single) :
    Fits layout (op.advance layout committed) held := by
  cases op with
  | draw =>
      exact { fits with
        issued := fun version member => Nat.lt_succ_of_lt (fits.issued version member)
        drawn := fun id drawn => Nat.lt_succ_of_lt (fits.drawn id drawn) }
  | _ => exact fits

theorem access_keeps (context : Context layout committed others held) {op : Access layout Single}
    {reply : op.Reply} (done : access layout others committed held op = some (reply, after)) :
    Keeps layout (op.advance layout committed) others after := by
  cases op with
  | view condition =>
      cases done
      exact context.keeps
  | lock id condition => exact lockRow_keeps context done
  | tryLock id condition =>
      simp only [access] at done
      split at done
      · rename_i outcome locked
        cases done
        exact lockRow_keeps context locked
      · cases done
        exact context.keeps
  | write id condition change => exact writeRow_keeps context done
  | draw =>
      cases done
      refine ⟨?_, fun other member => { context.apart other member with }⟩
      refine { context.fits with issued := ?_, drawn := ?_ }
      · exact fun version member => Nat.lt_succ_of_lt (context.fits.issued version member)
      · intro id same
        cases same
        exact Nat.lt_succ_self _
  | insert new target change => exact insertRow_keeps context done
  | peek =>
      cases done
      exact context.keeps
  | create value =>
      simp only [access] at done
      split at done
      · cases done
      · rename_i free
        split at done
        · cases done
          exact context.keeps
        · cases done
          exact putSingle_keeps context free value
  | alter change =>
      simp only [access] at done
      split at done
      · cases done
        exact context.keeps
      · split at done
        · cases done
        · rename_i free
          cases done
          exact putSingle_keeps context free _

end Accesses

/-! ## One commit -/

section Commits

variable {committed : Committed Row Single} {held other : Held Row Single}

/-- A commit leaves alone what the others have locked. -/
theorem absorb_fits (theirs : Fits layout committed other)
    (apart : Apart layout held other) : Fits layout (committed.absorb layout held) other := by
  refine ⟨?_, ?_, theirs.distinct, ?_, theirs.apart, theirs.issued, theirs.drawn, ?_⟩
  · intro row locked
    refine Layout.mem_overlay.mpr (Or.inr ⟨theirs.locked row locked, fun written => ?_⟩)
    exact apart.ids _ (Layout.names_append.mpr (Or.inr written))
      (Layout.names_append.mpr (Or.inl (Layout.names_of_mem locked)))
  · intro version member
    refine (theirs.based version member).imp_right fun new => ?_
    rintro ⟨row, present, same⟩
    rcases Layout.mem_overlay.mp present with written | ⟨old, _⟩
    · refine apart.ids (layout.ident row) (Layout.names_append.mpr (Or.inr (Layout.names_of_mem written))) ?_
      rw [same]
      exact Layout.names_append.mpr (Or.inr (Layout.names_of_mem member))
    · exact new ⟨row, old, same⟩
  · intro version member row present unwritten
    rcases Layout.mem_overlay.mp present with written | ⟨old, _⟩
    · rw [layout.clash_comm]
      exact apart.versions row written version member
    · exact theirs.clear version member row old unwritten
  · intro base own same
    have free : held.single = none := apart.single.resolve_right (by rw [same]; exact Option.some_ne_none _)
    rw [theirs.single base own same]
    simp only [Committed.absorb, Held.visibleSingle, free]

theorem absorb_sorted (sorted : layout.Sorted committed.table) (fits : Fits layout committed held) :
    layout.Sorted (committed.absorb layout held).table :=
  Layout.overlay_sorted sorted fits.distinct

theorem absorb_clashFree (free : layout.ClashFree committed.table) (fits : Fits layout committed held) :
    layout.ClashFree (committed.absorb layout held).table :=
  Layout.overlay_clashFree free fits.apart fits.clear

theorem absorb_issued (issued : forall row, row ∈ committed.table -> layout.ident row < committed.next)
    (fits : Fits layout committed held) :
    forall row, row ∈ (committed.absorb layout held).table -> layout.ident row < committed.next := by
  intro row present
  rcases Layout.mem_overlay.mp present with written | ⟨old, _⟩
  · exact fits.issued row written
  · exact issued row old

end Commits

end Foundation
end Shardman
