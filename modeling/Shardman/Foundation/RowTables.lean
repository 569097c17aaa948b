import Mathlib.Data.List.Sort

namespace Shardman
namespace Foundation

/-!
# Tables of identified rows

A table is a list of rows in increasing order of their ids.  Some pairs of rows
may not stand in one table, because they have a key of a unique index in
common; such rows clash.  `Layout.overlay` puts own versions of rows, old and
new, over a table: this is what a transaction sees while it runs, and what the
table becomes when it commits.
-/

/-- How rows are told apart, and which rows share a key. -/
structure Layout (Row : Type) where
  ident : Row -> Nat
  clash : Row -> Row -> Bool
  clash_comm : forall first second, clash first second = clash second first

namespace Layout

variable {Row : Type} (layout : Layout Row)

/-- Some row of the list has the id. -/
def Names (rows : List Row) (id : Nat) : Prop :=
  Exists fun row => row ∈ rows ∧ layout.ident row = id

instance (rows : List Row) : DecidablePred (layout.Names rows) := fun _ =>
  inferInstanceAs (Decidable (Exists fun _ => _ ∈ rows ∧ _))

def Sorted (table : List Row) : Prop :=
  table.Pairwise fun first second => layout.ident first < layout.ident second

/-- No two rows of a table clash. -/
def ClashFree (table : List Row) : Prop :=
  forall first, first ∈ table -> forall second, second ∈ table ->
    layout.ident first ≠ layout.ident second -> layout.clash first second = false

def lookup (table : List Row) (id : Nat) : Option Row :=
  table.find? fun row => layout.ident row = id

/-- The order of a table, for rows that need not have different ids. -/
def NotAfter (first second : Row) : Prop :=
  layout.ident first <= layout.ident second

instance : DecidableRel layout.NotAfter := fun _ _ => inferInstanceAs (Decidable (_ <= _))

instance : Std.Total layout.NotAfter :=
  ⟨fun first second => Nat.le_total (layout.ident first) (layout.ident second)⟩

instance : IsTrans Row layout.NotAfter := ⟨fun _ _ _ => Nat.le_trans⟩

/-- A table with own versions of rows put over it. -/
def overlay (table own : List Row) : List Row :=
  (table.filter (fun row => ¬ layout.Names own (layout.ident row)) ++ own).insertionSort layout.NotAfter

section

variable {layout} {table own rows : List Row} {row other : Row} {id : Nat}

theorem names_of_mem (member : row ∈ rows) : layout.Names rows (layout.ident row) :=
  ⟨row, member, rfl⟩

theorem names_cons : layout.Names (row :: rows) id ↔ layout.ident row = id ∨ layout.Names rows id := by
  simp only [Names, List.mem_cons, exists_eq_or_imp]

theorem names_append {more : List Row} :
    layout.Names (rows ++ more) id ↔ layout.Names rows id ∨ layout.Names more id := by
  simp only [Names, List.mem_append, or_and_right, exists_or]

theorem not_names_nil : ¬ layout.Names [] id := by
  rintro ⟨row, absent, _⟩
  cases absent

theorem Sorted.nodup_ident (sorted : layout.Sorted table) : (table.map layout.ident).Nodup :=
  (List.pairwise_map.mpr sorted).imp Nat.ne_of_lt

/-- Ids identify the rows of a table. -/
theorem Sorted.eq_of_ident (sorted : layout.Sorted table) (member : row ∈ table) (otherMember : other ∈ table)
    (same : layout.ident row = layout.ident other) : row = other :=
  List.inj_on_of_nodup_map sorted.nodup_ident member otherMember same

/-- Tables with the same rows are the same. -/
theorem Sorted.eq_of_mem_iff {second : List Row} (sorted : layout.Sorted table) (secondSorted : layout.Sorted second)
    (same : forall row, row ∈ table ↔ row ∈ second) : table = second := by
  have antisymmetric : Std.Antisymm fun first second => layout.ident first < layout.ident second :=
    ⟨fun _ _ before after => absurd (before.trans after) (Nat.lt_irrefl _)⟩
  have irreflexive : Std.Irrefl fun first second : Row => layout.ident first < layout.ident second :=
    ⟨fun _ => Nat.lt_irrefl _⟩
  exact List.Pairwise.eq_of_mem_iff sorted secondSorted same

theorem lookup_some (found : layout.lookup table id = some row) : row ∈ table ∧ layout.ident row = id := by
  have named := List.find?_some found
  exact ⟨List.mem_of_find?_eq_some found, of_decide_eq_true named⟩

theorem lookup_none (found : layout.lookup table id = none) : ¬ layout.Names table id := by
  rintro ⟨row, member, same⟩
  exact List.find?_eq_none.mp found row member (decide_eq_true same)

theorem Sorted.lookup_eq (sorted : layout.Sorted table) (member : row ∈ table) :
    layout.lookup table (layout.ident row) = some row := by
  cases found : layout.lookup table (layout.ident row) with
  | none => exact absurd (names_of_mem member) (lookup_none found)
  | some other =>
      rcases lookup_some found with ⟨otherMember, same⟩
      rw [sorted.eq_of_ident otherMember member same]

/-! ## Own versions over a table -/

/-- The rows under an overlay are the own versions and the rows without one. -/
theorem mem_overlay :
    row ∈ layout.overlay table own ↔
      row ∈ own ∨ row ∈ table ∧ ¬ layout.Names own (layout.ident row) := by
  simp only [overlay, List.mem_insertionSort, List.mem_append, List.mem_filter, decide_eq_true_eq]
  exact or_comm

theorem overlay_sorted (sorted : layout.Sorted table) (distinct : (own.map layout.ident).Nodup) :
    layout.Sorted (layout.overlay table own) := by
  have ordered := List.pairwise_insertionSort layout.NotAfter
    (table.filter (fun row => ¬ layout.Names own (layout.ident row)) ++ own)
  have permuted := List.perm_insertionSort layout.NotAfter
    (table.filter (fun row => ¬ layout.Names own (layout.ident row)) ++ own)
  have different : ((layout.overlay table own).map layout.ident).Nodup := by
    refine (permuted.map layout.ident).nodup_iff.mpr ?_
    rw [List.map_append]
    refine List.Nodup.append (sorted.nodup_ident.sublist (List.filter_sublist.map _)) distinct ?_
    intro id inTable inOwn
    rcases List.mem_map.mp inTable with ⟨row, kept, rfl⟩
    rcases List.mem_map.mp inOwn with ⟨version, member, same⟩
    exact of_decide_eq_true (List.mem_filter.mp kept).2 ⟨version, member, same⟩
  exact (ordered.and (List.pairwise_map.mp different)).imp fun both => Nat.lt_of_le_of_ne both.1 both.2

theorem overlay_nil (sorted : layout.Sorted table) : layout.overlay table [] = table := by
  have overlaid : layout.Sorted (layout.overlay table []) := overlay_sorted sorted List.nodup_nil
  apply overlaid.eq_of_mem_iff sorted
  intro row
  simp only [mem_overlay, not_names_nil, List.not_mem_nil, not_false_eq_true, and_true, false_or]

/-- Own versions that clash neither with one another nor with the rows they
leave visible keep a table free of clashes. -/
theorem overlay_clashFree (free : layout.ClashFree table)
    (apart : forall row, row ∈ own -> forall other, other ∈ own -> layout.ident row ≠ layout.ident other ->
      layout.clash row other = false)
    (clear : forall version, version ∈ own -> forall row, row ∈ table ->
      ¬ layout.Names own (layout.ident row) -> layout.clash version row = false) :
    layout.ClashFree (layout.overlay table own) := by
  intro first firstMember second secondMember different
  rcases mem_overlay.mp firstMember with firstOwn | ⟨firstOld, firstKept⟩ <;>
    rcases mem_overlay.mp secondMember with secondOwn | ⟨secondOld, secondKept⟩
  · exact apart first firstOwn second secondOwn different
  · exact clear first firstOwn second secondOld secondKept
  · rw [layout.clash_comm]
    exact clear second secondOwn first firstOld firstKept
  · exact free first firstOld second secondOld different

end

end Layout

/-- A change of rows that keeps their ids. -/
structure RowChange {Row : Type} (layout : Layout Row) where
  apply : Row -> Row
  ident_eq : forall row, layout.ident (apply row) = layout.ident row

end Foundation
end Shardman
