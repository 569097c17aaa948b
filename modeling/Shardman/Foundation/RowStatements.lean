import Shardman.Foundation.RowRuns

namespace Shardman
namespace Foundation

/-!
# Statements as programs of accesses

A statement looks for its rows first and then takes them one at a time.  Between
the two the rows can change, so each row is tested again when it is taken; rows
that come to meet the condition only later are not seen.  A selection that skips
locked rows takes the first row that nobody else holds.

Each statement has one rule.  It says what the transaction holds afterwards in
terms of the rows it took, and leaves open what the others did meanwhile.
-/

variable {Row Single X : Type} {layout : Layout Row}

abbrev Accessing (layout : Layout Row) (Single X : Type) := Program (Access layout Single) Access.Reply X

abbrev Access.ask (op : Access layout Single) : Accessing layout Single op.Reply := Program.ask op

section Definitions

variable (layout Single)

def lockEach (condition : Row -> Bool) : List Row -> Accessing layout Single (List Row)
  | [] => pure []
  | row :: rest => do
      let taken : Option Row <- Access.ask (.lock (layout.ident row) condition)
      let more <- lockEach condition rest
      pure (taken.toList ++ more)

/-- SELECT … FOR UPDATE: the rows in the order in which the server finds them. -/
def selectForUpdate (order : List Row -> List Row) (condition : Row -> Bool) :
    Accessing layout Single (List Row) := do
  let rows : List Row <- Access.ask (.view condition)
  lockEach Single layout condition (order rows)

def firstFree (condition : Row -> Bool) : List Row -> Accessing layout Single (Option Row)
  | [] => pure none
  | row :: rest => do
      let taken : Option Row <- Access.ask (.tryLock (layout.ident row) condition)
      match taken with
      | some found => pure (some found)
      | none => firstFree condition rest

/-- SELECT … ORDER BY id LIMIT 1 FOR UPDATE SKIP LOCKED. -/
def selectFree (condition : Row -> Bool) : Accessing layout Single (Option Row) := do
  let rows : List Row <- Access.ask (.view condition)
  firstFree Single layout condition rows

/-- The rows written, or `none` if a unique index refuses one of them. -/
def writeEach (condition : Row -> Bool) (change : RowChange layout) :
    List Row -> Accessing layout Single (Option Nat)
  | [] => pure (some 0)
  | row :: rest => do
      let written : Written <- Access.ask (.write (layout.ident row) condition change)
      match written with
      | .refused => pure none
      | .missed => writeEach condition change rest
      | .done =>
          let count <- writeEach condition change rest
          pure (count.map (· + 1))

/-- UPDATE … WHERE. -/
def updateRows (order : List Row -> List Row) (condition : Row -> Bool) (change : RowChange layout) :
    Accessing layout Single (Option Nat) := do
  let rows : List Row <- Access.ask (.view condition)
  writeEach Single layout condition change (order rows)

/-- INSERT … ON CONFLICT DO UPDATE … RETURNING id.  The id comes from the
sequence before anything is inserted. -/
def upsert (new : NewRow layout) (target : Row -> Bool) (change : RowChange layout) :
    Accessing layout Single (Option Nat) := do
  Access.ask .draw
  Access.ask (.insert new target change)

end Definitions

/-! ## Selections -/

/-- More is locked, and nothing else is different. -/
structure LocksOnly (held after : Held Row Single) : Prop where
  own : after.own = held.own
  single : after.single = held.single
  drawn : after.drawn = held.drawn
  locked : held.locked ⊆ after.locked

namespace LocksOnly

variable {held after later : Held Row Single} {row : Row}

theorem refl (held : Held Row Single) : LocksOnly held held := ⟨rfl, rfl, rfl, List.Subset.refl _⟩

theorem trans (first : LocksOnly held after) (second : LocksOnly after later) : LocksOnly held later :=
  ⟨second.own.trans first.own, second.single.trans first.single, second.drawn.trans first.drawn,
    List.Subset.trans first.locked second.locked⟩

theorem take : LocksOnly held (held.take layout row) :=
  ⟨take_own, take_single, take_drawn, locked_subset_take⟩

theorem reads (locks : LocksOnly held after) (reads : held.Reads layout row) : after.Reads layout row := by
  unfold Held.Reads
  rw [locks.own]
  exact reads.imp_right fun both => ⟨locks.locked both.1, both.2⟩

end LocksOnly

section Rules

variable {given : Committed Row Single -> Prop}
variable {held : Held Row Single} {condition : Row -> Bool} {order : List Row -> List Row}

/-- The row that a lock returns is read from then on. -/
theorem lockRow_reads {committed : Committed Row Single} {others : List (Held Row Single)} {after : Held Row Single}
    (context : Context layout committed others held) {id : Nat} {reply : Option Row}
    (done : lockRow layout others committed.table held id condition = some (reply, after)) :
    LocksOnly held after ∧ forall row, reply = some row -> condition row = true ∧ after.Reads layout row := by
  rcases lockRow_some done with ⟨_, ⟨rfl, rfl⟩ | ⟨row, rfl, rfl, seen, _, selected⟩⟩
  · exact ⟨.refl _, fun _ absent => by cases absent⟩
  · refine ⟨.take, fun found same => ?_⟩
    cases same
    exact ⟨selected, take_reads context.sorted context.fits seen⟩

theorem meets_lockEach {final : Held Row Single -> List Row -> Prop} (candidates : List Row)
    (finishes : forall rows after, LocksOnly held after ->
      (forall row, row ∈ rows -> condition row = true ∧ after.Reads layout row) -> final after rows) :
    Meets given final (lockEach Single layout condition candidates) held := by
  induction candidates generalizing held final with
  | nil => exact meets_pure (finishes [] held (.refl held) fun _ absent => by cases absent)
  | cons candidate rest inductionHypothesis =>
      intro committed others reply after _ context done
      rcases lockRow_reads context done with ⟨locks, taken⟩
      refine (meets_bind (lockEach Single layout condition rest) _).mpr
        (inductionHypothesis fun rows later more reads => ?_)
      refine meets_pure (finishes _ later (locks.trans more) ?_)
      intro row member
      rcases List.mem_append.mp member with first | other
      · rcases taken row (Option.mem_toList.mp first) with ⟨selected, read⟩
        exact ⟨selected, more.reads read⟩
      · exact reads row other

theorem meets_selectForUpdate {final : Held Row Single -> List Row -> Prop}
    (finishes : forall rows after, LocksOnly held after ->
      (forall row, row ∈ rows -> condition row = true ∧ after.Reads layout row) -> final after rows) :
    Meets given final (selectForUpdate Single layout order condition) held := by
  intro committed others reply after _ context done
  cases done
  exact meets_lockEach _ finishes

theorem meets_firstFree {final : Held Row Single -> Option Row -> Prop} (candidates : List Row)
    (finishes : forall found after, LocksOnly held after ->
      (forall row, found = some row -> condition row = true ∧ after.Reads layout row) -> final after found) :
    Meets given final (firstFree Single layout condition candidates) held := by
  induction candidates generalizing held final with
  | nil => exact meets_pure (finishes none held (.refl held) fun _ absent => by cases absent)
  | cons candidate rest inductionHypothesis =>
      intro committed others reply after _ context done
      have outcome : LocksOnly held after ∧
          forall row, reply = some row -> condition row = true ∧ after.Reads layout row := by
        simp only [access] at done
        split at done
        · rename_i outcome locked
          cases done
          exact lockRow_reads context locked
        · cases done
          exact ⟨.refl held, fun _ absent => by cases absent⟩
      cases reply with
      | some row => exact meets_pure (finishes (some row) after outcome.1 outcome.2)
      | none => exact inductionHypothesis fun found later more => finishes found later (outcome.1.trans more)

theorem meets_selectFree {final : Held Row Single -> Option Row -> Prop}
    (finishes : forall found after, LocksOnly held after ->
      (forall row, found = some row -> condition row = true ∧ after.Reads layout row) -> final after found) :
    Meets given final (selectFree Single layout condition) held := by
  intro committed others reply after _ context done
  cases done
  exact meets_firstFree _ finishes

/-! ## Updates -/

/-- The given rows have new versions, and are locked; the rest is as before. -/
structure Changes (change : RowChange layout) (held : Held Row Single) (rows : List Row)
    (after : Held Row Single) : Prop where
  own : forall version, version ∈ after.own ↔
    (Exists fun row => row ∈ rows ∧ version = change.apply row) ∨
      version ∈ held.own ∧ ¬ layout.Names rows (layout.ident version)
  reads : forall row, row ∈ rows ->
    row ∈ held.own ∨ row ∈ after.locked ∧ ¬ layout.Names held.own (layout.ident row)
  locked : held.locked ⊆ after.locked
  single : after.single = held.single
  drawn : after.drawn = held.drawn
  distinct : (rows.map layout.ident).Nodup

variable {change : RowChange layout}

theorem Changes.none (change : RowChange layout) (held : Held Row Single) : Changes change held [] held where
  own version := by
    simp only [List.not_mem_nil, false_and, exists_false, Layout.not_names_nil, not_false_eq_true, and_true,
      false_or]
  reads _ absent := by cases absent
  locked := List.Subset.refl _
  single := rfl
  drawn := rfl
  distinct := List.nodup_nil

/-- One more row is written first. -/
theorem Changes.cons {row : Row} {rows : List Row} {after : Held Row Single}
    (reads : (held.take layout row).Reads layout row) (new : ¬ layout.Names rows (layout.ident row))
    (changes : Changes change ((held.take layout row).put layout (change.apply row)) rows after) :
    Changes change held (row :: rows) after := by
  have written : forall version, version ∈ ((held.take layout row).put layout (change.apply row)).own ↔
      version = change.apply row ∨ version ∈ held.own ∧ layout.ident version ≠ layout.ident row := by
    intro version
    rw [mem_put_own, take_own, change.ident_eq]
  have named : forall id, layout.Names ((held.take layout row).put layout (change.apply row)).own id ↔
      layout.ident row = id ∨ layout.Names held.own id := by
    intro id
    rw [names_put_own, take_own, change.ident_eq]
  refine ⟨?_, ?_, fun old member => changes.locked (locked_subset_take member),
    changes.single.trans take_single, changes.drawn.trans take_drawn, ?_⟩
  · intro version
    rw [changes.own, written, Layout.names_cons]
    constructor
    · rintro (⟨other, member, rfl⟩ | ⟨rfl | ⟨mine, different⟩, unnamed⟩)
      · exact Or.inl ⟨other, List.mem_cons_of_mem _ member, rfl⟩
      · exact Or.inl ⟨row, List.mem_cons_self, rfl⟩
      · exact Or.inr ⟨mine, fun either => either.elim (fun same => different same.symm) unnamed⟩
    · rintro (⟨other, member, rfl⟩ | ⟨mine, unnamed⟩)
      · rcases List.mem_cons.mp member with rfl | later
        · refine Or.inr ⟨Or.inl rfl, ?_⟩
          rw [change.ident_eq]
          exact new
        · exact Or.inl ⟨other, later, rfl⟩
      · rw [not_or] at unnamed
        exact Or.inr ⟨Or.inr ⟨mine, Ne.symm unnamed.1⟩, unnamed.2⟩
  · intro other member
    rcases List.mem_cons.mp member with rfl | later
    · unfold Held.Reads at reads
      rw [take_own] at reads
      exact reads.imp_right fun both => ⟨changes.locked both.1, both.2⟩
    · rcases changes.reads other later with mine | ⟨locked, unnamed⟩
      · rcases (written other).mp mine with rfl | ⟨old, _⟩
        · refine absurd ⟨_, later, ?_⟩ new
          exact change.ident_eq row
        · exact Or.inl old
      · exact Or.inr ⟨locked, fun old => unnamed ((named _).mpr (Or.inr old))⟩
  · rw [List.map_cons]
    refine List.nodup_cons.mpr ⟨fun repeated => new ?_, changes.distinct⟩
    rcases List.mem_map.mp repeated with ⟨other, member, same⟩
    exact ⟨other, member, same⟩

/-- Writing a row leaves alone what is read of the others. -/
theorem Held.Reads.of_put {row other : Row} (reads : held.Reads layout other)
    (different : layout.ident other ≠ layout.ident row) :
    ((held.take layout row).put layout (change.apply row)).Reads layout other := by
  unfold Held.Reads
  rw [mem_put_own, names_put_own, take_own, change.ident_eq]
  refine reads.imp (fun mine => Or.inr ⟨mine, different⟩) fun both => ⟨locked_subset_take both.1, ?_⟩
  exact fun either => either.elim (fun same => different same.symm) both.2

/-- The rows written are among the candidates, and no candidate that the
transaction reads already is missing. -/
theorem meets_writeEach {final : Held Row Single -> Option Nat -> Prop} (candidates : List Row)
    (distinct : (candidates.map layout.ident).Nodup) (refused : forall after, final after none)
    (finishes : forall rows after, Changes change held rows after ->
      (forall row, row ∈ rows -> condition row = true ∧ layout.Names candidates (layout.ident row)) ->
      (forall row, row ∈ candidates -> held.Reads layout row -> condition row = true -> row ∈ rows) ->
      final after (some rows.length)) :
    Meets given final (writeEach Single layout condition change candidates) held := by
  induction candidates generalizing held final with
  | nil =>
      exact meets_pure (finishes [] held (.none change held) (fun _ absent => by cases absent)
        fun _ absent => by cases absent)
  | cons candidate rest inductionHypothesis =>
      rw [List.map_cons, List.nodup_cons] at distinct
      intro committed others written after _ context done
      rcases writeRow_some done with ⟨_, ⟨failed, rfl⟩ | ⟨row, rfl, rfl, seen, same, selected, _⟩⟩
      · cases written with
        | done => exact absurd rfl failed
        | refused => exact meets_pure (refused _)
        | missed =>
            refine inductionHypothesis distinct.2 refused fun rows later changes facts complete => ?_
            apply finishes rows later changes
            · exact fun row member =>
                ⟨(facts row member).1, Layout.names_cons.mpr (Or.inr (facts row member).2)⟩
            · intro row member reads selected
              rcases List.mem_cons.mp member with rfl | listed
              · rcases writeRow_reads context reads selected done with missed | ⟨missed, _⟩ <;> cases missed
              · exact complete row listed reads selected
      · refine (meets_bind (writeEach Single layout condition change rest) _).mpr
          (inductionHypothesis distinct.2 (fun later => meets_pure (refused later)) ?_)
        intro rows later changes facts complete
        have new : ¬ layout.Names rows (layout.ident row) := by
          rintro ⟨other, member, again⟩
          rcases (facts other member).2 with ⟨known, listed, alike⟩
          exact distinct.1 (List.mem_map.mpr ⟨known, listed, by rw [alike, again, same]⟩)
        refine meets_pure (finishes (row :: rows) later
          (changes.cons (take_reads context.sorted context.fits seen) new) ?_ ?_)
        · intro other member
          rcases List.mem_cons.mp member with rfl | earlier
          · exact ⟨selected, Layout.names_cons.mpr (Or.inl same.symm)⟩
          · exact ⟨(facts other earlier).1, Layout.names_cons.mpr (Or.inr (facts other earlier).2)⟩
        · intro other member reads wanted
          rcases List.mem_cons.mp member with rfl | listed
          · have sorted := context.visible_sorted
            rw [sorted.eq_of_ident (reads.visible context.fits) seen same.symm]
            exact List.mem_cons_self
          · refine List.mem_cons_of_mem _ (complete other listed (reads.of_put ?_) wanted)
            intro alike
            exact distinct.1 (List.mem_map.mpr ⟨other, listed, alike.trans same⟩)

theorem meets_updateRows {final : Held Row Single -> Option Nat -> Prop}
    (ordering : forall rows, (order rows).Perm rows) (refused : forall after, final after none)
    (finishes : forall rows after, Changes change held rows after ->
      (forall row, row ∈ rows -> condition row = true) ->
      (forall row, held.Reads layout row -> condition row = true -> row ∈ rows) ->
      final after (some rows.length)) :
    Meets given final (updateRows Single layout order condition change) held := by
  intro committed others reply after _ context done
  cases done
  have distinct : ((held.visible layout committed.table).map layout.ident).Nodup :=
    context.visible_sorted.nodup_ident
  refine meets_writeEach _ ?_ refused fun rows later changes facts complete =>
    finishes rows later changes (fun row member => (facts row member).1) fun row reads selected => ?_
  · refine ((ordering _).map layout.ident).nodup_iff.mpr ?_
    exact distinct.sublist (List.filter_sublist.map _)
  · refine complete row ((ordering _).mem_iff.mpr ?_) reads selected
    exact List.mem_filter.mpr ⟨reads.visible context.fits, selected⟩

/-- An update that selects one row, which the transaction reads already, writes
that row. -/
theorem meets_updateOne {final : Held Row Single -> Option Nat -> Prop} {row : Row}
    (ordering : forall rows, (order rows).Perm rows) (refused : forall after, final after none)
    (reads : held.Reads layout row) (selected : condition row = true)
    (only : forall other, condition other = true -> layout.ident other = layout.ident row)
    (finishes : forall after, Changes change held [row] after -> final after (some 1)) :
    Meets given final (updateRows Single layout order condition change) held := by
  refine meets_updateRows ordering refused fun rows after changes facts complete => ?_
  have member := complete row reads selected
  have single : rows = [row] := by
    cases rows with
    | nil => cases member
    | cons first rest =>
        have distinct := changes.distinct
        rw [List.map_cons, List.nodup_cons] at distinct
        have empty : rest = [] := by
          rw [List.eq_nil_iff_forall_not_mem]
          intro other listed
          refine distinct.1 (List.mem_map.mpr ⟨other, listed, ?_⟩)
          rw [only other (facts other (List.mem_cons_of_mem _ listed)), only first (facts first List.mem_cons_self)]
        subst empty
        rw [List.mem_singleton.mp member]
  subst single
  exact finishes after changes

/-- An update whose rows would share a key writes one row or none. -/
theorem meets_updateKeyed {final : Held Row Single -> Option Nat -> Prop}
    (ordering : forall rows, (order rows).Perm rows) (refused : forall after, final after none)
    (unwritten : held.own = [])
    (keyed : forall first second, condition first = true -> condition second = true ->
      layout.clash first second = true)
    (missed : forall after, Changes change held [] after -> final after (some 0))
    (finishes : forall row after, Changes change held [row] after -> condition row = true -> final after (some 1)) :
    Meets given final (updateRows Single layout order condition change) held := by
  refine meets_in_context (meets_updateRows ordering (fun after _ => refused after) ?_)
  rintro rows after changes facts _ ⟨committed, others, _, context⟩
  have stored : forall row, row ∈ rows -> row ∈ committed.table := by
    intro row member
    rcases changes.reads row member with mine | ⟨locked, _⟩
    · rw [unwritten] at mine
      cases mine
    · exact context.fits.locked row locked
  rcases rows with _ | ⟨first, _ | ⟨second, rest⟩⟩
  · exact missed after changes
  · exact finishes first after changes (facts first List.mem_cons_self)
  · -- Two rows with a key in common cannot both be in the table.
    have secondMember : second ∈ first :: second :: rest := List.mem_cons_of_mem _ List.mem_cons_self
    have different : layout.ident first ≠ layout.ident second := by
      intro same
      have distinct := changes.distinct
      simp only [List.map_cons, List.nodup_cons, List.mem_cons, same, true_or, not_true_eq_false,
        false_and] at distinct
    have apart := context.clashFree first (stored first List.mem_cons_self) second
      (stored second secondMember) different
    rw [keyed first second (facts first List.mem_cons_self) (facts second secondMember)] at apart
    cases apart

/-- An upsert changes the row that is there or inserts one under a fresh id. -/
theorem meets_upsert {final : Held Row Single -> Option Nat -> Prop} {new : NewRow layout} {target : Row -> Bool}
    (refused : forall after, final after none)
    (finishes : forall row after, Changes change held [row] { after with drawn := held.drawn } -> target row = true ->
      final after (some (layout.ident row)))
    (inserted : forall id, final ({ held with drawn := some id }.put layout (new.make id)) (some id)) :
    Meets given final (upsert Single layout new target change) held := by
  intro committed others reply after _ context done committed' others' outcome later _ context' inserting
  cases done
  rcases insertRow_some inserting with ⟨rfl, rfl⟩ | ⟨id, rfl, written⟩ | ⟨id, rfl, drawn, rfl, _⟩
  · exact meets_pure (refused _)
  · rcases writeRow_some written with ⟨_, ⟨failed, _⟩ | ⟨row, _, rfl, seen, rfl, selected, _⟩⟩
    · exact absurd rfl failed
    · refine meets_pure (finishes row _ ?_ selected)
      have changes := Changes.cons (take_reads context'.sorted context'.fits seen) Layout.not_names_nil
        (.none change _)
      exact ⟨changes.own, changes.reads, changes.locked, changes.single, rfl, changes.distinct⟩
  · cases drawn
    exact meets_pure (inserted _)

/-! ## The single row -/

/-- The single row is locked and has a new version, if there is one. -/
theorem meets_alter {final : Held Row Single -> Unit -> Prop} {change : Single -> Single}
    (finishes : forall committed, given committed ->
      (held.visibleSingle committed.single = none -> final held ()) ∧
      forall value, held.visibleSingle committed.single = some value ->
        final (held.putSingle committed.single (change value)) ()) :
    Meets given final (Access.ask (.alter change) : Accessing layout Single Unit) held := by
  intro committed others reply after holds _ done
  rcases finishes committed holds with ⟨absent, present⟩
  simp only [access] at done
  split at done
  · rename_i missing
    cases done
    exact meets_pure (absent missing)
  · rename_i value found
    split at done
    · cases done
    · cases done
      exact meets_pure (present value found)

end Rules

end Foundation
end Shardman
