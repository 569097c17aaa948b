import Mathlib.Data.List.Nodup

namespace Shardman
namespace Foundation
namespace Keyed

/-!
# Lists of keyed items

A list of items with keys may name a key several times.  `keepLast` keeps the
last item of each key, in the order in which these stand in the list.  A list
that is sorted by its keys ends with the item of the greatest key.
-/

variable {K V : Type}

section KeepLast

variable [DecidableEq K]

/-- The last item of each key. -/
def keepLast : List (K × V) -> List (K × V)
  | [] => []
  | item :: rest => if item.1 ∈ rest.map Prod.fst then keepLast rest else item :: keepLast rest

theorem keepLast_sublist (items : List (K × V)) : (keepLast items).Sublist items := by
  induction items with
  | nil => exact List.Sublist.refl _
  | cons item rest inductionHypothesis =>
      unfold keepLast
      split
      · exact inductionHypothesis.cons item
      · exact inductionHypothesis.cons_cons item

theorem keepLast_nodup (items : List (K × V)) : ((keepLast items).map Prod.fst).Nodup := by
  induction items with
  | nil => exact List.nodup_nil
  | cons item rest inductionHypothesis =>
      unfold keepLast
      split
      · exact inductionHypothesis
      · rename_i new
        refine List.nodup_cons.mpr ⟨?_, inductionHypothesis⟩
        intro member
        exact new (((keepLast_sublist rest).map Prod.fst).subset member)

end KeepLast

/-! ## The end of a sorted list -/

section Sorted

variable {before : K -> K -> Prop} {items : List (K × V)}

/-- The last item of a sorted list has the greatest key. -/
theorem greatest_of_getLast (reflexive : forall key, before key key)
    (sorted : items.Pairwise fun first second => before first.1 second.1) {last : K × V}
    (found : items.getLast? = some last) : forall item, item ∈ items -> before item.1 last.1 := by
  intro item member
  rw [List.getLast?_eq_some_iff] at found
  rcases found with ⟨front, rfl⟩
  rcases List.mem_append.mp member with earlier | same
  · exact (List.pairwise_append.mp sorted).2.2 item earlier last (List.mem_singleton_self last)
  · cases List.mem_singleton.mp same
    exact reflexive _

/-- Where keys are compared antisymmetrically and are not repeated, it is the only
item with that property. -/
theorem getLast_of_greatest (reflexive : forall key, before key key)
    (antisymmetric : forall first second, before first second -> before second first -> first = second)
    (sorted : items.Pairwise fun first second => before first.1 second.1)
    (distinct : (items.map Prod.fst).Nodup) {item : K × V} (member : item ∈ items)
    (greatest : forall other, other ∈ items -> before other.1 item.1) : items.getLast? = some item := by
  cases found : items.getLast? with
  | none =>
      rw [List.getLast?_eq_none_iff] at found
      rw [found] at member
      cases member
  | some last =>
      have lastMember := List.mem_of_getLast? found
      have same : last.1 = item.1 :=
        antisymmetric _ _ (greatest last lastMember)
          (greatest_of_getLast reflexive sorted found item member)
      rw [List.inj_on_of_nodup_map distinct lastMember member same]

end Sorted

end Keyed
end Foundation
end Shardman
