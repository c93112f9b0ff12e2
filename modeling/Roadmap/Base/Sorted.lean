import Mathlib

/-! Sorting by a key. Where the key tells the items apart, the sorted list depends on the
members alone, so a set may be iterated in any order before it is sorted. -/
namespace Roadmap

/-- The order in which a set is iterated; nothing is known about it. -/
structure SetOrder (α : Type) where
  list : Finset α → List α
  nodup : ∀ items, (list items).Nodup
  members : ∀ items item, item ∈ list items ↔ item ∈ items

theorem SetOrder.nonempty {α : Type} : Nonempty (SetOrder α) :=
  ⟨⟨Finset.toList,Finset.nodup_toList,fun _ _ => Finset.mem_toList⟩⟩

namespace Sorted

variable {α κ : Type} [LinearOrder κ] (key : α → κ)

def sortBy (items : List α) : List α := items.mergeSort (fun first second => key first ≤ key second)

def Ascending (items : List α) : Prop := items.Pairwise (fun first second => key first < key second)

def Apart (items : Finset α) : Prop :=
  ∀ first ∈ items, ∀ second ∈ items, key first = key second → first = second

theorem sortBy_perm (items : List α) : (sortBy key items).Perm items := List.mergeSort_perm _ _

theorem sortBy_pairwise (items : List α) :
    (sortBy key items).Pairwise (fun first second => key first ≤ key second) := by
  have sorted := @List.pairwise_mergeSort _ (fun first second : α => decide (key first ≤ key second))
    (fun first second third below above => by simpa using (of_decide_eq_true below).trans (of_decide_eq_true above))
    (fun first second => by simpa using le_total (key first) (key second)) items
  exact sorted.imp (fun below => of_decide_eq_true below)

variable {key}

theorem Ascending.nodup {items : List α} (ascending : Ascending key items) : items.Nodup :=
  ascending.imp (fun below same => absurd (congrArg key same) below.ne)

theorem Ascending.filter {items : List α} (ascending : Ascending key items) (keep : α → Bool) :
    Ascending key (items.filter keep) := List.Pairwise.filter keep ascending

theorem Ascending.unique {items others : List α} (first : Ascending key items)
    (second : Ascending key others) (same : ∀ item, item ∈ items ↔ item ∈ others) : items = others := by
  have perm := (List.perm_ext_iff_of_nodup first.nodup second.nodup).mpr same
  refine perm.eq_of_pairwise (fun left right _ _ below above => ?_) first second
  exact absurd below above.asymm

variable {order : SetOrder α} {items : Finset α}

theorem mem_sortBy_set (item : α) : item ∈ sortBy key (order.list items) ↔ item ∈ items :=
  (sortBy_perm key _).mem_iff.trans (order.members items item)

theorem nodup_sortBy_set : (sortBy key (order.list items)).Nodup :=
  (sortBy_perm key _).nodup_iff.mpr (order.nodup items)

theorem ascending_sortBy_set (apart : Apart key items) : Ascending key (sortBy key (order.list items)) := by
  have pairs := (sortBy_pairwise key (order.list items)).and nodup_sortBy_set
  refine pairs.imp_of_mem (fun {first second} inFirst inSecond ⟨below,different⟩ => ?_)
  refine lt_of_le_of_ne below (fun same => different ?_)
  exact apart first ((mem_sortBy_set first).mp inFirst) second ((mem_sortBy_set second).mp inSecond) same

end Sorted

end Roadmap
