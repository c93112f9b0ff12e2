import Mathlib
import Roadmap.Base.Dict

/-! Inverted indices: terms mapped to the positions of the items that bear them. Rows of
terms are matched against the index one at a time and counted for each position. -/
namespace Roadmap.InvertedIndex
open Dict

variable {κ ι : Type} [BEq κ] [LawfulBEq κ]

def postings (terms : ι → List κ) (items : List ι) : List (κ × Nat) :=
  items.zipIdx.flatMap (fun entry => (terms entry.1).map (fun term => (term,entry.2)))

def build (terms : ι → List κ) (items : List ι) : Dict κ (Finset Nat) :=
  .group addTo (postings terms items) .empty

theorem mem_build (terms : ι → List κ) (items : List ι) (term : κ) (position : Nat) :
    position ∈ (build terms items).heldAt term ↔
      ∃ item, items[position]? = some item ∧ term ∈ terms item := by
  have held : position ∈ (build terms items).heldAt term ↔ (term,position) ∈ postings terms items := by
    rw [heldAt,build,get?_group_addTo]
    have present : position ∈ itemsAt (postings terms items) term ↔
        (term,position) ∈ postings terms items := by
      rw [mem_itemsAt]
      constructor
      · rintro ⟨posting,member,same,rfl⟩
        rwa [← beq_iff_eq.mp same]
      · exact fun member => ⟨_,member,by simp,rfl⟩
    rw [← present]
    cases itemsAt (postings terms items) term <;> simp
  rw [held,postings,List.mem_flatMap]
  constructor
  · rintro ⟨⟨item,_⟩,member,posted⟩
    obtain ⟨_,bears,same⟩ := List.mem_map.mp posted
    cases same
    exact ⟨item,List.mem_zipIdx_iff_getElem?.mp member,bears⟩
  · rintro ⟨item,found,bears⟩
    exact ⟨(item,position),List.mem_zipIdx_iff_getElem?.mpr found,List.mem_map.mpr ⟨term,bears,rfl⟩⟩

def hits (rows : List (Finset Nat)) : List (Nat × Unit) :=
  rows.flatMap (fun matched => (matched.sort (· ≤ ·)).map (fun position => (position,())))

theorem hits_cons (matched : Finset Nat) (rest : List (Finset Nat)) :
    hits (matched :: rest) =
      (matched.sort (· ≤ ·)).map (fun position => (position,())) ++ hits rest := rfl

/-- A position is counted once for each row that matches it. -/
theorem count_hits (rows : List (Finset Nat)) (position : Nat) :
    ((group increment (hits rows) (empty : Dict Nat Nat)).get? position).getD 0 =
      (rows.filter (position ∈ ·)).length := by
  have counted : (itemsAt (hits rows) position).length = (rows.filter (position ∈ ·)).length := by
    induction rows with
    | nil => rfl
    | cons matched rest ih =>
      have head : (itemsAt ((matched.sort (· ≤ ·)).map (fun other => (other,()))) position).length =
          if position ∈ matched then 1 else 0 := by
        have listed := List.Nodup.count (a := position) (matched.sort_nodup (· ≤ ·))
        simp only [Finset.mem_sort] at listed
        rw [← listed,itemsAt,List.length_map,← List.countP_eq_length_filter,List.countP_map]
        rfl
      rw [hits_cons,itemsAt_append,List.length_append,head,ih,List.filter_cons]
      by_cases member : position ∈ matched
      · simp [member,Nat.add_comm]
      · simp [member]
  rw [get?_group_increment,← counted]
  cases itemsAt (hits rows) position <;> simp

end Roadmap.InvertedIndex
