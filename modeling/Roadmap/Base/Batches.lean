import Mathlib

/-! Work that is cut into batches: rows chosen batch by batch are the rows of all batches, and
results that stand for their batches add up to one that stands for all of them. -/
namespace Roadmap.Batches

section Rows

variable {ρ κ : Type} [DecidableEq κ] (key : ρ → κ)

def chosen (rows : List ρ) (keys : List κ) : List ρ := rows.filter (fun row => decide (key row ∈ keys))

theorem chosen_append (rows : List ρ) {first second : List κ} (apart : first.Disjoint second) :
    (chosen key rows first ++ chosen key rows second).Perm (chosen key rows (first ++ second)) := by
  induction rows with
  | nil => exact .refl _
  | cons row rest ih =>
    simp only [chosen,List.filter_cons] at ih ⊢
    by_cases inFirst : key row ∈ first
    · have outside : key row ∉ second := fun inside => apart inFirst inside
      simpa [inFirst,outside] using ih.cons row
    · by_cases inSecond : key row ∈ second
      · simpa [inFirst,inSecond] using List.perm_middle.trans (ih.cons row)
      · simpa [inFirst,inSecond] using ih

/-- No key in two batches, each row comes up once. -/
theorem chosen_flatten (rows : List ρ) {batches : List (List κ)} (distinct : batches.flatten.Nodup) :
    (batches.flatMap (chosen key rows)).Perm (chosen key rows batches.flatten) := by
  induction batches with
  | nil => simp [chosen]
  | cons batch rest ih =>
    obtain ⟨-,tail,apart⟩ := List.nodup_append'.mp (by simpa only [List.flatten_cons] using distinct)
    rw [List.flatMap_cons,List.flatten_cons]
    exact ((ih tail).append_left _).trans (chosen_append key rows apart)

theorem chosen_all {rows : List ρ} {keys : List κ} (covered : ∀ row ∈ rows, key row ∈ keys) :
    chosen key rows keys = rows :=
  List.filter_eq_self.mpr (fun row member => decide_eq_true (covered row member))

end Rows

section Results

variable {ρ σ : Type} (fits : List ρ → Prop) (stands : List ρ → σ → Prop) (merge : σ → σ → σ)

/-- The result for one more batch can be merged into that for the rows so far, where its rows
fit to them. -/
structure Merges : Prop where
  start : ∀ left right, fits (left ++ right) → fits left
  both : ∀ left right first second, fits (left ++ right) → stands left first → stands right second →
    stands (left ++ right) (merge first second)

variable {fits stands merge}

theorem Merges.fold (merges : Merges fits stands merge) {batches : List (List ρ)} {parts : List σ}
    (each : List.Forall₂ stands batches parts) {done : List ρ} {result : σ} (begun : stands done result)
    (together : fits (done ++ batches.flatten)) :
    stands (done ++ batches.flatten) (parts.foldl merge result) := by
  induction each generalizing done result with
  | nil => simpa using begun
  | @cons batch part batches parts first _ ih =>
    rw [List.flatten_cons,← List.append_assoc] at together ⊢
    have joined := merges.both done batch result part (merges.start _ _ together) begun first
    exact ih joined together

end Results

end Roadmap.Batches
