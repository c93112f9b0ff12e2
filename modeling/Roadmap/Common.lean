import Roadmap.Base.Json
import Roadmap.Inventory

/-! How a host is classified: its RHEL version and its lifecycle type, each computed
once over a row that was read and once as a condition of a statement. -/
namespace Roadmap
open Sql

def eusProductIds : List String := ["70","73","75"]

def elsProductIds : List String := ["204"]

def e4sProductIds : List String := ["146","241","323","388","389"]

def allExtendedProductIds : List String := eusProductIds ++ elsProductIds ++ e4sProductIds

def getLifecycleType (products : List Product) : LifecycleType :=
  let ids := products.map (·.id)
  let holds := fun known : List String => known.any (fun id => decide (some id ∈ ids))
  let type := LifecycleType.mainline
  let type := if holds eusProductIds then .eus else type
  let type := if holds elsProductIds then .els else type
  if holds e4sProductIds then .e4s else type

/-- `system["products"] or [{}]`. -/
def productsOr (products : Option (List Product)) : List Product :=
  match products with
  | some (first :: rest) => first :: rest
  | _ => [⟨none⟩]

def releaseVersion (osRelease : String) : Option (Int × Option Int) :=
  match (osRelease.toList.splitOn '.').mapM (Text.intOf 10) with
  | some (major :: minor :: _) => some (major,some minor)
  | _ => none

/-- `operating_system` first, else `os_release`; `none` is ValueError. -/
def rhelMajorMinor (system : HostRow) : Option (Int × Option Int) :=
  match system.osMajor with
  | some osMajor => some (osMajor,system.osMinor)
  | none => system.osRelease.bind releaseVersion

/-- `sorted(items, key=sort_attrs(..))` by a text first. An empty text becomes a number, which
cannot be compared with a text. -/
def sortedByAttrs {α κ : Type} [LE κ] [DecidableLE κ] (text : α → String) (key : α → κ) (items : List α) :
    Except PyError (List α) :=
  if (∀ item ∈ items, text item = "") ∨ ∀ item ∈ items, text item ≠ "" then
    .ok (items.mergeSort (fun first second => key first ≤ key second))
  else .error .typeError

def existsProduct (ids : List String) : Fragment := fun _ row =>
  existsIn (row.products.getD []) (fun product => equalsAny product.id (ids.map some).toFinset)

def notExistsProduct (ids : List String) : Fragment := fun params row =>
  neg (existsProduct ids params row)

def lifecycleTypeSqlFilter : LifecycleType → List Fragment
  | .e4s => [existsProduct e4sProductIds]
  | .els => [existsProduct elsProductIds,notExistsProduct e4sProductIds]
  | .eus => [existsProduct eusProductIds,notExistsProduct (elsProductIds ++ e4sProductIds)]
  | .mainline => [notExistsProduct allExtendedProductIds]

/-! The two classifications of the lifecycle type agree. -/

/-- The subquery over the products, with NULL read as no products. -/
theorem holds_products (products : Option (List Product)) (ids : List String) :
    Holds (existsIn (products.getD []) (fun product => equalsAny product.id (ids.map some).toFinset)) ↔
      ids.any (fun id => decide (some id ∈ (productsOr products).map (·.id))) = true := by
  have listed : ∀ id, some id ∈ (productsOr products).map (·.id) ↔
      some id ∈ (products.getD []).map (·.id) := by
    intro id
    rcases products with _ | _ | _ <;> simp [productsOr]
  simp only [holds_existsIn,holds_equalsAny,List.any_eq_true,decide_eq_true_eq,listed,
    List.mem_toFinset,List.mem_map]
  constructor
  · rintro ⟨product,member,id,same,id',known,equal⟩
    cases equal
    exact ⟨id,known,product,member,same⟩
  · rintro ⟨id,known,product,member,same⟩
    exact ⟨product,member,id,same,id,known,rfl⟩

theorem holds_existsProduct (ids : List String) (params : Params) (row : Joined) :
    Holds (existsProduct ids params row) ↔
      ids.any (fun id => decide (some id ∈ (productsOr row.products).map (·.id))) = true :=
  holds_products row.products ids

theorem holds_notExistsProduct (ids : List String) (params : Params) (row : Joined) :
    Holds (notExistsProduct ids params row) ↔
      ids.any (fun id => decide (some id ∈ (productsOr row.products).map (·.id))) = false := by
  rw [← Bool.not_eq_true,← holds_existsProduct ids params row]
  simp [notExistsProduct,existsProduct]

/-- The priority chain of the statement is that of `getLifecycleType`. -/
theorem lifecycle_filter_exact (lifecycle : LifecycleType) (params : Params) (row : Joined) :
    (∀ fragment ∈ lifecycleTypeSqlFilter lifecycle, Holds (fragment params row)) ↔
      getLifecycleType (productsOr row.products) = lifecycle := by
  let has := fun ids : List String =>
    ids.any (fun id => decide (some id ∈ (productsOr row.products).map (·.id)))
  have shown : ∀ ids, Holds (existsProduct ids params row) ↔ has ids = true :=
    fun ids => holds_existsProduct ids params row
  have hidden : ∀ ids, Holds (notExistsProduct ids params row) ↔ has ids = false :=
    fun ids => holds_notExistsProduct ids params row
  have either : ∀ first second, has (first ++ second) = (has first || has second) :=
    fun first second => List.any_append
  have chain : getLifecycleType (productsOr row.products) = if has e4sProductIds then .e4s
      else if has elsProductIds then .els else if has eusProductIds then .eus else .mainline := rfl
  rw [chain]
  cases lifecycle <;>
    simp only [lifecycleTypeSqlFilter,List.forall_mem_cons,List.not_mem_nil,false_imp_iff,implies_true,
      and_true,shown,hidden,allExtendedProductIds,either] <;>
    cases has e4sProductIds <;> cases has elsProductIds <;> cases has eusProductIds <;> decide

end Roadmap
