import Roadmap.Base.Dict
import Roadmap.Base.Keyed
import Roadmap.Statements

/-! The fragment of a statement that filters hosts by lifecycle type, with the parameters bound
to it. A subquery over the products is one word, named after its bind parameter. -/
namespace Roadmap.LifecycleFilter
open Sql

/-- `(sql_fragment, params_dict)` -/
structure BoundFilter where
  sql : List (Word String)
  params : Dict String (List String)

/-- `{**first, **second}` -/
def mergeParams (first second : Dict String (List String)) : Dict String (List String) :=
  .group Dict.assign second.items first

/-- A name for a bind parameter; the counter is that of one fragment. -/
def nextParam : StateM Nat String := do
  modify (· + 1)
  return "lc_pids_" ++ toString (← get)

/-- `EXISTS (SELECT 1 FROM jsonb_array_elements(..) AS p WHERE p->>'id' = ANY(:name))` -/
def existsSql (ids : List String) : StateM Nat BoundFilter := do
  let name ← nextParam
  return ⟨[.atom name],Dict.empty.set name ids⟩

def notExistsSql (ids : List String) : StateM Nat BoundFilter := do
  let name ← nextParam
  return ⟨[.not,.atom name],Dict.empty.set name ids⟩

def buildFilter : LifecycleType → StateM Nat BoundFilter
  | .e4s => existsSql e4sProductIds
  | .els => do
    let ex ← existsSql elsProductIds
    let nex ← notExistsSql e4sProductIds
    return ⟨ex.sql ++ [.and] ++ nex.sql,mergeParams ex.params nex.params⟩
  | .eus => do
    let higher := elsProductIds ++ e4sProductIds
    let ex ← existsSql eusProductIds
    let nex ← notExistsSql higher
    return ⟨ex.sql ++ [.and] ++ nex.sql,mergeParams ex.params nex.params⟩
  | .mainline => notExistsSql allExtendedProductIds

def lifecycleTypeSqlFilter (lifecycleType : LifecycleType) : BoundFilter := (buildFilter lifecycleType).run' 0

def bindNames (sql : List (Word String)) : List String :=
  sql.filterMap (fun word => match word with
    | .atom name => some name
    | _ => none)

/-- What the subquery of a parameter says about the products of a host. -/
def productTest (params : Dict String (List String)) (products : Option (List Product)) (name : String) :
    Truth :=
  existsIn (products.getD []) (fun product =>
    equalsAny product.id ((((params.get? name).getD []).map some).toFinset))

/-- The fragment, with its own parameters, keeps a host with these products. -/
def keepsHost (lifecycleType : LifecycleType) (products : Option (List Product)) : Bool :=
  let filter := lifecycleTypeSqlFilter lifecycleType
  (parse filter.sql).any (fun condition => decide (Holds (condition.eval (productTest filter.params products))))

def lifecycleTypes : List LifecycleType := [.mainline,.eus,.els,.e4s]

/-- Every parameter of a fragment is bound, and none is bound twice. -/
theorem names_bound (lifecycleType : LifecycleType) :
    (bindNames (lifecycleTypeSqlFilter lifecycleType).sql).Nodup ∧
      (lifecycleTypeSqlFilter lifecycleType).params.keys =
        bindNames (lifecycleTypeSqlFilter lifecycleType).sql := by
  cases lifecycleType <;> decide

/-- With the ids of its parameters in their place, the fragment is that of the RHEL statement. -/
theorem filter_in_statement (lifecycleType : LifecycleType) :
    let filter := lifecycleTypeSqlFilter lifecycleType
    filter.sql.map (Word.map (fun name => Statements.Test.hasProduct ((filter.params.get? name).getD []))) =
      Statements.lifecycleTypeSqlFilter lifecycleType := by
  cases lifecycleType <;> rfl

theorem keepsHost_iff (lifecycleType : LifecycleType) (products : Option (List Product)) :
    keepsHost lifecycleType products = true ↔ getLifecycleType (productsOr products) = lifecycleType := by
  let has := fun ids : List String =>
    ids.any (fun id => decide (some id ∈ (productsOr products).map (·.id)))
  let test := fun ids : List String =>
    existsIn (products.getD []) (fun product => equalsAny product.id (ids.map some).toFinset)
  have shown : ∀ ids, Holds (test ids) ↔ has ids = true := holds_products products
  have hidden : ∀ ids, Holds (neg (test ids)) ↔ has ids = false := by
    intro ids
    rw [← Bool.not_eq_true,← shown ids]
    simp [test]
  have either : ∀ first second, has (first ++ second) = (has first || has second) :=
    fun first second => List.any_append
  have chain : getLifecycleType (productsOr products) = if has e4sProductIds then .e4s
      else if has elsProductIds then .els else if has eusProductIds then .eus else .mainline := rfl
  rw [chain]
  cases lifecycleType with
  | mainline =>
    have read : keepsHost .mainline products = decide (Holds (neg (test allExtendedProductIds))) := rfl
    rw [read,decide_eq_true_eq,hidden,allExtendedProductIds,either,either]
    cases has e4sProductIds <;> cases has elsProductIds <;> cases has eusProductIds <;> decide
  | eus =>
    have read : keepsHost .eus products =
      decide (Holds (conj (test eusProductIds) (neg (test (elsProductIds ++ e4sProductIds))))) := rfl
    rw [read,decide_eq_true_eq,holds_conj,shown,hidden,either]
    cases has e4sProductIds <;> cases has elsProductIds <;> cases has eusProductIds <;> decide
  | els =>
    have read : keepsHost .els products =
      decide (Holds (conj (test elsProductIds) (neg (test e4sProductIds)))) := rfl
    rw [read,decide_eq_true_eq,holds_conj,shown,hidden]
    cases has e4sProductIds <;> cases has elsProductIds <;> cases has eusProductIds <;> decide
  | e4s =>
    have read : keepsHost .e4s products = decide (Holds (test e4sProductIds)) := rfl
    rw [read,decide_eq_true_eq,shown]
    cases has e4sProductIds <;> cases has elsProductIds <;> cases has eusProductIds <;> decide

/-- The four fragments, each with the parameters it returns, classify hosts as the code does that
reads the rows, so they divide every inventory among them. -/
theorem filter_classifies :
    (∀ lifecycleType, (bindNames (lifecycleTypeSqlFilter lifecycleType).sql).Nodup ∧
      (lifecycleTypeSqlFilter lifecycleType).params.keys =
        bindNames (lifecycleTypeSqlFilter lifecycleType).sql) ∧
    (∀ lifecycleType products, keepsHost lifecycleType products = true ↔
      getLifecycleType (productsOr products) = lifecycleType) ∧
    (∀ products, ∃! lifecycleType, keepsHost lifecycleType products = true) ∧
    ∀ hosts : List HostRow, (lifecycleTypes.flatMap (fun lifecycleType =>
      hosts.filter (fun host => keepsHost lifecycleType host.products))).Perm hosts := by
  refine ⟨names_bound,keepsHost_iff,?_,fun hosts => ?_⟩
  · intro products
    refine ⟨getLifecycleType (productsOr products),(keepsHost_iff _ _).mpr rfl,?_⟩
    exact fun other kept => ((keepsHost_iff other products).mp kept).symm
  · have all : ∀ lifecycleType : LifecycleType, lifecycleType ∈ lifecycleTypes := by
      intro lifecycleType
      cases lifecycleType <;> decide
    have classes := Keyed.perm_classes (fun host : HostRow => getLifecycleType (productsOr host.products))
      (show lifecycleTypes.Nodup by decide) hosts
    have same : ∀ lifecycleType, (fun host : HostRow => keepsHost lifecycleType host.products) =
        fun host => decide (getLifecycleType (productsOr host.products) = lifecycleType) := by
      intro lifecycleType
      funext host
      rw [Bool.eq_iff_iff,keepsHost_iff,decide_eq_true_eq]
    simp only [same]
    simpa [all] using classes

end Roadmap.LifecycleFilter
