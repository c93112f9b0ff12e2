import Roadmap.Base.Casing
import Roadmap.Base.Sorted
import Roadmap.Rhel.Drilldown

/-! The pages of the v2 drill-downs that work on rows already read: the matching hosts are
sorted, filtered by display name and cut into pages, all anew for each request. -/
namespace Roadmap
open Sql Sorted

private def hexFrom (value : Nat) : Nat → List Char
  | 0 => []
  | left + 1 =>
    (if left + 1 ∈ [24,20,16,12] then ['-'] else []) ++
      Nat.digitChar (value / 16 ^ left % 16) :: hexFrom value left

/-- `str(uuid)`. -/
def UUID.text (id : UUID) : String := .ofList (hexFrom id.int.toNat 32)

def SystemInfo.sortKey (system : SystemInfo) : String ×ₗ String := toLex (system.displayName,system.id.text)

def searchedFor (casing : Casing) (search : Option String) (system : SystemInfo) : Bool :=
  !searched search || decide (casing.lowered (search.getD "").toList <:+:
    casing.lowered system.displayName.toList)

def pageOf (filtered : List SystemInfo) (offset limit : Nat) : PaginatedSystemsResponse :=
  let data := page offset limit filtered
  ⟨⟨data.length,filtered.length⟩,data⟩

def paginate (casing : Casing) (order : SetOrder SystemInfo) (matchingSystems : Finset SystemInfo)
    (offset limit : Nat) (search : Option String) : PaginatedSystemsResponse :=
  pageOf ((sortBy SystemInfo.sortKey (order.list matchingSystems)).filter (searchedFor casing search))
    offset limit

/-! The order of the texts of ids is that of the ids. -/

private theorem digitChar_order : ∀ first < 16, ∀ second < 16,
    (Nat.digitChar first < Nat.digitChar second ↔ first < second) ∧
      (Nat.digitChar first = Nat.digitChar second ↔ first = second) := by
  decide

private theorem digits_lt {size high low first second : Nat} (small : low < size) (little : first < size) :
    low + size * high < first + size * second ↔ high < second ∨ high = second ∧ low < first := by
  rcases Nat.lt_trichotomy high second with less | rfl | more
  · have room : size * high + size ≤ size * second := by
      rw [← Nat.mul_succ]
      exact Nat.mul_le_mul_left size less
    omega
  · omega
  · have room : size * second + size ≤ size * high := by
      rw [← Nat.mul_succ]
      exact Nat.mul_le_mul_left size more
    omega

private theorem hexFrom_lt (first second left : Nat) :
    hexFrom first left < hexFrom second left ↔ first % 16 ^ left < second % 16 ^ left := by
  induction left with
  | zero => simp [hexFrom,Nat.mod_one]
  | succ left ih =>
    have positive : 0 < 16 ^ left := Nat.pow_pos (by decide)
    obtain ⟨digits,same⟩ := digitChar_order (first / 16 ^ left % 16) (Nat.mod_lt _ (by decide))
      (second / 16 ^ left % 16) (Nat.mod_lt _ (by decide))
    have blocks := @digits_lt _ (first / 16 ^ left % 16) _ _ (second / 16 ^ left % 16)
      (Nat.mod_lt first positive) (Nat.mod_lt second positive)
    rw [Nat.mod_pow_succ,Nat.mod_pow_succ,blocks,← ih,← digits,← same,← List.cons_lt_cons_iff,hexFrom,hexFrom]
    split
    · simp
    · rfl

theorem UUID.text_lt (first second : UUID) : first.text < second.text ↔ first.int < second.int := by
  have width : ∀ id : UUID, id.int.toNat % 16 ^ 32 = id.int.toNat := fun id => Nat.mod_eq_of_lt id.int.isLt
  rw [String.lt_iff_toList_lt,UUID.text,UUID.text,String.toList_ofList,String.toList_ofList,hexFrom_lt,
    width,width]
  rfl

theorem UUID.text_inj {first second : UUID} (same : first.text = second.text) : first = second := by
  have below := (UUID.text_lt first second).not.mp same.not_lt
  have above := (UUID.text_lt second first).not.mp same.not_gt
  obtain ⟨left⟩ := first
  obtain ⟨right⟩ := second
  exact congrArg UUID.mk (BitVec.le_antisymm (BitVec.not_lt.mp above) (BitVec.not_lt.mp below))

/-- By display name, and hosts of one name by their ids. -/
def SystemInfo.Before (first second : SystemInfo) : Prop :=
  first.displayName < second.displayName ∨
    first.displayName = second.displayName ∧ first.id.int < second.id.int

theorem sortKey_lt (first second : SystemInfo) : first.sortKey < second.sortKey ↔ first.Before second := by
  rw [SystemInfo.sortKey,SystemInfo.sortKey,Prod.Lex.toLex_lt_toLex,UUID.text_lt,SystemInfo.Before]

def DistinctHosts (systems : Finset SystemInfo) : Prop :=
  ∀ first ∈ systems, ∀ second ∈ systems, first.id = second.id → first = second

theorem apart_of_distinct {systems : Finset SystemInfo} (distinct : DistinctHosts systems) :
    Apart SystemInfo.sortKey systems := by
  intro first inFirst second inSecond same
  exact distinct first inFirst second inSecond (UUID.text_inj (congrArg (fun key => (ofLex key).2) same))

/-! What the pages list. -/

/-- The pages at offsets 0, limit, 2·limit, … list these hosts in this order, and every page
gives their number. -/
structure Paged (respond : (offset limit : Nat) → PaginatedSystemsResponse) (hosts : List SystemInfo) :
    Prop where
  pages : ∀ limit count, hosts.length ≤ count * limit →
    (List.range count).flatMap (fun k => (respond (k * limit) limit).data) = hosts
  total : ∀ offset limit, (respond offset limit).metaData.total = hosts.length

theorem paged_pageOf (hosts : List SystemInfo) : Paged (pageOf hosts) hosts :=
  ⟨fun limit count enough => pages_all limit count hosts enough,fun _ _ => rfl⟩

theorem Paged.unique {respond : (offset limit : Nat) → PaginatedSystemsResponse}
    {hosts others : List SystemInfo} (first : Paged respond hosts) (second : Paged respond others) :
    hosts = others := by
  have size : hosts.length = others.length := (first.total 0 0).symm.trans (second.total 0 0)
  have listed := first.pages hosts.length 1 (by simp)
  exact listed.symm.trans (second.pages hosts.length 1 (by simp [size]))

/-- Without a search the pages list every matching host once. -/
theorem paginate_all (casing : Casing) (order : SetOrder SystemInfo) (systems : Finset SystemInfo) :
    ∃ hosts, hosts.Nodup ∧ hosts.toFinset = systems ∧
      Paged (fun offset limit => paginate casing order systems offset limit none) hosts := by
  refine ⟨_,nodup_sortBy_set.filter _,?_,paged_pageOf _⟩
  ext system
  rw [List.mem_toFinset,List.mem_filter,mem_sortBy_set]
  simp [searchedFor,searched]

/-- The listing of hosts with distinct ids does not depend on the order of iteration. -/
theorem paginate_ascending (casing : Casing) {systems : Finset SystemInfo} (distinct : DistinctHosts systems)
    (search : Option String) : ∃ hosts : List SystemInfo, hosts.Pairwise SystemInfo.Before ∧
      (∀ system, system ∈ hosts ↔ system ∈ systems ∧ searchedFor casing search system = true) ∧
      ∀ order offset limit, paginate casing order systems offset limit search = pageOf hosts offset limit := by
  have ascending : ∀ order : SetOrder SystemInfo, Ascending SystemInfo.sortKey
      ((sortBy SystemInfo.sortKey (order.list systems)).filter (searchedFor casing search)) :=
    fun order => (ascending_sortBy_set (apart_of_distinct distinct)).filter _
  have members : ∀ (order : SetOrder SystemInfo) (system : SystemInfo),
      system ∈ (sortBy SystemInfo.sortKey (order.list systems)).filter (searchedFor casing search) ↔
        system ∈ systems ∧ searchedFor casing search system = true := by
    intro order system
    rw [List.mem_filter,mem_sortBy_set]
  obtain ⟨one⟩ : Nonempty (SetOrder SystemInfo) := SetOrder.nonempty
  refine ⟨_,(ascending one).imp (fun below => (sortKey_lt _ _).mp below),members one,
    fun order offset limit => ?_⟩
  have same := (ascending order).unique (ascending one)
    (fun system => (members order system).trans (members one system).symm)
  rw [paginate,same]

end Roadmap
