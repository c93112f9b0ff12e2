import Roadmap.Notificator
import Roadmap.Pagination

/-! The v2 endpoints of upcoming changes: a list with counts only, and the hosts of one item
page by page. The drill-down finds the item again by name and release. -/
namespace Roadmap
open Notificator (Hit)

def UpcomingOutput.countsOnly (item : UpcomingOutput) : UpcomingOutput :=
  {item with details :=
    {item.details with potentiallyAffectedSystemsDetail := ∅,potentiallyAffectedSystems := ∅}}

def getUpcomingRelevantV2 (data : List UpcomingOutput) (all : Bool) : WrappedUpcomingOutput :=
  let response := getUpcomingRelevant data all
  ⟨response.metaData,response.data.map UpcomingOutput.countsOnly⟩

def findUpcoming (file : List UpcomingInput) (name release : String) : Option UpcomingInput :=
  file.find? (fun item => item.name = name ∧ item.release = release)

def getUpcomingSystemsV2 (casing : Casing) (order : SetOrder SystemInfo) (pkgBySystem : PackagesBySystem)
    (file : List UpcomingInput) (name release : String) (offset limit : Nat) (search : Option String) :
    PaginatedSystemsResponse :=
  match findUpcoming file name release with
  | none => ⟨⟨0,0⟩,[]⟩
  | some target => paginate casing order (affectedSystems pkgBySystem target) offset limit search

section Agreement

variable (casing : Casing) (order : SetOrder SystemInfo) (pkgBySystem : PackagesBySystem)
  (file : List UpcomingInput) (all : Bool)

/-- The drill-down opened on a row of the list reports its count and lists its hosts, each once. -/
def RowAgrees (row : UpcomingOutput) : Prop :=
  ∃ hosts : List SystemInfo, hosts.Nodup ∧ hosts.toFinset = row.affected ∧
    hosts.length = row.countsOnly.details.potentiallyAffectedSystemsCount ∧
    Paged (fun offset limit =>
      getUpcomingSystemsV2 casing order pkgBySystem file row.countsOnly.name row.countsOnly.release
        offset limit none) hosts

def ListedItem (item : UpcomingInput) : Prop := all = true ∨ ∃ host ∈ pkgBySystem.items, Hit item host

def SameHosts (first second : UpcomingInput) : Prop :=
  ∀ host ∈ pkgBySystem.items, Hit first host ↔ Hit second host

instance (first second : UpcomingInput) : Decidable (SameHosts pkgBySystem first second) :=
  inferInstanceAs (Decidable (∀ host ∈ pkgBySystem.items, Hit first host ↔ Hit second host))

theorem mem_affected (item : UpcomingInput) (info : SystemInfo) :
    info ∈ affectedSystems pkgBySystem item ↔ ∃ host ∈ pkgBySystem.items, Hit item host ∧ host.1 = info := by
  simp only [affectedSystems,List.mem_toFinset,List.mem_map,List.mem_filter,decide_eq_true_eq,Hit,and_assoc]

theorem affected_eq_iff (first second : UpcomingInput) :
    affectedSystems pkgBySystem first = affectedSystems pkgBySystem second ↔
      SameHosts pkgBySystem first second := by
  have affected : ∀ item, ∀ host ∈ pkgBySystem.items,
      host.1 ∈ affectedSystems pkgBySystem item ↔ Hit item host := by
    intro item host member
    rw [mem_affected]
    constructor
    · intro ⟨other,listed,hit,same⟩
      have packages := (Dict.mem_items pkgBySystem other).mp listed
      rw [same,(Dict.mem_items pkgBySystem host).mp member] at packages
      rwa [← Prod.ext same (Option.some.inj packages).symm]
    · exact fun hit => ⟨host,member,hit,rfl⟩
  constructor
  · intro same host member
    rw [← affected first host member,← affected second host member,same]
  · intro same
    ext info
    rw [mem_affected,mem_affected]
    exact exists_congr (fun host => and_congr_right (fun member => and_congr_left (fun _ => same host member)))

theorem mem_upcoming_rows (row : UpcomingOutput) :
    row ∈ (getUpcomingRelevant (getUpcomingDataWithHosts pkgBySystem file all) all).data ↔
      ∃ item ∈ file, ListedItem pkgBySystem all item ∧ row = outputOf item (affectedSystems pkgBySystem item) := by
  have nonempty : ∀ item, (affectedSystems pkgBySystem item).Nonempty ↔
      ∃ host ∈ pkgBySystem.items, Hit item host := by
    intro item
    simp only [Finset.Nonempty,mem_affected]
    constructor
    · rintro ⟨_,host,member,hit,-⟩
      exact ⟨host,member,hit⟩
    · rintro ⟨host,member,hit⟩
      exact ⟨_,host,member,hit,rfl⟩
  cases all with
  | true => simp [getUpcomingRelevant,getUpcomingDataWithHosts,ListedItem,eq_comm]
  | false =>
    have major : ∀ item, (∃ host ∈ pkgBySystem.items, Hit item host) →
        item.osMajor ∈ pkgBySystem.keys.map (·.osMajor) := by
      rintro item ⟨host,member,hit⟩
      exact List.mem_map.mpr ⟨host.1,List.mem_map.mpr ⟨host,member,rfl⟩,hit.1⟩
    simp only [getUpcomingRelevant,getUpcomingDataWithHosts,ListedItem,Bool.false_eq_true,if_false,
      Bool.not_false,Bool.true_and,false_or,List.mem_filter,List.mem_filterMap,decide_eq_true_eq]
    constructor
    · rintro ⟨⟨item,member,built⟩,affected⟩
      split at built
      · contradiction
      · rw [← Option.some.inj built] at affected ⊢
        exact ⟨item,member,(nonempty item).mp affected,rfl⟩
    · rintro ⟨item,member,affected,same⟩
      rw [same]
      exact ⟨⟨item,member,if_neg (not_not.mpr (major item affected))⟩,(nonempty item).mpr affected⟩

/-- What the drill-down lists is what affects the first item of the name and release. -/
theorem row_agrees_iff {item first : UpcomingInput}
    (found : findUpcoming file item.name item.release = some first) :
    RowAgrees casing order pkgBySystem file (outputOf item (affectedSystems pkgBySystem item)) ↔
      SameHosts pkgBySystem item first := by
  let row := outputOf item (affectedSystems pkgBySystem item)
  have drilled : (fun offset limit => getUpcomingSystemsV2 casing order pkgBySystem file
        row.countsOnly.name row.countsOnly.release offset limit none) =
      fun offset limit => paginate casing order (affectedSystems pkgBySystem first) offset limit none := by
    funext offset limit
    exact congrArg (fun target => match target with
      | none => PaginatedSystemsResponse.mk ⟨0,0⟩ []
      | some target => paginate casing order (affectedSystems pkgBySystem target) offset limit none) found
  obtain ⟨hosts,nodup,listed,paged⟩ := paginate_all casing order (affectedSystems pkgBySystem first)
  rw [← drilled] at paged
  rw [← affected_eq_iff]
  constructor
  · intro ⟨others,_,members,_,pages⟩
    rw [← listed,← pages.unique paged]
    exact members.symm
  · intro same
    refine ⟨hosts,nodup,listed.trans same.symm,?_,paged⟩
    rw [← List.toFinset_card_of_nodup nodup,listed,← same]
    rfl

theorem find_self {item : UpcomingInput} (member : item ∈ file) :
    ∃ first, findUpcoming file item.name item.release = some first := by
  rw [← Option.isSome_iff_exists,findUpcoming,List.find?_isSome]
  exact ⟨item,member,by simp⟩

/-- The drill-downs agree with the list exactly when each listed item affects the same hosts
as the first item of its name and release. -/
theorem upcoming_systems_agree :
    (∀ row ∈ (getUpcomingRelevant (getUpcomingDataWithHosts pkgBySystem file all) all).data,
      RowAgrees casing order pkgBySystem file row) ↔
    ∀ item ∈ file, ListedItem pkgBySystem all item → ∀ first,
      findUpcoming file item.name item.release = some first → SameHosts pkgBySystem item first := by
  constructor
  · intro agree item member listed first found
    have row := (mem_upcoming_rows pkgBySystem file all _).mpr ⟨item,member,listed,rfl⟩
    exact (row_agrees_iff casing order pkgBySystem file found).mp (agree _ row)
  · intro same row member
    obtain ⟨item,inside,listed,rfl⟩ := (mem_upcoming_rows pkgBySystem file all row).mp member
    obtain ⟨first,found⟩ := find_self file inside
    exact (row_agrees_iff casing order pkgBySystem file found).mpr (same item inside listed first found)

end Agreement

private def phpChange (type : UpcomingType) (packages : Finset String) : UpcomingInput where
  name := "PHP"
  type := type
  packages := packages
  release := "9.6"
  osMajor := 9
  date := .mk 2025 11 1
  details := ⟨none,1,"PHP changes","",.mk 2025 9 1,.mk 2025 9 2,none⟩

/-- An addition and a deprecation share name and release; the row of the deprecation counts
a host, and its drill-down shows the hosts of the addition, of which there are none. -/
theorem shared_name_confused :
    ¬ ∃ order, ∀ row ∈ (getUpcomingRelevant (getUpcomingDataWithHosts
        (Dict.empty.set ⟨⟨1⟩,"host",9,some 4⟩ {"php"})
        [phpChange .addition {"php8.4"},phpChange .deprecation {"php"}] false) false).data,
      RowAgrees .ascii order (Dict.empty.set ⟨⟨1⟩,"host",9,some 4⟩ {"php"})
        [phpChange .addition {"php8.4"},phpChange .deprecation {"php"}] row := by
  intro ⟨order,agree⟩
  have row := agree _ ((mem_upcoming_rows _ _ false _).mpr
    ⟨phpChange .deprecation {"php"},by simp,Or.inr (by decide),rfl⟩)
  have found : findUpcoming [phpChange .addition {"php8.4"},phpChange .deprecation {"php"}]
      (phpChange .deprecation {"php"}).name (phpChange .deprecation {"php"}).release =
        some (phpChange .addition {"php8.4"}) := by decide
  have same := (row_agrees_iff .ascii order _ _ found).mp row
  exact absurd same (by decide)

end Roadmap
