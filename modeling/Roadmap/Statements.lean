import Roadmap.Base.Condition
import Roadmap.Rhel.Drilldown

/-! The texts of the statements that read the inventory, put together from literal
fragments. In a text every comparison and every EXISTS is one word, named after what it
tests; the parentheses and operators around them are the source's. -/
namespace Roadmap.Statements
open Sql

/-- The tests of a host's own columns. -/
inductive HostTest where
  -- h.org_id = :org_id
  | orgIs
  -- EXISTS (SELECT 1 .. WHERE (group_obj->>'ungrouped')::boolean = true)
  | ungrouped
  -- EXISTS (SELECT 1 .. WHERE group_obj->>'id' = ANY(:host_groups))
  | grouped
  -- h.id = ANY(:host_ids)
  | idRequested
  deriving DecidableEq,Repr

def HostTest.value (params : Params) (host : HostRecord) : HostTest → Truth
  | .orgIs => equals (some host.orgId) (some params.orgId)
  | .ungrouped => existsIn host.groups (fun group => equals group.ungrouped (some true))
  | .grouped => existsIn host.groups (fun group => equalsAny group.id params.hostGroups)
  | .idRequested => equalsAny (some host.id) (params.hostIds.image some)

inductive Test where
  | host (test : HostTest)
  | majorIs
  | minorIs
  | osNamed
  | majorIsNull
  | osReleaseKnown
  | releaseMajorIs
  | releaseMinorIs
  | hasProduct (ids : List String)
  | displayNameLike
  deriving DecidableEq,Repr

def Test.value (collation : Collation) (params : Params) (row : Joined) : Test → Truth
  | .host test => test.value params row.h
  | .majorIs => equals (row.osMajor.map toString) (some params.major)
  | .minorIs => equals (row.osMinor.map toString) (some params.minor)
  | .osNamed => isNotNull row.osName
  | .majorIsNull => isNull row.osMajor
  | .osReleaseKnown => isNotNull row.sps.osRelease
  | .releaseMajorIs => equals (releasePart row 1) (some params.major)
  | .releaseMinorIs => equals (releasePart row 2) (some params.minor)
  | .hasProduct ids => existsProduct ids params row
  | .displayNameLike => ilike collation row.h.displayName params.searchPattern

/-! The fragments. The group filters stand in statements with and without profiles; `h`
places their tests. -/

def hostsQuery : List (Word Test) := [.atom (.host .orgIs)]

def hostsQueryWithoutPackages : List (Word Test) := [.atom (.host .orgIs)]

def majorFilter : List (Word Test) := [.and,.atom .majorIs]

def minorFilter : List (Word Test) := [.and,.atom .minorIs]

def hostIdsFilter : List (Word Test) := [.and,.atom (.host .idRequested)]

def hostUuidsQuery : List (Word HostTest) := [.atom .orgIs]

section Groups

variable {α : Type} (h : HostTest → α)

def ungroupedFilter : List (Word α) := [.and,.atom (h .ungrouped)]

def groupedFilter : List (Word α) := [.and,.atom (h .grouped)]

def ungroupedOrGroupedFilter : List (Word α) :=
  [.and,.opened,.atom (h .ungrouped),.or,.atom (h .grouped),.closed]

def hostGroupsFilter (hostGroups : Finset (Option String)) : List (Word α) :=
  if hostGroups = ∅ then []
  else if none ∉ hostGroups then groupedFilter h
  else if 1 < hostGroups.card then ungroupedOrGroupedFilter h
  else ungroupedFilter h

end Groups

def buildHostInventoryQuery (major minor : Option Int) (hostGroups : Finset (Option String))
    (includePackages : Bool) (hostIds : Option (List UUID)) : List (Word Test) :=
  (if includePackages then hostsQuery else hostsQueryWithoutPackages) ++
  ((if major.isSome then majorFilter else []) ++ ((if minor.isSome then minorFilter else []) ++
    (hostGroupsFilter .host hostGroups ++ (if hostIds.isSome then hostIdsFilter else []))))

def buildHostUuidsQuery (hostGroups : Finset (Option String)) : List (Word HostTest) :=
  hostUuidsQuery ++ hostGroupsFilter id hostGroups

/-- ` ORDER BY h.id` -/
def hostUuidsOrder (first second : HostRecord) : Bool := decide (first.id.int ≤ second.id.int)

/-! The statement of `query_rhel_systems`, with its own copy of the group filter. -/

def versionMatch : List (Word Test) :=
  [.opened,
    .opened,.atom .osNamed,.and,.atom .majorIs,.and,.atom .minorIs,.closed,
    .or,
    .opened,.atom .osNamed,.and,.atom .majorIsNull,.and,.atom .osReleaseKnown,
      .and,.atom .releaseMajorIs,.and,.atom .releaseMinorIs,.closed,
  .closed]

def lifecycleTypeSqlFilter : LifecycleType → List (Word Test)
  | .e4s => [.atom (.hasProduct e4sProductIds)]
  | .els => [.atom (.hasProduct elsProductIds),.and,.not,.atom (.hasProduct e4sProductIds)]
  | .eus => [.atom (.hasProduct eusProductIds),.and,.not,
      .atom (.hasProduct (elsProductIds ++ e4sProductIds))]
  | .mainline => [.not,.atom (.hasProduct allExtendedProductIds)]

def rhelHostGroupsFilter (hostGroups : Finset (Option String)) : List (Word Test) :=
  let ungroupedQuery := [Word.atom (Test.host .ungrouped)]
  let groupedQuery := [Word.atom (Test.host .grouped)]
  if hostGroups ≠ ∅ then
    if none ∈ hostGroups then
      if 1 < hostGroups.card then
        [.and,.opened] ++ ungroupedQuery ++ [.or] ++ groupedQuery ++ [.closed]
      else .and :: ungroupedQuery
    else .and :: groupedQuery
  else []

def searchFilter (search : Option String) : List (Word Test) :=
  if searched search then [.and,.atom .displayNameLike] else []

def baseWhere (lifecycleType : LifecycleType) (hostGroups : Finset (Option String))
    (search : Option String) : List (Word Test) :=
  [.atom (.host .orgIs)] ++ (.and :: versionMatch ++ (.and :: lifecycleTypeSqlFilter lifecycleType ++
    (rhelHostGroupsFilter hostGroups ++ searchFilter search)))

/-! The readers, up to the columns that they select. -/

section Readers

variable (collation : Collation) (dev : Bool) (orgId : String) (hostGroups : Finset (Option String))
  (hosts : List HostRecord)

def inventoryRows (includePackages : Bool) (major minor : Option Int) (hostIds : Option (List UUID)) :
    Option (List Joined) :=
  let params := {inventoryParams dev orgId hostGroups major minor with
    hostIds := (hostIds.getD []).toFinset}
  keeps (Test.value collation params)
    (buildHostInventoryQuery major minor hostGroups includePackages hostIds) (hosts.filterMap join)

def queryHostInventoryByIds (hostIds : List UUID) : Option (List HostRowWithPackages) :=
  let uniqueHostIds := hostIds.eraseDups
  (inventoryRows collation dev orgId hostGroups hosts true none none (some uniqueHostIds)).map
    (fun rows => rows.map Roadmap.hostsQuery)

/-- The same with `include_packages=False`. -/
def queryHostInventoryByIdsWithoutPackages (hostIds : List UUID) : Option (List HostRow) :=
  let uniqueHostIds := hostIds.eraseDups
  (inventoryRows collation dev orgId hostGroups hosts false none none (some uniqueHostIds)).map
    (fun rows => rows.map Roadmap.hostsQueryWithoutPackages)

def queryAccessibleHostUuids : Option (List UUID) :=
  let params := inventoryParams dev orgId hostGroups none none
  (keeps (HostTest.value params) (buildHostUuidsQuery hostGroups) hosts).map
    (fun rows => (rows.mergeSort hostUuidsOrder).map (·.id))

/-- The rows that `query_rhel_systems` counts and orders. -/
def rhelSystemsRows (major minor : Int) (lifecycleType : LifecycleType) (search : Option String) :
    Option (List Joined) :=
  let params : Params := {
    orgId := queriedOrg dev orgId,major := toString major,minor := toString minor
    hostGroups := hostGroups,searchPattern := Roadmap.searchPattern (search.getD "")}
  keeps (Test.value collation params) (baseWhere lifecycleType hostGroups search) (hosts.filterMap join)

end Readers

/-! What the fragments keep. -/

theorem rhelHostGroupsFilter_eq (hostGroups : Finset (Option String)) :
    rhelHostGroupsFilter hostGroups = hostGroupsFilter .host hostGroups := by
  unfold rhelHostGroupsFilter hostGroupsFilter
  by_cases empty : hostGroups = ∅
  · simp [empty]
  · by_cases special : none ∈ hostGroups <;> by_cases several : 1 < hostGroups.card <;>
      simp [empty,special,several,ungroupedOrGroupedFilter,groupedFilter,ungroupedFilter]

/-- `h` and `value` read the tests of a host's columns as tests of the host in a row. -/
def Placed {α ρ : Type} (h : HostTest → α) (value : ρ → α → Truth) (host : ρ → HostRecord)
    (params : Params) : Prop := ∀ row test, value row (h test) = test.value params (host row)

theorem placed_row (collation : Collation) (params : Params) :
    Placed .host (Test.value collation params) Joined.h params := fun _ _ => rfl

theorem placed_host (params : Params) : Placed id (HostTest.value params) id params := fun _ _ => rfl

section Fragments

variable {α ρ : Type} {h : HostTest → α} {value : ρ → α → Truth} {host : ρ → HostRecord} {params : Params}
  {hostGroups : Finset (Option String)}

theorem ungrouped_filters (placed : Placed h value host params) :
    Filters value (ungroupedFilter h) (fun row => ∃ group ∈ (host row).groups, group.ungrouped = some true) :=
  (Filters.atom (h .ungrouped)).congr (fun row => by simp [placed _ _,HostTest.value])

theorem grouped_filters (placed : Placed h value host params) :
    Filters value (groupedFilter h)
      (fun row => ∃ group ∈ (host row).groups, ∃ id, group.id = some id ∧ some id ∈ params.hostGroups) :=
  (Filters.atom (h .grouped)).congr (fun row => by simp [placed _ _,HostTest.value])

/-- The parentheses keep the OR to the two tests of the groups. -/
theorem ungroupedOrGrouped_filters (placed : Placed h value host params) :
    Filters value (ungroupedOrGroupedFilter h)
      (fun row => (∃ group ∈ (host row).groups, group.ungrouped = some true) ∨
        ∃ group ∈ (host row).groups, ∃ id, group.id = some id ∧ some id ∈ params.hostGroups) := by
  have either := (Says.factor (.atom (h .ungrouped))).term.or (.factor (.atom (h .grouped)))
  apply Filters.one either.parentheses
  intro row
  simp [Condition.eval,placed _ _,HostTest.value]

/-- The choice among the group filters, as one condition. -/
theorem hostGroups_filters (placed : Placed h value host params)
    (bound : params.hostGroups = hostGroups) : Filters value (hostGroupsFilter h hostGroups)
      (fun row => hostGroups = ∅ ∨ Visible hostGroups (host row)) := by
  unfold hostGroupsFilter Visible
  by_cases empty : hostGroups = ∅
  · rw [if_pos empty]
    exact Filters.none.congr (fun row => by simp [empty])
  rw [if_neg empty]
  by_cases special : none ∈ hostGroups
  · rw [if_neg (not_not.mpr special)]
    by_cases several : 1 < hostGroups.card
    · rw [if_pos several]
      refine (ungroupedOrGrouped_filters placed).congr (fun row => ?_)
      simp only [bound,empty,special,false_or,true_and,or_comm]
    · have single := only_ungrouped special several
      rw [if_neg several]
      refine (ungrouped_filters placed).congr (fun row => ?_)
      simp [single]
  · rw [if_pos special]
    refine (grouped_filters placed).congr (fun row => ?_)
    simp only [bound,empty,special,false_or,false_and,or_false]

/-- A statement with filters after the org of its WHERE clause keeps the org's rows that pass
the filters. -/
theorem org_keeps (placed : Placed h value host params)
    {text : List (Word α)} {kept : ρ → Prop} [DecidablePred kept] (filters : Filters value text kept)
    (rows : List ρ) : keeps value ([.atom (h .orgIs)] ++ text) rows =
      some (rows.filter (fun row => decide ((host row).orgId = params.orgId ∧ kept row))) := by
  have org : ∀ row, Holds (Condition.eval (value row) (.atom (h .orgIs))) ↔
      (host row).orgId = params.orgId := by
    intro row
    simp [Condition.eval,placed _ _,HostTest.value,eq_comm]
  rw [filters.keeps (.factor (.atom (h .orgIs))) rows]
  simp only [org]

end Fragments

section Profiles

variable {collation : Collation} {params : Params}

theorem major_filters {major : Option Int} (bound : params.major = pyStr major) :
    Filters (Test.value collation params) (if major.isSome then majorFilter else [])
      (fun row => ∀ value ∈ major, row.osMajor = some value) := by
  apply Filters.optional
  rintro value rfl row
  rw [Test.value,bound]
  exact holds_numeral row.osMajor value

theorem minor_filters {minor : Option Int} (bound : params.minor = pyStr minor) :
    Filters (Test.value collation params) (if minor.isSome then minorFilter else [])
      (fun row => ∀ value ∈ minor, row.osMinor = some value) := by
  apply Filters.optional
  rintro value rfl row
  rw [Test.value,bound]
  exact holds_numeral row.osMinor value

theorem hostIds_filters {hostIds : Option (List UUID)}
    (bound : params.hostIds = (hostIds.getD []).toFinset) :
    Filters (Test.value collation params) (if hostIds.isSome then hostIdsFilter else [])
      (fun row => ∀ ids ∈ hostIds, row.h.id ∈ ids) := by
  apply Filters.optional
  rintro ids rfl row
  simp [Test.value,HostTest.value,bound]

/-- Both alternatives of the version stand in parentheses, and so does their OR. -/
theorem versionMatch_filters :
    Filters (Test.value collation params) (.and :: versionMatch)
      (fun row => Holds (Roadmap.versionMatch params row)) := by
  have direct := ((Says.factor (.atom Test.osNamed)).and (.atom .majorIs)).and (.atom .minorIs)
  have release := ((((Says.factor (.atom Test.osNamed)).and (.atom .majorIsNull)).and
    (.atom .osReleaseKnown)).and (.atom .releaseMajorIs)).and (.atom .releaseMinorIs)
  have either := (Says.factor direct.term.parentheses).term.or (.factor release.term.parentheses)
  exact .one either.parentheses (fun row => Iff.rfl)

theorem lifecycleType_filters (lifecycleType : LifecycleType) :
    Filters (Test.value collation params) (.and :: lifecycleTypeSqlFilter lifecycleType)
      (fun row => getLifecycleType (productsOr row.products) = lifecycleType) := by
  have shown : ∀ ids, Filters (Test.value collation params) [.and,.atom (.hasProduct ids)]
      (fun row => Holds (existsProduct ids params row)) := fun ids => .atom (Test.hasProduct ids)
  have hidden : ∀ ids, Filters (Test.value collation params) [.and,.not,.atom (.hasProduct ids)]
      (fun row => Holds (notExistsProduct ids params row)) :=
    fun ids => .one (.not (.atom _)) (fun row => Iff.rfl)
  have types := lifecycle_filter_exact lifecycleType params
  cases lifecycleType with
  | e4s =>
    refine (shown e4sProductIds).congr (fun row => ?_)
    simpa [Roadmap.lifecycleTypeSqlFilter] using types row
  | els =>
    have both := (shown elsProductIds).append (hidden e4sProductIds)
    refine both.congr (fun row => ?_)
    simpa [Roadmap.lifecycleTypeSqlFilter] using types row
  | eus =>
    have both := (shown eusProductIds).append (hidden (elsProductIds ++ e4sProductIds))
    refine both.congr (fun row => ?_)
    simpa [Roadmap.lifecycleTypeSqlFilter] using types row
  | mainline =>
    refine (hidden allExtendedProductIds).congr (fun row => ?_)
    simpa [Roadmap.lifecycleTypeSqlFilter] using types row

theorem search_filters (search : Option String) :
    Filters (Test.value collation params) (searchFilter search)
      (fun row => searched search → Holds (Roadmap.searchFilter collation params row)) := by
  unfold searchFilter
  by_cases given : searched search
  · rw [if_pos given]
    exact (Filters.atom Test.displayNameLike).congr (fun row => (imp_iff_right given).symm)
  · rw [if_neg given]
    exact Filters.none.congr (fun row => by simp [given])

end Profiles

/-! The hosts that a statement selects. -/

instance (hostGroups : Finset (Option String)) (host : HostRecord) : Decidable (Visible hostGroups host) :=
  have byId : (∃ group ∈ host.groups, group.id ≠ none ∧ group.id ∈ hostGroups) ↔
      ∃ group ∈ host.groups, ∃ id, group.id = some id ∧ some id ∈ hostGroups := by
    refine exists_congr (fun group => and_congr_right (fun _ => ?_))
    cases group.id <;> simp
  have : Decidable (∃ group ∈ host.groups, ∃ id, group.id = some id ∧ some id ∈ hostGroups) :=
    decidable_of_iff _ byId
  inferInstanceAs (Decidable (_ ∨ _))

/-- What a caller may see of the hosts: those of the org, in a permitted group. -/
def VisibleTo (orgId : String) (hostGroups : Finset (Option String)) (host : HostRecord) : Prop :=
  host.orgId = orgId ∧ (hostGroups = ∅ ∨ Visible hostGroups host)

instance (orgId : String) (hostGroups : Finset (Option String)) (host : HostRecord) :
    Decidable (VisibleTo orgId hostGroups host) := inferInstanceAs (Decidable (_ ∧ _))

def Requested (hostIds : Option (List UUID)) (host : HostRecord) : Prop := ∀ ids ∈ hostIds, host.id ∈ ids

instance (hostIds : Option (List UUID)) (host : HostRecord) : Decidable (Requested hostIds host) :=
  inferInstanceAs (Decidable (∀ _ ∈ _, _))

/-- The static profile exists, and its versions are those asked for. -/
def Profiled (major minor : Option Int) (host : HostRecord) : Prop :=
  ∃ sps ∈ host.static, sps.orgId = host.orgId ∧
    (∀ value ∈ major, (sps.operatingSystem.bind (·.major)).map Int32.toInt = some value) ∧
    ∀ value ∈ minor, (sps.operatingSystem.bind (·.minor)).map Int32.toInt = some value

instance (major minor : Option Int) (host : HostRecord) : Decidable (Profiled major minor host) :=
  inferInstanceAs (Decidable (∃ _ ∈ _, _))

/-- The conditions of `query_rhel_systems` beside the org and the groups. -/
def OfSystem (collation : Collation) (major minor : Int) (lifecycleType : LifecycleType)
    (search : Option String) (host : HostRecord) : Prop :=
  (∃ row ∈ join host, Matches major minor lifecycleType row) ∧
    (searched search → Holds (ilike collation host.displayName (Roadmap.searchPattern (search.getD ""))))

instance (collation : Collation) (major minor : Int) (lifecycleType : LifecycleType)
    (search : Option String) (host : HostRecord) :
    Decidable (OfSystem collation major minor lifecycleType search host) :=
  inferInstanceAs (Decidable (_ ∧ _))

theorem rows_hosts (hosts : List HostRecord) (kept : Joined → Prop) [DecidablePred kept] :
    ((hosts.filterMap join).filter (fun row => decide (kept row))).map (·.h) =
      hosts.filter (fun host => decide (∃ row ∈ join host, kept row)) := by
  induction hosts with
  | nil => rfl
  | cons host rest ih =>
    cases joined : join host with
    | none => simp [joined,ih]
    | some row =>
      have same := join_host joined
      by_cases chosen : kept row <;> simp [joined,chosen,ih,same]

theorem join_profiled (major minor : Option Int) (host : HostRecord) :
    (∃ row ∈ join host, (∀ value ∈ major, row.osMajor = some value) ∧
      ∀ value ∈ minor, row.osMinor = some value) ↔ Profiled major minor host := by
  unfold Profiled join
  cases host.static with
  | none => simp
  | some sps =>
    by_cases same : sps.orgId = host.orgId <;> simp [same,Joined.osMajor,Joined.osMinor]

section Readers

variable (collation : Collation) (dev : Bool) (orgId : String) (hostGroups : Finset (Option String))
  (hosts : List HostRecord)

theorem inventoryRows_eq (includePackages : Bool) (major minor : Option Int)
    (hostIds : Option (List UUID)) :
    inventoryRows collation dev orgId hostGroups hosts includePackages major minor hostIds =
      some ((hosts.filterMap join).filter (fun row => decide (row.h.orgId = queriedOrg dev orgId ∧
        (∀ value ∈ major, row.osMajor = some value) ∧ (∀ value ∈ minor, row.osMinor = some value) ∧
        (hostGroups = ∅ ∨ Visible hostGroups row.h) ∧ Requested hostIds row.h))) := by
  let params := {inventoryParams dev orgId hostGroups major minor with
    hostIds := (hostIds.getD []).toFinset}
  have groups : Filters (Test.value collation params) (hostGroupsFilter .host hostGroups)
      (fun row => hostGroups = ∅ ∨ Visible hostGroups row.h) :=
    hostGroups_filters (placed_row collation params) rfl
  have filters : Filters (Test.value collation params) _ (fun row =>
      (∀ value ∈ major, row.osMajor = some value) ∧ (∀ value ∈ minor, row.osMinor = some value) ∧
      (hostGroups = ∅ ∨ Visible hostGroups row.h) ∧ Requested hostIds row.h) :=
    (major_filters rfl).append ((minor_filters rfl).append (groups.append (hostIds_filters rfl)))
  have kept := org_keeps (placed_row collation params) filters (hosts.filterMap join)
  cases includePackages <;> exact kept

theorem rhelSystemsRows_eq (major minor : Int) (lifecycleType : LifecycleType) (search : Option String) :
    rhelSystemsRows collation dev orgId hostGroups hosts major minor lifecycleType search =
      some ((hosts.filterMap join).filter (fun row => decide (row.h.orgId = queriedOrg dev orgId ∧
        Matches major minor lifecycleType row ∧ (hostGroups = ∅ ∨ Visible hostGroups row.h) ∧
        (searched search →
          Holds (ilike collation row.h.displayName (Roadmap.searchPattern (search.getD ""))))))) := by
  let params : Params := {
    orgId := queriedOrg dev orgId,major := toString major,minor := toString minor
    hostGroups := hostGroups,searchPattern := Roadmap.searchPattern (search.getD "")}
  have groups : Filters (Test.value collation params) (rhelHostGroupsFilter hostGroups)
      (fun row => hostGroups = ∅ ∨ Visible hostGroups row.h) := by
    rw [rhelHostGroupsFilter_eq]
    exact hostGroups_filters (placed_row collation params) rfl
  have version := fun row => @holds_versionMatch major minor params row rfl rfl
  have filters := versionMatch_filters.append ((lifecycleType_filters lifecycleType).append
    (groups.append (search_filters search)))
  have matched : Filters (Test.value collation params) _ (fun row =>
      Matches major minor lifecycleType row ∧ (hostGroups = ∅ ∨ Visible hostGroups row.h) ∧
      (searched search → Holds (ilike collation row.h.displayName params.searchPattern))) :=
    filters.congr (fun row => by rw [version row,← and_assoc]; exact Iff.rfl)
  exact org_keeps (placed_row collation params) matched (hosts.filterMap join)

/-- The conditions of `runQuery` are what the text of the statement says. -/
theorem inventoryRows_readInventory (includePackages : Bool) (major minor : Option Int) :
    inventoryRows collation dev orgId hostGroups hosts includePackages major minor none =
      some (readInventory dev orgId hostGroups major minor hosts) := by
  rw [inventoryRows_eq,readInventory,runQuery,select]
  congr 1
  refine List.filter_congr (fun row _ => decide_eq_decide.mpr ?_)
  let params := inventoryParams dev orgId hostGroups major minor
  have visible := holds_hostGroupsFilter hostGroups params row rfl
  have majors : (∀ fragment ∈ (if major.isSome then [Roadmap.majorFilter] else []),
      Holds (fragment params row)) ↔ ∀ value ∈ major, row.osMajor = some value := by
    cases major with
    | none => simp
    | some major =>
      simp only [Option.isSome_some,if_true,List.forall_mem_singleton,Option.mem_some_iff,forall_eq']
      exact holds_numeral row.osMajor major
  have minors : (∀ fragment ∈ (if minor.isSome then [Roadmap.minorFilter] else []),
      Holds (fragment params row)) ↔ ∀ value ∈ minor, row.osMinor = some value := by
    cases minor with
    | none => simp
    | some minor =>
      simp only [Option.isSome_some,if_true,List.forall_mem_singleton,Option.mem_some_iff,forall_eq']
      exact holds_numeral row.osMinor minor
  rw [holds_whereClause,← visible,← majors,← minors]
  simp only [Roadmap.buildHostInventoryQuery,List.forall_mem_append,List.forall_mem_singleton,Requested]
  simp [params,inventoryParams,and_assoc]

theorem rhelSystemsRows_runQuery (major minor : Int) (lifecycleType : LifecycleType) (search : Option String) :
    rhelSystemsRows collation dev orgId hostGroups hosts major minor lifecycleType search =
      some (runQuery ([Roadmap.versionMatch] ++ Roadmap.lifecycleTypeSqlFilter lifecycleType ++
        [Roadmap.hostGroupsFilter hostGroups] ++
        (if searched search then [Roadmap.searchFilter collation] else []))
        {orgId := queriedOrg dev orgId,major := toString major,minor := toString minor,
          hostGroups := hostGroups,searchPattern := Roadmap.searchPattern (search.getD "")} hosts) := by
  rw [rhelSystemsRows_eq,runQuery,select]
  congr 1
  refine List.filter_congr (fun row _ => decide_eq_decide.mpr ?_)
  let params : Params := {
    orgId := queriedOrg dev orgId,major := toString major,minor := toString minor
    hostGroups := hostGroups,searchPattern := Roadmap.searchPattern (search.getD "")}
  have visible := holds_hostGroupsFilter hostGroups params row rfl
  have version := @holds_versionMatch major minor params row rfl rfl
  have types := lifecycle_filter_exact lifecycleType params row
  rw [holds_whereClause,Matches,← version,← types,← visible]
  simp only [List.forall_mem_append,List.forall_mem_singleton,and_assoc]
  by_cases given : searched search <;> simp [given,params,Roadmap.searchFilter]

theorem inventory_hosts (includePackages : Bool) (major minor : Option Int)
    (hostIds : Option (List UUID)) :
    (inventoryRows collation dev orgId hostGroups hosts includePackages major minor hostIds).map
        (fun rows => rows.map (·.h)) =
      some (hosts.filter (fun host => decide (VisibleTo (queriedOrg dev orgId) hostGroups host ∧
        Requested hostIds host ∧ Profiled major minor host))) := by
  rw [inventoryRows_eq,Option.map_some,rows_hosts]
  congr 1
  refine List.filter_congr (fun host _ => decide_eq_decide.mpr ?_)
  rw [← join_profiled]
  constructor
  · rintro ⟨row,joined,org,major,minor,groups,ids⟩
    rw [join_host joined] at org groups ids
    exact ⟨⟨org,groups⟩,ids,row,joined,major,minor⟩
  · rintro ⟨⟨org,groups⟩,ids,row,joined,major,minor⟩
    rw [← join_host joined] at org groups ids
    exact ⟨row,joined,org,major,minor,groups,ids⟩

theorem rhelSystems_hosts (major minor : Int) (lifecycleType : LifecycleType) (search : Option String) :
    (rhelSystemsRows collation dev orgId hostGroups hosts major minor lifecycleType search).map
        (fun rows => rows.map (·.h)) =
      some (hosts.filter (fun host => decide (VisibleTo (queriedOrg dev orgId) hostGroups host ∧
        OfSystem collation major minor lifecycleType search host))) := by
  rw [rhelSystemsRows_eq,Option.map_some,rows_hosts]
  congr 1
  refine List.filter_congr (fun host _ => decide_eq_decide.mpr ?_)
  constructor
  · rintro ⟨row,joined,org,matched,groups,named⟩
    rw [join_host joined] at org groups named
    exact ⟨⟨org,groups⟩,⟨row,joined,matched⟩,named⟩
  · rintro ⟨⟨org,groups⟩,⟨row,joined,matched⟩,named⟩
    rw [← join_host joined] at org groups named
    exact ⟨row,joined,org,matched,groups,named⟩

theorem accessible_uuids :
    queryAccessibleHostUuids dev orgId hostGroups hosts = some (((hosts.filter (fun host =>
      decide (VisibleTo (queriedOrg dev orgId) hostGroups host))).mergeSort hostUuidsOrder).map (·.id)) := by
  let params := inventoryParams dev orgId hostGroups none none
  have groups : Filters (HostTest.value params) (hostGroupsFilter id hostGroups)
      (fun host => hostGroups = ∅ ∨ Visible hostGroups host) :=
    hostGroups_filters (placed_host params) rfl
  have kept := org_keeps (placed_host params) groups hosts
  rw [queryAccessibleHostUuids,buildHostUuidsQuery]
  change (keeps (HostTest.value params) _ hosts).map _ = _
  exact congrArg (Option.map _) kept

theorem ids_narrow (includePackages : Bool) (major minor : Option Int) (hostIds : List UUID) :
    inventoryRows collation dev orgId hostGroups hosts includePackages major minor (some hostIds) =
      (inventoryRows collation dev orgId hostGroups hosts includePackages major minor none).map
        (fun rows => rows.filter (fun row => decide (row.h.id ∈ hostIds))) := by
  rw [inventoryRows_eq,inventoryRows_eq,Option.map_some,List.filter_filter]
  congr 1
  refine List.filter_congr (fun row _ => ?_)
  have given : Requested (some hostIds) row.h ↔ row.h.id ∈ hostIds := by simp [Requested]
  have free : Requested none row.h := by simp [Requested]
  rw [Bool.eq_iff_iff,decide_eq_true_eq,Bool.and_eq_true,decide_eq_true_eq,decide_eq_true_eq,given]
  constructor
  · exact fun ⟨org,one,two,seen,chosen⟩ => ⟨chosen,org,one,two,seen,free⟩
  · exact fun ⟨chosen,org,one,two,seen,_⟩ => ⟨org,one,two,seen,chosen⟩

theorem no_ids (includePackages : Bool) (major minor : Option Int) :
    inventoryRows collation dev orgId hostGroups hosts includePackages major minor (some []) = some [] := by
  rw [ids_narrow,inventoryRows_eq]
  simp

theorem packages_same_rows (major minor : Option Int) (hostIds : Option (List UUID)) :
    inventoryRows collation dev orgId hostGroups hosts true major minor hostIds =
      inventoryRows collation dev orgId hostGroups hosts false major minor hostIds := by
  rw [inventoryRows_eq,inventoryRows_eq]

theorem byIds_rows (hostIds : List UUID) : ∃ rows : List Joined,
    rows.map (·.h) = hosts.filter (fun host => decide (VisibleTo (queriedOrg dev orgId) hostGroups host ∧
      host.id ∈ hostIds ∧ Profiled none none host)) ∧
    queryHostInventoryByIds collation dev orgId hostGroups hosts hostIds =
      some (rows.map Roadmap.hostsQuery) ∧
    queryHostInventoryByIdsWithoutPackages collation dev orgId hostGroups hosts hostIds =
      some (rows.map Roadmap.hostsQueryWithoutPackages) := by
  have selected := inventory_hosts collation dev orgId hostGroups hosts false none none
    (some hostIds.eraseDups)
  have same := packages_same_rows collation dev orgId hostGroups hosts none none (some hostIds.eraseDups)
  obtain ⟨rows,read,chosen⟩ := Option.map_eq_some_iff.mp selected
  refine ⟨rows,?_,?_,?_⟩
  · rw [chosen]
    refine List.filter_congr (fun host _ => ?_)
    simp [Requested]
  · rw [queryHostInventoryByIds,same,read]
    rfl
  · rw [queryHostInventoryByIdsWithoutPackages,read]
    rfl

/-- Every reader of the inventory enforces one visibility, whatever else its statement asks. -/
theorem readers_share_visibility :
    (∀ includePackages major minor hostIds,
      (inventoryRows collation dev orgId hostGroups hosts includePackages major minor hostIds).map
          (fun rows => rows.map (·.h)) =
        some (hosts.filter (fun host => decide (VisibleTo (queriedOrg dev orgId) hostGroups host ∧
          Requested hostIds host ∧ Profiled major minor host)))) ∧
    queryAccessibleHostUuids dev orgId hostGroups hosts = some (((hosts.filter (fun host =>
      decide (VisibleTo (queriedOrg dev orgId) hostGroups host))).mergeSort hostUuidsOrder).map (·.id)) ∧
    (∀ major minor lifecycleType search,
      (rhelSystemsRows collation dev orgId hostGroups hosts major minor lifecycleType search).map
          (fun rows => rows.map (·.h)) =
        some (hosts.filter (fun host => decide (VisibleTo (queriedOrg dev orgId) hostGroups host ∧
          OfSystem collation major minor lifecycleType search host)))) ∧
    (∀ hostIds, ∃ rows : List Joined,
      rows.map (·.h) = hosts.filter (fun host => decide (VisibleTo (queriedOrg dev orgId) hostGroups host ∧
        host.id ∈ hostIds ∧ Profiled none none host)) ∧
      queryHostInventoryByIds collation dev orgId hostGroups hosts hostIds =
        some (rows.map Roadmap.hostsQuery) ∧
      queryHostInventoryByIdsWithoutPackages collation dev orgId hostGroups hosts hostIds =
        some (rows.map Roadmap.hostsQueryWithoutPackages)) ∧
    (∀ includePackages major minor hostIds,
      inventoryRows collation dev orgId hostGroups hosts includePackages major minor (some hostIds) =
        (inventoryRows collation dev orgId hostGroups hosts includePackages major minor none).map
          (fun rows => rows.filter (fun row => decide (row.h.id ∈ hostIds)))) ∧
    (∀ includePackages major minor,
      inventoryRows collation dev orgId hostGroups hosts includePackages major minor (some []) = some []) ∧
    ∀ major minor hostIds, inventoryRows collation dev orgId hostGroups hosts true major minor hostIds =
      inventoryRows collation dev orgId hostGroups hosts false major minor hostIds := by
  refine ⟨?_,?_,?_,?_,?_,?_,?_⟩
  · exact inventory_hosts collation dev orgId hostGroups hosts
  · exact accessible_uuids dev orgId hostGroups hosts
  · exact rhelSystems_hosts collation dev orgId hostGroups hosts
  · exact byIds_rows collation dev orgId hostGroups hosts
  · exact ids_narrow collation dev orgId hostGroups hosts
  · exact no_ids collation dev orgId hostGroups hosts
  · exact packages_same_rows collation dev orgId hostGroups hosts

end Readers

end Roadmap.Statements
