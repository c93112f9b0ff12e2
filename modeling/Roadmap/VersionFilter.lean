import Roadmap.AppStreams.Scan
import Roadmap.Rhel.Relevant
import Roadmap.Upcoming.Relevant

/-! The major and minor parameters of the host query compare one JSON column, while the
readers of its rows resolve the version from two columns. -/
namespace Roadmap
open Sql

/-- The loops that aggregate the rows of the host query. -/
inductive Reader where
  | relevantSystems
  | systemsByAppStream
  | packagesBySystem
  deriving DecidableEq,Repr

def Reader.aggregates (reader : Reader) (system : HostRowWithPackages) : Bool :=
  match reader with
  | .relevantSystems => (counted system.toHostRow).isSome
  | .systemsByAppStream => (rhelMajorMinor system.toHostRow).isSome
  | .packagesBySystem => (hostPackages system).isSome

section Skipped

variable (systems : List HostRowWithPackages)

theorem relevantSystems_aggregated (today : Date) (table : LifecycleTable) (related : Bool) :
    relevantSystems today table related (systems.map (·.toHostRow)) = relevantSystems today table related
      ((systems.filter (Reader.aggregates .relevantSystems)).map (·.toHostRow)) := by
  have tallies : countSystems (systems.map (·.toHostRow)) =
      countSystems ((systems.filter (Reader.aggregates .relevantSystems)).map (·.toHostRow)) := by
    rw [countSystems,countSystems,List.foldl_map,List.foldl_map,List.foldl_filter]
    refine List.foldl_ext _ _ _ (fun tally system _ => ?_)
    rw [countSystem,Reader.aggregates]
    cases counted system.toHostRow <;> rfl
  rw [relevantSystems,tallies]
  rfl

theorem systemsByAppStream_aggregated (casing : Casing) (catalogue : Catalogue) :
    systemsByAppStream casing catalogue systems =
      systemsByAppStream casing catalogue (systems.filter (Reader.aggregates .systemsByAppStream)) := by
  have skips : ∀ scan system, Reader.aggregates .systemsByAppStream system = false →
      scanSystem casing catalogue scan system = .ok scan := by
    intro scan system skipped
    have absent : rhelMajorMinor system.toHostRow = none := by simpa [Reader.aggregates] using skipped
    rw [scanSystem,absent]
  rw [systemsByAppStream,Except.foldlM_skip _ skips]
  rfl

theorem packagesBySystem_aggregated : packagesBySystem systems =
    packagesBySystem (systems.filter (Reader.aggregates .packagesBySystem)) := by
  have skips : ∀ packages system, Reader.aggregates .packagesBySystem system = false →
      packagesOfSystem packages system = .ok packages := by
    intro packages system skipped
    simp only [Reader.aggregates,hostPackages,Option.isSome_eq_false_iff,Option.isNone_iff_eq_none] at skipped
    rw [packagesOfSystem]
    cases version : rhelMajorMinor system.toHostRow with
    | none => rfl
    | some found =>
      rw [version,Option.bind_some] at skipped
      split at skipped
      next empty => simp [empty]
      next => contradiction
  rw [packagesBySystem,Except.foldlM_skip _ skips]
  rfl

end Skipped

def Requested (major : Int) (minor : Option Int) (version : Int × Option Int) : Prop :=
  version.1 = major ∧ (minor = none ∨ version.2 = minor)

instance (major : Int) (minor : Option Int) (version : Int × Option Int) :
    Decidable (Requested major minor version) :=
  inferInstanceAs (Decidable (_ ∧ _))

def resolvesTo (major : Int) (minor : Option Int) (system : HostRow) : Bool :=
  (rhelMajorMinor system).any (fun version => Requested major minor version)

section Filter

variable (dev : Bool) (orgId : String) (hostGroups : Finset (Option String)) (major : Int)
  (minor : Option Int) (hosts : List HostRecord)

/-- The host has no major version of its own, and its release resolves to the requested one. -/
def OnlyInRelease (row : Joined) : Prop :=
  row.osMajor = none ∧ ∃ version, row.sps.osRelease.bind releaseVersion = some version ∧
    Requested major minor version

private def keptByColumn (row : Joined) : Bool :=
  row.osMajor = some major ∧ (minor = none ∨ row.osMinor = minor)

private theorem filtered_rows : readInventory dev orgId hostGroups (some major) minor hosts =
    (permitted dev orgId hostGroups hosts).filter (keptByColumn major minor) := by
  refine runQuery_permitted dev orgId hostGroups hosts _ _ _ rfl rfl ?_ (fun row => ?_)
  · simp [buildHostInventoryQuery]
  · have groups := holds_hostGroupsFilter hostGroups
      (inventoryParams dev orgId hostGroups (some major) minor) row rfl
    have byMajor : Holds (majorFilter (inventoryParams dev orgId hostGroups (some major) minor) row) ↔
        row.osMajor = some major := holds_numeral row.osMajor major
    cases minor with
    | none => simp [buildHostInventoryQuery,groups,byMajor,keptByColumn,and_comm]
    | some wanted =>
      have byMinor : Holds (minorFilter
          (inventoryParams dev orgId hostGroups (some major) (some wanted)) row) ↔
          row.osMinor = some wanted := holds_numeral row.osMinor wanted
      simp [buildHostInventoryQuery,groups,byMajor,byMinor,keptByColumn,and_comm,and_left_comm]

private theorem resolvesTo_iff (row : Joined) : resolvesTo major minor (hostsQueryWithoutPackages row) = true ↔
    keptByColumn major minor row = true ∨ OnlyInRelease major minor row := by
  simp only [resolvesTo,rhelMajorMinor,hostsQueryWithoutPackages,keptByColumn,OnlyInRelease]
  cases row.osMajor with
  | some osMajor =>
    simp only [Option.any_some,Requested,Option.some.injEq,reduceCtorEq,false_and,or_false]
    exact decide_eq_true_iff.trans decide_eq_true_iff.symm
  | none => simp [Option.any_eq_true]

private theorem equal_filters {α β : Type} (view : α → β) (values : List α) (first second : α → Bool)
    (implies : ∀ value ∈ values, first value = true → second value = true) :
    (values.filter first).map view = (values.filter second).map view ↔
      ∀ value ∈ values, second value = true → first value = true := by
  constructor
  · intro same
    have inside : (values.filter first).Sublist (values.filter second) := by
      have both : values.filter first = (values.filter second).filter first := by
        rw [List.filter_filter]
        refine List.filter_congr (fun value member => ?_)
        cases chosen : first value with
        | false => rfl
        | true => simp [implies value member chosen]
      exact both ▸ List.filter_sublist
    have equal := inside.eq_of_length (by simpa using congrArg List.length same)
    intro value member chosen
    exact (List.mem_filter.mp (equal ▸ List.mem_filter.mpr ⟨member,chosen⟩)).2
  · intro converse
    refine congrArg (List.map view) (List.filter_congr (fun value member => ?_))
    exact Bool.eq_iff_iff.mpr ⟨implies value member,converse value member⟩

/-- The filtered query gives a reader the rows that resolve to the requested version,
provided that none of them has its version in the release only. -/
theorem version_filter_agrees (reader : Reader) :
    (queryHostInventory dev orgId hostGroups (some major) minor hosts).filter reader.aggregates =
      (queryHostInventory dev orgId hostGroups none none hosts).filter
        (fun system => reader.aggregates system && resolvesTo major minor system.toHostRow) ↔
    ∀ row ∈ permitted dev orgId hostGroups hosts, reader.aggregates (hostsQuery row) = true →
      ¬ OnlyInRelease major minor row := by
  have left : (queryHostInventory dev orgId hostGroups (some major) minor hosts).filter reader.aggregates =
      ((permitted dev orgId hostGroups hosts).filter (fun row =>
        reader.aggregates (hostsQuery row) && keptByColumn major minor row)).map hostsQuery := by
    rw [queryHostInventory,filtered_rows,List.filter_map,List.filter_filter]
    rfl
  have right : (queryHostInventory dev orgId hostGroups none none hosts).filter
      (fun system => reader.aggregates system && resolvesTo major minor system.toHostRow) =
      ((permitted dev orgId hostGroups hosts).filter (fun row =>
        reader.aggregates (hostsQuery row) &&
          resolvesTo major minor (hostsQueryWithoutPackages row))).map hostsQuery := by
    rw [queryHostInventory,List.filter_map]
    rfl
  rw [left,right,equal_filters]
  · refine forall₂_congr (fun row _ => ?_)
    simp only [Bool.and_eq_true,resolvesTo_iff]
    have apart : OnlyInRelease major minor row → ¬ keptByColumn major minor row = true := by
      rintro ⟨absent,-⟩ kept
      simp [keptByColumn,absent] at kept
    constructor
    · exact fun same aggregated only => apart only (same ⟨aggregated,.inr only⟩).2
    · exact fun never ⟨aggregated,resolves⟩ => ⟨aggregated,resolves.resolve_right (never aggregated)⟩
  · intro row _ kept
    simp only [Bool.and_eq_true,resolvesTo_iff] at kept ⊢
    exact ⟨kept.1,.inl kept.2⟩

end Filter

private def releaseOnlyHost : HostRecord where
  id := ⟨1⟩
  orgId := "1234"
  displayName := "host"
  groups := []
  static := some ⟨"1234",some ⟨some "RHEL",none,none⟩,some "9.2",none⟩
  dynamic := some ⟨"1234",some ["bash-0:5.1-1.el9.x86_64"],none⟩

/-- Every reader loses a host of RHEL 9 whose version is in the release only. -/
theorem release_only_lost : ¬ ∃ reader : Reader,
    (queryHostInventory false "1234" ∅ (some 9) none [releaseOnlyHost]).filter reader.aggregates =
      (queryHostInventory false "1234" ∅ none none [releaseOnlyHost]).filter
        (fun system => reader.aggregates system && resolvesTo 9 none system.toHostRow) := by
  rintro ⟨reader,kept⟩
  revert kept
  cases reader <;> decide

end Roadmap
