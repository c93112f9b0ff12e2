import Roadmap.Rhel.Integrity

/-! The RHEL sections of the lifecycle report: versions and hosts that are retired or near
retirement. -/
namespace Roadmap
namespace Notificator

def notifyStatuses : List SupportStatus := [.retired,.nearRetirement]

def statusName : SupportStatus → String
  | .supported => "supported"
  | .nearRetirement => "near_retirement"
  | .retired => "retired"
  | .notInstalled => "not_installed"
  | .upcoming => "upcoming"
  | .unknown => "unknown"

structure RhelSection where
  rhelVersionsCount : Nat := 0
  systemsCount : Nat := 0
  deriving DecidableEq

def RhelSection.add (counts : RhelSection) (system : System) : RhelSection :=
  ⟨counts.rhelVersionsCount + 1,counts.systemsCount + system.count⟩

def rhelKey (status : SupportStatus) : String := "rhel_" ++ statusName status

def emptyRhelSections : Dict String RhelSection :=
  notifyStatuses.foldl (fun sections status => sections.set (rhelKey status) {}) .empty

def countRhel (sections : Dict String RhelSection) (system : System) : Dict String RhelSection :=
  if system.name ≠ "RHEL" then sections
  else if system.supportStatus ∈ notifyStatuses then
    sections.update (fun old => (old.getD {}).add system) (rhelKey system.supportStatus)
  else sections

def getRelevantRhel (today : Date) (systems : List HostRow) : Dict String RhelSection :=
  (relevantSystems today osLifecycleDates false systems).data.foldl countRhel emptyRhelSections

def systemsCount (today : Date) (systems : List HostRow) (status : SupportStatus) : Nat :=
  (((getRelevantRhel today systems).get? (rhelKey status)).getD {}).systemsCount

theorem rhelKey_inj : ∀ first ∈ notifyStatuses, ∀ second ∈ notifyStatuses,
    rhelKey first = rhelKey second → first = second := by
  decide

def inSection (status : SupportStatus) (system : System) : Bool :=
  decide (system.name = "RHEL" ∧ system.supportStatus = status)

theorem get?_countRhel {status : SupportStatus} (listed : status ∈ notifyStatuses)
    {sections : Dict String RhelSection} {counts : RhelSection}
    (held : sections.get? (rhelKey status) = some counts) (system : System) :
    (countRhel sections system).get? (rhelKey status) =
      some (if inSection status system then counts.add system else counts) := by
  unfold countRhel inSection
  by_cases other : system.name ≠ "RHEL"
  · simp [other,held]
  rw [not_not] at other
  by_cases notified : system.supportStatus ∈ notifyStatuses
  · by_cases same : system.supportStatus = status
    · simp [other,same,listed,held]
    · have apart : rhelKey system.supportStatus ≠ rhelKey status :=
        fun equal => same (rhelKey_inj _ notified _ listed equal)
      simp [other,notified,same,apart,held]
  · have same : system.supportStatus ≠ status := fun equal => notified (equal ▸ listed)
    simp [other,notified,same,held]

theorem get?_countRhels {status : SupportStatus} (listed : status ∈ notifyStatuses) (systems : List System)
    {sections : Dict String RhelSection} {counts : RhelSection}
    (held : sections.get? (rhelKey status) = some counts) :
    (systems.foldl countRhel sections).get? (rhelKey status) = some
      ⟨counts.rhelVersionsCount + (systems.filter (inSection status)).length,
        counts.systemsCount + ((systems.filter (inSection status)).map (·.count)).sum⟩ := by
  induction systems generalizing sections counts with
  | nil => exact held
  | cons system rest ih =>
    rw [List.foldl_cons,ih (get?_countRhel listed held system),List.filter_cons]
    cases inside : inSection status system with
    | true => simp [RhelSection.add,Nat.add_assoc,Nat.add_comm 1]
    | false => simp

def rowStatus (today : Date) (countKey : HostCount) : SupportStatus :=
  let dates := lifecycleDates osLifecycleDates countKey
  calculateSupportStatus dates.1 dates.2 today 3

def countsFor (today : Date) (status : SupportStatus) (countKey : HostCount) : Bool :=
  decide (countKey.name = "RHEL" ∧ rowStatus today countKey = status)

variable (today : Date) (systems : List HostRow)

theorem data_installed : (relevantSystems today osLifecycleDates false systems).installed =
    (relevantSystems today osLifecycleDates false systems).data := by
  refine List.filter_eq_self.mpr (fun row member => ?_)
  obtain ⟨entry,-,rfl⟩ := List.mem_map.mp ((List.mergeSort_perm _ _).mem_iff.mp member)
  rfl

theorem inSection_installed (status : SupportStatus) {row : System}
    (member : row ∈ (relevantSystems today osLifecycleDates false systems).installed) :
    inSection status row = countsFor today status row.rowKey := by
  obtain ⟨countKey,found,rfl⟩ := (mem_installed today osLifecycleDates false systems row).mp member
  have used : (hostsCounted systems countKey).length ≠ 0 := fun empty => found (List.length_eq_zero_iff.mp empty)
  have status : (installedSystem today osLifecycleDates (countSystems systems)
      (countKey,(hostsCounted systems countKey).length)).supportStatus = rowStatus today countKey := if_neg used
  rw [inSection,status]
  rfl

theorem systemsCount_eq {status : SupportStatus} (listed : status ∈ notifyStatuses) :
    systemsCount today systems status =
      ((countedHosts systems).filter (fun host => countsFor today status host.1)).length := by
  have empty : ∀ status ∈ notifyStatuses, emptyRhelSections.get? (rhelKey status) = some {} := by decide
  have rows := List.filter_congr (fun row member => inSection_installed today systems status member)
  rw [systemsCount,getRelevantRhel,get?_countRhels listed _ (empty status listed),← data_installed,rows,
    ← installed_sum today osLifecycleDates false systems]
  exact Nat.zero_add _

/-- One more host of the inventory counts where the status of its row says. -/
theorem systemsCount_insert {status : SupportStatus} (listed : status ∈ notifyStatuses)
    (before after : List HostRow) {system : HostRow} {countKey : HostCount} {info : SystemInfo}
    (host : counted system = some (countKey,info)) :
    systemsCount today (before ++ system :: after) status =
      systemsCount today (before ++ after) status + if countsFor today status countKey then 1 else 0 := by
  have inserted : countedHosts (system :: after) = (countKey,info) :: countedHosts after :=
    List.filterMap_cons_some host
  rw [systemsCount_eq today _ listed,systemsCount_eq today _ listed,countedHosts_append,countedHosts_append,
    inserted,List.filter_append,List.filter_append,List.filter_cons]
  cases chosen : countsFor today status countKey with
  | true => simp [Nat.add_assoc]
  | false => simp

/-- The list shows the host, in the row of its name, version and lifecycle type, with this status. -/
def ShownWith (system : HostRow) (status : SupportStatus) : Prop :=
  ∃ row ∈ (relevantSystems today osLifecycleDates false systems).data, ∃ info,
    counted system = some (row.rowKey,info) ∧ info ∈ row.systemsDetail ∧ row.supportStatus = status

theorem shown_counted {system : HostRow} (member : system ∈ systems) {countKey : HostCount} {info : SystemInfo}
    (host : counted system = some (countKey,info)) : ShownWith today systems system (rowStatus today countKey) := by
  have present : (countKey,info) ∈ countedHosts systems := List.mem_filterMap.mpr ⟨system,member,host⟩
  have used : hostsCounted systems countKey ≠ [] := List.ne_nil_of_mem ((mem_hostsCounted _ _ _).mpr present)
  refine ⟨installedSystem today osLifecycleDates (countSystems systems)
    (countKey,(hostsCounted systems countKey).length),?_,info,host,?_,?_⟩
  · rw [← data_installed]
    exact (mem_installed today osLifecycleDates false systems _).mpr ⟨countKey,used,rfl⟩
  · exact (mem_systemsDetail systems _ info).mpr ⟨(countKey,info),present,rfl,rfl⟩
  · exact if_neg (fun empty => used (List.length_eq_zero_iff.mp empty))

/-- A RHEL host of a version in the table, all of whose known end dates have passed: that of
mainline support and, where there is one, that of the host's own lifecycle type. -/
structure EndDatesPassed (system : HostRow) (lifecycleInfo : RHELLifecycle) : Prop where
  rhel : system.osName = some "RHEL"
  version : ∃ osMajor osMinor, rhelMajorMinor system = some (osMajor,osMinor) ∧
    osLifecycleDates.dates.get? (versionKey osMajor osMinor) = some lifecycleInfo
  mainline : lifecycleInfo.endDate < today
  own : ∀ endDate, lifecycleInfo.endDateOf (getLifecycleType (productsOr system.products)) = .on endDate →
    endDate < today

theorem starts_before_end : ∀ entry ∈ osLifecycleDates.dates.items, entry.2.startDate ≤ entry.2.endDate := by
  decide

/-- The host is counted as retired if the table knows the end date of its lifecycle type;
else its status is unknown and it is in no section. -/
theorem retired_host_counted (before after : List HostRow) {system : HostRow} {lifecycleInfo : RHELLifecycle}
    (passed : EndDatesPassed today system lifecycleInfo) :
    ((∃ endDate, lifecycleInfo.endDateOf (getLifecycleType (productsOr system.products)) = .on endDate) →
      systemsCount today (before ++ system :: after) .retired =
        systemsCount today (before ++ after) .retired + 1) ∧
    ((¬ ∃ endDate, lifecycleInfo.endDateOf (getLifecycleType (productsOr system.products)) = .on endDate) →
      ShownWith today (before ++ system :: after) system .unknown ∧
        ∀ status ∈ notifyStatuses, systemsCount today (before ++ system :: after) status =
          systemsCount today (before ++ after) status) := by
  obtain ⟨osMajor,osMinor,version,known⟩ := passed.version
  let countKey : HostCount := ⟨"RHEL",osMajor,osMinor,getLifecycleType (productsOr system.products)⟩
  have host : counted system = some (countKey,⟨system.id,system.displayName,osMajor,osMinor⟩) := by
    simp only [counted,passed.rhel,version]
    rfl
  have started : ¬ today < lifecycleInfo.startDate := by
    have listed := (Dict.mem_items _ (_,_)).mpr known
    exact Date.not_lt_of_le_of_lt (starts_before_end _ listed) passed.mainline
  have dates : lifecycleDates osLifecycleDates countKey = (.on lifecycleInfo.startDate,
      lifecycleInfo.endDateOf (getLifecycleType (productsOr system.products))) := by
    unfold lifecycleDates
    rw [show osLifecycleDates.dates.get? countKey.key = some lifecycleInfo from known]
  constructor
  · intro ⟨endDate,own⟩
    have retired : rowStatus today countKey = .retired := by
      simp [rowStatus,dates,calculateSupportStatus,started,own,passed.own endDate own]
    rw [systemsCount_insert today (by decide) before after host,countsFor,retired]
    rfl
  · intro missing
    have unknown : rowStatus today countKey = .unknown := by
      cases own : lifecycleInfo.endDateOf (getLifecycleType (productsOr system.products)) with
      | on endDate => exact absurd ⟨endDate,own⟩ missing
      | missing => simp [rowStatus,dates,calculateSupportStatus,started,own]
      | unknown => simp [rowStatus,dates,calculateSupportStatus,started,own]
    refine ⟨unknown ▸ shown_counted today _ (by simp) host,fun status listed => ?_⟩
    have other : status ≠ .unknown := fun equal => absurd listed (by rw [equal]; decide)
    rw [systemsCount_insert today listed before after host,countsFor,unknown]
    simp [other.symm]

private def rhel83 : RHELLifecycle where
  major := 8
  minor := some 3
  startDate := .mk 2020 11 3
  endDate := .mk 2021 5 31

private def host83 (product : String) : HostRow :=
  ⟨⟨1⟩,"host",some "RHEL",some 8,some 3,none,some [⟨some product⟩]⟩

private theorem host83_passed (product : String) : EndDatesPassed (.mk 2026 1 1) (host83 product) rhel83 where
  rhel := rfl
  version := ⟨8,some 3,rfl,by decide⟩
  mainline := by decide
  own := by
    intro endDate own
    generalize getLifecycleType (productsOr (host83 product).products) = type at own
    cases type with
    | mainline =>
      cases own
      decide
    | _ => cases own

theorem retired_host_counted_rhel83 :
    systemsCount (.mk 2026 1 1) ([] ++ host83 "479" :: []) .retired =
      systemsCount (.mk 2026 1 1) ([] ++ []) .retired + 1 ∧
    ShownWith (.mk 2026 1 1) ([] ++ host83 "70" :: []) (host83 "70") .unknown := by
  have missing : rhel83.endDateOf (getLifecycleType (productsOr (host83 "70").products)) = .missing := by decide
  refine ⟨(retired_host_counted (.mk 2026 1 1) [] [] (host83_passed "479")).1 ⟨.mk 2021 5 31,by decide⟩,
    ((retired_host_counted (.mk 2026 1 1) [] [] (host83_passed "70")).2 ?_).1⟩
  rintro ⟨endDate,own⟩
  cases missing.symm.trans own

/-- RHEL 8.3 has no EUS, so a host with an EUS product has no end date there. -/
theorem eus_without_date_missed : EndDatesPassed (.mk 2026 1 1) (host83 "70") rhel83 ∧
    systemsCount (.mk 2026 1 1) [host83 "70"] .retired = 0 := by
  refine ⟨host83_passed "70",?_⟩
  rw [systemsCount_eq _ _ (by decide)]
  decide

end Notificator
end Roadmap
