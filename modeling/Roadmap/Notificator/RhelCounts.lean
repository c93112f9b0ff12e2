import Roadmap.Notificator.Rhel

/-! The RHEL sections counted over the hosts of the inventory. -/
namespace Roadmap
namespace Notificator

/-- The version and lifecycle type of a host; `none` where its version cannot be told. -/
def releaseOf (system : HostRow) : Option (Int × Option Int × LifecycleType) :=
  (rhelMajorMinor system).map (fun version =>
    (version.1,version.2,getLifecycleType (productsOr system.products)))

def rhelCount (release : Int × Option Int × LifecycleType) : HostCount :=
  ⟨"RHEL",release.1,release.2.1,release.2.2⟩

section Hosts

variable (today : Date)

/-- A RHEL host of a version that can be told, with a status by the dates of its version and
lifecycle type. -/
def hostIn (status : SupportStatus) (system : HostRow) : Bool :=
  decide (system.osName = some "RHEL") &&
    (releaseOf system).any (fun release => rowStatus today (rhelCount release) = status)

theorem hostIn_unique {first second : SupportStatus} {system : HostRow}
    (inFirst : hostIn today first system = true) (inSecond : hostIn today second system = true) :
    first = second := by
  simp only [hostIn,Bool.and_eq_true,Option.any_eq_true,decide_eq_true_eq] at inFirst inSecond
  obtain ⟨-,release,found,rfl⟩ := inFirst
  obtain ⟨-,other,same,rfl⟩ := inSecond
  rw [Option.some.inj (found.symm.trans same)]

/-- The end date of a release that a host of a lifecycle type is judged by, if there is one. -/
def JudgedBy (lifecycleInfo : RHELLifecycle) (endDate : Date) : LifecycleType → Prop
  | .mainline => lifecycleInfo.endDate = endDate
  | .eus => lifecycleInfo.endDateEus = some endDate
  | .els => lifecycleInfo.endDateEls = some endDate
  | .e4s => lifecycleInfo.endDateE4s = some endDate

theorem endDateOf_on (lifecycleInfo : RHELLifecycle) (endDate : Date) (lifecycle : LifecycleType) :
    lifecycleInfo.endDateOf lifecycle = .on endDate ↔ JudgedBy lifecycleInfo endDate lifecycle := by
  have known : ∀ date : Option Date, LifecycleDate.ofOption date = .on endDate ↔ date = some endDate := by
    intro date
    cases date <;> simp [LifecycleDate.ofOption]
  cases lifecycle with
  | mainline => simp [RHELLifecycle.endDateOf,JudgedBy]
  | eus => exact known _
  | els => exact known _
  | e4s => exact known _

private theorem status_listed {status : SupportStatus} (listed : status ∈ notifyStatuses) (start : Date)
    (endDate : LifecycleDate) : calculateSupportStatus (.on start) endDate today 3 = status ↔
      ¬ today < start ∧ ∃ date, endDate = .on date ∧ (status = .retired ∧ date < today ∨
        status = .nearRetirement ∧ ¬ date < today ∧ expires date today 3) := by
  have told : status = .retired ∨ status = .nearRetirement := by simpa [notifyStatuses] using listed
  by_cases future : today < start
  · rcases told with rfl | rfl <;> simp [calculateSupportStatus,future]
  cases endDate with
  | missing => rcases told with rfl | rfl <;> simp [calculateSupportStatus,future]
  | unknown => rcases told with rfl | rfl <;> simp [calculateSupportStatus,future]
  | on date =>
    by_cases ended : date < today
    · rcases told with rfl | rfl <;> simp [calculateSupportStatus,future,ended]
    by_cases near : expires date today 3
    · rcases told with rfl | rfl <;> simp [calculateSupportStatus,future,ended,near]
    · rcases told with rfl | rfl <;> simp [calculateSupportStatus,future,ended,near]

/-- A host is retired after its end date, and near retirement for ninety days before it. -/
theorem hostIn_iff {status : SupportStatus} (listed : status ∈ notifyStatuses) (system : HostRow) :
    hostIn today status system = true ↔ system.osName = some "RHEL" ∧
      ∃ osMajor osMinor lifecycleInfo endDate, rhelMajorMinor system = some (osMajor,osMinor) ∧
        osLifecycleDates.dates.get? (versionKey osMajor osMinor) = some lifecycleInfo ∧
        JudgedBy lifecycleInfo endDate (getLifecycleType (productsOr system.products)) ∧
        ¬ today < lifecycleInfo.startDate ∧
        (status = .retired ∧ endDate < today ∨
          status = .nearRetirement ∧ ¬ endDate < today ∧ endDate.toOrdinal - 90 ≤ today.toOrdinal) := by
  have other : SupportStatus.unknown ≠ status := fun same => absurd listed (by rw [← same]; decide)
  rw [hostIn,releaseOf,Bool.and_eq_true,decide_eq_true_eq]
  refine and_congr_right (fun _ => ?_)
  cases version : rhelMajorMinor system with
  | none => simp
  | some found =>
    obtain ⟨osMajor,osMinor⟩ := found
    simp only [Option.map_some,Option.any_some,decide_eq_true_eq,Option.some.injEq,Prod.mk.injEq]
    let countKey := rhelCount (osMajor,osMinor,getLifecycleType (productsOr system.products))
    cases known : osLifecycleDates.dates.get? (versionKey osMajor osMinor) with
    | none =>
      have unknown : rowStatus today countKey = .unknown := by
        have dates : lifecycleDates osLifecycleDates countKey = (.unknown,.unknown) := by
          unfold lifecycleDates
          rw [show osLifecycleDates.dates.get? countKey.key = none from known]
        simp [rowStatus,dates,calculateSupportStatus]
      refine iff_of_false (fun same => other (unknown.symm.trans same)) ?_
      rintro ⟨major,minor,lifecycleInfo,endDate,⟨rfl,rfl⟩,filed,-⟩
      cases known.symm.trans filed
    | some lifecycleInfo =>
      have status : rowStatus today countKey = calculateSupportStatus (.on lifecycleInfo.startDate)
          (lifecycleInfo.endDateOf (getLifecycleType (productsOr system.products))) today 3 := by
        unfold rowStatus lifecycleDates
        rw [show osLifecycleDates.dates.get? countKey.key = some lifecycleInfo from known]
        rfl
      rw [show rowStatus today (rhelCount (osMajor,osMinor,getLifecycleType (productsOr system.products))) = _
        from status,status_listed today listed]
      simp only [endDateOf_on]
      constructor
      · rintro ⟨started,endDate,judged,told⟩
        exact ⟨osMajor,osMinor,lifecycleInfo,endDate,⟨rfl,rfl⟩,known,judged,started,told⟩
      · rintro ⟨major,minor,other,endDate,⟨rfl,rfl⟩,filed,judged,started,told⟩
        cases known.symm.trans filed
        exact ⟨started,endDate,judged,told⟩

theorem hostIn_counted (status : SupportStatus) (system : HostRow) : hostIn today status system =
    (counted system).any (fun host => countsFor today status host.1) := by
  unfold hostIn releaseOf counted
  cases named : system.osName with
  | none => simp
  | some osName =>
    cases version : rhelMajorMinor system with
    | none => simp
    | some version' =>
      by_cases rhel : osName = "RHEL"
      · subst rhel
        simp only [countsFor,Option.map_some,Option.any_some,decide_true,Bool.true_and,true_and]
        rfl
      · simp [rhel,countsFor]

variable (systems : List HostRow) {status : SupportStatus}

theorem hosts_length : ((countedHosts systems).filter (fun host => countsFor today status host.1)).length =
    (systems.filter (hostIn today status)).length := by
  rw [countedHosts,List.filter_filterMap,List.length_filterMap_eq_countP,List.countP_eq_length_filter]
  refine congrArg List.length (List.filter_congr (fun system _ => ?_))
  rw [hostIn_counted]
  cases counted system with
  | none => rfl
  | some host => cases chosen : countsFor today status host.1 <;> simp [chosen]

theorem counted_release (system : HostRow) (release : Int × Option Int × LifecycleType) :
    system.osName = some "RHEL" ∧ releaseOf system = some release ↔
      ∃ info, counted system = some (rhelCount release,info) := by
  obtain ⟨osMajor,osMinor,lifecycle⟩ := release
  simp only [counted_iff,hostOf,rhelCount,releaseOf,Option.map_eq_some_iff]
  constructor
  · rintro ⟨rhel,⟨major,minor⟩,version,same⟩
    cases same
    exact ⟨_,⟨rhel,version,rfl⟩,rfl⟩
  · rintro ⟨_,⟨rhel,version,type⟩,-⟩
    exact ⟨rhel,_,version,by rw [type]⟩

theorem mem_releases (release : Int × Option Int × LifecycleType) :
    release ∈ (systems.filter (hostIn today status)).filterMap releaseOf ↔
      rhelCount release ∈ (countSystems systems).systemCounts.keys ∧
        countsFor today status (rhelCount release) = true := by
  have chosen : ∀ system info, counted system = some (rhelCount release,info) →
      hostIn today status system = countsFor today status (rhelCount release) := by
    intro system info host
    rw [hostIn_counted,host]
    rfl
  simp only [List.mem_filterMap,List.mem_filter,mem_countKeys,countedHosts]
  constructor
  · rintro ⟨system,⟨present,inside⟩,found⟩
    have rhel : system.osName = some "RHEL" := by
      simp only [hostIn,Bool.and_eq_true,decide_eq_true_eq] at inside
      exact inside.1
    obtain ⟨info,host⟩ := (counted_release system release).mp ⟨rhel,found⟩
    exact ⟨⟨_,⟨system,present,host⟩,rfl⟩,by rw [← chosen system info host,inside]⟩
  · rintro ⟨⟨⟨countKey,info⟩,⟨system,present,host⟩,rfl⟩,wanted⟩
    obtain ⟨-,found⟩ := (counted_release system release).mpr ⟨info,host⟩
    exact ⟨system,⟨present,by rw [chosen system info host,wanted]⟩,found⟩

theorem rhelCount_injective : Function.Injective rhelCount := by
  rintro ⟨_,_,_⟩ ⟨_,_,_⟩ same
  cases same
  rfl

/-- The rows of a section have one release each. -/
theorem versions_length :
    ((relevantSystems today osLifecycleDates false systems).data.filter (inSection status)).length =
      ((systems.filter (hostIn today status)).filterMap releaseOf).toFinset.card := by
  let keys := (countSystems systems).systemCounts.keys
  have rows : ((relevantSystems today osLifecycleDates false systems).data.filter (inSection status)).length =
      (keys.filter (countsFor today status)).length := by
    rw [← data_installed,List.filter_congr (fun row member => inSection_installed today systems status member),
      ← (installed_keys today osLifecycleDates false systems |>.filter _).length_eq,List.filter_map,
      List.length_map]
    rfl
  have releases : (keys.filter (countsFor today status)).toFinset =
      ((systems.filter (hostIn today status)).filterMap releaseOf).toFinset.image rhelCount := by
    ext countKey
    simp only [List.mem_toFinset,List.mem_filter,Finset.mem_image,mem_releases today systems]
    constructor
    · rintro ⟨listed,wanted⟩
      obtain ⟨name,major,minor,lifecycle⟩ := countKey
      have rhel : name = "RHEL" := (of_decide_eq_true wanted).1
      subst rhel
      exact ⟨(major,minor,lifecycle),⟨listed,wanted⟩,rfl⟩
    · rintro ⟨release,inside,rfl⟩
      exact inside
  have distinct : (keys.filter (countsFor today status)).Nodup := (Dict.keys_nodup _).filter _
  rw [rows,← List.toFinset_card_of_nodup distinct,releases,
    Finset.card_image_of_injective _ rhelCount_injective]

theorem get?_getRelevantRhel (listed : status ∈ notifyStatuses) :
    (getRelevantRhel today systems).get? (rhelKey status) = some
      ⟨((systems.filter (hostIn today status)).filterMap releaseOf).toFinset.card,
        (systems.filter (hostIn today status)).length⟩ := by
  have empty : ∀ status ∈ notifyStatuses, emptyRhelSections.get? (rhelKey status) = some {} := by decide
  have versions := get?_countRhels listed (relevantSystems today osLifecycleDates false systems).data
    (empty status listed)
  have hosts := systemsCount_eq today systems listed
  rw [systemsCount,getRelevantRhel,versions] at hosts
  rw [getRelevantRhel,versions,← versions_length,← hosts_length,← hosts]
  simp

theorem get?_countRhel_other {key : String} (other : ∀ status ∈ notifyStatuses, rhelKey status ≠ key)
    (rows : List System) (sections : Dict String RhelSection) :
    (rows.foldl countRhel sections).get? key = sections.get? key := by
  induction rows generalizing sections with
  | nil => rfl
  | cons row rest ih =>
    rw [List.foldl_cons,ih]
    unfold countRhel
    split
    · rfl
    · split
      next notified => simp [other _ notified]
      next => rfl

theorem get?_getRelevantRhel_other {key : String} (other : ∀ status ∈ notifyStatuses, rhelKey status ≠ key) :
    (getRelevantRhel today systems).get? key = none := by
  have retired := other .retired (by decide)
  have near := other .nearRetirement (by decide)
  rw [getRelevantRhel,get?_countRhel_other other]
  simp [emptyRhelSections,notifyStatuses,retired,near]

/-- The sections depend on the hosts in them alone. -/
theorem getRelevantRhel_congr {others : List HostRow}
    (same : ∀ status ∈ notifyStatuses, systems.filter (hostIn today status) = others.filter (hostIn today status))
    (key : String) : (getRelevantRhel today systems).get? key = (getRelevantRhel today others).get? key := by
  by_cases listed : ∃ status ∈ notifyStatuses, rhelKey status = key
  · obtain ⟨status,member,rfl⟩ := listed
    rw [get?_getRelevantRhel today systems member,get?_getRelevantRhel today others member,same status member]
  · have other : ∀ status ∈ notifyStatuses, rhelKey status ≠ key :=
      fun status member equal => listed ⟨status,member,equal⟩
    rw [get?_getRelevantRhel_other today systems other,get?_getRelevantRhel_other today others other]

end Hosts

theorem rhel_notification_counts (today : Date) (systems : List HostRow) :
    (∀ status ∈ notifyStatuses, (getRelevantRhel today systems).get? (rhelKey status) = some
      ⟨((systems.filter (hostIn today status)).filterMap releaseOf).toFinset.card,
        (systems.filter (hostIn today status)).length⟩) ∧
    (∀ system first second, hostIn today first system = true → hostIn today second system = true →
      first = second) ∧
    (∀ status ∈ notifyStatuses, ∀ earlier system later, systemsCount today (earlier ++ system :: later) status =
      systemsCount today (earlier ++ later) status + if hostIn today status system then 1 else 0) ∧
    ∀ earlier system later, system.osName ≠ some "RHEL" → ∀ key,
      (getRelevantRhel today (earlier ++ system :: later)).get? key =
        (getRelevantRhel today (earlier ++ later)).get? key := by
  refine ⟨fun status listed => get?_getRelevantRhel today systems listed,
    fun system first second => hostIn_unique today,?_,?_⟩
  · intro status listed earlier system later
    have counts := fun systems => (systemsCount_eq today systems listed).trans (hosts_length today systems)
    rw [counts,counts,List.filter_append,List.filter_append,List.filter_cons,List.length_append,
      List.length_append]
    cases inside : hostIn today status system <;> simp [Nat.add_assoc]
  · intro earlier system later other key
    refine getRelevantRhel_congr today _ (fun status _ => ?_) key
    have outside : hostIn today status system = false := by simp [hostIn,other]
    rw [List.filter_append,List.filter_append,List.filter_cons_of_neg (by simp [outside])]

end Notificator
end Roadmap
