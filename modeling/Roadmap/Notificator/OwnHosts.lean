import Roadmap.Api.Isolation
import Roadmap.Notificator.Payload
import Roadmap.Notificator.Sent

/-! The payloads of a run, read from the inventory: an organisation is told about its own hosts,
whatever the hosts of the others are. -/
namespace Roadmap
namespace Notificator

/-- What the notificator reads beside the inventory; the clock and the random ids are those of
the turn of an organisation. -/
structure Notifier where
  service : Service
  today : (place : Nat) → Date
  now : (place : Nat) → DateTime
  uuids : (place : Nat) → Uuids
  order : SetOrder String

/-- The `wide exception` keeps no more than its name. -/
def exceptionOf : PyError → PyException
  | .httpException _ detail => .other ("HTTPException: " ++ detail)
  | .attributeError => .other "AttributeError"
  | .keyError => .other "KeyError"
  | .typeError => .other "TypeError"
  | .valueError => .other "ValueError"

section Payloads

variable (notifier : Notifier) (hosts : List HostRecord) (place : Nat) (orgId : Int) (forceEmail : Bool)

/-- The notificator reads as if it may see the whole organisation. -/
def reader : Caller := ⟨toString orgId,∅⟩

def getRelevantRhelOf : Except PyError (Dict String RhelSection) :=
  (notifier.service.hostInventoryWithoutPackages (reader orgId) hosts ⟨none,none⟩).map
    (getRelevantRhel (notifier.today place))

def getRelevantAppstreamsOf : Except PyError AppstreamSections := do
  let systems ← notifier.service.hostInventory (reader orgId) hosts ⟨none,none⟩
  let systemsByStream ← systemsByAppStream notifier.service.casing notifier.service.catalogue systems
  return getRelevantAppstreams notifier.order systemsByStream

def getRelevantUpcomingOf : Except PyError (Dict UpcomingType Nat) := do
  let systems ← notifier.service.hostInventory (reader orgId) hosts ⟨none,none⟩
  getRelevantUpcoming notifier.service.upcomingFile systems (notifier.today place)

def getLifecycleNotification : Except PyError Notification := do
  let rhelGrouped ← getRelevantRhelOf notifier hosts place orgId
  let appstreamGrouped ← getRelevantAppstreamsOf notifier hosts orgId
  return buildLifecycleNotificationPayload (notifier.uuids place) (notifier.now place) forceEmail rhelGrouped
    appstreamGrouped (toString orgId) "retiring-lifecycle-monthly-report"

def getRoadmapNotification : Except PyError Notification := do
  let upcomingCounts ← getRelevantUpcomingOf notifier hosts place orgId
  return buildRoadmapNotificationPayload (notifier.uuids place) (notifier.now place) forceEmail upcomingCounts
    (toString orgId)

end Payloads

/-- The world of a notificator with these hosts in its database. -/
def World.reading {Message : Type} (outside : World Notification Message) (notifier : Notifier)
    (hosts : List HostRecord) : World Notification Message :=
  {outside with
    lifecyclePayload := fun place orgId forceEmail =>
      (getLifecycleNotification notifier hosts place orgId forceEmail).mapError exceptionOf
    roadmapPayload := fun place orgId forceEmail =>
      (getRoadmapNotification notifier hosts place orgId forceEmail).mapError exceptionOf}

/-- The hosts that the queries for an organisation reach; in dev mode they read the local org. -/
def ownHosts (notifier : Notifier) (orgId : Int) (hosts : List HostRecord) : List HostRecord :=
  hosts.filter (fun host => host.orgId = queriedOrg notifier.service.dev (toString orgId))

section Own

variable (notifier : Notifier) (hosts : List HostRecord) (place : Nat) (orgId : Int) (forceEmail : Bool)

theorem visible_own : notifier.service.visible (reader orgId) hosts = ownHosts notifier orgId hosts := by
  refine List.filter_congr (fun host _ => decide_eq_decide.mpr ?_)
  exact ⟨fun seen => seen.1,fun own => ⟨own,Or.inl rfl⟩⟩

theorem hostInventory_own (version : Version) : notifier.service.hostInventory (reader orgId) hosts version =
    notifier.service.hostInventory (reader orgId) (ownHosts notifier orgId hosts) version := by
  rw [← visible_own]
  exact notifier.service.hostInventory_visible (reader orgId) hosts version

theorem hostInventoryWithoutPackages_own (version : Version) :
    notifier.service.hostInventoryWithoutPackages (reader orgId) hosts version =
      notifier.service.hostInventoryWithoutPackages (reader orgId) (ownHosts notifier orgId hosts) version := by
  rw [← visible_own]
  exact notifier.service.hostInventoryWithoutPackages_visible (reader orgId) hosts version

theorem getLifecycleNotification_own : getLifecycleNotification notifier hosts place orgId forceEmail =
    getLifecycleNotification notifier (ownHosts notifier orgId hosts) place orgId forceEmail := by
  simp only [getLifecycleNotification,getRelevantRhelOf,getRelevantAppstreamsOf,
    hostInventory_own notifier hosts,hostInventoryWithoutPackages_own notifier hosts]

theorem getRoadmapNotification_own : getRoadmapNotification notifier hosts place orgId forceEmail =
    getRoadmapNotification notifier (ownHosts notifier orgId hosts) place orgId forceEmail := by
  simp only [getRoadmapNotification,getRelevantUpcomingOf,hostInventory_own notifier hosts]

end Own

section Isolation

variable {Message : Type} (outside : World Notification Message) (notifier : Notifier) (hosts : List HostRecord)
  (dryRun forceEmail : Bool)

/-- The report reads the hosts of an organisation only. -/
def ReadsOwn (report : Report) : Prop := ∀ org : Int × Nat,
  built (outside.reading notifier hosts) report forceEmail org =
    built (outside.reading notifier (ownHosts notifier org.1 hosts)) report forceEmail org ∧
  ∀ payload, built (outside.reading notifier hosts) report forceEmail org = .ok payload →
    payload.orgId = toString org.1

theorem lifecycle_readsOwn : ReadsOwn outside notifier hosts forceEmail lifecycleReport := by
  intro org
  refine ⟨?_,fun payload ready => ?_⟩
  · have own := getLifecycleNotification_own notifier hosts org.2 org.1 forceEmail
    simp only [built,lifecycleReport,World.reading]
    rw [own]
  · obtain ⟨_,-,made⟩ := Except.bind_ok.mp ready
    obtain ⟨_,-,rest⟩ := Except.bind_ok.mp (Except.mapError_ok.mp made)
    obtain ⟨_,-,payload⟩ := Except.bind_ok.mp rest
    cases payload
    rfl

theorem roadmap_readsOwn : ReadsOwn outside notifier hosts forceEmail roadmapReport := by
  intro org
  refine ⟨?_,fun payload ready => ?_⟩
  · have own := getRoadmapNotification_own notifier hosts org.2 org.1 forceEmail
    simp only [built,roadmapReport,World.reading]
    rw [own]
  · obtain ⟨_,-,made⟩ := Except.bind_ok.mp ready
    obtain ⟨_,-,payload⟩ := Except.bind_ok.mp (Except.mapError_ok.mp made)
    cases payload
    rfl

def sentAbout (orgId : Int) (events : List (Event Notification Message)) : List Notification :=
  (events.filterMap Event.payload).filter (fun payload => payload.orgId = toString orgId)

variable {outside notifier forceEmail} {report : Report}

theorem ReadsOwn.about (reads : ∀ hosts, ReadsOwn outside notifier hosts forceEmail report) (orgId : Int)
    (org : Int × Nat) :
    (orgPayloads (outside.reading notifier hosts) report dryRun forceEmail org).filter
        (fun payload => payload.orgId = toString orgId) =
      (orgPayloads (outside.reading notifier (ownHosts notifier orgId hosts)) report dryRun forceEmail org).filter
        (fun payload => payload.orgId = toString orgId) := by
  by_cases same : org.1 = orgId
  · rw [orgPayloads,orgPayloads,(reads hosts org).1,same]
  · have nothing : ∀ hosts, (orgPayloads (outside.reading notifier hosts) report dryRun forceEmail org).filter
        (fun payload => payload.orgId = toString orgId) = [] := by
      intro hosts
      refine List.filter_eq_nil_iff.mpr (fun payload member equal => same ?_)
      obtain ⟨-,ready⟩ := (mem_orgPayloads _ report dryRun forceEmail org payload).mp member
      exact Text.toString_inj.mp (((reads hosts org).2 payload ready).symm.trans (of_decide_eq_true equal))
    rw [nothing,nothing]

variable (outside notifier forceEmail) (report) in
/-- Each payload sent is about a listed organisation and built from its hosts alone, and so what is
sent about an organisation does not depend on the hosts of the others. -/
def OwnOnly (overrideOrgIds : Option (List Int)) (caches : Caches) : Prop :=
  let trace := fun hosts => traceOf
    (notification (outside.reading notifier hosts) report dryRun forceEmail overrideOrgIds) caches
  (∀ payload ∈ (trace hosts).filterMap Event.payload, ∃ orgIds,
    orgIdsOf outside report overrideOrgIds = .ok orgIds ∧ ∃ org ∈ orgIds.zipIdx,
      built (outside.reading notifier (ownHosts notifier org.1 hosts)) report forceEmail org = .ok payload) ∧
  ∀ orgId, sentAbout orgId (trace hosts) = sentAbout orgId (trace (ownHosts notifier orgId hosts))

theorem ReadsOwn.ownOnly (reads : ∀ hosts, ReadsOwn outside notifier hosts forceEmail report)
    (overrideOrgIds : Option (List Int)) (caches : Caches) :
    OwnOnly outside notifier hosts dryRun forceEmail report overrideOrgIds caches := by
  have course := fun hosts => course_notification (outside.reading notifier hosts) report dryRun forceEmail
    overrideOrgIds caches
  constructor
  · intro payload member
    obtain ⟨-,orgIds,-,ids,-,org,listed,ready⟩ := mem_sent (course hosts) member
    exact ⟨orgIds,ids,org,listed,(reads hosts org).1 ▸ ready⟩
  · intro orgId
    have sends := fun hosts => sent_payloads _ report dryRun forceEmail (course hosts)
    by_cases reached : ∃ orgIds settings, orgIdsOf outside report overrideOrgIds = .ok orgIds ∧
        Starts outside settings
    · obtain ⟨orgIds,settings,ids,⟨loaded,brokers,made,connects⟩⟩ := reached
      have sent := fun hosts => (sends hosts).1 orgIds settings ids ⟨loaded,brokers,made,connects⟩
      simp only [sentAbout,sent,List.filter_flatMap,ReadsOwn.about hosts dryRun reads orgId]
    · have silent := fun hosts => (sends hosts).2 (fun orgIds settings ids ⟨loaded,brokers,made,connects⟩ =>
        reached ⟨orgIds,settings,ids,loaded,brokers,made,connects⟩)
      rw [sentAbout,sentAbout,silent,silent]

end Isolation

/-- In a run of either report. -/
theorem notifications_own_hosts {Message : Type} (outside : World Notification Message) (notifier : Notifier)
    (hosts : List HostRecord) (dryRun forceEmail : Bool) (overrideOrgIds : Option (List Int)) (caches : Caches) :
    OwnOnly outside notifier hosts dryRun forceEmail lifecycleReport overrideOrgIds caches ∧
      OwnOnly outside notifier hosts dryRun forceEmail roadmapReport overrideOrgIds caches :=
  ⟨ReadsOwn.ownOnly hosts dryRun (fun hosts => lifecycle_readsOwn outside notifier hosts forceEmail)
      overrideOrgIds caches,
    ReadsOwn.ownOnly hosts dryRun (fun hosts => roadmap_readsOwn outside notifier hosts forceEmail)
      overrideOrgIds caches⟩

end Notificator

end Roadmap
