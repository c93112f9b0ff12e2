import Roadmap.Base.Numeral
import Roadmap.Notificator
import Roadmap.Notificator.AppStreams
import Roadmap.Pagination

/-! The messages of the two reports, and the id by which repeated deliveries are dropped. -/
namespace Roadmap

namespace Date

def isoformat (date : Date) : List Char :=
  Text.zeroPaddedInt 4 date.year ++ '-' :: (Text.zeroPadded 2 date.month ++ '-' :: Text.zeroPadded 2 date.day)

def monthNames : List String := ["January","February","March","April","May","June","July","August",
  "September","October","November","December"]

/-- `date.strftime("%B %Y")` -/
def monthAndYear (date : Date) : String :=
  monthNames.getD (date.month - 1) "" ++ " " ++ String.ofList (Text.zeroPaddedInt 4 date.year)

end Date

/-- A point in time in UTC. -/
structure DateTime where
  date : Date
  hour : Nat
  minute : Nat
  second : Nat
  deriving DecidableEq

/-- `now.strftime("%Y-%m-%dT%H:%M:%SZ")` -/
def DateTime.timestamp (now : DateTime) : String := String.ofList (now.date.isoformat ++ 'T' ::
  (Text.zeroPadded 2 now.hour ++ ':' :: (Text.zeroPadded 2 now.minute ++ ':' ::
    (Text.zeroPadded 2 now.second ++ ['Z']))))

namespace Notificator

structure ReportContext where
  reportDate : String
  deriving DecidableEq

inductive LifecycleSection where
  | rhel (counts : RhelSection)
  | appstream (counts : Dict String AppstreamSection)

inductive ReportPayload where
  | roadmap (counts : Dict String Nat)
  | lifecycle (sections : Dict String LifecycleSection)

structure NotificationEvent where
  metadata : List (String × String) := []
  payload : ReportPayload

structure Notification where
  version : String := "v1.0.0"
  id : String
  bundle : String
  application : String
  eventType : String
  timestamp : String
  orgId : String
  context : Dict String ReportContext
  events : List NotificationEvent
  recipients : List String := []

def notificationNamespace : UUID := ⟨0xe0d6dbe47b1b411b801724edac0ce3cd#128⟩

/-- The functions of `uuid`; a random UUID is what the next call returns. -/
structure Uuids where
  uuid4 : UUID
  uuid5 : (namespaceId : UUID) → (name : String) → UUID

def notificationName (application eventType orgId : String) (day : Date) : String :=
  String.ofList day.isoformat ++ ":" ++ application ++ ":" ++ eventType ++ ":" ++ orgId

section Builders

variable (uuids : Uuids) (now : DateTime) (forceEmail : Bool)

def makeNotificationUuid (application eventType orgId : String) (day : Date) : UUID :=
  if forceEmail then uuids.uuid4
  else uuids.uuid5 notificationNamespace (notificationName application eventType orgId day)

/-- Enhancements are folded into additions. -/
def payloadCounts (upcomingCounts : Dict UpcomingType Nat) : Dict String Nat :=
  let count := fun type => (upcomingCounts.get? type).getD 0
  ((Dict.empty.set "addition" (count .addition + count .enhancement)).set "deprecation"
    (count .deprecation)).set "change" (count .change)

def buildRoadmapNotificationPayload (upcomingCounts : Dict UpcomingType Nat) (orgId : String)
    (bundle : String := "rhel") (application : String := "roadmap")
    (eventType : String := "roadmap-monthly-report") : Notification :=
  let previousMonth := now.date.firstOfMonth.previousDay
  {
    id := (makeNotificationUuid uuids forceEmail application eventType orgId now.date).text
    bundle := bundle
    application := application
    eventType := eventType
    timestamp := now.timestamp
    orgId := orgId
    context := Dict.empty.set application ⟨previousMonth.monthAndYear⟩
    events := [{payload := .roadmap (payloadCounts upcomingCounts)}]
  }

/-- `{**rhel_grouped, **appstream_grouped}` -/
def lifecycleSections (rhelGrouped : Dict String RhelSection) (appstreamGrouped : AppstreamSections) :
    Dict String LifecycleSection :=
  let rhel := rhelGrouped.items.foldl (fun sections entry => sections.set entry.1 (.rhel entry.2)) .empty
  appstreamGrouped.items.foldl (fun sections entry => sections.set entry.1 (.appstream entry.2)) rhel

def buildLifecycleNotificationPayload (rhelGrouped : Dict String RhelSection)
    (appstreamGrouped : AppstreamSections) (orgId eventType : String) (bundle : String := "rhel")
    (application : String := "life-cycle") : Notification where
  id := (makeNotificationUuid uuids forceEmail application eventType orgId now.date).text
  bundle := bundle
  application := application
  eventType := eventType
  timestamp := now.timestamp
  orgId := orgId
  context := Dict.empty.set (String.ofList (Text.replace "-" "" application.toList)) ⟨now.date.monthAndYear⟩
  events := [{payload := .lifecycle (lifecycleSections rhelGrouped appstreamGrouped)}]

end Builders

/-! The id tells notifications apart. -/

theorem colon_isoformat (day : Date) : ':' ∉ day.isoformat := by
  have padded := @Text.not_mem_zeroPaddedInt ':' (by decide) (by decide)
  have digits : ∀ width value, ':' ∉ Text.zeroPadded width value :=
    fun width value member => absurd (Text.zeroPadded_isDigit width value ':' member) (by decide)
  simp only [Date.isoformat,List.mem_append,List.mem_cons]
  rintro (year | minus | month | minus | day)
  · exact padded _ _ year
  · exact absurd minus (by decide)
  · exact digits _ _ month
  · exact absurd minus (by decide)
  · exact digits _ _ day

theorem isoformat_inj {first second : Date} (same : first.isoformat = second.isoformat) : first = second := by
  have two : ∀ date : Date, (Text.zeroPadded 2 date.month).length = 2 ∧ (Text.zeroPadded 2 date.day).length = 2 := by
    intro date
    obtain ⟨-,twelve,-,days⟩ := date.valid_bounds
    have most := Date.daysInMonth_le date.year date.month
    exact ⟨Text.length_zeroPadded (by decide) (by omega),Text.length_zeroPadded (by decide) (by omega)⟩
  obtain ⟨year,rest⟩ := List.append_inj' same (by simp [two])
  obtain ⟨month,day⟩ := List.append_inj (List.cons.inj rest).2 (by simp [two])
  have years := Text.zeroPaddedInt_inj year
  have months := Text.zeroPadded_inj.mp month
  have days := Text.zeroPadded_inj.mp (List.cons.inj day).2
  cases first
  cases second
  simp_all

/-- Days, and texts without a colon before it, do not shift over a colon. -/
theorem notificationName_inj {application other eventType another orgId otherOrg : String} {day otherDay : Date}
    (plain : ':' ∉ application.toList ∧ ':' ∉ eventType.toList)
    (otherPlain : ':' ∉ other.toList ∧ ':' ∉ another.toList)
    (same : notificationName application eventType orgId day = notificationName other another otherOrg otherDay) :
    day = otherDay ∧ application = other ∧ eventType = another ∧ orgId = otherOrg := by
  have written : ∀ application eventType orgId day, (notificationName application eventType orgId day).toList =
      day.isoformat ++ ':' :: (application.toList ++ ':' :: (eventType.toList ++ ':' :: orgId.toList)) := by
    intro application eventType orgId day
    simp [notificationName]
  have texts := congrArg String.toList same
  rw [written,written] at texts
  obtain ⟨days,texts⟩ := Text.append_separator_inj (colon_isoformat _) (colon_isoformat _) texts
  obtain ⟨applications,texts⟩ := Text.append_separator_inj plain.1 otherPlain.1 texts
  obtain ⟨events,orgs⟩ := Text.append_separator_inj plain.2 otherPlain.2 texts
  exact ⟨isoformat_inj days,String.toList_inj.mp applications,String.toList_inj.mp events,String.toList_inj.mp orgs⟩

/-- A notification of either report, built at a point in time without forcing an email. -/
inductive Built (uuids : Uuids) (now : DateTime) : Notification → Prop where
  | roadmap (upcomingCounts : Dict UpcomingType Nat) (orgId bundle application eventType : String) :
    Built uuids now (buildRoadmapNotificationPayload uuids now false upcomingCounts orgId bundle application
      eventType)
  | lifecycle (rhelGrouped : Dict String RhelSection) (appstreamGrouped : AppstreamSections)
      (orgId eventType bundle application : String) :
    Built uuids now (buildLifecycleNotificationPayload uuids now false rhelGrouped appstreamGrouped orgId
      eventType bundle application)

def Notification.nameOn (notification : Notification) (day : Date) : String :=
  notificationName notification.application notification.eventType notification.orgId day

theorem Built.id {uuids : Uuids} {now : DateTime} {notification : Notification}
    (built : Built uuids now notification) :
    notification.id = (uuids.uuid5 notificationNamespace (notification.nameOn now.date)).text := by
  cases built <;> rfl

def Notification.Plain (notification : Notification) : Prop :=
  ':' ∉ notification.application.toList ∧ ':' ∉ notification.eventType.toList

theorem notification_ids_exact {uuids : Uuids} {names : Set String}
    (injective : Set.InjOn (uuids.uuid5 notificationNamespace) names)
    {now later : DateTime} {first second : Notification}
    (built : Built uuids now first) (builtLater : Built uuids later second)
    (named : first.nameOn now.date ∈ names ∧ second.nameOn later.date ∈ names)
    (plain : first.Plain ∧ second.Plain) :
    first.id = second.id ↔ now.date = later.date ∧ first.application = second.application ∧
      first.eventType = second.eventType ∧ first.orgId = second.orgId := by
  rw [built.id,builtLater.id]
  constructor
  · intro same
    have sameName := injective named.1 named.2 (UUID.text_inj same)
    exact notificationName_inj plain.1 plain.2 sameName
  · rintro ⟨day,application,eventType,orgId⟩
    rw [Notification.nameOn,Notification.nameOn,day,application,eventType,orgId]

private def may2 : DateTime := ⟨.mk 2026 5 2,7,30,0⟩

private def reportUuids : Uuids where
  uuid4 := ⟨0x63961201a3b84c0c8d5f0e6c1a2b3c4d#128⟩
  uuid5 := fun _ name =>
    if name = "2026-05-02:roadmap:roadmap-monthly-report:1234" then ⟨0x5c1b9f8ffbb158fb8d643d6aa4a19a2b#128⟩
    else ⟨0x729c4a99819055d18a355e031d711256#128⟩

private def mayRoadmap : Notification :=
  buildRoadmapNotificationPayload reportUuids may2 false .empty "1234"

private def mayLifecycle : Notification :=
  buildLifecycleNotificationPayload reportUuids may2 false .empty .empty "1234"
    "retiring-lifecycle-monthly-report"

theorem notification_ids_exact_may : mayRoadmap.id = mayLifecycle.id ↔ may2.date = may2.date ∧
    mayRoadmap.application = mayLifecycle.application ∧
    mayRoadmap.eventType = mayLifecycle.eventType ∧ mayRoadmap.orgId = mayLifecycle.orgId := by
  have roadmapName : mayRoadmap.nameOn may2.date = "2026-05-02:roadmap:roadmap-monthly-report:1234" := by
    decide
  have lifecycleName : mayLifecycle.nameOn may2.date =
      "2026-05-02:life-cycle:retiring-lifecycle-monthly-report:1234" := by
    decide
  have injective : Set.InjOn (reportUuids.uuid5 notificationNamespace)
      {mayRoadmap.nameOn may2.date,mayLifecycle.nameOn may2.date} := by
    rw [roadmapName,lifecycleName]
    rintro _ (rfl | rfl) _ (rfl | rfl) same
    · rfl
    · exact absurd same (by decide)
    · exact absurd same (by decide)
    · rfl
  exact notification_ids_exact injective (.roadmap _ _ _ _ _) (.lifecycle _ _ _ _ _ _)
    ⟨Or.inl rfl,Or.inr rfl⟩ ⟨⟨by decide,by decide⟩,⟨by decide,by decide⟩⟩

end Notificator
end Roadmap
