import Roadmap.AppStreams.Relevant
import Roadmap.Base.Nested
import Roadmap.Base.Sorted
import Roadmap.Notificator.Rhel

/-! The application stream sections of the lifecycle report: streams and hosts by status and
RHEL major version. The status is the one stored in the entity. -/
namespace Roadmap
namespace Notificator
open Dict

structure AppstreamSection where
  count : Nat := 0
  systemsCount : Nat := 0
  deriving DecidableEq

abbrev AppstreamSections := Dict String (Dict String AppstreamSection)

def appstreamKey (status : SupportStatus) : String := "appstream_" ++ statusName status

def osKey (osMajor : Option Int) : String := "rhel" ++ (osMajor.map toString).getD "None"

structure AppstreamTally where
  sections : AppstreamSections
  uniqueSystems : Dict String (Dict String (Finset SystemInfo))
  allOsKeys : Finset String

def emptyTally : AppstreamTally where
  sections := notifyStatuses.foldl (fun sections status => sections.set (appstreamKey status) .empty) .empty
  uniqueSystems := notifyStatuses.foldl (fun unique status => unique.set (appstreamKey status) .empty) .empty
  allOsKeys := ∅

def AppstreamSection.addStream (old : Option AppstreamSection) (_ : Unit) : AppstreamSection :=
  let counts := old.getD {}
  {counts with count := counts.count + 1}

def AppstreamSection.resolve (old : Option AppstreamSection) (systems : Finset SystemInfo) : AppstreamSection :=
  {old.getD {} with systemsCount := systems.card}

def countAppstream (tally : AppstreamTally) (entry : AppStreamKey × Finset SystemInfo) : AppstreamTally :=
  let entity := entry.1.appStreamEntity
  let os := osKey entity.osMajor
  let allOsKeys := insert os tally.allOsKeys
  if entity.supportStatus ∈ notifyStatuses then
    let status := appstreamKey entity.supportStatus
    ⟨tally.sections.updateAt (fun old => .addStream old ()) status os,
      tally.uniqueSystems.updateAt (fun old => unite old entry.2) status os,allOsKeys⟩
  else {tally with allOsKeys := allOsKeys}

def resolveSystems (tally : AppstreamTally) : AppstreamSections :=
  groupAt .resolve tally.uniqueSystems.entries tally.sections

/-- Every section gets an entry for every major version. -/
def fillSections (order : SetOrder String) (allOsKeys : Finset String) (sections : AppstreamSections) :
    AppstreamSections :=
  groupAt (fun old _ => old.getD {})
    (sections.keys.flatMap (fun status => (order.list allOsKeys).map (fun os => (status,os,())))) sections

def getRelevantAppstreams (order : SetOrder String) (systemsByStream : SystemsByStream) : AppstreamSections :=
  let tally := systemsByStream.items.foldl countAppstream emptyTally
  fillSections order tally.allOsKeys (resolveSystems tally)

def reported (sections : AppstreamSections) (status : SupportStatus) (osMajor : Option Int) : AppstreamSection :=
  (sections.at? (appstreamKey status) (osKey osMajor)).getD {}

/-! What the sections hold at the end. -/

theorem appstreamKey_inj : ∀ first ∈ notifyStatuses, ∀ second ∈ notifyStatuses,
    appstreamKey first = appstreamKey second → first = second := by
  decide

theorem osKey_inj {first second : Option Int} (same : osKey first = osKey second) : first = second := by
  have other : ∀ osMajor : Int, "None" ≠ toString osMajor := by
    intro osMajor equal
    have letter := Text.not_mem_toString 'N' (by decide) (by decide) osMajor
    rw [← equal] at letter
    exact letter (by decide)
  have texts := (String.append_right_inj "rhel").mp same
  cases first with
  | none =>
    cases second with
    | none => rfl
    | some osMajor => exact absurd texts (other osMajor)
  | some osMajor =>
    cases second with
    | none => exact absurd texts.symm (other osMajor)
    | some another => rw [Text.toString_inj.mp texts]

def counts (status : SupportStatus) (osMajor : Option Int) (entry : AppStreamKey × Finset SystemInfo) : Bool :=
  decide (entry.1.appStreamEntity.supportStatus = status ∧ entry.1.appStreamEntity.osMajor = osMajor)

def hostsOf (entries : List (AppStreamKey × Finset SystemInfo)) : Finset SystemInfo :=
  entries.foldr (fun entry hosts => entry.2 ∪ hosts) ∅

theorem mem_hostsOf (entries : List (AppStreamKey × Finset SystemInfo)) (info : SystemInfo) :
    info ∈ hostsOf entries ↔ ∃ entry ∈ entries, info ∈ entry.2 := by
  induction entries with
  | nil => simp [hostsOf]
  | cons entry rest ih =>
    rw [hostsOf,List.foldr_cons,← hostsOf,Finset.mem_union,ih]
    simp

/-- The entries that are counted, with the keys of their place. -/
def streamEvents (items : List (AppStreamKey × Finset SystemInfo)) : List (String × String × Finset SystemInfo) :=
  (items.filter (fun entry => entry.1.appStreamEntity.supportStatus ∈ notifyStatuses)).map
    (fun entry => (appstreamKey entry.1.appStreamEntity.supportStatus,osKey entry.1.appStreamEntity.osMajor,entry.2))

theorem fold_countAppstream (items : List (AppStreamKey × Finset SystemInfo)) (tally : AppstreamTally) :
    (items.foldl countAppstream tally).sections =
        groupAt .addStream ((streamEvents items).map (fun event => (event.1,event.2.1,()))) tally.sections ∧
      (items.foldl countAppstream tally).uniqueSystems =
        groupAt unite (streamEvents items) tally.uniqueSystems := by
  induction items generalizing tally with
  | nil => exact ⟨rfl,rfl⟩
  | cons entry rest ih =>
    obtain ⟨sections,unique⟩ := ih (countAppstream tally entry)
    rw [List.foldl_cons,sections,unique,streamEvents,streamEvents,countAppstream,List.filter_cons]
    by_cases notified : entry.1.appStreamEntity.supportStatus ∈ notifyStatuses
    · simp [notified,groupAt]
    · simp [notified]

theorem eventsAt_streamEvents {status : SupportStatus} (listed : status ∈ notifyStatuses) (osMajor : Option Int)
    (items : List (AppStreamKey × Finset SystemInfo)) :
    eventsAt (streamEvents items) (appstreamKey status) (osKey osMajor) =
      (items.filter (counts status osMajor)).map Prod.snd := by
  have here : ∀ entry : AppStreamKey × Finset SystemInfo,
      ((appstreamKey entry.1.appStreamEntity.supportStatus == appstreamKey status &&
        osKey entry.1.appStreamEntity.osMajor == osKey osMajor) &&
          decide (entry.1.appStreamEntity.supportStatus ∈ notifyStatuses)) = counts status osMajor entry := by
    intro entry
    rw [Bool.eq_iff_iff]
    simp only [Bool.and_eq_true,beq_iff_eq,decide_eq_true_eq,counts]
    constructor
    · intro ⟨⟨same,equal⟩,notified⟩
      exact ⟨appstreamKey_inj _ notified _ listed same,osKey_inj equal⟩
    · intro ⟨same,equal⟩
      exact ⟨⟨congrArg appstreamKey same,congrArg osKey equal⟩,same ▸ listed⟩
  rw [eventsAt,streamEvents,List.filter_map,List.map_map,List.filter_filter]
  exact congrArg (List.map Prod.snd) (List.filter_congr (fun entry _ => here entry))

theorem fold_addStream (units : List Unit) (old : Option AppstreamSection) :
    (units.foldl (fun old item => some (AppstreamSection.addStream old item)) old).getD {} =
      {old.getD {} with count := (old.getD {}).count + units.length} := by
  induction units generalizing old with
  | nil => rfl
  | cons item rest ih =>
    rw [List.foldl_cons,ih]
    simp [AppstreamSection.addStream,Nat.add_assoc,Nat.add_comm 1]

theorem mem_fold_unite (sets : List (Finset SystemInfo)) (old : Option (Finset SystemInfo)) (info : SystemInfo) :
    info ∈ (sets.foldl (fun old systems => some (unite old systems)) old).getD ∅ ↔
      info ∈ old.getD ∅ ∨ ∃ systems ∈ sets, info ∈ systems := by
  induction sets generalizing old with
  | nil => simp
  | cons first rest ih =>
    rw [List.foldl_cons,ih]
    simp [unite,or_assoc]

theorem fold_resolve {systems : Finset SystemInfo} (sets : List (Finset SystemInfo))
    (same : ∀ other ∈ sets, other = systems) (old : Option AppstreamSection) :
    (sets.foldl (fun old systems => some (AppstreamSection.resolve old systems)) old).getD {} =
      if sets = [] then old.getD {} else {old.getD {} with systemsCount := systems.card} := by
  induction sets generalizing old with
  | nil => rfl
  | cons first rest ih =>
    rw [List.foldl_cons,ih (fun other member => same other (List.mem_cons_of_mem _ member)),
      same first List.mem_cons_self]
    by_cases last : rest = [] <;> simp [last,AppstreamSection.resolve]

theorem fold_default (units : List Unit) (old : Option AppstreamSection) :
    (units.foldl (fun old _ => some (old.getD {})) old).getD {} = old.getD {} := by
  induction units generalizing old with
  | nil => rfl
  | cons item rest ih =>
    rw [List.foldl_cons,ih]
    rfl

section Final

variable (items : List (AppStreamKey × Finset SystemInfo)) {status : SupportStatus}
  (listed : status ∈ notifyStatuses) (osMajor : Option Int)

include listed

theorem at?_emptyTally (key : String) : emptyTally.sections.at? (appstreamKey status) key = none ∧
    emptyTally.uniqueSystems.at? (appstreamKey status) key = none := by
  rcases List.mem_pair.mp listed with rfl | rfl <;> exact ⟨rfl,rfl⟩

theorem counted_streams :
    (((items.foldl countAppstream emptyTally).sections.at? (appstreamKey status) (osKey osMajor)).getD {}) =
      ⟨(items.filter (counts status osMajor)).length,0⟩ := by
  have units : eventsAt ((streamEvents items).map (fun event => (event.1,event.2.1,())))
      (appstreamKey status) (osKey osMajor) =
        ((items.filter (counts status osMajor)).map Prod.snd).map (fun _ => ()) := by
    rw [← eventsAt_streamEvents listed osMajor items]
    simp [eventsAt,List.filter_map,Function.comp_def]
  rw [(fold_countAppstream items emptyTally).1,at?_groupAt,fold_addStream,units,
    (at?_emptyTally listed _).1]
  simp

theorem counted_hosts :
    (((items.foldl countAppstream emptyTally).uniqueSystems.at? (appstreamKey status) (osKey osMajor)).getD ∅) =
      hostsOf (items.filter (counts status osMajor)) := by
  ext info
  rw [(fold_countAppstream items emptyTally).2,at?_groupAt,mem_fold_unite,eventsAt_streamEvents listed,
    (at?_emptyTally listed _).2,mem_hostsOf]
  simp only [Option.getD_none,Finset.notMem_empty,false_or,List.mem_map,exists_exists_and_eq_and]

theorem resolved :
    (((resolveSystems (items.foldl countAppstream emptyTally)).at? (appstreamKey status) (osKey osMajor)).getD {}) =
      ⟨(items.filter (counts status osMajor)).length,(hostsOf (items.filter (counts status osMajor))).card⟩ := by
  let unique := (items.foldl countAppstream emptyTally).uniqueSystems
  let sets := eventsAt unique.entries (appstreamKey status) (osKey osMajor)
  have held : ∀ systems, systems ∈ sets ↔ unique.at? (appstreamKey status) (osKey osMajor) = some systems :=
    fun systems => (mem_eventsAt _ _ _ _).trans (mem_entries unique _ _ systems)
  have hosts : (unique.at? (appstreamKey status) (osKey osMajor)).getD ∅ = _ := counted_hosts items listed osMajor
  have same : ∀ systems ∈ sets, systems = hostsOf (items.filter (counts status osMajor)) := by
    intro systems member
    rw [← hosts,(held systems).mp member]
    rfl
  rw [resolveSystems,at?_groupAt,fold_resolve sets same,counted_streams items listed osMajor]
  split
  next nowhere =>
    have absent : unique.at? (appstreamKey status) (osKey osMajor) = none := by
      rw [Option.eq_none_iff_forall_ne_some]
      intro systems found
      have member := (held systems).mpr found
      rw [nowhere] at member
      exact absurd member List.not_mem_nil
    rw [← hosts,absent]
    rfl
  next => rfl

/-- What a section reports: the streams with its status, and the hosts that use any of them. -/
theorem reported_eq (order : SetOrder String) (systemsByStream : SystemsByStream) :
    reported (getRelevantAppstreams order systemsByStream) status osMajor =
      ⟨(systemsByStream.items.filter (counts status osMajor)).length,
        (hostsOf (systemsByStream.items.filter (counts status osMajor))).card⟩ := by
  rw [reported,getRelevantAppstreams,fillSections,at?_groupAt,fold_default]
  exact resolved systemsByStream.items listed osMajor

end Final

end Notificator
end Roadmap
