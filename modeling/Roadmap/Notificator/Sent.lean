import Roadmap.Notificator.Outcomes

/-! What the loop of a notification leaves in the trace: which organisations it processed, and the
payloads it handed to Kafka. -/
namespace Roadmap.Notificator

def Event.payload {Payload Message : Type} : Event Payload Message → Option Payload
  | .sending payload => some payload
  | _ => none

def Event.processed {Payload Message : Type} : Event Payload Message → Option Int
  | .processing _ orgId => some orgId
  | _ => none

/-- The events of the loop over the organisations. -/
def Event.aboutOrg {Payload Message : Type} : Event Payload Message → Bool
  | .processing _ _ | .generated _ _ | .skipped _ _ | .sending _ | .sent _ _ | .completed _ _ | .failed _ _
  | .cachesCleared _ => true
  | _ => false

section Sending

variable {Payload Message : Type} (world : World Payload Message) (report : Report) (dryRun forceEmail : Bool)

def orgPayloads (org : Int × Nat) : List Payload :=
  if dryRun then [] else (built world report forceEmail org).toOption.toList

theorem mem_orgPayloads (org : Int × Nat) (payload : Payload) :
    payload ∈ orgPayloads world report dryRun forceEmail org ↔
      dryRun = false ∧ built world report forceEmail org = .ok payload := by
  unfold orgPayloads
  cases built world report forceEmail org <;> cases dryRun <;> simp [Except.toOption,eq_comm]

theorem payload_orgEvents (topic : String) (org : Int × Nat) :
    (orgEvents world report dryRun forceEmail topic org).filterMap Event.payload =
      orgPayloads world report dryRun forceEmail org := by
  cases ready : built world report forceEmail org with
  | error error =>
    simp only [orgEvents,orgPayloads,ready]
    cases dryRun <;> rfl
  | ok payload =>
    simp only [orgEvents,orgPayloads,ready]
    cases dryRun with
    | true => rfl
    | false => cases delivered world report forceEmail topic org <;> rfl

theorem processed_orgEvents (topic : String) (org : Int × Nat) :
    (orgEvents world report dryRun forceEmail topic org).filterMap Event.processed = [org.1] := by
  cases ready : built world report forceEmail org with
  | error error =>
    simp only [orgEvents,ready]
    rfl
  | ok payload =>
    simp only [orgEvents,ready]
    cases dryRun with
    | true => rfl
    | false => cases delivered world report forceEmail topic org <;> rfl

theorem aboutOrg_connection (event : Event Payload Message) (quiet : event.connection = true) :
    event.aboutOrg = false := by
  cases event <;> first | rfl | cases quiet

/-- What only the loop tells is read off its rounds, where the run gets as far as the loop. -/
theorem filterMap_course {β : Type} {f : Event Payload Message → Option β} {each : Int × Nat → List β}
    (silent : ∀ event, event.aboutOrg = false → f event = none)
    (told : ∀ topic org, (orgEvents world report dryRun forceEmail topic org).filterMap f = each org)
    {overrideOrgIds : Option (List Int)} {events : List (Event Payload Message)}
    (course : Course world report dryRun forceEmail overrideOrgIds events) :
    (∀ orgIds settings, orgIdsOf world report overrideOrgIds = .ok orgIds → Starts world settings →
        events.filterMap f = orgIds.zipIdx.flatMap each) ∧
      ((∀ orgIds settings, orgIdsOf world report overrideOrgIds = .ok orgIds → ¬ Starts world settings) →
        events.filterMap f = []) := by
  have unheard : ∀ event : Event Payload Message, event.connection = true → f event = none :=
    fun event quiet => silent event (aboutOrg_connection event quiet)
  have started : f (.started report.started dryRun forceEmail) = none := silent _ rfl
  cases course with
  | orgIdsFailed failed =>
    refine ⟨fun orgIds settings ids _ => ?_,fun _ => ?_⟩
    · rw [failed] at ids
      contradiction
    · rw [List.filterMap_cons_none started,List.filterMap_cons_none (silent _ rfl),List.filterMap_nil]
  | noOrgIds nobody =>
    have nothing : List.filterMap f [.started report.started dryRun forceEmail,.noOrgIds report.noOrgIds] = [] := by
      rw [List.filterMap_cons_none started,List.filterMap_cons_none (silent _ rfl),List.filterMap_nil]
    refine ⟨fun orgIds settings ids _ => ?_,fun _ => nothing⟩
    cases nobody.symm.trans ids
    exact nothing
  | unstarted ids unstarted quiet =>
    refine ⟨fun orgIds settings _ starts => absurd ⟨settings,starts⟩ unstarted,fun _ => ?_⟩
    have trace := filterMap_trace unheard quiet started [] [.producerFailed report.producerFailed]
    rwa [List.append_nil,List.filterMap_cons_none (silent _ rfl)] at trace
  | unstopped ids starts quiet stopped =>
    refine ⟨fun others settings other started => ?_,fun never => absurd starts (never _ _ ids)⟩
    cases ids.symm.trans other
    rw [filterMap_trace unheard quiet (silent _ rfl),List.filterMap_flatMap,List.filterMap_cons_none (silent _ rfl)]
    simp only [told]
    exact List.append_nil _
  | finished ids starts quiet stopped =>
    refine ⟨fun others settings other started => ?_,fun never => absurd starts (never _ _ ids)⟩
    cases ids.symm.trans other
    rw [filterMap_trace unheard quiet (silent _ rfl),List.filterMap_flatMap,List.filterMap_cons_none (silent _ rfl)]
    simp only [told]
    split
    · rw [List.filterMap_cons_none (silent _ rfl)]
      exact List.append_nil _
    · exact List.append_nil _

/-- The payloads that a run sends, where it gets as far as sending. -/
theorem sent_payloads {overrideOrgIds : Option (List Int)} {events : List (Event Payload Message)}
    (course : Course world report dryRun forceEmail overrideOrgIds events) :
    (∀ orgIds settings, orgIdsOf world report overrideOrgIds = .ok orgIds → Starts world settings →
        events.filterMap Event.payload = orgIds.zipIdx.flatMap (orgPayloads world report dryRun forceEmail)) ∧
      ((∀ orgIds settings, orgIdsOf world report overrideOrgIds = .ok orgIds → ¬ Starts world settings) →
        events.filterMap Event.payload = []) := by
  have silent : ∀ event : Event Payload Message, event.aboutOrg = false → event.payload = none := by
    intro event outside
    cases event <;> first | rfl | cases outside
  exact filterMap_course world report dryRun forceEmail silent (payload_orgEvents world report dryRun forceEmail) course

/-- The organisations that a run processes, in the order of its list. -/
theorem processed_orgs {overrideOrgIds : Option (List Int)} {events : List (Event Payload Message)}
    (course : Course world report dryRun forceEmail overrideOrgIds events) :
    (∀ orgIds settings, orgIdsOf world report overrideOrgIds = .ok orgIds → Starts world settings →
        events.filterMap Event.processed = orgIds) ∧
      ((∀ orgIds settings, orgIdsOf world report overrideOrgIds = .ok orgIds → ¬ Starts world settings) →
        events.filterMap Event.processed = []) := by
  have silent : ∀ event : Event Payload Message, event.aboutOrg = false → event.processed = none := by
    intro event outside
    cases event <;> first | rfl | cases outside
  obtain ⟨reached,unreached⟩ := filterMap_course world report dryRun forceEmail silent
    (processed_orgEvents world report dryRun forceEmail) course
  refine ⟨fun orgIds settings ids starts => ?_,unreached⟩
  rw [reached orgIds settings ids starts,← List.map_eq_flatMap]
  exact List.zipIdx_map_fst 0 orgIds

variable {world report dryRun forceEmail} in
/-- A payload is sent in earnest only, and for a listed organisation. -/
theorem mem_sent {overrideOrgIds : Option (List Int)} {events : List (Event Payload Message)}
    (course : Course world report dryRun forceEmail overrideOrgIds events) {payload : Payload}
    (member : payload ∈ events.filterMap Event.payload) :
    dryRun = false ∧ ∃ orgIds settings, orgIdsOf world report overrideOrgIds = .ok orgIds ∧
      Starts world settings ∧ ∃ org ∈ orgIds.zipIdx, built world report forceEmail org = .ok payload := by
  obtain ⟨reached,silent⟩ := sent_payloads world report dryRun forceEmail course
  by_cases starting : ∃ orgIds settings, orgIdsOf world report overrideOrgIds = .ok orgIds ∧ Starts world settings
  · obtain ⟨orgIds,settings,ids,starts⟩ := starting
    rw [reached orgIds settings ids starts] at member
    obtain ⟨org,listed,inside⟩ := List.mem_flatMap.mp member
    obtain ⟨real,ready⟩ := (mem_orgPayloads world report dryRun forceEmail org payload).mp inside
    exact ⟨real,orgIds,settings,ids,starts,org,listed,ready⟩
  · rw [silent (fun orgIds settings ids starts => starting ⟨orgIds,settings,ids,starts⟩)] at member
    contradiction

end Sending

end Roadmap.Notificator
