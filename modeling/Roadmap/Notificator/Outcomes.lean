import Roadmap.Notificator.Delivery

/-! What a run of a notification does for each organisation, and what it reports at its end. -/
namespace Roadmap.Notificator

variable {Payload Message : Type}

/-- The part of a trace that is the same whatever is logged. -/
inductive Step (Payload : Type) where
  | process (orgId : Int)
  | send (payload : Payload)
  | clear (left : Caches)
  deriving DecidableEq

def Event.step : Event Payload Message → Option (Step Payload)
  | .processing _ orgId => some (.process orgId)
  | .sending payload => some (.send payload)
  | .cachesCleared left => some (.clear left)
  | _ => none

def Event.failedOrgs : Event Payload Message → Option (List Int)
  | .someFailed _ failedOrgs _ _ => some failedOrgs
  | _ => none

section Isolation

variable (world : World Payload Message) (report : Report) (dryRun forceEmail : Bool) (topic : String)

/-- An organisation is processed, its payload is sent where it was built and may be sent, and
the caches are emptied. -/
def orgSteps (org : Int × Nat) : List (Step Payload) :=
  .process org.1 ::
    (if dryRun then [] else (built world report forceEmail org).toOption.toList.map .send) ++ [.clear ⟨0,0⟩]

theorem steps_orgEvents (org : Int × Nat) :
    (orgEvents world report dryRun forceEmail topic org).filterMap Event.step =
      orgSteps world report dryRun forceEmail org := by
  cases ready : built world report forceEmail org with
  | error error =>
    simp only [orgEvents,orgSteps,ready]
    cases dryRun <;> rfl
  | ok payload =>
    simp only [orgEvents,orgSteps,ready]
    cases dryRun with
    | true => rfl
    | false => cases delivered world report forceEmail topic org <;> rfl

theorem failedOrgs_orgEvents (org : Int × Nat) :
    (orgEvents world report dryRun forceEmail topic org).filterMap Event.failedOrgs = [] := by
  cases ready : built world report forceEmail org with
  | error error =>
    simp only [orgEvents,ready]
    rfl
  | ok payload =>
    simp only [orgEvents,ready]
    cases dryRun with
    | true => rfl
    | false => cases delivered world report forceEmail topic org <;> rfl

/-- Every organisation of the list has its steps, in the order of the list, and the final
report names those whose building or sending raised. -/
structure Isolated (orgIds : List Int) (events : List (Event Payload Message)) : Prop where
  steps : events.filterMap Event.step = orgIds.zipIdx.flatMap (orgSteps world report dryRun forceEmail)
  reported : events.filterMap Event.failedOrgs =
    let failedOrgs := failing world report dryRun forceEmail topic orgIds
    if failedOrgs ≠ [] then [failedOrgs] else []

/-- What is read off a trace is read off its loop and its end, if starting tells nothing. -/
theorem filterMap_trace {β : Type} {f : Event Payload Message → Option β}
    (silent : ∀ event, event.connection = true → f event = none) {added : List (Event Payload Message)}
    (quiet : ∀ event ∈ added, event.connection = true) {first : Event Payload Message} (start : f first = none)
    (loop last : List (Event Payload Message)) :
    (first :: added ++ loop ++ last).filterMap f = loop.filterMap f ++ last.filterMap f := by
  have nothing : added.filterMap f = [] :=
    List.filterMap_eq_nil_iff.mpr (fun event member => silent event (quiet event member))
  rw [List.filterMap_append,List.filterMap_append,List.filterMap_cons_none start,nothing,List.nil_append]

theorem step_connection (event : Event Payload Message) (quiet : event.connection = true) : event.step = none := by
  cases event <;> first | rfl | cases quiet

theorem failedOrgs_connection (event : Event Payload Message) (quiet : event.connection = true) :
    event.failedOrgs = none := by
  cases event <;> first | rfl | cases quiet

theorem isolated_notification {settings : NotificatorSettings} (starts : Starts world settings)
    (stops : world.stop = .ok ()) {overrideOrgIds : Option (List Int)} {orgIds : List Int}
    (ids : orgIdsOf world report overrideOrgIds = .ok orgIds) (caches : Caches) :
    Isolated world report dryRun forceEmail settings.notificationsTopic orgIds
      (traceOf (notification world report dryRun forceEmail overrideOrgIds) caches) := by
  have course := course_notification world report dryRun forceEmail overrideOrgIds caches
  generalize traceOf (notification world report dryRun forceEmail overrideOrgIds) caches = events at course ⊢
  cases course with
  | orgIdsFailed other =>
    rw [ids] at other
    contradiction
  | noOrgIds other =>
    cases ids.symm.trans other
    exact ⟨rfl,rfl⟩
  | unstarted other unstarted => exact absurd ⟨settings,starts⟩ unstarted
  | unstopped other _ _ stopped =>
    rw [stops] at stopped
    contradiction
  | finished other started quiet _ =>
    cases ids.symm.trans other
    cases starts.loaded.symm.trans started.loaded
    constructor
    · rw [filterMap_trace step_connection quiet rfl,List.filterMap_flatMap]
      simp only [steps_orgEvents]
      split
      · exact List.append_nil _
      · exact List.append_nil _
    · rw [filterMap_trace failedOrgs_connection quiet rfl,List.filterMap_flatMap]
      have silent : orgIds.zipIdx.flatMap (fun _ : Int × Nat => ([] : List (List Int))) = [] := by simp
      simp only [failedOrgs_orgEvents,silent]
      split
      · rfl
      · rfl

end Isolation

/-- Whatever fails for one organisation leaves the others their turn. -/
theorem failures_isolated (world : World Payload Message) (dryRun forceEmail : Bool)
    {settings : NotificatorSettings} (starts : Starts world settings) (stops : world.stop = .ok ())
    (overrideOrgIds : Option (List Int)) (caches : Caches) :
    (∀ orgIds, orgIdsOf world lifecycleReport overrideOrgIds = .ok orgIds →
      Isolated world lifecycleReport dryRun forceEmail settings.notificationsTopic orgIds
        (traceOf (lifecycleNotification world dryRun forceEmail overrideOrgIds) caches)) ∧
    ∀ orgIds, orgIdsOf world roadmapReport overrideOrgIds = .ok orgIds →
      Isolated world roadmapReport dryRun forceEmail settings.notificationsTopic orgIds
        (traceOf (roadmapNotification world dryRun forceEmail overrideOrgIds) caches) := by
  constructor
  · intro orgIds ids
    exact isolated_notification world lifecycleReport dryRun forceEmail starts stops ids caches
  · intro orgIds ids
    exact isolated_notification world roadmapReport dryRun forceEmail starts stops ids caches

private def localSettings : NotificatorSettings :=
  ⟨true,["localhost:9092"],"platform.notifications.ingress"⟩

/-- The second organisation fails; a payload is the place of its organisation. -/
private def localWorld (stop : Except PyException Unit) : World Nat Nat where
  orgIdSettings := .ok localSettings
  fetchSubscribedOrgIds := fun _ _ => .ok []
  producerSettings := .ok localSettings
  buildProducer := fun _ => .ok ()
  start := fun _ => .ok ()
  stop := stop
  notificator := fun _ _ => .ok ()
  lifecyclePayload := fun place orgId _ => if orgId = 2 then .error (.other "boom") else .ok place
  roadmapPayload := fun place orgId _ => if orgId = 2 then .error (.other "boom") else .ok place
  cached := fun _ _ caches => caches
  dumps := .ok
  sendAndWait := fun _ _ _ => .ok ()

private theorem localWorld_starts (stop : Except PyException Unit) :
    Starts (localWorld stop) localSettings where
  loaded := rfl
  brokers := Or.inl rfl
  made := rfl
  connects := ⟨0,by decide,rfl,by simp⟩

theorem failures_isolated_second :
    (traceOf (roadmapNotification (localWorld (.ok ())) false false (some [1,2,3])) ⟨9,9⟩).filterMap Event.step =
      [.process 1,.send 0,.clear ⟨0,0⟩,.process 2,.clear ⟨0,0⟩,.process 3,.send 2,.clear ⟨0,0⟩] :=
  ((failures_isolated (localWorld (.ok ())) false false (localWorld_starts (.ok ())) rfl (some [1,2,3])
    ⟨9,9⟩).2 [1,2,3] rfl).steps

/-! What the report of the outer handler says. -/

section Reports

variable (world : World Payload Message) (report : Report) (dryRun forceEmail : Bool)

/-- If the run ends with the report that no organisation was notified, nothing was sent. -/
def Truthful (events : List (Event Payload Message)) : Prop :=
  (∃ text, .producerFailed text ∈ events) → ∀ topic message, .sent topic message ∉ events

/-- Where something is sent, the producer stops. -/
def StopsAfterSending (overrideOrgIds : Option (List Int)) : Prop :=
  ∀ orgIds settings, orgIdsOf world report overrideOrgIds = .ok orgIds → Starts world settings →
    dryRun = false →
    (∃ org ∈ orgIds.zipIdx, ∃ message,
      delivered world report forceEmail settings.notificationsTopic org = .ok message) →
    world.stop = .ok ()

theorem sent_orgEvents (topic : String) (org : Int × Nat) :
    (∃ other message, .sent other message ∈ orgEvents world report dryRun forceEmail topic org) ↔
      dryRun = false ∧ ∃ message, delivered world report forceEmail topic org = .ok message := by
  cases ready : built world report forceEmail org with
  | error error =>
    have unsent : delivered world report forceEmail topic org = .error error := by
      rw [delivered,ready]
      rfl
    simp [orgEvents,ready,unsent]
  | ok payload =>
    cases dryRun with
    | true => simp [orgEvents,ready]
    | false =>
      cases accepted : delivered world report forceEmail topic org with
      | error error => simp [orgEvents,ready,accepted]
      | ok message => simp [orgEvents,ready,accepted]

theorem sent_loop (topic : String) (orgs : List (Int × Nat)) :
    (∃ other message,
      .sent other message ∈ orgs.flatMap (orgEvents world report dryRun forceEmail topic)) ↔
      dryRun = false ∧ ∃ org ∈ orgs, ∃ message, delivered world report forceEmail topic org = .ok message := by
  constructor
  · intro ⟨other,message,member⟩
    obtain ⟨org,listed,inside⟩ := List.mem_flatMap.mp member
    obtain ⟨real,sent⟩ := (sent_orgEvents world report dryRun forceEmail topic org).mp ⟨other,message,inside⟩
    exact ⟨real,org,listed,sent⟩
  · intro ⟨real,org,listed,sent⟩
    obtain ⟨other,message,inside⟩ := (sent_orgEvents world report dryRun forceEmail topic org).mpr ⟨real,sent⟩
    exact ⟨other,message,List.mem_flatMap.mpr ⟨org,listed,inside⟩⟩

theorem producerFailed_orgEvents (topic text : String) (org : Int × Nat) :
    .producerFailed text ∉ orgEvents world report dryRun forceEmail topic org := by
  cases ready : built world report forceEmail org with
  | error error => simp [orgEvents,ready]
  | ok payload =>
    cases dryRun with
    | true => simp [orgEvents,ready]
    | false => cases accepted : delivered world report forceEmail topic org <;> simp [orgEvents,ready,accepted]

theorem connection_unsent {added : List (Event Payload Message)}
    (quiet : ∀ event ∈ added, event.connection = true) (topic : String) (message : Message) :
    .sent topic message ∉ added := by
  intro member
  exact absurd (quiet _ member) (by simp [Event.connection])

theorem connection_unreported {added : List (Event Payload Message)}
    (quiet : ∀ event ∈ added, event.connection = true) (text : String) : .producerFailed text ∉ added := by
  intro member
  exact absurd (quiet _ member) (by simp [Event.connection])

theorem truthful_iff (overrideOrgIds : Option (List Int)) (caches : Caches) :
    Truthful (traceOf (notification world report dryRun forceEmail overrideOrgIds) caches) ↔
      StopsAfterSending world report dryRun forceEmail overrideOrgIds := by
  have course := course_notification world report dryRun forceEmail overrideOrgIds caches
  generalize traceOf (notification world report dryRun forceEmail overrideOrgIds) caches = events at course ⊢
  cases course with
  | orgIdsFailed failed => simp [Truthful,StopsAfterSending,failed]
  | noOrgIds nobody =>
    constructor
    · intro _ orgIds _ ids _ _ sent
      cases nobody.symm.trans ids
      simp at sent
    · intro _ _ topic message member
      simp at member
  | unstarted ids unstarted quiet =>
    constructor
    · intro _ orgIds settings _ starts
      exact absurd ⟨settings,starts⟩ unstarted
    · intro _ _ topic message member
      simp [connection_unsent quiet] at member
  | @unstopped orgIds settings added error ids starts quiet stopped =>
    have loop := sent_loop world report dryRun forceEmail settings.notificationsTopic orgIds.zipIdx
    constructor
    · intro truthful others same given started real sent
      cases ids.symm.trans given
      cases starts.loaded.symm.trans started.loaded
      obtain ⟨topic,message,member⟩ := loop.mpr ⟨real,sent⟩
      exact absurd (by simp [member]) (truthful ⟨report.producerFailed,by simp⟩ topic message)
    · intro stops _ topic message member
      have inside : .sent topic message ∈
          orgIds.zipIdx.flatMap (orgEvents world report dryRun forceEmail settings.notificationsTopic) := by
        simpa [connection_unsent quiet] using member
      obtain ⟨real,sent⟩ := loop.mp ⟨topic,message,inside⟩
      rw [stops orgIds settings ids starts real sent] at stopped
      contradiction
  | finished ids starts quiet stopped =>
    constructor
    · intro _ _ _ _ _ _ _
      exact stopped
    · rintro _ ⟨text,member⟩
      simp [connection_unreported quiet,producerFailed_orgEvents] at member

end Reports

/-- The report that no organisation was notified is true exactly when a producer that has
sent something also stops. -/
theorem report_truthful (world : World Payload Message) (dryRun forceEmail : Bool)
    (overrideOrgIds : Option (List Int)) (caches : Caches) :
    (Truthful (traceOf (lifecycleNotification world dryRun forceEmail overrideOrgIds) caches) ↔
      StopsAfterSending world lifecycleReport dryRun forceEmail overrideOrgIds) ∧
    (Truthful (traceOf (roadmapNotification world dryRun forceEmail overrideOrgIds) caches) ↔
      StopsAfterSending world roadmapReport dryRun forceEmail overrideOrgIds) :=
  ⟨truthful_iff world lifecycleReport dryRun forceEmail overrideOrgIds caches,
    truthful_iff world roadmapReport dryRun forceEmail overrideOrgIds caches⟩

/-- A payload is sent, the producer raises on stopping, and the report denies the payload. -/
theorem stop_hides_sending : ¬ Truthful
    (traceOf (lifecycleNotification (localWorld (.error .kafkaError)) false false (some [1])) ⟨0,0⟩) := by
  have trace : traceOf (lifecycleNotification (localWorld (.error .kafkaError)) false false (some [1])) ⟨0,0⟩ =
      [.started "Started lifecycle notification" false false,.connecting 1,.connected,
        .processing "Processing lifecycle notification" 1,.generated 1 0,.sending 0,
        .sent "platform.notifications.ingress" 0,.completed "Lifecycle notification completed" 1,
        .cachesCleared ⟨0,0⟩,.producerFailed
          "Failed to initialize Kafka producer for lifecycle notification, no orgs were notified."] := rfl
  intro truthful
  rw [trace] at truthful
  exact truthful ⟨lifecycleReport.producerFailed,by simp [lifecycleReport]⟩ "platform.notifications.ingress" 0
    (by simp)

end Roadmap.Notificator
