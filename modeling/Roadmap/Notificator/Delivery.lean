import Roadmap.Base.Effects
import Roadmap.Base.Except

/-! One run of a notification: the subscribed organisations, a Kafka producer around the whole
loop, and a payload for each organisation. What the outside answers is given by a world; what
the run does is a trace of events. -/
namespace Roadmap.Notificator
open Effects

inductive PyException where
  | kafkaError
  | kafkaBrokersNotConfigured
  | other (text : String)
  deriving DecidableEq

structure SubscriptionType where
  application : String
  eventType : String

def lifecycleSubscription : SubscriptionType := ⟨"life-cycle","retiring-lifecycle-monthly-report"⟩

def roadmapSubscription : SubscriptionType := ⟨"roadmap","roadmap-monthly-report"⟩

def devOrgIds : List Int := [1234]

def kafkaMaxRetries : Nat := 5

structure NotificatorSettings where
  dev : Bool
  bootstrapServers : List String
  notificationsTopic : String

/-- Sizes of the caches of parsed packages and of looked-up streams. -/
structure Caches where
  nevra : Nat
  appStream : Nat
  deriving DecidableEq

/-- What the calls of a run meet. Those made for an organisation are told apart by its place
in the list, so that one listed twice may fare differently. -/
structure World (Payload Message : Type) where
  orgIdSettings : Except PyException NotificatorSettings
  fetchSubscribedOrgIds : NotificatorSettings → SubscriptionType → Except PyException (List Int)
  producerSettings : Except PyException NotificatorSettings
  buildProducer : NotificatorSettings → Except PyException Unit
  start : (attempt : Nat) → Except PyException Unit
  stop : Except PyException Unit
  notificator : (place : Nat) → (orgId : Int) → Except PyException Unit
  lifecyclePayload : (place : Nat) → (orgId : Int) → (forceEmail : Bool) → Except PyException Payload
  roadmapPayload : (place : Nat) → (orgId : Int) → (forceEmail : Bool) → Except PyException Payload
  cached : (place : Nat) → (orgId : Int) → Caches → Caches
  dumps : Payload → Except PyException Message
  sendAndWait : (place : Nat) → (topic : String) → Message → Except PyException Unit

/-- Log entries with their texts, and the calls that matter outside. -/
inductive Event (Payload Message : Type) where
  | started (text : String) (dryRun forceEmail : Bool)
  | orgIdsFailed (text : String)
  | noOrgIds (text : String)
  | connecting (attempt : Nat)
  | connected
  | notConnected (attempt : Nat)
  | processing (text : String) (orgId : Int)
  | generated (orgId : Int) (payload : Payload)
  | skipped (orgId : Int) (payload : Payload)
  | sending (payload : Payload)
  | sent (topic : String) (message : Message)
  | completed (text : String) (orgId : Int)
  | failed (text : String) (orgId : Int)
  | cachesCleared (left : Caches)
  | producerFailed (text : String)
  | finished (text : String) (processedOrgIds : Nat) (dryRun : Bool)
  | someFailed (text : String) (failedOrgs : List Int) (failedCount totalCount : Nat)

structure RunState (Payload Message : Type) where
  events : List (Event Payload Message)
  caches : Caches

/-- What tells the two notifications apart. -/
structure Report where
  subscription : SubscriptionType
  payload {Payload Message : Type} (world : World Payload Message) (place : Nat) (orgId : Int)
    (forceEmail : Bool) : Except PyException Payload
  started : String
  orgIdsFailed : String
  noOrgIds : String
  processing : String
  completed : String
  failed : String
  producerFailed : String
  finished : String
  someFailed : String

def lifecycleReport : Report where
  subscription := lifecycleSubscription
  payload := World.lifecyclePayload
  started := "Started lifecycle notification"
  orgIdsFailed := "Failed to get org_ids for lifecycle notification, no orgs were notified."
  noOrgIds := "No subscribed org IDs found, skipping lifecycle notification"
  processing := "Processing lifecycle notification"
  completed := "Lifecycle notification completed"
  failed := "Failed to process lifecycle notification"
  producerFailed :=
    "Failed to initialize Kafka producer for lifecycle notification, no orgs were notified."
  finished := "Finished lifecycle notification"
  someFailed := "Lifecycle notification failed for some orgs"

def roadmapReport : Report where
  subscription := roadmapSubscription
  payload := World.roadmapPayload
  started := "Started roadmap notification"
  orgIdsFailed := "Failed to get org_ids for roadmap notification, no orgs were notified."
  noOrgIds := "No subscribed org IDs found, skipping roadmap notification"
  processing := "Processing roadmap notification"
  completed := "Roadmap notification completed"
  failed := "Failed to process roadmap notification"
  producerFailed := "Failed to get kafka producer for roadmap notification, no orgs were notified."
  finished := "Finished roadmap notification"
  someFailed := "Roadmap notification failed for some orgs"

variable {Payload Message : Type}

abbrev Run (Payload Message α : Type) := EStateM PyException (RunState Payload Message) α

def log (event : Event Payload Message) : Run Payload Message Unit :=
  modify (fun state => {state with events := state.events ++ [event]})

def clearCaches : Run Payload Message Unit := do
  modify (fun state => {state with caches := ⟨0,0⟩})
  log (.cachesCleared (← get).caches)

section Program

variable (world : World Payload Message)

def getOrgIds (subscription : SubscriptionType) : Except PyException (List Int) := do
  let settings ← world.orgIdSettings
  if settings.dev then pure devOrgIds
  else world.fetchSubscribedOrgIds settings subscription

/-- The attempts from this one on, of which so many are left. -/
def connectFrom : (attempt left : Nat) → Run Payload Message Unit
  | _,0 => pure ()
  | attempt,left + 1 => do
    log (.connecting attempt)
    match world.start attempt with
    | .ok () => log .connected
    | .error .kafkaError =>
      log (.notConnected attempt)
      if attempt = kafkaMaxRetries then throw .kafkaError
      else connectFrom (attempt + 1) left
    | .error error => throw error

def startProducer : Run Payload Message Unit := connectFrom world 1 kafkaMaxRetries

/-- `async with kafka_producer() as producer`, the producer being known by its topic. -/
def kafkaProducer {α : Type} (body : (topic : String) → Run Payload Message α) : Run Payload Message α := do
  let settings ← raised world.producerSettings
  if settings.dev ∨ settings.bootstrapServers ≠ [] then raised (world.buildProducer settings)
  else throw .kafkaBrokersNotConfigured
  startProducer world
  try body settings.notificationsTopic finally raised world.stop

def sendNotification (place : Nat) (topic : String) (payload : Payload) : Run Payload Message Unit := do
  log (.sending payload)
  let message ← raised (world.dumps payload)
  raised (world.sendAndWait place topic message)
  log (.sent topic message)

variable (report : Report) (dryRun forceEmail : Bool)

def notifyOrg (topic : String) (failedOrgs : List Int) (org : Int × Nat) :
    Run Payload Message (List Int) := do
  let (orgId,place) := org
  log (.processing report.processing orgId)
  try
    raised (world.notificator place orgId)
    modify (fun state => {state with caches := world.cached place orgId state.caches})
    let payload ← raised (report.payload world place orgId forceEmail)
    log (.generated orgId payload)
    if dryRun then log (.skipped orgId payload)
    else sendNotification world place topic payload
    log (.completed report.completed orgId)
    pure failedOrgs
  catch _ =>
    log (.failed report.failed orgId)
    pure (failedOrgs ++ [orgId])
  finally clearCaches

def notifyOrgs (orgIds : List Int) (topic : String) : Run Payload Message (List Int) :=
  orgIds.zipIdx.foldlM (notifyOrg world report dryRun forceEmail topic) []

def orgIdsOf (overrideOrgIds : Option (List Int)) : Except PyException (List Int) :=
  match overrideOrgIds with
  | some orgIds => .ok orgIds
  | none => getOrgIds world report.subscription

def notification (overrideOrgIds : Option (List Int)) : Run Payload Message Unit := do
  log (.started report.started dryRun forceEmail)
  match orgIdsOf world report overrideOrgIds with
  | .error _ => log (.orgIdsFailed report.orgIdsFailed)
  | .ok [] => log (.noOrgIds report.noOrgIds)
  | .ok orgIds =>
    match ← observing (kafkaProducer world (notifyOrgs world report dryRun forceEmail orgIds)) with
    | .error _ => log (.producerFailed report.producerFailed)
    | .ok failedOrgs =>
      log (.finished report.finished orgIds.length dryRun)
      if failedOrgs ≠ [] then
        log (.someFailed report.someFailed failedOrgs failedOrgs.length orgIds.length)

def lifecycleNotification (overrideOrgIds : Option (List Int)) : Run Payload Message Unit :=
  notification world lifecycleReport dryRun forceEmail overrideOrgIds

def roadmapNotification (overrideOrgIds : Option (List Int)) : Run Payload Message Unit :=
  notification world roadmapReport dryRun forceEmail overrideOrgIds

/-! What a run leaves in the trace. -/

@[simp] theorem run_log (event : Event Payload Message) (state : RunState Payload Message) :
    (log event).run state = .ok () {state with events := state.events ++ [event]} := rfl

@[simp] theorem run_clearCaches (state : RunState Payload Message) : clearCaches.run state =
    .ok () ⟨state.events ++ [.cachesCleared ⟨0,0⟩],⟨0,0⟩⟩ := rfl

/-- The payload built for an organisation at a place of the list. -/
def built (org : Int × Nat) : Except PyException Payload := do
  world.notificator org.2 org.1
  report.payload world org.2 org.1 forceEmail

def post (place : Nat) (topic : String) (payload : Payload) : Except PyException Message := do
  let message ← world.dumps payload
  world.sendAndWait place topic message
  pure message

def delivered (topic : String) (org : Int × Nat) : Except PyException Message := do
  post world org.2 topic (← built world report forceEmail org)

def Fails (topic : String) (org : Int × Nat) : Bool :=
  if dryRun then !(built world report forceEmail org).toBool
  else !(delivered world report forceEmail topic org).toBool

def orgEvents (topic : String) (org : Int × Nat) : List (Event Payload Message) :=
  .processing report.processing org.1 ::
    (match built world report forceEmail org with
      | .error _ => [.failed report.failed org.1]
      | .ok payload => .generated org.1 payload ::
        if dryRun then [.skipped org.1 payload,.completed report.completed org.1]
        else .sending payload :: match delivered world report forceEmail topic org with
          | .error _ => [.failed report.failed org.1]
          | .ok message => [.sent topic message,.completed report.completed org.1]) ++
    [.cachesCleared ⟨0,0⟩]

theorem run_sendNotification (place : Nat) (topic : String) (payload : Payload)
    (state : RunState Payload Message) : (sendNotification world place topic payload).run state =
      match post world place topic payload with
      | .ok message => .ok () {state with events := state.events ++ [.sending payload,.sent topic message]}
      | .error error => .error error {state with events := state.events ++ [.sending payload]} := by
  cases dumped : world.dumps payload with
  | error error => simp [sendNotification,post,dumped,Except.error_bind]
  | ok message =>
    cases accepted : world.sendAndWait place topic message with
    | error error => simp [sendNotification,post,dumped,accepted,Except.ok_bind]
    | ok _ => simp [sendNotification,post,dumped,accepted,Except.ok_bind,pure,Except.pure]

theorem run_notifyOrg (topic : String) (failedOrgs : List Int) (org : Int × Nat)
    (state : RunState Payload Message) :
    (notifyOrg world report dryRun forceEmail topic failedOrgs org).run state =
      .ok (failedOrgs ++ if Fails world report dryRun forceEmail topic org then [org.1] else [])
        ⟨state.events ++ orgEvents world report dryRun forceEmail topic org,⟨0,0⟩⟩ := by
  obtain ⟨orgId,place⟩ := org
  cases created : world.notificator place orgId with
  | error error =>
    simp [notifyOrg,orgEvents,Fails,delivered,built,Except.error_bind,Except.toBool,created]
  | ok _ =>
    cases gathered : report.payload world place orgId forceEmail with
    | error error =>
      simp [notifyOrg,orgEvents,Fails,delivered,built,Except.ok_bind,Except.error_bind,Except.toBool,created,gathered]
    | ok payload =>
      have ready : built world report forceEmail (orgId,place) = .ok payload := by
        simp [built,Except.ok_bind,created,gathered]
      have posted := run_sendNotification world place topic payload
      cases dryRun with
      | true => simp [notifyOrg,orgEvents,Fails,Except.toBool,created,gathered,ready]
      | false =>
        have outcome : delivered world report forceEmail topic (orgId,place) = post world place topic payload := by
          rw [delivered,ready]
          rfl
        cases accepted : post world place topic payload with
        | error error => simp [notifyOrg,orgEvents,Fails,Except.toBool,created,gathered,ready,posted,outcome,accepted]
        | ok message => simp [notifyOrg,orgEvents,Fails,Except.toBool,created,gathered,ready,posted,outcome,accepted]

def failing (topic : String) (orgIds : List Int) : List Int :=
  (orgIds.zipIdx.filter (Fails world report dryRun forceEmail topic)).map Prod.fst

theorem run_notifyOrgs (orgIds : List Int) (topic : String) (state : RunState Payload Message) :
    ∃ caches, (notifyOrgs world report dryRun forceEmail orgIds topic).run state =
      .ok (failing world report dryRun forceEmail topic orgIds)
        ⟨state.events ++ orgIds.zipIdx.flatMap (orgEvents world report dryRun forceEmail topic),caches⟩ := by
  let step := notifyOrg world report dryRun forceEmail topic
  let holds := fun (done : List (Int × Nat)) (failedOrgs : List Int) (last : RunState Payload Message) =>
    failedOrgs = (done.filter (Fails world report dryRun forceEmail topic)).map Prod.fst ∧
      last.events = state.events ++ done.flatMap (orgEvents world report dryRun forceEmail topic)
  have round : ∀ done org failedOrgs middle, holds done failedOrgs middle → ∃ next last,
      (step failedOrgs org).run middle = .ok next last ∧ holds (done ++ [org]) next last := by
    intro done org failedOrgs middle ⟨failed,events⟩
    refine ⟨_,_,run_notifyOrg world report dryRun forceEmail topic failedOrgs org middle,?_,?_⟩
    · cases fails : Fails world report dryRun forceEmail topic org <;> simp [failed,fails]
    · simp [events]
  have start : holds [] [] state := ⟨rfl,by simp⟩
  obtain ⟨failedOrgs,last,ran,failed,events⟩ := foldlM_invariant holds round orgIds.zipIdx start
  refine ⟨last.caches,?_⟩
  rw [List.nil_append] at failed events
  rw [notifyOrgs,failing,← failed,← events]
  exact ran

/-- Some attempt from this one on succeeds, after attempts that failed for Kafka's reasons. -/
def Connects (attempt left : Nat) : Prop :=
  ∃ ahead < left, world.start (attempt + ahead) = .ok () ∧
    ∀ earlier < ahead, world.start (attempt + earlier) = .error .kafkaError

def Event.connection : Event Payload Message → Bool
  | .connecting _ | .connected | .notConnected _ => true
  | _ => false

theorem connects_succ (attempt left : Nat) : Connects world attempt (left + 1) ↔
    world.start attempt = .ok () ∨
      world.start attempt = .error .kafkaError ∧ Connects world (attempt + 1) left := by
  have shift : ∀ ahead, attempt + (ahead + 1) = attempt + 1 + ahead := by omega
  constructor
  · intro ⟨ahead,bound,reached,before⟩
    cases ahead with
    | zero => exact Or.inl reached
    | succ ahead =>
      rw [shift] at reached
      refine Or.inr ⟨before 0 (Nat.succ_pos ahead),ahead,by omega,reached,fun earlier less => ?_⟩
      rw [← shift]
      exact before (earlier + 1) (by omega)
  · intro either
    rcases either with reached | ⟨failed,ahead,bound,reached,before⟩
    · exact ⟨0,Nat.succ_pos left,reached,fun earlier less => absurd less (Nat.not_lt_zero earlier)⟩
    · rw [← shift] at reached
      refine ⟨ahead + 1,by omega,reached,fun earlier less => ?_⟩
      cases earlier with
      | zero => exact failed
      | succ earlier =>
        rw [shift]
        exact before earlier (by omega)

theorem run_connectFrom {attempt left : Nat} (range : attempt + left = kafkaMaxRetries + 1)
    (positive : 0 < left) (state : RunState Payload Message) : ∃ added : List (Event Payload Message),
      (∀ event ∈ added, event.connection = true) ∧
      (Connects world attempt left ∧ (connectFrom world attempt left).run state =
          .ok () ⟨state.events ++ added,state.caches⟩ ∨
        ¬ Connects world attempt left ∧ ∃ error, (connectFrom world attempt left).run state =
          .error error ⟨state.events ++ added,state.caches⟩) := by
  induction left generalizing attempt state with
  | zero => omega
  | succ left ih =>
    rw [connects_succ]
    rcases tried : world.start attempt with (_ | _ | text) | _
    · -- The only failure that is tried again, unless it was the last attempt.
      by_cases last : attempt = kafkaMaxRetries
      · refine ⟨[.connecting attempt,.notConnected attempt],by simp [Event.connection],
          Or.inr ⟨?_,.kafkaError,?_⟩⟩
        · have exhausted : left = 0 := by omega
          simp [Connects,exhausted]
        · rw [last] at tried
          simp [connectFrom,tried,last]
      · obtain ⟨added,quiet,ran⟩ := ih (show attempt + 1 + left = kafkaMaxRetries + 1 by omega) (by omega)
          ⟨state.events ++ [.connecting attempt,.notConnected attempt],state.caches⟩
        refine ⟨[.connecting attempt,.notConnected attempt] ++ added,?_,?_⟩
        · simpa using ⟨rfl,rfl,quiet⟩
        · simpa [connectFrom,tried,last] using ran
    · refine ⟨[.connecting attempt],by simp [Event.connection],Or.inr ⟨by simp,.kafkaBrokersNotConfigured,?_⟩⟩
      simp [connectFrom,tried]
    · refine ⟨[.connecting attempt],by simp [Event.connection],Or.inr ⟨by simp,.other text,?_⟩⟩
      simp [connectFrom,tried]
    · refine ⟨[.connecting attempt,.connected],by simp [Event.connection],Or.inl ⟨by simp,?_⟩⟩
      simp [connectFrom,tried]

structure Starts (settings : NotificatorSettings) : Prop where
  loaded : world.producerSettings = .ok settings
  brokers : settings.dev = true ∨ settings.bootstrapServers ≠ []
  made : world.buildProducer settings = .ok ()
  connects : Connects world 1 kafkaMaxRetries

/-- A producer that starts surrounds the body; one that does not raises before it. -/
theorem run_kafkaProducer {α : Type} (body : String → Run Payload Message α) (state : RunState Payload Message) :
    ∃ added : List (Event Payload Message), (∀ event ∈ added, event.connection = true) ∧
      ((∃ settings, Starts world settings ∧ (kafkaProducer world body).run state =
          (try body settings.notificationsTopic finally raised world.stop).run
            ⟨state.events ++ added,state.caches⟩) ∨
        (¬ ∃ settings, Starts world settings) ∧ ∃ error, (kafkaProducer world body).run state =
          .error error ⟨state.events ++ added,state.caches⟩) := by
  rcases loaded : world.producerSettings with error | settings
  · refine ⟨[],by simp,Or.inr ⟨fun ⟨settings,starts⟩ => ?_,error,?_⟩⟩
    · rw [starts.loaded] at loaded
      cases loaded
    · simp [kafkaProducer,loaded]
  by_cases brokers : settings.dev = true ∨ settings.bootstrapServers ≠ []
  case neg =>
    refine ⟨[],by simp,Or.inr ⟨fun ⟨other,starts⟩ => ?_,.kafkaBrokersNotConfigured,?_⟩⟩
    · rw [starts.loaded] at loaded
      cases loaded
      exact brokers starts.brokers
    · simp [kafkaProducer,loaded,if_neg brokers]
  rcases made : world.buildProducer settings with error | ⟨⟩
  · refine ⟨[],by simp,Or.inr ⟨fun ⟨other,starts⟩ => ?_,error,?_⟩⟩
    · rw [starts.loaded] at loaded
      cases loaded
      rw [starts.made] at made
      cases made
    · simp [kafkaProducer,loaded,if_pos brokers,made]
  obtain ⟨added,quiet,ran⟩ := run_connectFrom world
    (show 1 + kafkaMaxRetries = kafkaMaxRetries + 1 from rfl) (by decide) state
  refine ⟨added,quiet,?_⟩
  rcases ran with ⟨connects,ran⟩ | ⟨never,error,ran⟩
  · refine Or.inl ⟨settings,⟨loaded,brokers,made,connects⟩,?_⟩
    simp [kafkaProducer,startProducer,loaded,if_pos brokers,made,ran]
  · refine Or.inr ⟨fun ⟨other,starts⟩ => never starts.connects,error,?_⟩
    simp [kafkaProducer,startProducer,loaded,if_pos brokers,made,ran]

def traceOf (program : Run Payload Message Unit) (caches : Caches) : List (Event Payload Message) :=
  match program.run ⟨[],caches⟩ with
  | .ok _ last => last.events
  | .error _ last => last.events

/-- The ways a run can go, with the trace of each. -/
inductive Course (overrideOrgIds : Option (List Int)) : List (Event Payload Message) → Prop where
  | orgIdsFailed {error : PyException} (ids : orgIdsOf world report overrideOrgIds = .error error) :
    Course overrideOrgIds [.started report.started dryRun forceEmail,.orgIdsFailed report.orgIdsFailed]
  | noOrgIds (ids : orgIdsOf world report overrideOrgIds = .ok []) :
    Course overrideOrgIds [.started report.started dryRun forceEmail,.noOrgIds report.noOrgIds]
  | unstarted {orgIds : List Int} {added : List (Event Payload Message)}
    (ids : orgIdsOf world report overrideOrgIds = .ok orgIds) (unstarted : ¬ ∃ settings, Starts world settings)
    (quiet : ∀ event ∈ added, event.connection = true) :
    Course overrideOrgIds (.started report.started dryRun forceEmail :: added ++
      [.producerFailed report.producerFailed])
  | unstopped {orgIds : List Int} {settings : NotificatorSettings} {added : List (Event Payload Message)}
    {error : PyException} (ids : orgIdsOf world report overrideOrgIds = .ok orgIds)
    (starts : Starts world settings) (quiet : ∀ event ∈ added, event.connection = true)
    (stopped : world.stop = .error error) :
    Course overrideOrgIds (.started report.started dryRun forceEmail :: added ++
      orgIds.zipIdx.flatMap (orgEvents world report dryRun forceEmail settings.notificationsTopic) ++
      [.producerFailed report.producerFailed])
  | finished {orgIds : List Int} {settings : NotificatorSettings} {added : List (Event Payload Message)}
    (ids : orgIdsOf world report overrideOrgIds = .ok orgIds) (starts : Starts world settings)
    (quiet : ∀ event ∈ added, event.connection = true) (stopped : world.stop = .ok ()) :
    Course overrideOrgIds (.started report.started dryRun forceEmail :: added ++
      orgIds.zipIdx.flatMap (orgEvents world report dryRun forceEmail settings.notificationsTopic) ++
      (.finished report.finished orgIds.length dryRun ::
        let failedOrgs := failing world report dryRun forceEmail settings.notificationsTopic orgIds
        if failedOrgs ≠ [] then [.someFailed report.someFailed failedOrgs failedOrgs.length orgIds.length]
        else []))

theorem course_notification (overrideOrgIds : Option (List Int)) (caches : Caches) :
    Course world report dryRun forceEmail overrideOrgIds
      (traceOf (notification world report dryRun forceEmail overrideOrgIds) caches) := by
  rcases ids : orgIdsOf world report overrideOrgIds with error | orgIds
  · have trace : traceOf (notification world report dryRun forceEmail overrideOrgIds) caches =
        [.started report.started dryRun forceEmail,.orgIdsFailed report.orgIdsFailed] := by
      simp [traceOf,notification,ids]
    rw [trace]
    exact .orgIdsFailed ids
  cases orgIds with
  | nil =>
    have trace : traceOf (notification world report dryRun forceEmail overrideOrgIds) caches =
        [.started report.started dryRun forceEmail,.noOrgIds report.noOrgIds] := by
      simp [traceOf,notification,ids]
    rw [trace]
    exact .noOrgIds ids
  | cons orgId rest =>
    obtain ⟨added,quiet,ran⟩ := run_kafkaProducer world
      (notifyOrgs world report dryRun forceEmail (orgId :: rest))
      ⟨[.started report.started dryRun forceEmail],caches⟩
    rcases ran with ⟨settings,starts,ran⟩ | ⟨unstarted,error,ran⟩
    · obtain ⟨left,looped⟩ := run_notifyOrgs world report dryRun forceEmail (orgId :: rest)
        settings.notificationsTopic ⟨.started report.started dryRun forceEmail :: added,caches⟩
      rcases stopped : world.stop with error | ⟨⟩
      · have course : Course world report dryRun forceEmail overrideOrgIds _ := .unstopped ids starts quiet stopped
        convert course
        simp [traceOf,notification,ids,ran,looped,stopped]
      · have course : Course world report dryRun forceEmail overrideOrgIds _ := .finished ids starts quiet stopped
        convert course
        by_cases clean : failing world report dryRun forceEmail settings.notificationsTopic (orgId :: rest) = []
        · simp [traceOf,notification,ids,ran,looped,stopped,clean]
        · simp [traceOf,notification,ids,ran,looped,stopped,clean]
    · have course : Course world report dryRun forceEmail overrideOrgIds _ := .unstarted ids unstarted quiet
      convert course
      simp [traceOf,notification,ids,ran]

end Program

end Roadmap.Notificator
