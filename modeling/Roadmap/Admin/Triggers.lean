import Roadmap.Admin.Notifications
import Roadmap.Notificator.Sent

/-! Admin requests and the runs they leave behind, in any order: each accepted request has one
run, and no run without an accepted request. -/
namespace Roadmap.Admin
open Effects Notificator

variable {Payload Message : Type}

/-- What happens in the process: a request is answered, or a waiting run takes place. -/
inductive AdminEvent (Payload Message : Type) where
  | asks (world : World Payload Message) (xRhIdentity : Option String) (kind : NotificationKind)
    (request : AdminRequest)
  | runs (world : World Payload Message) (position : Nat)

/-- A run that took place: the world it met, and what it left in the trace. -/
structure AdminRun (Payload Message : Type) where
  task : Task
  world : World Payload Message
  events : List (Event Payload Message)
  failure : Option (PyError ⊕ PyException)

/-- The runs that wait, and those that took place. -/
structure AdminProcess (Payload Message : Type) where
  pending : List Task
  ran : List (AdminRun Payload Message)
  caches : Caches

section Process

variable (platform : Platform) (envName : String) (runtimeError : PyException → Option String)

/-- The runs that an event leaves to the background. -/
def tasksOf : AdminEvent Payload Message → List Task
  | .asks world xRhIdentity kind request =>
    match respond world runtimeError kind platform envName xRhIdentity request with
    | .ok (_,tasks) => tasks
    | .error _ => []
  | .runs _ _ => []

def step (process : AdminProcess Payload Message) (event : AdminEvent Payload Message) :
    AdminProcess Payload Message :=
  match event with
  | .asks .. => {process with pending := process.pending ++ tasksOf platform envName runtimeError event}
  | .runs world position => match process.pending[position]? with
    | none => process
    | some task => match (triggerBackground world runtimeError task).run ⟨[],process.caches⟩ with
      | .ok failure last =>
        ⟨process.pending.eraseIdx position,process.ran ++ [⟨task,world,last.events,failure⟩],last.caches⟩
      | .error error last =>
        ⟨process.pending.eraseIdx position,process.ran ++ [⟨task,world,last.events,some (.inr error)⟩],last.caches⟩

def run (events : List (AdminEvent Payload Message)) : AdminProcess Payload Message :=
  events.foldl (step platform envName runtimeError) ⟨[],[],⟨0,0⟩⟩

end Process

section Background

theorem run_notification (world : World Payload Message) (report : Report) (dryRun forceEmail : Bool)
    (overrideOrgIds : Option (List Int)) (caches : Caches) : ∃ last,
    (notification world report dryRun forceEmail overrideOrgIds).run ⟨[],caches⟩ = .ok () last ∧
      last.events = traceOf (notification world report dryRun forceEmail overrideOrgIds) caches := by
  have returns : ∃ last,
      (notification world report dryRun forceEmail overrideOrgIds).run ⟨[],caches⟩ = .ok () last := by
    rcases ids : orgIdsOf world report overrideOrgIds with error | orgIds
    · simp [notification,ids]
    cases orgIds with
    | nil => simp [notification,ids]
    | cons orgId rest =>
      rcases ran : (kafkaProducer world (notifyOrgs world report dryRun forceEmail (orgId :: rest))).run
        ⟨[.started report.started dryRun forceEmail],caches⟩ with ⟨failedOrgs,last⟩ | ⟨error,last⟩
      · by_cases clean : failedOrgs = [] <;> simp [notification,ids,ran,clean]
      · simp [notification,ids,ran]
  obtain ⟨last,ran⟩ := returns
  exact ⟨last,ran,by rw [traceOf,ran]⟩

/-- A run in the background never fails: the notification handles all exceptions itself. -/
theorem run_triggerBackground (world : World Payload Message) (runtimeError : PyException → Option String)
    (task : Task) (caches : Caches) : ∃ last,
    (triggerBackground world runtimeError task).run ⟨[],caches⟩ = .ok none last ∧
      last.events = traceOf (notification world task.kind.report task.dryRun task.forceEmail task.orgIds)
        caches := by
  obtain ⟨last,ran,events⟩ := run_notification world task.kind.report task.dryRun task.forceEmail task.orgIds caches
  refine ⟨last,?_,events⟩
  rw [triggerBackground,EStateM.run_bind,run_observing,ran]
  rfl

end Background

/-! Who may ask, and for what. -/

/-- The header names an internal user, or the environment does not ask. -/
def Admitted (platform : Platform) (envName : String) (xRhIdentity : Option String) : Prop :=
  envName = "prod" → ∃ header payload identity user isInternal, xRhIdentity = some header ∧
    platform.decode header = some payload ∧ payload.getOr "identity" (.obj []) = .ok identity ∧
    identity.get "user" = .ok user ∧ user.getOr "is_internal" (.bool false) = .ok isInternal ∧
    isInternal.truthy = true

theorem admitted_of_ok {platform : Platform} {envName : String} {xRhIdentity : Option String}
    (passed : requireInternalUser platform envName xRhIdentity = .ok ()) :
    Admitted platform envName xRhIdentity := by
  intro production
  unfold requireInternalUser at passed
  rw [if_neg (not_not.mpr production)] at passed
  cases xRhIdentity with
  | none => cases passed
  | some header =>
    dsimp only at passed
    split at passed
    · cases passed
    · rename_i user read
      obtain ⟨payload,decoded,read⟩ := Except.bind_ok.mp read
      obtain ⟨identity,found,read⟩ := Except.bind_ok.mp read
      obtain ⟨named,held,chosen⟩ := Except.bind_ok.mp read
      obtain ⟨isInternal,flag,decided⟩ := Except.bind_ok.mp passed
      have decoded : platform.decode header = some payload := by
        cases decoding : platform.decode header with
        | none => simp [decoding] at decoded
        | some other =>
          rw [decoding] at decoded
          exact congrArg some (Except.ok.inj decoded)
      have internal : isInternal.truthy = true := by
        by_contra external
        rw [if_neg external] at decided
        cases decided
      by_cases given : named.truthy = true
      · rw [if_pos given] at chosen
        cases chosen
        exact ⟨header,payload,identity,user,isInternal,rfl,decoded,found,held,flag,internal⟩
      · rw [if_neg given] at chosen
        cases chosen
        cases flag
        cases internal

theorem validateOrgIds_ok {value orgIds : OrgIds} (valid : validateOrgIds value = .ok orgIds) :
    orgIds = value ∧ value.list ≠ [] ∧ ∀ orgId ∈ value.list, 0 < orgId := by
  unfold validateOrgIds at valid
  split at valid
  · cases valid
  · rename_i nonempty
    split at valid
    · cases valid
    · rename_i positive
      refine ⟨(Except.ok.inj valid).symm,by simpa using nonempty,fun orgId member => ?_⟩
      by_contra other
      exact positive (List.any_eq_true.mpr ⟨orgId,member,decide_eq_true (not_lt.mp other)⟩)

/-- A run that an accepted request asked for: of the request's kind and flags, for its orgs in
order without repetition, or for the subscribed ones where that was confirmed. -/
def Ordered (platform : Platform) (envName : String) (events : List (AdminEvent Payload Message))
    (task : Task) : Prop :=
  ∃ world xRhIdentity request, .asks world xRhIdentity task.kind request ∈ events ∧
    Admitted platform envName xRhIdentity ∧
    match request with
    | .subscribedOrgs => False
    | .custom payload dryRun => task.dryRun = dryRun ∧ task.forceEmail = payload.forceEmail ∧
      ∃ orgIds, task.orgIds = some orgIds ∧ orgIds ≠ [] ∧ orgIds.Pairwise (· < ·) ∧
        (∀ orgId, orgId ∈ orgIds ↔ orgId ∈ payload.orgIds.list) ∧ ∀ orgId ∈ orgIds, 0 < orgId
    | .all payload dryRun => task.dryRun = dryRun ∧ task.forceEmail = payload.forceEmail ∧
      payload.confirmAll = true ∧ task.orgIds = none

section Runs

variable (platform : Platform) (envName : String) (runtimeError : PyException → Option String)

theorem tasksOf_ordered {events : List (AdminEvent Payload Message)} {event : AdminEvent Payload Message}
    (listed : event ∈ events) {task : Task} (member : task ∈ tasksOf platform envName runtimeError event) :
    Ordered platform envName events task := by
  cases event with
  | runs world position => cases member
  | asks world xRhIdentity kind request =>
    simp only [tasksOf] at member
    split at member
    case h_2 => contradiction
    case h_1 response tasks responded =>
      cases request with
      | subscribedOrgs =>
        obtain ⟨_,-,rest⟩ := Except.bind_ok.mp responded
        obtain ⟨_,-,same⟩ := Except.bind_ok.mp rest
        cases same
        contradiction
      | custom payload dryRun =>
        obtain ⟨_,passed,rest⟩ := Except.bind_ok.mp responded
        obtain ⟨orgIds,valid,same⟩ := Except.bind_ok.mp rest
        cases same
        rw [List.mem_singleton] at member
        subst member
        obtain ⟨rfl,nonempty,positive⟩ := validateOrgIds_ok valid
        have same : ∀ orgId, orgId ∈ payload.orgIds.list.toFinset.sort (· ≤ ·) ↔ orgId ∈ payload.orgIds.list :=
          fun orgId => (Finset.mem_sort _).trans List.mem_toFinset
        refine ⟨world,xRhIdentity,_,listed,admitted_of_ok passed,rfl,rfl,_,rfl,?_,?_,same,?_⟩
        · obtain ⟨orgId,member⟩ := List.exists_mem_of_ne_nil _ nonempty
          exact List.ne_nil_of_mem ((same orgId).mpr member)
        · exact (Finset.sortedLT_sort _).pairwise
        · exact fun orgId member => positive orgId ((same orgId).mp member)
      | all payload dryRun =>
        obtain ⟨_,passed,rest⟩ := Except.bind_ok.mp responded
        rw [triggerAll] at rest
        split at rest
        · cases rest
        · rename_i confirmed
          cases rest
          rw [List.mem_singleton] at member
          subst member
          exact ⟨world,xRhIdentity,_,listed,admitted_of_ok passed,rfl,rfl,by simpa using confirmed,rfl⟩

variable {platform envName runtimeError}

theorem run_snoc (events : List (AdminEvent Payload Message)) (event : AdminEvent Payload Message) :
    run platform envName runtimeError (events ++ [event]) =
      step platform envName runtimeError (run platform envName runtimeError events) event := by
  rw [run,List.foldl_append]
  rfl

/-- What took place of a task: nothing failed unhandled, and payloads were built in the world of the
run, for listed organisations, and sent in earnest only. -/
structure Carried (events : List (AdminEvent Payload Message)) (ran : AdminRun Payload Message) : Prop where
  handled : ran.failure = none
  took : ∃ position, .runs ran.world position ∈ events
  sent : ∀ payload ∈ ran.events.filterMap Event.payload, ran.task.dryRun = false ∧
    ∃ orgIds, orgIdsOf ran.world ran.task.kind.report ran.task.orgIds = .ok orgIds ∧
      ∃ org ∈ orgIds.zipIdx, built ran.world ran.task.kind.report ran.task.forceEmail org = .ok payload

theorem Carried.later {events : List (AdminEvent Payload Message)} {ran : AdminRun Payload Message}
    (carried : Carried events ran) (event : AdminEvent Payload Message) : Carried (events ++ [event]) ran where
  handled := carried.handled
  took := carried.took.imp (fun _ => List.mem_append_left _)
  sent := carried.sent

theorem run_carried (events : List (AdminEvent Payload Message)) :
    let process := run platform envName runtimeError events
    (process.ran.map AdminRun.task ++ process.pending).Perm (events.flatMap (tasksOf platform envName runtimeError)) ∧
      ∀ entry ∈ process.ran, Carried events entry := by
  induction events using List.reverseRecOn with
  | nil => exact ⟨.nil,fun _ => nofun⟩
  | append_singleton events event ih =>
    obtain ⟨balance,carried⟩ := ih
    rw [run_snoc,List.flatMap_append,List.flatMap_singleton]
    generalize run platform envName runtimeError events = process at balance carried ⊢
    have before : ∀ entry ∈ process.ran, Carried (events ++ [event]) entry :=
      fun entry member => (carried entry member).later event
    cases event with
    | asks world xRhIdentity kind request =>
      refine ⟨?_,before⟩
      rw [step,← List.append_assoc]
      exact balance.append_right _
    | runs world position =>
      cases found : process.pending[position]? with
      | none =>
        simp only [step,found]
        exact ⟨by simpa [tasksOf] using balance,before⟩
      | some task =>
        obtain ⟨last,ran,trace⟩ := run_triggerBackground world runtimeError task process.caches
        simp only [step,found,ran]
        obtain ⟨inside,here⟩ := List.getElem?_eq_some_iff.mp found
        have taken : (task :: process.pending.eraseIdx position).Perm process.pending :=
          here ▸ List.getElem_cons_eraseIdx_perm inside
        refine ⟨?_,fun entry member => ?_⟩
        · rw [List.map_append,List.append_assoc,tasksOf,List.append_nil]
          exact (taken.append_left _).trans balance
        · rcases List.mem_append.mp member with earlier | now
          · exact before entry earlier
          · rw [List.mem_singleton] at now
            subst now
            refine ⟨rfl,⟨position,List.mem_append_right _ (List.mem_singleton_self _)⟩,fun payload sent => ?_⟩
            rw [trace] at sent
            obtain ⟨real,orgIds,-,ids,-,ready⟩ :=
              mem_sent (course_notification world _ task.dryRun task.forceEmail task.orgIds process.caches) sent
            exact ⟨real,orgIds,ids,ready⟩

/-- Over every sequence of requests and runs, each accepted request is run once or still waits,
what runs was asked for by an admitted caller, and nothing more is sent than was asked for. -/
theorem admin_runs_ordered (platform : Platform) (envName : String)
    (runtimeError : PyException → Option String) (events : List (AdminEvent Payload Message)) :
    let process := run platform envName runtimeError events
    (process.ran.map AdminRun.task ++ process.pending).Perm (events.flatMap (tasksOf platform envName runtimeError)) ∧
      (∀ task ∈ process.ran.map AdminRun.task ++ process.pending, Ordered platform envName events task) ∧
      ∀ entry ∈ process.ran, Carried events entry := by
  obtain ⟨balance,carried⟩ := @run_carried _ _ platform envName runtimeError events
  refine ⟨balance,fun task member => ?_,carried⟩
  obtain ⟨event,listed,inside⟩ := List.mem_flatMap.mp (balance.mem_iff.mp member)
  exact tasksOf_ordered platform envName runtimeError listed inside

end Runs

end Roadmap.Admin
