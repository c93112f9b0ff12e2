import Roadmap.Api.Access
import Roadmap.Notificator.Outcomes

/-! The admin endpoints of the notifications: who may call them, what they accept, and the runs
they leave to the background. -/
namespace Roadmap.Admin
open Effects Notificator

/-- `require_internal_user`. Outside production everyone passes. A user that is no dictionary is
found out only after the `try`, and an internal user is any with a true value in the field. -/
def requireInternalUser (platform : Platform) (envName : String) (xRhIdentity : Option String) :
    Except PyError Unit :=
  if envName ≠ "prod" then .ok ()
  else match xRhIdentity with
    | none => .error (.httpException 401 "Missing x-rh-identity header")
    | some header =>
      let read : Except PyError Json := do
        let payload ← (platform.decode header).elim (.error .valueError) .ok
        let user ← (← payload.getOr "identity" (.obj [])).get "user"
        return if user.truthy then user else .obj []
      match read with
      | .error _ => .error (.httpException 401 "Invalid x-rh-identity header")
      | .ok user => do
        let isInternal ← user.getOr "is_internal" (.bool false)
        if isInternal.truthy then .ok ()
        else .error (.httpException 403 "Admin endpoints are restricted to internal users")

inductive OrgIds where
  | one (orgId : Int)
  | many (orgIds : List Int)

def OrgIds.list : OrgIds → List Int
  | one orgId => [orgId]
  | many orgIds => orgIds

/-- The ValueError of the validator becomes a response of status 422. -/
def validateOrgIds (value : OrgIds) : Except PyError OrgIds :=
  if value.list.isEmpty then .error (.httpException 422 "org_ids must contain at least one org ID")
  else if value.list.any (fun orgId => decide (orgId ≤ 0)) then
    .error (.httpException 422 "All org IDs must be positive integers")
  else .ok value

structure CustomNotificatorRequest where
  orgIds : OrgIds
  forceEmail : Bool := false

structure AllNotificatorRequest where
  confirmAll : Bool := false
  forceEmail : Bool := false

/-- The kinds for which routers are built. -/
inductive NotificationKind where
  | lifecycle
  | roadmap
  deriving DecidableEq

def NotificationKind.label : NotificationKind → String
  | lifecycle => "lifecycle"
  | roadmap => "roadmap"

/-- The subscription and the `send` of a kind. -/
def NotificationKind.report : NotificationKind → Report
  | lifecycle => lifecycleReport
  | roadmap => roadmapReport

/-- A call of `_trigger_background` that waits for its response to be sent. -/
structure Task where
  kind : NotificationKind
  orgIds : Option (List Int)
  dryRun : Bool
  forceEmail : Bool

inductive AdminRequest where
  | subscribedOrgs
  | custom (payload : CustomNotificatorRequest) (dryRun : Bool := true)
  | all (payload : AllNotificatorRequest) (dryRun : Bool := true)

inductive AdminResponse where
  | subscribedOrgs (orgIds : List Int) (count : Nat)
  | custom (message : String) (requestedOrgIds : List Int) (dryRun forceEmail : Bool)
  | all (message : String) (dryRun forceEmail : Bool)

section Endpoints

variable {Payload Message : Type} (world : World Payload Message)
  (runtimeError : PyException → Option String) (kind : NotificationKind)

/-- `runtimeError` gives the text of an exception that is a RuntimeError. -/
def getSubscribedOrgs : Except PyError AdminResponse :=
  match getOrgIds world kind.report.subscription with
  | .ok orgIds => .ok (.subscribedOrgs orgIds orgIds.length)
  | .error error => match runtimeError error with
    | some text => .error (.httpException 503 text)
    | none => .error (.httpException 500 "Failed to fetch subscribed org IDs")

def accepted : String := kind.label.capitalize ++ " notification accepted"

def triggerCustom (payload : CustomNotificatorRequest) (dryRun : Bool) : AdminResponse × List Task :=
  let uniqueOrgIds := payload.orgIds.list.toFinset.sort (· ≤ ·)
  (.custom (accepted kind) uniqueOrgIds dryRun payload.forceEmail,
    [⟨kind,some uniqueOrgIds,dryRun,payload.forceEmail⟩])

def triggerAll (payload : AllNotificatorRequest) (dryRun : Bool) : Except PyError (AdminResponse × List Task) :=
  if !payload.confirmAll then
    .error (.httpException 400 "Set confirm_all=true to trigger notifications for all orgs.")
  else .ok (.all (accepted kind) dryRun payload.forceEmail,[⟨kind,none,dryRun,payload.forceEmail⟩])

/-- The caller is checked before the body is. -/
def respond (platform : Platform) (envName : String) (xRhIdentity : Option String) :
    AdminRequest → Except PyError (AdminResponse × List Task)
  | .subscribedOrgs => do
    requireInternalUser platform envName xRhIdentity
    return (← getSubscribedOrgs world runtimeError kind,[])
  | .custom payload dryRun => do
    requireInternalUser platform envName xRhIdentity
    let orgIds ← validateOrgIds payload.orgIds
    return triggerCustom kind {payload with orgIds := orgIds} dryRun
  | .all payload dryRun => do
    requireInternalUser platform envName xRhIdentity
    triggerAll kind payload dryRun

/-- What `_trigger` makes of an exception of the notification. -/
def triggerError (error : PyException) : PyError ⊕ PyException :=
  match error with
  | .kafkaBrokersNotConfigured => .inl (.httpException 503 "Kafka brokers not configured")
  | error => match runtimeError error with
    | some text => .inl (.httpException 500 text)
    | none => .inr error

/-- The run of a task, and the exception it logs as an unexpected failure. -/
def triggerBackground (task : Task) : Run Payload Message (Option (PyError ⊕ PyException)) := do
  match ← observing (notification world task.kind.report task.dryRun task.forceEmail task.orgIds) with
  | .ok () => return none
  | .error error => return some (triggerError runtimeError error)

end Endpoints

end Roadmap.Admin
