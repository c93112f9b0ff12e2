import Roadmap.Api.Isolation
import Roadmap.Rbac

/-! From the identity header to the host groups that a caller may read, by RBAC v1 or by Kessel,
and from there to the answer. -/
namespace Roadmap

/-- What becomes of a request to the RBAC service. -/
inductive RbacReply where
  | statusError (status : Nat) (text : String)
  | notJson
  | timeout
  | failed
  | data (body : Json)

structure KesselSubject where
  userId : Json
  domain : String

/-- What becomes of building the client and listing the workspaces of a subject. -/
inductive KesselReply where
  | httpException (status : Nat) (detail : String)
  | failed
  | workspaces (ids : List String)

/-- What the process talks to. `decode` is base64, UTF-8 and JSON decoding, of which every
failure is a ValueError. -/
structure Platform where
  decode : String → Option Json
  rbac : (url : String) → (identity : Option String) → RbacReply
  kessel : KesselSubject → KesselReply

section Access

variable (platform : Platform) (settings : Settings) (xRhIdentity : Option String)

def decodeIdentity : Except PyError Json :=
  match xRhIdentity with
  | none => .ok (.obj [])
  | some header => match platform.decode header with
    | some idHeader => idHeader.getOr "identity" (.obj [])
    | none => .error .valueError

def decodeHeader : Except PyError Json := do
  let identity ← decodeIdentity platform xRhIdentity
  identity.getOr "org_id" (.str "")

def queryRbac : Except PyError Json :=
  if settings.dev then
    .ok (.arr [.obj [("permission",.str "inventory:*:*"),("resourceDefinitions",.arr [])]])
  else if settings.rbacUrl = "" then .ok (.arr [.obj []])
  else
    let url := settings.rbacUrl ++ "/api/rbac/v1/access/?application=inventory&limit=1000"
    match platform.rbac url (xRhIdentity.filter (· ≠ "")) with
    | .statusError status text => .error (.httpException status text)
    | .notJson => .error (.httpException 502 "Invalid JSON response from RBAC service")
    | .timeout => .error (.httpException 504 "RBAC service timed out")
    | .failed => .error (.httpException 502 "Error communicating with RBAC service")
    | .data body => body.getOr "data" (.arr [.obj []])

/-- The host permissions among the items of the response, which need not be dictionaries. -/
def hostPermissionsOf : List Json → Except PyError (List Rbac.Permission)
  | [] => .ok []
  | .obj perm :: rest => do
    let isHost ← ((perm.lookup "permission").getD .null).memberOf Rbac.inventoryAccessPerms
    let others ← hostPermissionsOf rest
    return if isHost then perm :: others else others
  | _ :: _ => .error .attributeError

def allowedHostGroupsRbac (permissions : Json) : Except PyError (Finset (Option String)) := do
  let accepted ← hostPermissionsOf (← permissions.elements)
  if accepted.isEmpty then .error Rbac.notAuthorized else Rbac.collectAllowed accepted ∅

/-- `_USER_ID_FIELD.get(type)`; lists and dictionaries are no keys. -/
def userIdField : Json → Except PyError (Option String)
  | .str type => .ok (if type = "User" then some "user"
      else if type = "ServiceAccount" then some "service_account" else none)
  | .arr _ | .obj _ => .error .typeError
  | _ => .ok none

def subjectFromIdentity (identity : Json) (domain : String) : Except PyError KesselSubject := do
  let field ← userIdField (← identity.getOr "type" (.str ""))
  let userId ← match field with
    | some field => do (← identity.getOr field (.obj [])).get "user_id"
    | none => .ok .null
  if userId.truthy then .ok ⟨userId,domain⟩ else .error Rbac.notAuthorized

def allowedHostGroupsKessel : Except PyError (Finset (Option String)) := do
  if settings.dev then .ok ∅
  else
    let identity ← decodeIdentity platform xRhIdentity
    let subject ← subjectFromIdentity identity settings.kesselPrincipalDomain
    match platform.kessel subject with
    | .httpException status detail => .error (.httpException status detail)
    | .failed => .error (.httpException 502 "Error communicating with authorization service")
    | .workspaces ids =>
      if ids.toFinset = ∅ then .error Rbac.notAuthorized else .ok (ids.toFinset.image some)

def getAllowedHostGroups : Except PyError (Finset (Option String)) := do
  if settings.kesselEnabled then allowedHostGroupsKessel platform settings xRhIdentity
  else allowedHostGroupsRbac (← queryRbac platform settings xRhIdentity)

end Access

/-- The org is bound as the header gives it: NULL equals no org, and the statement fails on a
value that is neither a text nor NULL. In dev mode another org is bound in its place. -/
def Service.answerFor (service : Service) (orgId : Json) (hostGroups : Finset (Option String))
    (hosts : List HostRecord) (request : InventoryRequest) : Except PyError InventoryResponse :=
  match orgId with
  | .str orgId => service.answer ⟨orgId,hostGroups⟩ hosts request
  | .null => service.answer ⟨"",hostGroups⟩ (if service.dev then hosts else []) request
  | _ => if service.dev then service.answer ⟨"",hostGroups⟩ hosts request else .error queryFailed

def Service.handle (service : Service) (platform : Platform) (xRhIdentity : Option String)
    (hosts : List HostRecord) (request : InventoryRequest) : Except PyError InventoryResponse := do
  let orgId ← decodeHeader platform xRhIdentity
  let hostGroups ← getAllowedHostGroups platform service.settings xRhIdentity
  service.answerFor orgId hostGroups hosts request

end Roadmap
