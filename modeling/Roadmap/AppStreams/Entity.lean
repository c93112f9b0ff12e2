import Roadmap.Base.Casing
import Roadmap.Base.Json
import Roadmap.Models

/-! Application streams and the validators that fill their derived fields. -/
namespace Roadmap

inductive AppStreamImplementation where
  | module
  | package
  | scl
  | stream
  deriving DecidableEq,Repr

inductive AppStreamType where
  | stream
  | full
  | rolling
  | dependent
  deriving DecidableEq,Repr

instance : LawfulBEq (Option AppStreamType) := inferInstance

structure AppStreamEntity where
  name : String
  displayName : String := ""
  applicationStreamName : String := ""
  applicationStreamType : Option AppStreamType := none
  stream : String
  startDate : Option Date := none
  endDate : Option Date := none
  impl : AppStreamImplementation
  initialProductVersion : Option String := none
  supportStatus : SupportStatus := .unknown
  osMajor : Option Int := none
  osMinor : Option Int := none
  rolling : Bool := false
  deriving DecidableEq

/-- What hashes and equality of entities look at. -/
abbrev StreamIdentity := String × String × Option Int × Option Int

instance : LawfulBEq StreamIdentity := inferInstance

/-- The code compares hashes of these four fields; here they are compared themselves, so that no two
different ones collide. -/
def AppStreamEntity.identity (entity : AppStreamEntity) : StreamIdentity :=
  (entity.displayName,entity.applicationStreamName,entity.osMajor,entity.osMinor)

def displayNameSpecialCases : List (String × String) := [
  (".net",".NET"),("apache httpd","Apache HTTPD"),("bind","BIND"),("freeradius","FreeRADIUS"),
  ("gcc-toolset","GCC Toolset"),("idm","IDM"),
  ("jboss mod_cluster for apache","JBoss mod_cluster for Apache"),("llvm","LLVM"),
  ("mariadb","MariaDB"),("mod_auth_openidc for apache","Mod Auth OpenIDC for Apache"),
  ("mysql","MySQL"),("nginx","NGINX"),("node.js","Node.js"),("nodejs","Node.js"),
  ("openjdk","OpenJDK"),("osinfo-db","OSInfo DB"),("php","PHP"),("postgresql","PostgreSQL"),
  ("rhn-tools","RHN Tools"),("swig","SWIG")]

def firstTwoParts (text : List Char) : List Char := ['.'].intercalate ((text.splitOn '.').take 2)

private def lastChars (length : Nat) (text : List Char) : List Char := text.drop (text.length - length)

namespace AppStreamEntity

variable (casing : Casing) (table : LifecycleTable)

def validateVersion (value : Option String) : Option String :=
  value.map (fun version => String.ofList (firstTwoParts version.toList))

def setStartDate (entity : AppStreamEntity) : AppStreamEntity :=
  if entity.startDate = none then
    match entity.initialProductVersion.bind table.dates.get? with
    | some lifecycle => {entity with startDate := some lifecycle.startDate}
    | none => entity
  else entity

def setRolling (entity : AppStreamEntity) : AppStreamEntity :=
  if entity.applicationStreamType ∈ [some .rolling,some .dependent] then {entity with rolling := true}
  else entity

def setOsVersion (entity : AppStreamEntity) : Except PyError AppStreamEntity :=
  match entity.initialProductVersion.map (fun version => version.toList.splitOn '.') with
  | none => .ok entity
  | some parts =>
    match Text.intOf 10 (parts.headD []) with
    | none => .error .valueError
    | some osMajor =>
      match parts[1]? with
      | none => .ok {entity with osMajor := some osMajor,osMinor := none}
      | some part =>
        match Text.intOf 10 part with
        | none => .error .valueError
        | some osMinor => .ok {entity with osMajor := some osMajor,osMinor := some osMinor}

/-- The name for presentation, with the version number in it. -/
def versionedName (entity : AppStreamEntity) : List Char :=
  let displayName := if entity.applicationStreamName ≠ "" ∧ entity.applicationStreamName ≠ "Unknown" then
    entity.applicationStreamName.toList else entity.name.toList
  if displayName.getLast?.any (· ∈ "0123456789".toList) then displayName
  else
    let version := firstTwoParts entity.stream.toList
    if version ≠ [] ∧ casing.lowered (lastChars version.length displayName) ≠ version then
      (displayName.reverse.dropWhile Text.isSpace).reverse ++ ' ' :: version
    else displayName

/-- The name in the capitalization of the first special case it contains. -/
def capitalized (displayName : List Char) : List Char :=
  let displayNameLower := displayName.flatMap casing.fold
  match displayNameSpecialCases.find? (fun special => decide (special.1.toList <:+: displayNameLower)) with
  | some special => Text.replace special.1 special.2 displayNameLower
  | none => casing.titled displayName

def setDisplayName (entity : AppStreamEntity) : AppStreamEntity :=
  let displayName := capitalized casing (entity.versionedName casing)
  {entity with displayName := String.ofList (Text.replace "Rhel" "RHEL" (Text.replace "-" " " displayName))}

def updateSupportStatus (today : Date) (entity : AppStreamEntity) : AppStreamEntity :=
  let startDate := LifecycleDate.ofOption entity.startDate
  {entity with supportStatus := calculateSupportStatus startDate (.ofOption entity.endDate) today 6}

/-- The validators of mode `after`, in the order of the class. They run when an entity is
created and whenever a model that holds it is validated. -/
def validate (today : Date) (entity : AppStreamEntity) : Except PyError AppStreamEntity :=
  (((entity.setStartDate table).setRolling).setOsVersion).map
    (fun entity => (entity.setDisplayName casing).updateSupportStatus today)

def create (today : Date) (fields : AppStreamEntity) : Except PyError AppStreamEntity :=
  if fields.name = "" then .error .valueError
  else validate casing table today
    {fields with initialProductVersion := validateVersion fields.initialProductVersion}

def shown (today : Date) (entity : AppStreamEntity) (endDate : Option Date) : AppStreamEntity :=
  {entity with endDate := endDate}.updateSupportStatus today

/-- Validating the entity again sets its support status only, whatever its end date is by then. -/
def Settled (entity : AppStreamEntity) : Prop := ∀ today endDate supportStatus,
  validate casing table today {entity with endDate := endDate,supportStatus := supportStatus} =
    .ok (entity.shown today endDate)

/-! Each validator sets its field from fields that it leaves alone. -/

private theorem setStartDate_eq (entity : AppStreamEntity) : entity.setStartDate table =
    {entity with startDate :=
      entity.startDate.or ((entity.initialProductVersion.bind table.dates.get?).map (·.startDate))} := by
  obtain ⟨name,displayName,streamName,type,stream,startDate,endDate,impl,version⟩ := entity
  cases startDate with
  | some date => rfl
  | none =>
    simp only [setStartDate,if_true]
    cases version.bind table.dates.get? <;> rfl

private def rollingType (type : Option AppStreamType) : Bool := type ∈ [some .rolling,some .dependent]

private theorem setRolling_eq (entity : AppStreamEntity) : entity.setRolling =
    {entity with rolling := entity.rolling || rollingType entity.applicationStreamType} := by
  unfold setRolling rollingType
  by_cases rolls : entity.applicationStreamType ∈ [some .rolling,some .dependent] <;> simp [rolls]

private def osVersionOf (version : Option String) : Except PyError (Option (Int × Option Int)) :=
  match version.map (fun version => version.toList.splitOn '.') with
  | none => .ok none
  | some parts =>
    match Text.intOf 10 (parts.headD []) with
    | none => .error .valueError
    | some osMajor =>
      match parts[1]? with
      | none => .ok (some (osMajor,none))
      | some part =>
        match Text.intOf 10 part with
        | none => .error .valueError
        | some osMinor => .ok (some (osMajor,some osMinor))

private def withOsVersion (entity : AppStreamEntity) : Option (Int × Option Int) → AppStreamEntity
  | none => entity
  | some (osMajor,osMinor) => {entity with osMajor := some osMajor,osMinor := osMinor}

private theorem setOsVersion_eq (entity : AppStreamEntity) :
    entity.setOsVersion = (osVersionOf entity.initialProductVersion).map entity.withOsVersion := by
  unfold setOsVersion osVersionOf
  cases entity.initialProductVersion.map (fun version => version.toList.splitOn '.') with
  | none => rfl
  | some parts =>
    dsimp only
    cases Text.intOf 10 (parts.headD []) with
    | none => rfl
    | some osMajor =>
      dsimp only
      cases parts[1]? with
      | none => rfl
      | some part =>
        dsimp only
        cases Text.intOf 10 part <;> rfl

private def presented (name applicationStreamName stream : String) : String :=
  let entity : AppStreamEntity :=
    {name := name,applicationStreamName := applicationStreamName,stream := stream,impl := .module}
  (entity.setDisplayName casing).displayName

private theorem setDisplayName_eq (entity : AppStreamEntity) : entity.setDisplayName casing =
    let displayName := presented casing entity.name entity.applicationStreamName entity.stream
    {entity with displayName := displayName} := by
  simp only [presented,setDisplayName,versionedName]

/-- A created entity is settled, and its day of creation shows in the support status only. -/
theorem create_settled {day : Date} {fields entity : AppStreamEntity}
    (created : create casing table day fields = .ok entity) : Settled casing table entity ∧
      ∀ other, create casing table other fields = .ok (entity.shown other entity.endDate) := by
  unfold create at created ⊢
  split at created
  · contradiction
  next named =>
    simp only [if_neg named,validate,setStartDate_eq,setRolling_eq,setOsVersion_eq,
      setDisplayName_eq] at created ⊢
    cases versioned : osVersionOf (validateVersion fields.initialProductVersion) with
    | error => simp [versioned,Except.map] at created
    | ok version =>
      simp only [versioned,Except.map,Except.ok.injEq] at created ⊢
      subst created
      refine ⟨fun today endDate supportStatus => ?_,fun other => ?_⟩
      · simp only [validate,setStartDate_eq,setRolling_eq,setOsVersion_eq,setDisplayName_eq]
        cases version <;>
          simp only [withOsVersion,updateSupportStatus,versioned,Except.map,shown,
            Option.or_assoc,Option.or_self,Bool.or_assoc,Bool.or_self]
      · cases version <;> rfl

end AppStreamEntity

end Roadmap
