import Roadmap.AppStreams.Scan

/-! The application streams of the inventory with their hosts, and the streams related to
them: newer ones of the same product. -/
namespace Roadmap

structure RelevantAppStream where
  name : String
  applicationStreamName : String
  applicationStreamType : Option AppStreamType
  displayName : String
  osMajor : Option Int
  osMinor : Option Int
  startDate : Option Date
  endDate : Option Date
  count : Nat
  rolling : Bool
  supportStatus : SupportStatus
  systemsDetail : Finset SystemInfo
  systems : Finset UUID
  related : Bool
  deriving DecidableEq

structure RelevantAppStreamsResponse where
  metaData : Meta
  data : List RelevantAppStream
  deriving DecidableEq

section Related

variable (casing : Casing) (today : Date)

/-- A stream as version numbers; `none` is ValueError. -/
def normalizeVersion (stream : String) : Option (Int ×ₗ Int ×ₗ Int) :=
  if casing.casefold stream = "rhel8" then some (toLex (8,toLex (0,0)))
  else
    let versions := stream.toList.splitOn '.'
    let number := fun position => match versions[position]? with
      | some part => Text.intOf 10 part
      | none => some 0
    (number 0).bind (fun major => (number 1).bind (fun minor => (number 2).map (fun micro =>
      toLex (major,toLex (minor,micro)))))

def streamsLt (first second : String) : Bool :=
  match normalizeVersion casing first,normalizeVersion casing second with
  | some first,some second => first < second
  | _,_ => first < second

/-- `text.rstrip("0123456789. ")`. -/
def baseName (text : String) : List Char :=
  (text.toList.reverse.dropWhile (· ∈ "0123456789. ".toList)).reverse

def isNotEol (app : AppStreamEntity) : Bool := app.endDate.all (fun endDate => today < endDate)

def shouldAddSameRhelVersion (app installed : AppStreamEntity) : Bool :=
  if app.stream = "" ∨ installed.stream = "" then false
  else streamsLt casing installed.stream app.stream && isNotEol today app

def shouldAddNewerRhelVersion (app installed : AppStreamEntity) : Bool :=
  match app.startDate,installed.startDate with
  | some start,some installedStart => decide (installedStart < start) && isNotEol today app
  | _,_ => false

/-- The installed stream makes another one related. A missing version and version 0 are alike. -/
def suggests (installed app : AppStreamEntity) : Bool :=
  decide (baseName app.applicationStreamName = baseName installed.applicationStreamName) &&
  match app.osMajor.filter (· ≠ 0),installed.osMajor.filter (· ≠ 0) with
  | some major,some installedMajor =>
    if major = installedMajor then shouldAddSameRhelVersion casing today app installed
    else if installedMajor < major then shouldAddNewerRhelVersion today app installed
    else false
  | _,_ => false

variable (catalogue : Catalogue)

def suggestions (key : AppStreamKey) : List AppStreamKey :=
  (catalogue.modulesPackages.filter (suggests casing today key.appStreamEntity)).map
    (fun app => ⟨key.name,app⟩)

/-- Of equal keys the set keeps the first. -/
def relatedAppStreams (appStreams : List AppStreamKey) : List AppStreamKey :=
  let relateds := (appStreams.flatMap (suggestions casing today catalogue)).foldl
    (fun relateds key => relateds.set key ()) (Dict.empty : Dict AppStreamKey Unit)
  relateds.keys.filter (fun key => !appStreams.any (· == key))

/-- `RelevantAppStream(...)` with the validator of its support status. -/
def relevantAppStream (appStream : AppStreamKey) (systems : Finset SystemInfo) (related : Bool) :
    RelevantAppStream :=
  let entity := appStream.appStreamEntity
  {
    name := appStream.name
    applicationStreamName := entity.applicationStreamName
    applicationStreamType := entity.applicationStreamType
    displayName := entity.displayName
    osMajor := entity.osMajor
    osMinor := entity.osMinor
    startDate := entity.startDate
    endDate := entity.endDate
    count := systems.card
    rolling := entity.rolling
    supportStatus := if systems.card = 0 then .notInstalled
      else calculateSupportStatus (.ofOption entity.startDate) (.ofOption entity.endDate) today 6
    systemsDetail := systems
    systems := getSystemUuids systems
    related := related
  }

def RelevantAppStream.sortAttrs (row : RelevantAppStream) : String ×ₗ Int ×ₗ Int :=
  toLex (row.name,toLex (row.osMajor.getD (-2),row.osMinor.getD (-2)))

def installedRow (entry : AppStreamKey × Finset SystemInfo) : Option RelevantAppStream :=
  if entry.1.appStreamEntity.rolling then none else some (relevantAppStream today entry.1 entry.2 false)

def relatedRow (appStream : AppStreamKey) : Option RelevantAppStream :=
  if appStream.appStreamEntity.rolling then none else some (relevantAppStream today appStream ∅ true)

def relevantRows (systemsByStream : SystemsByStream) (related : Bool) : List RelevantAppStream :=
  let installed := systemsByStream.items.filterMap (installedRow today)
  if related then
    let relateds := relatedAppStreams casing today catalogue systemsByStream.keys
    installed ++ relateds.filterMap (relatedRow today)
  else installed

def recountStreams (rows : List RelevantAppStream) : Meta := ⟨rows.length,(rows.map (·.count)).sum⟩

def buildRelevantAppStreams (systemsByStream : SystemsByStream) (related : Bool) :
    Except PyError RelevantAppStreamsResponse :=
  let rows := relevantRows casing today catalogue systemsByStream related
  (sortedByAttrs (·.name) (·.sortAttrs) rows).map (fun data => ⟨recountStreams rows,data⟩)

def getRelevantAppStreamsForHosts (related : Bool) (systems : List HostRowWithPackages) :
    Except PyError RelevantAppStreamsResponse := do
  let systemsByStream ← systemsByAppStream casing catalogue systems
  buildRelevantAppStreams casing today catalogue systemsByStream related

end Related

end Roadmap
