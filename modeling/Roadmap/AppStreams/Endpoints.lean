import Roadmap.AppStreams.Entity
import Roadmap.Common

/-! The endpoints that list the catalogue. They return the entities that the process loaded,
and the response models validate these in place: what one response writes to an entity is
what the next one reads. -/
namespace Roadmap

structure FilterParams where
  name : Option String := none
  kind : Option AppStreamImplementation := none
  applicationStreamName : Option String := none
  applicationStreamType : Option AppStreamType := none

/-- The tables of the data modules hold references to the entities. -/
structure Tables (ρ : Type) where
  appStreamModules : List ρ
  appStreamPackages : Dict Int (Dict String ρ)

inductive Listing where
  | items
  | streams
  | major (majorVersion : Int)
  | modules (majorVersion : Int)
  | packages (majorVersion : Int)
  | majorStreams (majorVersion : Int)
  deriving DecidableEq

structure Request where
  listing : Listing
  filterParams : FilterParams := {}

structure AppStreamsResponse where
  metaData : Meta
  data : List AppStreamEntity
  deriving DecidableEq

structure Process (ρ : Type) where
  tables : Tables ρ
  appStreams : List ρ
  heap : ρ → AppStreamEntity

section Endpoints

variable {ρ : Type} [DecidableEq ρ] (casing : Casing) (table : LifecycleTable) (today : Date)

/-- `if text := ...` is false of an empty text. -/
private def given (text : Option String) : Option String := text.filter (· ≠ "")

def filterAppStreamResults (params : FilterParams) (item : AppStreamEntity) : Bool :=
  (given params.name).all (fun name => Text.contains (casing.casefold name) item.name) &&
  params.kind.all (fun kind => kind = item.impl) &&
  (given params.applicationStreamName).all (fun name =>
    Text.contains (casing.casefold name) (casing.casefold item.applicationStreamName)) &&
  params.applicationStreamType.all (fun type => some type = item.applicationStreamType)

def Tables.modulesPackages (tables : Tables ρ) : List ρ :=
  tables.appStreamModules ++ tables.appStreamPackages.values.flatMap Dict.values

/-- APP_STREAMS, a set of entities that compares them by identity and keeps the first. The
order of a set is not specified; here it is that of insertion. -/
def onlyAppStreams (heap : ρ → AppStreamEntity) (data : List ρ) : List ρ :=
  let streams := data.filter (fun ref => (heap ref).applicationStreamType ∈ [some .stream,some .full])
  streams.foldl (fun kept ref =>
    if (heap ref).identity ∈ kept.map (fun other => (heap other).identity) then kept
    else kept ++ [ref]) []

def sortedBy (text : AppStreamEntity → String) (heap : ρ → AppStreamEntity) (refs : List ρ) :
    Except PyError (List ρ) :=
  sortedByAttrs (fun ref => text (heap ref)) (fun ref => text (heap ref)) refs

def Process.select (process : Process ρ) (request : Request) : Except PyError (List ρ) :=
  let ofMajor := fun majorVersion : Int =>
    List.filter (fun ref => (process.heap ref).osMajor = some majorVersion)
  let filtered := List.filter (fun ref =>
    filterAppStreamResults casing request.filterParams (process.heap ref))
  match request.listing with
  | .items => sortedBy (·.name) process.heap (filtered process.tables.modulesPackages)
  | .streams => sortedBy (·.displayName) process.heap (filtered process.appStreams)
  | .major majorVersion =>
    sortedBy (·.name) process.heap (filtered (ofMajor majorVersion process.tables.modulesPackages))
  | .modules majorVersion =>
    sortedBy (·.name) process.heap (filtered (ofMajor majorVersion process.tables.appStreamModules))
  | .packages majorVersion =>
    match process.tables.appStreamPackages.get? majorVersion with
    | some packages => sortedBy (·.name) process.heap (filtered packages.values)
    | none => .error .keyError
  | .majorStreams majorVersion =>
    sortedBy (·.displayName) process.heap (filtered (ofMajor majorVersion process.appStreams))

/-- Validating a response runs the validators of the entities it holds, on these entities. -/
def validateData (refs : List ρ) (heap : ρ → AppStreamEntity) : Except PyError (ρ → AppStreamEntity) :=
  refs.foldlM (fun heap ref =>
    ((heap ref).validate casing table today).map (Function.update heap ref)) heap

def rollingEndDate (entity : AppStreamEntity) : Option Date :=
  if entity.rolling then (table.dates.get? (pyStr entity.osMajor)).map (·.endDate) else none

def setEndDates (refs : List ρ) (heap : ρ → AppStreamEntity) : ρ → AppStreamEntity :=
  refs.foldl (fun heap ref =>
    let endDate := (rollingEndDate table (heap ref)).or (heap ref).endDate
    Function.update heap ref {heap ref with endDate := endDate}) heap

/-- The listing of all items has a response model of its own, which sets the end dates of
rolling streams and validates the entities once more. -/
def respond (process : Process ρ) (request : Request) :
    Except PyError (AppStreamsResponse × (ρ → AppStreamEntity)) := do
  let refs ← process.select casing request
  let heap ← validateData casing table today refs process.heap
  let heap ← if request.listing = .items then
      validateData casing table today refs (setEndDates table refs heap)
    else pure heap
  return (⟨⟨refs.length,refs.length⟩,refs.map heap⟩,heap)

/-- The response, and the process after it. A request that fails to select its data has
written nothing; validating entities that were loaded does not fail. -/
def serve (process : Process ρ) (request : Request) : Except PyError AppStreamsResponse × Process ρ :=
  match respond casing table today process request with
  | .ok (response,heap) => (.ok response,{process with heap := heap})
  | .error error => (.error error,process)

def responses (process : Process ρ) : List Request → List (Except PyError AppStreamsResponse)
  | [] => []
  | request :: rest =>
    let served := serve casing table today process request
    served.1 :: responses served.2 rest

/-- The process has loaded its entities on a day, each from the arguments of its constructor. -/
structure Started (day : Date) (tables : Tables ρ) (fields : ρ → AppStreamEntity) (process : Process ρ) :
    Prop where
  created : ∀ ref, (fields ref).create casing table day = .ok (process.heap ref)
  shared : process.tables = tables
  streams : process.appStreams = onlyAppStreams process.heap tables.modulesPackages

end Endpoints

end Roadmap
