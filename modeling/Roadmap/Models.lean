import Roadmap.Base.Calendar
import Roadmap.Base.Dict
import Roadmap.Base.Text

/-! Response models of the service: host details, support statuses and the rows of
the RHEL lifecycle response, with the validators that fill their derived fields. -/
namespace Roadmap

structure UUID where
  int : BitVec 128
  deriving DecidableEq

inductive SupportStatus where
  | supported
  | nearRetirement
  | retired
  | notInstalled
  | upcoming
  | unknown
  deriving DecidableEq,Repr

/-- A date field that may also be None or the text "Unknown". -/
inductive LifecycleDate where
  | missing
  | unknown
  | on (date : Date)
  deriving DecidableEq

def LifecycleDate.ofOption : Option Date → LifecycleDate
  | none => .missing
  | some date => .on date

/-- `end_date - timedelta(days=30 * months) <= current_date` is compared on ordinals. -/
def expires (endDate currentDate : Date) (months : Nat) : Prop :=
  endDate.toOrdinal - 30 * months ≤ currentDate.toOrdinal

instance (endDate currentDate : Date) (months : Nat) : Decidable (expires endDate currentDate months) :=
  inferInstanceAs (Decidable (_ ≤ _))

def calculateSupportStatus (startDate endDate : LifecycleDate) (currentDate : Date) (months : Nat) :
    SupportStatus :=
  let future := match startDate with
    | .on date => decide (currentDate < date)
    | _ => false
  if future then .upcoming
  else match endDate with
    | .on date =>
      if date < currentDate then .retired
      else if expires date currentDate months then .nearRetirement
      else .supported
    | _ => .unknown

inductive LifecycleType where
  | mainline
  | eus
  | els
  | e4s
  deriving DecidableEq,Repr

def LifecycleType.text : LifecycleType → String
  | .mainline => "mainline"
  | .eus => "EUS"
  | .els => "ELS"
  | .e4s => "E4S"

/-- Equality is that of all four fields, as for the frozen model. -/
structure SystemInfo where
  id : UUID
  displayName : String
  osMajor : Int
  osMinor : Option Int
  deriving DecidableEq

structure Meta where
  count : Nat
  total : Nat
  deriving DecidableEq

structure HostCount where
  name : String
  major : Int
  minor : Option Int
  lifecycle : LifecycleType
  deriving DecidableEq

def getSystemUuids (systemsDetail : Finset SystemInfo) : Finset UUID := systemsDetail.image (·.id)

def getRhelDisplayName (name : String) (major : Int) (minor : Option Int) : String :=
  let displayName := name ++ " " ++ toString major
  match minor with
  | some minor => displayName ++ "." ++ toString minor
  | none => displayName

structure System where
  name : String
  displayName : String
  major : Int
  minor : Option Int
  startDate : LifecycleDate
  endDate : LifecycleDate
  supportStatus : SupportStatus
  count : Nat
  lifecycleType : LifecycleType
  related : Bool
  systemsDetail : Finset SystemInfo
  systems : Finset UUID
  deriving DecidableEq

namespace System

def suffix : LifecycleType → String
  | .eus => " EUS"
  | .els => " ELS"
  | .e4s => " for SAP"
  | .mainline => ""

def status (today : Date) (startDate endDate : LifecycleDate) (count : Nat) : SupportStatus :=
  if count = 0 then .notInstalled else calculateSupportStatus startDate endDate today 3

/-- `System(...)` with the validators `set_display_name` and `update_support_status`. -/
def create (today : Date) (name : String) (major : Int) (minor : Option Int)
    (startDate endDate : LifecycleDate) (count : Nat) (lifecycleType : LifecycleType) (related : Bool)
    (systemsDetail : Finset SystemInfo) : System where
  name := name
  displayName := getRhelDisplayName name major minor ++ suffix lifecycleType
  major := major
  minor := minor
  startDate := startDate
  endDate := endDate
  supportStatus := status today startDate endDate count
  count := count
  lifecycleType := lifecycleType
  related := related
  systemsDetail := systemsDetail
  systems := getSystemUuids systemsDetail

def withoutSystems (row : System) : System := {row with systems := ∅,systemsDetail := ∅}

end System

/-- Lifecycle dates of a RHEL release. The derived display name and support status of
the entry itself are read by no function modelled here and are left out. -/
structure RHELLifecycle where
  name : String := "RHEL"
  startDate : Date
  endDate : Date
  major : Int
  minor : Option Int
  endDateE4s : Option Date := none
  endDateEls : Option Date := none
  endDateEus : Option Date := none
  deriving DecidableEq

/-- The text that versions are looked up by: `9` or `9.2`. -/
def versionKey (major : Int) : Option Int → String
  | none => toString major
  | some minor => toString major ++ "." ++ toString minor

theorem versionKey_inj {major other : Int} {minor otherMinor : Option Int} :
    versionKey major minor = versionKey other otherMinor ↔ major = other ∧ minor = otherMinor := by
  have dotless := Text.not_mem_toString '.' (by decide) (by decide)
  have split : ∀ a b : Int, (toString a ++ "." ++ toString b).toList.splitOn '.' =
      [(toString a).toList,(toString b).toList] := by
    intro a b
    have joined : (toString a ++ "." ++ toString b).toList =
        (toString a).toList ++ '.' :: (toString b).toList := by simp
    rw [joined,List.splitOn_append_cons_self_of_not_mem (dotless a),
      List.splitOn_eq_singleton (dotless b)]
  have alone : ∀ a : Int, (toString a).toList.splitOn '.' = [(toString a).toList] :=
    fun a => List.splitOn_eq_singleton (dotless a)
  constructor
  · intro equal
    have parts := congrArg (fun text => text.toList.splitOn '.') equal
    cases minor <;> cases otherMinor <;>
      simp only [versionKey,split,alone,List.cons.injEq,String.toList_inj,Text.toString_inj] at parts
    · exact ⟨parts.1,rfl⟩
    · simp at parts
    · simp at parts
    · exact ⟨parts.1,congrArg some parts.2.1⟩
  · rintro ⟨rfl,rfl⟩
    rfl

/-- A lifecycle table files every release under its own version. -/
structure LifecycleTable where
  dates : Dict String RHELLifecycle
  keyed : ∀ entry ∈ dates.items, entry.1 = versionKey entry.2.major entry.2.minor

end Roadmap
