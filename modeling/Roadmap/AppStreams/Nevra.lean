import Roadmap.Base.Except
import Roadmap.Base.Json
import Roadmap.Inventory

/-! Package strings `name-[epoch:]version-release.architecture`. -/
namespace Roadmap

structure NEVRA where
  name : String
  epoch : String
  major : String
  minor : String
  z : String
  release : String
  arch : String
  deriving DecidableEq

namespace NEVRA

/-- `text.partition(separator)`, where a missing separator leaves the rest empty. -/
def partitionOr (separator : Char) (text : List Char) : List Char × List Char :=
  (Text.partition separator text).getD (text,[])

/-- Name, epoch and the rest. Without an epoch the name ends at the first hyphen. -/
def splitName (package : List Char) : Except PyError (List Char × List Char × List Char) :=
  match Text.partition ':' package with
  | some (name,vra) => match Text.rpartition '-' name with
    | some (name,epoch) => .ok (name,epoch,vra)
    | none => .error .valueError
  | none => let parts := partitionOr '-' package
    .ok (parts.1,['0'],parts.2)

def splitVersion (vra : List Char) : Except PyError (List Char × List Char × List Char) :=
  match Text.rpartition '.' vra with
  | none => .error .valueError
  | some (versionRelease,arch) => match Text.partition '-' versionRelease with
    | none => .error .valueError
    | some (version,release) => .ok (version,release,arch)

def fromString (package : String) : Except PyError NEVRA := do
  let (name,epoch,vra) ← splitName package.toList
  let (version,release,arch) ← splitVersion vra
  let (major,minorZ) := partitionOr '.' version
  let (minor,z) := partitionOr '.' minorZ
  return {
    name := .ofList name,epoch := .ofList epoch,major := .ofList major,minor := .ofList minor
    z := .ofList z,release := .ofList release,arch := .ofList arch}

def WellFormed (package : String) : Prop := ∃ nevra, fromString package = .ok nevra

def nameOf (package : String) : String :=
  match fromString package with
  | .ok nevra => nevra.name
  | .error _ => ""

def names (packages : List String) : Except PyError (Finset String) :=
  (packages.mapM fromString).map (fun nevras => (nevras.map (·.name)).toFinset)

theorem names_ok {packages : List String} (formed : ∀ package ∈ packages, WellFormed package) :
    names packages = .ok (packages.map nameOf).toFinset := by
  have parsed : ∃ nevras, packages.mapM fromString = .ok nevras ∧
      nevras.map (·.name) = packages.map nameOf := by
    induction packages with
    | nil => exact ⟨[],rfl,rfl⟩
    | cons package rest ih =>
      obtain ⟨nevra,read⟩ := formed package (by simp)
      obtain ⟨nevras,others,same⟩ := ih (fun other member => formed other (by simp [member]))
      refine ⟨nevra :: nevras,?_,by simp [nameOf,read,same]⟩
      simp [List.mapM_cons,read,others,bind,Except.bind,pure,Except.pure]
  obtain ⟨nevras,read,same⟩ := parsed
  simp [names,read,same,Except.map]

theorem formed_of_names {packages : List String} {result : Finset String}
    (ok : names packages = .ok result) : ∀ package ∈ packages, WellFormed package := by
  intro package member
  unfold names at ok
  cases parsed : packages.mapM fromString with
  | error _ => simp [parsed,Except.map] at ok
  | ok nevras =>
    obtain ⟨nevra,-,read⟩ := Except.mapM_image parsed member
    exact ⟨nevra,read⟩

/-- With an epoch the string is split at its first colon, and each side of it at the separators
next to the colon. -/
theorem fromString_epoch {name epoch version release arch : List Char} (plainName : ':' ∉ name)
    (plainEpoch : '-' ∉ epoch ∧ ':' ∉ epoch) (plainVersion : '-' ∉ version) (plainArch : '.' ∉ arch) :
    fromString (.ofList (name ++ '-' :: (epoch ++ ':' :: (version ++ '-' :: (release ++ '.' :: arch))))) =
      let (major,minorZ) := partitionOr '.' version
      let (minor,z) := partitionOr '.' minorZ
      .ok {
        name := .ofList name,epoch := .ofList epoch,major := .ofList major,minor := .ofList minor
        z := .ofList z,release := .ofList release,arch := .ofList arch} := by
  have front : name ++ '-' :: (epoch ++ ':' :: (version ++ '-' :: (release ++ '.' :: arch))) =
      (name ++ '-' :: epoch) ++ ':' :: (version ++ '-' :: (release ++ '.' :: arch)) := by simp
  have back : version ++ '-' :: (release ++ '.' :: arch) = (version ++ '-' :: release) ++ '.' :: arch := by
    simp
  have colonless : ':' ∉ name ++ '-' :: epoch := by simp [plainName,plainEpoch]
  rw [fromString,String.toList_ofList,splitName,front,Text.partition_append colonless]
  simp only [Text.rpartition_append plainEpoch.1]
  rw [Except.ok_bind,splitVersion,back,Text.rpartition_append plainArch]
  simp only [Text.partition_append plainVersion]
  rfl

theorem fromString_name {package : String} {name epoch vra : List Char} {nevra : NEVRA}
    (split : splitName package.toList = .ok (name,epoch,vra)) (read : fromString package = .ok nevra) :
    nevra.name = .ofList name := by
  rw [fromString,split] at read
  obtain ⟨_,same,rest⟩ := Except.bind_ok.mp read
  cases same
  obtain ⟨_,-,built⟩ := Except.bind_ok.mp rest
  rw [← Except.ok.inj built]

end NEVRA

def WellFormedPackages (system : HostRowWithPackages) : Prop :=
  ∀ package ∈ system.packages.getD [], NEVRA.WellFormed package

end Roadmap
