import Roadmap.AppStreams.Nevra

/-! Package strings with an epoch: the parser finds the parts that the string was written from. -/
namespace Roadmap

/-- The parts of `name-epoch:version-release.architecture`, the version by its components. -/
structure EpochPackage where
  name : List Char
  epoch : List Char
  first : List Char
  others : List (List Char)
  release : List Char
  arch : List Char
  named : name ≠ []
  plainName : ':' ∉ name
  plainEpoch : '-' ∉ epoch ∧ ':' ∉ epoch
  components : ∀ component ∈ first :: others,
    component ≠ [] ∧ '.' ∉ component ∧ '-' ∉ component ∧ ':' ∉ component
  plainRelease : ':' ∉ release
  plainArch : '.' ∉ arch

namespace EpochPackage

variable (package : EpochPackage)

def version : List Char := ['.'].intercalate (package.first :: package.others)

def text : String := .ofList (package.name ++ '-' :: (package.epoch ++ ':' ::
  (package.version ++ '-' :: (package.release ++ '.' :: package.arch))))

/-- What is left of the version after its first components. -/
private theorem partition_components {first : List Char} (plain : '.' ∉ first) (others : List (List Char)) :
    NEVRA.partitionOr '.' (['.'].intercalate (first :: others)) = (first,['.'].intercalate others) := by
  cases others with
  | nil => rw [List.intercalate_singleton,NEVRA.partitionOr,Text.partition_absent plain]; rfl
  | cons second rest =>
    rw [List.intercalate_cons_cons,List.append_assoc,NEVRA.partitionOr]
    exact congrArg (fun parts : Option (List Char × List Char) => parts.getD _)
      (Text.partition_append plain _)

theorem not_mem_version {char : Char} (separator : char ≠ '.')
    (free : ∀ component ∈ package.first :: package.others, char ∉ component) : char ∉ package.version := by
  have general : ∀ parts : List (List Char), (∀ part ∈ parts, char ∉ part) →
      char ∉ ['.'].intercalate parts := by
    intro parts
    induction parts with
    | nil => simp
    | cons part rest ih =>
      intro free
      have later := ih (fun other member => free other (by simp [member]))
      cases rest with
      | nil => simpa using free part (by simp)
      | cons second rest =>
        rw [List.intercalate_cons_cons]
        simp [free part (by simp),separator,later]
  exact general _ free

/-- The parser undoes writing: it returns the name, the epoch, the release and the architecture,
and the version as its first component, its second one and the rest. -/
theorem decoded : NEVRA.fromString package.text = .ok {
    name := .ofList package.name,epoch := .ofList package.epoch
    major := .ofList package.first,minor := .ofList (package.others.headD [])
    z := .ofList (['.'].intercalate package.others.tail)
    release := .ofList package.release,arch := .ofList package.arch} := by
  have components := package.components
  have dashless := package.not_mem_version (by decide) (fun component member => (components component member).2.2.1)
  have major := partition_components (components package.first (by simp)).2.1 package.others
  have minor : NEVRA.partitionOr '.' (['.'].intercalate package.others) =
      (package.others.headD [],['.'].intercalate package.others.tail) := by
    cases same : package.others with
    | nil => rfl
    | cons second rest => exact partition_components (components second (by simp [same])).2.1 rest
  rw [text,NEVRA.fromString_epoch package.plainName package.plainEpoch dashless package.plainArch]
  simp only [version,major,minor]

end EpochPackage

end Roadmap
