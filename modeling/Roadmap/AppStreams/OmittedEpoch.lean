import Roadmap.AppStreams.Nevra

/-! Package strings written from their parts. The parser splits a string with an epoch from
its end and one without an epoch from its start. -/
namespace Roadmap

/-- The parts of a package string of the documented format. -/
structure PackageParts where
  name : List Char
  version : List Char
  release : List Char
  arch : List Char
  named : name ≠ []
  components : ∀ component ∈ version.splitOn '.', component ≠ []
  plainName : ':' ∉ name
  plainVersion : '-' ∉ version ∧ ':' ∉ version
  plainRelease : '-' ∉ release ∧ ':' ∉ release
  plainArch : '.' ∉ arch ∧ '-' ∉ arch ∧ ':' ∉ arch

namespace PackageParts

variable (parts : PackageParts)

/-- `version-release.architecture`. -/
def vra : List Char := parts.version ++ '-' :: (parts.release ++ '.' :: parts.arch)

/-- `name-version-release.architecture`. -/
def withoutEpoch : String := .ofList (parts.name ++ '-' :: parts.vra)

/-- `name-epoch:version-release.architecture`. -/
def withEpoch (epoch : List Char) : String := .ofList (parts.name ++ '-' :: (epoch ++ ':' :: parts.vra))

def nevra (epoch : List Char) : NEVRA :=
  let (major,minorZ) := NEVRA.partitionOr '.' parts.version
  let (minor,z) := NEVRA.partitionOr '.' minorZ
  {
    name := .ofList parts.name,epoch := .ofList epoch,major := .ofList major,minor := .ofList minor
    z := .ofList z,release := .ofList parts.release,arch := .ofList parts.arch}

theorem colon_not_mem_vra : ':' ∉ parts.vra := by
  have version := parts.plainVersion.2
  have release := parts.plainRelease.2
  have arch := parts.plainArch.2.2
  simp [vra,version,release,arch]

theorem splitVersion_vra : NEVRA.splitVersion parts.vra = .ok (parts.version,parts.release,parts.arch) := by
  have shape : parts.vra = (parts.version ++ '-' :: parts.release) ++ '.' :: parts.arch := by simp [vra]
  rw [NEVRA.splitVersion,shape,Text.rpartition_append parts.plainArch.1]
  simp only [Text.partition_append parts.plainVersion.1]

theorem fromString_withEpoch {epoch : List Char} (dashless : '-' ∉ epoch) (plain : ':' ∉ epoch) :
    NEVRA.fromString (parts.withEpoch epoch) = .ok (parts.nevra epoch) :=
  NEVRA.fromString_epoch parts.plainName ⟨dashless,plain⟩ parts.plainVersion.1 parts.plainArch.1

/-- Without an epoch the name ends at the first hyphen of the string. -/
theorem splitName_withoutEpoch {before after : List Char} (free : '-' ∉ before)
    (split : parts.name ++ '-' :: parts.vra = before ++ '-' :: after) :
    NEVRA.splitName parts.withoutEpoch.toList = .ok (before,['0'],after) := by
  have colonless : ':' ∉ parts.name ++ '-' :: parts.vra := by
    simp [parts.plainName,parts.colon_not_mem_vra]
  rw [withoutEpoch,String.toList_ofList,NEVRA.splitName,Text.partition_absent colonless,split,
    NEVRA.partitionOr,Text.partition_append free]
  rfl

theorem fromString_withoutEpoch (hyphenless : '-' ∉ parts.name) :
    NEVRA.fromString parts.withoutEpoch = .ok (parts.nevra ['0']) := by
  rw [NEVRA.fromString,parts.splitName_withoutEpoch hyphenless rfl]
  simp only [bind,Except.bind,splitVersion_vra]
  rfl

theorem name_cut (hyphen : '-' ∈ parts.name) :
    NEVRA.fromString parts.withoutEpoch ≠ .ok (parts.nevra ['0']) := by
  intro same
  obtain ⟨before,after,split,free⟩ := List.eq_append_cons_of_mem hyphen
  have cut : parts.name ++ '-' :: parts.vra = before ++ '-' :: (after ++ '-' :: parts.vra) := by
    simp [split]
  have name := NEVRA.fromString_name (parts.splitName_withoutEpoch free cut) same
  have equal : parts.name = before := String.ofList_inj.mp name
  exact free (equal ▸ hyphen)

/-- An omitted epoch is epoch 0 exactly for the names without a hyphen. -/
theorem omitted_epoch : NEVRA.fromString parts.withoutEpoch = NEVRA.fromString (parts.withEpoch ['0']) ↔
    '-' ∉ parts.name := by
  rw [parts.fromString_withEpoch (by decide) (by decide)]
  constructor
  · exact fun same hyphen => parts.name_cut hyphen same
  · exact parts.fromString_withoutEpoch

end PackageParts

private def ansibleCore : PackageParts where
  name := "ansible-core".toList
  version := "2.14.17".toList
  release := "1.el9".toList
  arch := "x86_64".toList
  named := by decide
  components := by decide
  plainName := by decide
  plainVersion := by decide
  plainRelease := by decide
  plainArch := by decide

/-- The name in `ansible-core-2.14.17-1.el9.x86_64` is read as `ansible`. -/
theorem hyphenated_name_cut :
    NEVRA.fromString ansibleCore.withoutEpoch ≠ NEVRA.fromString (ansibleCore.withEpoch ['0']) := by
  decide

end Roadmap
