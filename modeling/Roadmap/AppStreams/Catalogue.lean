import Roadmap.AppStreams.Entity
import Roadmap.Base.Dict

/-! The catalogue of application streams and the lookup tables built from it. -/
namespace Roadmap

abbrev ModuleKey := String × Int × String

/-- The data modules: APP_STREAM_MODULES, APP_STREAM_PACKAGES and MODULE_PACKAGES. -/
structure Catalogue where
  appStreamModules : List AppStreamEntity
  appStreamPackages : Dict Int (Dict String AppStreamEntity)
  modulePackages : Dict ModuleKey (Finset String)

namespace Catalogue

variable (catalogue : Catalogue)

def osMajorsByAppName : Dict String (Finset (Option Int)) :=
  .group Dict.addTo (catalogue.appStreamModules.map (fun asm => (asm.name,asm.osMajor))) .empty

def modulesPackages : List AppStreamEntity :=
  catalogue.appStreamModules ++ catalogue.appStreamPackages.values.flatMap Dict.values

def appStreamModulesByKey : Dict (String × Option Int × String) AppStreamEntity :=
  catalogue.appStreamModules.foldl (fun byKey asm => byKey.set (asm.name,asm.osMajor,asm.stream) asm) .empty

/-- The modules of a RHEL major version that list a package name. -/
def owners (osMajor : Int) (pkg : String) : List String :=
  (catalogue.modulePackages.items.filter (fun entry =>
    decide (entry.1.2.1 = osMajor ∧ pkg ∈ entry.2))).map (fun entry => entry.1.1)

/-- SHARED_PACKAGE_NAMES_BY_OS_MAJOR: the package names with more than one owner. -/
def sharedPackageNames (osMajor : Int) (names : Finset String) : Finset String :=
  names.filter (fun pkg => 1 < (catalogue.owners osMajor pkg).toFinset.card)

end Catalogue

end Roadmap
