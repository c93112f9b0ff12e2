import Roadmap.AppStreams.Nevra
import Roadmap.Base.Dict
import Roadmap.Base.Regex

/-! The script that writes MODULE_PACKAGES from the modulemd documents. -/
namespace Roadmap.ModulePackages

/-- `.` of a regular expression. -/
def anyChar (char : Char) : Bool := char != '\n'

/-- `\d` of a regular expression. -/
def isDecimal (char : Char) : Bool := (Text.decimalValue char).isSome

/-- `-\d+:` -/
def epochMark : Regex.Pattern :=
  Regex.andThen (Regex.one (· == '-')) (Regex.andThen (Regex.greedyPlus isDecimal) (Regex.one (· == ':')))

/-- The first segment before the first hyphen. -/
def firstSegment (text : List Char) : List Char := (text.splitOn '-').headD []

def parseNevra (nevraString : String) : String :=
  let text := nevraString.toList
  .ofList (if ':' ∈ text then (Regex.firstGroup (Regex.lazyPlus anyChar) epochMark text).getD (firstSegment text)
    else firstSegment text)

/-- What Python compares of a name that is a key: numbers by their value. -/
inductive KeyName where
  | none
  | number (value : Rat)
  | text (value : String)
  deriving DecidableEq

/-- A list or a dictionary cannot be a key. -/
def keyName : Json → Except PyError KeyName
  | .null => .ok .none
  | .bool value => .ok (.number (if value then 1 else 0))
  | .num mantissa scale => .ok (.number (mantissa / 10 ^ scale))
  | .str value => .ok (.text value)
  | _ => .error .typeError

abbrev PackagesKey := KeyName × Int × String

/-- `any(text in value for text in texts)` -/
def holdsAny (value : Json) (texts : List String) : Except PyError Bool := texts.anyM value.holds

def packageName (rpmNevra : Json) : Except PyError (Option String) := do
  -- Skip debuginfo and debugsource packages
  if ← holdsAny rpmNevra ["debuginfo","debugsource"] then return none
  -- Only process x86_64 and src packages (skip i686, etc.)
  if !(← holdsAny rpmNevra [".x86_64",".src",".noarch"]) then return none
  match rpmNevra with
  | .str nevraString => return some (parseNevra nevraString)
  | other => if ← other.holds ":" then .error .typeError else .error .attributeError

def packageNames (rpms : Json) : Except PyError (Finset String) := do
  let names ← (← rpms.elements).mapM packageName
  return (names.filterMap id).toFinset

def osMajorOfRpm (rpm : Json) : Except PyError (Option Int) := do
  if ← holdsAny rpm [".el8","module+el8","module_el8"] then return some 8
  if ← holdsAny rpm [".el9","module+el9","module_el9"] then return some 9
  if ← holdsAny rpm [".el10","module+el10","module_el10"] then return some 10
  return none

def detectOsMajor : List Json → Except PyError (Option Int)
  | [] => return none
  | rpm :: rest => do
    match ← osMajorOfRpm rpm with
    | some osMajor => return some osMajor
    | none => detectOsMajor rest

/-- `rpms[:5]` -/
def firstRpms (rpms : Json) : Except PyError (List Json) :=
  match rpms with
  | .obj _ => .error .typeError
  | _ => rpms.elements.map (·.take 5)

section Extraction

variable (str : Json → String)

/-- What one document adds to the mapping. -/
def documentPackages (doc : Json) : Except PyError (Option (PackagesKey × Finset String)) := do
  if !doc.truthy then return none
  if !(← doc.get "document").isText "modulemd" then return none
  -- Skip obsolete modulemd versions
  if ← (← doc.getOr "version" (.num 0 0)).lessThan 2 then return none
  let data ← doc.getOr "data" (.obj [])
  let moduleName ← data.get "name"
  let stream ← data.get "stream"
  if !moduleName.truthy || !stream.truthy then return none
  let artifacts ← data.getOr "artifacts" (.obj [])
  let rpms ← artifacts.getOr "rpms" (.arr [])
  if !rpms.truthy then return none
  let names ← packageNames rpms
  if names = ∅ then return none
  match ← detectOsMajor (← firstRpms rpms) with
  | none => return none
  | some osMajor => return some ((← keyName moduleName,osMajor,str stream),names)

/-- One turn of the loop over the documents: a later document replaces an earlier one. -/
def addDocument (modulePackages : Dict PackagesKey (Finset String)) (doc : Json) :
    Except PyError (Dict PackagesKey (Finset String)) := do
  match ← documentPackages str doc with
  | some (key,names) => return modulePackages.set key names
  | none => return modulePackages

/-- `none` where an exception is caught: the script then has no mapping for the file. -/
def extractModulePackages (documents : List Json) : Option (Dict PackagesKey (Finset String)) :=
  (documents.foldlM (addDocument str) .empty).toOption

end Extraction

/-! What the document of a module adds, where its artifacts are texts. -/

/-- An artifact whose package is kept: one for x86_64, for no architecture or of the sources, and
none of the debug packages. -/
def KeptArtifact (rpm : String) : Prop :=
  (∃ part ∈ [".x86_64",".src",".noarch"], part.toList <:+: rpm.toList) ∧
    ∀ part ∈ ["debuginfo","debugsource"], ¬ part.toList <:+: rpm.toList

instance : DecidablePred KeptArtifact := fun _ => inferInstanceAs (Decidable (_ ∧ _))

/-- The major version that the release of an artifact names. -/
def releaseMajor (rpm : String) : Option Int :=
  [8,9,10].find? (fun osMajor => [".el","module+el","module_el"].any (fun mark =>
    Text.contains (mark ++ toString osMajor) rpm))

theorem holdsAny_text (rpm : String) (texts : List String) :
    holdsAny (.str rpm) texts = .ok (texts.any (Text.contains · rpm)) := by
  induction texts with
  | nil => rfl
  | cons text rest ih =>
    unfold holdsAny at ih ⊢
    rw [List.anyM,List.any_cons]
    cases found : Text.contains text rpm with
    | true => simp [Json.holds,found]; rfl
    | false => simp [Json.holds,found]; exact ih

theorem any_contains (texts : List String) (rpm : String) :
    texts.any (Text.contains · rpm) = true ↔ ∃ part ∈ texts, part.toList <:+: rpm.toList := by
  simp only [List.any_eq_true,Text.contains,decide_eq_true_eq]

theorem packageName_text (rpm : String) :
    packageName (.str rpm) = .ok (if KeptArtifact rpm then some (parseNevra rpm) else none) := by
  have kept : KeptArtifact rpm ↔ [".x86_64",".src",".noarch"].any (Text.contains · rpm) = true ∧
      ["debuginfo","debugsource"].any (Text.contains · rpm) = false := by
    rw [← Bool.not_eq_true,any_contains,any_contains,KeptArtifact]
    refine and_congr_right (fun _ => ?_)
    rw [not_exists]
    exact forall_congr' (fun part => not_and.symm)
  cases debug : ["debuginfo","debugsource"].any (Text.contains · rpm) with
  | true =>
    have skipped : ¬ KeptArtifact rpm := fun listed => Bool.false_ne_true ((kept.mp listed).2.symm.trans debug)
    simp only [packageName,holdsAny_text,Except.ok_bind,debug,if_true,if_neg skipped]
    rfl
  | false =>
    cases arch : [".x86_64",".src",".noarch"].any (Text.contains · rpm) with
    | true =>
      have listed := kept.mpr ⟨arch,debug⟩
      simp only [packageName,holdsAny_text,Except.ok_bind,debug,arch,if_pos listed,Bool.false_eq_true,if_false,
        Bool.not_true]
      rfl
    | false =>
      have skipped : ¬ KeptArtifact rpm := fun listed => Bool.false_ne_true (arch.symm.trans (kept.mp listed).1)
      simp only [packageName,holdsAny_text,Except.ok_bind,debug,arch,if_neg skipped,Bool.false_eq_true,if_false,
        Bool.not_false,if_true]
      rfl

theorem packageNames_texts (rpms : List String) : packageNames (.arr (rpms.map .str)) =
    .ok ((rpms.filter KeptArtifact).map parseNevra).toFinset := by
  have names : (rpms.map Json.str).mapM packageName =
      .ok (rpms.map (fun rpm => if KeptArtifact rpm then some (parseNevra rpm) else none)) := by
    rw [Except.mapM_ok,List.forall₂_map_left_iff,List.forall₂_map_right_iff]
    exact List.forall₂_same.mpr (fun rpm _ => packageName_text rpm)
  rw [packageNames,Json.elements,Except.ok_bind,names,Except.ok_bind]
  refine congrArg Except.ok (congrArg List.toFinset ?_)
  rw [List.filterMap_map,← List.filterMap_eq_map,List.filterMap_filter]
  refine List.filterMap_congr (fun rpm _ => ?_)
  by_cases kept : KeptArtifact rpm <;> simp [kept]

theorem osMajorOfRpm_text (rpm : String) : osMajorOfRpm (.str rpm) = .ok (releaseMajor rpm) := by
  have eight : [".el","module+el","module_el"].map (· ++ toString (8 : Int)) =
      [".el8","module+el8","module_el8"] := by decide
  have nine : [".el","module+el","module_el"].map (· ++ toString (9 : Int)) =
      [".el9","module+el9","module_el9"] := by decide
  have ten : [".el","module+el","module_el"].map (· ++ toString (10 : Int)) =
      [".el10","module+el10","module_el10"] := by decide
  have named : ∀ osMajor : Int, [".el","module+el","module_el"].any (fun mark =>
      Text.contains (mark ++ toString osMajor) rpm) =
        ([".el","module+el","module_el"].map (· ++ toString osMajor)).any (Text.contains · rpm) := fun _ => rfl
  simp only [osMajorOfRpm,holdsAny_text,Except.ok_bind,releaseMajor,List.find?_cons,List.find?_nil,named,
    eight,nine,ten]
  cases [".el8","module+el8","module_el8"].any (Text.contains · rpm) with
  | true => rfl
  | false =>
    cases [".el9","module+el9","module_el9"].any (Text.contains · rpm) with
    | true => rfl
    | false => cases [".el10","module+el10","module_el10"].any (Text.contains · rpm) <;> rfl

theorem detectOsMajor_texts (rpms : List String) :
    detectOsMajor (rpms.map .str) = .ok (rpms.findSome? releaseMajor) := by
  induction rpms with
  | nil => rfl
  | cons rpm rest ih =>
    rw [List.map_cons,detectOsMajor,osMajorOfRpm_text,Except.ok_bind,List.findSome?_cons]
    cases releaseMajor rpm with
    | none => exact ih
    | some osMajor => rfl

/-- The fields of a modulemd document that are read. -/
structure Modulemd (fields data artifacts : List (String × Json)) (version : Int) (moduleName : String)
    (stream : Json) (rpms : List String) : Prop where
  document : fields.lookup "document" = some (.str "modulemd")
  versioned : fields.lookup "version" = some (.num version 0)
  holds : fields.lookup "data" = some (.obj data)
  named : data.lookup "name" = some (.str moduleName)
  streamed : data.lookup "stream" = some stream
  listed : data.lookup "artifacts" = some (.obj artifacts)
  packed : artifacts.lookup "rpms" = some (.arr (rpms.map .str))

/-- A document from version 2 on adds the names of its kept artifacts at the key of the module, where
there are any and one of the first five artifacts tells the major version. -/
theorem documentPackages_modulemd (str : Json → String) {fields data artifacts : List (String × Json)}
    {version : Int} {moduleName : String} {stream : Json} {rpms : List String}
    (doc : Modulemd fields data artifacts version moduleName stream rpms) :
    let names := ((rpms.filter KeptArtifact).map parseNevra).toFinset
    documentPackages str (.obj fields) = .ok
      (if 2 ≤ version ∧ moduleName ≠ "" ∧ stream.truthy = true ∧ names ≠ ∅ then
        ((rpms.take 5).findSome? releaseMajor).map (fun osMajor =>
          ((.text moduleName,osMajor,str stream),names))
      else none) := by
  intro names
  have nonempty : (Json.obj fields).truthy = true := by
    cases fields with
    | nil => cases doc.document
    | cons _ _ => rfl
  have firsts : firstRpms (.arr (rpms.map .str)) = .ok ((rpms.take 5).map .str) := by
    rw [List.map_take]
    rfl
  simp only [documentPackages,nonempty,Json.get,Json.getOr,doc.document,doc.versioned,doc.holds,doc.named,
    doc.streamed,doc.listed,doc.packed,Option.getD_some,Except.ok_bind,packageNames_texts,firsts,
    detectOsMajor_texts,Json.isText,Json.lessThan]
  by_cases all : 2 ≤ version ∧ moduleName ≠ "" ∧ stream.truthy = true ∧ names ≠ ∅
  · obtain ⟨current,titled,streaming,listed⟩ := id all
    have recent : decide (version < 2 * 10 ^ 0) = false := decide_eq_false (by omega)
    have filled : (Json.arr (rpms.map Json.str)).truthy = true := by
      cases rpms with
      | nil => exact absurd rfl listed
      | cons _ _ => rfl
    rw [if_pos all,recent,streaming,filled,if_neg listed,
      show (Json.str moduleName).truthy = true from bne_iff_ne.mpr titled]
    cases (rpms.take 5).findSome? releaseMajor <;> rfl
  · rw [if_neg all]
    by_cases obsolete : version < 2
    · rw [show decide (version < 2 * 10 ^ 0) = true from decide_eq_true obsolete]
      rfl
    rw [show decide (version < 2 * 10 ^ 0) = false from decide_eq_false obsolete]
    cases titled : (Json.str moduleName).truthy with
    | false => rfl
    | true =>
      cases streaming : stream.truthy with
      | false => rfl
      | true =>
        have empty : names = ∅ := by
          by_contra other
          exact all ⟨not_lt.mp obsolete,bne_iff_ne.mp titled,streaming,other⟩
        rw [if_pos empty]
        cases (Json.arr (rpms.map Json.str)).truthy <;> rfl

/-! The names of the script are those of the parser in the service. -/

/-- The text up to its first colon is a name, a hyphen and decimal digits. -/
def EpochMarked (text : List Char) : Prop :=
  ∃ name digits rest, text = name ++ '-' :: (digits ++ ':' :: rest) ∧ name ≠ [] ∧ ':' ∉ name ∧
    digits ≠ [] ∧ ∀ char ∈ digits, isDecimal char = true

theorem firstSegment_eq (text : List Char) : firstSegment text = (NEVRA.partitionOr '-' text).1 := by
  by_cases hyphen : '-' ∈ text
  · obtain ⟨before,after,rfl,free⟩ := List.eq_append_cons_of_mem hyphen
    rw [firstSegment,List.splitOn_append_cons_self_of_not_mem free,NEVRA.partitionOr,
      Text.partition_append free]
    rfl
  · rw [firstSegment,List.splitOn_eq_singleton hyphen,NEVRA.partitionOr,Text.partition_absent hyphen]
    rfl

theorem mem_epochMark {text left : List Char} : (∃ taken, (taken,left) ∈ epochMark text) ↔
    ∃ digits, text = '-' :: (digits ++ ':' :: left) ∧ digits ≠ [] ∧ ∀ char ∈ digits, isDecimal char = true := by
  simp only [epochMark,Regex.mem_andThen,Regex.mem_one,Regex.mem_greedyPlus,beq_iff_eq]
  constructor
  · rintro ⟨_,_,_,_,⟨_,rfl,-,rfl⟩,⟨digits,_,_,⟨rfl,nonempty,all⟩,⟨_,rfl,-,rfl⟩,-⟩,-⟩
    exact ⟨digits,rfl,nonempty,all⟩
  · rintro ⟨digits,rfl,nonempty,all⟩
    exact ⟨_,_,_,_,⟨_,rfl,rfl,rfl⟩,⟨digits,_,_,⟨rfl,nonempty,all⟩,⟨_,rfl,rfl,rfl⟩,rfl⟩,rfl⟩

private theorem digits_separators {digits : List Char} (all : ∀ char ∈ digits, isDecimal char = true) :
    '-' ∉ digits ∧ ':' ∉ digits :=
  ⟨fun hyphen => absurd (all '-' hyphen) (by decide),fun colon => absurd (all ':' colon) (by decide)⟩

/-- The lazy group stops at the mark before the first colon: a shorter name would need digits
where the rest of the name or the hyphen of the mark stands. -/
theorem group_name {name digits rest : List Char} (oneLine : '\n' ∉ name) (named : name ≠ [])
    (plain : ':' ∉ name) (nonempty : digits ≠ []) (all : ∀ char ∈ digits, isDecimal char = true) :
    Regex.firstGroup (Regex.lazyPlus anyChar) epochMark (name ++ '-' :: (digits ++ ':' :: rest)) =
      some name := by
  have marked : epochMark ('-' :: (digits ++ ':' :: rest)) ≠ [] := by
    obtain ⟨taken,way⟩ := mem_epochMark.mpr ⟨digits,rfl,nonempty,all⟩
    exact List.ne_nil_of_mem way
  refine Regex.firstGroup_lazy (Regex.mem_lazyPlus.mpr ⟨rfl,named,?_⟩) marked ?_
  · exact fun char member => bne_iff_ne.mpr (fun same => oneLine (same ▸ member))
  intro other left way continued
  obtain ⟨same,-,-⟩ := Regex.mem_lazyPlus.mp way
  obtain ⟨⟨taken,after⟩,more⟩ := List.exists_mem_of_ne_nil _ continued
  obtain ⟨others,rfl,-,decimals⟩ := mem_epochMark.mp ⟨taken,more⟩
  obtain ⟨hyphenless,-⟩ := digits_separators decimals
  by_contra shorter
  rcases List.append_eq_append_iff.mp same with ⟨more,rfl,-⟩ | ⟨more,rfl,tail⟩
  · simp at shorter
  · cases more with
    | nil => simp at shorter
    | cons char more =>
      obtain ⟨rfl,inside⟩ := List.cons.inj tail
      rcases List.append_eq_append_iff.mp inside with ⟨gap,rfl,colon⟩ | ⟨gap,rfl,hyphen⟩
      · cases gap with
        | nil => simp at colon
        | cons char gap =>
          obtain ⟨rfl,-⟩ := List.cons.inj colon
          simp at plain
      · cases gap with
        | nil => simp at hyphen
        | cons char gap =>
          obtain ⟨rfl,-⟩ := List.cons.inj hyphen
          simp at hyphenless

/-- The extractor that builds the table and the parser that matches against it find the same
name in every line without a colon or with an epoch of digits before its first colon. -/
theorem names_agree {text : String} {nevra : NEVRA} (oneLine : '\n' ∉ text.toList)
    (shape : ':' ∉ text.toList ∨ EpochMarked text.toList) (read : NEVRA.fromString text = .ok nevra) :
    parseNevra text = nevra.name := by
  rcases shape with colonless | ⟨name,digits,rest,same,named,plain,nonempty,all⟩
  · have split : NEVRA.splitName text.toList =
        .ok ((NEVRA.partitionOr '-' text.toList).1,['0'],(NEVRA.partitionOr '-' text.toList).2) := by
      rw [NEVRA.splitName,Text.partition_absent colonless]
    rw [NEVRA.fromString_name split read,parseNevra]
    simp only [colonless,if_false,firstSegment_eq]
  · obtain ⟨hyphenless,colonless⟩ := digits_separators all
    have front : text.toList = (name ++ '-' :: digits) ++ ':' :: rest := by simp [same]
    have split : NEVRA.splitName text.toList = .ok (name,digits,rest) := by
      rw [NEVRA.splitName,front,Text.partition_append (by simp [plain,colonless])]
      simp only [Text.rpartition_append hyphenless]
    have line : '\n' ∉ name := fun member => oneLine (by simp [same,member])
    rw [NEVRA.fromString_name split read,parseNevra]
    simp only [same,group_name line named plain nonempty all]
    simp

theorem names_agree_toolset : parseNevra "gcc-toolset-12-1:12.0-6.el9.noarch" = "gcc-toolset-12" := by
  have read : NEVRA.fromString "gcc-toolset-12-1:12.0-6.el9.noarch" =
    .ok ⟨"gcc-toolset-12","1","12","0","","6.el9","noarch"⟩ := by decide
  have digit : ∀ char ∈ ['1'], isDecimal char = true := by
    intro char member
    rw [List.mem_singleton.mp member]
    rfl
  have marked : EpochMarked "gcc-toolset-12-1:12.0-6.el9.noarch".toList :=
    ⟨"gcc-toolset-12".toList,['1'],"12.0-6.el9.noarch".toList,rfl,by decide,by decide,by decide,digit⟩
  exact names_agree (by decide) (Or.inr marked) read

/-! What the mapping holds at the end. -/

section Mapping

variable (str : Json → String) (documents : List Json)

/-- The packages attributed to keys, document by document. -/
def attributed : List (PackagesKey × Finset String) :=
  documents.filterMap (fun doc => (documentPackages str doc).toOption.join)

def Readable : Prop := ∀ doc ∈ documents, ∃ added, documentPackages str doc = .ok added

/-- The mapping has every package name of every document at the key of the document. -/
def Complete (packages : Dict PackagesKey (Finset String)) : Prop :=
  ∀ doc ∈ documents, ∀ key names, documentPackages str doc = .ok (some (key,names)) →
    ∃ listed, packages.get? key = some listed ∧ names ⊆ listed

/-- The last document of every key lists what the earlier ones of the key list. -/
def LastListsAll : Prop :=
  ∀ entry ∈ attributed str documents, ∃ before last after,
    attributed str documents = before ++ (entry.1,last) :: after ∧
      (∀ later ∈ after, later.1 ≠ entry.1) ∧ entry.2 ⊆ last

theorem extract_readable (readable : Readable str documents) :
    extractModulePackages str documents =
      some (.group Dict.assign (attributed str documents) .empty) := by
  have reads : ∀ doc ∈ documents, ∀ packages, addDocument str packages doc =
      .ok (((documentPackages str doc).toOption.join).toList.foldl
        (fun packages entry => packages.set entry.1 entry.2) packages) := by
    intro doc member packages
    obtain ⟨added,read⟩ := readable doc member
    rw [addDocument,read]
    cases added <;> rfl
  rw [extractModulePackages,Except.foldlM_events documents reads]
  rfl

theorem readable_of_extract {packages : Dict PackagesKey (Finset String)}
    (extracted : extractModulePackages str documents = some packages) : Readable str documents := by
  rw [extractModulePackages] at extracted
  cases ran : documents.foldlM (addDocument str) .empty with
  | error _ => simp [ran,Except.toOption] at extracted
  | ok last =>
  intro doc member
  obtain ⟨before,after,added⟩ := Except.foldlM_steps ran doc member
  obtain ⟨entry,read,-⟩ := Except.bind_ok.mp added
  exact ⟨entry,read⟩

theorem mem_attributed (entry : PackagesKey × Finset String) : entry ∈ attributed str documents ↔
    ∃ doc ∈ documents, documentPackages str doc = .ok (some entry) := by
  rw [attributed,List.mem_filterMap]
  refine exists_congr (fun doc => and_congr_right (fun _ => ?_))
  rcases documentPackages str doc with error | _ | added <;> simp [Except.toOption]

theorem complete_iff : Complete str documents (.group Dict.assign (attributed str documents) .empty) ↔
    LastListsAll str documents := by
  have last : ∀ (entry : PackagesKey × Finset String),
      (∃ listed, (Dict.group Dict.assign (attributed str documents) .empty).get? entry.1 = some listed ∧
        entry.2 ⊆ listed) ↔ ∃ before last after,
      attributed str documents = before ++ (entry.1,last) :: after ∧
        (∀ later ∈ after, later.1 ≠ entry.1) ∧ entry.2 ⊆ last := by
    intro entry
    simp only [Dict.get?_group_assign,Dict.getLast?_itemsAt]
    constructor
    · rintro ⟨listed,⟨before,after,split,final⟩,inside⟩
      exact ⟨before,listed,after,split,final,inside⟩
    · rintro ⟨before,listed,after,split,final,inside⟩
      exact ⟨listed,⟨before,after,split,final⟩,inside⟩
  constructor
  · intro complete entry member
    obtain ⟨doc,present,read⟩ := (mem_attributed str documents entry).mp member
    exact (last entry).mp (complete doc present entry.1 entry.2 read)
  · intro all doc present key names read
    have member := (mem_attributed str documents (key,names)).mpr ⟨doc,present,read⟩
    exact (last (key,names)).mpr (all (key,names) member)

/-- The table loses no package exactly when, for every key, the last document of the key lists
what the earlier ones list: its set of names replaces theirs. -/
theorem table_keeps_packages : (∃ packages, extractModulePackages str documents = some packages ∧
    Complete str documents packages) ↔ Readable str documents ∧ LastListsAll str documents := by
  constructor
  · rintro ⟨packages,extracted,complete⟩
    have readable := readable_of_extract str documents extracted
    rw [extract_readable str documents readable] at extracted
    cases extracted
    exact ⟨readable,(complete_iff str documents).mp complete⟩
  · rintro ⟨readable,all⟩
    exact ⟨_,extract_readable str documents readable,(complete_iff str documents).mpr all⟩

end Mapping

/-- `str(value)` of a text. -/
private def textOf : Json → String
  | .str value => value
  | _ => ""

private def nodejsDocument (rpm : String) : Json := .obj [("document",.str "modulemd"),
  ("version",.num 2 0),("data",.obj [("name",.str "nodejs"),("stream",.str "20"),
    ("artifacts",.obj [("rpms",.arr [.str rpm])])])]

/-- Two documents of nodejs:20: the second one lists npm, and nodejs is gone. -/
theorem earlier_document_lost :
    let documents := [nodejsDocument "nodejs-1:20-1.el9.x86_64",nodejsDocument "npm-1:10-1.el9.x86_64"]
    ∃ packages, extractModulePackages textOf documents = some packages ∧
      packages.get? (.text "nodejs",9,"20") = some {"npm"} ∧ ¬ Complete textOf documents packages := by
  intro documents
  have first : documentPackages textOf (nodejsDocument "nodejs-1:20-1.el9.x86_64") =
    .ok (some ((.text "nodejs",9,"20"),{"nodejs"})) := rfl
  have second : documentPackages textOf (nodejsDocument "npm-1:10-1.el9.x86_64") =
    .ok (some ((.text "nodejs",9,"20"),{"npm"})) := rfl
  have readable : Readable textOf documents := List.forall_mem_cons.mpr ⟨⟨_,first⟩,by simpa using ⟨_,second⟩⟩
  have found : (Dict.group Dict.assign (attributed textOf documents) .empty).get? (.text "nodejs",9,"20") =
      some {"npm"} := by
    simp [documents,attributed,first,second,Except.toOption,Dict.get?_group_assign,Dict.itemsAt]
  refine ⟨_,extract_readable textOf documents readable,found,fun complete => ?_⟩
  obtain ⟨listed,kept,inside⟩ := complete _ List.mem_cons_self _ _ first
  cases found.symm.trans kept
  exact absurd inside (by decide)

end Roadmap.ModulePackages
