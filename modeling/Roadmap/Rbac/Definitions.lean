import Roadmap.Rbac

/-! What becomes of a resource definition: the values that it lists decide whether it is
understood, rejected with status 501 or ends in an exception that nothing handles. -/
namespace Roadmap.Rbac

/-- None, or a text that `UUID` accepts. -/
def Identifier (value : Json) : Prop := value = .null ∨ ∃ text, value = .str text ∧ isUuid text = true

def Textual (value : Json) : Prop := value = .null ∨ ∃ text, value = .str text

/-- The first value that is no identifier is not even a text. -/
def NotTextFirst (values : List Json) : Prop :=
  ∃ before value after, values = before ++ value :: after ∧ (∀ other ∈ before, Identifier other) ∧
    ¬ Textual value

def FilterLists (attributeFilter : List (String × Json)) (values : List Json) : Prop :=
  attributeFilter.lookup "key" = some (.str "group.id") ∧
    (attributeFilter.lookup "operation" = some (.str "in") ∧
        attributeFilter.lookup "value" = some (.arr values) ∨
      attributeFilter.lookup "operation" = some (.str "equal") ∧
        ∃ text, attributeFilter.lookup "value" = some (.str text) ∧ values = [.str text])

/-- The definition has a filter for group ids that lists these values. -/
def Lists (definition : Json) (values : List Json) : Prop :=
  ∃ fields attributeFilter, definition = .obj fields ∧
    fields.lookup "attributeFilter" = some (.obj attributeFilter) ∧ FilterLists attributeFilter values

/-- Neither the definition nor its filter may be something other than an object. -/
def Misshapen (definition : Json) : Prop :=
  (∀ fields, definition ≠ .obj fields) ∨ ∃ fields attributeFilter, definition = .obj fields ∧
    fields.lookup "attributeFilter" = some attributeFilter ∧ attributeFilter.truthy = true ∧
      ∀ inner, attributeFilter ≠ .obj inner

def Accepted (definition : Json) : Prop :=
  ∃ values, Lists definition values ∧ ∀ value ∈ values, Identifier value

def Crashes (definition : Json) : Prop :=
  Misshapen definition ∨ ∃ values, Lists definition values ∧ NotTextFirst values

def Rejection (error : PyError) : Prop := ∃ detail, error = .httpException 501 detail

/-! One value. -/

theorem checkGid_identifier {value : Json} : (∃ group, checkGid value = .ok group) ↔ Identifier value := by
  cases value with
  | str text => by_cases valid : isUuid text <;> simp [checkGid,Identifier,valid]
  | _ => simp [checkGid,Identifier]

theorem checkGid_attributeError {value : Json} :
    checkGid value = .error .attributeError ↔ ¬ Textual value := by
  cases value with
  | str text => by_cases valid : isUuid text <;> simp [checkGid,Textual,valid,invalidUuids]
  | _ => simp [checkGid,Textual]

theorem checkGid_error {value : Json} {error : PyError} (failed : checkGid value = .error error) :
    error = .attributeError ∨ Rejection error := by
  cases value with
  | null => cases failed
  | str text =>
    simp only [checkGid] at failed
    split at failed
    · contradiction
    · cases failed
      exact Or.inr ⟨_,rfl⟩
  | _ => cases failed; exact Or.inl rfl

theorem checkGid_valid {value : Json} {text : String} (ok : checkGid value = .ok (some text)) :
    isUuid text = true := by
  cases value with
  | str gid =>
    simp only [checkGid] at ok
    split at ok
    next valid => cases ok; exact valid
    next => contradiction
  | _ => cases ok

/-! The values of a filter. -/

theorem values_identifiers {values : List Json} :
    (∃ groups, values.mapM checkGid = .ok groups) ↔ ∀ value ∈ values, Identifier value := by
  constructor
  · rintro ⟨groups,ok⟩ value member
    obtain ⟨group,_,checked⟩ := Except.mapM_image ok member
    exact checkGid_identifier.mp ⟨group,checked⟩
  · intro identifiers
    cases checked : values.mapM checkGid with
    | ok groups => exact ⟨groups,rfl⟩
    | error error =>
      obtain ⟨before,value,after,rfl,_,failed⟩ := Except.mapM_error.mp checked
      obtain ⟨group,ok⟩ := checkGid_identifier.mpr (identifiers value (by simp))
      rw [ok] at failed
      contradiction

theorem values_attributeError {values : List Json} :
    values.mapM checkGid = .error .attributeError ↔ NotTextFirst values := by
  simp only [Except.mapM_error,checkGid_identifier,checkGid_attributeError,NotTextFirst]

theorem values_error {values : List Json} {error : PyError} (failed : values.mapM checkGid = .error error) :
    error = .attributeError ∨ Rejection error := by
  obtain ⟨_,value,_,_,_,raised⟩ := Except.mapM_error.mp failed
  exact checkGid_error raised

/-! One definition. -/

theorem filter_lists {attributeFilter : List (String × Json)} {values : List Json}
    (listed : FilterLists attributeFilter values) :
    attributeFilterGroups (.obj attributeFilter) = values.mapM checkGid := by
  obtain ⟨key,⟨operation,value⟩ | ⟨operation,text,value,rfl⟩⟩ := listed <;>
    simp [attributeFilterGroups,Json.get,key,operation,value,Json.isText,filterValues,bind,Except.bind]

theorem filter_unlisted {attributeFilter : List (String × Json)}
    (unlisted : ∀ values, ¬ FilterLists attributeFilter values) :
    ∃ error, attributeFilterGroups (.obj attributeFilter) = .error error ∧ Rejection error := by
  simp only [attributeFilterGroups,Json.get,Except.ok_bind]
  split
  next keyed =>
    have key := lookup_of_getD ((isText_iff _ _).mp keyed) (by simp)
    split
    next known =>
      unfold filterValues
      split
      next isIn =>
        have operation := lookup_of_getD ((isText_iff _ _).mp isIn) (by simp)
        split
        next values same =>
          exact absurd ⟨key,Or.inl ⟨operation,lookup_of_getD same (by simp)⟩⟩ (unlisted values)
        next => exact ⟨notList,rfl,_,rfl⟩
      next isNot =>
        rw [Bool.or_eq_true,or_iff_right isNot] at known
        have operation := lookup_of_getD ((isText_iff _ _).mp known) (by simp)
        split
        next text same =>
          exact absurd ⟨key,Or.inr ⟨operation,text,lookup_of_getD same (by simp),rfl⟩⟩ (unlisted _)
        next => exact ⟨notStr,rfl,_,rfl⟩
    next => exact ⟨invalidOperation,rfl,_,rfl⟩
  next => exact ⟨invalidKey,rfl,_,rfl⟩

theorem definition_lists {definition : Json} {values : List Json} (listed : Lists definition values) :
    getGroupListFromResourceDefinition definition = values.mapM checkGid := by
  obtain ⟨fields,attributeFilter,rfl,found,filter⟩ := listed
  have nonempty : attributeFilter ≠ [] := by
    rintro rfl
    cases filter.1
  rw [← filter_lists filter]
  simp [getGroupListFromResourceDefinition,Json.get,found,Json.truthy,nonempty,Except.ok_bind]

theorem definition_misshapen {definition : Json} (misshapen : Misshapen definition) :
    getGroupListFromResourceDefinition definition = .error .attributeError := by
  rcases misshapen with other | ⟨fields,attributeFilter,rfl,found,truthy,other⟩
  · cases definition with
    | obj fields => exact absurd rfl (other fields)
    | _ => rfl
  · simp only [getGroupListFromResourceDefinition,Json.get,found,Option.getD_some,Except.ok_bind,truthy,if_true]
    cases attributeFilter with
    | obj inner => exact absurd rfl (other inner)
    | _ => rfl

theorem definition_unlisted {definition : Json} (shaped : ¬ Misshapen definition)
    (unlisted : ∀ values, ¬ Lists definition values) :
    ∃ error, getGroupListFromResourceDefinition definition = .error error ∧ Rejection error := by
  obtain ⟨object,filters⟩ := not_or.mp shaped
  obtain ⟨fields,rfl⟩ : ∃ fields, definition = .obj fields := by simpa using object
  cases found : fields.lookup "attributeFilter" with
  | none =>
    refine ⟨noAttributeFilter,?_,_,rfl⟩
    simp [getGroupListFromResourceDefinition,Json.get,found,Json.truthy,Except.ok_bind]
  | some attributeFilter =>
    simp only [getGroupListFromResourceDefinition,Json.get,found,Option.getD_some,Except.ok_bind]
    split
    next truthy =>
      obtain ⟨inner,rfl⟩ : ∃ inner, attributeFilter = .obj inner := by
        by_contra other
        exact filters ⟨fields,attributeFilter,rfl,found,truthy,not_exists.mp other⟩
      exact filter_unlisted (fun values filter => unlisted values ⟨fields,inner,rfl,found,filter⟩)
    next => exact ⟨noAttributeFilter,rfl,_,rfl⟩

theorem definition_ok {definition : Json} :
    (∃ groups, getGroupListFromResourceDefinition definition = .ok groups) ↔ Accepted definition := by
  constructor
  · rintro ⟨groups,ok⟩
    by_cases misshapen : Misshapen definition
    · rw [definition_misshapen misshapen] at ok
      contradiction
    by_cases listed : ∃ values, Lists definition values
    · obtain ⟨values,lists⟩ := listed
      exact ⟨values,lists,values_identifiers.mp ⟨groups,definition_lists lists ▸ ok⟩⟩
    · obtain ⟨error,failed,_⟩ := definition_unlisted misshapen (not_exists.mp listed)
      rw [failed] at ok
      contradiction
  · rintro ⟨values,lists,identifiers⟩
    rw [definition_lists lists]
    exact values_identifiers.mpr identifiers

theorem definition_attributeError {definition : Json} :
    getGroupListFromResourceDefinition definition = .error .attributeError ↔ Crashes definition := by
  constructor
  · intro failed
    by_cases misshapen : Misshapen definition
    · exact Or.inl misshapen
    by_cases listed : ∃ values, Lists definition values
    · obtain ⟨values,lists⟩ := listed
      exact Or.inr ⟨values,lists,values_attributeError.mp (definition_lists lists ▸ failed)⟩
    · obtain ⟨error,raised,detail,rejected⟩ := definition_unlisted misshapen (not_exists.mp listed)
      rw [failed,rejected] at raised
      cases raised
  · rintro (misshapen | ⟨values,lists,notText⟩)
    · exact definition_misshapen misshapen
    · rw [definition_lists lists]
      exact values_attributeError.mpr notText

theorem definition_error {definition : Json} {error : PyError}
    (failed : getGroupListFromResourceDefinition definition = .error error) :
    error = .attributeError ∨ Rejection error := by
  by_cases misshapen : Misshapen definition
  · rw [definition_misshapen misshapen] at failed
    exact Or.inl (Except.error.inj failed).symm
  by_cases listed : ∃ values, Lists definition values
  · obtain ⟨values,lists⟩ := listed
    exact values_error (definition_lists lists ▸ failed)
  · obtain ⟨other,raised,rejected⟩ := definition_unlisted misshapen (not_exists.mp listed)
    rw [raised] at failed
    exact Or.inr (Except.error.inj failed ▸ rejected)

theorem groups_valid {definition : Json} {groups : List (Option String)}
    (ok : getGroupListFromResourceDefinition definition = .ok groups) {text : String}
    (member : some text ∈ groups) : isUuid text = true := by
  obtain ⟨values,lists,_⟩ := definition_ok.mp ⟨groups,ok⟩
  rw [definition_lists lists] at ok
  obtain ⟨value,_,checked⟩ := Except.mapM_source ok member
  exact checkGid_valid checked

/-- Groups that are None or accepted ids, or an HTTPException with status 501. -/
def Understood : Except PyError (List (Option String)) → Prop
  | .ok groups => ∀ text, some text ∈ groups → isUuid text = true
  | .error error => Rejection error

/-- A filter that is an object is understood or rejected, except where it lists a value that
is no text and no invalid text comes before: the handler of `UUID` does not catch that. -/
theorem definition_understood {fields : List (String × Json)}
    (shape : ∀ attributeFilter, fields.lookup "attributeFilter" = some attributeFilter →
      ∃ inner, attributeFilter = .obj inner) :
    Understood (getGroupListFromResourceDefinition (.obj fields)) ↔
      ¬ ∃ values, Lists (.obj fields) values ∧ NotTextFirst values := by
  have shaped : ¬ Misshapen (.obj fields) := by
    rintro (other | ⟨_,attributeFilter,same,found,-,other⟩)
    · exact other fields rfl
    · cases same
      obtain ⟨inner,rfl⟩ := shape attributeFilter found
      exact other inner rfl
  have crash := definition_attributeError.trans (or_iff_right (a := Misshapen (.obj fields)) shaped)
  rw [← crash]
  cases answer : getGroupListFromResourceDefinition (.obj fields) with
  | ok groups => exact ⟨fun _ failed => (by contradiction),fun _ text => groups_valid answer⟩
  | error error =>
    constructor
    · rintro ⟨detail,rfl⟩ failed
      cases failed
    · exact fun caught => (definition_error answer).resolve_left (fun same => caught (same ▸ rfl))

def groupFilter (operation : String) (value : Json) : Json :=
  .obj [("attributeFilter",.obj [("key",.str "group.id"),("operation",.str operation),("value",value)])]

/-- After a text that is no id the number is not looked at. -/
theorem definition_understood_text :
    ¬ ∃ values, Lists (groupFilter "in" (.arr [.str "web",.num 5 0])) values ∧ NotTextFirst values := by
  refine (definition_understood ?_).mp ⟨_,rfl⟩
  intro attributeFilter found
  exact ⟨_,(Option.some.inj found).symm⟩

theorem number_uncaught :
    getGroupListFromResourceDefinition (groupFilter "in" (.arr [.null,.num 5 0])) = .error .attributeError ∧
      ¬ Understood (getGroupListFromResourceDefinition (groupFilter "in" (.arr [.null,.num 5 0]))) := by
  refine ⟨rfl,?_⟩
  rintro ⟨detail,same⟩
  contradiction

end Roadmap.Rbac
