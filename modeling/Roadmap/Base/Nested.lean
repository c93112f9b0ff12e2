import Roadmap.Base.Dict

/-! Dictionaries of dictionaries, read and written at a pair of keys. -/
namespace Roadmap.Dict

section Nested

variable {κ μ ν σ : Type} [BEq κ] [LawfulBEq κ] [BEq μ] [LawfulBEq μ]

def at? (dict : Dict κ (Dict μ ν)) (outer : κ) (inner : μ) : Option ν :=
  (dict.get? outer).bind (fun group => group.get? inner)

def updateAt (change : Option ν → ν) (outer : κ) (inner : μ) (dict : Dict κ (Dict μ ν)) :
    Dict κ (Dict μ ν) :=
  dict.update (fun group => (group.getD empty).update change inner) outer

/-- `for outer, inner, item in events: dict[outer][inner] = step(dict[outer].get(inner), item)`. -/
def groupAt (step : Option ν → σ → ν) (events : List (κ × μ × σ)) (dict : Dict κ (Dict μ ν)) :
    Dict κ (Dict μ ν) :=
  events.foldl (fun dict event => dict.updateAt (fun old => step old event.2.2) event.1 event.2.1) dict

def entries (dict : Dict κ (Dict μ ν)) : List (κ × μ × ν) :=
  dict.items.flatMap (fun group => group.2.items.map (fun entry => (group.1,entry.1,entry.2)))

def eventsAt (events : List (κ × μ × σ)) (outer : κ) (inner : μ) : List σ :=
  (events.filter (fun event => event.1 == outer && event.2.1 == inner)).map (·.2.2)

theorem mem_eventsAt (events : List (κ × μ × σ)) (outer : κ) (inner : μ) (item : σ) :
    item ∈ eventsAt events outer inner ↔ (outer,inner,item) ∈ events := by
  simp only [eventsAt,List.mem_map,List.mem_filter,Bool.and_eq_true,beq_iff_eq]
  constructor
  · intro ⟨⟨_,_,_⟩,⟨member,same,equal⟩,value⟩
    rwa [← same,← equal,← value]
  · exact fun member => ⟨_,⟨member,rfl,rfl⟩,rfl⟩

theorem at?_updateAt (change : Option ν → ν) (outer : κ) (inner : μ) (dict : Dict κ (Dict μ ν))
    (other : κ) (another : μ) : (dict.updateAt change outer inner).at? other another =
      if outer == other && inner == another then some (change (dict.at? outer inner))
      else dict.at? other another := by
  have found : (dict.get? outer).bind (fun group => group.get? inner) =
      ((dict.get? outer).getD empty).get? inner := by
    cases dict.get? outer <;> rfl
  by_cases same : outer = other
  · subst same
    by_cases equal : inner = another
    · subst equal
      simp [at?,updateAt,found]
    · cases group : dict.get? outer <;> simp [at?,updateAt,equal,group]
  · simp [at?,updateAt,same]

theorem at?_groupAt (step : Option ν → σ → ν) (events : List (κ × μ × σ)) (dict : Dict κ (Dict μ ν))
    (outer : κ) (inner : μ) : (groupAt step events dict).at? outer inner =
      (eventsAt events outer inner).foldl (fun old item => some (step old item)) (dict.at? outer inner) := by
  induction events generalizing dict with
  | nil => rfl
  | cons event rest ih =>
    rw [groupAt,List.foldl_cons,← groupAt,ih,at?_updateAt,eventsAt,eventsAt,List.filter_cons]
    by_cases here : (event.1 == outer && event.2.1 == inner) = true
    · obtain ⟨same,equal⟩ := Bool.and_eq_true_iff.mp here
      simp [eq_of_beq same,eq_of_beq equal]
    · simp [here]

theorem isSome_at?_groupAt (step : Option ν → σ → ν) (events : List (κ × μ × σ)) (dict : Dict κ (Dict μ ν))
    (outer : κ) (inner : μ) : ((groupAt step events dict).at? outer inner).isSome ↔
      (dict.at? outer inner).isSome ∨ ∃ item, (outer,inner,item) ∈ events := by
  have fold : ∀ (items : List σ) (old : Option ν),
      (items.foldl (fun old item => some (step old item)) old).isSome ↔ old.isSome ∨ ∃ item, item ∈ items := by
    intro items
    induction items with
    | nil => simp
    | cons first rest ih =>
      intro old
      rw [List.foldl_cons,ih]
      exact ⟨fun _ => Or.inr ⟨first,by simp⟩,fun _ => Or.inl rfl⟩
  simp only [at?_groupAt,fold,mem_eventsAt]

omit [LawfulBEq μ] in
/-- Groups are only added. -/
theorem isSome_get?_groupAt (step : Option ν → σ → ν) (events : List (κ × μ × σ)) {dict : Dict κ (Dict μ ν)}
    {outer : κ} (present : (dict.get? outer).isSome) : ((groupAt step events dict).get? outer).isSome := by
  induction events generalizing dict with
  | nil => exact present
  | cons event rest ih =>
    refine ih ?_
    simp only [updateAt,get?_update]
    split
    · rfl
    · exact present

theorem mem_entries (dict : Dict κ (Dict μ ν)) (outer : κ) (inner : μ) (value : ν) :
    (outer,inner,value) ∈ dict.entries ↔ dict.at? outer inner = some value := by
  simp only [entries,List.mem_flatMap,List.mem_map,at?,Option.bind_eq_some_iff]
  constructor
  · intro ⟨group,member,entry,listed,same⟩
    cases same
    exact ⟨group.2,(mem_items dict group).mp member,(mem_items group.2 entry).mp listed⟩
  · intro ⟨group,found,listed⟩
    exact ⟨(outer,group),(mem_items dict _).mpr found,(inner,value),(mem_items group _).mpr listed,rfl⟩

end Nested

end Roadmap.Dict
