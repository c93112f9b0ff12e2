import Roadmap.Base.Effects

/-! Functions that keep their last results in a cache of a fixed size, and programs that call
them: such a program does what the plain one does, whatever the cache holds. -/
namespace Roadmap.Memo
open Effects

/-- The results of a function, the most recently used one first. -/
structure Lru (κ ν : Type) (maxsize : Nat) where
  entries : List (κ × ν)
  distinct : (entries.map Prod.fst).Nodup
  bounded : entries.length ≤ maxsize

namespace Lru

variable {κ ν ε : Type} [DecidableEq κ] {maxsize : Nat}

def empty : Lru κ ν maxsize := ⟨[],List.nodup_nil,Nat.zero_le _⟩

def find (cache : Lru κ ν maxsize) (key : κ) : Option ν := cache.entries.lookup key

/-- The entry of a key comes to the front; where the cache is full, the last one falls out. -/
def put (cache : Lru κ ν maxsize) (key : κ) (value : ν) : Lru κ ν maxsize where
  entries := ((key,value) :: cache.entries.filter (fun entry => entry.1 ≠ key)).take maxsize
  distinct := by
    refine List.Nodup.sublist ((List.take_sublist _ _).map _) (List.nodup_cons.mpr ⟨?_,?_⟩)
    · simp
    · exact cache.distinct.sublist (List.filter_sublist.map _)
  bounded := List.length_take_le _ _

def keys (cache : Lru κ ν maxsize) : List κ := cache.entries.map Prod.fst

/-- Every entry is a result of the function. -/
def Sound (cache : Lru κ ν maxsize) (f : κ → Except ε ν) : Prop :=
  ∀ entry ∈ cache.entries, f entry.1 = .ok entry.2

omit [DecidableEq κ] in
theorem sound_empty (f : κ → Except ε ν) : (empty : Lru κ ν maxsize).Sound f := fun _ => nofun

theorem Sound.put {cache : Lru κ ν maxsize} {f : κ → Except ε ν} (sound : cache.Sound f) {key : κ} {value : ν}
    (result : f key = .ok value) : (cache.put key value).Sound f := by
  intro entry member
  rcases List.mem_cons.mp (List.mem_of_mem_take member) with rfl | inside
  · exact result
  · exact sound entry (List.mem_of_mem_filter inside)

theorem Sound.find {cache : Lru κ ν maxsize} {f : κ → Except ε ν} (sound : cache.Sound f) {key : κ} {value : ν}
    (found : cache.find key = some value) : f key = .ok value :=
  sound (key,value) (by obtain ⟨before,after,split,-⟩ := List.lookup_eq_some_iff.mp found; simp [split])

theorem keys_put (cache : Lru κ ν maxsize) (key : κ) (value : ν) :
    ∀ other ∈ (cache.put key value).keys, other = key ∨ other ∈ cache.keys := by
  intro other member
  obtain ⟨entry,listed,rfl⟩ := List.mem_map.mp member
  rcases List.mem_cons.mp (List.mem_of_mem_take listed) with rfl | inside
  · exact Or.inl rfl
  · exact Or.inr (List.mem_map_of_mem (List.mem_of_mem_filter inside))

/-- A cache holds no more than it may, and no more than the keys it was asked for. -/
theorem size_le (cache : Lru κ ν maxsize) {asked : Finset κ} (known : ∀ key ∈ cache.keys, key ∈ asked) :
    cache.entries.length ≤ min maxsize asked.card := by
  refine le_min cache.bounded ?_
  have size : cache.keys.toFinset.card = cache.entries.length := by
    rw [keys,List.toFinset_card_of_nodup cache.distinct,List.length_map]
  rw [← size]
  exact Finset.card_le_card (fun key member => known key (List.mem_toFinset.mp member))

end Lru

section Programs

variable {ε σ α β : Type}

/-- From any state that satisfies the invariant the program returns or raises what the plain
computation does, and keeps the invariant either way. -/
def Agrees (kept : σ → Prop) (program : EStateM ε σ α) (plain : Except ε α) : Prop :=
  ∀ state, kept state → ∃ last, kept last ∧ program.run state =
    match plain with
    | .ok value => .ok value last
    | .error error => .error error last

variable {kept : σ → Prop}

theorem Agrees.pure (value : α) : Agrees kept (Pure.pure value : EStateM ε σ α) (.ok value) :=
  fun state holds => ⟨state,holds,rfl⟩

theorem Agrees.raised (outcome : Except ε α) : Agrees kept (raised outcome : EStateM ε σ α) outcome := by
  intro state holds
  exact ⟨state,holds,by cases outcome <;> rfl⟩

theorem Agrees.bind {program : EStateM ε σ α} {plain : Except ε α} {rest : α → EStateM ε σ β}
    {next : α → Except ε β} (first : Agrees kept program plain)
    (then_ : ∀ value, plain = .ok value → Agrees kept (rest value) (next value)) :
    Agrees kept (program >>= rest) (plain >>= next) := by
  intro state holds
  obtain ⟨middle,between,ran⟩ := first state holds
  cases outcome : plain with
  | error error =>
    rw [outcome] at ran
    exact ⟨middle,between,by rw [EStateM.run_bind,ran]; rfl⟩
  | ok value =>
    rw [outcome] at ran
    obtain ⟨last,after,rested⟩ := then_ value outcome middle between
    exact ⟨last,after,by rw [EStateM.run_bind,ran]; exact rested⟩

/-- The plain computation maps its result where the program goes on with a value. -/
theorem Agrees.map {program : EStateM ε σ α} {plain : Except ε α} (first : Agrees kept program plain)
    (f : α → β) : Agrees kept (program >>= fun value => Pure.pure (f value)) (plain.map f) := by
  have mapped := first.bind (fun value _ => (.pure (f value) : Agrees kept (Pure.pure (f value)) (.ok (f value))))
  cases plain <;> exact mapped

theorem Agrees.mapM {program : α → EStateM ε σ β} {plain : α → Except ε β} (items : List α)
    (each : ∀ item ∈ items, Agrees kept (program item) (plain item)) :
    Agrees kept (items.mapM program) (items.mapM plain) := by
  induction items with
  | nil => exact .pure []
  | cons item rest ih =>
    rw [List.mapM_cons,List.mapM_cons]
    refine (each item List.mem_cons_self).bind (fun value _ => ?_)
    exact (ih (fun other member => each other (List.mem_cons_of_mem _ member))).bind (fun values _ => .pure _)

theorem Agrees.foldlM {program : β → α → EStateM ε σ β} {plain : β → α → Except ε β} (items : List α)
    (each : ∀ value, ∀ item ∈ items, Agrees kept (program value item) (plain value item)) (start : β) :
    Agrees kept (items.foldlM program start) (items.foldlM plain start) := by
  induction items generalizing start with
  | nil => exact .pure start
  | cons item rest ih =>
    rw [List.foldlM_cons,List.foldlM_cons]
    refine (each start item List.mem_cons_self).bind (fun value _ => ?_)
    exact ih (fun other next member => each other next (List.mem_cons_of_mem _ member)) value

end Programs

section Memoized

variable {κ ν ε σ : Type} [DecidableEq κ] {maxsize : Nat} (read : σ → Lru κ ν maxsize)
  (write : Lru κ ν maxsize → σ → σ)

/-- A body behind a cache. A call that raises is not remembered. -/
def memoized (body : κ → EStateM ε σ ν) (key : κ) : EStateM ε σ ν := do
  match (read (← get)).find key with
  | some value =>
    modify (fun state => write ((read state).put key value) state)
    return value
  | none =>
    let value ← body key
    modify (fun state => write ((read state).put key value) state)
    return value

variable {read write}

theorem Agrees.memoized {kept : σ → Prop} {body : κ → EStateM ε σ ν} {plain : κ → Except ε ν} {key : κ}
    (sound : ∀ state, kept state → (read state).Sound plain)
    (stored : ∀ state value, kept state → plain key = .ok value →
      kept (write ((read state).put key value) state))
    (missed : Agrees kept (body key) (plain key)) : Agrees kept (memoized read write body key) (plain key) := by
  intro state holds
  cases found : (read state).find key with
  | some value =>
    have result := (sound state holds).find found
    refine ⟨_,stored state value holds result,?_⟩
    simp only [Memo.memoized,EStateM.run_bind,EStateM.run_get,found,result]
    rfl
  | none =>
    obtain ⟨middle,between,ran⟩ := missed state holds
    cases result : plain key with
    | ok value =>
      rw [result] at ran
      refine ⟨_,stored middle value between result,?_⟩
      simp only [Memo.memoized,EStateM.run_bind,EStateM.run_get,found,ran]
      rfl
    | error error =>
      rw [result] at ran
      refine ⟨middle,between,?_⟩
      simp only [Memo.memoized,EStateM.run_bind,EStateM.run_get,found,ran]

end Memoized

end Roadmap.Memo
