import Roadmap.Base.Generator
import Roadmap.Base.Text

/-! The hosts of a JSON file, read in chunks: one buffer is scanned by a machine of five
states, and refilled where it ends or an object in it is incomplete. -/
namespace Roadmap.HostFile

/-- What `raw_decode` does at a position: a dictionary or another value and where it ends, or
an exception. -/
inductive Decoded (α : Type) where
  | object (host : α) (stop : Nat)
  | other (stop : Nat)
  | decodeError (message : String)
  | valueError (message : String)

/-- `json.JSONDecoder`, as far as the loop relies on it. -/
structure Decoder (α : Type) where
  rawDecode : (buffer : List Char) → (position : Nat) → Decoded α
  ObjectText : List Char → α → Prop
  opens : ∀ {text : List Char} {host : α}, ObjectText text host → text.head? = some '{'
  complete : ∀ {buffer object rest : List Char} {position : Nat} {host : α}, ObjectText object host →
    buffer.drop position = object ++ rest →
      rawDecode buffer position = .object host (position + object.length)
  truncated : ∀ {buffer more : List Char} {position : Nat} {host : α},
    ObjectText (buffer.drop position ++ more) host → more ≠ [] →
      ∃ message, rawDecode buffer position = .decodeError message
  sound : ∀ {buffer : List Char} {position stop : Nat} {host : α},
    rawDecode buffer position = .object host stop → ∃ object rest,
      buffer.drop position = object ++ rest ∧ ObjectText object host ∧ stop = position + object.length

inductive State where
  | arrayStart
  | valueOrEnd
  | value
  | commaOrEnd
  | done
  deriving DecidableEq

inductive Ending where
  | returned
  | valueError (message : String)
  | indexError

/-- The variables of the loop, and what the next reads of the file return; after those they
return nothing. -/
structure Reading where
  buffer : List Char := []
  position : Nat := 0
  state : State := .arrayStart
  eof : Bool := false
  reads : List (List Char)

namespace Reading

/-- `source.read(CHUNK_SIZE)` -/
def chunk (reading : Reading) : List Char := reading.reads.headD []

def skipSpace (reading : Reading) : Reading :=
  {reading with position := reading.position +
    ((reading.buffer.drop reading.position).takeWhile Text.isSpace).length}

def move (reading : Reading) (state : State) : Reading :=
  {reading with position := reading.position + 1,state := state}

/-- Reads a chunk after the rest of the buffer; `ended` sets the flag for the end of the file. -/
def refill (reading : Reading) (ended : Bool) : Reading where
  buffer := reading.buffer.drop reading.position ++ reading.chunk
  state := reading.state
  eof := reading.eof || ended
  reads := reading.reads.tail

end Reading

section Loop

variable {α : Type} (decoder : Decoder α)

abbrev HostTurn (α : Type) := Turn Reading α Ending

def doneTurn (reading : Reading) : HostTurn α :=
  if reading.position < reading.buffer.length then
    .stop (.valueError "unexpected data after the JSON array")
  else if reading.chunk ≠ [] then
    .next {reading with buffer := reading.chunk,position := 0,reads := reading.reads.tail}
  else .stop .returned

/-- What a state does with the next character; a buffer that ends before it is refilled first. -/
def onChar (reading : Reading) (charTurn : Char → HostTurn α) : HostTurn α :=
  if reading.position = reading.buffer.length then
    if reading.eof then .stop (.valueError "unexpected end of JSON input")
    else .next (reading.refill (reading.buffer.drop reading.position ++ reading.chunk).isEmpty)
  else match reading.buffer[reading.position]? with
    | some char => charTurn char
    | none => .stop .indexError

def hostTurn (reading : Reading) : HostTurn α :=
  match decoder.rawDecode reading.buffer reading.position with
  | .object host stop => .yield host {reading with position := stop,state := .commaOrEnd}
  | .other _ => .stop (.valueError "each host must be a JSON object")
  | .decodeError message =>
    -- The object may go on in the next chunk.
    if reading.eof then .stop (.valueError ("invalid JSON: " ++ message))
    else .next (reading.refill reading.chunk.isEmpty)
  | .valueError message => .stop (.valueError message)

/-- One turn of `while True`. -/
def turn (reading : Reading) : HostTurn α :=
  let reading := reading.skipSpace
  match reading.state with
  | .done => doneTurn reading
  | .arrayStart => onChar reading (fun char =>
    if char ≠ '[' then .stop (.valueError "input must be a JSON array")
    else .next (reading.move .valueOrEnd))
  | .commaOrEnd => onChar reading (fun char =>
    if char = ',' then .next (reading.move .value)
    else if char = ']' then .next (reading.move .done)
    else .stop (.valueError "expected ',' or ']' after a host"))
  | .valueOrEnd => onChar reading (fun char =>
    if char = ']' then .next (reading.move .done) else hostTurn decoder reading)
  | .value => onChar reading (fun _ => hostTurn decoder reading)

/-- The hosts that the generator yields in a number of turns, and how it ends. -/
def iterHosts (turns : Nat) (reads : List (List Char)) : Option (List α × Ending) :=
  Generator.run (turn decoder) turns {reads := reads}

end Loop

/-! The same machine on a text that is there as a whole. -/

section Whole

variable {α : Type} (decoder : Decoder α)

def objectAt (text : List Char) : Option (α × List Char) :=
  match decoder.rawDecode text 0 with
  | .object host stop => some (host,text.drop stop)
  | _ => none

theorem objectAt_iff {text rest : List Char} {host : α} : objectAt decoder text = some (host,rest) ↔
    ∃ object, text = object ++ rest ∧ decoder.ObjectText object host := by
  constructor
  · intro found
    rw [objectAt] at found
    split at found
    next other stop decoded =>
      cases found
      obtain ⟨object,rest,split,written,rfl⟩ := decoder.sound decoded
      rw [List.drop_zero] at split
      exact ⟨object,by rw [split]; simp,written⟩
    next => contradiction
  · rintro ⟨object,rfl,written⟩
    have start : (object ++ rest).drop 0 = object ++ rest := List.drop_zero
    rw [objectAt,decoder.complete written start]
    simp

theorem objectText_ne_nil {text : List Char} {host : α} (written : decoder.ObjectText text host) :
    text ≠ [] := by
  rintro rfl
  cases decoder.opens written

inductive Part (α : Type) where
  | finished
  | stuck
  | moved (state : State) (rest : List Char)
  | host (value : α) (rest : List Char)

def hostPart (text : List Char) : Part α :=
  match objectAt decoder text with
  | some (host,rest) => .host host rest
  | none => .stuck

/-- The part of a text without white space before it that the machine reads in one state. -/
def part : State → List Char → Part α
  | .done,[] => .finished
  | .arrayStart,'[' :: rest => .moved .valueOrEnd rest
  | .commaOrEnd,',' :: rest => .moved .value rest
  | .commaOrEnd,']' :: rest => .moved .done rest
  | .valueOrEnd,']' :: rest => .moved .done rest
  | .valueOrEnd,text => hostPart decoder text
  | .value,text => hostPart decoder text
  | _,_ => .stuck

theorem hostPart_host {text rest : List Char} {host : α} (read : hostPart decoder text = .host host rest) :
    ∃ object, text = object ++ rest ∧ decoder.ObjectText object host := by
  rw [hostPart] at read
  split at read
  next found => cases read; exact (objectAt_iff decoder).mp found
  next => contradiction

theorem hostPart_moved {text rest : List Char} {state : State} : hostPart decoder text ≠ .moved state rest := by
  rw [hostPart]
  split <;> nofun

theorem part_host {state : State} {text rest : List Char} {host : α}
    (read : part decoder state text = .host host rest) :
    ∃ object, text = object ++ rest ∧ decoder.ObjectText object host := by
  unfold part at read
  split at read <;> first | contradiction | exact hostPart_host decoder read

theorem part_moved {state after : State} {text rest : List Char}
    (read : part decoder state text = .moved after rest) : ∃ char, text = char :: rest := by
  unfold part at read
  split at read <;> first
    | contradiction
    | exact absurd read (hostPart_moved decoder)
    | (cases read; exact ⟨_,rfl⟩)

def withoutSpace (text : List Char) : List Char := text.dropWhile Text.isSpace

theorem length_withoutSpace (text : List Char) : (withoutSpace text).length ≤ text.length :=
  (List.dropWhile_suffix _).length_le

/-- The hosts read from a text, and whether it was read to its end. -/
def readAll (state : State) (text : List Char) : List α × Bool :=
  match _ : part decoder state (withoutSpace text) with
  | .finished => ([],true)
  | .stuck => ([],false)
  | .moved after rest => readAll after rest
  | .host host rest =>
    let later := readAll .commaOrEnd rest
    (host :: later.1,later.2)
termination_by text.length
decreasing_by
  · rename_i read
    obtain ⟨char,split⟩ := part_moved decoder read
    have shorter := length_withoutSpace text
    rw [split,List.length_cons] at shorter
    omega
  · rename_i read
    obtain ⟨object,split,written⟩ := part_host decoder read
    have nonempty := List.length_pos_of_ne_nil (objectText_ne_nil decoder written)
    have shorter := length_withoutSpace text
    rw [split,List.length_append] at shorter
    omega

theorem readAll_eq (state : State) (text : List Char) : readAll decoder state text =
    match part decoder state (withoutSpace text) with
    | .finished => ([],true)
    | .stuck => ([],false)
    | .moved after rest => readAll decoder after rest
    | .host host rest =>
      (host :: (readAll decoder .commaOrEnd rest).1,(readAll decoder .commaOrEnd rest).2) := by
  rw [readAll]
  split
  next read => rw [read]
  next read => rw [read]
  next read => rw [read]
  next read => rw [read]

theorem readAll_moved {state after : State} {text rest : List Char}
    (moves : part decoder state (withoutSpace text) = .moved after rest) :
    readAll decoder state text = readAll decoder after rest := by
  rw [readAll_eq,moves]

theorem readAll_stuck {state : State} {text : List Char}
    (stuck : part decoder state (withoutSpace text) = .stuck) : readAll decoder state text = ([],false) := by
  rw [readAll_eq,stuck]

theorem withoutSpace_cons {char : Char} (plain : Text.isSpace char = false) (text : List Char) :
    withoutSpace (char :: text) = char :: text := List.dropWhile_cons_of_neg (by simp [plain])

theorem readAll_blank {blank : List Char} (spaces : ∀ char ∈ blank, Text.isSpace char = true) (state : State)
    (text : List Char) : readAll decoder state (blank ++ text) = readAll decoder state text := by
  have same : withoutSpace (blank ++ text) = withoutSpace text := by
    rw [withoutSpace,List.dropWhile_append_of_pos spaces,withoutSpace]
  rw [readAll_eq,readAll_eq,same]

end Whole

/-! What the chunked reading amounts to. -/

section Refinement

variable {α : Type} (decoder : Decoder α)

namespace Reading

def unread (reading : Reading) : List Char := reading.buffer.drop reading.position ++ reading.reads.flatten

/-- The chunks are not empty, the end of the file is flagged only where nothing is left to
read, and the position lies in the buffer. -/
structure Valid (reading : Reading) : Prop where
  chunks : ∀ chunk ∈ reading.reads, chunk ≠ []
  ended : reading.eof = true → reading.reads = []
  inside : reading.position ≤ reading.buffer.length

def measure (reading : Reading) : Nat :=
  reading.unread.length + reading.reads.length + (!reading.eof).toNat

theorem chunk_nil {reading : Reading} (valid : reading.Valid) : reading.chunk = [] ↔ reading.reads = [] := by
  rw [chunk]
  cases listed : reading.reads with
  | nil => simp
  | cons first rest =>
    have nonempty := valid.chunks first (by simp [listed])
    simpa using nonempty

theorem chunk_flatten (reading : Reading) :
    reading.chunk ++ reading.reads.tail.flatten = reading.reads.flatten := by
  rw [chunk]
  cases reading.reads <;> simp

theorem drop_skipSpace (reading : Reading) : reading.skipSpace.buffer.drop reading.skipSpace.position =
    withoutSpace (reading.buffer.drop reading.position) := by
  have split := List.takeWhile_append_dropWhile (p := Text.isSpace)
    (l := reading.buffer.drop reading.position)
  rw [skipSpace,withoutSpace,← List.drop_drop]
  nth_rewrite 2 [← split]
  rw [List.drop_left]

theorem unread_skipSpace (reading : Reading) : ∃ blank, (∀ char ∈ blank, Text.isSpace char = true) ∧
    reading.unread = blank ++ reading.skipSpace.unread := by
  refine ⟨(reading.buffer.drop reading.position).takeWhile Text.isSpace,
    fun char member => List.mem_takeWhile_imp member,?_⟩
  rw [unread,unread,drop_skipSpace,withoutSpace,← List.append_assoc,List.takeWhile_append_dropWhile]
  rfl

theorem Valid.skipSpace {reading : Reading} (valid : reading.Valid) : reading.skipSpace.Valid where
  chunks := valid.chunks
  ended := valid.ended
  inside := by
    have short := (List.takeWhile_prefix (p := Text.isSpace)
      (l := reading.buffer.drop reading.position)).length_le
    have inside := valid.inside
    rw [List.length_drop] at short
    simp only [Reading.skipSpace]
    omega

end Reading

def Ends : Ending → Bool → Prop
  | .returned,complete => complete = true
  | .valueError _,complete => complete = false
  | .indexError,_ => False

/-- The hosts and the ending are those of the unread text, read as a whole. -/
def Means (reading : Reading) (hosts : List α) (ending : Ending) : Prop :=
  hosts = (readAll decoder reading.state reading.unread).1 ∧
    Ends ending (readAll decoder reading.state reading.unread).2

abbrev TurnSound (reading : Reading) : HostTurn α → Prop :=
  Generator.Sound Reading.Valid Reading.measure (Means decoder) reading

theorem sound_error {reading : Reading} (message : String)
    (stuck : readAll decoder reading.state reading.unread = ([],false)) :
    TurnSound decoder reading (.stop (.valueError message)) := by
  refine ⟨?_,?_⟩ <;> rw [stuck]
  rfl

theorem sound_next {reading after : Reading} (valid : after.Valid)
    (smaller : after.measure < reading.measure)
    (same : readAll decoder after.state after.unread = readAll decoder reading.state reading.unread) :
    TurnSound decoder reading (.next after) := by
  refine ⟨⟨valid,smaller⟩,fun hosts ending meant => ?_⟩
  rw [Means,same] at meant
  exact meant

/-- A refill keeps the unread text; at the end of the file it only sets the flag. -/
theorem sound_refill {reading : Reading} (valid : reading.Valid) (unended : reading.eof = false)
    {ended : Bool} (exact : ended = true ↔ reading.reads = []) :
    TurnSound decoder reading (.next (reading.refill ended)) := by
  have unread : (reading.refill ended).unread = reading.unread := by
    rw [Reading.unread,Reading.unread,← Reading.chunk_flatten reading,← List.append_assoc]
    rfl
  refine sound_next decoder ⟨?_,?_,Nat.zero_le _⟩ ?_ (by rw [unread]; rfl)
  · exact fun chunk member => valid.chunks chunk (List.mem_of_mem_tail member)
  · intro flagged
    have nothing := exact.mp (by simpa [Reading.refill,unended] using flagged)
    simp [Reading.refill,nothing]
  · rw [Reading.measure,Reading.measure,unread]
    simp only [Reading.refill,unended,Bool.false_or,List.length_tail,Bool.not_false,Bool.toNat_true]
    cases listed : reading.reads with
    | nil => simp [exact.mpr listed]
    | cons first rest =>
      have flag := Bool.toNat_le (!ended)
      simp only [List.length_cons]
      omega

theorem readAll_nil {state : State} (open' : state ≠ .done) : readAll decoder state [] = ([],false) := by
  have absent : objectAt decoder [] = none := by
    rw [Option.eq_none_iff_forall_not_mem]
    rintro ⟨host,rest⟩ found
    obtain ⟨object,split,written⟩ := (objectAt_iff decoder).mp found
    exact objectText_ne_nil decoder written (List.append_eq_nil_iff.mp split.symm).1
  refine readAll_stuck decoder ?_
  cases state <;> simp_all [withoutSpace,part,hostPart]

section Char

variable {reading : Reading} {char : Char} {rest : List Char}
  (found : reading.buffer.drop reading.position = char :: rest) (plain : Text.isSpace char = false)

include found in
theorem unread_char : reading.unread = char :: (rest ++ reading.reads.flatten) := by
  rw [Reading.unread,found,List.cons_append]

include found in
theorem inside_char : reading.position < reading.buffer.length := by
  have size := congrArg List.length found
  rw [List.length_drop,List.length_cons] at size
  omega

include found plain in
theorem withoutSpace_unread : withoutSpace reading.unread = char :: (rest ++ reading.reads.flatten) := by
  rw [unread_char found,withoutSpace_cons plain]

include found plain in
theorem sound_stuck (message : String) (stuck : ∀ text, part decoder reading.state (char :: text) = .stuck) :
    TurnSound decoder reading (.stop (.valueError message)) := by
  refine sound_error decoder message (readAll_stuck decoder ?_)
  rw [withoutSpace_unread found plain,stuck]

include found plain in
theorem sound_move (valid : reading.Valid) {after : State}
    (moves : ∀ text, part decoder reading.state (char :: text) = .moved after text) :
    TurnSound decoder reading (.next (reading.move after)) := by
  have dropped : reading.buffer.drop (reading.position + 1) = rest := by
    rw [← List.drop_drop,found,List.drop_one,List.tail_cons]
  have unread : (reading.move after).unread = rest ++ reading.reads.flatten := by
    rw [Reading.unread,← dropped]
    rfl
  refine sound_next decoder ⟨valid.chunks,valid.ended,inside_char found⟩ ?_ ?_
  · rw [Reading.measure,Reading.measure,unread,unread_char found,List.length_cons]
    simp only [Reading.move]
    omega
  · rw [unread]
    refine (readAll_moved decoder ?_).symm
    rw [withoutSpace_unread found plain,moves]
    rfl

end Char

/-- No object stands at the position where none is decoded, unless the buffer ends in it. -/
theorem objectAt_unread {reading : Reading}
    (other : ∀ host stop, decoder.rawDecode reading.buffer reading.position ≠ .object host stop)
    (whole : (∀ message, decoder.rawDecode reading.buffer reading.position ≠ .decodeError message) ∨
      reading.reads = []) : objectAt decoder reading.unread = none := by
  rw [Option.eq_none_iff_forall_not_mem]
  rintro ⟨host,tail⟩ found
  obtain ⟨object,split,written⟩ := (objectAt_iff decoder).mp found
  have absent : ∀ after, reading.buffer.drop reading.position ≠ object ++ after :=
    fun after inside => other _ _ (decoder.complete written inside)
  rcases List.append_eq_append_iff.mp split with ⟨more,rfl,left⟩ | ⟨after,inside,_⟩
  · have cut : more ≠ [] := by
      rintro rfl
      exact absent [] (by simp)
    obtain ⟨message,decoded⟩ := decoder.truncated written cut
    rcases whole with never | nothing
    · exact never message decoded
    · rw [nothing,List.flatten_nil] at left
      exact cut (List.append_eq_nil_iff.mp left.symm).1
  · exact absent after inside

theorem sound_host {reading : Reading} (valid : reading.Valid) {char : Char} {rest : List Char}
    (found : reading.buffer.drop reading.position = char :: rest) (plain : Text.isSpace char = false)
    (hosts : ∀ text, part decoder reading.state (char :: text) = hostPart decoder (char :: text)) :
    TurnSound decoder reading (hostTurn decoder reading) := by
  have whole := readAll_eq decoder reading.state reading.unread
  rw [withoutSpace_unread found plain,hosts,← unread_char found,hostPart] at whole
  have refused : objectAt decoder reading.unread = none →
      ∀ message, TurnSound decoder reading (.stop (.valueError message)) := by
    intro undecoded message
    rw [undecoded] at whole
    exact sound_error decoder message whole
  rw [hostTurn]
  cases decoded : decoder.rawDecode reading.buffer reading.position with
  | object host stop =>
    obtain ⟨object,tail,split,written,rfl⟩ := decoder.sound decoded
    have dropped : reading.buffer.drop (reading.position + object.length) = tail := by
      rw [← List.drop_drop,split,List.drop_left]
    have unread : reading.unread = object ++ (tail ++ reading.reads.flatten) := by
      rw [Reading.unread,split,List.append_assoc]
    have size := congrArg List.length split
    have nonempty := List.length_pos_of_ne_nil (objectText_ne_nil decoder written)
    rw [List.length_drop,List.length_append] at size
    rw [(objectAt_iff decoder).mpr ⟨object,unread,written⟩] at whole
    refine ⟨⟨⟨valid.chunks,valid.ended,by dsimp only; omega⟩,?_⟩,?_⟩
    · simp only [Reading.measure,Reading.unread,dropped,split,List.length_append]
      omega
    · rintro later ending ⟨same,ends⟩
      simp only [Reading.unread,dropped] at same ends
      rw [Means,whole]
      exact ⟨congrArg (host :: ·) same,ends⟩
  | other stop =>
    exact refused (objectAt_unread decoder (by simp [decoded]) (Or.inl (by simp [decoded]))) _
  | valueError message =>
    exact refused (objectAt_unread decoder (by simp [decoded]) (Or.inl (by simp [decoded]))) _
  | decodeError message =>
    cases flag : reading.eof with
    | true => exact refused (objectAt_unread decoder (by simp [decoded]) (Or.inr (valid.ended flag))) _
    | false =>
      exact sound_refill decoder valid flag (List.isEmpty_iff.trans (Reading.chunk_nil valid))

/-- White space before the position is skipped. -/
def Reading.Skipped (reading : Reading) : Prop :=
  ∀ char rest, reading.buffer.drop reading.position = char :: rest → Text.isSpace char = false

theorem Reading.skipped_skipSpace (reading : Reading) : reading.skipSpace.Skipped := by
  intro char rest found
  have plain := List.head?_dropWhile_not Text.isSpace (reading.buffer.drop reading.position)
  rw [Reading.drop_skipSpace,withoutSpace] at found
  simpa [found] using plain

theorem sound_onChar {reading : Reading} (valid : reading.Valid) (skipped : reading.Skipped)
    (open' : reading.state ≠ .done) {charTurn : Char → HostTurn α}
    (chars : ∀ char rest, reading.buffer.drop reading.position = char :: rest →
      Text.isSpace char = false → TurnSound decoder reading (charTurn char)) :
    TurnSound decoder reading (onChar reading charTurn) := by
  rw [onChar]
  cases found : reading.buffer.drop reading.position with
  | nil =>
    have last : reading.position = reading.buffer.length :=
      Nat.le_antisymm valid.inside (List.drop_eq_nil_iff.mp found)
    rw [if_pos last]
    cases flag : reading.eof with
    | true =>
      refine sound_error decoder _ ?_
      rw [Reading.unread,found,valid.ended flag]
      exact readAll_nil decoder open'
    | false =>
      exact sound_refill decoder valid flag (List.isEmpty_iff.trans (Reading.chunk_nil valid))
  | cons char rest =>
    have here : reading.buffer[reading.position]? = some char := by
      rw [← List.head?_drop,found,List.head?_cons]
    rw [if_neg (Nat.ne_of_lt (inside_char found)),here]
    exact chars char rest found (skipped char rest found)

theorem sound_done {reading : Reading} (valid : reading.Valid) (skipped : reading.Skipped)
    (closed : reading.state = .done) : TurnSound decoder reading (doneTurn reading) := by
  rw [doneTurn]
  cases found : reading.buffer.drop reading.position with
  | nil =>
    have last : reading.buffer.length ≤ reading.position := List.drop_eq_nil_iff.mp found
    rw [if_neg (by omega)]
    have unread : reading.unread = reading.reads.flatten := by
      rw [Reading.unread,found,List.nil_append]
    by_cases nothing : reading.reads = []
    · rw [if_neg (by simpa using (Reading.chunk_nil valid).mpr nothing)]
      have whole : readAll decoder reading.state reading.unread = ([],true) := by
        rw [readAll_eq,unread,nothing,closed]
        rfl
      refine ⟨?_,?_⟩ <;> rw [whole]
      rfl
    · rw [if_pos (mt (Reading.chunk_nil valid).mp nothing)]
      have refilled : reading.chunk ++ reading.reads.tail.flatten = reading.unread := by
        rw [Reading.chunk_flatten,unread]
      have fewer := List.length_pos_of_ne_nil nothing
      refine sound_next decoder ⟨?_,?_,Nat.zero_le _⟩ ?_ ?_
      · exact fun chunk member => valid.chunks chunk (List.mem_of_mem_tail member)
      · exact fun flagged => absurd (valid.ended flagged) nothing
      · simp only [Reading.measure]
        rw [Reading.unread,List.drop_zero,refilled,List.length_tail]
        omega
      · rw [Reading.unread,List.drop_zero,refilled]
  | cons char rest =>
    rw [if_pos (inside_char found)]
    refine sound_stuck decoder found (skipped char rest found) _ (fun text => ?_)
    rw [closed]
    rfl

theorem turn_sound {reading : Reading} (valid : reading.Valid) :
    TurnSound decoder reading (turn decoder reading) := by
  obtain ⟨blank,spaces,unread⟩ := reading.unread_skipSpace
  have skipped := reading.skipped_skipSpace
  have sound : TurnSound decoder reading.skipSpace (turn decoder reading) := by
    have kept := valid.skipSpace
    rw [turn]
    generalize reading.skipSpace = reading at *
    cases state : reading.state with
    | done => exact sound_done decoder kept skipped state
    | arrayStart =>
      refine sound_onChar decoder kept skipped (by simp [state]) (fun char rest found plain => ?_)
      by_cases bracket : char = '['
      · subst bracket
        exact sound_move decoder found plain kept (fun text => by rw [state]; rfl)
      · rw [if_pos bracket]
        refine sound_stuck decoder found plain _ (fun text => ?_)
        simp [part,state,bracket]
    | commaOrEnd =>
      refine sound_onChar decoder kept skipped (by simp [state]) (fun char rest found plain => ?_)
      by_cases comma : char = ','
      · subst comma
        exact sound_move decoder found plain kept (fun text => by rw [state]; rfl)
      by_cases bracket : char = ']'
      · subst bracket
        exact sound_move decoder found plain kept (fun text => by rw [state]; rfl)
      · rw [if_neg comma,if_neg bracket]
        refine sound_stuck decoder found plain _ (fun text => ?_)
        simp [part,state,comma,bracket]
    | valueOrEnd =>
      refine sound_onChar decoder kept skipped (by simp [state]) (fun char rest found plain => ?_)
      by_cases bracket : char = ']'
      · subst bracket
        exact sound_move decoder found plain kept (fun text => by rw [state]; rfl)
      · rw [if_neg bracket]
        refine sound_host decoder kept found plain (fun text => ?_)
        simp [part,state,bracket]
    | value =>
      refine sound_onChar decoder kept skipped (by simp [state]) (fun char rest found plain => ?_)
      exact sound_host decoder kept found plain (fun text => by rw [state]; rfl)
  refine sound.of_le ?_ ?_
  · simp only [Reading.measure,unread,List.length_append]
    simp only [Reading.skipSpace]
    omega
  · rintro hosts ending ⟨same,ends⟩
    rw [Means,unread,readAll_blank decoder spaces]
    exact ⟨same,ends⟩

/-- The generator yields these hosts and ends so, given enough turns. -/
def Yields (reads : List (List Char)) (hosts : List α) (ending : Ending) : Prop :=
  ∃ enough, ∀ turns, enough ≤ turns → iterHosts decoder turns reads = some (hosts,ending)

/-- However the text is cut into chunks, the loop ends, and yields what reading the text as a
whole yields. -/
theorem iterHosts_readAll {reads : List (List Char)} (chunks : ∀ chunk ∈ reads, chunk ≠ []) :
    ∃ ending, Ends ending (readAll decoder .arrayStart reads.flatten).2 ∧
      Yields decoder reads (readAll decoder .arrayStart reads.flatten).1 ending := by
  have valid : Reading.Valid {reads := reads} := ⟨chunks,nofun,Nat.le_refl _⟩
  obtain ⟨hosts,ending,ran,same,ends⟩ := Generator.run_sound
    (fun _ valid => turn_sound decoder valid) valid (Nat.lt_succ_self _)
  exact ⟨ending,ends,_,fun turns enough => same ▸ Generator.run_le enough ran⟩

end Refinement

end Roadmap.HostFile
