import Roadmap.Base.Json
import Roadmap.Scripts.Hosts

/-! The texts that the generator of hosts accepts: arrays of objects, with white space
between the tokens. -/
namespace Roadmap.HostFile

def Blank (text : List Char) : Prop := ∀ char ∈ text, Text.isSpace char = true

section Arrays

variable {α : Type} (decoder : Decoder α)

/-- What follows a host: hosts each after a comma, then the end of the array. -/
inductive Following : List Char → List α → Prop where
  | close {gap trail : List Char} : Blank gap → Blank trail → Following (gap ++ ']' :: trail) []
  | comma {gap lead object rest : List Char} {host : α} {hosts : List α} : Blank gap → Blank lead →
      decoder.ObjectText object host → Following rest hosts →
        Following (gap ++ ',' :: (lead ++ (object ++ rest))) (host :: hosts)

/-- A JSON array of objects. -/
inductive ArrayText : List Char → List α → Prop where
  | empty {lead gap trail : List Char} : Blank lead → Blank gap → Blank trail →
      ArrayText (lead ++ '[' :: (gap ++ ']' :: trail)) []
  | hosts {lead gap object rest : List Char} {host : α} {hosts : List α} : Blank lead → Blank gap →
      decoder.ObjectText object host → Following decoder rest hosts →
        ArrayText (lead ++ '[' :: (gap ++ (object ++ rest))) (host :: hosts)

/-- The hosts of a part of the text that closing the array completes. -/
def PrefixHosts (text : List Char) (hosts : List α) : Prop :=
  hosts = [] ∨ ∃ first rest, text = first ++ rest ∧ ArrayText decoder (first ++ [']']) hosts

theorem blank_nil : Blank [] := nofun

theorem exists_blank (text : List Char) : ∃ gap, Blank gap ∧ text = gap ++ withoutSpace text :=
  ⟨text.takeWhile Text.isSpace,fun _ member => List.mem_takeWhile_imp member,
    List.takeWhile_append_dropWhile.symm⟩

/-! Texts of the grammar are read to their end. -/

theorem readAll_part {state : State} {char : Char} (plain : Text.isSpace char = false) {text : List Char}
    {after : State} (moves : part decoder state (char :: text) = .moved after text) :
    readAll decoder state (char :: text) = readAll decoder after text := by
  refine readAll_moved decoder ?_
  rw [withoutSpace_cons plain,moves]

theorem readAll_object {state : State} (hosts : ∀ text, part decoder state ('{' :: text) =
    hostPart decoder ('{' :: text)) {object rest : List Char} {host : α}
    (written : decoder.ObjectText object host) : readAll decoder state (object ++ rest) =
      (host :: (readAll decoder .commaOrEnd rest).1,(readAll decoder .commaOrEnd rest).2) := by
  have found : objectAt decoder (object ++ rest) = some (host,rest) :=
    (objectAt_iff decoder).mpr ⟨object,rfl,written⟩
  obtain ⟨inner,rfl⟩ := List.head?_eq_some_iff.mp (decoder.opens written)
  rw [List.cons_append] at found ⊢
  rw [readAll_eq,withoutSpace_cons (by decide),hosts,hostPart,found]

theorem readAll_done (text : List Char) :
    (readAll decoder .done text).1 = [] ∧ ((readAll decoder .done text).2 = true ↔ Blank text) := by
  have blank : withoutSpace text = [] ↔ Blank text := List.dropWhile_eq_nil_iff
  rw [readAll_eq,← blank]
  cases withoutSpace text <;> simp [part]

theorem readAll_trail {trail : List Char} (spaces : Blank trail) :
    readAll decoder .done trail = ([],true) :=
  Prod.ext (readAll_done decoder trail).1 ((readAll_done decoder trail).2.mpr spaces)

theorem readAll_following {text : List Char} {hosts : List α} (following : Following decoder text hosts) :
    readAll decoder .commaOrEnd text = (hosts,true) := by
  induction following with
  | close gap trail =>
    rw [readAll_blank decoder gap,readAll_part decoder (by decide) rfl,readAll_trail decoder trail]
  | comma gap lead written _ ih =>
    rw [readAll_blank decoder gap,readAll_part decoder (by decide) rfl,readAll_blank decoder lead,
      readAll_object decoder (fun _ => rfl) written,ih]

theorem readAll_arrayText {text : List Char} {hosts : List α} (array : ArrayText decoder text hosts) :
    readAll decoder .arrayStart text = (hosts,true) := by
  cases array with
  | empty lead gap trail =>
    rw [readAll_blank decoder lead,readAll_part decoder (by decide) rfl,readAll_blank decoder gap,
      readAll_part decoder (by decide) rfl,readAll_trail decoder trail]
  | hosts lead gap written following =>
    rw [readAll_blank decoder lead,readAll_part decoder (by decide) rfl,readAll_blank decoder gap,
      readAll_object decoder (fun _ => rfl) written,readAll_following decoder following]

/-! What is read are the hosts of such a text, or of a part of it. -/

theorem readAll_host {state : State} {text : List Char}
    (hosts : part decoder state (withoutSpace text) = hostPart decoder (withoutSpace text)) :
    readAll decoder state text = ([],false) ∨ ∃ lead object rest host, text = lead ++ (object ++ rest) ∧
      Blank lead ∧ decoder.ObjectText object host ∧ readAll decoder state text =
        (host :: (readAll decoder .commaOrEnd rest).1,(readAll decoder .commaOrEnd rest).2) := by
  obtain ⟨lead,spaces,split⟩ := exists_blank text
  rw [readAll_eq,hosts,hostPart]
  cases found : objectAt decoder (withoutSpace text) with
  | none => exact Or.inl rfl
  | some read =>
    obtain ⟨object,whole,written⟩ := (objectAt_iff decoder).mp found
    exact Or.inr ⟨lead,object,read.2,read.1,by rw [← whole,← split],spaces,written,rfl⟩

/-- The hosts read after a host are those of the rest of an array, or of a part of it that
closing the array completes. -/
def FollowingRead (text : List Char) (hosts : List α) (complete : Bool) : Prop :=
  (complete = true → Following decoder text hosts) ∧
    ∃ first rest, text = first ++ rest ∧ Following decoder (first ++ [']']) hosts

theorem followingRead_nil (text : List Char) : FollowingRead decoder text [] false :=
  ⟨fun complete => absurd complete Bool.false_ne_true,[],text,rfl,.close blank_nil blank_nil⟩

theorem followingRead_comma {gap text : List Char} (spaces : Blank gap)
    (ih : ∀ rest, rest.length ≤ text.length →
      FollowingRead decoder rest (readAll decoder .commaOrEnd rest).1 (readAll decoder .commaOrEnd rest).2) :
    FollowingRead decoder (gap ++ ',' :: text) (readAll decoder .value text).1
      (readAll decoder .value text).2 := by
  have hosts : part decoder .value (withoutSpace text) = hostPart decoder (withoutSpace text) := rfl
  rcases readAll_host decoder hosts with
    stuck | ⟨lead,object,rest,host,rfl,blank,written,read⟩
  · rw [stuck]
    exact followingRead_nil decoder _
  · rw [read]
    obtain ⟨whole,first,last,rfl,closed⟩ := ih rest (by simp only [List.length_append]; omega)
    refine ⟨fun complete => .comma spaces blank written (whole complete),
      gap ++ ',' :: (lead ++ (object ++ first)),last,by simp,?_⟩
    have joined := Following.comma spaces blank written closed
    simpa using joined

theorem followingRead (text : List Char) : FollowingRead decoder text
    (readAll decoder .commaOrEnd text).1 (readAll decoder .commaOrEnd text).2 := by
  induction size : text.length using Nat.strongRecOn generalizing text with
  | ind length ih =>
    subst size
    obtain ⟨gap,spaces,split⟩ := exists_blank text
    cases stripped : withoutSpace text with
    | nil =>
      have stuck : part decoder .commaOrEnd (withoutSpace text) = .stuck := by rw [stripped]; rfl
      rw [readAll_stuck decoder stuck]
      exact followingRead_nil decoder text
    | cons char rest =>
      rw [stripped] at split
      by_cases comma : char = ','
      · subst comma
        have moves : part decoder .commaOrEnd (withoutSpace text) = .moved .value rest := by rw [stripped]; rfl
        rw [readAll_moved decoder moves,split]
        refine followingRead_comma decoder spaces (fun later shorter => ih _ ?_ later rfl)
        rw [split,List.length_append,List.length_cons]
        omega
      by_cases bracket : char = ']'
      · subst bracket
        have moves : part decoder .commaOrEnd (withoutSpace text) = .moved .done rest := by rw [stripped]; rfl
        obtain ⟨nothing,blank⟩ := readAll_done decoder rest
        rw [readAll_moved decoder moves,split,nothing]
        exact ⟨fun complete => .close spaces (blank.mp complete),[],_,rfl,.close blank_nil blank_nil⟩
      · have stuck : part decoder .commaOrEnd (withoutSpace text) = .stuck := by
          simp [stripped,part,comma,bracket]
        rw [readAll_stuck decoder stuck]
        exact followingRead_nil decoder text

/-- The hosts read after the opening bracket. -/
theorem arrayRead_open {lead text : List Char} (spaces : Blank lead) :
    ((readAll decoder .valueOrEnd text).2 = true →
      ArrayText decoder (lead ++ '[' :: text) (readAll decoder .valueOrEnd text).1) ∧
      PrefixHosts decoder (lead ++ '[' :: text) (readAll decoder .valueOrEnd text).1 := by
  obtain ⟨gap,blank,split⟩ := exists_blank text
  by_cases closed : ∃ trail, withoutSpace text = ']' :: trail
  · obtain ⟨trail,stripped⟩ := closed
    have moves : part decoder .valueOrEnd (withoutSpace text) = .moved .done trail := by rw [stripped]; rfl
    obtain ⟨nothing,ends⟩ := readAll_done decoder trail
    rw [readAll_moved decoder moves,nothing,split,stripped]
    exact ⟨fun complete => .empty spaces blank (ends.mp complete),Or.inl rfl⟩
  · have hosts : part decoder .valueOrEnd (withoutSpace text) = hostPart decoder (withoutSpace text) := by
      cases stripped : withoutSpace text with
      | nil => rfl
      | cons char trail =>
        have other : char ≠ ']' := by
          rintro rfl
          exact closed ⟨trail,stripped⟩
        simp [part,other]
    rcases readAll_host decoder hosts with stuck | ⟨between,object,rest,host,rfl,spaced,written,read⟩
    · rw [stuck]
      exact ⟨fun complete => absurd complete Bool.false_ne_true,Or.inl rfl⟩
    · rw [read]
      obtain ⟨whole,first,last,rfl,following⟩ := followingRead decoder rest
      refine ⟨fun complete => .hosts spaces spaced written (whole complete),
        Or.inr ⟨lead ++ '[' :: (between ++ (object ++ first)),last,by simp,?_⟩⟩
      have array := ArrayText.hosts spaces spaced written following
      simpa using array

theorem arrayRead (text : List Char) :
    ((readAll decoder .arrayStart text).2 = true →
      ArrayText decoder text (readAll decoder .arrayStart text).1) ∧
      PrefixHosts decoder text (readAll decoder .arrayStart text).1 := by
  obtain ⟨lead,spaces,split⟩ := exists_blank text
  by_cases opened : ∃ rest, withoutSpace text = '[' :: rest
  · obtain ⟨rest,stripped⟩ := opened
    have moves : part decoder .arrayStart (withoutSpace text) = .moved .valueOrEnd rest := by
      rw [stripped]; rfl
    rw [readAll_moved decoder moves,split,stripped]
    exact arrayRead_open decoder spaces
  · have stuck : part decoder .arrayStart (withoutSpace text) = .stuck := by
      cases stripped : withoutSpace text with
      | nil => rfl
      | cons char rest =>
        have other : char ≠ '[' := by
          rintro rfl
          exact opened ⟨rest,stripped⟩
        simp [part,other]
    rw [readAll_stuck decoder stuck]
    exact ⟨fun complete => absurd complete Bool.false_ne_true,Or.inl rfl⟩

/-- The text cut into chunks that are not empty. -/
def Cuts (reads : List (List Char)) (text : List Char) : Prop :=
  (∀ chunk ∈ reads, chunk ≠ []) ∧ reads.flatten = text

theorem yields_arrayText {text : List Char} {hosts : List α} (array : ArrayText decoder text hosts)
    {reads : List (List Char)} (cuts : Cuts reads text) : Yields decoder reads hosts .returned := by
  obtain ⟨chunks,rfl⟩ := cuts
  obtain ⟨ending,ends,yields⟩ := iterHosts_readAll decoder chunks
  rw [readAll_arrayText decoder array] at ends yields
  cases ending with
  | returned => exact yields
  | valueError message => cases ends
  | indexError => exact ends.elim

/-- The same hosts are read, whatever the chunks. -/
theorem yields_other {text : List Char} (other : ∀ hosts, ¬ ArrayText decoder text hosts)
    {reads : List (List Char)} (cuts : Cuts reads text) :
    ∃ message, Yields decoder reads (readAll decoder .arrayStart text).1 (.valueError message) := by
  obtain ⟨chunks,rfl⟩ := cuts
  obtain ⟨ending,ends,yields⟩ := iterHosts_readAll decoder chunks
  cases ending with
  | returned => exact absurd ((arrayRead decoder reads.flatten).1 ends) (other _)
  | valueError message => exact ⟨message,yields⟩
  | indexError => exact ends.elim

/-- Arrays of objects are read to their end, whatever the chunks; every other text raises
ValueError, after the same hosts for all chunks. -/
theorem iterHosts_arrays (text : List Char) :
    (∀ hosts, ArrayText decoder text hosts → ∀ reads, Cuts reads text →
      Yields decoder reads hosts .returned) ∧
    ((∀ hosts, ¬ ArrayText decoder text hosts) → ∃ hosts, PrefixHosts decoder text hosts ∧
      ∀ reads, Cuts reads text → ∃ message, Yields decoder reads hosts (.valueError message)) := by
  constructor
  · exact fun hosts array reads cuts => yields_arrayText decoder array cuts
  · intro other
    exact ⟨_,(arrayRead decoder text).2,fun reads cuts => yields_other decoder other cuts⟩

end Arrays

private def decodeBraces (buffer : List Char) (position : Nat) : Decoded Json :=
  match buffer.drop position with
  | '{' :: '}' :: _ => .object (.obj []) (position + 2)
  | _ => .decodeError "Expecting value"

/-- A decoder of the object without fields. -/
def braces : Decoder Json where
  rawDecode := decodeBraces
  ObjectText := fun text host => text = ['{','}'] ∧ host = .obj []
  opens := by
    rintro text host ⟨rfl,rfl⟩
    rfl
  complete := by
    rintro buffer object rest position host ⟨rfl,rfl⟩ found
    simp [decodeBraces,found]
  truncated := by
    rintro buffer more position host ⟨written,rfl⟩ cut
    refine ⟨"Expecting value",?_⟩
    rw [decodeBraces]
    split
    next rest found =>
      rw [found] at written
      simp at written
      exact absurd written.2 cut
    next => rfl
  sound := by
    intro buffer position stop host decoded
    rw [decodeBraces] at decoded
    split at decoded
    next rest found =>
      cases decoded
      exact ⟨['{','}'],rest,found,⟨rfl,rfl⟩,rfl⟩
    next => cases decoded

theorem ArrayText.bracket {α : Type} {decoder : Decoder α} {text : List Char} {hosts : List α}
    (array : ArrayText decoder text hosts) : '[' ∈ text := by
  cases array <;> simp

theorem iterHosts_arrays_braces :
    Yields braces [" [\x7b".toList,"\x7d , \x7b".toList,"\x7d] ".toList] [.obj [],.obj []] .returned ∧
    ∃ hosts, PrefixHosts braces "\x7b\x7d".toList hosts ∧ ∀ reads, Cuts reads "\x7b\x7d".toList →
      ∃ message, Yields braces reads hosts (.valueError message) := by
  have space : Blank [' '] := List.forall_mem_singleton.mpr rfl
  have array : ArrayText braces " [\x7b\x7d , \x7b\x7d] ".toList [.obj [],.obj []] :=
    @ArrayText.hosts _ braces [' '] [] ['{','}'] _ _ _ space blank_nil ⟨rfl,rfl⟩
      (@Following.comma _ braces [' '] [' '] ['{','}'] _ _ _ space space ⟨rfl,rfl⟩
        (@Following.close _ braces [] [' '] blank_nil space))
  refine ⟨(iterHosts_arrays braces " [\x7b\x7d , \x7b\x7d] ".toList).1 _ array _ ⟨by decide,rfl⟩,
    (iterHosts_arrays braces "\x7b\x7d".toList).2 (fun hosts other => ?_)⟩
  exact absurd other.bracket (by decide)

end Roadmap.HostFile
