import Roadmap.Scripts.HostArrays

/-! The generated hosts: a number of copies of the source hosts, shared out evenly among them
and written while the file of the sources is read a second time. -/
namespace Roadmap.HostFile

/-- `host.get("system_profile")`, where it is a dictionary that is not empty. -/
def profileOf (host : Json) : Option Json :=
  match host with
  | .obj fields => match fields.lookup "system_profile" with
    | some (.obj (field :: rest)) => some (.obj (field :: rest))
    | _ => none
  | _ => none

/-- `iter_hosts_with_profiles` over the hosts of a file. -/
def withProfiles (hosts : List Json) : List Json := hosts.filter (fun host => (profileOf host).isSome)

structure Writer where
  output : List Char
  generated : Nat

section Generate

variable (decoder : Decoder Json) (dumps : Json → List Char) (newId : Nat → String)

/-- A copy of a source, which has a system profile. -/
def newHost (hostId : String) (source : Json) : Json := .obj [("id",.str hostId),
  ("display_name",.str (String.ofList (Text.replace "-" "" hostId.toList))),
  ("system_profile",(profileOf source).getD .null)]

/-- Writes one copy under the next random id, after a comma unless it is the first. -/
def writeHost (writer : Writer) (source : Json) : Writer :=
  let comma := if writer.generated = 0 then [] else ",\n".toList
  ⟨writer.output ++ comma ++ dumps (newHost (newId writer.generated) source),writer.generated + 1⟩

/-- `copies_per_host + (source_index < hosts_with_extra_copy)` -/
def copies (copiesPerHost hostsWithExtraCopy sourceIndex : Nat) : Nat :=
  copiesPerHost + if sourceIndex < hostsWithExtraCopy then 1 else 0

/-- The loop over the enumerated sources; the flag tells whether it ended with `break`. -/
def writeHosts (count copiesPerHost hostsWithExtraCopy : Nat) : List (Json × Nat) → Writer → Writer × Bool
  | [],writer => (writer,false)
  | (sourceHost,sourceIndex) :: rest,writer =>
    let writer := (List.replicate (copies copiesPerHost hostsWithExtraCopy sourceIndex) sourceHost).foldl
      (writeHost dumps newId) writer
    if writer.generated = count then (writer,true)
    else writeHosts count copiesPerHost hostsWithExtraCopy rest writer

/-- The file that is written from the sources of the first and of the second pass. What ends the
second pass is raised unless the loop has ended before. -/
def writeFile (count : Nat) (hosts sourceHosts : List Json) (ending : Ending) : Except Ending (List Char) :=
  let sourceCount := (withProfiles hosts).length
  if sourceCount = 0 then .error (.valueError "input contains no hosts with system profiles")
  else
    let written := writeHosts dumps newId count (count / sourceCount) (count % sourceCount)
      (withProfiles sourceHosts).zipIdx ⟨"[\n".toList,0⟩
    match written.2,ending with
    | false,.valueError message => .error (.valueError message)
    | false,.indexError => .error .indexError
    | _,_ => .ok (written.1.output ++ "\n]\n".toList)

/-- `generate_hosts` on the chunks that the two passes over the input read; `none` where the
turns do not suffice. -/
def generateHosts (turns : Nat) (reads again : List (List Char)) (count : Nat) :
    Option (Except Ending (List Char)) :=
  match iterHosts decoder turns reads with
  | none => none
  | some (hosts,.returned) => (iterHosts decoder turns again).map (fun second =>
    writeFile dumps newId count hosts second.1 second.2)
  | some (_,ending) => some (.error ending)

end Generate

/-! What is written. -/

/-- How many copies a source is to get: its even share, and one of the rest while it lasts. -/
def share (count sourceCount index : Nat) : Nat :=
  if index < count % sourceCount then count / sourceCount + 1 else count / sourceCount

/-- The source of every copy, in the order in which they are written. -/
def copiedSources (sources : List Json) (count : Nat) : List Json :=
  sources.zipIdx.flatMap (fun source => List.replicate (share count sources.length source.2) source.1)

def generatedHosts (newId : Nat → String) (sources : List Json) (count : Nat) : List Json :=
  (copiedSources sources count).zipIdx.map (fun source => newHost (newId source.2) source.1)

def fileText (dumps : Json → List Char) (hosts : List Json) : List Char :=
  "[\n".toList ++ (",\n".toList).intercalate (hosts.map dumps) ++ "\n]\n".toList

theorem copies_eq_share (count sourceCount : Nat) :
    copies (count / sourceCount) (count % sourceCount) = share count sourceCount := by
  funext index
  rw [copies,share]
  split <;> rfl

theorem sum_shares {sourceCount : Nat} (positive : 0 < sourceCount) (count : Nat) :
    ((List.range sourceCount).map (share count sourceCount)).sum = count := by
  have upTo : ∀ size quotient remainder,
      ((List.range size).map (copies quotient remainder)).sum = size * quotient + min size remainder := by
    intro size quotient remainder
    induction size with
    | zero => simp
    | succ size ih =>
      rw [List.range_succ,List.map_append,List.sum_append,ih,Nat.succ_mul]
      simp only [List.map_cons,List.map_nil,List.sum_cons,List.sum_nil,copies]
      split <;> omega
  have small := Nat.mod_lt count positive
  have divided := Nat.div_add_mod count sourceCount
  have total := upTo sourceCount (count / sourceCount) (count % sourceCount)
  rw [copies_eq_share] at total
  exact total.trans (by omega)

theorem sum_shares_zipIdx {sources : List Json} (positive : 0 < sources.length) (count : Nat) :
    (sources.zipIdx.map (fun source => share count sources.length source.2)).sum = count := by
  rw [show (fun source : Json × Nat => share count sources.length source.2) =
    share count sources.length ∘ Prod.snd from rfl,← List.map_map,List.zipIdx_map_snd,← List.range_eq_range']
  exact sum_shares positive count

theorem length_copiedSources {sources : List Json} (positive : 0 < sources.length) (count : Nat) :
    (copiedSources sources count).length = count := by
  rw [copiedSources,List.length_flatMap]
  simp only [List.length_replicate]
  exact sum_shares_zipIdx positive count

section Loop

variable {dumps : Json → List Char} {newId : Nat → String}

theorem generated_foldl (sources : List Json) (writer : Writer) :
    (sources.foldl (writeHost dumps newId) writer).generated = writer.generated + sources.length := by
  induction sources generalizing writer with
  | nil => rfl
  | cons source rest ih =>
    rw [List.foldl_cons,ih,List.length_cons,writeHost]
    dsimp only
    omega

/-- The loop writes all copies, and it breaks only where none is left. -/
theorem writeHosts_all (count quotient remainder : Nat) (entries : List (Json × Nat)) (writer : Writer)
    (left : writer.generated + (entries.map (fun entry => copies quotient remainder entry.2)).sum = count) :
    (writeHosts dumps newId count quotient remainder entries writer).1 =
      (entries.flatMap (fun entry => List.replicate (copies quotient remainder entry.2) entry.1)).foldl
        (writeHost dumps newId) writer := by
  induction entries generalizing writer with
  | nil => rfl
  | cons entry rest ih =>
    have generated := @generated_foldl dumps newId (List.replicate (copies quotient remainder entry.2) entry.1)
      writer
    rw [List.length_replicate] at generated
    rw [List.map_cons,List.sum_cons] at left
    rw [List.flatMap_cons,List.foldl_append,writeHosts]
    generalize (List.replicate (copies quotient remainder entry.2) entry.1).foldl (writeHost dumps newId) writer =
      after at generated ⊢
    by_cases full : after.generated = count
    · have zero : (rest.map (fun entry => copies quotient remainder entry.2)).sum = 0 := by omega
      have nothing : rest.flatMap (fun entry => List.replicate (copies quotient remainder entry.2) entry.1) = [] := by
        rw [← List.length_eq_zero_iff,List.length_flatMap]
        simpa using zero
      rw [nothing,if_pos full]
      rfl
    · rw [if_neg full]
      exact ih after (by omega)

theorem output_foldl (sources : List Json) (writer : Writer) (later : writer.generated ≠ 0) :
    (sources.foldl (writeHost dumps newId) writer).output = writer.output ++
      ((sources.zipIdx writer.generated).map (fun source =>
        ",\n".toList ++ dumps (newHost (newId source.2) source.1))).flatten := by
  induction sources generalizing writer with
  | nil => simp
  | cons source rest ih =>
    rw [List.foldl_cons,ih _ (Nat.succ_ne_zero _),List.zipIdx_cons,List.map_cons,List.flatten_cons]
    simp [writeHost,later]

theorem intercalate_cons (separator first : List Char) (others : List (List Char)) :
    separator.intercalate (first :: others) = first ++ (others.map (separator ++ ·)).flatten := by
  induction others generalizing first with
  | nil => simp
  | cons second others ih =>
    rw [List.intercalate_cons_cons,ih,List.map_cons,List.flatten_cons,List.append_assoc,List.append_assoc]

theorem written_output {source : Json} (rest : List Json) :
    ((source :: rest).foldl (writeHost dumps newId) ⟨"[\n".toList,0⟩).output = "[\n".toList ++
      (",\n".toList).intercalate (((source :: rest).zipIdx.map (fun source => newHost (newId source.2) source.1)).map
        dumps) := by
  rw [List.foldl_cons,output_foldl rest _ (by simp [writeHost]),List.zipIdx_cons,List.map_cons,List.map_cons,
    intercalate_cons]
  simp [writeHost,Function.comp_def]

end Loop

section Array

variable {decoder : Decoder Json} {dumps : Json → List Char}

theorem blank_newline : Blank ['\n'] := List.forall_mem_singleton.mpr rfl

theorem following_written (hosts : List Json) (dumped : ∀ host ∈ hosts, decoder.ObjectText (dumps host) host) :
    Following decoder (((hosts.map dumps).map (",\n".toList ++ ·)).flatten ++ "\n]\n".toList) hosts := by
  induction hosts with
  | nil => exact @Following.close _ decoder ['\n'] ['\n'] blank_newline blank_newline
  | cons host rest ih =>
    obtain ⟨first,others⟩ := List.forall_mem_cons.mp dumped
    have further := @Following.comma _ decoder [] ['\n'] _ _ _ _ blank_nil blank_newline first (ih others)
    simpa using further

theorem arrayText_written {hosts : List Json} (nonempty : hosts ≠ [])
    (dumped : ∀ host ∈ hosts, decoder.ObjectText (dumps host) host) :
    ArrayText decoder (fileText dumps hosts) hosts := by
  obtain ⟨host,rest,rfl⟩ := List.exists_cons_of_ne_nil nonempty
  obtain ⟨first,others⟩ := List.forall_mem_cons.mp dumped
  have array := @ArrayText.hosts _ decoder [] ['\n'] _ _ _ _ blank_nil blank_newline first
    (following_written rest others)
  rw [fileText,List.map_cons,intercalate_cons]
  simpa using array

variable {newId : Nat → String}

theorem writeFile_exact {hosts : List Json} {count : Nat} (usable : withProfiles hosts ≠ []) (one : 1 ≤ count) :
    writeFile dumps newId count hosts hosts .returned =
      .ok (fileText dumps (generatedHosts newId (withProfiles hosts) count)) := by
  have positive := List.length_pos_iff.mpr usable
  have all := @writeHosts_all dumps newId count (count / (withProfiles hosts).length)
    (count % (withProfiles hosts).length) (withProfiles hosts).zipIdx ⟨"[\n".toList,0⟩
    (by rw [copies_eq_share,sum_shares_zipIdx positive,Nat.zero_add])
  have length := length_copiedSources positive count
  cases copied : copiedSources (withProfiles hosts) count with
  | nil =>
    rw [copied,List.length_nil] at length
    omega
  | cons source rest =>
    have output := @written_output dumps newId source rest
    rw [copies_eq_share] at all
    rw [← copied] at output
    rw [writeFile,if_neg positive.ne',fileText,generatedHosts,← output,copiedSources,← all]
    dsimp only
    cases (writeHosts dumps newId count _ _ (withProfiles hosts).zipIdx ⟨"[\n".toList,0⟩).2 <;> rfl

/-- A file that is no array of objects raises ValueError, and so does one without a system profile. -/
theorem generateHosts_refused {text : List Char} {reads again : List (List Char)} (count : Nat)
    (cuts : Cuts reads text) (cutsAgain : Cuts again text)
    (refused : ∀ hosts, ArrayText decoder text hosts → withProfiles hosts = []) :
    ∃ message enough, ∀ turns, enough ≤ turns →
      generateHosts decoder dumps newId turns reads again count = some (.error (.valueError message)) := by
  by_cases array : ∃ hosts, ArrayText decoder text hosts
  · obtain ⟨hosts,array⟩ := array
    obtain ⟨first,readsFirst⟩ := yields_arrayText decoder array cuts
    obtain ⟨second,readsSecond⟩ := yields_arrayText decoder array cutsAgain
    refine ⟨"input contains no hosts with system profiles",max first second,fun turns enough => ?_⟩
    rw [generateHosts,readsFirst turns (by omega)]
    dsimp only
    rw [readsSecond turns (by omega),Option.map_some,writeFile,refused hosts array]
    rfl
  · obtain ⟨message,enough,reads⟩ := yields_other decoder (not_exists.mp array) cuts
    refine ⟨message,enough,fun turns more => ?_⟩
    rw [generateHosts,reads turns more]

end Array

/-! A decoder of the objects of a table. -/

/-- The texts of some objects; none begins with another. -/
structure ObjectTable where
  rows : List (List Char × Json)
  opens : ∀ row ∈ rows, row.1.head? = some '{'
  apart : rows.Pairwise (fun row other => ¬ row.1 <+: other.1 ∧ ¬ other.1 <+: row.1)

namespace ObjectTable

theorem eq_of_begins (table : ObjectTable) {row other : List Char × Json} (listed : row ∈ table.rows)
    (listedOther : other ∈ table.rows) (begins : row.1 <+: other.1) : row = other := by
  have symmetric : Std.Symm (fun row other : List Char × Json => ¬ row.1 <+: other.1 ∧ ¬ other.1 <+: row.1) :=
    ⟨fun _ _ unlike => unlike.symm⟩
  by_contra different
  exact (table.apart.forall listed listedOther different).1 begins

def find (table : ObjectTable) (text : List Char) : Option (List Char × Json) :=
  table.rows.find? (fun row => row.1.isPrefixOf text)

def decode (table : ObjectTable) (buffer : List Char) (position : Nat) : Decoded Json :=
  match table.find (buffer.drop position) with
  | some row => .object row.2 (position + row.1.length)
  | none => .decodeError "Expecting value"

theorem of_find {table : ObjectTable} {text : List Char} {row : List Char × Json}
    (found : table.find text = some row) : row ∈ table.rows ∧ row.1 <+: text :=
  ⟨List.mem_of_find?_eq_some found,by simpa using List.find?_some found⟩

theorem find_row (table : ObjectTable) {row : List Char × Json} (listed : row ∈ table.rows) (rest : List Char) :
    table.find (row.1 ++ rest) = some row := by
  cases found : table.find (row.1 ++ rest) with
  | none =>
    have absent := List.find?_eq_none.mp found row listed
    rw [List.isPrefixOf_iff_prefix] at absent
    exact absurd (List.prefix_append row.1 rest) absent
  | some other =>
    obtain ⟨listedOther,begins⟩ := of_find found
    rcases List.prefix_or_prefix_of_prefix begins (List.prefix_append row.1 rest) with shorter | longer
    · rw [table.eq_of_begins listedOther listed shorter]
    · rw [table.eq_of_begins listed listedOther longer]

def decoder (table : ObjectTable) : Decoder Json where
  rawDecode := table.decode
  ObjectText := fun text host => (text,host) ∈ table.rows
  opens := fun listed => table.opens _ listed
  complete := by
    intro buffer object rest position host listed found
    rw [decode,found,table.find_row listed]
  truncated := by
    intro buffer more position host listed cut
    refine ⟨"Expecting value",?_⟩
    cases found : table.find (buffer.drop position) with
    | none => rw [decode,found]
    | some row =>
      obtain ⟨listedRow,begins⟩ := of_find found
      have same := table.eq_of_begins listedRow listed (begins.trans (List.prefix_append _ more))
      rw [same] at begins
      have short := begins.length_le
      rw [List.length_append] at short
      exact absurd (List.length_eq_zero_iff.mp (by omega)) cut
  sound := by
    intro buffer position stop host decoded
    rw [decode] at decoded
    cases found : table.find (buffer.drop position) with
    | none => rw [found] at decoded; cases decoded
    | some row =>
      rw [found] at decoded
      cases decoded
      obtain ⟨listedRow,rest,split⟩ := of_find found
      exact ⟨row.1,rest,split.symm,listedRow,rfl⟩

end ObjectTable

private def profiled (arch : String) : Json := .obj [("system_profile",.obj [("arch",.str arch)])]

private def profiledText (arch : String) : List Char :=
  "\x7b\"system_profile\":\x7b\"arch\":\"".toList ++ arch.toList ++ "\"\x7d\x7d".toList

private def dumpsNewHost : Json → List Char
  | .obj [(_,.str hostId),(_,.str displayName),(_,.obj [(_,.str arch)])] =>
    "\x7b\"id\":\"".toList ++ hostId.toList ++ "\",\"display_name\":\"".toList ++ displayName.toList ++
      "\",\"system_profile\":\x7b\"arch\":\"".toList ++ arch.toList ++ "\"\x7d\x7d".toList
  | _ => []

private def threeIds (number : Nat) : String := ["4f-1","4f-2","4f-3"].getD number ""

private def twoUsable : List Json := [profiled "x86_64",.obj [],profiled "s390x"]

private def threeHosts : List Json := generatedHosts threeIds (withProfiles twoUsable) 3

private def sixObjects : ObjectTable where
  rows := [(profiledText "x86_64",profiled "x86_64"),("\x7b\x7d".toList,.obj []),
    (profiledText "s390x",profiled "s390x")] ++ threeHosts.map (fun host => (dumpsNewHost host,host))
  opens := by decide
  apart := by decide

end Roadmap.HostFile
