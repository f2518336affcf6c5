import RallyCI.Config

/-! `MetadataServer` of `rallyci/providers/virsh.py`: the cloud-init metadata the VMs read at
boot, with one public key per line of `authorized_keys`. -/
namespace RallyCI

namespace MetadataServer

/-- Text mode's universal newlines: `\r\n` and a lone `\r` read as `\n`. -/
def universalNewlines : List Char → List Char
  | [] => []
  | '\r' :: '\n' :: cs => '\n' :: universalNewlines cs
  | '\r' :: cs => '\n' :: universalNewlines cs
  | c :: cs => c :: universalNewlines cs

/-- `readlines()`: the text cut after each `\n`, which stays with its line. -/
def readLines : List Char → List (List Char)
  | [] => []
  | c :: cs =>
    if c = '\n' then ['\n'] :: readLines cs
    else
      match readLines cs with
      | [] => [[c]]
      | l :: ls => (c :: l) :: ls

/-- The `keys` dict `get_metadata` fills: `keys["key-" + str(i)] = line` for each truthy line,
`i` counting all lines. -/
def publicKeys (lines : List (List Char)) : List (String × String) :=
  (lines.enum.filter fun il => !il.2.isEmpty).map fun il => ("key-" ++ toString il.1, String.mk il.2)

/-- The `keys` dict `get_metadata` builds from the text of `authorized_keys`. -/
def keysOf (authorizedKeys : List Char) : List (String × String) :=
  publicKeys (readLines (universalNewlines authorizedKeys))

/-- The dict `get_metadata` serialises, for the text of `authorized_keys` and the `uuid4` drawn. -/
def getMetadata (uuid : String) (authorizedKeys : List Char) : YValue :=
  .map [(.str "uuid", .str uuid), (.str "availability_zone", .str "nova"),
    (.str "hostname", .str "rally-ci-vm"), (.str "launch_index", .int 0),
    (.str "meta", .map [(.str "priority", .str "low"), (.str "role", .str "rally-ci-test-vm")]),
    (.str "public_keys", .map ((keysOf authorizedKeys).map fun kv => (.str kv.1, .str kv.2))),
    (.str "name", .str "test")]

/-- The versions the handlers serve. -/
def versions : List String := ["2012-08-10", "latest"]

/-- `user_data(request)`: the body for `self.config["user_data"]`, `none` being the `404`. -/
def userData (config : String) (version : String) : Option String :=
  if version ∈ versions then some config else none

/-- `meta_data(request)`: the metadata document, `none` being the `404`. -/
def metaData (uuid : String) (authorizedKeys : List Char) (version : String) : Option YValue :=
  if version ∈ versions then some (getMetadata uuid authorizedKeys) else none

theorem join_readLines (t : List Char) : (readLines t).flatten = t := by
  induction t with
  | nil => rfl
  | cons c cs ih =>
    simp only [readLines]
    split
    · next h => simp [h, ih]
    · split
      · next hl => rw [hl] at ih; simp [← ih]
      · next l ls hl => rw [hl] at ih; simp [← ih]

theorem readLines_ne_nil (t : List Char) : ∀ l ∈ readLines t, l ≠ [] := by
  induction t with
  | nil => simp [readLines]
  | cons c cs ih =>
    simp only [readLines]
    split
    · exact fun l hl => by rcases List.mem_cons.1 hl with rfl | hl; exacts [List.cons_ne_nil _ _, ih l hl]
    · split
      · simp
      · next l' ls hl =>
        rw [hl] at ih
        exact fun l hl' => by
          rcases List.mem_cons.1 hl' with rfl | hl'
          exacts [List.cons_ne_nil _ _, ih l (.tail _ hl')]

/-- `get_metadata` serves every line of `authorized_keys` as it was read: the keys are `key-0`,
`key-1`, ... without a gap, one per line, and their values in that order spell the file (as
text mode reads it) back. -/
theorem public_keys_spell_file (text : List Char) :
    (keysOf text).map (·.1) = (List.range (keysOf text).length).map (fun i => "key-" ++ toString i) ∧
      ((keysOf text).map fun kv => kv.2.data).flatten = universalNewlines text := by
  have hf : ((readLines (universalNewlines text)).enum.filter fun il => !il.2.isEmpty) =
      (readLines (universalNewlines text)).enum :=
    List.filter_eq_self.2 fun il hil => by
      simpa using readLines_ne_nil _ _ (List.snd_mem_of_mem_enum hil)
  simp only [keysOf, publicKeys, hf, List.map_map, Function.comp_def, List.length_map, List.enum_length]
  refine ⟨?_, ?_⟩
  · rw [← List.enum_map_fst, List.map_map]; rfl
  · exact (congrArg List.flatten (List.enum_map_snd _)).trans (join_readLines _)

end MetadataServer

end RallyCI
