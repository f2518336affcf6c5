import Mathlib.Data.Rat.Defs
import Mathlib.Data.List.Basic

/-! `Config.__init__` of `rallyci/config.py`: each one-key entry goes into its section's dict
under a truthy `name`, or onto the section's list. -/
namespace RallyCI

/-- A YAML node as `yaml.safe_load` builds it: `None`, a `bool`, an `int`, a `float` (finite, with
the exact value of the double, infinite, or a NaN with its object identity: every `.nan` is
PyYAML's one `nan_value`, while `!!float nan` makes a new one), a `str`, a list, or a dict with
its pairs in document order. -/
inductive YValue where
  | null
  | bool (b : Bool)
  | int (i : ℤ)
  | float (x : ℚ)
  | inf (neg : Bool)
  | nan (id : ℕ)
  | str (s : String)
  | seq (xs : List YValue)
  | map (kvs : List (YValue × YValue))
  deriving Repr

/-- What `==` and `hash` see of a scalar: `None`, a number (a `bool`, an `int` and a `float`
compare as numbers, so `True == 1 == 1.0`), an infinity, a NaN object, or a string. -/
inductive Scalar where
  | none
  | num (q : ℚ)
  | inf (neg : Bool)
  | nan (id : ℕ)
  | str (s : String)
  deriving DecidableEq, Repr

namespace YValue

/-- `type(v).__name__`. -/
def typeName : YValue → String
  | null => "NoneType"
  | bool _ => "bool"
  | int _ => "int"
  | float _ | inf _ | nan _ => "float"
  | str _ => "str"
  | seq _ => "list"
  | map _ => "dict"

/-- The scalar of a hashable value; lists and dicts have none. -/
def scalar? : YValue → Option Scalar
  | null => some .none
  | bool b => some (.num (if b then 1 else 0))
  | int i => some (.num i)
  | float x => some (.num x)
  | inf n => some (.inf n)
  | nan i => some (.nan i)
  | str s => some (.str s)
  | seq _ | map _ => none

/-- Whether `hash(v)` succeeds. -/
def hashable (v : YValue) : Bool := v.scalar?.isSome

/-- Python's truth value. -/
def truthy : YValue → Bool
  | null => false
  | bool b => b
  | int i => i ≠ 0
  | float x => x ≠ 0
  | inf _ | nan _ => true
  | str s => s ≠ ""
  | seq xs => !xs.isEmpty
  | map kvs => !kvs.isEmpty

/-- Whether `a` and `b` are one NaN object: the identity test that comes before `==` where a
container compares its elements or looks up a key. -/
def sameNan : YValue → YValue → Bool
  | nan i, nan j => decide (i = j)
  | _, _ => false

mutual

/-- `a == b`: lists element by element, dicts by their keys and the values under them, each
pair of elements the same object or `==`; scalars by what they stand for, a NaN equal to
nothing. -/
def pyEq : YValue → YValue → Bool
  | seq xs, seq ys => seqEq xs ys
  | map a, map b => a.length == b.length && mapSub a b
  | a, b =>
    match a.scalar?, b.scalar? with
    | some (.nan _), _ => false
    | some x, some y => decide (x = y)
    | _, _ => false

/-- List equality. -/
def seqEq : List YValue → List YValue → Bool
  | [], [] => true
  | x :: xs, y :: ys => (sameNan x y || pyEq x y) && seqEq xs ys
  | _, _ => false

/-- Every pair of a dict has its key in `b`, with an equal value there. -/
def mapSub : List (YValue × YValue) → List (YValue × YValue) → Bool
  | [], _ => true
  | (k, v) :: a, b =>
    b.any (fun kv => (sameNan k kv.1 || pyEq k kv.1) && (sameNan v kv.2 || pyEq v kv.2)) &&
      mapSub a b

end

/-- `PyObject_RichCompareBool(a, b, Py_EQ)`: the same object, or `a == b`. Dict lookups and
the `in` test compare so. -/
def richEq (a b : YValue) : Bool := sameNan a b || pyEq a b

/-- `d.get(key)` on the pairs of a dict. -/
def lookup (kvs : List (YValue × YValue)) (key : YValue) : Option YValue :=
  (kvs.find? fun kv => richEq kv.1 key).map (·.2)

/-- The integer a `list` index stands for: `bool` and `int` are `int`s. -/
def index? : YValue → Option ℤ
  | bool b => some (if b then 1 else 0)
  | int i => some i
  | _ => none

end YValue

/-- An exception `Config.__init__` raises: its type and message, a `%s` message kept as the
format and the value it formats. -/
inductive ConfigError where
  | valueError (msg : String) (arg : Option YValue)
  | indexError (msg : String)
  | typeError (msg : String)
  | attributeError (msg : String)
  deriving Repr

namespace ConfigError

/-- The `TypeError` of hashing a list or a dict. -/
def unhashable (v : YValue) : ConfigError := .typeError ("unhashable type: '" ++ v.typeName ++ "'")

/-- The `AttributeError` of a missing method. -/
def noAttr (typeName attr : String) : ConfigError :=
  .attributeError ("'" ++ typeName ++ "' object has no attribute '" ++ attr ++ "'")

end ConfigError

/-- A section of `self.data`: a dict from names to values, or a list of values. -/
inductive Section where
  | named (entries : List (YValue × YValue))
  | unnamed (values : List YValue)
  deriving Repr

/-- `self.data`: the sections under their keys, in the order the keys were added. -/
abbrev Data := List (YValue × Section)

namespace Config

open YValue ConfigError

/-- `self.data[key]`, when `key` is there. -/
def sectionAt (data : Data) (key : YValue) : Option Section :=
  (data.find? fun s => richEq s.1 key).map (·.2)

/-- `self.data[key] = sec`: the section under an equal key is replaced, the key kept; a new key
goes last. -/
def setSection : Data → YValue → Section → Data
  | [], key, sec => [(key, sec)]
  | (k, s) :: rest, key, sec =>
    if richEq k key then (k, sec) :: rest else (k, s) :: setSection rest key sec

/-- `xs[i] = v`: a negative index counts from the end; `none` is the `IndexError`. -/
def listSet (xs : List YValue) (i : ℤ) (v : YValue) : Option (List YValue) :=
  let j := if i < 0 then i + xs.length else i
  if 0 ≤ j ∧ j < xs.length then some (xs.set j.toNat v) else none

/-- An entry with a truthy `name`: `setdefault(key, {})`, the `Duplicate name` check and
`self.data[key][name] = value`, on whichever container the section holds. -/
def named (data : Data) (key name value : YValue) : Except ConfigError Data :=
  if !key.hashable then .error (unhashable key)
  else
    match (sectionAt data key).getD (.named []) with
    | .named ents =>
      if !name.hashable then .error (unhashable name)
      else if ents.any (fun e => richEq e.1 name) then
        .error (.valueError "Duplicate name %s" name)
      else .ok (setSection data key (.named (ents ++ [(name, value)])))
    | .unnamed vals =>
      if vals.any (fun v => richEq v name) then .error (.valueError "Duplicate name %s" name)
      else
        match name.index? with
        | none =>
          .error (.typeError ("list indices must be integers or slices, not " ++ name.typeName))
        | some i =>
          match listSet vals i value with
          | some vals' => .ok (setSection data key (.unnamed vals'))
          | none => .error (.indexError "list assignment index out of range")

/-- Any other entry: `setdefault(key, [])` and `append(value)`. -/
def unnamed (data : Data) (key value : YValue) : Except ConfigError Data :=
  if !key.hashable then .error (unhashable key)
  else
    match (sectionAt data key).getD (.unnamed []) with
    | .unnamed vals => .ok (setSection data key (.unnamed (vals ++ [value])))
    | .named _ => .error (noAttr "dict" "append")

/-- The levels `configure_logging` knows. -/
def logLevels : List String := ["debug", "error", "info"]

/-- `configure_logging`'s loop over the section's keys. -/
def checkLevels : List (YValue × YValue) → Except ConfigError Unit
  | [] => .ok ()
  | (k, _) :: rest =>
    if !k.hashable then .error (unhashable k)
    else if logLevels.any (fun l => pyEq (.str l) k) then checkLevels rest
    else .error (.valueError "Unknown logging level" none)

/-- `configure_logging(section)`, `dictConfig` being what `logging.config.dictConfig(LOGGING)`
does once the section's handlers are set. -/
def configureLogging (dictConfig : YValue → Except ConfigError Unit) (sec : YValue)
    (kvs : List (YValue × YValue)) : Except ConfigError Unit :=
  match checkLevels kvs with
  | .error e => .error e
  | .ok () => dictConfig sec

/-- The name of an entry's value: `value.get("name")`. -/
def nameOf (kvs : List (YValue × YValue)) : YValue := (YValue.lookup kvs (.str "name")).getD .null

/-- One pass of `__init__`'s loop, on `item`. -/
def entry (dictConfig : YValue → Except ConfigError Unit) (data : Data) (item : YValue) :
    Except ConfigError Data :=
  match item with
  | .map kvs =>
    if kvs.length > 1 then .error (.valueError "Invalid config entry %s" item)
    else
      match kvs with
      | [] => .error (.indexError "list index out of range")
      | (key, value) :: _ =>
        match value with
        | .map vkvs =>
          let name := nameOf vkvs
          let logged : Except ConfigError Unit :=
            if pyEq key (.str "logging") then configureLogging dictConfig value vkvs else .ok ()
          match logged with
          | .error e => .error e
          | .ok () => if name.truthy then named data key name value else unnamed data key value
        | v => .error (noAttr v.typeName "get")
  | v => .error (noAttr v.typeName "keys")

/-- `__init__`'s loop over the entries from `data` on. -/
def load (dictConfig : YValue → Except ConfigError Unit) : Data → List YValue →
    Except ConfigError Data
  | data, [] => .ok data
  | data, item :: items =>
    match entry dictConfig data item with
    | .error e => .error e
    | .ok data' => load dictConfig data' items

/-- `Config(root, filename)` on a document that loads as the list `raw`: `self.data`. -/
def init (dictConfig : YValue → Except ConfigError Unit) (raw : List YValue) :
    Except ConfigError Data :=
  load dictConfig [] raw

/-- Outside tame documents: an empty entry raises `IndexError`; a named entry and then
an unnamed one in the same section raise `AttributeError` on `dict.append`, and the other way
round `TypeError` on `list[str]`; an unnamed section later given the name `1` loses its second
value; a `logging` entry with a level other than debug, error and info raises the `ValueError`
"Unknown logging level". -/
theorem config_init_other_errors :
    init (fun _ => .ok ()) [.map []] = .error (.indexError "list index out of range") ∧
    init (fun _ => .ok ())
        [.map [(.str "vms", .map [(.str "name", .str "a")])], .map [(.str "vms", .map [])]] =
      .error (noAttr "dict" "append") ∧
    init (fun _ => .ok ())
        [.map [(.str "vms", .map [])], .map [(.str "vms", .map [(.str "name", .str "a")])]] =
      .error (.typeError "list indices must be integers or slices, not str") ∧
    init (fun _ => .ok ())
        [.map [(.str "vms", .map [(.str "image", .str "a")])],
          .map [(.str "vms", .map [(.str "image", .str "b")])],
          .map [(.str "vms", .map [(.str "name", .int 1)])]] =
      .ok [(.str "vms", .unnamed [.map [(.str "image", .str "a")], .map [(.str "name", .int 1)]])] ∧
    init (fun _ => .ok ()) [.map [(.str "logging", .map [(.str "warning", .str "w.log")])]] =
      .error (.valueError "Unknown logging level" none) :=
  ⟨rfl, rfl, rfl, rfl, rfl⟩

/-! ### The sections a document's entries make -/

/-- The section key and value of an entry with one key. -/
def single? : YValue → Option (YValue × YValue)
  | .map [kv] => some kv
  | _ => none

/-- The document's one-key entries, in order. -/
def singles (raw : List YValue) : List (YValue × YValue) := raw.filterMap single?

/-- A mapping whose values are mappings. -/
def shaped : YValue → Bool
  | .map kvs => kvs.all fun kv => match kv.2 with | .map _ => true | _ => false
  | _ => false

/-- An entry with more than one key. -/
def multi : YValue → Bool
  | .map kvs => kvs.length > 1
  | _ => false

/-- The empty entry `{}`. -/
def emptyEntry : YValue → Bool
  | .map [] => true
  | _ => false

/-- The pairs of a mapping. -/
def pairs : YValue → List (YValue × YValue)
  | .map kvs => kvs
  | _ => []

/-- The name an entry's value carries. -/
def entryName (v : YValue) : YValue := nameOf (pairs v)

@[simp] theorem entryName_map (kvs : List (YValue × YValue)) : entryName (.map kvs) = nameOf kvs :=
  rfl

/-- The second of two entries repeats the first one's truthy name in the same section: the
same object or an equal one, as the `in` test finds it. -/
def dup (e e' : YValue × YValue) : Bool :=
  richEq e.1 e'.1 && (entryName e.2).truthy && richEq (entryName e.2) (entryName e'.2)

/-- No entry repeats the truthy name of an earlier entry of its section. -/
def Distinct (S : List (YValue × YValue)) : Prop := S.Pairwise fun e e' => dup e e' = false

/-- The section the entries `es` make: the dict from their names to their values, or the list
of their values. -/
def sectionOf (es : List (YValue × YValue)) (isNamed : Bool) : Section :=
  if isNamed then .named (es.map fun e => (entryName e.2, e.2)) else .unnamed (es.map (·.2))

/-- The section the one-key entries `S` make under `k`: nothing when no entry has
the key; otherwise the dict of the entries' names to their values or the list of their values,
in document order, as the first of them is named or not. -/
def expected (S : List (YValue × YValue)) (k : YValue) : Option Section :=
  match S.filter (fun e => richEq e.1 k) with
  | [] => none
  | e :: es => some (sectionOf (e :: es) (entryName e.2).truthy)

/-- The keys of a `logging` entry are levels `configure_logging` knows. -/
def levelsKnown (kvs : List (YValue × YValue)) : Bool :=
  kvs.all fun kv => logLevels.any fun l => pyEq (.str l) kv.1

/-- One-key entries `S` that `__init__` stores or rejects with `ValueError` alone: hashable
section keys and truthy names, no section with both named and unnamed entries, and only known
levels in a `logging` entry. -/
structure Tame (S : List (YValue × YValue)) : Prop where
  key_hashable : ∀ e ∈ S, e.1.hashable
  name_hashable : ∀ e ∈ S, (entryName e.2).truthy → (entryName e.2).hashable
  unmixed : ∀ e ∈ S, ∀ e' ∈ S, richEq e.1 e'.1 → (entryName e.2).truthy = (entryName e'.2).truthy
  levels : ∀ e ∈ S, pyEq e.1 (.str "logging") → levelsKnown (pairs e.2)

/-- `self.data` holds under every hashable key the section the entries `S` make. -/
def Inv (S : List (YValue × YValue)) (data : Data) : Prop :=
  ∀ q : YValue, q.hashable → sectionAt data q = expected S q

/-! ### `==` on hashable values -/

/-- With a hashable side, the same-object-or-`==` test compares scalars, a NaN object being
equal to itself alone. -/
theorem richEq_of_hashable {a b : YValue} (h : a.hashable ∨ b.hashable) :
    richEq a b = decide (a.scalar? = b.scalar?) := by
  cases a <;> cases b <;> simp_all [richEq, sameNan, pyEq, scalar?, hashable]

theorem hashable_of_pyEq {a b : YValue} (ha : a.hashable) (h : pyEq a b) : b.hashable := by
  cases a <;> cases b <;> simp_all [pyEq, scalar?, hashable]

theorem richEq_congr {k q : YValue} (hk : k.hashable) (hq : q.hashable) (h : richEq k q)
    (x : YValue) : richEq x q = richEq x k := by
  rw [richEq_of_hashable (.inl hk), decide_eq_true_eq] at h
  rw [richEq_of_hashable (.inr hq), richEq_of_hashable (.inr hk), h]

theorem sectionAt_setSection (data : Data) {key q : YValue} (hk : key.hashable) (hq : q.hashable)
    (sec : Section) :
    sectionAt (setSection data key sec) q = if richEq key q then some sec else sectionAt data q := by
  induction data with
  | nil => simp [setSection, sectionAt]
  | cons s rest ih =>
    obtain ⟨k, s⟩ := s
    simp only [setSection, sectionAt, richEq_of_hashable (.inr hk), richEq_of_hashable (.inr hq),
      richEq_of_hashable (.inl hk), decide_eq_true_eq] at ih ⊢
    by_cases hkk : k.scalar? = key.scalar?
    · by_cases hkq : key.scalar? = q.scalar? <;> simp [List.find?_cons, hkk, hkq]
    · by_cases hkq : k.scalar? = q.scalar?
      · have hne : key.scalar? ≠ q.scalar? := fun h => hkk (hkq.trans h.symm)
        simp [List.find?_cons, hkk, hkq, hne, Ne.symm hne]
      · simp [List.find?_cons, hkk, hkq, ih]

theorem checkLevels_ok {kvs : List (YValue × YValue)} (h : levelsKnown kvs) :
    checkLevels kvs = .ok () := by
  induction kvs with
  | nil => rfl
  | cons kv kvs ih =>
    simp only [levelsKnown, List.all_cons, Bool.and_eq_true, List.any_eq_true] at h
    obtain ⟨⟨l, hlm, hl⟩, hs⟩ := h
    rw [checkLevels, if_neg (by simp [hashable_of_pyEq (show (YValue.str l).hashable from rfl) hl]),
      if_pos (List.any_eq_true.2 ⟨l, hlm, hl⟩)]
    exact ih hs

/-! ### One entry, then the whole loop -/

/-- When the entries with key `k` have names of one truthiness `t`, the expected section is the
one they make, if there are any. -/
theorem expected_eq {S : List (YValue × YValue)} {k : YValue} (t : Bool)
    (h : ∀ e ∈ S.filter (fun x => richEq x.1 k), (entryName e.2).truthy = t) :
    expected S k = if (S.filter fun x => richEq x.1 k).isEmpty then none
      else some (sectionOf (S.filter fun x => richEq x.1 k) t) := by
  unfold expected
  generalize S.filter (fun x => richEq x.1 k) = l at h ⊢
  cases l with
  | nil => rfl
  | cons e es => simp [h e (List.mem_cons_self _ _)]

theorem expected_getD {S : List (YValue × YValue)} {k : YValue} (t : Bool)
    (h : ∀ e ∈ S.filter (fun x => richEq x.1 k), (entryName e.2).truthy = t) :
    (expected S k).getD (sectionOf [] t) = sectionOf (S.filter fun x => richEq x.1 k) t := by
  rw [expected_eq t h]
  split
  · next he => rw [List.isEmpty_iff.1 he]; rfl
  · rfl

theorem expected_snoc {pre : List (YValue × YValue)} {key value q : YValue} (t : Bool)
    (hk : key.hashable) (hq : q.hashable) (ht : (entryName value).truthy = t)
    (hmix : ∀ e' ∈ pre, richEq e'.1 key → (entryName e'.2).truthy = t) :
    expected (pre ++ [(key, value)]) q = if richEq key q
      then some (sectionOf (pre.filter (fun x => richEq x.1 key) ++ [(key, value)]) t)
      else expected pre q := by
  by_cases h : richEq key q
  · have hf : (pre ++ [(key, value)]).filter (fun x => richEq x.1 q) =
        pre.filter (fun x => richEq x.1 key) ++ [(key, value)] := by
      rw [List.filter_append, List.filter_congr fun x _ => richEq_congr hk hq h x.1]
      simp [h]
    have hall : ∀ x ∈ pre.filter (fun x => richEq x.1 key) ++ [(key, value)],
        (entryName x.2).truthy = t := by
      intro x hx
      rcases List.mem_append.1 hx with hx | hx
      · exact hmix x (List.mem_filter.1 hx).1 (List.mem_filter.1 hx).2
      · rw [List.mem_singleton.1 hx, ht]
    rw [if_pos h, expected_eq t (hf ▸ hall), hf]
    simp
  · unfold expected
    rw [if_neg h, List.filter_append]
    simp [h]

/-- What one entry `e` does: it is stored, `self.data` then holding the sections of the entries
so far, and it repeats no earlier name; or it raises `ValueError`
and repeats one. -/
def StepOk (r : Except ConfigError Data) (pre : List (YValue × YValue)) (e : YValue × YValue) :
    Prop :=
  (∃ d, r = .ok d ∧ Inv (pre ++ [e]) d ∧ ∀ e' ∈ pre, dup e' e = false) ∨
    (∃ msg arg, r = .error (.valueError msg arg) ∧ ∃ e' ∈ pre, dup e' e = true)

section Step

variable {pre : List (YValue × YValue)} {data : Data} {key : YValue}
  {vkvs : List (YValue × YValue)}

theorem named_step (hInv : Inv pre data) (hk : key.hashable) (ht : (nameOf vkvs).truthy)
    (hn : (nameOf vkvs).hashable) (hmix : ∀ e ∈ pre, richEq e.1 key → (entryName e.2).truthy = true) :
    StepOk (named data key (nameOf vkvs) (.map vkvs)) pre (key, .map vkvs) := by
  have hsec : (sectionAt data key).getD (.named []) =
      .named ((pre.filter fun x => richEq x.1 key).map fun e => (entryName e.2, e.2)) :=
    hInv key hk ▸ expected_getD true fun e he =>
      hmix e (List.mem_filter.1 he).1 (List.mem_filter.1 he).2
  simp only [named, hk, hn, Bool.not_true, Bool.false_eq_true, if_false]
  rw [hsec]
  by_cases hd : ∃ e' ∈ pre, dup e' (key, .map vkvs) = true
  · refine .inr ⟨_, _, if_pos ?_, hd⟩
    obtain ⟨e', he', hdup⟩ := hd
    simp only [dup, Bool.and_eq_true] at hdup
    exact List.any_eq_true.2 ⟨_, List.mem_map_of_mem _ (List.mem_filter.2 ⟨he', hdup.1.1⟩), hdup.2⟩
  · refine .inl ⟨_, if_neg fun h => hd ?_, fun q hq => ?_, fun e' he' => ?_⟩
    · obtain ⟨x, hx, hxn⟩ := List.any_eq_true.1 h
      obtain ⟨e', he', rfl⟩ := List.mem_map.1 hx
      have ⟨he'', hkey⟩ := List.mem_filter.1 he'
      exact ⟨e', he'', by simpa [dup, hkey, hmix e' he'' hkey] using hxn⟩
    · rw [sectionAt_setSection _ hk hq, expected_snoc true hk hq
        (show (entryName (.map vkvs)).truthy = true from ht) hmix, hInv q hq]
      simp [sectionOf]
    · simpa using fun h => hd ⟨e', he', h⟩

theorem unnamed_step (hInv : Inv pre data) (hk : key.hashable) (ht : (nameOf vkvs).truthy = false)
    (hmix : ∀ e ∈ pre, richEq e.1 key → (entryName e.2).truthy = false) :
    StepOk (unnamed data key (.map vkvs)) pre (key, .map vkvs) := by
  have hsec : (sectionAt data key).getD (.unnamed []) =
      .unnamed ((pre.filter fun x => richEq x.1 key).map (·.2)) :=
    hInv key hk ▸ expected_getD false fun e he =>
      hmix e (List.mem_filter.1 he).1 (List.mem_filter.1 he).2
  simp only [unnamed, hk, Bool.not_true, Bool.false_eq_true, if_false]
  rw [hsec]
  refine .inl ⟨_, rfl, fun q hq => ?_, fun e' he' => ?_⟩
  · rw [sectionAt_setSection _ hk hq, expected_snoc false hk hq
      (show (entryName (.map vkvs)).truthy = false from ht) hmix, hInv q hq]
    simp [sectionOf]
  · cases h : richEq e'.1 key
    · simp [dup, h]
    · simp [dup, h, hmix e' he' h]

variable {dictConfig : YValue → Except ConfigError Unit}

/-- A one-key entry of a tame document does what `StepOk` says. -/
theorem entry_step (hdc : ∀ v, dictConfig v = .ok ()) (hInv : Inv pre data) (hk : key.hashable)
    (hn : (nameOf vkvs).truthy → (nameOf vkvs).hashable)
    (hmix : ∀ e ∈ pre, richEq e.1 key → (entryName e.2).truthy = (nameOf vkvs).truthy)
    (hlog : pyEq key (.str "logging") → levelsKnown vkvs) :
    StepOk (entry dictConfig data (.map [(key, .map vkvs)])) pre (key, .map vkvs) := by
  have hlogged : (if pyEq key (.str "logging") then configureLogging dictConfig (.map vkvs) vkvs
      else .ok ()) = .ok () := by
    split
    · next h => simp [configureLogging, checkLevels_ok (hlog h), hdc]
    · rfl
  simp only [entry, List.length_singleton, gt_iff_lt, Nat.lt_irrefl, if_false, hlogged]
  cases ht : (nameOf vkvs).truthy
  · exact unnamed_step hInv hk ht fun e he h => (hmix e he h).trans ht
  · exact named_step hInv hk ht (hn ht) fun e he h => (hmix e he h).trans ht

/-- The loop over the rest of a tame document, from a `self.data` that holds the sections of
the entries read so far, none repeating a name: either it returns a `self.data` that holds the
sections of all the entries, none of more than one key and none repeating a name; or it raises
`ValueError`, and some entry has more than one key or repeats a name. -/
theorem load_run (hdc : ∀ v, dictConfig v = .ok ()) (items : List YValue)
    (hshape : ∀ i ∈ items, shaped i) (hne : ∀ i ∈ items, emptyEntry i = false) :
    ∀ (pre : List (YValue × YValue)) (data : Data), Inv pre data → Distinct pre →
      Tame (pre ++ singles items) →
      (∃ d, load dictConfig data items = .ok d ∧ Inv (pre ++ singles items) d ∧
          (∀ i ∈ items, multi i = false) ∧ Distinct (pre ++ singles items)) ∨
        (∃ msg arg, load dictConfig data items = .error (.valueError msg arg) ∧
          ((∃ i ∈ items, multi i) ∨ ¬ Distinct (pre ++ singles items))) := by
  induction items with
  | nil => exact fun pre data hInv hD _ => .inl ⟨data, rfl, by simpa [singles], by simp,
      by simpa [singles]⟩
  | cons item items ih =>
    intro pre data hInv hD hT
    have hsh := hshape item (List.mem_cons_self _ _)
    have hem := hne item (List.mem_cons_self _ _)
    have ih := ih (fun i hi => hshape i (.tail _ hi)) (fun i hi => hne i (.tail _ hi))
    cases item with
    | map kvs =>
      match kvs, hsh, hem with
      | [(key, value)], hsh, _ =>
        obtain ⟨vkvs, rfl⟩ : ∃ vkvs, value = .map vkvs := by
          cases value <;> simp [shaped] at hsh ⊢
        have hS : singles (.map [(key, .map vkvs)] :: items) =
          (key, .map vkvs) :: singles items := rfl
        rw [hS] at hT ⊢
        have he : (key, YValue.map vkvs) ∈ pre ++ (key, .map vkvs) :: singles items := by simp
        rcases entry_step hdc hInv (show key.hashable from hT.key_hashable _ he)
            (by simpa using hT.name_hashable _ he)
            (fun e' he' h => by simpa using hT.unmixed e' (List.mem_append_left _ he') _ he h)
            (show pyEq key (.str "logging") → levelsKnown vkvs from hT.levels _ he) with
          ⟨d, hd, hInv', hfresh⟩ | ⟨msg, arg, herr, hdup⟩
        · have hD' : Distinct (pre ++ [(key, .map vkvs)]) :=
            List.pairwise_append.2 ⟨hD, List.pairwise_singleton _ _, fun a ha b hb =>
              (List.mem_singleton.1 hb) ▸ hfresh a ha⟩
          have hrun := ih _ d hInv' hD' (by simpa using hT)
          rw [List.append_assoc, List.singleton_append] at hrun
          simp only [load, hd]
          rcases hrun with ⟨d', h1, h2, h3, h4⟩ | ⟨m, a, h1, h2⟩
          · exact .inl ⟨d', h1, h2, fun i hi => (List.mem_cons.1 hi).elim (· ▸ rfl) (h3 i), h4⟩
          · exact .inr ⟨m, a, h1, h2.imp (fun ⟨i, hi, hm⟩ => ⟨i, .tail _ hi, hm⟩) id⟩
        · refine .inr ⟨msg, arg, by simp [load, herr], .inr fun hD' => ?_⟩
          obtain ⟨e', he', hd⟩ := hdup
          rw [(List.pairwise_append.1 hD').2.2 e' he' _ (List.mem_cons_self _ _)] at hd
          exact Bool.false_ne_true hd
      | kv :: kv' :: rest, _, _ =>
        exact .inr ⟨"Invalid config entry %s", some (.map (kv :: kv' :: rest)), by simp [load, entry],
          .inl ⟨_, List.mem_cons_self _ _, by simp [multi]⟩⟩
    | _ => simp [shaped] at hsh

end Step

/-- `Config.__init__` on a document that is a list of mappings whose values are mappings, with
no empty entry, hashable section keys and truthy names, no section holding both named and
unnamed entries, only known levels under `logging`, and `dictConfig` accepting the logging
setup: it raises an exception exactly when some entry has more than one key or repeats the
truthy name of an earlier entry of its section, and then a `ValueError`; otherwise, under every
hashable key, `data` holds the dict from the section's names to its entries' values or the list
of their values, in document order. -/
theorem config_init_sections (dictConfig : YValue → Except ConfigError Unit)
    (hdc : ∀ v, dictConfig v = .ok ()) (raw : List YValue) (hshape : ∀ i ∈ raw, shaped i)
    (hne : ∀ i ∈ raw, emptyEntry i = false) (hT : Tame (singles raw)) :
    ((∃ err, init dictConfig raw = .error err) ↔ (∃ i ∈ raw, multi i) ∨ ¬ Distinct (singles raw)) ∧
    (∀ err, init dictConfig raw = .error err → ∃ msg arg, err = .valueError msg arg) ∧
    (∀ data, init dictConfig raw = .ok data →
      ∀ k : YValue, k.hashable → sectionAt data k = expected (singles raw) k) := by
  rcases load_run hdc raw hshape hne [] [] (fun _ _ => rfl) List.Pairwise.nil hT with
    ⟨d, hd, hInv, hmulti, hD⟩ | ⟨msg, arg, herr, hcond⟩
  · refine ⟨⟨fun ⟨err, he⟩ => ?_, fun h => ?_⟩, fun err he => ?_, fun data hdata => ?_⟩
    all_goals simp only [init, hd, List.nil_append] at *
    · cases he
    · rcases h with ⟨i, hi, hm⟩ | h
      · simp [hmulti i hi] at hm
      · exact absurd hD h
    · cases he
    · cases hdata; exact hInv
  · simp only [init, herr, List.nil_append] at *
    exact ⟨⟨fun _ => hcond, fun _ => ⟨_, rfl⟩⟩, fun err he => ⟨msg, arg, by cases he; rfl⟩,
      fun data h => by cases h⟩

/-- Two named virtual machines and an unnamed script: no exception, and `data` holds the two
sections. -/
theorem config_init_sections_vms_and_script :
    let raw : List YValue := [.map [(.str "vms", .map [(.str "name", .str "a")])],
      .map [(.str "vms", .map [(.str "name", .str "b")])],
      .map [(.str "script", .map [(.str "interpreter", .str "bash")])]]
    ((∃ err, init (fun _ => .ok ()) raw = .error err) ↔
        (∃ i ∈ raw, multi i) ∨ ¬ Distinct (singles raw)) ∧
      (∀ err, init (fun _ => .ok ()) raw = .error err → ∃ msg arg, err = .valueError msg arg) ∧
      (∀ data, init (fun _ => .ok ()) raw = .ok data →
        ∀ k : YValue, k.hashable → sectionAt data k = expected (singles raw) k) :=
  config_init_sections (fun _ => .ok ()) (fun _ => rfl) _ (by decide) (by decide)
    ⟨by decide, by decide, by decide, by decide⟩

/-- Every `.nan` is PyYAML's one `nan_value`, so a second `.nan` name is in the section already,
though `nan == nan` is false. -/
example : init (fun _ => .ok ()) [.map [(.str "vms", .map [(.str "name", .nan 0)])],
      .map [(.str "vms", .map [(.str "name", .nan 0)])]] =
    .error (.valueError "Duplicate name %s" (some (.nan 0))) := rfl

/-- Two `!!float nan` names are two objects, and both are stored. -/
example : init (fun _ => .ok ()) [.map [(.str "vms", .map [(.str "name", .nan 0)])],
      .map [(.str "vms", .map [(.str "name", .nan 1)])]] =
    .ok [(.str "vms", .named [(.nan 0, .map [(.str "name", .nan 0)]),
      (.nan 1, .map [(.str "name", .nan 1)])])] := rfl

end Config

end RallyCI
