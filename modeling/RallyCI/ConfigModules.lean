import RallyCI.Config

/-! `Config._get_module`, `get_instance`, `iter_instances` and `iter_providers` of
`rallyci/config.py`: a module cache in front of `importlib.import_module`, and generators over
the values of a section of `self.data`. -/
namespace RallyCI

namespace Config

open YValue ConfigError

variable {ε μ α : Type}

/-- What these functions raise: an error of Python's own on a configuration value, the
`KeyError` of a missing key, or what importing a module or calling into it raised. -/
inductive ModuleError (ε : Type) where
  | config (e : ConfigError)
  | keyError (key : String)
  | raised (e : ε)
  deriving Repr

/-- `importlib.import_module(name)`, `imp` being what importing the module of a name does at
the time; a name that is no string has no `startswith`. -/
def importModule (imp : String → Except ε μ) : YValue → Except (ModuleError ε) μ
  | .str s => (imp s).mapError .raised
  | v => .error (.config (noAttr v.typeName "startswith"))

/-- `self._modules.get(name)`. -/
def cached (modules : List (YValue × μ)) (name : YValue) : Option μ :=
  (modules.find? fun m => richEq m.1 name).map (·.2)

/-- `_get_module(name)` with the cache `modules`: the cache it leaves and the module. A module
object is truthy, so a cached one is returned as it is. -/
def getModule (imp : String → Except ε μ) (modules : List (YValue × μ)) (name : YValue) :
    List (YValue × μ) × Except (ModuleError ε) μ :=
  if !name.hashable then (modules, .error (.config (unhashable name)))
  else
    match cached modules name with
    | some m => (modules, .ok m)
    | none =>
      match importModule imp name with
      | .ok m => (modules ++ [(name, m)], .ok m)
      | .error e => (modules, .error e)

/-- `_get_module` called on the names of `calls` one after another, each with what importing
does at its time: the cache left and each call's result. -/
def getModules : List (YValue × μ) → List (YValue × (String → Except ε μ)) →
    List (YValue × μ) × List (Except (ModuleError ε) μ)
  | modules, [] => (modules, [])
  | modules, (name, imp) :: calls =>
    let r := getModule imp modules name
    ((getModules r.1 calls).1, r.2 :: (getModules r.1 calls).2)

/-- Importing a name that once gave a module gives that module at every later call. -/
def Stable (calls : List (YValue × (String → Except ε μ))) : Prop :=
  calls.Pairwise fun c c' =>
    ∀ m, importModule c.2 c.1 = .ok m → richEq c.1 c'.1 → importModule c'.2 c'.1 = .ok m

/-- Every cached module is what importing gives at each of the calls `calls` to come. -/
def CacheOk (modules : List (YValue × μ)) (calls : List (YValue × (String → Except ε μ))) :
    Prop :=
  ∀ k m, (k, m) ∈ modules → ∀ c ∈ calls, richEq k c.1 → importModule c.2 c.1 = .ok m

theorem mem_of_cached {modules : List (YValue × μ)} {name : YValue} {m : μ}
    (h : cached modules name = some m) : ∃ k, (k, m) ∈ modules ∧ richEq k name := by
  obtain ⟨⟨k, m'⟩, hf, rfl⟩ := Option.map_eq_some'.1 h
  exact ⟨k, List.mem_of_find?_eq_some hf, by simpa using List.find?_some hf⟩

/-- One call with a hashable name keeps the cache right for the calls after it, and returns
what importing returns. -/
theorem getModule_cacheOk {modules : List (YValue × μ)} {name : YValue}
    {imp : String → Except ε μ} {calls : List (YValue × (String → Except ε μ))}
    (hn : name.hashable) (hc : CacheOk modules ((name, imp) :: calls))
    (hs : ∀ c' ∈ calls, ∀ m, importModule imp name = .ok m → richEq name c'.1 →
      importModule c'.2 c'.1 = .ok m) :
    (getModule imp modules name).2 = importModule imp name ∧
      CacheOk (getModule imp modules name).1 calls := by
  have htail : CacheOk modules calls := fun k m hm c hc' => hc k m hm c (.tail _ hc')
  unfold getModule
  rw [if_neg (by simp [hn])]
  cases hm : cached modules name with
  | some m =>
    obtain ⟨k, hk, hkn⟩ := mem_of_cached hm
    exact ⟨(hc k m hk _ (List.mem_cons_self _ _) hkn).symm, htail⟩
  | none =>
    cases hi : importModule imp name with
    | error e => exact ⟨rfl, htail⟩
    | ok m =>
      refine ⟨rfl, fun k m' hm' c hc' hkc => ?_⟩
      rcases List.mem_append.1 hm' with hm' | hm'
      · exact htail k m' hm' c hc' hkc
      · obtain ⟨rfl, rfl⟩ := Prod.mk.inj (List.mem_singleton.1 hm')
        exact hs c hc' _ hi hkc

/-- When importing a name keeps giving the module it gave first, as `sys.modules` makes it do,
`_get_module` on hashable names returns at every call of any run what
`importlib.import_module` at that call returns: the cache changes no result, it only saves
imports. -/
theorem get_module_agrees_uncached (calls : List (YValue × (String → Except ε μ)))
    (hn : ∀ c ∈ calls, c.1.hashable) (h : Stable calls) :
    (getModules [] calls).2 = calls.map fun c => importModule c.2 c.1 := by
  suffices ∀ modules, CacheOk modules calls →
      (getModules modules calls).2 = calls.map fun c => importModule c.2 c.1 from
    this [] fun _ _ hm => by cases hm
  induction calls with
  | nil => exact fun _ _ => rfl
  | cons c calls ih =>
    obtain ⟨name, imp⟩ := c
    intro modules hc
    obtain ⟨hhead, htail⟩ := List.pairwise_cons.1 h
    obtain ⟨hn1, hn2⟩ := List.forall_mem_cons.1 hn
    have ⟨hr, hc'⟩ := getModule_cacheOk hn1 hc fun c' hc' m hm hn => hhead c' hc' m hm hn
    simp only [getModules, List.map_cons, hr, ih hn2 htail _ hc']

/-- A module imported once and asked for again: the second call reads the cache. -/
theorem get_module_agrees_uncached_twice :
    let calls : List (YValue × (String → Except Unit ℕ)) :=
      [(.str "rallyci.providers.virsh", fun _ => .ok 0),
        (.str "rallyci.providers.virsh", fun _ => .ok 0)]
    (∀ c ∈ calls, c.1.hashable) ∧ Stable calls ∧
      (getModules [] calls).2 = calls.map fun c => importModule c.2 c.1 := by
  intro calls
  have hn : ∀ c ∈ calls, c.1.hashable := by simp [calls, hashable, scalar?]
  have hs : Stable calls := by simp [calls, Stable, importModule, Except.mapError]
  exact ⟨hn, hs, get_module_agrees_uncached _ hn hs⟩

/-! ### Building objects from a section -/

/-- `cfg["module"]`. -/
def moduleName : YValue → Except (ModuleError ε) YValue
  | .map kvs =>
    match YValue.lookup kvs (.str "module") with
    | some v => .ok v
    | none => .error (.keyError "module")
  | .seq _ => .error (.config (.typeError "list indices must be integers or slices, not str"))
  | .str _ => .error (.config (.typeError "string indices must be integers"))
  | v => .error (.config (.typeError ("'" ++ v.typeName ++ "' object is not subscriptable")))

/-- The object built from the value `cfg`: its module through the cache, then what `make` does
with the module and the value (looking up the class in the module and calling it). -/
def instanceOf (imp : String → Except ε μ) (make : μ → YValue → Except ε α)
    (modules : List (YValue × μ)) (cfg : YValue) :
    List (YValue × μ) × Except (ModuleError ε) α :=
  match moduleName cfg with
  | .error e => (modules, .error e)
  | .ok name =>
    match getModule imp modules name with
    | (modules', .error e) => (modules', .error e)
    | (modules', .ok m) => (modules', (make m cfg).mapError .raised)

/-- `get_instance(cfg)`: `self._get_module(cfg["module"]).Class(cfg)`. -/
def getInstance (imp : String → Except ε μ) (cls : μ → YValue → Except ε α)
    (modules : List (YValue × μ)) (cfg : YValue) :
    List (YValue × μ) × Except (ModuleError ε) α :=
  instanceOf imp cls modules cfg

/-- `self.data.get(section, {}).values()`. -/
def sectionValues (data : Data) (sec : YValue) : Except (ModuleError ε) (List YValue) :=
  if !sec.hashable then .error (.config (unhashable sec))
  else
    match sectionAt data sec with
    | none => .ok []
    | some (.named ents) => .ok (ents.map (·.2))
    | some (.unnamed _) => .error (.config (noAttr "list" "values"))

/-- The loop of a generator over the values `cfgs`, run to its end: the cache it leaves, the
objects it yields, and the exception that ends it, if one does. -/
def instancesLoop (imp : String → Except ε μ) (make : μ → YValue → Except ε α) :
    List (YValue × μ) → List YValue → List (YValue × μ) × List α × Option (ModuleError ε)
  | modules, [] => (modules, [], none)
  | modules, cfg :: cfgs =>
    match instanceOf imp make modules cfg with
    | (modules', .error e) => (modules', [], some e)
    | (modules', .ok a) =>
      let r := instancesLoop imp make modules' cfgs
      (r.1, a :: r.2.1, r.2.2)

/-- A generator over the values of the section `sec`, building an object from each with `make`. -/
def iterSection (imp : String → Except ε μ) (make : μ → YValue → Except ε α)
    (modules : List (YValue × μ)) (data : Data) (sec : YValue) :
    List (YValue × μ) × List α × Option (ModuleError ε) :=
  match sectionValues data sec with
  | .error e => (modules, [], some e)
  | .ok cfgs => instancesLoop imp make modules cfgs

/-- `iter_instances(section)`: `cls(**config)` for each value, `cls` the module's `Class`. -/
def iterInstances (imp : String → Except ε μ) (cls : μ → YValue → Except ε α)
    (modules : List (YValue × μ)) (data : Data) (sec : YValue) :
    List (YValue × μ) × List α × Option (ModuleError ε) :=
  iterSection imp cls modules data sec

/-- `iter_providers()`: the module's `Provider(self.root, cfg)` for each value of the section
`provider`. -/
def iterProviders (imp : String → Except ε μ) (provider : μ → YValue → Except ε α)
    (modules : List (YValue × μ)) (data : Data) :
    List (YValue × μ) × List α × Option (ModuleError ε) :=
  iterSection imp provider modules data (.str "provider")

/-! ### Iterating a loaded configuration -/

/-- What a section of a loaded `self.data` can be, from its entries `l` in document order: absent
when there are none, the dict of all their names and values when the first is named (an unnamed
one after it raises on `dict.append`), and some list when it is not. -/
def LoadedSection : List (YValue × YValue) → Option Section → Prop
  | [], s => s = none
  | e :: es, s =>
    if (entryName e.2).truthy then s = some (sectionOf (e :: es) true)
    else ∃ vals, s = some (.unnamed vals)

/-- Under every hashable key, `self.data` is what a load of the one-key entries `S` leaves. -/
def Loaded (S : List (YValue × YValue)) (data : Data) : Prop :=
  ∀ q : YValue, q.hashable → LoadedSection (S.filter fun e => richEq e.1 q) (sectionAt data q)

theorem named_ok {data data' : Data} {key name value : YValue}
    (h : named data key name value = .ok data') : key.hashable ∧
      ((∃ ents, (sectionAt data key).getD (.named []) = .named ents ∧
          data' = setSection data key (.named (ents ++ [(name, value)]))) ∨
        (∃ vals vals', (sectionAt data key).getD (.named []) = .unnamed vals ∧
          data' = setSection data key (.unnamed vals'))) := by
  unfold named at h
  split at h
  · cases h
  next hk =>
  refine ⟨by simpa using hk, ?_⟩
  split at h
  next ents hs =>
    split at h
    · cases h
    split at h
    · cases h
    cases h
    exact .inl ⟨ents, hs, rfl⟩
  next vals hs =>
    split at h
    · cases h
    split at h
    · cases h
    split at h
    · cases h
      exact .inr ⟨vals, _, hs, rfl⟩
    · cases h

theorem unnamed_ok {data data' : Data} {key value : YValue}
    (h : unnamed data key value = .ok data') : key.hashable ∧
      ∃ vals, (sectionAt data key).getD (.unnamed []) = .unnamed vals ∧
        data' = setSection data key (.unnamed (vals ++ [value])) := by
  unfold unnamed at h
  split at h
  · cases h
  next hk =>
  split at h
  next vals hs =>
    cases h
    exact ⟨by simpa using hk, vals, hs, rfl⟩
  next => cases h

/-- An entry `__init__` passes is a one-key mapping whose value is a mapping, stored under its
name when that is truthy and appended otherwise. -/
theorem entry_ok {dictConfig : YValue → Except ConfigError Unit} {data data' : Data}
    {item : YValue} (h : entry dictConfig data item = .ok data') :
    ∃ key vkvs, item = .map [(key, .map vkvs)] ∧
      (if (nameOf vkvs).truthy then named data key (nameOf vkvs) (.map vkvs)
        else unnamed data key (.map vkvs)) = .ok data' := by
  unfold entry at h
  split at h
  next kvs =>
    split at h
    · cases h
    next hlen =>
    rcases kvs with _ | ⟨⟨key, value⟩, _ | ⟨kv, rest⟩⟩
    · cases h
    · cases value
      case map vkvs =>
        refine ⟨key, vkvs, rfl, ?_⟩
        simp only at h
        split at h
        · cases h
        · exact h
      all_goals cases h
    · simp at hlen
  next => cases h

theorem loadedSection_store {l : List (YValue × YValue)} {data data' : Data} {key : YValue}
    {vkvs : List (YValue × YValue)} (hl : LoadedSection l (sectionAt data key))
    (h : (if (nameOf vkvs).truthy then named data key (nameOf vkvs) (.map vkvs)
      else unnamed data key (.map vkvs)) = .ok data') :
    key.hashable ∧ ∃ sec, data' = setSection data key sec ∧
      LoadedSection (l ++ [(key, .map vkvs)]) (some sec) := by
  split at h
  next ht =>
    obtain ⟨hk, ⟨ents, he, rfl⟩ | ⟨vals, vals', he, rfl⟩⟩ := named_ok h
    · refine ⟨hk, _, rfl, ?_⟩
      cases l with
      | nil =>
        rw [show sectionAt data key = none from hl] at he
        cases he
        simp [LoadedSection, ht, sectionOf]
      | cons e es =>
        by_cases hte : (entryName e.2).truthy
        · rw [LoadedSection, if_pos hte] at hl
          simp only [hl, sectionOf, if_true, Option.getD_some, Section.named.injEq] at he
          subst he
          rw [List.cons_append, LoadedSection, if_pos hte]
          simp [sectionOf]
        · rw [LoadedSection, if_neg hte] at hl
          obtain ⟨vals0, hv⟩ := hl
          simp [hv] at he
    · refine ⟨hk, _, rfl, ?_⟩
      cases l with
      | nil =>
        rw [show sectionAt data key = none from hl] at he
        cases he
      | cons e es =>
        by_cases hte : (entryName e.2).truthy
        · rw [LoadedSection, if_pos hte] at hl
          simp [hl, sectionOf] at he
        · rw [List.cons_append, LoadedSection, if_neg hte]
          exact ⟨_, rfl⟩
  next ht =>
    obtain ⟨hk, vals, he, rfl⟩ := unnamed_ok h
    refine ⟨hk, _, rfl, ?_⟩
    cases l with
    | nil => simp [LoadedSection, ht]
    | cons e es =>
      by_cases hte : (entryName e.2).truthy
      · rw [LoadedSection, if_pos hte] at hl
        simp [hl, sectionOf] at he
      · rw [List.cons_append, LoadedSection, if_neg hte]
        exact ⟨_, rfl⟩

theorem loaded_entry {dictConfig : YValue → Except ConfigError Unit} {S : List (YValue × YValue)}
    {data data' : Data} {item : YValue} (hL : Loaded S data)
    (h : entry dictConfig data item = .ok data') : Loaded (S ++ singles [item]) data' := by
  obtain ⟨key, vkvs, rfl, hs⟩ := entry_ok h
  intro q hq
  have hk : key.hashable := by
    split at hs
    exacts [(named_ok hs).1, (unnamed_ok hs).1]
  obtain ⟨sec, rfl, hsec⟩ := (loadedSection_store (hL key hk) hs).2
  rw [sectionAt_setSection _ hk hq]
  by_cases hkq : richEq key q
  · have hf : (S ++ singles [.map [(key, .map vkvs)]]).filter (fun e => richEq e.1 q) =
        S.filter (fun e => richEq e.1 key) ++ [(key, .map vkvs)] := by
      rw [List.filter_append, List.filter_congr fun x _ => richEq_congr hk hq hkq x.1]
      simp [singles, single?, hkq]
    rw [hf, if_pos hkq]
    exact hsec
  · rw [if_neg hkq, List.filter_append]
    simpa [singles, single?, hkq] using hL q hq

/-- Every load that returns leaves `self.data` what a load of the document's entries leaves. -/
theorem loaded_load {dictConfig : YValue → Except ConfigError Unit} :
    ∀ (items : List YValue) (S : List (YValue × YValue)) (data d : Data), Loaded S data →
      load dictConfig data items = .ok d → Loaded (S ++ singles items) d
  | [], S, data, d, hL, h => by
    cases h
    simpa [singles] using hL
  | item :: items, S, data, d, hL, h => by
    simp only [load] at h
    split at h
    · cases h
    next data' he =>
      have := loaded_load items _ data' d (loaded_entry hL he) h
      rwa [List.append_assoc, singles, singles, ← List.filterMap_append, List.singleton_append,
        ← singles] at this

/-- The document's one-key entries under the section key `k`, in document order. -/
def entriesOf (raw : List YValue) (k : YValue) : List (YValue × YValue) :=
  (singles raw).filter fun e => richEq e.1 k

/-- On every document that `Config.__init__` loads, iterating a section, what
`iter_instances(section)` and `iter_providers()` do, walks the document's entries with that key
in document order when the first of them is named, yields nothing when there are none, and
raises `AttributeError` before building anything when the first is unnamed: a section whose
first entry has no `name` can never be instantiated. -/
theorem iter_section_walks_entries (dictConfig : YValue → Except ConfigError Unit)
    (raw : List YValue) {data : Data} (hinit : init dictConfig raw = .ok data)
    (imp : String → Except ε μ) (make : μ → YValue → Except ε α) (modules : List (YValue × μ))
    {k : YValue} (hk : k.hashable) :
    iterSection imp make modules data k =
      match entriesOf raw k with
      | [] => (modules, [], none)
      | e :: es =>
        if (entryName e.2).truthy then instancesLoop imp make modules ((e :: es).map (·.2))
        else (modules, [], some (.config (noAttr "list" "values"))) := by
  have hsec := loaded_load raw [] [] data (fun _ _ => rfl) hinit k hk
  rw [List.nil_append] at hsec
  simp only [iterSection, sectionValues, hk, Bool.not_true, Bool.false_eq_true, if_false,
    entriesOf]
  revert hsec
  cases (singles raw).filter fun e => richEq e.1 k with
  | nil => intro hsec; simp [show sectionAt data k = none from hsec, instancesLoop]
  | cons e es =>
    intro hsec
    by_cases hte : (entryName e.2).truthy
    · rw [LoadedSection, if_pos hte] at hsec
      simp [hsec, hte, sectionOf, Function.comp_def]
    · rw [LoadedSection, if_neg hte] at hsec
      obtain ⟨vals, hv⟩ := hsec
      simp [hv, hte]

/-- One named `provider` entry: `iter_providers` imports its module and builds its provider. -/
theorem iter_providers_named_entry :
    let raw : List YValue := [.map [(.str "provider", .map [(.str "name", .str "virsh"),
      (.str "module", .str "rallyci.providers.virsh")])]]
    iterProviders (fun _ => (.ok 7 : Except Unit ℕ)) (fun m _ => .ok (m + 1)) []
        [(.str "provider", .named [(.str "virsh", .map [(.str "name", .str "virsh"),
          (.str "module", .str "rallyci.providers.virsh")])])] =
      match entriesOf raw (.str "provider") with
      | [] => ([], [], none)
      | e :: es =>
        if (entryName e.2).truthy then
          instancesLoop (fun _ => (.ok 7 : Except Unit ℕ)) (fun m _ => .ok (m + 1)) []
            ((e :: es).map (·.2))
        else ([], [], some (.config (noAttr "list" "values"))) := by
  intro raw
  exact iter_section_walks_entries (fun _ => .ok ()) raw rfl _ _ _ (by decide)

end Config

end RallyCI
