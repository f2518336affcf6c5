import RallyCI.Config

/-! The module-wide `LOGGING` dict of `rallyci/config.py` and what `configure_logging` does to
it, one call after another for the life of the process. -/
namespace RallyCI

namespace YValue

/-- `d[key] = value` on a dict's pairs: the value under an equal key is replaced where it
stands, a new key goes last. -/
def setItem : List (YValue × YValue) → YValue → YValue → List (YValue × YValue)
  | [], key, value => [(key, value)]
  | (k, v) :: rest, key, value =>
    if pyEq k key then (k, value) :: rest else (k, v) :: setItem rest key value

/-- `d.update(pairs)`. -/
def update (d pairs : List (YValue × YValue)) : List (YValue × YValue) :=
  pairs.foldl (fun d kv => setItem d kv.1 kv.2) d

/-- The dict `v` with `v[key]` changed in place by `f`; `none` when `v[key]` raises (no such
key, or `v` no dict) or `f` does. -/
def modifyAt (key : YValue) (f : YValue → Option YValue) : YValue → Option YValue
  | map kvs => (go kvs).map map
  | _ => none
where
  go : List (YValue × YValue) → Option (List (YValue × YValue))
    | [] => none
    | (k, v) :: rest =>
      if pyEq k key then (f v).map fun v' => (k, v') :: rest else (go rest).map ((k, v) :: ·)

/-- `v.update(pairs)` on the dict `v`. -/
def updateDict (pairs : List (YValue × YValue)) : YValue → Option YValue
  | map kvs => some (map (update kvs pairs))
  | _ => none

end YValue

namespace Config

open YValue ConfigError

/-- `LOGGING` with the file handlers `debug`, `info` and `error` writing to `files "debug"`,
`files "info"` and `files "error"`. -/
def loggingWith (files : String → YValue) : YValue :=
  .map [(.str "version", .int 1),
    (.str "disable_existing_loggers", .bool false),
    (.str "formatters", .map [(.str "standard", .map [
      (.str "format",
        .str "%(asctime)s %(name)s:%(levelname)s: %(message)s (%(filename)s:%(lineno)d)"),
      (.str "datefmt", .str "%Y-%m-%d %H:%M:%S")])]),
    (.str "handlers", .map [
      (.str "console", .map [(.str "class", .str "logging.StreamHandler"),
        (.str "level", .str "INFO"), (.str "formatter", .str "standard"),
        (.str "stream", .str "ext://sys.stdout")]),
      (.str "debug", .map [(.str "level", .str "DEBUG"), (.str "formatter", .str "standard"),
        (.str "class", .str "logging.handlers.RotatingFileHandler"),
        (.str "filename", files "debug")]),
      (.str "info", .map [(.str "level", .str "INFO"), (.str "formatter", .str "standard"),
        (.str "class", .str "logging.handlers.RotatingFileHandler"),
        (.str "filename", files "info")]),
      (.str "error", .map [(.str "level", .str "ERROR"), (.str "formatter", .str "standard"),
        (.str "class", .str "logging.handlers.RotatingFileHandler"),
        (.str "filename", files "error")])]),
    (.str "loggers", .map [(.str "", .map [
      (.str "handlers", .seq [.str "info", .str "debug", .str "error"]),
      (.str "level", .str "DEBUG")])])]

/-- The file names the module gives the handlers: `debug.log`, `info.log`, `error.log`. -/
def defaultFiles (level : String) : YValue := .str (level ++ ".log")

/-- `LOGGING` as the module defines it. -/
def LOGGING : YValue := loggingWith defaultFiles

/-- `str.upper()` on the ASCII keys `configure_logging` passes it. -/
def pyUpper (s : String) : String := ⟨s.data.map Char.toUpper⟩

/-- `_get_handler(key, value)`. -/
def getHandler (key : String) (value : YValue) : List (YValue × YValue) :=
  [(.str "level", .str (pyUpper key)), (.str "filename", value)]

/-- `LOGGING["handlers"][key].update(_get_handler(key, value))`. -/
def setHandler (logging : YValue) (key : String) (value : YValue) : Option YValue :=
  modifyAt (.str "handlers") (modifyAt (.str key) (updateDict (getHandler key value))) logging

/-- The level a section key names when it is a key of `default_log`. -/
def levelOf? : YValue → Option String
  | .str s => if s ∈ logLevels then some s else none
  | _ => none

/-- `configure_logging`'s loop over the keys of the section `sec`, from `logging` on: `LOGGING`
as the loop leaves it and whether it raised; `none` when an access to `LOGGING` raises. -/
def setHandlers (sec : List (YValue × YValue)) :
    YValue → List (YValue × YValue) → Option (YValue × Except ConfigError Unit)
  | logging, [] => some (logging, .ok ())
  | logging, (k, v) :: rest =>
    if !k.hashable then some (logging, .error (unhashable k))
    else
      match levelOf? k with
      | none => some (logging, .error (.valueError "Unknown logging level" none))
      | some l =>
        (setHandler logging l ((YValue.lookup sec k).getD v)).bind (setHandlers sec · rest)

/-- `configure_logging(section)` on the process's `LOGGING`: the dict it leaves, and what the
call returns or raises, `dictConfig` being what `logging.config.dictConfig` does with a dict. -/
def configureLoggingAt (dictConfig : YValue → Except ConfigError Unit) (logging : YValue)
    (kvs : List (YValue × YValue)) : Option (YValue × Except ConfigError Unit) :=
  (setHandlers kvs logging kvs).map fun r =>
    (r.1, match r.2 with
      | .error e => .error e
      | .ok () => dictConfig r.1)

/-- `configure_logging` called on the sections `secs` one after another in one process,
whether each call returns or raises: the `LOGGING` the last call leaves. -/
def loggingRun (dictConfig : YValue → Except ConfigError Unit) :
    YValue → List (List (YValue × YValue)) → Option YValue
  | logging, [] => some logging
  | logging, kvs :: secs =>
    (configureLoggingAt dictConfig logging kvs).bind fun r => loggingRun dictConfig r.1 secs

/-! ### The abstract state: three file names -/

/-- The levels a call on the section `kvs` updates: its keys before the first one that is no
level. -/
def reached : List (YValue × YValue) → List String
  | [] => []
  | (k, _) :: rest =>
    match levelOf? k with
    | some l => l :: reached rest
    | none => []

/-- The handlers' file names after a call on `kvs`: each level the call reached gets
`section[level]`, the others keep theirs. -/
def afterCall (files : String → YValue) (kvs : List (YValue × YValue)) (level : String) :
    YValue :=
  if level ∈ reached kvs then (YValue.lookup kvs (.str level)).getD (files level)
  else files level

/-- `files` with `level`'s file set to `file`. -/
def setFile (files : String → YValue) (level : String) (file : YValue) (l : String) : YValue :=
  if l = level then file else files l

theorem setHandler_loggingWith (files : String → YValue) {l : String} (hl : l ∈ logLevels)
    (file : YValue) :
    setHandler (loggingWith files) l file = some (loggingWith (setFile files l file)) := by
  simp only [logLevels, List.mem_cons, List.mem_singleton, List.not_mem_nil, or_false] at hl
  rcases hl with rfl | rfl | rfl <;> rfl

theorem any_pyEq_level {k : YValue} (hk : k.hashable) :
    logLevels.any (fun l => pyEq (.str l) k) = (levelOf? k).isSome := by
  cases k with
  | str s =>
    rw [Bool.eq_iff_iff, List.any_eq_true]
    by_cases h : s ∈ logLevels <;> simp [levelOf?, pyEq, scalar?, h]
  | seq | map => cases hk
  | _ => simp [levelOf?, pyEq, scalar?]

theorem levelOf?_eq_some {k : YValue} {l : String} (h : levelOf? k = some l) :
    k = .str l ∧ l ∈ logLevels := by
  cases k <;> simp only [levelOf?, reduceCtorEq] at h
  split at h <;> cases h
  exact ⟨rfl, ‹_›⟩

theorem lookup_isSome {kvs : List (YValue × YValue)} {kv : YValue × YValue} (h : kv ∈ kvs)
    {key : YValue} (hk : richEq kv.1 key) : ∃ w, YValue.lookup kvs key = some w := by
  have hs : (kvs.find? fun x => richEq x.1 key).isSome := List.find?_isSome.2 ⟨kv, h, hk⟩
  obtain ⟨x, hx⟩ := Option.isSome_iff_exists.1 hs
  exact ⟨x.2, by simp [YValue.lookup, hx]⟩

theorem lookup_of_mem_reached {sec ks : List (YValue × YValue)} (hks : ∀ kv ∈ ks, kv ∈ sec)
    {l : String} (hl : l ∈ reached ks) : ∃ w, YValue.lookup sec (.str l) = some w := by
  induction ks with
  | nil => cases hl
  | cons kv rest ih =>
    obtain ⟨k, v⟩ := kv
    simp only [reached] at hl
    split at hl
    · next l' hk =>
      rcases List.mem_cons.1 hl with rfl | hl
      · obtain ⟨rfl, -⟩ := levelOf?_eq_some hk
        exact lookup_isSome (hks _ (List.mem_cons_self _ _)) (by simp [richEq, pyEq, scalar?])
      · exact ih (fun kv h => hks kv (.tail _ h)) hl
    · cases hl

/-- The loop over a part `ks` of the section, from a `LOGGING` that differs from the module's
only in file names: the handlers of the levels it reaches get `section[level]`, and it raises
what `checkLevels` raises. -/
theorem setHandlers_loggingWith {sec : List (YValue × YValue)} (ks : List (YValue × YValue))
    (hks : ∀ kv ∈ ks, kv ∈ sec) (files : String → YValue) :
    setHandlers sec (loggingWith files) ks = some (loggingWith fun l =>
      if l ∈ reached ks then (YValue.lookup sec (.str l)).getD (files l) else files l,
      checkLevels ks) := by
  induction ks generalizing files with
  | nil => rfl
  | cons kv rest ih =>
    obtain ⟨k, v⟩ := kv
    by_cases hk : k.hashable
    · cases hl : levelOf? k with
      | none => simp [setHandlers, checkLevels, reached, hk, hl, any_pyEq_level hk]
      | some l =>
        obtain ⟨rfl, hlm⟩ := levelOf?_eq_some hl
        obtain ⟨w, hw⟩ := lookup_isSome (hks _ (List.mem_cons_self _ _))
          (show richEq (.str l) (.str l) by simp [richEq, pyEq, scalar?])
        have hrest : ∀ l' ∈ reached rest, ∃ w', YValue.lookup sec (.str l') = some w' :=
          fun l' => lookup_of_mem_reached fun kv h => hks kv (.tail _ h)
        simp only [setHandlers, hk, hl, hw, Bool.not_true, Bool.false_eq_true, if_false,
          Option.getD_some, setHandler_loggingWith files hlm, Option.some_bind,
          ih (fun kv h => hks kv (.tail _ h)), checkLevels, reached, List.mem_cons,
          any_pyEq_level hk, Option.isSome_some, if_true, Option.some.injEq, Prod.mk.injEq,
          and_true]
        congr 1
        funext l'
        by_cases h1 : l' ∈ reached rest
        · obtain ⟨w', hw'⟩ := hrest l' h1
          simp [h1, hw']
        · by_cases h2 : l' = l <;> simp [setFile, h1, h2, hw]
    · have hl : levelOf? k = none := by cases k <;> simp_all [levelOf?, hashable, scalar?]
      simp [setHandlers, checkLevels, reached, hk, hl]

/-- Every call of `configure_logging` on a `LOGGING` that differs from the module's only in the
handlers' file names leaves one of that kind, and never raises `KeyError`: the handlers of the
levels among the keys before the first key that is no level get the section's values, also
when the call then raises; the call raises what the checks of its loop raise, and otherwise
returns what `dictConfig` does with the updated dict. -/
theorem configure_logging_updates_files (dictConfig : YValue → Except ConfigError Unit)
    (files : String → YValue) (kvs : List (YValue × YValue)) :
    configureLoggingAt dictConfig (loggingWith files) kvs =
      some (loggingWith (afterCall files kvs),
        configureLogging (fun _ => dictConfig (loggingWith (afterCall files kvs))) (.map kvs)
          kvs) := by
  rw [configureLoggingAt, setHandlers_loggingWith kvs (fun _ h => h) files]
  cases h : checkLevels kvs <;> simp only [configureLogging, h] <;> rfl

/-- A `debug` key and then an unknown one: the `debug` handler writes to the new file, and
the call raises. -/
example : configureLoggingAt (fun _ => .ok ()) LOGGING
      [(.str "debug", .str "d.log"), (.str "warning", .str "w.log")] =
    some (loggingWith (setFile defaultFiles "debug" (.str "d.log")),
      .error (.valueError "Unknown logging level" none)) := rfl

/-- Over any run of `configure_logging` calls in one process, raising or not, `LOGGING` stays the
module's dict with only the file names of the `debug`, `error` and `info` handlers changed,
each to the value the last call that reached its level gave it; no call raises `KeyError`. -/
theorem logging_run_changes_only_files (dictConfig : YValue → Except ConfigError Unit)
    (secs : List (List (YValue × YValue))) :
    loggingRun dictConfig LOGGING secs = some (loggingWith (secs.foldl afterCall defaultFiles)) := by
  suffices ∀ files, loggingRun dictConfig (loggingWith files) secs =
      some (loggingWith (secs.foldl afterCall files)) from this defaultFiles
  induction secs with
  | nil => exact fun _ => rfl
  | cons kvs secs ih =>
    intro files
    simp only [loggingRun, configureLoggingAt, setHandlers_loggingWith kvs (fun _ h => h) files,
      Option.map_some', Option.some_bind, List.foldl_cons]
    exact ih _

end Config

end RallyCI
