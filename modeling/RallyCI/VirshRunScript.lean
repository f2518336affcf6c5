import RallyCI.VirshVM

/-! `VM.run_script`'s command line read by a POSIX shell: the variable assignments at the start
of a simple command, unquoted characters and single-quoted strings. -/
namespace RallyCI

namespace Shell

/-- A character that may start a name: `_` or an ASCII letter. -/
def nameStart (c : Char) : Bool := c = '_' || ('a' ≤ c && c ≤ 'z') || ('A' ≤ c && c ≤ 'Z')

/-- A character of a name: `_`, an ASCII letter or an ASCII digit. -/
def nameChar (c : Char) : Bool := nameStart c || ('0' ≤ c && c ≤ '9')

/-- A name: a nonempty word of name characters whose first is not a digit. -/
def isName (s : String) : Bool :=
  match s.toList with
  | [] => false
  | c :: cs => nameStart c && cs.all nameChar

/-- `<blank>`: space and tab. -/
def blank (c : Char) : Bool := c = ' ' || c = '\t'

/-- An unquoted character that stands for itself in an assignment's value: none of tab,
newline, space, `"`, `$`, `&`, `'`, `(`, `)`, `;`, `<`, `>`, `\`, the backquote, `|` and `~`. -/
def literal (c : Char) : Bool :=
  c.toNat ∉ [0x09, 0x0A, 0x20, 0x22, 0x24, 0x26, 0x27, 0x28, 0x29, 0x3B, 0x3C, 0x3E, 0x5C, 0x60,
    0x7C, 0x7E]

/-- Where the reader is: between words, in a word that is a name so far, or in the value of
the assignment to `name`, read up to `v`, within single quotes or not. -/
inductive State where
  | between
  | name (word : List Char)
  | value (name v : List Char) (quoted : Bool)
  deriving DecidableEq, Repr

/-- The assignments a shell reads at the start of a command line, after those in `acc`: all of
them in order, with the command word and what follows it. -/
def assigns : State → List Char → List (String × String) →
    Option (List (String × String) × List Char)
  | .between, [], acc => some (acc, [])
  | .between, c :: cs, acc =>
    if blank c then assigns .between cs acc
    else if nameStart c then assigns (.name [c]) cs acc
    else some (acc, c :: cs)
  | .name w, [], acc => some (acc, w)
  | .name w, c :: cs, acc =>
    if c = '=' then assigns (.value w [] false) cs acc
    else if nameChar c then assigns (.name (w ++ [c])) cs acc
    else some (acc, w ++ c :: cs)
  | .value _ _ true, [], _ => none
  | .value n v true, c :: cs, acc =>
    if c = '\'' then assigns (.value n v false) cs acc
    else assigns (.value n (v ++ [c]) true) cs acc
  | .value n v false, [], acc => some (acc ++ [(String.mk n, String.mk v)], [])
  | .value n v false, c :: cs, acc =>
    if c = '\'' then assigns (.value n v true) cs acc
    else if blank c then assigns .between cs (acc ++ [(String.mk n, String.mk v)])
    else if literal c then assigns (.value n (v ++ [c]) false) cs acc
    else none

/-- The value read so far. -/
def State.pending : State → List Char
  | .value _ v _ => v
  | _ => []

section Reader

variable {n v w : List Char} {acc : List (String × String)}

theorem blank_of_nameStart {c : Char} (h : nameStart c) : blank c = false := by
  cases hb : blank c
  · rfl
  · simp only [blank, Bool.or_eq_true, decide_eq_true_eq] at hb
    rcases hb with rfl | rfl <;> exact absurd h (by decide)

theorem assigns_nameChars (cs rest : List Char) (h : ∀ c ∈ cs, nameChar c) :
    assigns (.name w) (cs ++ rest) acc = assigns (.name (w ++ cs)) rest acc := by
  induction cs generalizing w with
  | nil => simp
  | cons c cs ih =>
    have hc : nameChar c := h c (List.mem_cons_self _ _)
    have he : c ≠ '=' := by rintro rfl; exact absurd hc (by decide)
    rw [List.cons_append, assigns, if_neg he, if_pos hc, ih fun c hc => h c (.tail _ hc),
      List.append_assoc, List.singleton_append]

theorem assigns_quoted (cs rest : List Char) (h : '\'' ∉ cs) :
    assigns (.value n v true) (cs ++ rest) acc = assigns (.value n (v ++ cs) true) rest acc := by
  induction cs generalizing v with
  | nil => simp
  | cons c cs ih =>
    have hc : c ≠ '\'' := fun hc => h (hc ▸ List.mem_cons_self _ _)
    rw [List.cons_append, assigns, if_neg hc, ih fun h' => h (.tail _ h'), List.append_assoc,
      List.singleton_append]

theorem assigns_assignment (k x : String) (hk : isName k) (hx : '\'' ∉ x.toList)
    (rest : List Char) :
    assigns .between ((k ++ "='" ++ x ++ "' ").toList ++ rest) acc =
      assigns .between rest (acc ++ [(k, x)]) := by
  obtain ⟨_ | ⟨c, cs⟩⟩ := k
  · exact absurd hk (by decide)
  obtain ⟨hc, hcs⟩ : nameStart c ∧ ∀ c ∈ cs, nameChar c := by simpa [isName] using hk
  obtain ⟨xs⟩ := x
  have hb := blank_of_nameStart hc
  simp only [String.toList, String.data_append, List.cons_append, List.append_assoc,
    List.singleton_append, List.nil_append] at hx ⊢
  rw [assigns, if_neg (by simp [hb]), if_pos hc, assigns_nameChars cs _ hcs]
  simp only [List.singleton_append, assigns, if_true]
  rw [assigns_quoted xs _ hx]
  simp [assigns, blank]

/-- `run_script`'s assignments of quote-free values to names are read back as they are, in
order. -/
theorem assigns_envPrefix (env : List (String × String)) (hn : ∀ p ∈ env, isName p.1)
    (hq : ∀ p ∈ env, '\'' ∉ p.2.toList) (rest : List Char) (acc : List (String × String)) :
    assigns .between ((VM.envPrefix env).toList ++ rest) acc = assigns .between rest (acc ++ env) := by
  induction env generalizing acc with
  | nil => simp [VM.envPrefix]
  | cons p env ih =>
    obtain ⟨k, x⟩ := p
    have h1 := List.mem_cons_self (k, x) env
    rw [show (VM.envPrefix ((k, x) :: env)).toList =
        (k ++ "='" ++ x ++ "' ").toList ++ (VM.envPrefix env).toList from String.data_append _ _,
      List.append_assoc, assigns_assignment k x (hn _ h1) (hq _ h1),
      ih (fun p hp => hn p (.tail _ hp)) (fun p hp => hq p (.tail _ hp)), List.append_assoc,
      List.singleton_append]

theorem assigns_append (s : State) (cs : List Char) (acc acc' : List (String × String)) :
    assigns s cs (acc ++ acc') = (assigns s cs acc').map fun r => (acc ++ r.1, r.2) := by
  induction cs generalizing s acc' with
  | nil => rcases s with _ | w | ⟨n, v, _ | _⟩ <;> simp [assigns]
  | cons c cs ih =>
    rcases s with _ | w | ⟨n, v, _ | _⟩ <;> simp only [assigns] <;> split_ifs <;>
      simp [ih, List.append_assoc]

theorem quote_free_snoc (hacc : ∀ p ∈ acc, '\'' ∉ p.2.toList) (hv : '\'' ∉ v) :
    ∀ p ∈ acc ++ [(String.mk n, String.mk v)], '\'' ∉ p.2.toList := by
  simp only [List.mem_append, List.mem_singleton]
  rintro p (hp | rfl)
  exacts [hacc p hp, hv]

theorem assigns_quote_free (s : State) (cs : List Char) (acc : List (String × String))
    (out : List (String × String)) (r : List Char) (h : assigns s cs acc = some (out, r))
    (hacc : ∀ p ∈ acc, '\'' ∉ p.2.toList) (hs : '\'' ∉ s.pending) :
    ∀ p ∈ out, '\'' ∉ p.2.toList := by
  induction cs generalizing s acc with
  | nil =>
    rcases s with _ | w | ⟨n, v, _ | _⟩ <;> simp only [assigns, Option.some.injEq,
      Prod.mk.injEq, reduceCtorEq] at h
    all_goals obtain ⟨rfl, -⟩ := h
    exacts [hacc, hacc, quote_free_snoc hacc hs]
  | cons c cs ih =>
    rcases s with _ | w | ⟨n, v, _ | _⟩ <;> simp only [assigns] at h <;> split_ifs at h with h1
    all_goals first
      | cases h
      | exact (Prod.mk.inj (Option.some.inj h)).1 ▸ hacc
      | refine ih _ _ h ?_ ?_
    all_goals first
      | exact hacc
      | exact hs
      | exact quote_free_snoc hacc hs
      | exact List.not_mem_nil _
      | simpa [State.pending, Ne.symm h1] using hs

end Reader

end Shell

/-- `run_script` sends nothing and returns nothing: with a recorded address the channel call
raises `TypeError` on its `user` keyword, and without one reading `self.ip` raises
`AttributeError`, whatever the script, env, flags, key and callback. Nor does the encoder quote
what it wraps: the value `a'b'c` would reach the shell as `abc`. -/
theorem run_script_never_sends :
    (∀ (addr : String) (script : Script) (env : List (String × String)) (raiseOnError : Bool)
        (key : Option String) (cb : Option (Bytes → Except PyErr Unit)) (p : Proc),
      VM.runScript (some addr) script env raiseOnError key cb p =
        .error (.typeError "run() got an unexpected keyword argument 'user'")) ∧
    (∀ (script : Script) (env : List (String × String)) (raiseOnError : Bool)
        (key : Option String) (cb : Option (Bytes → Except PyErr Unit)) (p : Proc),
      VM.runScript none script env raiseOnError key cb p = .error (.attributeError "ip")) ∧
    Shell.assigns .between (VM.scriptCmd [("MSG", "a'b'c")] "bash").toList [] =
      some ([("MSG", "abc")], "bash".toList) :=
  ⟨fun _ _ _ _ _ _ _ => rfl, fun _ _ _ _ _ _ => rfl, by decide⟩

/-- The env encoder passes exactly the quote-free values through: for env names that are
shell names and an interpreter the shell reads as the assignments `as` then `r`, the shell
reads `run_script`'s command line as the env's assignments in order, then `as`, then `r`, if
and only if no value holds a single quote. -/
theorem script_cmd_reads_env_iff (env : List (String × String))
    (hn : ∀ p ∈ env, Shell.isName p.1) (interpreter : String) (as : List (String × String))
    (r : List Char) (hi : Shell.assigns .between interpreter.toList [] = some (as, r)) :
    Shell.assigns .between (VM.scriptCmd env interpreter).toList [] = some (env ++ as, r) ↔
      ∀ p ∈ env, '\'' ∉ p.2.toList := by
  have hcmd : (VM.scriptCmd env interpreter).toList =
      (VM.envPrefix env).toList ++ interpreter.toList := String.data_append _ _
  rw [hcmd]
  constructor
  · intro h p hp
    exact Shell.assigns_quote_free _ _ _ _ _ h (fun _ => nofun) (List.not_mem_nil _) p
      (List.mem_append_left _ hp)
  · intro hq
    have h := Shell.assigns_append .between interpreter.toList env []
    rw [List.append_nil, hi] at h
    rw [Shell.assigns_envPrefix env hn hq, List.nil_append, h]
    rfl

/-- A greeting with a space in it reaches `bash` as it is. -/
theorem script_cmd_reads_greeting :
    Shell.assigns .between (VM.scriptCmd [("GREETING", "hello world")] "bash").toList [] =
      some ([("GREETING", "hello world")] ++ [], "bash".toList) :=
  (script_cmd_reads_env_iff [("GREETING", "hello world")] (by decide) "bash" [] "bash".toList
    (by decide)).2 (by decide)

end RallyCI
