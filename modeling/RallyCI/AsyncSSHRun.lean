import Mathlib.Data.List.Basic

/-! The remote command channel of `rallyci/common/asyncssh.py`: the argument vector `run` builds,
its read loop, and what it returns or raises from what it observes of the child process. -/
namespace RallyCI

/-- The exceptions the modelled code raises, with the data their messages carry. -/
inductive PyErr where
  | sshError (msg : String)
  | unboundLocal (var : String)
  | unicodeDecode
  | keyError (key : String)
  | typeError (msg : String)
  | attributeError (attr : String)
  | indexError
  deriving DecidableEq, Repr

/-- Results compare by constructor and payload, so a run's outcome can be decided. -/
instance instDecidableEqExcept {ε α : Type} [DecidableEq ε] [DecidableEq α] :
    DecidableEq (Except ε α)
  | .error a, .error b =>
    if h : a = b then isTrue (h ▸ rfl) else isFalse fun e => by cases e; exact h rfl
  | .ok a, .ok b =>
    if h : a = b then isTrue (h ▸ rfl) else isFalse fun e => by cases e; exact h rfl
  | .error _, .ok _ => isFalse Except.noConfusion
  | .ok _, .error _ => isFalse Except.noConfusion

/-- A byte string (`bytes`). -/
abbrev Bytes := List UInt8

/-- A continuation byte `10xxxxxx` whose value lies in `[lo, hi]`. -/
def contIn (lo hi : UInt8) (c : UInt8) : Bool := lo ≤ c && c ≤ hi

/-- `bytes.decode()`: strict UTF-8, `none` being its `UnicodeDecodeError`. The ranges of the
second byte exclude overlong forms, surrogates and code points above `U+10FFFF`. -/
def utf8Decode : Bytes → Option (List Char)
  | [] => some []
  | b :: rest =>
    if b < 0x80 then (Char.ofNat b.toNat :: ·) <$> utf8Decode rest
    else match rest with
      | [] => none
      | c1 :: rest1 =>
        if 0xC2 ≤ b && b ≤ 0xDF then
          if contIn 0x80 0xBF c1 then
            (Char.ofNat ((b.toNat - 0xC0) * 64 + (c1.toNat - 0x80)) :: ·) <$> utf8Decode rest1
          else none
        else match rest1 with
          | [] => none
          | c2 :: rest2 =>
            if 0xE0 ≤ b && b ≤ 0xEF then
              let lo : UInt8 := if b = 0xE0 then 0xA0 else 0x80
              let hi : UInt8 := if b = 0xED then 0x9F else 0xBF
              if contIn lo hi c1 && contIn 0x80 0xBF c2 then
                (Char.ofNat ((b.toNat - 0xE0) * 4096 + (c1.toNat - 0x80) * 64 +
                  (c2.toNat - 0x80)) :: ·) <$> utf8Decode rest2
              else none
            else match rest2 with
              | [] => none
              | c3 :: rest3 =>
                let lo : UInt8 := if b = 0xF0 then 0x90 else 0x80
                let hi : UInt8 := if b = 0xF4 then 0x8F else 0xBF
                if 0xF0 ≤ b && b ≤ 0xF4 && contIn lo hi c1 && contIn 0x80 0xBF c2 &&
                    contIn 0x80 0xBF c3 then
                  (Char.ofNat ((b.toNat - 0xF0) * 262144 + (c1.toNat - 0x80) * 4096 +
                    (c2.toNat - 0x80) * 64 + (c3.toNat - 0x80)) :: ·) <$> utf8Decode rest3
                else none

/-- The characters `str.isspace` accepts, which `str.strip()` removes. -/
def pyIsSpace (c : Char) : Bool :=
  c.toNat ∈ [0x09, 0x0A, 0x0B, 0x0C, 0x0D, 0x1C, 0x1D, 0x1E, 0x1F, 0x20, 0x85, 0xA0, 0x1680,
    0x2000, 0x2001, 0x2002, 0x2003, 0x2004, 0x2005, 0x2006, 0x2007, 0x2008, 0x2009, 0x200A,
    0x2028, 0x2029, 0x202F, 0x205F, 0x3000]

/-- `str.strip()`. -/
def pyStrip (s : List Char) : List Char :=
  ((s.dropWhile pyIsSpace).reverse.dropWhile pyIsSpace).reverse

/-- `str.split(" ")`: every single space separates, so runs of spaces give empty words. -/
def splitSpace : List Char → List (List Char)
  | [] => [[]]
  | c :: cs =>
    match splitSpace cs with
    | [] => [[c]]
    | w :: ws => if c = ' ' then [] :: w :: ws else (c :: w) :: ws

/-- The channel's configuration: `AsyncSSH(username, hostname, key, port)`, with `port`
already rendered by `str(port)`. -/
structure AsyncSSH where
  username : String
  hostname : String
  key : Option String := none
  port : String := "22"
  deriving DecidableEq, Repr

/-- What `run` observes of the child it spawned. `eofAtStart`: stdout is already at EOF when
the read loop first tests it (then `out` is empty). `returncode`: `process.returncode` right
after the loop, `none` while the child's exit has not been reaped. -/
structure Proc where
  out : Bytes := []
  eofAtStart : Bool := false
  returncode : Option Int := some 0
  deriving DecidableEq, Repr

/-- The line the read loop binds: the loop body runs once, and its `read()` returns all the
output up to EOF; it does not run when stdout is at EOF on the first test. -/
def Proc.line (p : Proc) : Option Bytes :=
  if p.eofAtStart then none else some p.out

/-- A child that can be observed so: an empty stdout when it is at EOF on the first test, and
the exit code `c` or no exit code at all. -/
def Proc.agrees (p : Proc) (c : Int) : Bool :=
  (!p.eofAtStart || p.out.isEmpty) && (p.returncode == some c || p.returncode == none)

/-- The value `run` returns: the captured text, or `process.returncode`. -/
inductive RunResult where
  | text (s : List Char)
  | code (rc : Option Int)
  deriving DecidableEq, Repr

namespace AsyncSSH

/-- The argument vector `run` execs: the `ssh` prefix unless the host is `localhost`, the
identity file when `key` is truthy, then the command split on single spaces. -/
def cmd (ssh : AsyncSSH) (command : String) : List String :=
  (if ssh.hostname ≠ "localhost" then
    ["ssh", "-o", "StrictHostKeyChecking=no", ssh.username ++ "@" ++ ssh.hostname, "-p", ssh.port]
  else []) ++
  (match ssh.key with
    | some k => if k ≠ "" then ["-i", k] else []
    | none => []) ++
  (splitSpace command.toList).map String.mk

/-- The default callback `cb`: `sys.stdout.write(line.decode())`. -/
def defaultCb (line : Bytes) : Except PyErr Unit :=
  match utf8Decode line with
  | some _ => .ok ()
  | none => .error .unicodeDecode

/-- The message of the `SSHError` for a failed command. -/
def failMsg (argv : List String) (rc : Int) : String :=
  "Cmd '" ++ " ".intercalate argv ++ "' failed. Exit code: " ++ toString rc

/-- Python's truth value of `process.returncode`. -/
def truthy : Option Int → Bool
  | some c => c ≠ 0
  | none => false

/-- The read loop: the bound line, if any, goes to the callback. -/
def feed (cb : Bytes → Except PyErr Unit) (p : Proc) : Except PyErr Unit :=
  match p.line with
  | some l => cb l
  | none => .ok ()

/-- The `return_output` branch: the decoded output, stripped when `strip_output`. -/
def captured (stripOutput : Bool) (p : Proc) : Except PyErr RunResult :=
  match utf8Decode (p.line.getD []) with
  | none => .error .unicodeDecode
  | some s => .ok (.text (if stripOutput then pyStrip s else s))

/-- The exit-status branch: a truthy `returncode` raises when `raise_on_error`, the log call
before the `raise` reading `line` first. -/
def exitStatus (argv : List String) (raiseOnError : Bool) (p : Proc) : Except PyErr RunResult :=
  match p.returncode with
  | some c =>
    if c ≠ 0 && raiseOnError then
      match p.line with
      | none => .error (.unboundLocal "line")
      | some _ => .error (.sshError (failMsg argv c))
    else .ok (.code (some c))
  | none => .ok (.code none)

/-- `AsyncSSH.run`: with `return_output` the output is returned before the exit status is
looked at. -/
def run (ssh : AsyncSSH) (cb : Bytes → Except PyErr Unit) (command : String)
    (returnOutput stripOutput raiseOnError : Bool) (p : Proc) : Except PyErr RunResult :=
  match feed cb p with
  | .error e => .error e
  | .ok () => if returnOutput then captured stripOutput p else exitStatus (ssh.cmd command) raiseOnError p

/-- The argument vector of `scp_get`. -/
def scpCmd (ssh : AsyncSSH) (src dst : String) : List String :=
  ["scp", "-B", "-o", "StrictHostKeyChecking no"] ++
  (match ssh.key with
    | some k => if k ≠ "" then ["-i", k] else []
    | none => []) ++
  ["-P", ssh.port, "-r", ssh.username ++ "@" ++ ssh.hostname ++ ":" ++ src, dst]

/-- `AsyncSSH.scp_get`: list `src` through `run` for the log, then drain the `scp` child's
output and return its `returncode`. -/
def scpGet (ssh : AsyncSSH) (cb : Bytes → Except PyErr Unit) (src : String)
    (ls scp : Proc) : Except PyErr (Option Int) :=
  match ssh.run cb ("ls " ++ src) true true true ls with
  | .error e => .error e
  | .ok _ => .ok scp.returncode

variable (ssh : AsyncSSH) (cb : Bytes → Except PyErr Unit) (command : String)

/-- With `return_output` the result does not depend on the exit status at all. -/
theorem run_return_output_ignores_returncode (strip raise : Bool) (p : Proc) (rc : Option Int) :
    ssh.run cb command true strip raise { p with returncode := rc } =
      ssh.run cb command true strip raise p := by
  simp only [run, feed, captured, Proc.line, ite_true]

/-- Without `return_output` and `raise_on_error`, `run` returns `process.returncode` as it is,
once the callback has taken the line. -/
theorem run_returns_returncode (strip : Bool) (p : Proc) (hcb : ∀ l, p.line = some l → cb l = .ok ()) :
    ssh.run cb command false strip false p = .ok (.code p.returncode) := by
  cases hl : p.line with
  | none => cases h : p.returncode <;> simp [run, feed, exitStatus, hl, h]
  | some l => cases h : p.returncode <;> simp [run, feed, exitStatus, hl, h, hcb l hl]

/-- When the loop has bound `line`, the callback took it and the exit status `c` is known,
`run` with `raise_on_error` raises the `SSHError` naming the command line and `c` exactly when
`c ≠ 0`, and returns `0` otherwise. -/
theorem run_raises_iff_nonzero (strip : Bool) (p : Proc) (l : Bytes) (c : Int)
    (hl : p.line = some l) (hcb : cb l = .ok ()) (hc : p.returncode = some c) :
    ssh.run cb command false strip true p =
      if c ≠ 0 then .error (.sshError (failMsg (ssh.cmd command) c)) else .ok (.code (some 0)) := by
  by_cases h0 : c = 0
  · subst h0; simp [run, feed, exitStatus, hl, hcb, hc]
  · simp [run, feed, exitStatus, hl, hcb, hc, h0]

/-- An exit status not yet reaped when stdout reaches EOF is returned as `None`, which callers
read as success: no error is raised whatever the child's exit code. -/
theorem run_unreaped_returns_none (strip raise : Bool) (p : Proc)
    (hcb : ∀ l, p.line = some l → cb l = .ok ()) (hrc : p.returncode = none) :
    ssh.run cb command false strip raise p = .ok (.code none) := by
  cases hl : p.line with
  | none => simp [run, feed, exitStatus, hl, hrc]
  | some l => simp [run, feed, exitStatus, hl, hrc, hcb l hl]

/-- A failing child whose stdout is at EOF before the loop runs raises `UnboundLocalError` on
`line` from the log call, not the `SSHError`. -/
theorem run_empty_output_unbound_line (strip : Bool) (c : Int) (hc : c ≠ 0) :
    ssh.run cb command false strip true { out := [], eofAtStart := true, returncode := some c } =
      .error (.unboundLocal "line") := by
  simp [run, feed, exitStatus, Proc.line, hc]

/-- An exit code of 7 with the output captured: `run` hands the output back and raises
nothing. -/
theorem run_return_output_exit_seven :
    (AsyncSSH.mk "root" "host" none "22").run defaultCb "false" true true true
      { returncode := some 7 } = .ok (.text []) := by
  decide

end AsyncSSH

/-- An exception with the text of an `SSHError` dropped: the two backends' command lines
differ, so their `SSHError`s do. -/
def PyErr.erase : PyErr → PyErr
  | .sshError _ => .sshError ""
  | e => e

theorem AsyncSSH.run_erase (ssh : AsyncSSH) (cb : Bytes → Except PyErr Unit) (t t' : String)
    (ro so re : Bool) (p : Proc) :
    (ssh.run cb t ro so re p).mapError PyErr.erase =
      (ssh.run cb t' ro so re p).mapError PyErr.erase := by
  unfold AsyncSSH.run AsyncSSH.exitStatus
  split
  · rfl
  · split
    · rfl
    · split
      · split
        · split <;> rfl
        · rfl
      · rfl

theorem AsyncSSH.run_no_raise_eq (ssh : AsyncSSH) (cb : Bytes → Except PyErr Unit) (t t' : String)
    (so : Bool) (p : Proc) : ssh.run cb t false so false p = ssh.run cb t' false so false p := by
  simp only [AsyncSSH.run, AsyncSSH.exitStatus, Bool.and_false, Bool.false_eq_true, ite_false]

/-- A child observed without the channel's slips: its exit status was reaped by EOF, and its
output decodes. -/
def Proc.clean (p : Proc) : Bool :=
  p.returncode.isSome && (AsyncSSH.feed AsyncSSH.defaultCb p).toBool

theorem Proc.clean_returncode {p : Proc} {c : Int} (hp : p.clean) (ha : p.agrees c) :
    p.returncode = some c := by
  simp only [Proc.clean, Proc.agrees, Bool.and_eq_true, Bool.or_eq_true, beq_iff_eq] at hp ha
  rcases ha.2 with h | h
  · exact h
  · simp [h] at hp

theorem Proc.clean_feed {p : Proc} (hp : p.clean) : AsyncSSH.feed AsyncSSH.defaultCb p = .ok () := by
  cases h : AsyncSSH.feed AsyncSSH.defaultCb p
  · simp [Proc.clean, h, Except.toBool] at hp
  · rfl

section Clean

variable {ssh : AsyncSSH} {t : String} {so re : Bool} {p : Proc}

theorem AsyncSSH.run_clean_zero (hp : p.clean) (ha : p.agrees 0) :
    ssh.run AsyncSSH.defaultCb t false so re p = .ok (.code (some 0)) := by
  simp [AsyncSSH.run, Proc.clean_feed hp, AsyncSSH.exitStatus, Proc.clean_returncode hp ha]

theorem AsyncSSH.run_clean_code {c : Int} (hp : p.clean) (ha : p.agrees c) :
    ssh.run AsyncSSH.defaultCb t false so false p = .ok (.code (some c)) := by
  simp [AsyncSSH.run, Proc.clean_feed hp, AsyncSSH.exitStatus, Proc.clean_returncode hp ha]

/-- A clean child that exits nonzero makes `run` with `raise_on_error` raise. -/
theorem AsyncSSH.run_clean_fail {c : Int} (hp : p.clean) (ha : p.agrees c) (hc : c ≠ 0) :
    ∃ e, ssh.run AsyncSSH.defaultCb t false so true p = .error e := by
  cases hl : p.line <;>
    simp [AsyncSSH.run, Proc.clean_feed hp, AsyncSSH.exitStatus, Proc.clean_returncode hp ha, hc, hl]

end Clean

end RallyCI
