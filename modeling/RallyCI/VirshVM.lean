import RallyCI.VirshStorage
import RallyCI.PyFloat
import Mathlib.Algebra.Order.Ring.Rat
import Mathlib.Tactic.NormNum

/-! The parts of `VM` in `rallyci/providers/virsh.py` that the provisioning paths run:
`run_script`'s channel call, `destroy`'s commands, and `shutdown`'s polling loop. Clock readings
are rationals, which hold every value `time.time()` returns. -/
namespace RallyCI

/-- An entry of the `script` section, the keys `run_script` reads. -/
structure Script where
  interpreter : String
  data : String
  user : String := "root"
  deriving DecidableEq, Repr

namespace AsyncSSH

/-- The keyword parameters of `AsyncSSH.run`. -/
def runParams : List String := ["stdin", "return_output", "strip_output", "raise_on_error"]

/-- Python's check of a call's keywords against `run`'s signature, made before the body
runs. -/
def checkKwargs (kws : List String) : Except PyErr Unit :=
  match kws.find? (· ∉ runParams) with
  | some k => .error (.typeError ("run() got an unexpected keyword argument '" ++ k ++ "'"))
  | none => .ok ()

end AsyncSSH

namespace VM

/-- The assignments `run_script` puts before the interpreter: `"%s='%s' " % tuple(e)` for each
item of `env`, in order, and nothing for an empty or absent `env`. -/
def envPrefix : List (String × String) → String
  | [] => ""
  | (k, v) :: env => k ++ "='" ++ v ++ "' " ++ envPrefix env

/-- The command line `run_script` sends: the assignments, then the script's interpreter. -/
def scriptCmd (env : List (String × String)) (interpreter : String) : String :=
  envPrefix env ++ interpreter

/-- The callback the script's channel is built with: `run_script` passes its own `cb`, whose
default `None` is then called on the first line read. -/
def scriptCb : Option (Bytes → Except PyErr Unit) → Bytes → Except PyErr Unit
  | some f => f
  | none => fun _ => .error (.typeError "'NoneType' object is not callable")

/-- `run_script(script, env, raise_on_error, key, cb)` once `get_ip` and the 30 s sleep are
behind it: the command line is built, `self.ip` is read to build the channel (it is unset when
`get_ip` timed out), then `run` is called with the keywords `stdin`, `raise_on_error` and
`user`. Past that call the body would go to the child's stdin and `run`'s result back. -/
def runScript (ip : Option String) (script : Script) (env : List (String × String))
    (raiseOnError : Bool) (key : Option String) (cb : Option (Bytes → Except PyErr Unit))
    (p : Proc) : Except PyErr RunResult :=
  match ip with
  | none => .error (.attributeError "ip")
  | some addr =>
    match AsyncSSH.checkKwargs ["stdin", "raise_on_error", "user"] with
    | .error e => .error e
    | .ok () =>
      (AsyncSSH.mk script.user addr key "22").run (scriptCb cb) (scriptCmd env script.interpreter)
        false true raiseOnError p

/-- `run_script` never returns: its channel call passes a keyword `run` does not take. -/
theorem runScript_raises (ip : Option String) (script : Script) (env : List (String × String))
    (raiseOnError : Bool) (key : Option String) (cb : Option (Bytes → Except PyErr Unit))
    (p : Proc) : ∃ e, runScript ip script env raiseOnError key cb p = .error e := by
  cases ip <;> exact ⟨_, rfl⟩

/-- The command of `VM.destroy` that stops the domain. -/
def destroyCmd (name : String) : String := s!"virsh destroy {name}"

/-- The command `shutdown` polls with. -/
def listCmd (name : String) : String := s!"virsh list | grep -q {name}"

/-- What one pass of `shutdown`'s loop does after its `asyncio.sleep(4)`: the poll's
`returncode` is truthy when `grep` found no such domain. -/
inductive Poll where
  | gone
  | forced
  | again
  | raised (e : PyErr)
  deriving DecidableEq, Repr

/-- One pass of the loop: `if error: return`, `elif time.time() > timeout: destroy`. -/
def poll (timeout now : ℚ) (r : Except PyErr RunResult) : Poll :=
  match r with
  | .error e => .raised e
  | .ok (.code rc) => if AsyncSSH.truthy rc then .gone else if now > timeout then .forced else .again
  | .ok (.text _) => if now > timeout then .forced else .again

/-- How `shutdown`'s loop ends, with the index of the poll it ends at: `forced` is the
call of `destroy()`. -/
inductive ShutdownEnd where
  | gone (i : Nat)
  | forced (i : Nat)
  | polling
  deriving DecidableEq, Repr

/-- `shutdown`'s loop over its polls: the observed `virsh list | grep -q name` child and the
clock reading the `elif` takes after it. -/
def shutdownLoop (ssh : AsyncSSH) (name : String) (timeout : ℚ) :
    Nat → List (Proc × ℚ) → Except PyErr ShutdownEnd
  | _, [] => .ok .polling
  | i, (p, now) :: rest =>
    match poll timeout now (ssh.run AsyncSSH.defaultCb (listCmd name) false true false p) with
    | .gone => .ok (.gone i)
    | .forced => .ok (.forced i)
    | .raised e => .error e
    | .again => shutdownLoop ssh name timeout (i + 1) rest

/-- `VM.shutdown(timeout)`: `get_ssh` reads `self.ip`, the guest is told to halt, and the loop
polls the host. The deadline is computed from the start reading `t0` and never read. -/
def shutdown (ssh : AsyncSSH) (name : String) (ip : Option String) (halt : Proc)
    (timeout t0 : ℚ) (polls : List (Proc × ℚ)) : Except PyErr ShutdownEnd :=
  match ip with
  | none => .error (.attributeError "ip")
  | some addr =>
    match (AsyncSSH.mk "root" addr none "22").run AsyncSSH.defaultCb "shutdown -h now"
        false true true halt with
    | .error e => .error e
    | .ok _ =>
      let _deadline := PyFloat.round (t0 + timeout)
      shutdownLoop ssh name timeout 0 polls

/-- Each pass reports the domain gone exactly when its `returncode` is truthy, whatever the
clock reads. -/
theorem poll_gone_iff (timeout now : ℚ) (rc : Option Int) :
    poll timeout now (.ok (.code rc)) = .gone ↔ AsyncSSH.truthy rc = true := by
  unfold poll; split_ifs <;> simp_all

theorem shutdownLoop_append_again (ssh : AsyncSSH) (name : String) (timeout : ℚ) (i : Nat)
    (pre rest : List (Proc × ℚ))
    (hpre : ∀ q ∈ pre,
      poll timeout q.2 (ssh.run AsyncSSH.defaultCb (listCmd name) false true false q.1) = .again) :
    shutdownLoop ssh name timeout i (pre ++ rest) =
      shutdownLoop ssh name timeout (i + pre.length) rest := by
  induction pre generalizing i with
  | nil => rfl
  | cons q pre ih =>
    obtain ⟨p, now⟩ := q
    simp only [List.cons_append, shutdownLoop, hpre (p, now) (List.mem_cons_self _ _),
      List.length_cons, List.append_eq]
    rw [ih (i + 1) fun q hq => hpre q (List.mem_cons_of_mem _ hq)]
    congr 1; omega

/-- After polls that all go round again, a poll whose child is seen to exit nonzero ends the
loop as `gone` at that poll: `shutdown` returns without calling `destroy()`. -/
theorem shutdownLoop_gone_at_first_gone (ssh : AsyncSSH) (name : String) (timeout now : ℚ)
    (pre rest : List (Proc × ℚ)) (p : Proc) (c : Int)
    (hpre : ∀ q ∈ pre,
      poll timeout q.2 (ssh.run AsyncSSH.defaultCb (listCmd name) false true false q.1) = .again)
    (hl : ∀ l, p.line = some l → AsyncSSH.defaultCb l = .ok ()) (hc : p.returncode = some c)
    (hc0 : c ≠ 0) :
    shutdownLoop ssh name timeout 0 (pre ++ (p, now) :: rest) = .ok (.gone pre.length) := by
  rw [shutdownLoop_append_again ssh name timeout 0 pre _ hpre, shutdownLoop,
    AsyncSSH.run_returns_returncode ssh _ _ true p hl, hc]
  simp [poll, AsyncSSH.truthy, hc0]

/-- A first poll that still lists the domain and a second that does not: the loop ends as
`gone` at the second. -/
example :
    shutdownLoop ⟨"root", "host", none, "22"⟩ "vm" 30 0
      ([(({} : Proc), (4 : ℚ))] ++ [({ returncode := some 1 }, 8)]) = .ok (.gone 1) :=
  shutdownLoop_gone_at_first_gone _ _ 30 8 [({}, 4)] [] { returncode := some 1 } 1
    (by
      simp [poll, AsyncSSH.run, AsyncSSH.feed, AsyncSSH.exitStatus, Proc.line, AsyncSSH.defaultCb,
        utf8Decode, AsyncSSH.truthy]
      norm_num)
    (by rintro l ⟨⟩; rfl) rfl (by decide)

/-- The loop compares the clock with `timeout` itself and not with the deadline it computed:
started at clock 1000 with the default timeout 30, a domain still listed at the first poll,
read at 1004, is destroyed although 1004 is not past 1000 + 30. -/
theorem shutdown_forced_before_deadline :
    shutdown ⟨"root", "host", none, "22"⟩ "vm" (some "10.0.0.2") {} 30 1000
        [({ returncode := some 0 }, 1004)] = .ok (.forced 0) ∧ ¬ ((1004 : ℚ) > 1000 + 30) := by
  refine ⟨?_, by norm_num⟩
  simp [shutdown, shutdownLoop, poll, AsyncSSH.run, AsyncSSH.feed, AsyncSSH.exitStatus,
    Proc.line, AsyncSSH.defaultCb, utf8Decode, AsyncSSH.truthy]
  norm_num

end VM
end RallyCI
