import RallyCI.VirshVM

/-! `Host.build_image`, `Host.boot_image` and `Host.get_vm` of `rallyci/providers/virsh.py` as
coroutines: a task is a stack of frames, each at the suspension point it waits at. -/
namespace RallyCI

/-- An entry of `config["images"]`, the keys `build_image` and `boot_image` read. -/
structure ImageConf where
  parent : Option String := none
  url : Option String := none
  buildScripts : List String := []
  memory : Nat := 1024
  deriving DecidableEq, Repr

/-- An entry of `config["vms"]`, the keys `get_vm` reads with `conf[key]`; a missing key is
`none`, and reading it raises `KeyError`. -/
structure VmConf where
  image : Option String := none
  memory : Option Nat := none
  net : Option (List String) := none
  deriving DecidableEq, Repr

/-- Python's truth value of an optional string: `None` and `""` are false. -/
def truthyStr : Option String → Option String
  | some s => if s = "" then none else some s
  | none => none

/-- What a `Host` reads: its channel, its storage, the provider's `images` and `vms`
sections, and the root configuration's `script` section. -/
structure Host (σ : Type) where
  ssh : AsyncSSH
  storage : Backend σ
  images : List (String × ImageConf)
  vmConfs : List (String × VmConf) := []
  scripts : List (String × Script) := []

/-- `build_scripts` as `build_image` reads it after the image's entry was found. -/
def Host.buildScripts {σ : Type} (h : Host σ) (name : String) : List String :=
  ((h.images.lookup name).map ImageConf.buildScripts).getD []

/-- A VM of `Host.vms`: its domain name and its `storage_name`. -/
structure VmRec where
  name : String
  storageName : String
  deriving DecidableEq, Repr

/-- What the tasks share: the host's filesystem, the names whose `IMAGE_LOCKS` lock is held,
and `Host.vms`. -/
structure World (σ : Type) where
  fs : σ
  locks : List String := []
  vms : List VmRec := []
  deriving DecidableEq, Repr

/-- Where a `build_image(name)` frame waits. `vm` is the build VM's domain name, `conf` the
path of its definition file. -/
inductive BuildPc where
  | acquire
  | probe
  | parent (p : String)
  | clone (p : String)
  | create (url : String)
  | wget (url : String)
  | resize
  | listFiles (vm : String)
  | bootCopy (vm conf : String)
  | bootCreate (vm conf : String)
  | script (vm : String) (rest : List String)
  | shutdownPoll (vm : String)
  | forceVirsh (vm : String)
  | forceStorage (vm : String)
  | cleanVirsh (vm : String) (e : PyErr)
  | cleanStorage (e : PyErr)
  | settle
  | snapshot
  deriving DecidableEq, Repr

/-- Where a `get_vm(name)` frame waits. `rnd` is the dataset cloned for the VM. -/
inductive GetVmPc where
  | build
  | clone (rnd : String)
  | listFiles (rnd vm : String)
  | bootCopy (rnd vm conf : String)
  | bootCreate (rnd vm conf : String)
  deriving DecidableEq, Repr

/-- A frame of a task's stack. -/
inductive Frame where
  | build (name : String) (pc : BuildPc)
  | getVm (name : String) (pc : GetVmPc)
  deriving DecidableEq, Repr

/-- What the environment decides in one step: how the child the step runs is observed, the
name `utils.get_rnd_name` draws, the address `get_ip` resolves, and the clock. -/
structure Env where
  proc : Proc := {}
  rnd : String := "r"
  ip : Option String := none
  now : ℚ := 0
  deriving DecidableEq, Repr

/-- How a frame's step ends: it waits again, calls a child frame and waits for it, returns a
value, or raises. -/
inductive Out where
  | goto (fr : Frame)
  | call (child fr : Frame)
  | ret (v : Option VmRec)
  | raise (e : PyErr)
  deriving DecidableEq, Repr

/-- A task: the frames it runs, top first, or how its call ended (`get_vm` returns its VM,
`build_image` returns `None`). -/
inductive Task where
  | run (stack : List Frame)
  | done (r : Except PyErr (Option VmRec))
  deriving DecidableEq, Repr

/-- A child without an `eofAtStart` that shows output. -/
def Proc.wf (p : Proc) : Bool := !p.eofAtStart || p.out.isEmpty

namespace Host

variable {σ : Type} (h : Host σ)

/-- A storage command run through the channel: the filesystem changes as the command does,
and the step is possible only for an observation that agrees with its exit code. -/
def storageCmd (w : World σ) (c : Cmd σ) (p : Proc) (returnOutput raiseOnError : Bool) :
    Option (World σ × Except PyErr RunResult) :=
  if p.agrees (c.exec w.fs).1 then
    some ({ w with fs := (c.exec w.fs).2 },
      h.ssh.run AsyncSSH.defaultCb c.text returnOutput true raiseOnError p)
  else none

/-- A command that leaves the storage alone; its exit code is the environment's. -/
def externalCmd (w : World σ) (text : String) (p : Proc) (returnOutput raiseOnError : Bool) :
    Option (World σ × Except PyErr RunResult) :=
  if p.wf then some (w, h.ssh.run AsyncSSH.defaultCb text returnOutput true raiseOnError p)
  else none

/-- The rest of `build_image(name)` once its probe found no dataset: `boot_image` draws the
build VM's name before it lists the dataset. -/
def afterProbe (name rnd : String) : Out :=
  match h.images.lookup name with
  | none => .raise (.keyError name)
  | some conf =>
    match truthyStr conf.parent with
    | some p => .call (.build p .acquire) (.build name (.parent p))
    | none =>
      match truthyStr conf.url with
      | some u => .goto (.build name (.create u))
      | none =>
        if conf.buildScripts = [] then .goto (.build name .settle)
        else .goto (.build name (.listFiles rnd))

/-- The end of the `with` block: `build_image` returns when the probe found the dataset. -/
def probeOut (name rnd : String) : Except PyErr Bool → Out
  | .error e => .raise e
  | .ok true => .ret none
  | .ok false => h.afterProbe name rnd

/-- After the dataset was cloned: `boot_image` when there are build scripts. -/
def afterClone (name rnd : String) : Out :=
  if h.buildScripts name = [] then .goto (.build name .settle)
  else .goto (.build name (.listFiles rnd))

/-- Continue with `k` on success and raise the error otherwise. -/
def onOk (r : Except PyErr RunResult) (k : Out) : Out :=
  match r with
  | .error e => .raise e
  | .ok _ => k

/-- Inside the `try` around the build scripts an error goes to the `except` clause, which
destroys the build VM. -/
def onOkTry (name vm : String) (r : Except PyErr RunResult) (k : Out) : Out :=
  match r with
  | .error e => .goto (.build name (.cleanVirsh vm e))
  | .ok _ => k

/-- The path `VM.boot` writes the domain definition to. -/
def confPath (rnd : String) : String := s!"/tmp/.conf.{rnd}.xml"

/-- One step of `build_image(name)` waiting at `pc`; `none` when it cannot be taken. -/
def buildStep (w : World σ) (env : Env) (name : String) : BuildPc → Option (World σ × Out)
  | .acquire =>
    if name ∈ w.locks then none
    else some ({ w with locks := name :: w.locks }, .goto (.build name .probe))
  | .probe =>
    (h.storageCmd w (h.storage.exist name) env.proc false false).map fun (w', r) =>
      ({ w' with locks := w'.locks.erase name }, h.probeOut name env.rnd (existAnswer r))
  | .parent _ => none
  | .clone p =>
    (h.storageCmd w (h.storage.clone p name) env.proc false true).map fun (w', r) =>
      (w', onOk r (h.afterClone name env.rnd))
  | .create u =>
    (h.storageCmd w (h.storage.create name) env.proc false true).map fun (w', r) =>
      (w', onOk r (.goto (.build name (.wget u))))
  | .wget u =>
    (h.externalCmd w (h.storage.wget name u) env.proc false true).map fun (w', r) =>
      (w', onOk r (.goto (.build name .resize)))
  | .resize =>
    (h.externalCmd w (h.storage.resize name) env.proc false true).map fun (w', r) =>
      (w', onOk r (.ret none))
  | .listFiles vm =>
    (h.externalCmd w (h.storage.listFiles name) env.proc true true).map fun (w', r) =>
      (w', onOk r (.goto (.build name (.bootCopy vm (confPath env.rnd)))))
  | .bootCopy vm conf =>
    (h.externalCmd w ("cat > " ++ conf) env.proc false true).map fun (w', r) =>
      (w', onOk r (.goto (.build name (.bootCreate vm conf))))
  | .bootCreate vm conf =>
    (h.externalCmd w s!"virsh create {conf}; rm {conf}" env.proc false true).map fun (w', r) =>
      (w', onOk r (.goto (.build name (.script vm (h.buildScripts name)))))
  | .script vm [] =>
    match env.ip with
    | none => some (w, .goto (.build name (.cleanVirsh vm (.attributeError "ip"))))
    | some addr =>
      if env.proc.wf then
        some (w, onOkTry name vm ((AsyncSSH.mk "root" addr none "22").run AsyncSSH.defaultCb
          "shutdown -h now" false true true env.proc) (.goto (.build name (.shutdownPoll vm))))
      else none
  | .script vm (sn :: rest) =>
    some (w,
      match h.scripts.lookup sn with
      | none => .goto (.build name (.cleanVirsh vm (.keyError sn)))
      | some sc =>
        match VM.runScript env.ip sc [] true none none env.proc with
        | .error e => .goto (.build name (.cleanVirsh vm e))
        | .ok _ => .goto (.build name (.script vm rest)))
  | .shutdownPoll vm =>
    (h.externalCmd w (VM.listCmd vm) env.proc false false).map fun (w', r) =>
      (w', match VM.poll 30 env.now r with
        | .gone => .goto (.build name .settle)
        | .forced => .goto (.build name (.forceVirsh vm))
        | .again => .goto (.build name (.shutdownPoll vm))
        | .raised e => .goto (.build name (.cleanVirsh vm e)))
  | .forceVirsh vm =>
    (h.externalCmd w (VM.destroyCmd vm) env.proc false false).map fun (w', r) =>
      (w', onOkTry name vm r (.goto (.build name (.forceStorage vm))))
  | .forceStorage vm =>
    (h.storageCmd w (h.storage.destroy name) env.proc false true).map fun (w', r) =>
      (w', onOkTry name vm r (.goto (.build name .settle)))
  | .cleanVirsh vm e =>
    (h.externalCmd w (VM.destroyCmd vm) env.proc false false).map fun (w', r) =>
      (w', onOk r (.goto (.build name (.cleanStorage e))))
  | .cleanStorage e =>
    (h.storageCmd w (h.storage.destroy name) env.proc false true).map fun (w', r) =>
      (w', onOk r (.raise e))
  | .settle => some (w, .goto (.build name .snapshot))
  | .snapshot =>
    match h.storage.snapshot name with
    | none => some (w, .ret none)
    | some c => (h.storageCmd w c env.proc false true).map fun (w', r) => (w', onOk r (.ret none))

/-- `conf[key]` on the entry of the VM `name`, read before going on with `k`: a missing key
raises `KeyError`. -/
def confKey (name key : String) (has : VmConf → Bool) (k : Out) : Out :=
  match h.vmConfs.lookup name with
  | some conf => if has conf then k else .raise (.keyError key)
  | none => .raise (.keyError name)

/-- One step of `get_vm(name)` waiting at `pc`: it clones the dataset named after the VM, reads
`conf["memory"]` for `VM(...)`, lists the clone, reads `conf["net"]`, boots, and appends the VM
to `Host.vms`. -/
def getVmStep (w : World σ) (env : Env) (name : String) : GetVmPc → Option (World σ × Out)
  | .build => none
  | .clone rnd =>
    (h.storageCmd w (h.storage.clone name rnd) env.proc false true).map fun (w', r) =>
      (w', onOk r (h.confKey name "memory" (·.memory.isSome)
        (.goto (.getVm name (.listFiles rnd env.rnd)))))
  | .listFiles rnd vm =>
    (h.externalCmd w (h.storage.listFiles rnd) env.proc true true).map fun (w', r) =>
      (w', onOk r (h.confKey name "net" (·.net.isSome)
        (.goto (.getVm name (.bootCopy rnd vm (confPath env.rnd))))))
  | .bootCopy rnd vm conf =>
    (h.externalCmd w ("cat > " ++ conf) env.proc false true).map fun (w', r) =>
      (w', onOk r (.goto (.getVm name (.bootCreate rnd vm conf))))
  | .bootCreate rnd vm conf =>
    (h.externalCmd w s!"virsh create {conf}; rm {conf}" env.proc false true).map fun (w', r) =>
      match r with
      | .error e => (w', .raise e)
      | .ok _ => ({ w' with vms := w'.vms ++ [⟨vm, rnd⟩] }, .ret (some ⟨vm, rnd⟩))

/-- One step of a frame. -/
def frameStep (w : World σ) (env : Env) : Frame → Option (World σ × Out)
  | .build name pc => h.buildStep w env name pc
  | .getVm name pc => h.getVmStep w env name pc

/-- The task `get_vm(name)`: `config["vms"][name]` and its `image` are looked up before
`build_image` runs. -/
def getVm (name : String) : Task :=
  match h.vmConfs.lookup name with
  | none => .done (.error (.keyError name))
  | some conf =>
    match conf.image with
    | none => .done (.error (.keyError "image"))
    | some image => .run [.build image .acquire, .getVm name .build]

end Host

/-- The task `build_image(name)` before its first step. -/
def Task.buildImage (name : String) : Task := .run [.build name .acquire]

/-- A caller frame taking back control from a child that returned: `get_vm` draws the name of
its dataset before it clones. -/
def Frame.resume (rnd : String) : Frame → Frame
  | .build n (.parent p) => .build n (.clone p)
  | .getVm n .build => .getVm n (.clone rnd)
  | fr => fr

/-- The task a frame's outcome leaves, `rest` being the frames below it. -/
def Out.apply (rnd : String) (rest : List Frame) : Out → Task
  | .goto fr => .run (fr :: rest)
  | .call child fr => .run (child :: fr :: rest)
  | .ret v =>
    match rest with
    | [] => .done (.ok v)
    | fr :: rest' => .run (fr.resume rnd :: rest')
  | .raise e => .done (.error e)

namespace Host

variable {σ : Type} (h : Host σ)

/-- One step of a task: its top frame runs to its next suspension point. -/
def taskStep (w : World σ) (env : Env) : Task → Option (World σ × Task)
  | .run (fr :: rest) => (h.frameStep w env fr).map fun (w', o) => (w', o.apply env.rnd rest)
  | _ => none

end Host

/-- The tasks of a host and what they share. -/
structure Sys (σ : Type) where
  world : World σ
  tasks : List Task
  deriving DecidableEq, Repr

namespace Host

variable {σ : Type} (h : Host σ)

/-- The scheduler resumes task `i` in the environment `env`. -/
def step (s : Sys σ) (i : Nat) (env : Env) : Option (Sys σ) :=
  match s.tasks[i]? with
  | none => none
  | some t => (h.taskStep s.world env t).map fun (w', t') => ⟨w', s.tasks.set i t'⟩

/-- A task run with no other task, one environment per step, until its call ends; `none` when
the environments run out first or admit no step. -/
def runAlone : World σ → Task → List Env → Option (World σ × Except PyErr (Option VmRec))
  | w, .done r, _ => some (w, r)
  | _, .run _, [] => none
  | w, .run stack, env :: envs =>
    (h.taskStep w env (.run stack)).bind fun (w', t') => runAlone w' t' envs

/-- A schedule: which task runs at each step, in which environment. -/
def run : Sys σ → List (Nat × Env) → Option (Sys σ)
  | s, [] => some s
  | s, (i, env) :: rest => (h.step s i env).bind fun s' => run s' rest

end Host
end RallyCI

namespace RallyCI.Host

variable {σ : Type} (h : Host σ) {w w' : World σ} {env : Env}

theorem storageCmd_eq_some {c : Cmd σ} {p : Proc} {ro re : Bool} {r : Except PyErr RunResult} :
    h.storageCmd w c p ro re = some (w', r) ↔
      p.agrees (c.exec w.fs).1 ∧ w' = { w with fs := (c.exec w.fs).2 } ∧
        r = h.ssh.run AsyncSSH.defaultCb c.text ro true re p := by
  unfold storageCmd
  split
  · simp only [Option.some.injEq, Prod.mk.injEq, true_and, *]
    constructor <;> rintro ⟨rfl, rfl⟩ <;> exact ⟨rfl, rfl⟩
  · simp [*]

theorem storageCmd_of_agrees {c : Cmd σ} {p : Proc} {ro re : Bool} (ha : p.agrees (c.exec w.fs).1) :
    h.storageCmd w c p ro re =
      some ({ w with fs := (c.exec w.fs).2 }, h.ssh.run AsyncSSH.defaultCb c.text ro true re p) := by
  simp [storageCmd, ha]

theorem externalCmd_eq_some {text : String} {p : Proc} {ro re : Bool} {r : Except PyErr RunResult} :
    h.externalCmd w text p ro re = some (w', r) ↔
      p.wf ∧ w' = w ∧ r = h.ssh.run AsyncSSH.defaultCb text ro true re p := by
  unfold externalCmd
  split
  · simp only [Option.some.injEq, Prod.mk.injEq, true_and, *]
    constructor <;> rintro ⟨rfl, rfl⟩ <;> exact ⟨rfl, rfl⟩
  · simp [*]

theorem externalCmd_of_wf {text : String} {p : Proc} {ro re : Bool} (hw : p.wf) :
    h.externalCmd w text p ro re = some (w, h.ssh.run AsyncSSH.defaultCb text ro true re p) := by
  simp [externalCmd, hw]

/-- A storage command observed cleanly returns normally only when it exited `0`. -/
theorem storageCmd_clean_ok {c : Cmd σ} {p : Proc} {x : RunResult} (hp : p.clean)
    (hs : h.storageCmd w c p false true = some (w', .ok x)) :
    (c.exec w.fs).1 = 0 ∧ w'.fs = (c.exec w.fs).2 := by
  obtain ⟨ha, rfl, hr⟩ := h.storageCmd_eq_some.1 hs
  refine ⟨by_contra fun h0 => ?_, rfl⟩
  obtain ⟨e, he⟩ : ∃ e, h.ssh.run AsyncSSH.defaultCb c.text false true true p = .error e :=
    AsyncSSH.run_clean_fail hp ha h0
  cases hr.trans he

theorem storageCmd_locks {c : Cmd σ} {p : Proc} {ro re : Bool} {r : Except PyErr RunResult}
    (hs : h.storageCmd w c p ro re = some (w', r)) : w'.locks = w.locks ∧ w'.vms = w.vms := by
  unfold storageCmd at hs
  split at hs <;> simp only [Option.some.injEq, Prod.mk.injEq, reduceCtorEq] at hs
  rw [← hs.1]; exact ⟨rfl, rfl⟩

theorem externalCmd_eq {text : String} {p : Proc} {ro re : Bool} {r : Except PyErr RunResult}
    (hs : h.externalCmd w text p ro re = some (w', r)) : w' = w := by
  unfold externalCmd at hs
  split at hs <;> simp only [Option.some.injEq, Prod.mk.injEq, reduceCtorEq] at hs
  exact hs.1.symm

/-- Reading a key of the VM's entry goes on with `k` or raises, so it keeps what both keep. -/
theorem confKey_of (P : Out → Prop) {name key : String} {has : VmConf → Bool} {k : Out}
    (hk : P k) (hr : ∀ e, P (.raise e)) : P (h.confKey name key has k) := by
  unfold confKey
  split
  · split
    · exact hk
    · exact hr _
  · exact hr _

/-- `get_vm(name)` raises at once, or builds the image of the VM's entry first. -/
theorem getVm_cases (name : String) : (∃ e, h.getVm name = .done (.error e)) ∨
    ∃ conf image, h.vmConfs.lookup name = some conf ∧ conf.image = some image ∧
      h.getVm name = .run [.build image .acquire, .getVm name .build] := by
  unfold getVm
  split
  · exact .inl ⟨_, rfl⟩
  · split
    · exact .inl ⟨_, rfl⟩
    · exact .inr ⟨_, _, ‹_›, ‹_›, rfl⟩

theorem runAlone_done (w : World σ) (r : Except PyErr (Option VmRec)) (envs : List Env) :
    h.runAlone w (.done r) envs = some (w, r) := by
  cases envs <;> rfl

/-- What every step in the run's environments keeps, a task run alone keeps to its end. -/
theorem runAlone_inv (P : World σ → Task → Prop) {envs : List Env}
    (hstep : ∀ env ∈ envs, ∀ w t w' t', P w t → h.taskStep w env t = some (w', t') → P w' t')
    {t : Task} {r : Except PyErr (Option VmRec)} (hP : P w t)
    (hs : h.runAlone w t envs = some (w', r)) : P w' (.done r) := by
  induction envs generalizing w t with
  | nil =>
    cases t with
    | run stack => cases hs
    | done r' =>
      obtain ⟨rfl, rfl⟩ := Prod.mk.inj (Option.some.inj hs)
      exact hP
  | cons env envs ih =>
    cases t with
    | run stack =>
      obtain ⟨⟨w1, t1⟩, h1, h2⟩ := Option.bind_eq_some.1 hs
      exact ih (fun e he => hstep e (List.mem_cons_of_mem _ he))
        (hstep env (List.mem_cons_self _ _) _ _ _ _ hP h1) h2
    | done r' =>
      obtain ⟨rfl, rfl⟩ := Prod.mk.inj (Option.some.inj hs)
      exact hP

end RallyCI.Host
