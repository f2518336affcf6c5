import RallyCI.VirshProvider
import RallyCI.VirshImageLocks

/-! Single calls of `Host.build_image` and `Host.get_vm` run with no other task on a host:
what a failure leaves on the storage, what `get_vm` clones, and, on BTRFS, that a call which
returns normally has done its work. -/
namespace RallyCI

/-- The host with its storage on the ZFS dataset `dataset`. -/
def Host.zfs {σ : Type} (h : Host σ) (dataset : String) : Host ZfsPool :=
  { h with storage := ZFS.backend dataset }

/-- The host with its storage on BTRFS under `path`, as `Host.__init__` builds it. -/
def Host.btrfs {σ : Type} (h : Host σ) (path : String) : Host BtrfsVols :=
  { h with storage := BTRFS.backend path }

/-- A call made on the host. -/
inductive Call where
  | buildImage (name : String)
  | getVm (name : String)
  deriving DecidableEq, Repr

/-- The name a call is made with. -/
def Call.name : Call → String
  | .buildImage n => n
  | .getVm n => n

/-- The task a call starts. -/
def Call.task {σ : Type} (h : Host σ) : Call → Task
  | .buildImage n => Task.buildImage n
  | .getVm n => h.getVm n

namespace Host

variable {σ : Type} (h : Host σ) (dataset path : String)

@[simp] theorem zfs_ssh : (h.zfs dataset).ssh = h.ssh := rfl
@[simp] theorem zfs_storage : (h.zfs dataset).storage = ZFS.backend dataset := rfl
@[simp] theorem btrfs_ssh : (h.btrfs path).ssh = h.ssh := rfl
@[simp] theorem btrfs_storage : (h.btrfs path).storage = BTRFS.backend path := rfl
@[simp] theorem zfs_probeOut : (h.zfs dataset).probeOut = h.probeOut := rfl
@[simp] theorem btrfs_probeOut : (h.btrfs path).probeOut = h.probeOut := rfl
@[simp] theorem zfs_afterClone : (h.zfs dataset).afterClone = h.afterClone := rfl
@[simp] theorem btrfs_afterClone : (h.btrfs path).afterClone = h.afterClone := rfl
@[simp] theorem zfs_confKey : (h.zfs dataset).confKey = h.confKey := rfl
@[simp] theorem btrfs_confKey : (h.btrfs path).confKey = h.confKey := rfl

end Host

theorem mem_of_lookup {α : Type} {l : List (String × α)} {k : String} {a : α}
    (hl : l.lookup k = some a) : (k, a) ∈ l := by
  obtain ⟨l₁, l₂, rfl, -⟩ := List.lookup_eq_some_iff.1 hl
  simp

/-- A host whose image `base` is downloaded. -/
def urlHost : Host BtrfsVols where
  ssh := ⟨"root", "hv1", none, "22"⟩
  storage := BTRFS.backend "/srv"
  images := [("base", { url := some "http://images/base.qcow2" })]

/-- A download whose `wget` exits 8 after `create` made the subvolume: `build_image("base")`
raises with `base` left on the host, and a retry returns at its probe on that half-built
dataset. -/
theorem build_image_failed_download_keeps_dataset :
    urlHost.runAlone { fs := { vols := [] } } (Task.buildImage "base")
        [{}, absentProbe, {}, { proc := { returncode := some 8 } }] =
      some ({ fs := { vols := ["base"] } }, .error (.sshError (AsyncSSH.failMsg
        (urlHost.ssh.cmd ((BTRFS.backend "/srv").wget "base" "http://images/base.qcow2")) 8))) ∧
    urlHost.runAlone { fs := { vols := ["base"] } } (Task.buildImage "base") [{}, {}] =
      some ({ fs := { vols := ["base"] } }, .ok none) := by
  decide

/-- `get_vm("worker")` on an empty host builds `worker`'s image `base`, then clones the dataset
named `worker`, which does not exist: the clone fails and no VM is returned. -/
theorem get_vm_clones_vm_name :
    workerHost.runAlone { fs := { vols := [] } } (workerHost.getVm "worker")
        [{}, absentProbe, {}, {}, {}, { proc := { returncode := some 1 } }] =
      some ({ fs := { vols := ["base"] } }, .error (.sshError (AsyncSSH.failMsg
        (workerHost.ssh.cmd ((BTRFS.clone "/srv" "worker" "r").text)) 1))) := by
  decide

/-! ### A call run alone on BTRFS keeps its promise -/

/-- Every configured image has something to build it from or with: a parent, a url or build
scripts. An image with none of them is snapshotted without ever being made. -/
def Host.Sourced {σ : Type} (h : Host σ) : Prop :=
  ∀ e ∈ h.images, truthyStr e.2.parent ≠ none ∨ truthyStr e.2.url ≠ none ∨ e.2.buildScripts ≠ []

/-- What a call has done when it returns `v` normally: `build_image(name)` leaves `name` a
subvolume, and `get_vm` returns a VM of `Host.vms` whose clone is a subvolume. -/
def Call.Promise (c : Call) (w : World BtrfsVols) (v : Option VmRec) : Prop :=
  match c with
  | .buildImage n => n ∈ w.fs.vols
  | .getVm _ => ∀ vm, v = some vm → vm.storageName ∈ w.fs.vols ∧ vm ∈ w.vms

/-- The call a frame is part of. -/
def Frame.call : Frame → Call
  | .build n _ => .buildImage n
  | .getVm n _ => .getVm n

/-- Every subvolume of `b` is still there, and the plain directories are as they were. -/
def BtrfsVols.Grown (b b' : BtrfsVols) : Prop := b.vols ⊆ b'.vols ∧ b'.dirs = b.dirs

theorem BtrfsVols.Grown.refl (b : BtrfsVols) : b.Grown b := ⟨List.Subset.refl _, rfl⟩

theorem BtrfsVols.Grown.trans {b₁ b₂ b₃ : BtrfsVols} (h₁ : b₁.Grown b₂) (h₂ : b₂.Grown b₃) :
    b₁.Grown b₃ :=
  ⟨h₁.1.trans h₂.1, h₂.2.trans h₁.2⟩

/-- What the top frame of a call run alone on BTRFS keeps: a build about to make or clone its
subvolume, or waiting to, finds no plain directory at its name, and so does a `get_vm` about to
clone; a build past its `create` or its clone has its subvolume, a `get_vm` past its clone has
the clone, and a build VM's frames have a script still to run, so the shutdown path is not
reached. -/
def Frame.Holds {σ : Type} (h : Host σ) (b : BtrfsVols) : Frame → Prop
  | .build n (.parent _) => n ∉ b.dirs
  | .build n (.clone _) => n ∉ b.dirs
  | .build n (.create _) => n ∉ b.dirs
  | .build n (.wget _) => n ∈ b.vols
  | .build n .resize => n ∈ b.vols
  | .build n .settle => n ∈ b.vols
  | .build n .snapshot => n ∈ b.vols
  | .build n (.listFiles _) => h.buildScripts n ≠ []
  | .build n (.bootCopy _ _) => h.buildScripts n ≠ []
  | .build n (.bootCreate _ _) => h.buildScripts n ≠ []
  | .build _ (.script _ rest) => rest ≠ []
  | .build _ (.shutdownPoll _) => False
  | .build _ (.forceVirsh _) => False
  | .build _ (.forceStorage _) => False
  | .getVm _ (.clone rnd) => rnd ∉ b.dirs
  | .getVm _ (.listFiles rnd _) => rnd ∈ b.vols
  | .getVm _ (.bootCopy rnd _ _) => rnd ∈ b.vols
  | .getVm _ (.bootCreate rnd _ _) => rnd ∈ b.vols
  | _ => True

/-- A step's outcome that keeps a call of `c` on course from the filesystem `b` it started
with: unless it raises, it removed no subvolume and no plain directory came or went; the frame
it goes on with holds, a child is a build started at its lock under a waiting caller that
holds, and a return keeps `c`'s promise. -/
def Out.Keeps {σ : Type} (h : Host σ) (c : Call) (b : BtrfsVols) (w : World BtrfsVols) :
    Out → Prop
  | .goto fr => b.Grown w.fs ∧ fr.call = c ∧ fr.Holds h w.fs
  | .call child fr =>
    b.Grown w.fs ∧ (∃ p, child = .build p .acquire) ∧ fr.Waiting ∧ fr.Holds h w.fs ∧ fr.call = c
  | .ret v => b.Grown w.fs ∧ c.Promise w v
  | .raise _ => True

/-- A task of the call `c` run alone on BTRFS from the filesystem `b`: it has only grown, its
frames hold, the frames below the top wait, and the bottom one is `c`'s own; once it has
returned normally, `c`'s promise is kept. -/
def Task.Keeps {σ : Type} (h : Host σ) (c : Call) (b : BtrfsVols) (w : World BtrfsVols) :
    Task → Prop
  | .run [] => False
  | .run (fr :: rest) =>
    b.Grown w.fs ∧ fr.Holds h w.fs ∧ (∀ g ∈ rest, g.Waiting ∧ g.Holds h w.fs) ∧
      (rest.getLastD fr).call = c
  | .done (.ok v) => b.Grown w.fs ∧ c.Promise w v
  | .done (.error _) => True

theorem Frame.call_resume (g : Frame) (rnd : String) : (g.resume rnd).call = g.call := by
  cases g with
  | build n pc => cases pc <;> rfl
  | getVm n pc => cases pc <;> rfl

theorem Frame.call_getLastD {rest : List Frame} {fr fr' : Frame} (he : fr'.call = fr.call) :
    (rest.getLastD fr').call = (rest.getLastD fr).call := by
  cases rest
  · exact he
  · rfl

section Alone

variable {σ : Type} (h : Host σ) (path : String) {w w' : World BtrfsVols} {env : Env} {o : Out}

theorem Frame.waiting_holds_of_dirs {rest : List Frame} {b b' : BtrfsVols} (hd : b'.dirs = b.dirs)
    (hr : ∀ g ∈ rest, g.Waiting ∧ g.Holds h b) : ∀ g ∈ rest, g.Waiting ∧ g.Holds h b' := by
  intro g hg
  obtain ⟨hw, hh⟩ := hr g hg
  refine ⟨hw, ?_⟩
  cases g with
  | build n pc => cases pc <;> first | exact hw.elim | exact show n ∉ b'.dirs from hd ▸ hh
  | getVm n pc => cases pc <;> first | exact hw.elim | trivial

theorem Frame.holds_resume {g : Frame} {b : BtrfsVols} (hg : g.Holds h b) {rnd : String}
    (hr : rnd ∉ b.dirs) : (g.resume rnd).Holds h b := by
  cases g with
  | build n pc => cases pc <;> exact hg
  | getVm n pc => cases pc <;> first | exact hr | exact hg

theorem Host.onOk_keeps {c : Call} {b : BtrfsVols} {r : Except PyErr RunResult} {k : Out}
    (hk : k.Keeps h c b w) : (Host.onOk r k).Keeps h c b w := by
  cases r
  · trivial
  · exact hk

/-- With every image sourced and no plain directory at a configured image's name, the build
after a probe that found nothing calls the parent's build, downloads, or boots a build VM with
scripts to run. -/
theorem Host.afterProbe_keeps (hsrc : h.Sourced) (hdirs : ∀ e ∈ h.images, e.1 ∉ w.fs.dirs)
    {b : BtrfsVols} (hb : b.Grown w.fs) (n rnd : String) :
    (h.afterProbe n rnd).Keeps h (.buildImage n) b w := by
  unfold Host.afterProbe
  split
  · trivial
  next conf hconf =>
    have hs := hsrc _ (mem_of_lookup hconf)
    have hn : n ∉ w.fs.dirs := hdirs _ (mem_of_lookup hconf)
    split
    · exact ⟨hb, ⟨_, rfl⟩, trivial, hn, rfl⟩
    next hpar =>
      split
      · exact ⟨hb, rfl, hn⟩
      next hurl =>
        split
        next hs' => exact absurd hs' (by simpa [hpar, hurl] using hs)
        next hs' =>
          exact ⟨hb, rfl, show h.buildScripts n ≠ [] by simpa [Host.buildScripts, hconf] using hs'⟩

theorem Host.afterClone_keeps {b : BtrfsVols} {n rnd : String} (hb : b.Grown w.fs)
    (hn : n ∈ w.fs.vols) : (h.afterClone n rnd).Keeps h (.buildImage n) b w := by
  unfold Host.afterClone
  split
  · exact ⟨hb, rfl, hn⟩
  · exact ⟨hb, rfl, ‹_›⟩

/-- A snapshot observed cleanly that returns normally has grown the filesystem, and made its
target a subvolume unless a plain directory stood there. -/
theorem btrfs_clone_ok {src dst : String} {p : Proc} {x : RunResult} (hp : p.clean)
    (hs : (h.btrfs path).storageCmd w (BTRFS.clone path src dst) p false true = some (w', .ok x)) :
    w.fs.Grown w'.fs ∧ (dst ∉ w.fs.dirs → dst ∈ w'.fs.vols) := by
  obtain ⟨h0, hw⟩ := (h.btrfs path).storageCmd_clean_ok hp hs
  obtain ⟨hsub, hd, hmem⟩ := BTRFS.clone_exec_ok path src dst h0
  rw [hw]
  exact ⟨⟨hsub, hd⟩, hmem⟩

/-- One step of a frame that holds, taken on BTRFS and observed cleanly, keeps its call on
course. -/
theorem frameStep_keeps (hsrc : h.Sourced) (hdirs : ∀ e ∈ h.images, e.1 ∉ w.fs.dirs)
    (hp : env.proc.clean) {fr : Frame} (hf : fr.Holds h w.fs)
    (hs : (h.btrfs path).frameStep w env fr = some (w', o)) : o.Keeps h fr.call w.fs w' := by
  cases fr with
  | build n pc =>
    cases pc
    case acquire =>
      simp only [Host.frameStep, Host.buildStep] at hs
      split at hs <;> cases hs
      exact ⟨.refl _, rfl, trivial⟩
    case probe =>
      obtain ⟨⟨w1, r⟩, hc, he⟩ := Option.map_eq_some'.1 hs
      obtain ⟨ha, rfl, rfl⟩ := (Host.storageCmd_eq_some _).1 hc
      obtain ⟨rfl, rfl⟩ := Prod.mk.inj he
      rw [AsyncSSH.run_clean_code hp ha]
      simp only [Host.btrfs_storage, BTRFS.backend, BTRFS.existAnswer_exec, Host.btrfs_probeOut,
        BTRFS.exist_exec_fs]
      by_cases hn : n ∈ w.fs.vols
      · simp only [hn, decide_True, Host.probeOut]
        exact ⟨.refl _, hn⟩
      · simpa [Host.probeOut, hn] using h.afterProbe_keeps hsrc hdirs (.refl _) n env.rnd
    case parent => cases hs
    case clone p =>
      obtain ⟨⟨w1, r⟩, hc, he⟩ := Option.map_eq_some'.1 hs
      obtain ⟨rfl, rfl⟩ := Prod.mk.inj he
      cases r with
      | error e => trivial
      | ok x =>
        obtain ⟨hg, hn⟩ := btrfs_clone_ok h path hp hc
        rw [Host.btrfs_afterClone]
        exact h.afterClone_keeps hg (hn hf)
    case create u =>
      obtain ⟨⟨w1, r⟩, hc, he⟩ := Option.map_eq_some'.1 hs
      obtain ⟨-, rfl, -⟩ := (Host.storageCmd_eq_some _).1 hc
      obtain ⟨rfl, rfl⟩ := Prod.mk.inj he
      exact h.onOk_keeps ⟨⟨BTRFS.subset_create_exec path n w.fs, BTRFS.dirs_create path n w.fs⟩,
        rfl, BTRFS.mem_create_exec path n w.fs hf⟩
    case script vm rest =>
      cases rest with
      | nil => exact absurd rfl hf
      | cons sn rest =>
        obtain ⟨rfl, rfl⟩ := Prod.mk.inj (Option.some.inj hs)
        split
        · exact ⟨.refl _, rfl, trivial⟩
        next sc _ =>
          obtain ⟨e, he⟩ := VM.runScript_raises env.ip sc [] true none none env.proc
          rw [he]
          exact ⟨.refl _, rfl, trivial⟩
    case cleanStorage e =>
      obtain ⟨⟨w1, r⟩, -, he⟩ := Option.map_eq_some'.1 hs
      obtain ⟨rfl, rfl⟩ := Prod.mk.inj he
      cases r <;> trivial
    case settle =>
      obtain ⟨rfl, rfl⟩ := Prod.mk.inj (Option.some.inj hs)
      exact ⟨.refl _, rfl, hf⟩
    case snapshot =>
      obtain ⟨rfl, rfl⟩ := Prod.mk.inj (Option.some.inj hs)
      exact ⟨.refl _, hf⟩
    case shutdownPoll => exact hf.elim
    case forceVirsh => exact hf.elim
    case forceStorage => exact hf.elim
    all_goals
      obtain ⟨⟨w1, r⟩, hc, he⟩ := Option.map_eq_some'.1 hs
      obtain ⟨-, rfl, -⟩ := (Host.externalCmd_eq_some _).1 hc
      obtain ⟨rfl, rfl⟩ := Prod.mk.inj he
      first
        | exact h.onOk_keeps ⟨.refl _, rfl, hf⟩
        | exact h.onOk_keeps ⟨.refl _, hf⟩
  | getVm n pc =>
    cases pc
    case build => cases hs
    case clone rnd =>
      obtain ⟨⟨w1, r⟩, hc, he⟩ := Option.map_eq_some'.1 hs
      obtain ⟨rfl, rfl⟩ := Prod.mk.inj he
      cases r with
      | error e => trivial
      | ok x =>
        obtain ⟨hg, hn⟩ := btrfs_clone_ok h path hp hc
        exact (h.btrfs path).confKey_of _ ⟨hg, rfl, hn hf⟩ fun _ => trivial
    case bootCreate rnd vm conf =>
      obtain ⟨⟨w1, r⟩, hc, he⟩ := Option.map_eq_some'.1 hs
      obtain ⟨-, rfl, -⟩ := (Host.externalCmd_eq_some _).1 hc
      cases r with
      | error e => obtain ⟨rfl, rfl⟩ := Prod.mk.inj he; trivial
      | ok x =>
        obtain ⟨rfl, rfl⟩ := Prod.mk.inj he
        refine ⟨.refl _, ?_⟩
        rintro _ ⟨⟩
        exact ⟨hf, by simp⟩
    all_goals
      obtain ⟨⟨w1, r⟩, hc, he⟩ := Option.map_eq_some'.1 hs
      obtain ⟨-, rfl, -⟩ := (Host.externalCmd_eq_some _).1 hc
      obtain ⟨rfl, rfl⟩ := Prod.mk.inj he
      refine h.onOk_keeps ?_
      first
        | exact ⟨.refl _, rfl, hf⟩
        | exact (h.btrfs path).confKey_of _ ⟨.refl _, rfl, hf⟩ fun _ => trivial

theorem Out.apply_keeps {c : Call} {b : BtrfsVols} {fr : Frame} {rest : List Frame}
    {w0 : World BtrfsVols} (hb : b.Grown w0.fs) (ho : o.Keeps h fr.call w0.fs w)
    (hr : ∀ g ∈ rest, g.Waiting ∧ g.Holds h w0.fs) (hl : (rest.getLastD fr).call = c)
    {rnd : String} (hrnd : rnd ∉ b.dirs) : (o.apply rnd rest).Keeps h c b w := by
  cases o with
  | goto fr' =>
    exact ⟨hb.trans ho.1, ho.2.2, Frame.waiting_holds_of_dirs h ho.1.2 hr,
      (Frame.call_getLastD ho.2.1).trans hl⟩
  | call child fr' =>
    obtain ⟨hg, ⟨p, rfl⟩, hw, hh, hc⟩ := ho
    refine ⟨hb.trans hg, trivial,
      List.forall_mem_cons.2 ⟨⟨hw, hh⟩, Frame.waiting_holds_of_dirs h hg.2 hr⟩, ?_⟩
    rw [List.getLastD_cons]
    exact (Frame.call_getLastD hc).trans hl
  | ret v =>
    cases rest with
    | nil => exact ⟨hb.trans ho.1, (show fr.call = c from hl) ▸ ho.2⟩
    | cons g rest =>
      rw [List.getLastD_cons] at hl
      have hr' := Frame.waiting_holds_of_dirs h ho.1.2 hr
      have hgh := (hr' g (List.mem_cons_self _ _)).2
      have hd : rnd ∉ w.fs.dirs := by rw [(hb.trans ho.1).2]; exact hrnd
      exact ⟨hb.trans ho.1, Frame.holds_resume h hgh hd,
        fun g' hg' => hr' g' (List.mem_cons_of_mem _ hg'),
        (Frame.call_getLastD (Frame.call_resume g rnd)).trans hl⟩
  | raise e => trivial

theorem taskStep_keeps (hsrc : h.Sourced) {c : Call} {b : BtrfsVols}
    (hdirs : ∀ e ∈ h.images, e.1 ∉ b.dirs) (hp : env.proc.clean) (hrnd : env.rnd ∉ b.dirs)
    {t t' : Task} (ht : t.Keeps h c b w) (hs : (h.btrfs path).taskStep w env t = some (w', t')) :
    t'.Keeps h c b w' := by
  rcases t with (_ | ⟨fr, rest⟩) | r
  · exact ht.elim
  · obtain ⟨⟨w1, o⟩, hf, he⟩ := Option.map_eq_some'.1 hs
    obtain ⟨rfl, rfl⟩ := Prod.mk.inj he
    have hdirs' : ∀ e ∈ h.images, e.1 ∉ w.fs.dirs := ht.1.2 ▸ hdirs
    exact Out.apply_keeps h ht.1 (frameStep_keeps h path hsrc hdirs' hp ht.2.1 hf) ht.2.2.1
      ht.2.2.2 hrnd
  · cases hs

theorem Call.task_keeps (c : Call) (w : World BtrfsVols) :
    (c.task (h.btrfs path)).Keeps h c w.fs w := by
  cases c with
  | buildImage n => exact ⟨.refl _, trivial, fun _ hg => absurd hg (List.not_mem_nil _), rfl⟩
  | getVm n =>
    simp only [Call.task, Host.getVm]
    split
    · trivial
    · split
      · trivial
      · exact ⟨.refl _, trivial, by simp [Frame.Waiting, Frame.Holds], rfl⟩

end Alone

/-- A `build_image` or `get_vm` call run alone on BTRFS that returns normally has done its work
and undone none, when every image has a source, no plain directory stands where a configured
image or a VM's clone is to be made, and every child is observed cleanly: no subvolume it
started with is gone, `build_image(name)` leaves `name` a subvolume, and `get_vm` returns a VM
of `Host.vms` whose clone is a subvolume. -/
theorem call_alone_keeps_promise {σ : Type} (h : Host σ) (path : String) (hsrc : h.Sourced)
    (c : Call) (w : World BtrfsVols) (hdirs : ∀ e ∈ h.images, e.1 ∉ w.fs.dirs) (envs : List Env)
    (henvs : ∀ env ∈ envs, env.proc.clean ∧ env.rnd ∉ w.fs.dirs)
    (w' : World BtrfsVols) (v : Option VmRec)
    (hrun : (h.btrfs path).runAlone w (c.task (h.btrfs path)) envs = some (w', .ok v)) :
    w.fs.vols ⊆ w'.fs.vols ∧ w'.fs.dirs = w.fs.dirs ∧ c.Promise w' v :=
  have hk := (h.btrfs path).runAlone_inv (fun w1 t => t.Keeps h c w.fs w1)
    (fun env he _ _ _ _ ht hs => taskStep_keeps h path hsrc hdirs (henvs env he).1 (henvs env he).2
      ht hs)
    (Call.task_keeps h path c w) hrun
  ⟨hk.1.1, hk.1.2, hk.2⟩

/-- The download of `base` run alone and observed cleanly returns with `base` a subvolume and
`minimal` still there. -/
theorem call_alone_keeps_promise_url :
    (urlHost.btrfs "/srv").runAlone { fs := { vols := ["minimal"] } }
        ((Call.buildImage "base").task (urlHost.btrfs "/srv")) [{}, absentProbe, {}, {}, {}] =
      some ({ fs := { vols := ["base", "minimal"] } }, .ok none) ∧
    ["minimal"] ⊆ ["base", "minimal"] ∧ ([] : List String) = [] ∧
      (Call.buildImage "base").Promise { fs := { vols := ["base", "minimal"] } } none := by
  refine ⟨?hr, call_alone_keeps_promise urlHost "/srv" (by unfold Host.Sourced; decide) _ _
    (by decide) _ (by decide) _ _ ?hr⟩
  decide

end RallyCI
