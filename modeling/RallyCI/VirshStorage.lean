import RallyCI.AsyncSSHRun

/-! The two storage backends of `rallyci/providers/virsh.py`, `ZFS` and `BTRFS`: the command
lines they send and what those commands do to the host's filesystem. -/
namespace RallyCI

/-- A storage command: the command line it sends, and on the host the exit code it ends with
and the filesystem after it. -/
structure Cmd (σ : Type) where
  text : String
  exec : σ → Int × σ

/-- The capability set `Host` calls on its storage; `snapshot` is `none` where it sends no
command. -/
structure Backend (σ : Type) where
  create : String → Cmd σ
  clone : String → String → Cmd σ
  snapshot : String → Option (Cmd σ)
  exist : String → Cmd σ
  destroy : String → Cmd σ
  listFiles : String → String
  wget : String → String → String
  resize : String → String

/-- The exit code of a refused storage command. -/
def failCode : Int := 1

/-- A command that succeeds, changing the filesystem by `f`, exactly when `ok` holds. -/
def Cmd.guarded {σ : Type} (text : String) (ok : σ → Bool) (f : σ → σ) : Cmd σ :=
  ⟨text, fun s => if ok s then (0, f s) else (failCode, s)⟩

@[simp] theorem Cmd.guarded_exec {σ : Type} (text : String) (ok : σ → Bool) (f : σ → σ) (s : σ) :
    (Cmd.guarded text ok f).exec s = if ok s then (0, f s) else (failCode, s) := rfl

/-- A ZFS pool: the datasets under `dataset`, and those with the snapshot `@1`. -/
structure ZfsPool where
  datasets : List String
  snaps : List String
  deriving DecidableEq, Repr

/-- What lies under the BTRFS `path`: its subvolumes, its plain directories, and the entries one
level inside them, as `(entry, child, child is a subvolume)`. Names are single path components. -/
structure BtrfsVols where
  vols : List String
  dirs : List String := []
  inner : List (String × String × Bool) := []
  deriving DecidableEq, Repr

namespace ZFS

/-- `ZFS.create`. -/
def create (dataset name : String) : Cmd ZfsPool :=
  .guarded s!"zfs create {dataset}/{name}" (fun z => name ∉ z.datasets)
    fun z => { z with datasets := name :: z.datasets }

/-- `ZFS.clone`: a clone of the snapshot `src@1`. -/
def clone (dataset src dst : String) : Cmd ZfsPool :=
  .guarded s!"zfs clone {dataset}/{src}@1 {dataset}/{dst}"
    (fun z => src ∈ z.snaps ∧ dst ∉ z.datasets) fun z => { z with datasets := dst :: z.datasets }

/-- `ZFS.snapshot` with its default snapshot name `1`. -/
def snapshot (dataset name : String) : Cmd ZfsPool :=
  .guarded s!"zfs snapshot {dataset}/{name}@1" (fun z => name ∈ z.datasets ∧ name ∉ z.snaps)
    fun z => { z with snaps := name :: z.snaps }

/-- `ZFS.exist`: lists the snapshot `name@1`, so a dataset without it reads as absent. -/
def exist (dataset name : String) : Cmd ZfsPool :=
  .guarded s!"zfs list {dataset}/{name}@1" (fun z => name ∈ z.snaps) id

theorem exist_exec_fs (dataset name : String) (z : ZfsPool) :
    ((exist dataset name).exec z).2 = z := by
  simp only [exist, Cmd.guarded_exec]; split <;> rfl

/-- `ZFS.destroy`: without `-r` a dataset that has a snapshot is refused. -/
def destroy (dataset name : String) : Cmd ZfsPool :=
  .guarded s!"zfs destroy {dataset}/{name}" (fun z => name ∈ z.datasets ∧ name ∉ z.snaps)
    fun z => { z with datasets := z.datasets.erase name }

/-- The `ZFS` backend over the dataset `dataset`. -/
def backend (dataset : String) : Backend ZfsPool where
  create := create dataset
  clone := clone dataset
  snapshot name := some (snapshot dataset name)
  exist := exist dataset
  destroy := destroy dataset
  listFiles name := s!"ls /{dataset}/{name}"
  wget name url := s!"wget {url} -O /{dataset}/{name}/vda.qcow2"
  resize name := s!"qemu-img resize /{dataset}/{name}/vda.qcow2 32G"

end ZFS

namespace BTRFS

/-- `BTRFS.create`: refused when anything stands at the path. -/
def create (path name : String) : Cmd BtrfsVols :=
  .guarded s!"btrfs subvolume create {path}/{name}" (fun b => name ∉ b.vols ∧ name ∉ b.dirs)
    fun b => { b with vols := name :: b.vols }

theorem subset_create_exec (path name : String) (b : BtrfsVols) :
    b.vols ⊆ ((create path name).exec b).2.vols := by
  by_cases hn : name ∉ b.vols ∧ name ∉ b.dirs <;> simp [create, hn]

/-- `create` leaves `name` a subvolume, whether it made it or found it, unless a plain
directory stands there. -/
theorem mem_create_exec (path name : String) (b : BtrfsVols) (hd : name ∉ b.dirs) :
    name ∈ ((create path name).exec b).2.vols := by
  by_cases hn : name ∈ b.vols <;> simp [create, hn, hd]

/-- The snapshot of `src` put at `dst/src`, inside the directory `dst`. -/
def nest (b : BtrfsVols) (dst src : String) : BtrfsVols :=
  { b with inner := (dst, src, true) :: b.inner }

/-- The snapshot of `src` made the new subvolume `dst`, holding `src`'s entries, a nested
subvolume as an empty directory. -/
def snap (b : BtrfsVols) (src dst : String) : BtrfsVols :=
  { b with vols := dst :: b.vols,
           inner := (b.inner.filter fun e => e.1 = src).map (fun e => (dst, e.2.1, false)) ++ b.inner }

@[simp] theorem nest_vols (b : BtrfsVols) (dst src : String) : (nest b dst src).vols = b.vols := rfl
@[simp] theorem nest_dirs (b : BtrfsVols) (dst src : String) : (nest b dst src).dirs = b.dirs := rfl
@[simp] theorem snap_vols (b : BtrfsVols) (src dst : String) : (snap b src dst).vols = dst :: b.vols :=
  rfl
@[simp] theorem snap_dirs (b : BtrfsVols) (src dst : String) : (snap b src dst).dirs = b.dirs := rfl

/-- `BTRFS.clone`: `btrfs subvolume snapshot` of the subvolume `src`. Into a directory that
exists, a subvolume or not, it puts the snapshot at `dst/src`, and fails only when that exists;
otherwise the snapshot is the new subvolume `dst`. -/
def clone (path src dst : String) : Cmd BtrfsVols :=
  ⟨s!"btrfs subvolume snapshot {path}/{src} {path}/{dst}", fun b =>
    if src ∉ b.vols then (failCode, b)
    else if dst ∈ b.vols ∨ dst ∈ b.dirs then
      if (b.inner.find? fun e => e.1 = dst ∧ e.2.1 = src).isSome then (failCode, b)
      else (0, nest b dst src)
    else (0, snap b src dst)⟩

theorem clone_exec_fresh (path src dst : String) {b : BtrfsVols} (hs : src ∈ b.vols)
    (hv : dst ∉ b.vols) (hd : dst ∉ b.dirs) :
    (clone path src dst).exec b = (0, snap b src dst) := by
  simp [clone, hs, hv, hd]

/-- A snapshot that succeeds leaves every subvolume and plain directory in place, and `dst` a
subvolume unless it was a plain directory. -/
theorem clone_exec_ok (path src dst : String) {b : BtrfsVols}
    (h0 : ((clone path src dst).exec b).1 = 0) :
    b.vols ⊆ ((clone path src dst).exec b).2.vols ∧ ((clone path src dst).exec b).2.dirs = b.dirs ∧
      (dst ∉ b.dirs → dst ∈ ((clone path src dst).exec b).2.vols) := by
  simp only [clone] at h0 ⊢
  split_ifs at h0 ⊢ with _ h2
  all_goals simp_all [failCode]
  exact fun hd => h2.resolve_right hd

/-- `BTRFS.exist`. -/
def exist (path name : String) : Cmd BtrfsVols :=
  .guarded s!"btrfs subvolume show {path}/{name}" (fun b => name ∈ b.vols) id

theorem exist_exec_fs (path name : String) (b : BtrfsVols) : ((exist path name).exec b).2 = b := by
  simp only [exist, Cmd.guarded_exec]; split <;> rfl

/-- `BTRFS.destroy`: a subvolume that holds a nested subvolume is refused (`ENOTEMPTY`). -/
def destroy (path name : String) : Cmd BtrfsVols :=
  .guarded s!"btrfs subvolume delete {path}/{name}"
    (fun b => name ∈ b.vols ∧ (b.inner.find? fun e => e.1 = name ∧ e.2.2).isNone)
    fun b => { b with vols := b.vols.erase name, inner := b.inner.filter fun e => e.1 ≠ name }

/-- The `BTRFS` backend under `path`; `snapshot` only yields to the loop. -/
def backend (path : String) : Backend BtrfsVols where
  create := create path
  clone := clone path
  snapshot _ := none
  exist := exist path
  destroy := destroy path
  listFiles name := s!"ls {path}/{name}"
  wget name url := s!"wget {url} -O /{path}/{name}/vda.qcow2 2> /dev/null"
  resize name := s!"qemu-img resize /{path}/{name}/vda.qcow2 32G"

theorem dirs_create (path name : String) (b : BtrfsVols) : ((create path name).exec b).2.dirs = b.dirs := by
  simp only [create, Cmd.guarded_exec]; split <;> rfl

theorem dirs_clone (path src dst : String) (b : BtrfsVols) :
    ((clone path src dst).exec b).2.dirs = b.dirs := by
  simp only [clone]; split_ifs <;> rfl

theorem dirs_destroy (path name : String) (b : BtrfsVols) :
    ((destroy path name).exec b).2.dirs = b.dirs := by
  simp only [destroy, Cmd.guarded_exec]; split <;> rfl

end BTRFS

/-- What `exist` returns for the probe's observed child: `not error`, the returned
`returncode` (`raise_on_error=False`). -/
def existAnswer (r : Except PyErr RunResult) : Except PyErr Bool :=
  match r with
  | .error e => .error e
  | .ok (.code rc) => .ok !(AsyncSSH.truthy rc)
  | .ok (.text _) => .ok false

/-- The probe reports present for every exit code once the exit was not reaped at EOF: only
an observed nonzero code reads as absent. -/
theorem existAnswer_run (ssh : AsyncSSH) (cb : Bytes → Except PyErr Unit) (cmd : String)
    (p : Proc) (hcb : ∀ l, p.line = some l → cb l = .ok ()) :
    existAnswer (ssh.run cb cmd false true false p) =
      .ok (decide (p.returncode = none ∨ p.returncode = some 0)) := by
  rw [AsyncSSH.run_returns_returncode ssh cb cmd true p hcb]
  cases h : p.returncode with
  | none => rfl
  | some c => by_cases hc : c = 0 <;> simp [existAnswer, AsyncSSH.truthy, hc]

theorem BTRFS.existAnswer_exec (path name : String) (b : BtrfsVols) :
    existAnswer (.ok (.code (some ((BTRFS.exist path name).exec b).1))) = .ok (decide (name ∈ b.vols)) := by
  by_cases hn : name ∈ b.vols <;> simp [BTRFS.exist, existAnswer, AsyncSSH.truthy, hn, failCode]

end RallyCI
