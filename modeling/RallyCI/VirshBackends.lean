import Mathlib.Data.List.Nodup
import RallyCI.VirshBuildRuns

/-! `ZFS` against `BTRFS` under `Host`'s build and clone protocol. `Host` builds its storage as
`BTRFS`; `ZFS` offers the same calls, with `exist` reading the snapshot `@1` that `clone` needs
and that only `snapshot` makes. Calls are made one after another, each run alone to its end. -/
namespace RallyCI

namespace Host

variable {σ : Type} (h : Host σ)

/-- Calls made one after another, each run alone to its end in its own environments: the
world after the last and what each call returned or raised. -/
def runCalls : World σ → List (Call × List Env) →
    Option (World σ × List (Except PyErr (Option VmRec)))
  | w, [] => some (w, [])
  | w, (c, envs) :: rest =>
    (h.runAlone w (c.task h) envs).bind fun (w', r) =>
      (runCalls w' rest).map fun (w'', rs) => (w'', r :: rs)

end Host

/-- `build_image("base")` of the url image `base` returns normally on both backends in the same
environments, but only BTRFS has it afterwards: the download made the dataset, and nothing made
the snapshot `base@1` that `ZFS.exist` lists. -/
theorem url_image_exists_only_on_btrfs :
    urlHost.runCalls { fs := { vols := [] } } [(.buildImage "base", [{}, absentProbe, {}, {}, {}])] =
      some ({ fs := { vols := ["base"] } }, [.ok none]) ∧
    (urlHost.zfs "tank").runCalls { fs := ⟨[], []⟩ }
        [(.buildImage "base", [{}, absentProbe, {}, {}, {}])] =
      some ({ fs := ⟨["base"], []⟩ }, [.ok none]) ∧
    ((BTRFS.exist "/srv" "base").exec { vols := ["base"] }).1 = 0 ∧
    ((ZFS.exist "tank" "base").exec ⟨["base"], []⟩).1 = failCode := by
  decide

/-- A step's outcome with its exception erased. -/
def Out.erase : Out → Out
  | .raise e => .raise e.erase
  | o => o

/-- A task with the exception it ended with erased. -/
def Task.erase : Task → Task
  | .done r => .done (r.mapError PyErr.erase)
  | t => t

/-- What the comparison asks of the names `K` that the calls probe and clone from: every
configured image among them is a clone of a parent in `K` of lower `rank`, so that no chain of
parents comes back to an image, and has no build scripts; and every VM's image is in `K`. -/
structure Keys {σ : Type} (h : Host σ) (K : List String) (rank : String → ℕ) : Prop where
  parent : ∀ e ∈ h.images, e.1 ∈ K → ∃ p ∈ K, truthyStr e.2.parent = some p ∧ rank p < rank e.1
  scripts : ∀ e ∈ h.images, e.1 ∈ K → e.2.buildScripts = []
  image : ∀ e ∈ h.vmConfs, ∀ i ∈ e.2.image, i ∈ K

/-- The image a frame builds. -/
def Frame.building : Frame → Option String
  | .build n _ => some n
  | .getVm _ _ => none

/-- `a` may stand above `b` in a task: a build waits only for builds of a lower rank. -/
def Frame.Above (rank : String → ℕ) (a b : Frame) : Prop :=
  ∀ m, b.building = some m → ∃ n, a.building = some n ∧ rank n < rank m

/-- What a frame of a run on ZFS keeps, `A` holding the names outside `K` that may be datasets:
the names it probes or clones from are in `K`; a build waiting for its parent or about to clone,
and a `get_vm` about to clone, find no dataset at the target; a frame between its clone and its
snapshot has its dataset, without the snapshot `@1`. Downloads, build VMs and cleanups are not
reached. -/
def Frame.Fits (K A : List String) (z : ZfsPool) : Frame → Prop
  | .build n .acquire => n ∈ K
  | .build n .probe => n ∈ K
  | .build n (.parent p) => n ∈ K ∧ p ∈ K ∧ n ∉ z.datasets
  | .build n (.clone p) => n ∈ K ∧ p ∈ K ∧ n ∉ z.datasets
  | .build n .settle => n ∈ z.datasets ∧ n ∉ z.snaps
  | .build n .snapshot => n ∈ z.datasets ∧ n ∉ z.snaps
  | .build _ _ => False
  | .getVm n .build => n ∈ K
  | .getVm n (.clone rnd) => n ∈ K ∧ rnd ∉ K ∧ rnd ∈ A ∧ rnd ∉ z.datasets
  | .getVm _ _ => True

/-- The dataset a frame has cloned and not yet snapshotted. -/
def Frame.mid : Frame → Option String
  | .build n .settle => some n
  | .build n .snapshot => some n
  | _ => none

/-- A step's outcome, of a frame building `k`, that leaves a fitting task: the frame it goes on
with builds what the step's frame built, and a call starts the build of a parent in `K` of
lower rank. -/
def Out.Fits (K A : List String) (rank : String → ℕ) (z : ZfsPool) (k : Option String) :
    Out → Prop
  | .goto fr => fr.Fits K A z ∧ fr.building = k
  | .call child fr =>
    (∃ p ∈ K, child = .build p .acquire ∧ ∀ n, k = some n → rank p < rank n) ∧ fr.Waiting ∧
      fr.Fits K A z ∧ fr.building = k
  | _ => True

/-- The dataset a step's outcome has cloned and not yet snapshotted. -/
def Out.mid : Out → Option String
  | .goto fr => fr.mid
  | _ => none

/-- A task whose frames fit, whose frames below the top wait for the one above them, and whose
builds are of rising rank from the top down. -/
def Task.Fits (K A : List String) (rank : String → ℕ) (z : ZfsPool) : Task → Prop
  | .run (fr :: rest) =>
    fr.Fits K A z ∧ (∀ g ∈ rest, g.Waiting ∧ g.Fits K A z) ∧ (fr :: rest).Pairwise (Frame.Above rank)
  | _ => True

/-- The dataset a task's top frame has cloned and not yet snapshotted. -/
def Task.mid : Task → Option String
  | .run (fr :: _) => fr.mid
  | _ => none

/-- A ZFS pool and BTRFS subvolumes in step: the same datasets, each once, every snapshot on a
dataset, every dataset of `K` other than `mid` with its snapshot `@1`, and no plain directory
under the BTRFS path. -/
structure Twin (K : List String) (mid : Option String) (z : ZfsPool) (b : BtrfsVols) : Prop where
  nodup : z.datasets.Nodup
  nodup_vols : b.vols.Nodup
  same : ∀ n, n ∈ z.datasets ↔ n ∈ b.vols
  snaps : ∀ n ∈ z.snaps, n ∈ z.datasets
  complete : ∀ n ∈ K, n ∈ z.datasets → mid ≠ some n → n ∈ z.snaps
  flat : b.dirs = []

/-- Two runs of one call, on ZFS and on BTRFS, in step: the same task up to the text of an
`SSHError`, a task that fits, the same locks and VMs, twin storages, and no dataset outside `K`
and `A`. -/
structure Twins (K A : List String) (rank : String → ℕ) (wz : World ZfsPool) (tz : Task)
    (wb : World BtrfsVols) (tb : Task) : Prop where
  task : tz.erase = tb.erase
  fits : tz.Fits K A rank wz.fs
  locks : wz.locks = wb.locks
  vms : wz.vms = wb.vms
  twin : Twin K tz.mid wz.fs wb.fs
  fresh : ∀ m ∈ wz.fs.datasets, m ∈ K ∨ m ∈ A

namespace Twin

variable {K : List String} {mid : Option String} {z : ZfsPool} {b : BtrfsVols} {n : String}

theorem snap_iff (ht : Twin K mid z b) (hn : n ∈ K) (hm : mid ≠ some n) :
    n ∈ z.snaps ↔ n ∈ b.vols :=
  ⟨fun hs => (ht.same n).1 (ht.snaps n hs), fun hv => ht.complete n hn ((ht.same n).2 hv) hm⟩

theorem exist_code (ht : Twin K mid z b) (hn : n ∈ K) (hm : mid ≠ some n) (dataset path : String) :
    ((ZFS.exist dataset n).exec z).1 = ((BTRFS.exist path n).exec b).1 := by
  by_cases hb : n ∈ b.vols <;> simp [ZFS.exist, BTRFS.exist, ht.snap_iff hn hm, hb]

theorem any_mid (ht : Twin K none z b) (mid : Option String) : Twin K mid z b :=
  { ht with complete := fun n hn hz _ => ht.complete n hn hz (by simp) }

theorem add (ht : Twin K none z b) (hd : n ∉ z.datasets) (hk : n ∈ K → mid = some n)
    (src : String) : Twin K mid { z with datasets := n :: z.datasets } (BTRFS.snap b src n) where
  nodup := List.nodup_cons.2 ⟨hd, ht.nodup⟩
  nodup_vols := List.nodup_cons.2 ⟨fun hb => hd ((ht.same n).2 hb), ht.nodup_vols⟩
  same m := by simp [ht.same m]
  snaps m hm := List.mem_cons_of_mem _ (ht.snaps m hm)
  complete m hm hz hmid := by
    rcases List.mem_cons.1 hz with rfl | hz
    · exact absurd (hk hm) hmid
    · exact ht.complete m hm hz (by simp)
  flat := ht.flat

theorem snap (ht : Twin K (some n) z b) (hn : n ∈ z.datasets) :
    Twin K none { z with snaps := n :: z.snaps } b where
  nodup := ht.nodup
  nodup_vols := ht.nodup_vols
  same := ht.same
  snaps m hm := by
    rcases List.mem_cons.1 hm with rfl | hm
    exacts [hn, ht.snaps m hm]
  complete m hm hz _ := by
    by_cases e : m = n
    · exact e ▸ List.mem_cons_self _ _
    · exact List.mem_cons_of_mem _ (ht.complete m hm hz (by simpa [eq_comm] using e))
  flat := ht.flat

end Twin

section Fits

variable {K A : List String} {rank : String → ℕ} {z z' : ZfsPool} {rnd : String}

theorem Keys.buildScripts {σ : Type} {h : Host σ} (hK : Keys h K rank) {n : String} (hn : n ∈ K) :
    h.buildScripts n = [] := by
  unfold Host.buildScripts
  cases hc : h.images.lookup n with
  | none => rfl
  | some c => exact hK.scripts _ (mem_of_lookup hc) hn

/-- After the probe of a name in `K`, a build returns, raises, or builds the name's parent, in
`K` and of lower rank, while no dataset stands at the name. -/
theorem Keys.probeOut_fits {σ : Type} {h : Host σ} (hK : Keys h K rank) {n : String} (hn : n ∈ K)
    (rnd : String) {a : Except PyErr Bool} (ha : a = .ok false → n ∉ z.datasets) :
    (h.probeOut n rnd a).Fits K A rank z (some n) ∧ (h.probeOut n rnd a).mid = none := by
  unfold Host.probeOut Host.afterProbe
  split
  · exact ⟨trivial, rfl⟩
  · exact ⟨trivial, rfl⟩
  · split
    · exact ⟨trivial, rfl⟩
    · rename_i c hc
      obtain ⟨p, hp, hpar, hr⟩ := hK.parent _ (mem_of_lookup hc) hn
      simp only [hpar]
      exact ⟨⟨⟨p, hp, rfl, fun _ e => Option.some.inj e ▸ hr⟩, trivial, ⟨hn, hp, ha rfl⟩, rfl⟩, rfl⟩

theorem Frame.building_resume (g : Frame) (rnd : String) : (g.resume rnd).building = g.building := by
  cases g with
  | build n pc => cases pc <;> rfl
  | getVm n pc => cases pc <;> rfl

theorem Frame.above_of_building {a a' b : Frame} (he : a'.building = a.building)
    (hab : Frame.Above rank a b) : Frame.Above rank a' b :=
  fun m hm => he ▸ hab m hm

theorem Frame.fits_mono {fr : Frame} (hf : fr.Fits K A z) : fr.Fits K (rnd :: A) z := by
  cases fr with
  | build n pc => cases pc <;> exact hf
  | getVm n pc =>
    cases pc
    case clone => exact ⟨hf.1, hf.2.1, List.mem_cons_of_mem _ hf.2.2.1, hf.2.2.2⟩
    all_goals exact hf

/-- A waiting build keeps finding no dataset at its name when the step above it added only
the image that frame builds, of lower rank, or names outside `K`. -/
theorem Frame.fits_of_waiting {top g : Frame} (hw : g.Waiting) (hg : g.Fits K A z)
    (habove : Frame.Above rank top g)
    (hgrow : ∀ m ∈ z'.datasets, m ∈ z.datasets ∨ (top.building = some m ∧ m ∈ K) ∨ (m ∉ K ∧ m ∈ A)) :
    g.Fits K A z' := by
  cases g with
  | build n pc =>
    cases pc
    case parent p =>
      refine ⟨hg.1, hg.2.1, fun hm => ?_⟩
      rcases hgrow n hm with h1 | ⟨h2, -⟩ | ⟨h3, -⟩
      · exact hg.2.2 h1
      · obtain ⟨n', hn', hr⟩ := habove n rfl
        cases h2.symm.trans hn'
        exact lt_irrefl _ hr
      · exact h3 hg.1
    all_goals exact hw.elim
  | getVm n pc => cases pc <;> first | exact hg | exact hw.elim

theorem Frame.resume_fits {g : Frame} (hw : g.Waiting) (hg : g.Fits K A z) (hrK : rnd ∉ K)
    (hrz : rnd ∉ z.datasets) : (g.resume rnd).Fits K (rnd :: A) z ∧ (g.resume rnd).mid = none := by
  cases g with
  | build n pc => cases pc <;> first | exact ⟨hg, rfl⟩ | exact hw.elim
  | getVm n pc =>
    cases pc <;> first | exact ⟨⟨hg, hrK, List.mem_cons_self _ _, hrz⟩, rfl⟩ | exact hw.elim

theorem Out.apply_erase (o : Out) (rest : List Frame) :
    (o.apply rnd rest).erase = o.erase.apply rnd rest := by
  cases o with
  | ret v => cases rest <;> rfl
  | _ => rfl

theorem Out.apply_fits {o : Out} {fr : Frame} {rest : List Frame}
    (ho : o.Fits K A rank z fr.building) (hr : ∀ g ∈ rest, g.Waiting ∧ g.Fits K A z)
    (hpw : (fr :: rest).Pairwise (Frame.Above rank)) (hrK : rnd ∉ K) (hrz : rnd ∉ z.datasets) :
    (o.apply rnd rest).Fits K (rnd :: A) rank z ∧ (o.apply rnd rest).mid = o.mid := by
  have hr' : ∀ g ∈ rest, g.Waiting ∧ g.Fits K (rnd :: A) z :=
    fun g hg => ⟨(hr g hg).1, Frame.fits_mono (hr g hg).2⟩
  obtain ⟨hab, hpw⟩ := List.pairwise_cons.1 hpw
  cases o with
  | goto fr' =>
    exact ⟨⟨Frame.fits_mono ho.1, hr',
      List.pairwise_cons.2 ⟨fun g hg => Frame.above_of_building ho.2 (hab g hg), hpw⟩⟩, rfl⟩
  | call child fr' =>
    obtain ⟨⟨p, hp, rfl, hrank⟩, hw, hf, hb⟩ := ho
    have hchild : ∀ g ∈ fr' :: rest, Frame.Above rank (.build p .acquire) g := by
      refine List.forall_mem_cons.2 ⟨fun m hm => ⟨p, rfl, hrank m (hb ▸ hm)⟩, fun g hg m hm => ?_⟩
      obtain ⟨n, hn, hnm⟩ := hab g hg m hm
      exact ⟨p, rfl, (hrank n hn).trans hnm⟩
    exact ⟨⟨hp, List.forall_mem_cons.2 ⟨⟨hw, Frame.fits_mono hf⟩, hr'⟩,
      List.pairwise_cons.2 ⟨hchild, List.pairwise_cons.2
        ⟨fun g hg => Frame.above_of_building hb (hab g hg), hpw⟩⟩⟩, rfl⟩
  | ret v =>
    cases rest with
    | nil => exact ⟨trivial, rfl⟩
    | cons g rest =>
      obtain ⟨⟨hw, hg⟩, hr⟩ := List.forall_mem_cons.1 hr
      obtain ⟨hga, hpw⟩ := List.pairwise_cons.1 hpw
      obtain ⟨hgf, hgm⟩ := Frame.resume_fits hw hg hrK hrz
      exact ⟨⟨hgf, fun g' hg' => ⟨(hr g' hg').1, Frame.fits_mono (hr g' hg').2⟩,
        List.pairwise_cons.2
          ⟨fun g' hg' => Frame.above_of_building (Frame.building_resume g rnd) (hga g' hg'), hpw⟩⟩,
        hgm⟩
  | raise e => exact ⟨trivial, rfl⟩

theorem Host.onOk_erase {rz rb : Except PyErr RunResult}
    (hr : rz.mapError PyErr.erase = rb.mapError PyErr.erase) (k : Out) :
    (Host.onOk rz k).erase = (Host.onOk rb k).erase := by
  cases rz <;> cases rb <;> simp_all [Host.onOk, Except.mapError, Out.erase]

theorem Host.onOk_fits {k' : Option String} {r : Except PyErr RunResult} {k : Out}
    (hk : k.Fits K A rank z k') : (Host.onOk r k).Fits K A rank z k' := by
  cases r
  · trivial
  · exact hk

theorem Host.onOk_confKey_fits {σ : Type} (h : Host σ) {r : Except PyErr RunResult}
    {name key n : String} {has : VmConf → Bool} {pc : GetVmPc} (hf : (Frame.getVm n pc).Fits K A z) :
    (Host.onOk r (h.confKey name key has (.goto (.getVm n pc)))).Fits K A rank z none := by
  cases r
  · trivial
  · exact h.confKey_of _ ⟨hf, rfl⟩ fun _ => trivial

@[simp] theorem Host.onOk_confKey_mid {σ : Type} (h : Host σ) (r : Except PyErr RunResult)
    (name key n : String) (has : VmConf → Bool) (pc : GetVmPc) :
    (Host.onOk r (h.confKey name key has (.goto (.getVm n pc)))).mid = none := by
  cases r
  · rfl
  · exact h.confKey_of (fun o => o.mid = none) rfl fun _ => rfl

end Fits

section Step

variable {σ : Type} (h : Host σ) (dataset path : String) {K A : List String} {rank : String → ℕ}
  {wz wz' : World ZfsPool} {wb : World BtrfsVols} {env : Env}

/-- A clone from a source in `K` to a name that is not a dataset runs in step on both backends:
it adds `dst` on both, which is then the dataset between clone and snapshot when it is in `K`,
or fails on both and changes nothing. -/
theorem clone_twin {src dst : String} {mid : Option String} {rz : Except PyErr RunResult}
    (ht : Twin K none wz.fs wb.fs) (hsrc : src ∈ K) (hdst : dst ∉ wz.fs.datasets)
    (hp : env.proc.clean) (hmid : dst ∈ K → mid = some dst)
    (hz : (h.zfs dataset).storageCmd wz (ZFS.clone dataset src dst) env.proc false true =
      some (wz', rz)) :
    ∃ rb, (h.btrfs path).storageCmd wb (BTRFS.clone path src dst) env.proc false true =
        some ({ wb with fs := ((BTRFS.clone path src dst).exec wb.fs).2 }, rb) ∧
      rz.mapError PyErr.erase = rb.mapError PyErr.erase ∧ wz'.locks = wz.locks ∧
      wz'.vms = wz.vms ∧ wz'.fs.datasets ⊆ dst :: wz.fs.datasets ∧
      ((rz = .ok (.code (some 0)) ∧ dst ∈ wz'.fs.datasets ∧ dst ∉ wz'.fs.snaps ∧
          Twin K mid wz'.fs ((BTRFS.clone path src dst).exec wb.fs).2) ∨
        ((∃ e, rz = .error e) ∧ Twin K none wz'.fs ((BTRFS.clone path src dst).exec wb.fs).2)) := by
  rw [Host.storageCmd_eq_some] at hz
  obtain ⟨ha, rfl, rfl⟩ := hz
  have hiff := ht.snap_iff hsrc (show none ≠ some src by simp)
  by_cases hg : src ∈ wz.fs.snaps
  · have hze : (ZFS.clone dataset src dst).exec wz.fs =
        (0, { wz.fs with datasets := dst :: wz.fs.datasets }) := if_pos (decide_eq_true ⟨hg, hdst⟩)
    have hbe := BTRFS.clone_exec_fresh path src dst (hiff.1 hg)
      (fun hv => hdst ((ht.same dst).2 hv)) (by simp [ht.flat])
    rw [hze] at ha
    refine ⟨_, Host.storageCmd_of_agrees _ (by rwa [hbe]), AsyncSSH.run_erase _ _ _ _ _ _ _ _,
      rfl, rfl, by simp [hze], .inl ⟨AsyncSSH.run_clean_zero hp ha, ?_⟩⟩
    rw [hze, hbe]
    exact ⟨List.mem_cons_self _ _, fun hs => hdst (ht.snaps dst hs), ht.add hdst hmid src⟩
  · have hze : (ZFS.clone dataset src dst).exec wz.fs = (failCode, wz.fs) :=
      if_neg (by simp [hg])
    have hbe : (BTRFS.clone path src dst).exec wb.fs = (failCode, wb.fs) :=
      if_pos (mt hiff.2 hg)
    rw [hze] at ha
    refine ⟨_, Host.storageCmd_of_agrees _ (by rwa [hbe]), AsyncSSH.run_erase _ _ _ _ _ _ _ _,
      rfl, rfl, by simp [hze], .inr ⟨AsyncSSH.run_clean_fail hp ha (show failCode ≠ 0 by decide), ?_⟩⟩
    rw [hze, hbe]
    exact ht

/-- One step of a frame that fits, taken on ZFS, is taken on BTRFS in the same environment,
with the same outcome up to an `SSHError`'s text, and the two worlds stay twins; a dataset it
adds is the image the frame builds or a name outside `K`, of `A`. -/
theorem frameStep_twin (hK : Keys h K rank) (hp : env.proc.clean) {fr : Frame} {oz : Out}
    (hf : fr.Fits K A wz.fs) (ht : Twin K fr.mid wz.fs wb.fs) (hl : wz.locks = wb.locks)
    (hv : wz.vms = wb.vms) (hz : (h.zfs dataset).frameStep wz env fr = some (wz', oz)) :
    ∃ wb' ob, (h.btrfs path).frameStep wb env fr = some (wb', ob) ∧ oz.erase = ob.erase ∧
      oz.Fits K A rank wz'.fs fr.building ∧ wz'.locks = wb'.locks ∧ wz'.vms = wb'.vms ∧
      Twin K oz.mid wz'.fs wb'.fs ∧
      ∀ m ∈ wz'.fs.datasets, m ∈ wz.fs.datasets ∨ (fr.building = some m ∧ m ∈ K) ∨
        (m ∉ K ∧ m ∈ A) := by
  cases fr with
  | build n pc =>
    cases pc
    case acquire =>
      simp only [Host.frameStep, Host.buildStep] at hz ⊢
      by_cases hn : n ∈ wz.locks
      · simp [hn] at hz
      · simp only [hn, ite_false, Option.some.injEq, Prod.mk.injEq] at hz
        obtain ⟨rfl, rfl⟩ := hz
        rw [if_neg (hl ▸ hn)]
        exact ⟨_, _, rfl, rfl, ⟨hf, rfl⟩, by simp [hl], hv, ht, fun m hm => .inl hm⟩
    case probe =>
      simp only [Host.frameStep, Host.buildStep, Host.zfs_storage, ZFS.backend,
        Option.map_eq_some'] at hz
      obtain ⟨⟨w1, r⟩, hc, he⟩ := hz
      obtain ⟨ha, rfl, hr⟩ := (Host.storageCmd_eq_some _).1 hc
      rw [Host.zfs_ssh, AsyncSSH.run_no_raise_eq _ _ _ (BTRFS.exist path n).text] at hr
      subst hr
      obtain ⟨rfl, rfl⟩ := Prod.mk.inj he
      have hcode := ht.exist_code hf nofun dataset path
      have hans : existAnswer (h.ssh.run AsyncSSH.defaultCb (BTRFS.exist path n).text false true
          false env.proc) = .ok (decide (n ∈ wb.fs.vols)) := by
        rw [AsyncSSH.run_clean_code hp (hcode ▸ ha)]
        exact BTRFS.existAnswer_exec path n wb.fs
      simp only [Host.frameStep, Host.buildStep, Host.btrfs_storage, BTRFS.backend, Host.btrfs_ssh,
        Host.storageCmd_of_agrees _ (hcode ▸ ha), Option.map_some', Host.zfs_probeOut,
        Host.btrfs_probeOut, hans]
      have hout : (h.probeOut n env.rnd (.ok (decide (n ∈ wb.fs.vols)))).Fits K A rank wz.fs
          (some n) ∧ _ :=
        hK.probeOut_fits hf env.rnd fun e hn => by simp_all [ht.same n]
      refine ⟨_, _, rfl, rfl, by simpa [ZFS.exist_exec_fs] using hout.1, by simp [hl], hv, ?_,
        fun m hm => .inl (by simpa [ZFS.exist_exec_fs] using hm)⟩
      rw [hout.2]
      simpa [ZFS.exist_exec_fs, BTRFS.exist_exec_fs] using ht
    case parent => simp [Host.frameStep, Host.buildStep] at hz
    case settle =>
      simp only [Host.frameStep, Host.buildStep] at hz ⊢
      obtain ⟨rfl, rfl⟩ := Prod.mk.inj (Option.some.inj hz)
      exact ⟨_, _, rfl, rfl, ⟨hf, rfl⟩, hl, hv, ht, fun m hm => .inl hm⟩
    case clone p =>
      simp only [Host.frameStep, Host.buildStep, Host.zfs_storage, ZFS.backend,
        Option.map_eq_some'] at hz
      obtain ⟨⟨w1, r⟩, hc, he⟩ := hz
      obtain ⟨rfl, rfl⟩ := Prod.mk.inj he
      obtain ⟨rb, hb, hr, hl1, hv1, hsub, hcases⟩ :=
        clone_twin h dataset path ht hf.2.1 hf.2.2 hp (fun _ => rfl) hc
      have hk : h.afterClone n env.rnd = .goto (.build n .settle) := by
        simp [Host.afterClone, hK.buildScripts hf.1]
      simp only [Host.frameStep, Host.buildStep, Host.btrfs_storage, BTRFS.backend, hb,
        Option.map_some', Host.zfs_afterClone, Host.btrfs_afterClone, hk]
      have hgrow : ∀ m ∈ w1.fs.datasets, m ∈ wz.fs.datasets ∨ (some n = some m ∧ m ∈ K) ∨
          (m ∉ K ∧ m ∈ A) := fun m hm => by
        rcases List.mem_cons.1 (hsub hm) with rfl | hm
        exacts [.inr (.inl ⟨rfl, hf.1⟩), .inl hm]
      refine ⟨_, _, rfl, Host.onOk_erase hr _, ?_⟩
      rcases hcases with ⟨rfl, hin, hns, ht'⟩ | ⟨⟨e, rfl⟩, ht'⟩
      exacts [⟨⟨⟨hin, hns⟩, rfl⟩, hl1.trans hl, hv1.trans hv, ht', hgrow⟩,
        ⟨trivial, hl1.trans hl, hv1.trans hv, ht', hgrow⟩]
    case snapshot =>
      simp only [Host.frameStep, Host.buildStep, Host.zfs_storage, ZFS.backend,
        Option.map_eq_some'] at hz
      obtain ⟨⟨w1, r⟩, hc, he⟩ := hz
      obtain ⟨ha, rfl, rfl⟩ := (Host.storageCmd_eq_some _).1 hc
      have hze : (ZFS.snapshot dataset n).exec wz.fs = (0, { wz.fs with snaps := n :: wz.fs.snaps }) :=
        if_pos (decide_eq_true (show n ∈ wz.fs.datasets ∧ n ∉ wz.fs.snaps from hf))
      rw [hze] at ha he
      rw [AsyncSSH.run_clean_zero hp ha] at he
      obtain ⟨rfl, rfl⟩ := Prod.mk.inj he
      exact ⟨_, _, rfl, rfl, trivial, hl, hv, ht.snap hf.1, fun m hm => .inl hm⟩
    all_goals exact hf.elim
  | getVm n pc =>
    cases pc
    case build => simp [Host.frameStep, Host.getVmStep] at hz
    case clone rnd =>
      simp only [Host.frameStep, Host.getVmStep, Host.zfs_storage, ZFS.backend,
        Option.map_eq_some'] at hz
      obtain ⟨⟨w1, r⟩, hc, he⟩ := hz
      obtain ⟨rfl, rfl⟩ := Prod.mk.inj he
      obtain ⟨rb, hb, hr, hl1, hv1, hsub, hcases⟩ := clone_twin h dataset path ht hf.1 hf.2.2.2 hp
        (fun hk => absurd hk hf.2.1 : rnd ∈ K → (none : Option String) = some rnd) hc
      simp only [Host.frameStep, Host.getVmStep, Host.btrfs_storage, BTRFS.backend, hb,
        Option.map_some', Host.zfs_confKey, Host.btrfs_confKey, Host.onOk_confKey_mid]
      have ht' : Twin K none w1.fs ((BTRFS.clone path n rnd).exec wb.fs).2 := by
        rcases hcases with ⟨-, -, -, ht'⟩ | ⟨-, ht'⟩ <;> exact ht'
      refine ⟨_, _, rfl, Host.onOk_erase hr _, Host.onOk_confKey_fits h trivial, hl1.trans hl,
        hv1.trans hv, ht', fun m hm => ?_⟩
      rcases List.mem_cons.1 (hsub hm) with rfl | hm
      exacts [.inr (.inr ⟨hf.2.1, hf.2.2.1⟩), .inl hm]
    case listFiles rnd vm =>
      simp only [Host.frameStep, Host.getVmStep, Option.map_eq_some'] at hz
      obtain ⟨⟨w1, r⟩, hc, he⟩ := hz
      obtain ⟨hw, rfl, rfl⟩ := (Host.externalCmd_eq_some _).1 hc
      obtain ⟨rfl, rfl⟩ := Prod.mk.inj he
      simp only [Host.frameStep, Host.getVmStep, Host.externalCmd_of_wf _ hw, Option.map_some',
        Host.zfs_confKey, Host.btrfs_confKey, Host.onOk_confKey_mid]
      exact ⟨_, _, rfl, Host.onOk_erase (AsyncSSH.run_erase _ _ _ _ _ _ _ _) _,
        Host.onOk_confKey_fits h trivial, hl, hv, ht.any_mid _, fun m hm => .inl hm⟩
    case bootCopy rnd vm conf =>
      simp only [Host.frameStep, Host.getVmStep, Option.map_eq_some'] at hz
      obtain ⟨⟨w1, r⟩, hc, he⟩ := hz
      obtain ⟨hw, rfl, rfl⟩ := (Host.externalCmd_eq_some _).1 hc
      obtain ⟨rfl, rfl⟩ := Prod.mk.inj he
      simp only [Host.frameStep, Host.getVmStep, Host.externalCmd_of_wf _ hw, Option.map_some']
      exact ⟨_, _, rfl, Host.onOk_erase (AsyncSSH.run_erase _ _ _ _ _ _ _ _) _,
        Host.onOk_fits ⟨trivial, rfl⟩, hl, hv, ht.any_mid _, fun m hm => .inl hm⟩
    case bootCreate rnd vm conf =>
      simp only [Host.frameStep, Host.getVmStep, Option.map_eq_some'] at hz
      obtain ⟨⟨w1, r⟩, hc, he⟩ := hz
      obtain ⟨hw, rfl, rfl⟩ := (Host.externalCmd_eq_some _).1 hc
      simp only [Host.frameStep, Host.getVmStep, Host.externalCmd_of_wf _ hw, Option.map_some',
        Host.zfs_ssh, Host.btrfs_ssh] at he ⊢
      refine ⟨_, _, rfl, ?_⟩
      revert he
      split <;> intro he <;> obtain ⟨rfl, rfl⟩ := Prod.mk.inj he
      · exact ⟨rfl, trivial, hl, hv, ht, fun m hm => .inl hm⟩
      · exact ⟨rfl, trivial, hl, by simp [hv], ht, fun m hm => .inl hm⟩

theorem Twins.run_eq {tb : Task} {stack : List Frame} (hs : Twins K A rank wz (.run stack) wb tb) :
    tb = .run stack := by
  have ht := hs.task
  cases tb <;> simp_all [Task.erase]

theorem Twins.done_eq {tb : Task} {r : Except PyErr (Option VmRec)}
    (hs : Twins K A rank wz (.done r) wb tb) : ∃ r', tb = .done r' := by
  have ht := hs.task
  cases tb <;> simp_all [Task.erase]

/-- One task step on ZFS is matched on BTRFS, and the two runs stay `Twins`, with the step's
random name among the names that may be datasets. -/
theorem taskStep_twins (hK : Keys h K rank) (hp : env.proc.clean) (hrK : env.rnd ∉ K)
    (hrA : env.rnd ∉ A) {tz tb tz' : Task} (hs : Twins K A rank wz tz wb tb)
    (hz : (h.zfs dataset).taskStep wz env tz = some (wz', tz')) :
    ∃ wb' tb', (h.btrfs path).taskStep wb env tb = some (wb', tb') ∧
      Twins K (env.rnd :: A) rank wz' tz' wb' tb' := by
  rcases tz with (_ | ⟨fr, rest⟩) | r
  · simp [Host.taskStep] at hz
  · rw [hs.run_eq]
    simp only [Host.taskStep, Option.map_eq_some'] at hz ⊢
    obtain ⟨⟨w1, oz⟩, hf, he⟩ := hz
    obtain ⟨rfl, rfl⟩ := Prod.mk.inj he
    obtain ⟨hfr, hrest, hpw⟩ := hs.fits
    obtain ⟨wb', ob, hb, ho, hof, hl, hv, ht, hgrow⟩ :=
      frameStep_twin h dataset path hK hp hfr hs.twin hs.locks hs.vms hf
    have hfresh : ∀ m ∈ w1.fs.datasets, m ∈ K ∨ m ∈ A := fun m hm => by
      rcases hgrow m hm with h1 | ⟨-, h2⟩ | ⟨-, h3⟩
      exacts [hs.fresh m h1, .inl h2, .inr h3]
    have hrest' : ∀ g ∈ rest, g.Waiting ∧ g.Fits K A w1.fs := fun g hg =>
      ⟨(hrest g hg).1, Frame.fits_of_waiting (hrest g hg).1 (hrest g hg).2
        ((List.pairwise_cons.1 hpw).1 g hg) hgrow⟩
    obtain ⟨hfits, hmid⟩ :=
      Out.apply_fits hof hrest' hpw hrK fun hm => (hfresh _ hm).elim hrK hrA
    refine ⟨wb', ob.apply env.rnd rest, ⟨_, hb, rfl⟩, ?_, hfits, hl, hv, hmid ▸ ht,
      fun m hm => (hfresh m hm).imp_right (List.mem_cons_of_mem _)⟩
    rw [Out.apply_erase, Out.apply_erase, ho]
  · simp [Host.taskStep] at hz

/-- A call run alone to its end on ZFS ends on BTRFS in the same environments, and the runs
stay `Twins` to the end, with the random names it drew among the names that may be datasets. -/
theorem runAlone_twins (hK : Keys h K rank) {envs : List Env}
    (henvs : ∀ env ∈ envs, env.proc.clean ∧ env.rnd ∉ K ∧ env.rnd ∉ A)
    (hnd : (envs.map Env.rnd).Nodup) {tz tb : Task} {rz : Except PyErr (Option VmRec)}
    (hs : Twins K A rank wz tz wb tb) (hz : (h.zfs dataset).runAlone wz tz envs = some (wz', rz)) :
    ∃ wb' rb A', (h.btrfs path).runAlone wb tb envs = some (wb', rb) ∧
      A' ⊆ envs.map Env.rnd ++ A ∧ Twins K A' rank wz' (.done rz) wb' (.done rb) := by
  induction envs generalizing A wz tz wb tb with
  | nil =>
    rcases tz with _ | r
    · simp [Host.runAlone] at hz
    · obtain ⟨r', rfl⟩ := hs.done_eq
      rw [Host.runAlone_done] at hz
      obtain ⟨rfl, rfl⟩ := Prod.mk.inj (Option.some.inj hz)
      exact ⟨_, _, A, Host.runAlone_done _ _ _ _, List.Subset.refl _, hs⟩
  | cons env envs ih =>
    obtain ⟨henv, henvs⟩ := List.forall_mem_cons.1 henvs
    obtain ⟨hnotin, hnd⟩ := List.nodup_cons.1 hnd
    rcases tz with stack | r
    · simp only [Host.runAlone, Option.bind_eq_some] at hz
      obtain ⟨⟨w1, t1⟩, h1, h2⟩ := hz
      obtain ⟨wb1, tb1, hb1, hs1⟩ := taskStep_twins h dataset path hK henv.1 henv.2.1 henv.2.2 hs h1
      obtain ⟨wb', rb, A', hb', hA', hs'⟩ := ih (fun e he => ⟨(henvs e he).1, (henvs e he).2.1,
        List.not_mem_cons_of_ne_of_not_mem (fun hr => hnotin (hr ▸ List.mem_map_of_mem _ he : _))
          (henvs e he).2.2⟩) hnd hs1 h2
      rw [hs.run_eq] at hb1 ⊢
      refine ⟨wb', rb, A', by simp only [Host.runAlone, Option.bind_eq_some]; exact ⟨_, hb1, hb'⟩,
        fun m hm => ?_, hs'⟩
      have := hA' hm
      simp only [List.map_cons, List.cons_append, List.mem_cons, List.mem_append] at this ⊢
      tauto
    · obtain ⟨r', rfl⟩ := hs.done_eq
      rw [Host.runAlone_done] at hz
      obtain ⟨rfl, rfl⟩ := Prod.mk.inj (Option.some.inj hz)
      exact ⟨_, _, A, Host.runAlone_done _ _ _ _, List.subset_append_right _ _, hs⟩

theorem Call.task_zfs (c : Call) : c.task (h.zfs dataset) = c.task h := by cases c <;> rfl

theorem Call.task_btrfs (c : Call) : c.task (h.btrfs path) = c.task h := by cases c <;> rfl

theorem Call.mid_task (c : Call) : (c.task h).mid = none := by
  cases c with
  | buildImage n => rfl
  | getVm n =>
    rcases h.getVm_cases n with ⟨_, he⟩ | ⟨_, _, _, _, he⟩ <;> simp only [Call.task, he] <;> rfl

theorem Keys.task_fits (hK : Keys h K rank) {c : Call} (hc : c.name ∈ K) (z : ZfsPool) :
    (c.task h).Fits K A rank z := by
  cases c with
  | buildImage n => exact ⟨hc, by simp, List.pairwise_singleton _ _⟩
  | getVm n =>
    rcases h.getVm_cases n with ⟨e, he⟩ | ⟨conf, image, hconf, himage, he⟩
    · simp only [Call.task, he]
      trivial
    · simp only [Call.task, he]
      exact ⟨hK.image _ (mem_of_lookup hconf) image himage,
        by simpa [Frame.Waiting, Frame.Fits] using hc, by simp [Frame.Above, Frame.building]⟩

/-- Calls made one after another on ZFS are matched on BTRFS in the same environments: the same
results up to an `SSHError`'s text, and twin worlds after each call. -/
theorem runCalls_twins (hK : Keys h K rank) {calls : List (Call × List Env)}
    (hcalls : ∀ c ∈ calls, c.1.name ∈ K ∧ ∀ env ∈ c.2, env.proc.clean ∧ env.rnd ∉ K ∧ env.rnd ∉ A)
    (hnd : ((calls.flatMap (·.2)).map Env.rnd).Nodup)
    (hl : wz.locks = wb.locks) (hv : wz.vms = wb.vms) (ht : Twin K none wz.fs wb.fs)
    (hfresh : ∀ m ∈ wz.fs.datasets, m ∈ K ∨ m ∈ A) {rs : List (Except PyErr (Option VmRec))}
    (hz : (h.zfs dataset).runCalls wz calls = some (wz', rs)) :
    ∃ wb' rs', (h.btrfs path).runCalls wb calls = some (wb', rs') ∧
      rs.map (Except.mapError PyErr.erase) = rs'.map (Except.mapError PyErr.erase) ∧
      wz'.locks = wb'.locks ∧ wz'.vms = wb'.vms ∧ Twin K none wz'.fs wb'.fs := by
  induction calls generalizing A wz wb rs with
  | nil =>
    obtain ⟨rfl, rfl⟩ := Prod.mk.inj (Option.some.inj hz)
    exact ⟨wb, [], rfl, rfl, hl, hv, ht⟩
  | cons call calls ih =>
    obtain ⟨c, envs⟩ := call
    simp only [Host.runCalls, Option.bind_eq_some, Option.map_eq_some'] at hz
    obtain ⟨⟨w1, r⟩, h1, ⟨w2, rs2⟩, h2, he⟩ := hz
    obtain ⟨rfl, rfl⟩ := Prod.mk.inj he
    obtain ⟨⟨hc, henvs⟩, hcalls⟩ := List.forall_mem_cons.1 hcalls
    rw [List.flatMap_cons, List.map_append, List.nodup_append] at hnd
    obtain ⟨hnd1, hnd2, hdis⟩ := hnd
    have hs : Twins K A rank wz (c.task (h.zfs dataset)) wb (c.task (h.btrfs path)) := by
      rw [Call.task_zfs, Call.task_btrfs]
      exact ⟨rfl, hK.task_fits h hc wz.fs, hl, hv, (Call.mid_task h c).symm ▸ ht, hfresh⟩
    obtain ⟨wb1, rb, A', hb1, hA', hs1⟩ := runAlone_twins h dataset path hK henvs hnd1 hs h1
    have hA'' : ∀ c' ∈ calls, ∀ e ∈ c'.2, e.rnd ∉ A' := fun c' hc' e he hm => by
      rcases List.mem_append.1 (hA' hm) with hm | hm
      · exact List.disjoint_left.1 hdis hm
          (List.mem_map_of_mem _ (List.mem_flatMap.2 ⟨c', hc', he⟩))
      · exact ((hcalls c' hc').2 e he).2.2 hm
    obtain ⟨wb', rs', hb', hr, hl', hv', ht'⟩ := ih (fun c' hc' => ⟨(hcalls c' hc').1,
      fun e he => ⟨((hcalls c' hc').2 e he).1, ((hcalls c' hc').2 e he).2.1, hA'' c' hc' e he⟩⟩)
      hnd2 hs1.locks hs1.vms hs1.twin hs1.fresh h2
    refine ⟨wb', rb :: rs', ?_, ?_, hl', hv', ht'⟩
    · simp only [Host.runCalls, hb1, Option.some_bind, hb', Option.map_some']
    · simpa [Task.erase, hr] using hs1.task

end Step

/-- The same complete images on both backends: each dataset with its snapshot `@1`, and no
plain directory. -/
theorem Twin.of_images {K ds : List String} (hd : ds.Nodup) :
    Twin K none ⟨ds, ds⟩ { vols := ds } where
  nodup := hd
  nodup_vols := hd
  same _ := Iff.rfl
  snaps _ hn := hn
  complete _ _ hn _ := hn
  flat := rfl

/-- `ZFS` and `BTRFS` are interchangeable for images that are clones of a parent, without build
scripts and with no chain of parents that comes back to an image, on storages that hold the same
complete images and no plain directory: calls made one after another, in the same environments,
whose children are observed cleanly and whose random names are all different, neither names the
calls build, probe or clone from nor datasets already there, give on ZFS what they give on BTRFS
(the same results, up to an `SSHError`'s command line, and the same `Host.vms`), and after them
`exist()` answers alike for every name of `K`. -/
theorem zfs_calls_match_btrfs {σ : Type} (h : Host σ) (dataset path : String) (K : List String)
    (rank : String → ℕ) (hK : Keys h K rank) (z : ZfsPool) (calls : List (Call × List Env))
    (hcalls : ∀ c ∈ calls, c.1.name ∈ K ∧
      ∀ env ∈ c.2, env.proc.clean ∧ env.rnd ∉ K ∧ env.rnd ∉ z.datasets)
    (hrnd : ((calls.flatMap (·.2)).map Env.rnd).Nodup) (b : BtrfsVols) (hzb : Twin K none z b)
    (vms : List VmRec) (w : World ZfsPool) (rs : List (Except PyErr (Option VmRec)))
    (hrun : (h.zfs dataset).runCalls { fs := z, vms := vms } calls = some (w, rs)) :
    ∃ w' rs', (h.btrfs path).runCalls { fs := b, vms := vms } calls = some (w', rs') ∧
      rs.map (Except.mapError PyErr.erase) = rs'.map (Except.mapError PyErr.erase) ∧
      w.vms = w'.vms ∧
      ∀ n ∈ K, ((ZFS.exist dataset n).exec w.fs).1 = ((BTRFS.exist path n).exec w'.fs).1 := by
  obtain ⟨w', rs', hb, hr, -, hv, ht⟩ := runCalls_twins h dataset path hK hcalls hrnd
    (show ({ fs := z, vms := vms } : World ZfsPool).locks = ({ fs := b, vms := vms } : World _).locks
      from rfl) rfl hzb (fun _ hm => .inr hm) hrun
  exact ⟨w', rs', hb, hr, hv, fun n hn => ht.exist_code hn (by simp) dataset path⟩

/-- A host whose image `base` is a clone of `minimal`, with the VM `worker` on `base`. -/
def cloneHost : Host BtrfsVols where
  ssh := ⟨"root", "hv1", none, "22"⟩
  storage := BTRFS.backend "/srv"
  images := [("base", { parent := some "minimal" })]
  vmConfs := [("worker", { image := some "base" })]

/-- `build_image("base")` with `minimal` on the host, then `get_vm("worker")`, whose clone of
`worker` fails; every step draws its own random name. -/
def cloneCalls : List (Call × List Env) :=
  [(.buildImage "base", [{ rnd := "r1" }, { absentProbe with rnd := "r2" }, { rnd := "r3" },
      { rnd := "r4" }, { rnd := "r5" }, { rnd := "r6" }, { rnd := "r7" }]),
    (.getVm "worker", [{ rnd := "r8" }, { rnd := "r9" }, { absentProbe with rnd := "r10" }])]

theorem zfs_calls_match_btrfs_clone_chain :
    (cloneHost.zfs "tank").runCalls { fs := ⟨["minimal"], ["minimal"]⟩ } cloneCalls =
      some ({ fs := ⟨["base", "minimal"], ["base", "minimal"]⟩ },
        [.ok none, .error (.sshError (AsyncSSH.failMsg
          (cloneHost.ssh.cmd "zfs clone tank/worker@1 tank/r9") 1))]) ∧
    ∃ w' rs', (cloneHost.btrfs "/srv").runCalls { fs := { vols := ["minimal"] } } cloneCalls =
        some (w', rs') ∧
      [.ok none, .error (.sshError (AsyncSSH.failMsg
          (cloneHost.ssh.cmd "zfs clone tank/worker@1 tank/r9") 1))].map
        (Except.mapError PyErr.erase) = rs'.map (Except.mapError PyErr.erase) ∧
      ([] : List VmRec) = w'.vms ∧
      ∀ n ∈ ["minimal", "base", "worker"],
        ((ZFS.exist "tank" n).exec ⟨["base", "minimal"], ["base", "minimal"]⟩).1 =
          ((BTRFS.exist "/srv" n).exec w'.fs).1 := by
  refine ⟨?hz, zfs_calls_match_btrfs cloneHost "tank" "/srv" _ (fun n => if n = "base" then 1 else 0)
    ⟨by decide, by decide, by decide⟩ _ cloneCalls (by decide) (by decide) _
    (Twin.of_images (by decide)) [] _ _ ?hz⟩
  decide

end RallyCI
