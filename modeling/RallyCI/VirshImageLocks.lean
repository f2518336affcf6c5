import RallyCI.VirshBuildImage
import Mathlib.Data.List.Nodup

/-! What `IMAGE_LOCKS` guarantees and what it does not. The lock of a name is held by the one
task probing that name, so no two tasks probe one name at once; but the `with` block ends after
the probe, and the provisioning after it runs unguarded. -/
namespace RallyCI

/-- A frame waiting for a child it called. -/
def Frame.Waiting : Frame → Prop
  | .build _ (.parent _) => True
  | .getVm _ .build => True
  | _ => False

/-- A frame's step outcome that takes no lock: it waits at no probe, and a call leaves the
caller waiting and starts the child at its lock. -/
def Out.Calm : Out → Prop
  | .goto fr => ∀ n, fr ≠ .build n .probe
  | .call child fr => fr.Waiting ∧ ∃ n, child = .build n .acquire
  | .ret _ => True
  | .raise _ => True

/-- Every frame below a task's top waits for the one above it. -/
def Task.Shaped : Task → Prop
  | .run (_ :: rest) => ∀ fr ∈ rest, fr.Waiting
  | _ => True

/-- The task is at the probe of `build_image(n)`, the only place `IMAGE_LOCKS[n]` is held. -/
def Task.probing (n : String) : Task → Bool
  | .run (fr :: _) => fr = .build n .probe
  | _ => false

namespace Host

variable {σ : Type} (h : Host σ) {w w' : World σ} {env : Env} {o : Out}

theorem onOk_calm {r : Except PyErr RunResult} {k : Out} (hk : k.Calm) : (onOk r k).Calm := by
  cases r with
  | error => trivial
  | ok => exact hk

theorem onOkTry_calm {name vm : String} {r : Except PyErr RunResult} {k : Out} (hk : k.Calm) :
    (onOkTry name vm r k).Calm := by
  cases r with
  | error => exact fun _ => nofun
  | ok => exact hk

theorem afterProbe_calm (name rnd : String) : (h.afterProbe name rnd).Calm := by
  unfold afterProbe
  split
  · trivial
  · split
    · exact ⟨trivial, _, rfl⟩
    · split
      · exact fun _ => nofun
      · split <;> exact fun _ => nofun

theorem afterClone_calm (name rnd : String) : (h.afterClone name rnd).Calm := by
  unfold afterClone; split <;> exact fun _ => nofun

/-- Only the acquire and the probe of `build_image` touch `IMAGE_LOCKS`: the acquire takes a
free lock and goes to the probe, the probe releases it, and no other step waits at a probe. -/
theorem frameStep_locks {fr : Frame} (hs : h.frameStep w env fr = some (w', o)) :
    (∃ n, fr = .build n .acquire ∧ n ∉ w.locks ∧ w'.locks = n :: w.locks ∧
      o = .goto (.build n .probe)) ∨
    (∃ n, fr = .build n .probe ∧ w'.locks = w.locks.erase n ∧ o.Calm) ∨
    ((∀ n, fr ≠ .build n .probe) ∧ w'.locks = w.locks ∧ o.Calm) := by
  cases fr with
  | getVm n pc =>
    refine .inr (.inr ⟨fun _ => nofun, ?_⟩)
    cases pc
    case build => cases hs
    all_goals
      have ⟨⟨w1, r⟩, hc, he⟩ := Option.map_eq_some'.1 hs
    case clone rnd =>
      obtain ⟨rfl, rfl⟩ := Prod.mk.inj he
      exact ⟨(h.storageCmd_locks hc).1, onOk_calm (h.confKey_of _ (fun _ => nofun) fun _ => trivial)⟩
    case bootCreate rnd vm conf =>
      rw [h.externalCmd_eq hc] at he
      cases r <;> obtain ⟨rfl, rfl⟩ := Prod.mk.inj he <;> exact ⟨rfl, trivial⟩
    all_goals
      obtain ⟨rfl, rfl⟩ := Prod.mk.inj he
      refine ⟨by rw [h.externalCmd_eq hc], onOk_calm ?_⟩
      first | exact h.confKey_of _ (fun _ => nofun) fun _ => trivial | exact fun _ => nofun
  | build n pc =>
    cases pc
    case acquire =>
      simp only [frameStep, buildStep] at hs
      split at hs
      · cases hs
      · obtain ⟨rfl, rfl⟩ := Prod.mk.inj (Option.some.inj hs)
        exact .inl ⟨n, rfl, ‹_›, rfl, rfl⟩
    case probe =>
      obtain ⟨⟨w1, r⟩, hc, he⟩ := Option.map_eq_some'.1 hs
      obtain ⟨rfl, rfl⟩ := Prod.mk.inj he
      refine .inr (.inl ⟨n, rfl, by rw [(h.storageCmd_locks hc).1], ?_⟩)
      unfold probeOut
      split
      · trivial
      · trivial
      · exact h.afterProbe_calm _ _
    case parent => cases hs
    all_goals refine .inr (.inr ⟨fun _ => nofun, ?_⟩)
    case script vm rest =>
      cases rest with
      | nil =>
        simp only [frameStep, buildStep] at hs
        split at hs
        · obtain ⟨rfl, rfl⟩ := Prod.mk.inj (Option.some.inj hs)
          exact ⟨rfl, fun _ => nofun⟩
        · split at hs
          · obtain ⟨rfl, rfl⟩ := Prod.mk.inj (Option.some.inj hs)
            exact ⟨rfl, onOkTry_calm fun _ => nofun⟩
          · cases hs
      | cons sn rest =>
        simp only [frameStep, buildStep, Option.some.injEq, Prod.mk.injEq] at hs
        obtain ⟨rfl, rfl⟩ := hs
        refine ⟨rfl, ?_⟩
        split
        · exact fun _ => nofun
        · split <;> exact fun _ => nofun
    case settle =>
      obtain ⟨rfl, rfl⟩ := Prod.mk.inj (Option.some.inj hs)
      exact ⟨rfl, fun _ => nofun⟩
    case snapshot =>
      simp only [frameStep, buildStep] at hs
      split at hs
      · obtain ⟨rfl, rfl⟩ := Prod.mk.inj (Option.some.inj hs)
        exact ⟨rfl, trivial⟩
      · obtain ⟨⟨w1, r⟩, hc, he⟩ := Option.map_eq_some'.1 hs
        obtain ⟨rfl, rfl⟩ := Prod.mk.inj he
        exact ⟨(h.storageCmd_locks hc).1, onOk_calm trivial⟩
    all_goals
      have ⟨⟨w1, r⟩, hc, he⟩ := Option.map_eq_some'.1 hs
      have ⟨hw, ho⟩ := Prod.mk.inj he
      subst hw ho
    case clone p => exact ⟨(h.storageCmd_locks hc).1, onOk_calm (h.afterClone_calm _ _)⟩
    case create u => exact ⟨(h.storageCmd_locks hc).1, onOk_calm fun _ => nofun⟩
    case forceStorage vm => exact ⟨(h.storageCmd_locks hc).1, onOkTry_calm fun _ => nofun⟩
    case cleanStorage e => exact ⟨(h.storageCmd_locks hc).1, onOk_calm trivial⟩
    case resize => exact ⟨by rw [h.externalCmd_eq hc], onOk_calm trivial⟩
    case forceVirsh vm => exact ⟨by rw [h.externalCmd_eq hc], onOkTry_calm fun _ => nofun⟩
    case shutdownPoll vm =>
      refine ⟨by rw [h.externalCmd_eq hc], ?_⟩
      split <;> exact fun _ => nofun
    all_goals exact ⟨by rw [h.externalCmd_eq hc], onOk_calm fun _ => nofun⟩

end Host

theorem Frame.resume_ne_probe {fr : Frame} (hw : fr.Waiting) (rnd n : String) :
    fr.resume rnd ≠ .build n .probe := by
  cases fr with
  | build m pc => cases pc <;> simp_all [Frame.Waiting, Frame.resume]
  | getVm m pc => cases pc <;> simp_all [Frame.Waiting, Frame.resume]

variable {rnd : String} {rest : List Frame} {o : Out}

theorem Out.apply_shaped (ho : o.Calm ∨ ∃ fr, o = .goto fr) (hr : ∀ fr ∈ rest, fr.Waiting) :
    (o.apply rnd rest).Shaped := by
  rcases ho with ho | ⟨fr, rfl⟩
  · cases o with
    | goto fr => exact hr
    | call child fr => exact List.forall_mem_cons.2 ⟨ho.1, hr⟩
    | ret v => cases rest with
      | nil => trivial
      | cons fr rest => exact fun g hg => hr g (List.mem_cons_of_mem _ hg)
    | raise e => trivial
  · exact hr

theorem Out.apply_not_probing (ho : o.Calm) (hr : ∀ fr ∈ rest, fr.Waiting) (n : String) :
    (o.apply rnd rest).probing n = false := by
  cases o with
  | goto fr => simpa [Out.apply, Task.probing] using ho n
  | call child fr => obtain ⟨m, rfl⟩ := ho.2; simp [Out.apply, Task.probing]
  | ret v => cases rest with
    | nil => rfl
    | cons fr rest =>
      simpa [Out.apply, Task.probing] using
        Frame.resume_ne_probe (hr fr (List.mem_cons_self _ _)) rnd n
  | raise e => rfl

/-- The lock discipline of a set of tasks: stacks are well formed, no lock is held twice, and
a name's lock is held exactly as often as tasks are probing that name. -/
structure LockInv {σ : Type} (s : Sys σ) : Prop where
  shaped : ∀ t ∈ s.tasks, t.Shaped
  nodup : s.world.locks.Nodup
  held : ∀ n, s.world.locks.count n = s.tasks.countP (Task.probing n)

namespace Host

variable {σ : Type} (h : Host σ) {s s' : Sys σ} {i : Nat} {env : Env}

theorem step_lockInv (hi : LockInv s) (hs : h.step s i env = some s') : LockInv s' := by
  unfold step at hs
  split at hs
  · exact absurd hs (by simp)
  rename_i t hget
  obtain ⟨hlt, rfl⟩ := List.getElem?_eq_some_iff.1 hget
  simp only [Option.map_eq_some'] at hs
  obtain ⟨⟨w', t'⟩, ht, rfl⟩ := hs
  have hmem := List.getElem_mem hlt
  generalize ht0 : s.tasks[i] = t at ht hmem
  rcases t with (_ | ⟨fr, rest⟩) | r <;> simp only [taskStep, reduceCtorEq] at ht
  simp only [Option.map_eq_some'] at ht
  obtain ⟨⟨w1, o⟩, hf, he⟩ := ht
  simp only [Prod.mk.injEq] at he
  obtain ⟨rfl, rfl⟩ := he
  have hr : ∀ fr ∈ rest, fr.Waiting := hi.shaped _ hmem
  have hshaped (ho : o.Calm ∨ ∃ fr, o = .goto fr) : ∀ t ∈ s.tasks.set i (o.apply env.rnd rest),
      t.Shaped := fun t ht' => (List.mem_or_eq_of_mem_set ht').elim (hi.shaped t)
        fun e => e ▸ Out.apply_shaped ho hr
  have hcount (n : String) := ht0 ▸ List.countP_set (Task.probing n) s.tasks i
    (o.apply env.rnd rest) hlt
  rcases h.frameStep_locks hf with ⟨m, rfl, hm, hl, rfl⟩ | ⟨m, rfl, hl, ho⟩ | ⟨hne, hl, ho⟩
  · refine ⟨hshaped (.inr ⟨_, rfl⟩), hl ▸ List.nodup_cons.2 ⟨hm, hi.nodup⟩, fun n => ?_⟩
    rw [hl, hcount, List.count_cons, hi.held n]
    by_cases e : m = n <;> simp [Task.probing, Out.apply, e]
  · refine ⟨hshaped (.inl ho), hl ▸ hi.nodup.erase m, fun n => ?_⟩
    have hpos : 0 < s.world.locks.count m := by
      rw [hi.held m]; exact List.countP_pos_iff.2 ⟨_, hmem, by simp [Task.probing]⟩
    rw [hl, hcount, List.count_erase, hi.held n, Out.apply_not_probing ho hr]
    by_cases e : m = n
    · subst e; rw [hi.held] at hpos; simp [Task.probing]
    · simp [Task.probing, e, Ne.symm e]
  · refine ⟨hshaped (.inl ho), hl ▸ hi.nodup, fun n => ?_⟩
    rw [hl, hcount, hi.held n, Out.apply_not_probing ho hr]
    simp [Task.probing, hne n]

theorem run_lockInv (sched : List (Nat × Env)) (hi : LockInv s) (hs : h.run s sched = some s') :
    LockInv s' := by
  induction sched generalizing s with
  | nil => exact (Option.some.inj hs) ▸ hi
  | cons a sched ih =>
    obtain ⟨j, e⟩ := a
    simp only [run, Option.bind_eq_some] at hs
    obtain ⟨s1, h1, h2⟩ := hs
    exact ih (h.step_lockInv hi h1) h2

theorem lockInv_start (fs : σ) (vms : List VmRec) (names vmNames : List String) :
    LockInv (⟨⟨fs, [], vms⟩, names.map Task.buildImage ++ vmNames.map h.getVm⟩ : Sys σ) := by
  refine ⟨?_, List.nodup_nil, fun n => ?_⟩
  · simp only [List.mem_append, List.mem_map]
    rintro t (⟨m, -, rfl⟩ | ⟨m, -, rfl⟩)
    · simp [Task.buildImage, Task.Shaped]
    · rcases h.getVm_cases m with ⟨e, he⟩ | ⟨_, _, -, -, he⟩ <;>
        simp [he, Task.Shaped, Frame.Waiting]
  · have hb : ∀ m, (Task.buildImage m).probing n = false := by simp [Task.buildImage, Task.probing]
    have hg : ∀ m, (h.getVm m).probing n = false := by
      intro m
      rcases h.getVm_cases m with ⟨e, he⟩ | ⟨_, _, -, -, he⟩ <;> simp [he, Task.probing]
    simp [List.countP_eq_zero, Function.comp_def, hb, hg]

/-- `IMAGE_LOCKS` admits one prober per name: under every schedule of any number of concurrent
`build_image` and `get_vm` calls, and whatever the host's storage and commands do, no two tasks
are ever at the existence probe of one image name together. -/
theorem probe_exclusive (fs : σ) (vms : List VmRec) (names vmNames : List String)
    (sched : List (Nat × Env))
    (hs : h.run ⟨⟨fs, [], vms⟩, names.map Task.buildImage ++ vmNames.map h.getVm⟩ sched = some s')
    (n : String) : s'.tasks.countP (Task.probing n) ≤ 1 := by
  have hi := h.run_lockInv sched (h.lockInv_start fs vms names vmNames) hs
  rw [← hi.held n]
  exact List.nodup_iff_count_le_one.1 hi.nodup n

end Host

/-- A host building `base` as a clone of `minimal`, with one build script. -/
def twoStageHost : Host BtrfsVols where
  ssh := ⟨"root", "hv1", none, "22"⟩
  storage := BTRFS.backend "/srv"
  images := [("minimal", {}), ("base", { parent := some "minimal", buildScripts := ["setup"] })]
  scripts := [("setup", ⟨"bash", "make", "root"⟩)]

/-- The probe of an absent dataset: `btrfs subvolume show` exits 1. -/
def absentProbe : Env := { proc := { returncode := some 1 } }

/-- Two builds of `base`: once the first has taken the lock, it alone is at the probe, and the
second waits at its lock. -/
theorem probe_exclusive_first_holder :
    twoStageHost.run ⟨⟨{ vols := ["minimal"] }, [], []⟩,
        ["base", "base"].map Task.buildImage ++ ([] : List String).map twoStageHost.getVm⟩
        [(0, {})] =
      some ⟨⟨{ vols := ["minimal"] }, ["base"], []⟩, [.run [.build "base" .probe], Task.buildImage "base"]⟩ ∧
    ([.run [.build "base" .probe], Task.buildImage "base"] : List Task).countP
      (Task.probing "base") ≤ 1 := by
  refine ⟨?hr, Host.probe_exclusive twoStageHost _ _ _ _ _ ?hr "base"⟩
  decide

/-- Two `build_image("base")` calls with `minimal` on the host: each takes the lock, finds no
`base`, releases the lock and builds `minimal`, which is there, so both are at
`storage.clone("minimal", "base")` at once. -/
theorem build_image_both_provision :
    (twoStageHost.run ⟨{ fs := { vols := ["minimal"] } }, [Task.buildImage "base", Task.buildImage "base"]⟩
      [(0, {}), (0, absentProbe), (1, {}), (1, absentProbe), (0, {}), (0, {}), (1, {}), (1, {})]).map
        (·.tasks) =
      some [.run [.build "base" (.clone "minimal")], .run [.build "base" (.clone "minimal")]] := by
  decide

/-- Task 0 clones `base` and goes on to its build script; task 1 then finds `base` and returns
normally. Task 0's script fails, its cleanup destroys the build VM's storage, which is `base`:
task 1's `build_image("base")` returned, and `base` is gone. -/
theorem build_image_returns_then_removed :
    twoStageHost.run ⟨{ fs := { vols := ["minimal"] } }, [Task.buildImage "base", Task.buildImage "base"]⟩
      [(0, {}), (0, absentProbe), (0, {}), (0, {}), (0, {}), (1, {}), (1, {}),
        (0, {}), (0, {}), (0, {}), (0, {}), (0, {}), (0, {})] =
      some ⟨{ fs := { vols := ["minimal"] } },
        [.done (.error (.attributeError "ip")), .done (.ok none)]⟩ := by
  decide

end RallyCI
