import RallyCI.VirshImageLocks
import RallyCI.VirshProvider

/-! Concurrent `build_image` and `get_vm` calls of `rallyci/providers/virsh.py` never deadlock,
and a VM a call returned stays listed. -/
namespace RallyCI

/-- A running task whose top frame waits for no child, so its next step depends only on the
top frame. -/
def Task.Active : Task → Prop
  | .run (fr :: _) => ¬ fr.Waiting
  | .run [] => False
  | .done _ => True

/-- A step outcome that goes to no waiting frame. -/
def Out.Leaves : Out → Prop
  | .goto fr => ¬ fr.Waiting
  | .call child _ => ¬ child.Waiting
  | .ret _ | .raise _ => True

/-- A task that has returned a VM finds it in `Host.vms`. -/
def Task.Registered {σ : Type} (w : World σ) : Task → Prop
  | .done (.ok (some vm)) => vm ∈ w.vms
  | _ => True

/-- A reaped child that exited with `c` and printed nothing, with no address found. -/
def reapedEnv (c : Int) : Env := { proc := { returncode := some c } }

theorem reapedEnv_clean (c : Int) : (reapedEnv c).proc.clean := rfl

theorem Frame.resume_active {fr : Frame} (hw : fr.Waiting) (rnd : String) :
    ¬ (fr.resume rnd).Waiting := by
  cases fr with
  | build m pc => cases pc <;> simp_all [Frame.Waiting, Frame.resume]
  | getVm m pc => cases pc <;> simp_all [Frame.Waiting, Frame.resume]

theorem Out.apply_active {o : Out} (ho : o.Leaves) {rest : List Frame}
    (hr : ∀ fr ∈ rest, fr.Waiting) (rnd : String) : (o.apply rnd rest).Active := by
  cases o with
  | goto fr => exact ho
  | call child fr => exact ho
  | ret v =>
    cases rest with
    | nil => trivial
    | cons fr rest => exact Frame.resume_active (hr fr (List.mem_cons_self _ _)) rnd
  | raise e => trivial

namespace Host

variable {σ : Type} (h : Host σ) {w w' : World σ} {env : Env} {o : Out}

/-- The exit status of the child a frame's step runs, once reaped: a storage command's own, and
`1` for every other command. -/
def finishCode (w : World σ) : Frame → Int
  | .build n .probe => ((h.storage.exist n).exec w.fs).1
  | .build n (.clone p) => ((h.storage.clone p n).exec w.fs).1
  | .build n (.create _) => ((h.storage.create n).exec w.fs).1
  | .build n (.forceStorage _) | .build n (.cleanStorage _) => ((h.storage.destroy n).exec w.fs).1
  | .build n .snapshot => ((h.storage.snapshot n).map fun c => (c.exec w.fs).1).getD 1
  | .getVm n (.clone rnd) => ((h.storage.clone n rnd).exec w.fs).1
  | _ => 1

theorem onOk_leaves {r : Except PyErr RunResult} {k : Out} (hk : k.Leaves) : (onOk r k).Leaves := by
  cases r
  · trivial
  · exact hk

theorem onOkTry_leaves {name vm : String} {r : Except PyErr RunResult} {k : Out} (hk : k.Leaves) :
    (onOkTry name vm r k).Leaves := by
  cases r
  · exact nofun
  · exact hk

theorem afterProbe_leaves (name rnd : String) : (h.afterProbe name rnd).Leaves := by
  unfold afterProbe
  split
  · trivial
  · split
    · exact nofun
    · split
      · exact nofun
      · split <;> exact nofun

theorem afterClone_leaves (name rnd : String) : (h.afterClone name rnd).Leaves := by
  unfold afterClone; split <;> exact nofun

/-- No step goes to a frame that waits for a child: those are only left below a called child. -/
theorem frameStep_leaves {fr : Frame} (hs : h.frameStep w env fr = some (w', o)) : o.Leaves := by
  cases fr with
  | getVm n pc =>
    cases pc
    case build => cases hs
    all_goals have ⟨⟨w1, r⟩, _, he⟩ := Option.map_eq_some'.1 hs
    case bootCreate => cases r <;> obtain ⟨-, rfl⟩ := Prod.mk.inj he <;> trivial
    all_goals obtain ⟨-, rfl⟩ := Prod.mk.inj he
    case bootCopy.intro => exact onOk_leaves nofun
    all_goals exact onOk_leaves (h.confKey_of _ nofun fun _ => trivial)
  | build n pc =>
    cases pc
    case acquire =>
      simp only [frameStep, buildStep] at hs
      split at hs
      · cases hs
      · obtain ⟨-, rfl⟩ := Prod.mk.inj (Option.some.inj hs); exact nofun
    case probe =>
      obtain ⟨⟨w1, r⟩, -, he⟩ := Option.map_eq_some'.1 hs
      obtain ⟨-, rfl⟩ := Prod.mk.inj he
      unfold probeOut
      split
      · trivial
      · trivial
      · exact h.afterProbe_leaves _ _
    case parent => cases hs
    case script vm rest =>
      cases rest with
      | nil =>
        simp only [frameStep, buildStep] at hs
        split at hs
        · obtain ⟨-, rfl⟩ := Prod.mk.inj (Option.some.inj hs); exact nofun
        · split at hs
          · obtain ⟨-, rfl⟩ := Prod.mk.inj (Option.some.inj hs); exact onOkTry_leaves nofun
          · cases hs
      | cons sn rest =>
        simp only [frameStep, buildStep, Option.some.injEq, Prod.mk.injEq] at hs
        obtain ⟨-, rfl⟩ := hs
        split
        · exact nofun
        · split <;> exact nofun
    case settle => obtain ⟨-, rfl⟩ := Prod.mk.inj (Option.some.inj hs); exact nofun
    case snapshot =>
      simp only [frameStep, buildStep] at hs
      split at hs
      · obtain ⟨-, rfl⟩ := Prod.mk.inj (Option.some.inj hs); trivial
      · obtain ⟨⟨w1, r⟩, -, he⟩ := Option.map_eq_some'.1 hs
        obtain ⟨-, rfl⟩ := Prod.mk.inj he
        exact onOk_leaves trivial
    all_goals
      have ⟨⟨w1, r⟩, _, he⟩ := Option.map_eq_some'.1 hs
      have ⟨_, ho⟩ := Prod.mk.inj he
      subst ho
    case clone p => exact onOk_leaves (h.afterClone_leaves _ _)
    case forceStorage vm => exact onOkTry_leaves nofun
    case forceVirsh vm => exact onOkTry_leaves nofun
    case cleanStorage e => exact onOk_leaves trivial
    case resize => exact onOk_leaves trivial
    case shutdownPoll vm => split <;> exact nofun
    all_goals exact onOk_leaves nofun

theorem storageCmd_reaped (c : Cmd σ) (ro re : Bool) :
    h.storageCmd w c (reapedEnv (c.exec w.fs).1).proc ro re =
      some ({ w with fs := (c.exec w.fs).2 },
        h.ssh.run AsyncSSH.defaultCb c.text ro true re (reapedEnv (c.exec w.fs).1).proc) :=
  h.storageCmd_of_agrees (by simp [Proc.agrees, reapedEnv])

/-- In the environment of its reaped child, every frame that waits for no child steps, unless it
is the acquire of a held lock. -/
theorem frameStep_finish {fr : Frame} (hw : ¬ fr.Waiting)
    (hl : ∀ n, fr = .build n .acquire → n ∉ w.locks) :
    (h.frameStep w (reapedEnv (h.finishCode w fr)) fr).isSome := by
  have hwf : ∀ c, (reapedEnv c).proc.wf := fun _ => rfl
  cases fr with
  | getVm n pc =>
    cases pc
    case build => exact absurd trivial hw
    all_goals
      simp [frameStep, getVmStep, finishCode, storageCmd_reaped, h.externalCmd_of_wf (hwf _)]
  | build n pc =>
    cases pc
    case acquire => simp [frameStep, buildStep, hl n rfl]
    case parent => exact absurd trivial hw
    case script vm rest => cases rest <;> simp [frameStep, buildStep, reapedEnv]
    case snapshot =>
      simp only [frameStep, buildStep, finishCode]
      split <;> simp [*, storageCmd_reaped]
    all_goals
      simp [frameStep, buildStep, finishCode, storageCmd_reaped, h.externalCmd_of_wf (hwf _)]

/-- Every running task of `s` is active. -/
def ActiveInv (s : Sys σ) : Prop := ∀ t ∈ s.tasks, t.Active

variable {s s' : Sys σ} {i : Nat}

theorem step_activeInv (hl : LockInv s) (ha : ActiveInv s) (hs : h.step s i env = some s') :
    ActiveInv s' := by
  unfold step at hs
  split at hs
  · cases hs
  rename_i t hget
  obtain ⟨hlt, rfl⟩ := List.getElem?_eq_some_iff.1 hget
  obtain ⟨⟨w', t'⟩, ht, rfl⟩ := Option.map_eq_some'.1 hs
  have hmem := List.getElem_mem hlt
  generalize s.tasks[i] = t at ht hmem
  rcases t with (_ | ⟨fr, rest⟩) | r <;> simp only [taskStep, reduceCtorEq] at ht
  obtain ⟨⟨w1, o⟩, hf, he⟩ := Option.map_eq_some'.1 ht
  obtain ⟨-, rfl⟩ := Prod.mk.inj he
  exact fun t ht' => (List.mem_or_eq_of_mem_set ht').elim (ha t) fun e =>
    e ▸ Out.apply_active (h.frameStep_leaves hf) (hl.shaped _ hmem) env.rnd

theorem run_activeInv (sched : List (Nat × Env)) (hl : LockInv s) (ha : ActiveInv s)
    (hs : h.run s sched = some s') : ActiveInv s' := by
  induction sched generalizing s with
  | nil => exact (Option.some.inj hs) ▸ ha
  | cons a sched ih =>
    obtain ⟨j, e⟩ := a
    obtain ⟨s1, h1, h2⟩ := Option.bind_eq_some.1 hs
    exact ih (h.step_lockInv hl h1) (h.step_activeInv hl ha h1) h2

theorem activeInv_start (fs : σ) (vms : List VmRec) (names vmNames : List String) :
    ActiveInv (⟨⟨fs, [], vms⟩, names.map Task.buildImage ++ vmNames.map h.getVm⟩ : Sys σ) := by
  simp only [ActiveInv, List.mem_append, List.mem_map]
  rintro t (⟨m, -, rfl⟩ | ⟨m, -, rfl⟩)
  · exact nofun
  · rcases h.getVm_cases m with ⟨e, he⟩ | ⟨_, _, -, -, he⟩ <;> rw [he]
    · trivial
    · exact nofun

theorem step_of_top {fr : Frame} {rest : List Frame} (hi : s.tasks[i]? = some (.run (fr :: rest)))
    (hq : (h.frameStep s.world env fr).isSome) : (h.step s i env).isSome := by
  simpa [step, hi, taskStep] using hq

/-- In a state where the lock discipline holds and every task is active, as long as some call
has not ended, some task's top frame waits for no child and is no acquire of a held lock: a
task blocked at a held lock is never the only one left, since the holder of that lock is at
its probe. -/
theorem exists_free_top (hl : LockInv s) (ha : ActiveInv s)
    (hrun : ∃ t ∈ s.tasks, ∀ r, t ≠ .done r) :
    ∃ (j : Nat) (fr : Frame) (rest : List Frame), s.tasks[j]? = some (.run (fr :: rest)) ∧
      ¬ fr.Waiting ∧ ∀ n, fr = .build n .acquire → n ∉ s.world.locks := by
  obtain ⟨t, ht, hnd⟩ := hrun
  obtain ⟨i, hi⟩ := List.mem_iff_getElem?.1 ht
  have hact := ha t ht
  rcases t with (_ | ⟨fr, rest⟩) | r
  · exact hact.elim
  · by_cases hb : ∃ n, fr = .build n .acquire ∧ n ∈ s.world.locks
    · -- the lock is held, so some task is at the probe of its name
      obtain ⟨n, -, hn⟩ := hb
      obtain ⟨t', ht', hp⟩ := List.countP_pos_iff.1 (hl.held n ▸ List.count_pos_iff.2 hn)
      obtain ⟨j, hj⟩ := List.mem_iff_getElem?.1 ht'
      rcases t' with (_ | ⟨fr', rest'⟩) | r' <;>
        simp only [Task.probing, decide_eq_true_eq, Bool.false_eq_true] at hp
      subst hp
      exact ⟨j, _, rest', hj, nofun, fun m hm => by cases hm⟩
    · exact ⟨i, fr, rest, hi, hact, fun n hn hmem => hb ⟨n, hn, hmem⟩⟩
  · exact absurd rfl (hnd r)

/-- Concurrent `build_image` and `get_vm` calls never deadlock: under every schedule, in every
state it reaches, as long as some call has not ended, some task can take its next step, with
its child reaped and printing nothing. -/
theorem calls_never_deadlock (fs : σ) (vms : List VmRec) (names vmNames : List String)
    (sched : List (Nat × Env))
    (hs : h.run ⟨⟨fs, [], vms⟩, names.map Task.buildImage ++ vmNames.map h.getVm⟩ sched = some s')
    (hrun : ∃ t ∈ s'.tasks, ∀ r, t ≠ .done r) :
    ∃ i env, env.proc.clean ∧ (h.step s' i env).isSome := by
  have hl := h.run_lockInv sched (h.lockInv_start fs vms names vmNames) hs
  have ha := h.run_activeInv sched (h.lockInv_start fs vms names vmNames)
    (h.activeInv_start fs vms names vmNames) hs
  obtain ⟨j, fr, rest, hj, hw, hfree⟩ := exists_free_top hl ha hrun
  exact ⟨j, _, reapedEnv_clean _, h.step_of_top hj (h.frameStep_finish hw hfree)⟩

/-! ### A call scheduled alone -/

theorem set_of_getElem? {α : Type} {l : List α} {i : Nat} {a : α} (h : l[i]? = some a) :
    l.set i a = l :=
  List.ext_getElem? fun j => by
    rw [List.getElem?_set]
    split
    · next e => subst e; simp [h, (List.getElem?_eq_some_iff.1 h).1]
    · rfl

/-- One call run to its end with no other task, as `runAlone` runs it, is a schedule of the
host: resuming only that task, the scheduler reaches the world and the result `runAlone`
computes, in at most as many steps, and every other task is where it was. -/
theorem run_solo {s : Sys σ} {i : Nat} {t : Task} (hi : s.tasks[i]? = some t) {envs : List Env}
    {w' : World σ} {r : Except PyErr (Option VmRec)} (hr : h.runAlone s.world t envs = some (w', r)) :
    ∃ k ≤ envs.length,
      h.run s ((envs.take k).map fun e => (i, e)) = some ⟨w', s.tasks.set i (.done r)⟩ := by
  induction envs generalizing s t with
  | nil =>
    rcases t with stack | r0
    · cases hr
    · obtain ⟨rfl, rfl⟩ := Prod.mk.inj (Option.some.inj hr)
      exact ⟨0, le_rfl, by rw [set_of_getElem? hi]; rfl⟩
  | cons env envs ih =>
    rcases t with stack | r0
    · obtain ⟨⟨w1, t1⟩, h1, h2⟩ := Option.bind_eq_some.1 hr
      have hlt := (List.getElem?_eq_some_iff.1 hi).1
      obtain ⟨k, hk, hrun⟩ := @ih ⟨w1, s.tasks.set i t1⟩ t1 (List.getElem?_set_self hlt) h2
      refine ⟨k + 1, by simpa using hk, ?_⟩
      simpa [run, step, hi, h1, List.set_set] using hrun
    · obtain ⟨rfl, rfl⟩ := Prod.mk.inj (Option.some.inj hr)
      exact ⟨0, Nat.zero_le _, by rw [set_of_getElem? hi]; rfl⟩

/-! ### The VMs `get_vm` returns -/

theorem onOk_ret {r : Except PyErr RunResult} {k : Out} {v : Option VmRec}
    (ho : onOk r k = .ret v) : k = .ret v := by
  cases r
  · cases ho
  · exact ho

theorem onOkTry_ret {name vm : String} {r : Except PyErr RunResult} {k : Out}
    {v : Option VmRec} (ho : onOkTry name vm r k = .ret v) : k = .ret v := by
  cases r
  · cases ho
  · exact ho

/-- A step returns a VM only at the end of `get_vm`, which has appended it to `Host.vms`; every
return of `build_image` is `None`. -/
theorem frameStep_ret {fr : Frame} {v : Option VmRec} (hs : h.frameStep w env fr = some (w', .ret v))
    (vm : VmRec) (hv : v = some vm) : vm ∈ w'.vms := by
  subst hv
  cases fr with
  | getVm n pc =>
    cases pc
    case build => cases hs
    all_goals have ⟨⟨w1, r⟩, _, he⟩ := Option.map_eq_some'.1 hs
    case bootCreate rnd name conf =>
      cases r <;> cases he
      exact List.mem_append_right _ (List.mem_singleton_self _)
    case bootCopy => cases onOk_ret (Prod.mk.inj he).2
    all_goals exact absurd (onOk_ret (Prod.mk.inj he).2) (h.confKey_of (· ≠ _) nofun fun _ => nofun)
  | build n pc =>
    cases pc
    case acquire =>
      simp only [frameStep, buildStep] at hs
      split at hs <;> cases hs
    case parent => cases hs
    case script vm rest =>
      cases rest with
      | nil =>
        simp only [frameStep, buildStep] at hs
        split at hs
        · cases hs
        · split at hs
          · cases onOkTry_ret (Prod.mk.inj (Option.some.inj hs)).2
          · cases hs
      | cons sn rest =>
        simp only [frameStep, buildStep, Option.some.injEq, Prod.mk.injEq] at hs
        obtain ⟨-, ho⟩ := hs
        split at ho
        · cases ho
        · split at ho <;> cases ho
    case settle => cases hs
    case snapshot =>
      simp only [frameStep, buildStep] at hs
      split at hs
      · cases hs
      · obtain ⟨⟨w1, r⟩, -, he⟩ := Option.map_eq_some'.1 hs
        cases onOk_ret (Prod.mk.inj he).2
    all_goals
      have ⟨⟨w1, r⟩, _, he⟩ := Option.map_eq_some'.1 hs
      have ho := (Prod.mk.inj he).2
    case probe =>
      unfold probeOut afterProbe at ho
      repeat' split at ho
      all_goals cases ho
    case clone p => unfold afterClone at ho; split at ho <;> cases onOk_ret ho
    case shutdownPoll vm => split at ho <;> cases ho
    case forceVirsh vm => cases onOkTry_ret ho
    case forceStorage vm => cases onOkTry_ret ho
    all_goals cases onOk_ret ho

theorem step_registered (hr : ∀ t ∈ s.tasks, t.Registered s.world) (hs : h.step s i env = some s') :
    ∀ t ∈ s'.tasks, t.Registered s'.world := by
  unfold step at hs
  split at hs
  · cases hs
  rename_i t hget
  obtain ⟨⟨w', t'⟩, ht, rfl⟩ := Option.map_eq_some'.1 hs
  have hpre := h.taskStep_vms ht
  show ∀ u ∈ s.tasks.set i t', u.Registered w'
  intro u hu
  rcases List.mem_or_eq_of_mem_set hu with hu | rfl
  · -- the other tasks: `Host.vms` only grew
    have hru := hr u hu
    rcases u with _ | ((_ | _) | (_ | (_ | vm)))
    all_goals first | trivial | exact hpre.subset hru
  rcases t with (_ | ⟨fr, rest⟩) | r <;> simp only [taskStep, reduceCtorEq] at ht
  obtain ⟨⟨w1, o⟩, hf, he⟩ := Option.map_eq_some'.1 ht
  obtain ⟨rfl, rfl⟩ := Prod.mk.inj he
  rcases o with fr' | ⟨child, fr'⟩ | v | e
  case ret =>
    cases rest with
    | nil => rcases v with _ | vm; trivial; exact h.frameStep_ret hf vm rfl
    | cons => trivial
  all_goals trivial

theorem run_registered (sched : List (Nat × Env)) (hr : ∀ t ∈ s.tasks, t.Registered s.world)
    (hs : h.run s sched = some s') : ∀ t ∈ s'.tasks, t.Registered s'.world := by
  induction sched generalizing s with
  | nil => exact (Option.some.inj hs) ▸ hr
  | cons a sched ih =>
    obtain ⟨s1, h1, h2⟩ := Option.bind_eq_some.1 hs
    exact ih (h.step_registered hr h1) h2

theorem registered_start (fs : σ) (vms : List VmRec) (names vmNames : List String) :
    ∀ t ∈ names.map Task.buildImage ++ vmNames.map h.getVm, t.Registered (⟨fs, [], vms⟩ : World σ) := by
  simp only [List.mem_append, List.mem_map]
  rintro t (⟨m, -, rfl⟩ | ⟨m, -, rfl⟩)
  · trivial
  · rcases h.getVm_cases m with ⟨e, he⟩ | ⟨_, _, -, -, he⟩ <;> rw [he] <;> trivial

/-- Under every schedule of concurrent `build_image` and `get_vm` calls, a `get_vm` call that
has returned a VM finds it in `Host.vms` from then on, whatever the other calls do: it was
appended before the call returned, and no step removes a VM from the list. -/
theorem returned_vm_stays_listed (fs : σ) (vms : List VmRec) (names vmNames : List String)
    (sched : List (Nat × Env))
    (hs : h.run ⟨⟨fs, [], vms⟩, names.map Task.buildImage ++ vmNames.map h.getVm⟩ sched = some s')
    {vm : VmRec} (hdone : Task.done (.ok (some vm)) ∈ s'.tasks) : vm ∈ s'.world.vms :=
  h.run_registered sched (h.registered_start fs vms names vmNames) hs _ hdone

end Host

/-- Two builds of `base` once the first has taken the lock: the second is blocked at the lock,
and the first, at its probe, can go on. -/
theorem calls_never_deadlock_second_blocked :
    twoStageHost.run ⟨⟨{ vols := ["minimal"] }, [], []⟩,
        ["base", "base"].map Task.buildImage ++ ([] : List String).map twoStageHost.getVm⟩
        [(0, {})] =
      some ⟨⟨{ vols := ["minimal"] }, ["base"], []⟩, [.run [.build "base" .probe], Task.buildImage "base"]⟩ ∧
    (∃ t ∈ ([.run [.build "base" .probe], Task.buildImage "base"] : List Task), ∀ r, t ≠ .done r) ∧
    ∃ i env, env.proc.clean ∧ (twoStageHost.step ⟨⟨{ vols := ["minimal"] }, ["base"], []⟩,
      [.run [.build "base" .probe], Task.buildImage "base"]⟩ i env).isSome := by
  refine ⟨?hr, ?hn, Host.calls_never_deadlock twoStageHost _ _ _ _ _ ?hr ?hn⟩
  · decide
  · exact ⟨_, List.mem_cons_self _ _, fun _ => nofun⟩

/-- `get_vm("worker")` runs to its end beside a build of `base`, which then runs too: the VM
`vm1` it returned is still listed. -/
theorem returned_vm_stays_listed_worker :
    workerHost.run ⟨⟨{ vols := ["base", "worker"] }, [], []⟩,
        ["base"].map Task.buildImage ++ ["worker"].map workerHost.getVm⟩
        [(1, {}), (1, { rnd := "r1" }), (1, { rnd := "vm1" }), (1, { rnd := "c" }), (1, {}),
          (1, {}), (0, {}), (0, {})] =
      some ⟨⟨{ vols := ["r1", "base", "worker"] }, [], [⟨"vm1", "r1"⟩]⟩,
        [.done (.ok none), .done (.ok (some ⟨"vm1", "r1"⟩))]⟩ ∧
    Task.done (.ok (some ⟨"vm1", "r1"⟩)) ∈
      ([.done (.ok none), .done (.ok (some ⟨"vm1", "r1"⟩))] : List Task) ∧
    (⟨"vm1", "r1"⟩ : VmRec) ∈ [(⟨"vm1", "r1"⟩ : VmRec)] := by
  refine ⟨?hr, ?hm, Host.returned_vm_stays_listed workerHost _ _ _ _ _ ?hr ?hm⟩
  · decide
  · decide

end RallyCI
