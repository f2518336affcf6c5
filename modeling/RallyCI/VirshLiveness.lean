import RallyCI.VirshProgress

/-! Concurrent `build_image` and `get_vm` calls of `rallyci/providers/virsh.py` can always all
end when no image is its own ancestor, and a cycle of parents never returns. -/
namespace RallyCI

namespace Host

variable {σ : Type} (h : Host σ)

/-- The image `build_image(n)` builds first: the truthy `parent` of `n`'s entry. -/
def parentOf (n : String) : Option String :=
  (h.images.lookup n).bind fun conf => truthyStr conf.parent

/-- Following `parent` from `n` reaches an image without one in at most `k` steps. -/
def parentsEnd : Nat → String → Bool
  | 0, n => (h.parentOf n).isNone
  | k + 1, n =>
    match h.parentOf n with
    | none => true
    | some p => parentsEnd k p

/-- A bound on the steps of `build_image(n)` from its lock on, its parents' builds included,
for chains of parents of at most `k` steps. -/
def acquireRank : Nat → String → Nat
  | 0, _ => 11
  | k + 1, n =>
    match h.parentOf n with
    | none => 11
    | some p => 12 + acquireRank k p

/-- A bound on the steps a frame still takes before it returns or raises, when the children it
runs are reaped and find no address. A waiting frame counts as the frame it resumes to. -/
def frameRank (k : Nat) : Frame → Nat
  | .build n .acquire => h.acquireRank k n
  | .build n .probe => h.acquireRank k n - 1
  | .build _ (.parent _) | .build _ (.clone _) => 10
  | .build _ (.listFiles _) => 9
  | .build _ (.bootCopy _ _) => 8
  | .build _ (.bootCreate _ _) => 7
  | .build _ (.shutdownPoll _) => 5
  | .build _ (.forceVirsh _) => 4
  | .build _ (.create _) | .build _ (.script _ _) | .build _ (.forceStorage _) => 3
  | .build _ (.wget _) | .build _ (.cleanVirsh _ _) | .build _ .settle => 2
  | .build _ .resize | .build _ (.cleanStorage _) | .build _ .snapshot => 1
  | .getVm _ .build | .getVm _ (.clone _) => 4
  | .getVm _ (.listFiles _ _) => 3
  | .getVm _ (.bootCopy _ _ _) => 2
  | .getVm _ (.bootCreate _ _ _) => 1

/-- The steps a task still takes: the sum over its frames. -/
def taskRank (k : Nat) : Task → Nat
  | .run stack => (stack.map (h.frameRank k)).sum
  | .done _ => 0

/-- The steps the tasks of `s` still take together. -/
def sysRank (k : Nat) (s : Sys σ) : Nat := (s.tasks.map (h.taskRank k)).sum

end Host

/-- A step outcome below the rank `r` of the frame it ends, for the frame rank `rank`. -/
def Out.Descends (rank : Frame → Nat) (r : Nat) : Out → Prop
  | .goto fr => rank fr < r
  | .call child fr => rank child + rank fr < r
  | .ret _ | .raise _ => 0 < r

/-- A task of builds of names of `N`, each frame at its lock, at its probe, or waiting for the
build of a parent. -/
def Task.InCycle (N : List String) : Task → Prop
  | .run stack => stack ≠ [] ∧ ∀ fr ∈ stack, ∃ n ∈ N,
      fr = .build n .acquire ∨ fr = .build n .probe ∨ ∃ p, fr = .build n (.parent p)
  | .done _ => False

namespace Host

variable {σ : Type} (h : Host σ) {w w' : World σ} {env : Env} {o : Out} {k : Nat}

theorem eleven_le_acquireRank (k : Nat) (n : String) : 11 ≤ h.acquireRank k n := by
  cases k with
  | zero => exact le_rfl
  | succ k => simp only [acquireRank]; split <;> omega

theorem acquireRank_succ {n : String} (he : h.parentsEnd k n) :
    h.acquireRank (k + 1) n = h.acquireRank k n := by
  induction k generalizing n with
  | zero =>
    simp only [parentsEnd, Option.isNone_iff_eq_none] at he
    simp [acquireRank, he]
  | succ k ih =>
    rw [acquireRank.eq_2 h n (k + 1), acquireRank.eq_2 h n k]
    cases hp : h.parentOf n with
    | none => rfl
    | some p =>
      simp only [parentsEnd, hp] at he
      simp only [ih he]

theorem frameRank_resume (K : Nat) (rnd : String) (fr : Frame) :
    h.frameRank K (fr.resume rnd) = h.frameRank K fr := by
  cases fr with
  | build n pc => cases pc <;> rfl
  | getVm n pc => cases pc <;> rfl

theorem onOk_descends {rank : Frame → Nat} {r : Nat} {x : Except PyErr RunResult} {k : Out}
    (hr : 0 < r) (hk : k.Descends rank r) : (onOk x k).Descends rank r := by
  cases x
  · exact hr
  · exact hk

theorem onOkTry_descends {K r : Nat} {name vm : String} {x : Except PyErr RunResult} {k : Out}
    (hr : 2 < r) (hk : k.Descends (h.frameRank K) r) :
    (onOkTry name vm x k).Descends (h.frameRank K) r := by
  cases x
  · exact hr
  · exact hk

/-- The rest of `build_image(n)` after a probe that found no dataset stays below the probe: the
parent's build it calls is one chain of parents shorter. -/
theorem afterProbe_descends {K : Nat} {n : String} (he : h.parentsEnd K n) (rnd : String) :
    (h.afterProbe n rnd).Descends (h.frameRank K) (h.frameRank K (.build n .probe)) := by
  have h11 := h.eleven_le_acquireRank K n
  unfold afterProbe
  split
  · show 0 < h.acquireRank K n - 1; omega
  · next conf hc =>
    split
    · next p hp =>
      have hpo : h.parentOf n = some p := by simp [parentOf, hc, hp]
      cases K with
      | zero => simp [parentsEnd, hpo] at he
      | succ k =>
        simp only [parentsEnd, hpo] at he
        show h.acquireRank (k + 1) p + 10 < h.acquireRank (k + 1) n - 1
        rw [h.acquireRank_succ he, acquireRank.eq_2 h n k]
        simp only [hpo]
        omega
    · split
      · show 3 < h.acquireRank K n - 1; omega
      · split
        · show 2 < h.acquireRank K n - 1; omega
        · show 9 < h.acquireRank K n - 1; omega

/-- Every step of a frame, in an environment that finds no address and, at `shutdown`'s poll,
reports the domain gone, lowers the frame's rank: to a frame below it, to a called parent's
build and the waiting caller together below it, or to a return or a raise. -/
theorem frameStep_descends {K : Nat} (hK : ∀ n, h.parentsEnd K n) {fr : Frame}
    (hip : env.ip = none) (hpoll : ∀ n vm, fr = .build n (.shutdownPoll vm) → env = reapedEnv 1)
    (hs : h.frameStep w env fr = some (w', o)) : o.Descends (h.frameRank K) (h.frameRank K fr) := by
  cases fr with
  | getVm n pc =>
    cases pc
    case build => cases hs
    all_goals have ⟨⟨w1, r⟩, _, he⟩ := Option.map_eq_some'.1 hs
    case bootCreate rnd vm conf =>
      cases r <;> obtain ⟨-, rfl⟩ := Prod.mk.inj he <;> simp [Out.Descends, frameRank]
    all_goals
      obtain ⟨-, rfl⟩ := Prod.mk.inj he
      refine onOk_descends (by simp [frameRank]) ?_
      first
        | exact h.confKey_of _ (by simp [Out.Descends, frameRank]) fun _ => show 0 < _ by simp [frameRank]
        | simp [Out.Descends, frameRank]
  | build n pc =>
    have h11 := h.eleven_le_acquireRank K n
    cases pc
    case acquire =>
      simp only [frameStep, buildStep] at hs
      split at hs
      · cases hs
      · obtain ⟨-, rfl⟩ := Prod.mk.inj (Option.some.inj hs)
        show h.acquireRank K n - 1 < h.acquireRank K n; omega
    case probe =>
      obtain ⟨⟨w1, r⟩, -, he⟩ := Option.map_eq_some'.1 hs
      obtain ⟨-, rfl⟩ := Prod.mk.inj he
      unfold probeOut
      split
      · show 0 < h.acquireRank K n - 1; omega
      · show 0 < h.acquireRank K n - 1; omega
      · exact h.afterProbe_descends (hK n) _
    case parent => cases hs
    case script vm rest =>
      cases rest with
      | nil =>
        simp only [frameStep, buildStep, hip, Option.some.injEq, Prod.mk.injEq] at hs
        obtain ⟨-, rfl⟩ := hs
        simp [Out.Descends, frameRank]
      | cons sn rest =>
        simp only [frameStep, buildStep, Option.some.injEq, Prod.mk.injEq] at hs
        obtain ⟨-, rfl⟩ := hs
        split
        · simp [Out.Descends, frameRank]
        · obtain ⟨e, he⟩ := VM.runScript_raises env.ip ‹Script› [] true none none env.proc
          rw [he]
          simp [Out.Descends, frameRank]
    case settle =>
      obtain ⟨-, rfl⟩ := Prod.mk.inj (Option.some.inj hs)
      simp [Out.Descends, frameRank]
    case snapshot =>
      simp only [frameStep, buildStep] at hs
      split at hs
      · obtain ⟨-, rfl⟩ := Prod.mk.inj (Option.some.inj hs); simp [Out.Descends, frameRank]
      · obtain ⟨⟨w1, r⟩, -, he⟩ := Option.map_eq_some'.1 hs
        obtain ⟨-, rfl⟩ := Prod.mk.inj he
        exact onOk_descends (by simp [frameRank]) (by simp [Out.Descends, frameRank])
    case shutdownPoll vm =>
      obtain ⟨⟨w1, r⟩, hc, he⟩ := Option.map_eq_some'.1 hs
      obtain ⟨-, rfl, rfl⟩ := h.externalCmd_eq_some.1 hc
      obtain ⟨-, rfl⟩ := Prod.mk.inj he
      obtain rfl := hpoll n vm rfl
      -- the domain is reported gone, so the poll settles
      show h.frameRank K (.build n .settle) < 5
      simp [frameRank]
    all_goals
      have ⟨⟨w1, r⟩, _, he⟩ := Option.map_eq_some'.1 hs
      have ⟨_, ho⟩ := Prod.mk.inj he
      subst ho
    case clone p =>
      refine onOk_descends (by simp [frameRank]) ?_
      unfold afterClone; split <;> simp [Out.Descends, frameRank]
    case forceVirsh vm =>
      exact h.onOkTry_descends (by simp [frameRank]) (by simp [Out.Descends, frameRank])
    case forceStorage vm =>
      exact h.onOkTry_descends (by simp [frameRank]) (by simp [Out.Descends, frameRank])
    all_goals exact onOk_descends (by simp [frameRank]) (by simp [Out.Descends, frameRank])

theorem taskRank_apply_lt {K : Nat} {o : Out} {fr : Frame}
    (ho : o.Descends (h.frameRank K) (h.frameRank K fr)) (rnd : String) (rest : List Frame) :
    h.taskRank K (o.apply rnd rest) < h.taskRank K (.run (fr :: rest)) := by
  cases o with
  | goto fr' => simpa [taskRank, Out.apply] using ho
  | call child fr' => simp only [Out.Descends] at ho; simp [taskRank, Out.apply]; omega
  | ret v =>
    cases rest with
    | nil => exact ho
    | cons g rest =>
      simp only [Out.Descends] at ho
      simp [taskRank, Out.apply, frameRank_resume]; omega
  | raise e => simp only [Out.Descends] at ho; simp [taskRank, Out.apply]; omega

theorem sum_map_set_lt {α : Type} {f : α → Nat} {l : List α} {i : Nat} {a b : α}
    (hi : l[i]? = some a) (hlt : f b < f a) : ((l.set i b).map f).sum < (l.map f).sum := by
  induction l generalizing i with
  | nil => cases hi
  | cons x xs ih =>
    cases i with
    | zero =>
      simp only [List.getElem?_cons_zero, Option.some.injEq] at hi
      subst hi
      simpa using hlt
    | succ i => simpa using ih (by simpa using hi)

variable {s : Sys σ} {j : Nat}

/-- Resuming a task whose top frame is free, in the environment of its reaped child, lowers the
rank of the tasks. -/
theorem step_finish {K : Nat} (hK : ∀ n, h.parentsEnd K n) {fr : Frame} {rest : List Frame}
    (hj : s.tasks[j]? = some (.run (fr :: rest))) (hw : ¬ fr.Waiting)
    (hfree : ∀ n, fr = .build n .acquire → n ∉ s.world.locks) :
    ∃ s1, h.step s j (reapedEnv (h.finishCode s.world fr)) = some s1 ∧
      h.sysRank K s1 < h.sysRank K s := by
  obtain ⟨⟨w', o⟩, hf⟩ := Option.isSome_iff_exists.1 (h.frameStep_finish hw hfree)
  have hd := h.frameStep_descends hK rfl (fun n vm e => by subst e; rfl) hf
  exact ⟨⟨w', s.tasks.set j (o.apply (reapedEnv (h.finishCode s.world fr)).rnd rest)⟩,
    by simp [step, hj, taskStep, hf], sum_map_set_lt hj (h.taskRank_apply_lt hd _ rest)⟩

/-- From a state where the lock discipline holds and every task is active, some schedule of
reaped children ends every call. -/
theorem finish_from {K : Nat} (hK : ∀ n, h.parentsEnd K n) (m : Nat) :
    ∀ s : Sys σ, h.sysRank K s = m → LockInv s → ActiveInv s →
      ∃ sched : List (Nat × Env), (∀ e ∈ sched, e.2.proc.clean) ∧
        ∃ s', h.run s sched = some s' ∧ ∀ t ∈ s'.tasks, ∃ r, t = .done r := by
  induction m using Nat.strong_induction_on with
  | _ m ih =>
    intro s hm hl ha
    by_cases hall : ∀ t ∈ s.tasks, ∃ r, t = .done r
    · exact ⟨[], nofun, s, rfl, hall⟩
    have hrun : ∃ t ∈ s.tasks, ∀ r, t ≠ .done r := by push_neg at hall; exact hall
    obtain ⟨j, fr, rest, hj, hw, hfree⟩ := exists_free_top hl ha hrun
    obtain ⟨s1, h1, hlt⟩ := h.step_finish hK hj hw hfree
    obtain ⟨sched, hc, s', h2, hdone⟩ :=
      ih _ (hm ▸ hlt) s1 rfl (h.step_lockInv hl h1) (h.step_activeInv hl ha h1)
    exact ⟨(j, reapedEnv (h.finishCode s.world fr)) :: sched,
      List.forall_mem_cons.2 ⟨reapedEnv_clean _, hc⟩, s',
      by simp only [run, h1, Option.some_bind, h2], hdone⟩

/-- When following `parent` from any image ends, within as many steps as there are images (no
image is its own ancestor), concurrent `build_image` and `get_vm` calls can always all end:
from every state a schedule reaches, some continuation in which every child is reaped and
prints nothing ends every call, by a return or a raise. -/
theorem calls_can_all_end (hK : ∀ n, h.parentsEnd h.images.length n) (fs : σ) (vms : List VmRec)
    (names vmNames : List String) (sched : List (Nat × Env)) {s' : Sys σ}
    (hs : h.run ⟨⟨fs, [], vms⟩, names.map Task.buildImage ++ vmNames.map h.getVm⟩ sched =
      some s') :
    ∃ sched' : List (Nat × Env), (∀ e ∈ sched', e.2.proc.clean) ∧
      ∃ s'', h.run s' sched' = some s'' ∧ ∀ t ∈ s''.tasks, ∃ r, t = .done r :=
  h.finish_from hK _ s' rfl (h.run_lockInv sched (h.lockInv_start fs vms names vmNames) hs)
    (h.run_activeInv sched (h.lockInv_start fs vms names vmNames)
      (h.activeInv_start fs vms names vmNames) hs)

/-! ### A cycle of parents -/

variable {N : List String} {fs : σ} {env : Env} {i : Nat} {s' : Sys σ}

theorem afterProbe_of_parentOf {n p : String} (hp : h.parentOf n = some p) (rnd : String) :
    h.afterProbe n rnd = .call (.build p .acquire) (.build n (.parent p)) := by
  simp only [parentOf, Option.bind_eq_some] at hp
  obtain ⟨conf, hc, hpc⟩ := hp
  simp [afterProbe, hc, hpc]

/-- One step from builds of a cycle `N` of images none of which the storage holds: with a
reaped child, a probe finds its image absent and calls the build of its parent, so every task
stays in the cycle and the storage is untouched. -/
theorem step_inCycle (hcyc : ∀ n ∈ N, ∃ p ∈ N, h.parentOf n = some p)
    (habs : ∀ n ∈ N, ((h.storage.exist n).exec fs).1 ≠ 0 ∧ ((h.storage.exist n).exec fs).2 = fs)
    (hfs : s.world.fs = fs) (hc : ∀ t ∈ s.tasks, t.InCycle N) (hclean : env.proc.clean)
    (hs : h.step s i env = some s') : s'.world.fs = fs ∧ ∀ t ∈ s'.tasks, t.InCycle N := by
  unfold step at hs
  split at hs
  · cases hs
  rename_i t hget
  obtain ⟨⟨w', t'⟩, ht, rfl⟩ := Option.map_eq_some'.1 hs
  have hct := hc t (List.mem_iff_getElem?.2 ⟨i, hget⟩)
  rcases t with (_ | ⟨fr, rest⟩) | r
  · exact (hct.1 rfl).elim
  swap
  · exact hct.elim
  obtain ⟨-, hall⟩ := hct
  obtain ⟨⟨w1, o⟩, hf, he⟩ := Option.map_eq_some'.1 ht
  obtain ⟨rfl, rfl⟩ := Prod.mk.inj he
  -- the task's new stack, from its top frame's step
  suffices w1.fs = fs ∧ (o.apply env.rnd rest).InCycle N from
    ⟨this.1, fun u hu => (List.mem_or_eq_of_mem_set hu).elim (hc u) fun e => e ▸ this.2⟩
  have hrest := fun g hg => hall g (List.mem_cons_of_mem _ hg)
  obtain ⟨n, hn, rfl | rfl | ⟨p, rfl⟩⟩ := hall fr (List.mem_cons_self _ _)
  · simp only [frameStep, buildStep] at hf
    split at hf
    · cases hf
    · obtain ⟨rfl, rfl⟩ := Prod.mk.inj (Option.some.inj hf)
      exact ⟨hfs, List.cons_ne_nil _ _,
        List.forall_mem_cons.2 ⟨⟨n, hn, .inr (.inl rfl)⟩, hrest⟩⟩
  · obtain ⟨⟨w2, r⟩, hc2, he2⟩ := Option.map_eq_some'.1 hf
    obtain ⟨ha, rfl, rfl⟩ := h.storageCmd_eq_some.1 hc2
    obtain ⟨rfl, rfl⟩ := Prod.mk.inj he2
    obtain ⟨hcode, hkeep⟩ := habs n hn
    obtain ⟨p, hp, hpo⟩ := hcyc n hn
    rw [hfs] at ha ⊢
    have hrc := Proc.clean_returncode hclean ha
    have hcb : ∀ l, env.proc.line = some l → AsyncSSH.defaultCb l = .ok () := fun l hl => by
      simpa [AsyncSSH.feed, hl] using Proc.clean_feed hclean
    rw [existAnswer_run _ _ _ _ hcb]
    simp only [hrc, Option.some.injEq, hcode, or_false, reduceCtorEq, decide_False, probeOut,
      h.afterProbe_of_parentOf hpo]
    exact ⟨hkeep, List.cons_ne_nil _ _, List.forall_mem_cons.2 ⟨⟨p, hp, .inl rfl⟩,
      List.forall_mem_cons.2 ⟨⟨n, hn, .inr (.inr ⟨p, rfl⟩)⟩, hrest⟩⟩⟩
  · cases hf

theorem run_inCycle (hcyc : ∀ n ∈ N, ∃ p ∈ N, h.parentOf n = some p)
    (habs : ∀ n ∈ N, ((h.storage.exist n).exec fs).1 ≠ 0 ∧ ((h.storage.exist n).exec fs).2 = fs)
    (sched : List (Nat × Env)) (hclean : ∀ e ∈ sched, e.2.proc.clean) (hfs : s.world.fs = fs)
    (hc : ∀ t ∈ s.tasks, t.InCycle N) (hs : h.run s sched = some s') :
    s'.world.fs = fs ∧ ∀ t ∈ s'.tasks, t.InCycle N := by
  induction sched generalizing s with
  | nil => exact (Option.some.inj hs) ▸ ⟨hfs, hc⟩
  | cons a sched ih =>
    obtain ⟨s1, h1, h2⟩ := Option.bind_eq_some.1 hs
    have ⟨hfs1, hc1⟩ := h.step_inCycle hcyc habs hfs hc (hclean a (List.mem_cons_self _ _)) h1
    exact ih (fun e he => hclean e (List.mem_cons_of_mem _ he)) hfs1 hc1 h2

/-- `build_image` has no guard against a cycle of parents: when every image of `N` has its
parent in `N` and the storage holds none of them, under every schedule of builds of images of
`N` in which every child is reaped, none of them ever returns and the storage is never touched.
Each probe finds its image absent and calls the build of its parent, so the calls only nest
deeper; in CPython that ends in a `RecursionError` at the interpreter's recursion limit, which
the model's unbounded stacks do not have. -/
theorem cyclic_builds_never_return (hcyc : ∀ n ∈ N, ∃ p ∈ N, h.parentOf n = some p)
    (habs : ∀ n ∈ N, ((h.storage.exist n).exec fs).1 ≠ 0 ∧ ((h.storage.exist n).exec fs).2 = fs)
    (vms : List VmRec) (names : List String) (hnames : ∀ n ∈ names, n ∈ N)
    (sched : List (Nat × Env)) (hclean : ∀ e ∈ sched, e.2.proc.clean)
    (hs : h.run ⟨⟨fs, [], vms⟩, names.map Task.buildImage⟩ sched = some s') :
    s'.world.fs = fs ∧ ∀ t ∈ s'.tasks, ∀ v, t ≠ .done (.ok v) := by
  have hc := h.run_inCycle hcyc habs sched hclean rfl (fun t ht => ?_) hs
  · exact ⟨hc.1, fun t ht v e => by have := hc.2 t ht; rw [e] at this; exact this⟩
  obtain ⟨n, hn, rfl⟩ := List.mem_map.1 ht
  exact ⟨List.cons_ne_nil _ _, List.forall_mem_cons.2 ⟨⟨n, hnames n hn, .inl rfl⟩, nofun⟩⟩

end Host

/-- The host building `base` from `minimal` has no cycle of parents, and from the state where
the first of two builds of `base` holds the lock, some schedule of reaped children ends both. -/
theorem calls_can_all_end_two_builds :
    (∀ n, twoStageHost.parentsEnd twoStageHost.images.length n) ∧
    twoStageHost.run ⟨⟨{ vols := ["minimal"] }, [], []⟩,
        ["base", "base"].map Task.buildImage ++ ([] : List String).map twoStageHost.getVm⟩
        [(0, {})] =
      some ⟨⟨{ vols := ["minimal"] }, ["base"], []⟩, [.run [.build "base" .probe], Task.buildImage "base"]⟩ ∧
    ∃ sched' : List (Nat × Env), (∀ e ∈ sched', e.2.proc.clean) ∧
      ∃ s'', twoStageHost.run ⟨⟨{ vols := ["minimal"] }, ["base"], []⟩,
          [.run [.build "base" .probe], Task.buildImage "base"]⟩ sched' = some s'' ∧
        ∀ t ∈ s''.tasks, ∃ r, t = .done r := by
  have hK : ∀ n, twoStageHost.parentsEnd twoStageHost.images.length n := by
    intro n
    by_cases hb : n = "base"
    · subst hb; decide
    · have hp : twoStageHost.parentOf n = none := by
        by_cases hm : n = "minimal"
        · subst hm; decide
        · have e1 : (n == "minimal") = false := by simpa using hm
          have e2 : (n == "base") = false := by simpa using hb
          simp [Host.parentOf, twoStageHost, List.lookup_cons, e1, e2]
      simp [Host.parentsEnd, hp]
  refine ⟨hK, ?hr, Host.calls_can_all_end twoStageHost hK _ _ _ _ _ ?hr⟩
  decide

/-- A host whose images `a` and `b` are each other's parent. -/
def cycleHost : Host BtrfsVols where
  ssh := ⟨"root", "hv1", none, "22"⟩
  storage := BTRFS.backend "/srv"
  images := [("a", { parent := some "b" }), ("b", { parent := some "a" })]

/-- `build_image("a")` on an empty host: its probe finds no `a` and it calls the build of `b`,
which will call the build of `a` in turn. -/
theorem cyclic_builds_never_return_two_images :
    (∀ n ∈ ["a", "b"], ∃ p ∈ ["a", "b"], cycleHost.parentOf n = some p) ∧
    (∀ n ∈ ["a", "b"], ((cycleHost.storage.exist n).exec { vols := [] }).1 ≠ 0 ∧
      ((cycleHost.storage.exist n).exec { vols := [] }).2 = { vols := [] }) ∧
    (∀ n ∈ ["a"], n ∈ ["a", "b"]) ∧
    (∀ e ∈ [(0, reapedEnv 0), (0, reapedEnv 1)], e.2.proc.clean) ∧
    cycleHost.run ⟨⟨{ vols := [] }, [], []⟩, ["a"].map Task.buildImage⟩
        [(0, reapedEnv 0), (0, reapedEnv 1)] =
      some ⟨⟨{ vols := [] }, [], []⟩, [.run [.build "b" .acquire, .build "a" (.parent "b")]]⟩ ∧
    (({ vols := [] } : BtrfsVols) = { vols := [] } ∧
      ∀ t ∈ [Task.run [.build "b" .acquire, .build "a" (.parent "b")]], ∀ v, t ≠ .done (.ok v)) := by
  refine ⟨?hc, ?ha, ?hn, ?hk, ?hr,
    Host.cyclic_builds_never_return cycleHost ?hc ?ha _ _ ?hn _ ?hk ?hr⟩
  all_goals decide

end RallyCI
