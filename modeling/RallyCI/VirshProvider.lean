import RallyCI.VirshBuildImage

/-! `Provider` of `rallyci/providers/virsh.py`: `get_host` picks the least-loaded host, the load
of a host being the length of its `vms` list; `get_vms`, `VM.destroy`, `VM.shutdown` and
`cleanup` run one after another on the provider's hosts. -/
namespace RallyCI

namespace Host

variable {σ : Type} (h : Host σ)

/-- `VM.destroy`: `virsh destroy`, whose failure is ignored, then the storage's `destroy` of the
VM's `storage_name`. -/
def destroyVm (w : World σ) (vm : VmRec) (virsh store : Proc) :
    Option (World σ × Except PyErr Unit) :=
  (h.externalCmd w (VM.destroyCmd vm.name) virsh false false).bind fun (w1, r1) =>
    match r1 with
    | .error e => some (w1, .error e)
    | .ok _ =>
      (h.storageCmd w1 (h.storage.destroy vm.storageName) store false true).map fun (w2, r2) =>
        (w2, match r2 with
          | .error e => .error e
          | .ok _ => .ok ())

/-- `VM.shutdown()` with its default timeout 30: the guest is halted, the host polled, and the
VM destroyed when the loop gives up. -/
def shutdownVm (w : World σ) (vm : VmRec) (ip : Option String) (halt : Proc) (t0 : ℚ)
    (polls : List (Proc × ℚ)) (virsh store : Proc) : Option (World σ × Except PyErr Unit) :=
  match VM.shutdown h.ssh vm.name ip halt 30 t0 polls with
  | .error e => some (w, .error e)
  | .ok (.forced _) => h.destroyVm w vm virsh store
  | .ok _ => some (w, .ok ())

end Host

namespace Provider

/-- The loop of `get_host` over the hosts' VM counts from index `i` on, with the candidate
`best` and its count `vms`: only a strictly smaller count replaces the candidate. -/
def getHostLoop : List Nat → Nat → Nat → Nat → Nat
  | [], _, best, _ => best
  | n :: ns, i, best, vms =>
    if n < vms then getHostLoop ns (i + 1) i n else getHostLoop ns (i + 1) best vms

/-- `get_host`: the index of the host it returns, given each host's `len(h.vms)`. It starts
from `self.hosts[0]`, which raises `IndexError` on an empty pool. -/
def getHost (counts : List Nat) : Except PyErr Nat :=
  match counts with
  | [] => .error .indexError
  | n0 :: _ => .ok (getHostLoop counts 0 0 n0)

/-- `i` is the first index of a least count. -/
def FirstMin (counts : List Nat) (i : Nat) : Prop :=
  ∃ hi : i < counts.length, (∀ j (hj : j < counts.length), counts[i] ≤ counts[j]) ∧
    ∀ k (hk : k < i), counts[i] < counts[k]

theorem getHostLoop_firstMin (counts : List Nat) :
    ∀ (l : List Nat) (i best : Nat) (hb : best < counts.length), counts.drop i = l →
      (∀ j (hj : j < counts.length), j < i → counts[best] ≤ counts[j]) →
      (∀ k (hk : k < best), counts[best] < counts[k]) →
      FirstMin counts (getHostLoop l i best counts[best]) := by
  intro l
  induction l with
  | nil =>
    intro i best hb hl hle hlt
    have hi : counts.length ≤ i := List.drop_eq_nil_iff.1 hl
    exact ⟨hb, fun j hj => hle j hj (by omega), hlt⟩
  | cons n ns ih =>
    intro i best hb hl hle hlt
    have hi : i < counts.length := by
      by_contra hc; rw [List.drop_eq_nil_iff.2 (by omega)] at hl; cases hl
    rw [List.drop_eq_getElem_cons hi, List.cons.injEq] at hl
    obtain ⟨rfl, hl⟩ := hl
    unfold getHostLoop
    split
    · next hn =>
      exact ih (i + 1) i hi hl
        (fun j hj hji => by
          rcases Nat.lt_succ_iff_lt_or_eq.1 hji with hji | rfl
          · exact (hle j hj hji).trans' hn.le
          · exact le_rfl)
        (fun k hk => hn.trans_le (hle k _ hk))
    · next hn =>
      exact ih (i + 1) best hb hl
        (fun j hj hji => by
          rcases Nat.lt_succ_iff_lt_or_eq.1 hji with hji | rfl
          · exact hle j hj hji
          · exact Nat.le_of_not_lt hn)
        hlt

/-- `get_host` picks the least-loaded host, ties going to the earliest: on every non-empty
pool it returns the first index whose VM count is least, and on an empty pool it raises. -/
theorem getHost_least_loaded (counts : List Nat) :
    (counts = [] ∧ getHost counts = .error .indexError) ∨
      ∃ i, getHost counts = .ok i ∧ FirstMin counts i := by
  cases counts with
  | nil => exact .inl ⟨rfl, rfl⟩
  | cons n0 ns =>
    refine .inr ⟨_, rfl, ?_⟩
    exact getHostLoop_firstMin (n0 :: ns) _ 0 0 (by simp) rfl (fun j _ hj => absurd hj (by omega))
      (fun k hk => absurd hk (by omega))

example : getHost [2, 2, 1, 3] = .ok 2 := rfl
example : getHost [1, 1] = .ok 0 := rfl

end Provider

/-- The hosts of a provider, one `Host` per entry of `config["hosts"]`. -/
structure Provider (σ : Type) where
  hosts : List (Host σ)

/-- A call a job makes on the provider, with what the environment decides during it. -/
inductive Op where
  | getVms (names : List String) (envs : List (List Env))
  | destroy (k : Nat) (vm : VmRec) (virsh store : Proc)
  | shutdown (k : Nat) (vm : VmRec) (ip : Option String) (halt : Proc) (t0 : ℚ)
      (polls : List (Proc × ℚ)) (virsh store : Proc)
  | cleanup (vms : List (Nat × VmRec)) (procs : List (Proc × Proc))

namespace Provider

variable {σ : Type} (pv : Provider σ)

/-- The `get_vm` calls of `get_vms(names)` on the host `h`, in order, the first error ending
them: the host after them and the VMs they returned. -/
def getVmsLoop (h : Host σ) : World σ → List String → List (List Env) →
    Option (World σ × List VmRec)
  | w, [], _ => some (w, [])
  | _, _ :: _, [] => none
  | w, name :: names, envs :: rest =>
    (h.runAlone w (h.getVm name) envs).bind fun (w', r) =>
      match r with
      | .error _ => some (w', [])
      | .ok (some vm) => (getVmsLoop h w' names rest).map fun (w'', vms) => (w'', vm :: vms)
      | .ok none => getVmsLoop h w' names rest

/-- `cleanup(vms)`: each VM destroyed on its host in turn; the first error ends it. -/
def cleanupLoop : List (World σ) → List (Nat × VmRec) → List (Proc × Proc) → Option (List (World σ))
  | ws, [], _ => some ws
  | _, _ :: _, [] => none
  | ws, (k, vm) :: vms, (virsh, store) :: procs =>
    match pv.hosts[k]?, ws[k]? with
    | some h, some w =>
      (h.destroyVm w vm virsh store).bind fun (w', r) =>
        match r with
        | .error _ => some (ws.set k w')
        | .ok _ => cleanupLoop (ws.set k w') vms procs
    | _, _ => none

/-- One call on the provider: the hosts' states after it, and the VMs its `get_vm` calls
booted, with the index of their host. -/
def apply (ws : List (World σ)) : Op → Option (List (World σ) × List (Nat × VmRec))
  | .getVms names envs =>
    match getHost (ws.map fun w => w.vms.length) with
    | .error _ => some (ws, [])
    | .ok k =>
      match pv.hosts[k]?, ws[k]? with
      | some h, some w =>
        (getVmsLoop h w names envs).map fun (w', vms) => (ws.set k w', vms.map (k, ·))
      | _, _ => none
  | .destroy k vm virsh store =>
    match pv.hosts[k]?, ws[k]? with
    | some h, some w => (h.destroyVm w vm virsh store).map fun (w', _) => (ws.set k w', [])
    | _, _ => none
  | .shutdown k vm ip halt t0 polls virsh store =>
    match pv.hosts[k]?, ws[k]? with
    | some h, some w =>
      (h.shutdownVm w vm ip halt t0 polls virsh store).map fun (w', _) => (ws.set k w', [])
    | _, _ => none
  | .cleanup vms procs => (pv.cleanupLoop ws vms procs).map (·, [])

/-- A sequence of calls, with the VMs booted along it. -/
def runLog : List (World σ) → List Op → Option (List (World σ) × List (Nat × VmRec))
  | ws, [] => some (ws, [])
  | ws, op :: ops =>
    (pv.apply ws op).bind fun (ws', b) => (runLog ws' ops).map fun (ws'', b') => (ws'', b ++ b')

/-- A sequence of calls: the hosts' states after it. -/
def runOps (ws : List (World σ)) (ops : List Op) : Option (List (World σ)) :=
  (pv.runLog ws ops).map (·.1)

end Provider
end RallyCI

namespace RallyCI

/-- A frame of `build_image`. -/
def Frame.isBuild : Frame → Bool
  | .build _ _ => true
  | .getVm _ _ => false

/-- A step outcome of a `build_image` frame: it goes on in `build_image` frames, and returns
`None`. -/
def Out.InBuild : Out → Prop
  | .goto fr => fr.isBuild
  | .call child fr => child.isBuild ∧ fr.isBuild
  | .ret v => v = none
  | .raise _ => True

/-- The frames of a task above its bottom one belong to `build_image`. -/
def Task.BuildsAbove : Task → Prop
  | .run stack => ∀ fr ∈ stack.dropLast, fr.isBuild
  | .done _ => True

/-- What a call has added to `Host.vms`: the VM it returned, once it has. -/
def Task.booted : Task → List VmRec
  | .done (.ok (some vm)) => [vm]
  | _ => []

theorem Frame.isBuild_resume (g : Frame) (rnd : String) : (g.resume rnd).isBuild = g.isBuild := by
  cases g with
  | build m pc => cases pc <;> rfl
  | getVm m pc => cases pc <;> rfl

namespace Host

variable {σ : Type} (h : Host σ) {w w' : World σ} {env : Env} {o : Out}

theorem onOk_inBuild {r : Except PyErr RunResult} {k : Out} (hk : k.InBuild) : (onOk r k).InBuild := by
  cases r
  · trivial
  · exact hk

theorem onOkTry_inBuild {name vm : String} {r : Except PyErr RunResult} {k : Out} (hk : k.InBuild) :
    (onOkTry name vm r k).InBuild := by
  cases r
  · rfl
  · exact hk

theorem buildStep_spec {n : String} {pc : BuildPc} (hs : h.buildStep w env n pc = some (w', o)) :
    w'.vms = w.vms ∧ o.InBuild := by
  cases pc
  case acquire =>
    simp only [buildStep] at hs
    split at hs <;> cases hs
    exact ⟨rfl, rfl⟩
  case probe =>
    obtain ⟨⟨w1, r⟩, hc, he⟩ := Option.map_eq_some'.1 hs
    obtain ⟨rfl, rfl⟩ := Prod.mk.inj he
    refine ⟨(h.storageCmd_locks hc).2, ?_⟩
    unfold probeOut afterProbe
    repeat' split
    all_goals trivial
  case parent => cases hs
  case settle => cases hs; exact ⟨rfl, rfl⟩
  case script vm rest =>
    cases rest with
    | nil =>
      simp only [buildStep] at hs
      split at hs
      · cases hs; exact ⟨rfl, rfl⟩
      · split at hs <;> cases hs; exact ⟨rfl, onOkTry_inBuild (by trivial)⟩
    | cons =>
      obtain ⟨rfl, rfl⟩ := Prod.mk.inj (Option.some.inj hs)
      refine ⟨rfl, ?_⟩
      repeat' split
      all_goals rfl
  case snapshot =>
    simp only [buildStep] at hs
    split at hs
    · cases hs; exact ⟨rfl, rfl⟩
    · obtain ⟨⟨w1, r⟩, hc, he⟩ := Option.map_eq_some'.1 hs
      obtain ⟨rfl, rfl⟩ := Prod.mk.inj he
      exact ⟨(h.storageCmd_locks hc).2, onOk_inBuild (by trivial)⟩
  case clone p =>
    obtain ⟨⟨w1, r⟩, hc, he⟩ := Option.map_eq_some'.1 hs
    obtain ⟨rfl, rfl⟩ := Prod.mk.inj he
    refine ⟨(h.storageCmd_locks hc).2, onOk_inBuild ?_⟩
    unfold afterClone; split <;> rfl
  case shutdownPoll vm =>
    obtain ⟨⟨w1, r⟩, hc, he⟩ := Option.map_eq_some'.1 hs
    obtain ⟨rfl, rfl⟩ := Prod.mk.inj he
    refine ⟨congrArg World.vms (h.externalCmd_eq hc), ?_⟩
    split <;> rfl
  all_goals
    obtain ⟨⟨w1, r⟩, hc, he⟩ := Option.map_eq_some'.1 hs
    obtain ⟨rfl, rfl⟩ := Prod.mk.inj he
    first
      | exact ⟨(h.storageCmd_locks hc).2, onOk_inBuild (by trivial)⟩
      | exact ⟨(h.storageCmd_locks hc).2, onOkTry_inBuild (by trivial)⟩
      | exact ⟨congrArg World.vms (h.externalCmd_eq hc), onOk_inBuild (by trivial)⟩
      | exact ⟨congrArg World.vms (h.externalCmd_eq hc), onOkTry_inBuild (by trivial)⟩

/-- `get_vm` touches `Host.vms` once, appending the VM it boots as it returns it; its other
steps go on in its own frame or raise. -/
theorem getVmStep_spec {n : String} {pc : GetVmPc} (hs : h.getVmStep w env n pc = some (w', o)) :
    (w'.vms = w.vms ∧ ((∃ fr, o = .goto fr ∧ fr.isBuild = false) ∨ ∃ e, o = .raise e)) ∨
      ∃ vm, w'.vms = w.vms ++ [vm] ∧ o = .ret (some vm) := by
  have hk : ∀ (r : Except PyErr RunResult) (k : Out), (∃ fr, k = .goto fr ∧ fr.isBuild = false) →
      (∃ fr, onOk r k = .goto fr ∧ fr.isBuild = false) ∨ ∃ e, onOk r k = .raise e := by
    rintro (_ | _) k hk
    exacts [.inr ⟨_, rfl⟩, .inl hk]
  cases pc
  case build => cases hs
  case bootCreate rnd vm conf =>
    obtain ⟨⟨w1, r⟩, hc, he⟩ := Option.map_eq_some'.1 hs
    rw [h.externalCmd_eq hc] at he
    cases r <;> obtain ⟨rfl, rfl⟩ := Prod.mk.inj he
    · exact .inl ⟨rfl, .inr ⟨_, rfl⟩⟩
    · exact .inr ⟨_, rfl, rfl⟩
  case bootCopy rnd vm conf =>
    obtain ⟨⟨w1, r⟩, hc, he⟩ := Option.map_eq_some'.1 hs
    obtain ⟨rfl, rfl⟩ := Prod.mk.inj he
    exact .inl ⟨congrArg World.vms (h.externalCmd_eq hc), hk r _ ⟨_, rfl, rfl⟩⟩
  all_goals
    obtain ⟨⟨w1, r⟩, hc, he⟩ := Option.map_eq_some'.1 hs
    obtain ⟨rfl, rfl⟩ := Prod.mk.inj he
    refine .inl ⟨?_, ?_⟩
    first | exact (h.storageCmd_locks hc).2 | exact congrArg World.vms (h.externalCmd_eq hc)
    cases r
    · exact .inr ⟨_, rfl⟩
    · exact h.confKey_of (fun k => (∃ fr, k = .goto fr ∧ fr.isBuild = false) ∨ ∃ e, k = .raise e)
        (.inl ⟨_, rfl, rfl⟩) fun e => .inr ⟨e, rfl⟩

theorem dropLast_builds {g : Frame} {rest : List Frame} (hb : ∀ fr ∈ (g :: rest).dropLast, fr.isBuild)
    (fr : Frame) (hf : fr.isBuild) : ∀ x ∈ (fr :: rest).dropLast, x.isBuild := by
  cases rest with
  | nil => simp
  | cons g' rest =>
    simp only [List.dropLast_cons₂, List.mem_cons] at hb ⊢
    rintro x (rfl | hx)
    exacts [hf, hb x (.inr hx)]

/-- A task whose frames above the bottom belong to `build_image` keeps that shape, and a step
adds to `Host.vms` only the VM the task returns. -/
theorem taskStep_booted {t t' : Task} (hb : t.BuildsAbove) (hs : h.taskStep w env t = some (w', t')) :
    t'.BuildsAbove ∧ w'.vms = w.vms ++ t'.booted := by
  rcases t with (_ | ⟨fr, rest⟩) | r <;> simp only [taskStep, reduceCtorEq, Option.map_eq_some'] at hs
  obtain ⟨⟨w1, o⟩, hf, he⟩ := hs
  obtain ⟨rfl, rfl⟩ := Prod.mk.inj he
  cases fr with
  | build n pc =>
    obtain ⟨hv, ho⟩ := h.buildStep_spec hf
    rw [hv]
    cases o with
    | goto fr' => exact ⟨dropLast_builds hb fr' ho, by simp [Out.apply, Task.booted]⟩
    | call child fr' =>
      refine ⟨?_, by simp [Out.apply, Task.booted]⟩
      intro x hx
      rw [List.dropLast_cons₂, List.mem_cons] at hx
      rcases hx with rfl | hx
      exacts [ho.1, dropLast_builds hb fr' ho.2 x hx]
    | ret v =>
      cases ho
      cases rest with
      | nil => exact ⟨trivial, by simp [Out.apply, Task.booted]⟩
      | cons g rest =>
        refine ⟨?_, by simp [Out.apply, Task.booted]⟩
        cases rest with
        | nil => simp [Out.apply, Task.BuildsAbove]
        | cons g' rest =>
          have hb' : ∀ x ∈ (g :: g' :: rest).dropLast, x.isBuild := fun x hx =>
            hb x (by rw [List.dropLast_cons₂]; exact List.mem_cons_of_mem _ hx)
          exact dropLast_builds hb' _ ((Frame.isBuild_resume g env.rnd).trans (hb' g (by simp)))
    | raise e => exact ⟨trivial, by simp [Out.apply, Task.booted]⟩
  | getVm n pc =>
    have hrest : rest = [] := by
      cases rest with
      | nil => rfl
      | cons g rest => exact absurd (hb (.getVm n pc) (by simp)) (by simp [Frame.isBuild])
    subst hrest
    rcases h.getVmStep_spec hf with ⟨hv, ⟨fr', rfl, -⟩ | ⟨e, rfl⟩⟩ | ⟨vm, hv, rfl⟩
    · exact ⟨by simp [Out.apply, Task.BuildsAbove], by simp [Out.apply, Task.booted, hv]⟩
    · exact ⟨trivial, by simp [Out.apply, Task.booted, hv]⟩
    · exact ⟨trivial, by simp [Out.apply, Task.booted, hv]⟩

theorem taskStep_vms {t t' : Task} (hs : h.taskStep w env t = some (w', t')) : w.vms <+: w'.vms := by
  rcases t with (_ | ⟨fr, rest⟩) | r <;> simp only [taskStep, reduceCtorEq, Option.map_eq_some'] at hs
  obtain ⟨⟨w1, o⟩, hf, he⟩ := hs
  obtain ⟨rfl, rfl⟩ := Prod.mk.inj he
  cases fr with
  | build n pc => exact (h.buildStep_spec hf).1 ▸ List.prefix_refl _
  | getVm n pc =>
    rcases h.getVmStep_spec hf with ⟨hv, -⟩ | ⟨vm, hv, -⟩
    · exact hv ▸ List.prefix_refl _
    · exact hv ▸ List.prefix_append _ _

/-- A `get_vm` call run alone appends to `Host.vms` exactly the VM it returns, and nothing when
it raises. -/
theorem runAlone_getVm_vms {name : String} {envs : List Env} {r : Except PyErr (Option VmRec)}
    (hs : h.runAlone w (h.getVm name) envs = some (w', r)) : w'.vms = w.vms ++ (Task.done r).booted := by
  have hstart : (h.getVm name).BuildsAbove ∧ w.vms = w.vms ++ (h.getVm name).booted := by
    rcases h.getVm_cases name with ⟨e, he⟩ | ⟨_, _, -, -, he⟩ <;>
      simp [he, Task.BuildsAbove, Task.booted, Frame.isBuild]
  exact (h.runAlone_inv (fun w1 t => t.BuildsAbove ∧ w1.vms = w.vms ++ t.booted)
    (fun _ _ w1 t w2 t' hp h1 => by
      have hrun : t.booted = [] := by cases t with
        | run => rfl
        | done => simp [taskStep] at h1
      obtain ⟨hb, hv⟩ := h.taskStep_booted hp.1 h1
      exact ⟨hb, by rw [hv, hp.2, hrun, List.append_nil]⟩) hstart hs).2

theorem destroyVm_vms {vm : VmRec} {p q : Proc} {r : Except PyErr Unit}
    (hs : h.destroyVm w vm p q = some (w', r)) : w'.vms = w.vms := by
  simp only [destroyVm, Option.bind_eq_some] at hs
  obtain ⟨⟨w1, r1⟩, hc, hs⟩ := hs
  rw [h.externalCmd_eq hc] at hs
  split at hs
  · obtain ⟨rfl, -⟩ := Prod.mk.inj (Option.some.inj hs); rfl
  · obtain ⟨⟨w2, r2⟩, hc2, he⟩ := Option.map_eq_some'.1 hs
    obtain ⟨rfl, -⟩ := Prod.mk.inj he
    exact (h.storageCmd_locks hc2).2

theorem shutdownVm_vms {vm : VmRec} {ip : Option String} {halt : Proc} {t0 : ℚ}
    {polls : List (Proc × ℚ)} {p q : Proc} {r : Except PyErr Unit}
    (hs : h.shutdownVm w vm ip halt t0 polls p q = some (w', r)) : w'.vms = w.vms := by
  unfold shutdownVm at hs
  split at hs
  · obtain ⟨rfl, -⟩ := Prod.mk.inj (Option.some.inj hs); rfl
  · exact h.destroyVm_vms hs
  · obtain ⟨rfl, -⟩ := Prod.mk.inj (Option.some.inj hs); rfl

end Host

namespace Provider

variable {σ : Type} (pv : Provider σ) {ws ws' : List (World σ)}

theorem set_vms_map {k : Nat} {w' : World σ} (hk : k < ws.length) (hw : w'.vms = ws[k].vms) :
    (ws.set k w').map World.vms = ws.map World.vms := by
  apply List.ext_getElem (by simp)
  intro j hj _
  simp only [List.getElem_map, List.getElem_set]
  split
  · subst j; exact hw
  · rfl

theorem getVmsLoop_vms {h : Host σ} {w w' : World σ} {names : List String}
    {envs : List (List Env)} {vms : List VmRec} (hs : getVmsLoop h w names envs = some (w', vms)) :
    w'.vms = w.vms ++ vms := by
  induction names generalizing w envs vms with
  | nil => simp only [getVmsLoop, Option.some.injEq, Prod.mk.injEq] at hs; simp [← hs.1, ← hs.2]
  | cons name names ih =>
    cases envs with
    | nil => simp [getVmsLoop] at hs
    | cons e envs =>
      simp only [getVmsLoop, Option.bind_eq_some] at hs
      obtain ⟨⟨w1, r⟩, h1, h2⟩ := hs
      have h1' := h.runAlone_getVm_vms h1
      rcases r with _ | _ | vm
      · obtain ⟨rfl, rfl⟩ := Prod.mk.inj (Option.some.inj h2)
        simpa [Task.booted] using h1'
      · rw [ih h2, h1']; simp [Task.booted]
      · obtain ⟨⟨w2, vms2⟩, h3, he⟩ := Option.map_eq_some'.1 h2
        obtain ⟨rfl, rfl⟩ := Prod.mk.inj he
        rw [ih h3, h1']; simp [Task.booted]

theorem cleanupLoop_vms {vms : List (Nat × VmRec)} {procs : List (Proc × Proc)}
    (hs : pv.cleanupLoop ws vms procs = some ws') : ws'.map World.vms = ws.map World.vms := by
  induction vms generalizing ws procs with
  | nil => simp [cleanupLoop] at hs; rw [hs]
  | cons a vms ih =>
    obtain ⟨k, vm⟩ := a
    cases procs with
    | nil => simp [cleanupLoop] at hs
    | cons pq procs =>
      obtain ⟨p, q⟩ := pq
      simp only [cleanupLoop] at hs
      split at hs
      · rename_i h w hh hw
        obtain ⟨hk, rfl⟩ := List.getElem?_eq_some_iff.1 hw
        simp only [Option.bind_eq_some] at hs
        obtain ⟨⟨w1, r⟩, h1, h2⟩ := hs
        have hset := set_vms_map hk (h.destroyVm_vms h1)
        cases r with
        | error => rw [← Option.some.inj h2, hset]
        | ok => rw [ih h2, hset]
      · simp at hs

theorem set_vms_append {k : Nat} {w' : World σ} {vms : List VmRec} (hk : k < ws.length)
    (hw : w'.vms = ws[k].vms ++ vms) (j : Nat) (hj : j < ws.length)
    (hj' : j < (ws.set k w').length) :
    (ws.set k w')[j].vms = ws[j].vms ++ ((vms.map (k, ·)).filter fun b => b.1 = j).map (·.2) := by
  rw [List.getElem_set]
  split
  · subst j; simp [hw, List.filter_map, Function.comp_def]
  · rename_i hkj
    simp [List.filter_map, Function.comp_def, hkj]

theorem apply_vms {op : Op} {b : List (Nat × VmRec)} (hop : ∀ names envs, op ≠ .getVms names envs)
    (hs : pv.apply ws op = some (ws', b)) : b = [] ∧ ws'.map World.vms = ws.map World.vms := by
  cases op with
  | getVms names envs => exact absurd rfl (hop names envs)
  | cleanup vms procs =>
    obtain ⟨ws1, h1, he⟩ := Option.map_eq_some'.1 hs
    obtain ⟨rfl, rfl⟩ := Prod.mk.inj he
    exact ⟨rfl, pv.cleanupLoop_vms h1⟩
  | destroy k vm p q =>
    simp only [apply] at hs
    split at hs
    · rename_i h w hh hw
      obtain ⟨hk, rfl⟩ := List.getElem?_eq_some_iff.1 hw
      obtain ⟨⟨w1, r⟩, h1, he⟩ := Option.map_eq_some'.1 hs
      obtain ⟨rfl, rfl⟩ := Prod.mk.inj he
      exact ⟨rfl, set_vms_map hk (h.destroyVm_vms h1)⟩
    · simp at hs
  | shutdown k vm ip halt t0 polls p q =>
    simp only [apply] at hs
    split at hs
    · rename_i h w hh hw
      obtain ⟨hk, rfl⟩ := List.getElem?_eq_some_iff.1 hw
      obtain ⟨⟨w1, r⟩, h1, he⟩ := Option.map_eq_some'.1 hs
      obtain ⟨rfl, rfl⟩ := Prod.mk.inj he
      exact ⟨rfl, set_vms_map hk (h.shutdownVm_vms h1)⟩
    · simp at hs

/-- One call appends to each host's `vms` list the VMs it booted there. -/
theorem apply_booted {op : Op} {b : List (Nat × VmRec)} (hs : pv.apply ws op = some (ws', b)) :
    ws'.length = ws.length ∧ ∀ j (hj : j < ws.length) (hj' : j < ws'.length),
      ws'[j].vms = ws[j].vms ++ (b.filter fun x => x.1 = j).map (·.2) := by
  by_cases hop : ∀ names envs, op ≠ .getVms names envs
  · obtain ⟨rfl, he⟩ := pv.apply_vms hop hs
    have hl : ws'.length = ws.length := by simpa using congrArg List.length he
    refine ⟨hl, fun j hj hj' => ?_⟩
    have := congrArg (·[j]?) he
    simp only [List.getElem?_map, List.getElem?_eq_getElem hj, List.getElem?_eq_getElem hj',
      Option.map_some', Option.some.injEq] at this
    simp [this]
  push_neg at hop
  obtain ⟨names, envs, rfl⟩ := hop
  simp only [apply] at hs
  split at hs
  · obtain ⟨rfl, rfl⟩ := Prod.mk.inj (Option.some.inj hs)
    exact ⟨rfl, fun _ _ _ => by simp⟩
  · split at hs
    · rename_i k _ h w hh hw
      obtain ⟨hk, rfl⟩ := List.getElem?_eq_some_iff.1 hw
      obtain ⟨⟨w1, vms⟩, h1, he⟩ := Option.map_eq_some'.1 hs
      obtain ⟨rfl, rfl⟩ := Prod.mk.inj he
      exact ⟨List.length_set .., set_vms_append hk (getVmsLoop_vms h1)⟩
    · simp at hs

/-- Along any sequence of calls, each host's `vms` list is the one it had followed by the VMs
that `get_vm` booted there, in order, destroyed ones included: `get_vm`'s append after a
successful boot is the only change, a call other than `get_vms` changes no list, and
`get_host`'s load counts are the numbers of VMs ever booted on each host. -/
theorem vms_only_grow (ws : List (World σ)) :
    (∀ ops ws' boots, pv.runLog ws ops = some (ws', boots) →
      ws'.length = ws.length ∧ ∀ k (hk : k < ws.length) (hk' : k < ws'.length),
        ws'[k].vms = ws[k].vms ++ (boots.filter fun b => b.1 = k).map (·.2) ∧
        ws'[k].vms.length = ws[k].vms.length + (boots.filter fun b => b.1 = k).length) ∧
    (∀ op ws' b, (∀ names envs, op ≠ .getVms names envs) → pv.apply ws op = some (ws', b) →
      b = [] ∧ ws'.map World.vms = ws.map World.vms) := by
  refine ⟨fun ops => ?_, fun op ws' b hop hs => pv.apply_vms hop hs⟩
  suffices ∀ ops ws' boots, pv.runLog ws ops = some (ws', boots) →
      ws'.length = ws.length ∧ ∀ k (hk : k < ws.length) (hk' : k < ws'.length),
        ws'[k].vms = ws[k].vms ++ (boots.filter fun b => b.1 = k).map (·.2) from
    fun ws' boots hs => (this ops ws' boots hs).imp_right fun h k hk hk' =>
      ⟨h k hk hk', by rw [h k hk hk', List.length_append, List.length_map]⟩
  intro ops
  induction ops generalizing ws with
  | nil =>
    intro ws' boots hs
    obtain ⟨rfl, rfl⟩ := Prod.mk.inj (Option.some.inj hs)
    exact ⟨rfl, fun _ _ _ => by simp⟩
  | cons op ops ih =>
    intro ws' boots hs
    simp only [runLog, Option.bind_eq_some, Option.map_eq_some'] at hs
    obtain ⟨⟨ws1, b1⟩, h1, ⟨ws2, b2⟩, h2, he⟩ := hs
    obtain ⟨rfl, rfl⟩ := Prod.mk.inj he
    obtain ⟨hl1, hv1⟩ := pv.apply_booted h1
    obtain ⟨hl2, hv2⟩ := ih ws1 ws2 b2 h2
    refine ⟨hl2.trans hl1, fun k hk hk' => ?_⟩
    rw [hv2 k (hl1 ▸ hk) hk', hv1 k hk (hl1 ▸ hk), List.filter_append, List.map_append,
      List.append_assoc]

end Provider

/-- A host whose VM `worker` runs the image `base`. -/
def workerHost : Host BtrfsVols where
  ssh := ⟨"root", "hv1", none, "22"⟩
  storage := BTRFS.backend "/srv"
  images := [("base", { url := some "http://images/base.qcow2" })]
  vmConfs := [("worker", { image := some "base", memory := some 1024, net := some ["virbr0"] })]

/-- A provider with that one host. -/
def workerProvider : Provider BtrfsVols := ⟨[workerHost]⟩

/-- On a host holding `base` and a dataset named `worker` (which `get_vm` clones for the VM
`worker`), `get_vms(["worker"])` boots `vm1` on the clone `r1`, then `cleanup` destroys it:
`r1` is gone from the host and `vm1` is still in its `vms` list. -/
theorem cleanup_keeps_destroyed_vm :
    workerProvider.runOps [{ fs := { vols := ["base", "worker"] } }]
      [.getVms ["worker"] [[{}, { rnd := "r1" }, { rnd := "vm1" }, { rnd := "c" }, {}, {}]],
        .cleanup [(0, ⟨"vm1", "r1"⟩)] [({}, {})]] =
      some [{ fs := { vols := ["base", "worker"] }, vms := [⟨"vm1", "r1"⟩] }] := by
  decide

end RallyCI
