import RallyCI.VirshBuildImage
import RallyCI.VirshGetIp
import RallyCI.VirshDomain

/-! The domains `Host.get_vm` and `Host.boot_image` of `rallyci/providers/virsh.py` boot, from
the bytes `ls` prints on the dataset to the disks and interfaces of the domain. -/
namespace RallyCI

/-- `os.path.join(a, *p)` of `posixpath`: a part that starts with `/` starts the path over; any
other is added after one `/`, with none when the path so far is empty or ends with one. -/
def pathJoin (a : List Char) : List (List Char) → List Char
  | [] => a
  | b :: p =>
    pathJoin (if b.head? = some '/' then b
      else if a = [] ∨ a.getLast? = some '/' then a ++ b else a ++ '/' :: b) p

/-- The path `list_files` gives the listed name `f` under `name`: `os.path.join("/", root, name,
f)`, `root` being the `ZFS` dataset or the `BTRFS` path. -/
def listedPath (root name : String) (f : List Char) : String :=
  String.mk (pathJoin ['/'] [root.data, name.data, f])

/-- `list_files(name)` once its `ls` returned `r`: `[os.path.join("/", root, name, f) for f in
ls.splitlines()]`. -/
def listFiles (root name : String) (r : Except PyErr RunResult) : Except PyErr (List String) :=
  r.map fun ls => (pySplitLines ls.output).map (listedPath root name)

namespace Host

/-- `get_vm`'s VM once `list_files(rnd_name)` returned `files`: `VM(self, memory=conf["memory"])`
with the name `vmName` that `utils.get_rnd_name()` drew, a disk for each file, then an interface
on each bridge of `conf["net"]`, the `i`th with the address `mac i` that `utils.get_rnd_mac()`
drew; `memory` and `net` are the entry's values, read before (a missing one raises `KeyError`
there). -/
def getVmDomain (memory : ℕ) (net : List String) (vmName : String) (files : List String)
    (mac : ℕ → String) : VM :=
  (VM.init none vmName memory).calls
    (files.map .addDisk ++ net.enum.map fun ib => .addNet ib.2 none (mac ib.1))

/-- `boot_image`'s VM: `VM(self, memory=conf.get("memory", 1024))`, a disk for each file of the
image's dataset, and an interface on `self.config.get("build_net", "virbr0")`. -/
def bootImageDomain (conf : ImageConf) (buildNet : Option String) (vmName : String)
    (files : List String) (mac : String) : VM :=
  (VM.init none vmName conf.memory).calls
    (files.map .addDisk ++ [.addNet (buildNet.getD "virbr0") none mac])

end Host

/-! ### `os.path.join` and `os.path.split` -/

theorem pathJoin_append (a : List Char) (ps qs : List (List Char)) :
    pathJoin a (ps ++ qs) = pathJoin (pathJoin a ps) qs := by
  induction ps generalizing a with
  | nil => rfl
  | cons b ps ih => exact ih _

theorem pathJoin_ne_nil {a : List Char} (ha : a ≠ []) (ps : List (List Char)) :
    pathJoin a ps ≠ [] := by
  induction ps generalizing a with
  | nil => exact ha
  | cons b ps ih =>
    refine ih ?_
    split
    · next h => exact fun hb => by simp [hb] at h
    · split <;> simp [ha]

theorem pathJoin_snoc {a : List Char} (ha : a ≠ []) (ps : List (List Char)) {f : List Char}
    (hf : f.head? ≠ some '/') : ∃ y, pathJoin a (ps ++ [f]) = y ++ '/' :: f := by
  rw [pathJoin_append]
  have hx := pathJoin_ne_nil ha ps
  generalize pathJoin a ps = x at hx ⊢
  simp only [pathJoin, hf, if_false, hx, false_or]
  split
  · next hl =>
    obtain ⟨y, rfl⟩ : ∃ y, x = y ++ ['/'] :=
      ⟨x.dropLast, (List.dropLast_append_getLast? _ hl).symm⟩
    exact ⟨y, by simp⟩
  · exact ⟨x, rfl⟩

theorem pathTail_slash (y : List Char) {f : List Char} (hf : '/' ∉ f) :
    pathTail (String.mk (y ++ '/' :: f)) = String.mk f := by
  have hall : ∀ c ∈ f.reverse, decide (c ≠ '/') = true := fun c hc => by
    rw [decide_eq_true_eq]
    rintro rfl
    exact hf (List.mem_reverse.1 hc)
  simp only [pathTail, String.toList, List.reverse_append, List.reverse_cons,
    List.append_assoc, List.singleton_append, List.takeWhile_append_of_pos hall,
    List.takeWhile_cons, ne_eq, not_true_eq_false, decide_False, Bool.false_eq_true, if_false,
    List.reverse_nil, List.append_nil, List.reverse_reverse]

theorem diskDev_listedPath (root name : String) {f : List Char} (hf : '/' ∉ f) :
    diskDev (listedPath root name f) = String.mk (f.takeWhile (· ≠ '.')) := by
  have hh : f.head? ≠ some '/' := fun h => hf (List.mem_of_mem_head? h)
  obtain ⟨y, hy⟩ := pathJoin_snoc (List.cons_ne_nil '/' []) [root.data, name.data] hh
  rw [diskDev, listedPath, show [root.data, name.data, f] = [root.data, name.data] ++ [f] from rfl,
    hy, pathTail_slash y hf]
  rfl

/-! ### From what `ls` printed to the domain -/

/-- With `return_output`, output that decodes to `s` is returned stripped, whatever the exit
status. -/
theorem AsyncSSH.run_output_of_decode (ssh : AsyncSSH) (cmd : String) (raise : Bool) {p : Proc}
    {s : List Char} (hs : utf8Decode (p.line.getD []) = some s) :
    ssh.run AsyncSSH.defaultCb cmd true true raise p = .ok (.text (pyStrip s)) := by
  cases hl : p.line with
  | none => simp_all [AsyncSSH.run, AsyncSSH.feed, AsyncSSH.captured, utf8Decode]
  | some l =>
    simp only [hl, Option.getD_some] at hs
    simp [AsyncSSH.run, AsyncSSH.feed, AsyncSSH.defaultCb, AsyncSSH.captured, hl, hs]

theorem DevCall.paths_disks_nets (files : List String)
    (nets : List (String × Option String × String)) :
    DevCall.paths (files.map .addDisk ++ nets.map fun n => .addNet n.1 n.2.1 n.2.2) = files := by
  induction files with
  | nil =>
    induction nets with
    | nil => rfl
    | cons n nets ih => exact ih
  | cons f files ih => exact congrArg (f :: ·) ih

theorem DevCall.nets_disks_nets (files : List String)
    (nets : List (String × Option String × String)) :
    DevCall.nets (files.map .addDisk ++ nets.map fun n => .addNet n.1 n.2.1 n.2.2) =
      nets.map fun n => (n.1, netMac n.2.1 n.2.2) := by
  induction files with
  | nil =>
    induction nets with
    | nil => rfl
    | cons n nets ih => exact congrArg (_ :: ·) ih
  | cons f files ih => exact ih

/-- The disks and interfaces of a VM built from `__init__`, disks for `files`, then interfaces
on `nets`. -/
theorem devices_of_files_nets (name : Option String) (rnd : String) (memory : ℕ)
    (files : List String) (nets : List (String × Option String × String)) :
    let vm := (VM.init name rnd memory).calls
      (files.map .addDisk ++ nets.map fun n => .addNet n.1 n.2.1 n.2.2)
    vm.devices.disks = files.map (fun p => (some p, some (diskDev p))) ∧
      vm.devices.interfaces = nets.map fun n => (some (netMac n.2.1 n.2.2), some n.1) := by
  have h0 : DevicesAgree (VM.init name rnd memory).devices (VM.init name rnd memory).macs [] [] :=
    ⟨rfl, rfl, rfl⟩
  have h := h0.calls (files.map .addDisk ++ nets.map fun n => .addNet n.1 n.2.1 n.2.2)
  rw [List.nil_append, List.nil_append, DevCall.paths_disks_nets, DevCall.nets_disks_nets] at h
  exact ⟨h.disks, h.interfaces.trans (List.map_map _ _ _)⟩

/-- Whatever exit status `ls` ends with, `get_vm` boots a domain whose disks are the lines of
what `ls` printed, stripped, in order: each line `f` gives the file
`os.path.join("/", root, rnd, f)` with the device `f` up to its first `.`; its interfaces are the
bridges of `conf["net"]` in order, with the addresses drawn for them. -/
theorem get_vm_devices_follow_listing (ssh : AsyncSSH) (cmd root rnd : String) (p : Proc)
    {s : List Char} (hs : utf8Decode (p.line.getD []) = some s)
    (hls : ∀ f ∈ pySplitLines (pyStrip s), '/' ∉ f) (memory : ℕ) (net : List String)
    (vmName : String) (mac : ℕ → String) :
    ∃ files, listFiles root rnd (ssh.run AsyncSSH.defaultCb cmd true true true p) = .ok files ∧
      (Host.getVmDomain memory net vmName files mac).devices.disks =
        (pySplitLines (pyStrip s)).map (fun f =>
          (some (listedPath root rnd f), some (String.mk (f.takeWhile (· ≠ '.'))))) ∧
      (Host.getVmDomain memory net vmName files mac).devices.interfaces =
        net.enum.map fun ib => (some (mac ib.1), some ib.2) := by
  refine ⟨(pySplitLines (pyStrip s)).map (listedPath root rnd),
    by rw [AsyncSSH.run_output_of_decode ssh cmd true hs]; rfl, ?_⟩
  have h := devices_of_files_nets none vmName memory
    ((pySplitLines (pyStrip s)).map (listedPath root rnd))
    (net.enum.map fun ib => (ib.2, none, mac ib.1))
  have hnets : (net.enum.map fun ib => (ib.2, (none : Option String), mac ib.1)).map
      (fun n => DevCall.addNet n.1 n.2.1 n.2.2) =
      net.enum.map fun ib => .addNet ib.2 none (mac ib.1) := by
    rw [List.map_map]; rfl
  rw [hnets] at h
  refine ⟨h.1.trans ?_, h.2.trans ?_⟩
  · rw [List.map_map]
    exact List.map_congr_left fun f hf => by
      simp only [Function.comp_apply, diskDev_listedPath root rnd (hls f hf)]
  · rw [List.map_map]; rfl

/-- `ls` printing `vda.qcow2`, even with exit status 2: one disk, `/srv/vms/r1/vda.qcow2` with
device `vda`, and one interface on `virbr0`. -/
theorem get_vm_devices_follow_listing_vda :
    utf8Decode ((⟨"vda.qcow2\n".toList.map (·.toNat.toUInt8), false, some 2⟩ : Proc).line.getD [])
        = some "vda.qcow2\n".toList ∧
      (∀ f ∈ pySplitLines (pyStrip "vda.qcow2\n".toList), '/' ∉ f) ∧
      ∃ files, listFiles "/srv/vms" "r1" ((AsyncSSH.mk "root" "host" none "22").run
          AsyncSSH.defaultCb "ls /srv/vms/r1" true true true
          ⟨"vda.qcow2\n".toList.map (·.toNat.toUInt8), false, some 2⟩) = .ok files ∧
        (Host.getVmDomain 1024 ["virbr0"] "vm1" files
            fun _ => "52:54:00:00:00:01").devices.disks =
          (pySplitLines (pyStrip "vda.qcow2\n".toList)).map (fun f =>
            (some (listedPath "/srv/vms" "r1" f), some (String.mk (f.takeWhile (· ≠ '.'))))) ∧
        (Host.getVmDomain 1024 ["virbr0"] "vm1" files
            fun _ => "52:54:00:00:00:01").devices.interfaces =
          ["virbr0"].enum.map fun ib => (some "52:54:00:00:00:01", some ib.2) :=
  ⟨by decide, by decide, get_vm_devices_follow_listing _ _ _ _ _ (by decide) (by decide) _ _ _ _⟩

example : listedPath "/srv/vms" "r1" "vda.qcow2".toList = "/srv/vms/r1/vda.qcow2" := by decide

end RallyCI
