import Mathlib.Data.List.Basic

/-! The libvirt domain description a `VM` of `rallyci/providers/virsh.py` builds with
`XMLElement`, and the `devices` it holds at every point of a run. -/
namespace RallyCI

/-- An ElementTree element: tag, attributes in keyword order, text and children. -/
structure XElem where
  tag : String
  attrs : List (String × String)
  text : Option String
  children : List XElem
  deriving Repr

namespace XElem

/-- `et.Element(tag, **attrs)`: no text and no children yet. -/
def new (tag : String) (attrs : List (String × String)) : XElem := ⟨tag, attrs, none, []⟩

/-- `XMLElement.se`: `et.SubElement` appends the new element to the children. -/
def se (e c : XElem) : XElem := { e with children := e.children ++ [c] }

/-- Setting `.x.text`. -/
def withText (e : XElem) (t : String) : XElem := { e with text := some t }

/-- `Element.get(key)`. -/
def get (e : XElem) (key : String) : Option String := e.attrs.lookup key

/-- `Element.find(tag)`: the first child with that tag. -/
def find (e : XElem) (tag : String) : Option XElem := e.children.find? (·.tag == tag)

/-- `Element.findall(tag)`: the children with that tag, in document order. -/
def findall (e : XElem) (tag : String) : List XElem := e.children.filter (·.tag == tag)

/-- The interfaces found under `devices`, in document order: each one's `mac/@address` and
`source/@bridge`. -/
def interfaces (d : XElem) : List (Option String × Option String) :=
  (d.findall "interface").map fun i =>
    ((i.find "mac").bind (·.get "address"), (i.find "source").bind (·.get "bridge"))

/-- The disks found under `devices`, in document order: each one's `source/@file` and
`target/@dev`. -/
def disks (d : XElem) : List (Option String × Option String) :=
  (d.findall "disk").map fun k =>
    ((k.find "source").bind (·.get "file"), (k.find "target").bind (·.get "dev"))

@[simp] theorem se_tag (e c : XElem) : (e.se c).tag = e.tag := rfl

theorem findall_se (e c : XElem) (tag : String) :
    (e.se c).findall tag = e.findall tag ++ if c.tag = tag then [c] else [] := by
  by_cases h : c.tag = tag <;> simp [findall, se, List.filter_append, h]

end XElem

open XElem

/-- The children `__init__` gives the domain before `devices`. -/
def domainHead (name : String) (memory : ℕ) : List XElem :=
  [(new "name" []).withText name,
    (new "memory" [("unit", "MiB")]).withText (toString memory),
    (new "currentMemory" [("unit", "MiB")]).withText (toString memory),
    (new "vcpu" [("placement", "static")]).withText "1",
    (new "cpu" [("mode", "host-model")]).se (new "model" [("fallback", "forbid")]),
    (new "os" []).se ((new "type" [("arch", "x86_64"), ("machine", "pc-1.0")]).withText "hvm"),
    (((new "features" []).se (new "acpi" [])).se (new "apic" [])).se (new "pae" [])]

/-- The `devices` element as `__init__` leaves it. -/
def initDevices : XElem :=
  ((((new "devices" []).se ((new "emulator" []).withText "/usr/bin/kvm")).se
    (new "controller" [("type", "pci"), ("index", "0"), ("model", "pci-root")])).se
    (new "graphics" [("type", "spice"), ("autoport", "yes")])).se
    ((new "memballoon" [("model", "virtio")]).se
      (new "address" [("type", "pci"), ("domain", "0x0000"), ("bus", "0x00"), ("slot", "0x09"),
        ("function", "0x0")]))

/-- `os.path.split(path)[1]`: what follows the last `/`. -/
def pathTail (path : String) : String :=
  String.mk (path.toList.reverse.takeWhile (· ≠ '/')).reverse

/-- `add_disk`'s device name: `os.path.split(path)[1].split(".")[0]`. -/
def diskDev (path : String) : String :=
  String.mk ((pathTail path).toList.takeWhile (· ≠ '.'))

/-- The `disk` element `add_disk(path)` appends. -/
def diskElem (path : String) : XElem :=
  (((new "disk" [("device", "disk"), ("type", "file")]).se
    (new "driver" [("name", "qemu"), ("type", "qcow2"), ("cache", "unsafe")])).se
    (new "source" [("file", path)])).se
    (new "target" [("dev", diskDev path), ("bus", "virtio")])

/-- The `interface` element `add_net` appends for `bridge` and the address `mac`. -/
def interfaceElem (bridge mac : String) : XElem :=
  (((new "interface" [("type", "bridge")]).se (new "source" [("bridge", bridge)])).se
    (new "model" [("type", "virtio")])).se (new "mac" [("address", mac)])

/-- `add_net`'s address: `mac` when it is truthy, otherwise `rnd`, what `utils.get_rnd_mac()`
returns. -/
def netMac (mac : Option String) (rnd : String) : String :=
  match mac with
  | some m => if m = "" then rnd else m
  | none => rnd

/-- The parts of a `VM` that `__init__`, `add_disk` and `add_net` set. `self.devices` is the
last child of `self.x`, and after `__init__` the tree changes only through it, so the record
keeps that element, with the name and memory `__init__` wrote, and `x` is rebuilt around it. -/
structure VM where
  name : String
  memory : ℕ
  devices : XElem
  macs : List String
  devices_tag : devices.tag = "devices"

namespace VM

/-- `self.x`: the `domain` element. -/
def x (vm : VM) : XElem := ⟨"domain", [("type", "kvm")], none, domainHead vm.name vm.memory ++ [vm.devices]⟩

/-- `VM(host, name, memory)`: `rnd` is what `utils.get_rnd_name()` returns when `name` is
`None`. -/
def init (name : Option String) (rnd : String) (memory : ℕ) : VM :=
  ⟨name.getD rnd, memory, initDevices, [], rfl⟩

/-- `add_disk(path)`. -/
def addDisk (vm : VM) (path : String) : VM :=
  { vm with devices := vm.devices.se (diskElem path), devices_tag := vm.devices_tag }

/-- `add_net(bridge, mac)`, `rnd` being what `utils.get_rnd_mac()` would return. -/
def addNet (vm : VM) (bridge : String) (mac : Option String) (rnd : String) : VM :=
  { vm with devices := vm.devices.se (interfaceElem bridge (netMac mac rnd)),
            macs := vm.macs ++ [netMac mac rnd], devices_tag := vm.devices_tag }

end VM

/-- A call that changes the description after `__init__`. -/
inductive DevCall where
  | addDisk (path : String)
  | addNet (bridge : String) (mac : Option String) (rnd : String)
  deriving DecidableEq, Repr

namespace DevCall

/-- The bridge and the address of each `add_net` call, in order. -/
def nets (cs : List DevCall) : List (String × String) :=
  cs.filterMap fun
    | .addNet b m r => some (b, netMac m r)
    | .addDisk _ => none

/-- The path of each `add_disk` call, in order. -/
def paths (cs : List DevCall) : List String :=
  cs.filterMap fun
    | .addDisk p => some p
    | .addNet .. => none

end DevCall

namespace VM

/-- One call on the VM. -/
def call (vm : VM) : DevCall → VM
  | .addDisk p => vm.addDisk p
  | .addNet b m r => vm.addNet b m r

/-- Calls one after another. -/
def calls (vm : VM) : List DevCall → VM
  | [] => vm
  | c :: cs => (vm.call c).calls cs

end VM

/-- A `devices` element agrees with a record's `macs`, given the `add_net` calls `nets` and the
`add_disk` paths `paths`: its interfaces are the calls' addresses and bridges in call order, the
record's MACs are those addresses, and its disks are the paths with their device names. -/
structure DevicesAgree (d : XElem) (macs : List String) (nets : List (String × String))
    (paths : List String) : Prop where
  interfaces : d.interfaces = nets.map fun n => (some n.2, some n.1)
  macs : macs = nets.map Prod.snd
  disks : d.disks = paths.map fun p => (some p, some (diskDev p))

theorem interfaces_se_diskElem (d : XElem) (p : String) :
    (d.se (diskElem p)).interfaces = d.interfaces := by
  simp only [interfaces, findall_se, show (diskElem p).tag = "disk" from rfl,
    show ("disk" = "interface") = False by decide, if_false, List.append_nil]

theorem disks_se_diskElem (d : XElem) (p : String) :
    (d.se (diskElem p)).disks = d.disks ++ [(some p, some (diskDev p))] := by
  simp only [disks, findall_se, show (diskElem p).tag = "disk" from rfl, if_true, List.map_append]
  rfl

theorem interfaces_se_interfaceElem (d : XElem) (b m : String) :
    (d.se (interfaceElem b m)).interfaces = d.interfaces ++ [(some m, some b)] := by
  simp only [interfaces, findall_se, show (interfaceElem b m).tag = "interface" from rfl, if_true,
    List.map_append]
  rfl

theorem disks_se_interfaceElem (d : XElem) (b m : String) :
    (d.se (interfaceElem b m)).disks = d.disks := by
  simp only [disks, findall_se, show (interfaceElem b m).tag = "interface" from rfl,
    show ("interface" = "disk") = False by decide, if_false, List.append_nil]

theorem DevicesAgree.call {vm : VM} {nets : List (String × String)} {paths : List String}
    (h : DevicesAgree vm.devices vm.macs nets paths) (c : DevCall) :
    DevicesAgree (vm.call c).devices (vm.call c).macs (nets ++ DevCall.nets [c])
      (paths ++ DevCall.paths [c]) := by
  cases c with
  | addDisk p =>
    exact ⟨by simpa [VM.call, VM.addDisk, DevCall.nets, interfaces_se_diskElem] using h.interfaces,
      by simpa [DevCall.nets] using h.macs,
      by simp [VM.call, VM.addDisk, DevCall.paths, disks_se_diskElem, h.disks]⟩
  | addNet b m r =>
    exact ⟨by simp [VM.call, VM.addNet, DevCall.nets, interfaces_se_interfaceElem, h.interfaces],
      by simp [VM.call, VM.addNet, DevCall.nets, h.macs],
      by simpa [VM.call, VM.addNet, DevCall.paths, disks_se_interfaceElem] using h.disks⟩

theorem DevCall.nets_cons (c : DevCall) (cs : List DevCall) :
    DevCall.nets (c :: cs) = DevCall.nets [c] ++ DevCall.nets cs := by
  cases c <;> rfl

theorem DevCall.paths_cons (c : DevCall) (cs : List DevCall) :
    DevCall.paths (c :: cs) = DevCall.paths [c] ++ DevCall.paths cs := by
  cases c <;> rfl

theorem DevicesAgree.calls {vm : VM} {nets : List (String × String)} {paths : List String}
    (h : DevicesAgree vm.devices vm.macs nets paths) (cs : List DevCall) :
    DevicesAgree (vm.calls cs).devices (vm.calls cs).macs (nets ++ DevCall.nets cs)
      (paths ++ DevCall.paths cs) := by
  induction cs generalizing vm nets paths with
  | nil => simpa [VM.calls, DevCall.nets, DevCall.paths] using h
  | cons c cs ih =>
    rw [DevCall.nets_cons, DevCall.paths_cons, ← List.append_assoc, ← List.append_assoc]
    exact ih (h.call c)

theorem VM.findall_devices (vm : VM) : vm.x.findall "devices" = [vm.devices] := by
  simp [VM.x, XElem.findall, domainHead, XElem.new, XElem.withText, XElem.se, vm.devices_tag]

/-- The description agrees with the record from `__init__` on: after any calls of `add_disk`
and `add_net`, the domain's one `devices` element has, in document order, an interface for each
`add_net` call with its address and bridge, these addresses being `vm.macs`, and a disk for each
`add_disk` path with that file and the path's base name up to its first `.` as device. -/
theorem domain_devices_agree (name : Option String) (rnd : String) (memory : ℕ)
    (cs : List DevCall) :
    ∃ d, ((VM.init name rnd memory).calls cs).x.findall "devices" = [d] ∧
      DevicesAgree d ((VM.init name rnd memory).calls cs).macs (DevCall.nets cs)
        (DevCall.paths cs) :=
  have h0 : DevicesAgree (VM.init name rnd memory).devices (VM.init name rnd memory).macs [] [] :=
    ⟨rfl, rfl, rfl⟩
  ⟨_, VM.findall_devices _, by simpa using h0.calls cs⟩

end RallyCI
