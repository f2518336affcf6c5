import RallyCI.VirshVM
import Mathlib.Data.Rat.Floor
import Mathlib.Data.Nat.Find

/-! `VM.get_ip` of `rallyci/providers/virsh.py`: the ARP table polled every 4 s until a line
matches `IP_RE` or a clock reading passes the binary64 deadline. -/
namespace RallyCI

/-- The Unicode decimal digits (category Nd) of Unicode 9.0, the database of CPython 3.6, as
runs of consecutive code points: what `\d` matches in a `str` pattern. -/
def ndRanges : List (Nat × Nat) :=
  [(0x30, 0x39), (0x660, 0x669), (0x6F0, 0x6F9), (0x7C0, 0x7C9), (0x966, 0x96F), (0x9E6, 0x9EF),
    (0xA66, 0xA6F), (0xAE6, 0xAEF), (0xB66, 0xB6F), (0xBE6, 0xBEF), (0xC66, 0xC6F),
    (0xCE6, 0xCEF), (0xD66, 0xD6F), (0xDE6, 0xDEF), (0xE50, 0xE59), (0xED0, 0xED9),
    (0xF20, 0xF29), (0x1040, 0x1049), (0x1090, 0x1099), (0x17E0, 0x17E9), (0x1810, 0x1819),
    (0x1946, 0x194F), (0x19D0, 0x19D9), (0x1A80, 0x1A89), (0x1A90, 0x1A99), (0x1B50, 0x1B59),
    (0x1BB0, 0x1BB9), (0x1C40, 0x1C49), (0x1C50, 0x1C59), (0xA620, 0xA629), (0xA8D0, 0xA8D9),
    (0xA900, 0xA909), (0xA9D0, 0xA9D9), (0xA9F0, 0xA9F9), (0xAA50, 0xAA59), (0xABF0, 0xABF9),
    (0xFF10, 0xFF19), (0x104A0, 0x104A9), (0x11066, 0x1106F), (0x110F0, 0x110F9),
    (0x11136, 0x1113F), (0x111D0, 0x111D9), (0x112F0, 0x112F9), (0x11450, 0x11459),
    (0x114D0, 0x114D9), (0x11650, 0x11659), (0x116C0, 0x116C9), (0x11730, 0x11739),
    (0x118E0, 0x118E9), (0x11C50, 0x11C59), (0x16A60, 0x16A69), (0x16B50, 0x16B59),
    (0x1D7CE, 0x1D7FF), (0x1E950, 0x1E959)]

/-- `\d` in a `str` pattern. -/
def pyIsDecimal (c : Char) : Bool :=
  ndRanges.any fun r => r.1 ≤ c.toNat && c.toNat ≤ r.2

/-- The line boundaries of `str.splitlines()`, `\r\n` apart. -/
def pyIsLineBreak (c : Char) : Bool :=
  c.toNat ∈ [0x0A, 0x0B, 0x0C, 0x0D, 0x1C, 0x1D, 0x1E, 0x85, 0x2028, 0x2029]

/-- `str.splitlines()` with the current line accumulated in `acc`: `\r\n` ends one line, and
a boundary at the very end opens no empty line. -/
def pySplitLinesAux : List Char → List Char → List (List Char)
  | [], acc => if acc = [] then [] else [acc]
  | '\r' :: '\n' :: cs, acc => acc :: pySplitLinesAux cs []
  | c :: cs, acc => if pyIsLineBreak c then acc :: pySplitLinesAux cs [] else pySplitLinesAux cs (acc ++ [c])

/-- `str.splitlines()`. -/
def pySplitLines (s : List Char) : List (List Char) := pySplitLinesAux s []

/-- A nonempty run of decimal digits, as long as it goes, and then a character satisfying
`p`: the digits and what follows that character. -/
def digitsThen (p : Char → Bool) (cs : List Char) : Option (List Char × List Char) :=
  match cs.takeWhile pyIsDecimal, cs.dropWhile pyIsDecimal with
  | [], _ => none
  | _, [] => none
  | ds, c :: rest => if p c then some (ds, rest) else none

/-- `IP_RE.match(line)` with `IP_RE = (\d+\.\d+\.\d+\.\d+)\s`, giving `group(1)`. Each `\d+`
is followed by a character `\d` does not match, so its longest run is the only one that can
match. -/
def ipMatch (line : List Char) : Option String := do
  let (a, r1) ← digitsThen (· = '.') line
  let (b, r2) ← digitsThen (· = '.') r1
  let (c, r3) ← digitsThen (· = '.') r2
  let (d, _) ← digitsThen pyIsSpace r3
  pure (String.mk (a ++ '.' :: b ++ '.' :: c ++ '.' :: d))

/-- A nonempty run of `\d` characters. -/
def DigitRun (d : List Char) : Prop := d ≠ [] ∧ ∀ c ∈ d, pyIsDecimal c

theorem pyIsDecimal_of_pyIsSpace {c : Char} (h : pyIsSpace c) : pyIsDecimal c = false := by
  simp only [pyIsSpace, decide_eq_true_eq] at h
  unfold pyIsDecimal
  generalize c.toNat = n at h ⊢
  revert n
  decide

/-- `digitsThen` succeeds on exactly a nonempty run of digits followed by a character `p`
accepts, when `p` accepts no digit: the run is the whole run, as the regex's `\d+` before such
a character has to be. -/
theorem digitsThen_eq_some {p : Char → Bool} (hp : ∀ c, p c → pyIsDecimal c = false)
    {cs ds rest : List Char} :
    digitsThen p cs = some (ds, rest) ↔ ∃ c, DigitRun ds ∧ p c ∧ cs = ds ++ c :: rest := by
  constructor
  · intro h
    have hcs := List.takeWhile_append_dropWhile pyIsDecimal cs
    have hall : ∀ x ∈ cs.takeWhile pyIsDecimal, pyIsDecimal x := fun _ hx => List.mem_takeWhile_imp hx
    unfold digitsThen at h
    generalize cs.takeWhile pyIsDecimal = t at h hcs hall
    generalize cs.dropWhile pyIsDecimal = d at h hcs
    rcases t with _ | ⟨t0, t⟩
    · simp at h
    · rcases d with _ | ⟨c, d⟩
      · simp at h
      · simp only [Option.ite_none_right_eq_some, Option.some.injEq, Prod.mk.injEq] at h
        obtain ⟨hc, rfl, rfl⟩ := h
        exact ⟨c, ⟨List.cons_ne_nil _ _, hall⟩, hc, hcs.symm⟩
  · rintro ⟨c, ⟨hne, hds⟩, hc, rfl⟩
    have hcd : ¬ pyIsDecimal c = true := by simp [hp c hc]
    obtain ⟨d, ds, rfl⟩ := List.exists_cons_of_ne_nil hne
    unfold digitsThen
    rw [List.takeWhile_append_of_pos hds, List.dropWhile_append_of_pos hds,
      List.takeWhile_cons_of_neg hcd, List.dropWhile_cons_of_neg hcd, List.append_nil]
    simp [hc]

/-- `IP_RE.match(line)` with `group(1)`, as the regex means it: the line begins with four
nonempty runs of decimal digits joined by dots and then a whitespace character, and the address
is the dotted part. -/
theorem ipMatch_eq_some_iff (line : List Char) (a : String) :
    ipMatch line = some a ↔ ∃ p q r s : List Char, ∃ c rest,
      DigitRun p ∧ DigitRun q ∧ DigitRun r ∧ DigitRun s ∧ pyIsSpace c ∧
      line = p ++ '.' :: q ++ '.' :: r ++ '.' :: s ++ c :: rest ∧
      a = String.mk (p ++ '.' :: q ++ '.' :: r ++ '.' :: s) := by
  have hdot : ∀ c, decide (c = '.') = true → pyIsDecimal c = false := by
    intro c h
    rw [decide_eq_true_eq] at h
    subst h
    decide
  simp only [ipMatch, Option.bind_eq_bind, Option.bind_eq_some, Prod.exists, Option.pure_def,
    Option.some.injEq]
  constructor
  · rintro ⟨p, r1, h1, q, r2, h2, r, r3, h3, s, rest, h4, rfl⟩
    obtain ⟨_, hp, hc1, rfl⟩ := (digitsThen_eq_some hdot).1 h1
    obtain ⟨_, hq, hc2, rfl⟩ := (digitsThen_eq_some hdot).1 h2
    obtain ⟨_, hr, hc3, rfl⟩ := (digitsThen_eq_some hdot).1 h3
    obtain ⟨c, hs, hc, rfl⟩ := (digitsThen_eq_some fun _ => pyIsDecimal_of_pyIsSpace).1 h4
    simp only [decide_eq_true_eq] at hc1 hc2 hc3
    subst hc1 hc2 hc3
    exact ⟨p, q, r, s, c, rest, hp, hq, hr, hs, hc, by simp, rfl⟩
  · rintro ⟨p, q, r, s, c, rest, hp, hq, hr, hs, hc, rfl, rfl⟩
    refine ⟨p, _, (digitsThen_eq_some hdot).2 ⟨'.', hp, by simp, by simp⟩,
      q, _, (digitsThen_eq_some hdot).2 ⟨'.', hq, by simp, rfl⟩,
      r, _, (digitsThen_eq_some hdot).2 ⟨'.', hr, by simp, rfl⟩,
      s, rest, (digitsThen_eq_some fun _ => pyIsDecimal_of_pyIsSpace).2 ⟨c, hs, hc, rfl⟩, rfl⟩

/-- The text `run` returns with `return_output`. -/
def RunResult.output : RunResult → List Char
  | .text s => s
  | .code _ => []

/-- How `get_ip` ends: it returns `v` after `polls` polls, or is still polling when the
modelled passes run out. -/
inductive IpEnd where
  | ret (v : Option String) (polls : Nat)
  | polling
  deriving DecidableEq, Repr

namespace VM

/-- The command `get_ip` polls with: `egrep -i` for any of the VM's MAC addresses. -/
def arpCmd (macs : List String) : String :=
  "egrep -i '" ++ "|".intercalate macs ++ "' /proc/net/arp"

/-- The `for` loop over `data.splitlines()`: the address on the first line `IP_RE` matches. -/
def firstIp (data : List Char) : Option String := (pySplitLines data).findSome? ipMatch

/-- `get_ip`'s `while True` loop from its `k`-th pass on, `fuel` passes at most: `clock k` is
the reading the `if` tests, `arp k` the observed `egrep` child polled after the sleep. It ends
with the value returned and the address recorded in `self.ip`: on a match the address is
recorded and the loop ends with a bare `return`. -/
def ipLoop (ssh : AsyncSSH) (cmd : String) (deadline : PyFloat) (clock : ℕ → ℚ)
    (arp : ℕ → Proc) : ℕ → ℕ → Except PyErr (IpEnd × Option String)
  | 0, _ => .ok (.polling, none)
  | fuel + 1, k =>
    if deadline.lt (clock k) then .ok (.ret none k, none)
    else
      match ssh.run AsyncSSH.defaultCb cmd true true true (arp k) with
      | .error e => .error e
      | .ok r =>
        match firstIp r.output with
        | some a => .ok (.ret none (k + 1), some a)
        | none => ipLoop ssh cmd deadline clock arp fuel (k + 1)

/-- `VM.get_ip(timeout)` on the host's channel `ssh`, for a VM with `macs` and the recorded
address `ip`: a recorded address is returned after `asyncio.sleep(0)`; otherwise the deadline
is the start reading `t0` plus `timeout`, rounded to a float, and the loop polls. -/
def getIp (ssh : AsyncSSH) (macs : List String) (ip : Option String) (timeout t0 : ℚ)
    (clock : ℕ → ℚ) (arp : ℕ → Proc) (fuel : ℕ) : Except PyErr (IpEnd × Option String) :=
  match ip with
  | some a => .ok (.ret (some a) 0, some a)
  | none => ipLoop ssh (arpCmd macs) (PyFloat.round (t0 + timeout)) clock arp fuel 0

section Loop

variable {ssh : AsyncSSH} {cmd : String} {deadline : PyFloat} {clock : ℕ → ℚ} {arp : ℕ → Proc}

theorem ipLoop_returns_none {fuel k polls : ℕ} {v ip : Option String}
    (h : ipLoop ssh cmd deadline clock arp fuel k = .ok (.ret v polls, ip)) : v = none := by
  induction fuel generalizing k with
  | zero => cases h
  | succ fuel ih =>
    simp only [ipLoop] at h
    split at h
    · cases h; rfl
    · split at h
      · cases h
      · split at h
        · cases h; rfl
        · exact ih h

end Loop

end VM

/-- An `egrep` poll that prints the VM's line of the ARP table. -/
def arpPoll : Proc :=
  { out := "192.168.122.15 0x1 0x2 52:54:00:12:34:56 * virbr0\n".toList.map (·.toNat.toUInt8) }

/-- `get_ip` never returns an address it discovers: from no recorded address, every run that
returns returns `None`. A poll that finds the VM's line records `192.168.122.15` and returns
`None`; only the next call returns the address. -/
theorem get_ip_found_returns_none :
    (∀ (ssh : AsyncSSH) (macs : List String) (timeout t0 : ℚ) (clock : ℕ → ℚ) (arp : ℕ → Proc)
        (fuel polls : ℕ) (v ip : Option String),
        VM.getIp ssh macs none timeout t0 clock arp fuel = .ok (.ret v polls, ip) → v = none) ∧
    VM.getIp ⟨"root", "hv1", none, "22"⟩ ["52:54:00:12:34:56"] none 30 0 (fun _ => 0)
        (fun _ => arpPoll) 1 = .ok (.ret none 1, some "192.168.122.15") ∧
    VM.getIp ⟨"root", "hv1", none, "22"⟩ ["52:54:00:12:34:56"] (some "192.168.122.15") 30 0
        (fun _ => 0) (fun _ => arpPoll) 1 =
      .ok (.ret (some "192.168.122.15") 0, some "192.168.122.15") := by
  refine ⟨fun _ _ _ _ _ _ _ _ _ _ h => VM.ipLoop_returns_none h, ?_, rfl⟩
  have hd : PyFloat.round (0 + 30) = .fin 30 := by
    rw [zero_add, show (30 : ℚ) = ((30 : ℤ) : ℚ) by norm_num]
    exact PyFloat.round_intCast (by decide)
  simp only [VM.getIp, VM.ipLoop, hd, PyFloat.lt]
  norm_num
  decide

end RallyCI
