import RallyCI.AsyncSSHRun

/-! `PeriodicTask` of `rallyci/common/periodictask.py` together with the loop's timers: `start`
schedules `_run`, `_run` calls `method` and schedules itself again, `stop` cancels the timer
held in `_handler`. -/
namespace RallyCI

/-- The task and its loop: the task's timers still scheduled, `self._handler` (unset before the
first `start()`), the next handle the loop gives out, and how often `method` has run. -/
structure PeriodicTask where
  pending : List Nat := []
  handler : Option Nat := none
  next : Nat := 0
  invoked : Nat := 0
  deriving DecidableEq, Repr

/-- A call made on the task. -/
inductive PTCall where
  | start
  | stop
  deriving DecidableEq, Repr

/-- What happens to the task: a call from outside, or the loop firing timer `h`, during which
`method` makes the calls `inner`. -/
inductive PTEv where
  | call (c : PTCall)
  | fire (h : Nat) (inner : List PTCall)
  deriving DecidableEq, Repr

namespace PeriodicTask

/-- `start()`: `self._handler = self._loop.call_later(self._interval, self._run)`. -/
def start (t : PeriodicTask) : PeriodicTask :=
  { t with pending := t.pending ++ [t.next], handler := some t.next, next := t.next + 1 }

/-- `stop()`: `self._handler.cancel()`; cancelling a timer that already fired does nothing. -/
def stop (t : PeriodicTask) : Except PyErr PeriodicTask :=
  match t.handler with
  | none => .error (.attributeError "_handler")
  | some h => .ok { t with pending := t.pending.erase h }

/-- The calls `method` makes, in order; an exception ends `method` there. -/
def calls (t : PeriodicTask) : List PTCall → PeriodicTask × Except PyErr Unit
  | [] => (t, .ok ())
  | .start :: cs => calls t.start cs
  | .stop :: cs =>
    match t.stop with
    | .error e => (t, .error e)
    | .ok t' => calls t' cs

/-- The loop runs the timer `h`: `_run` calls `method`, then schedules itself as `start()`
does; an exception from `method` skips that. A timer not scheduled never fires. -/
def fire (t : PeriodicTask) (h : Nat) (inner : List PTCall) :
    Option (PeriodicTask × Except PyErr Unit) :=
  if h ∈ t.pending then
    match calls { t with pending := t.pending.erase h, invoked := t.invoked + 1 } inner with
    | (t', .error e) => some (t', .error e)
    | (t', .ok ()) => some (t'.start, .ok ())
  else none

/-- One event. -/
def step (t : PeriodicTask) : PTEv → Option (PeriodicTask × Except PyErr Unit)
  | .call .start => some (t.start, .ok ())
  | .call .stop =>
    match t.stop with
    | .error e => some (t, .error e)
    | .ok t' => some (t', .ok ())
  | .fire h inner => t.fire h inner

/-- A run of events; an exception raised to a caller leaves the task as it is. -/
def runEvs : PeriodicTask → List PTEv → Option PeriodicTask
  | t, [] => some t
  | t, ev :: evs => (t.step ev).bind fun (t', _) => runEvs t' evs

end PeriodicTask

/-- Calls that never `start()` a started task and never `stop()` from inside `method`; the flag
says whether the task is started. -/
def PTDisciplined : Bool → List PTEv → Prop
  | _, [] => True
  | started, .call .start :: evs => started = false ∧ PTDisciplined true evs
  | _, .call .stop :: evs => PTDisciplined false evs
  | started, .fire _ inner :: evs => inner = [] ∧ PTDisciplined started evs

namespace PeriodicTask

/-- Whether the task is started after an event, under the discipline. -/
def after (started : Bool) : PTEv → Bool
  | .call .start => true
  | .call .stop => false
  | .fire _ _ => started

/-- Under the discipline a started task has one live timer, the one in `_handler`, and a
stopped one has none. -/
def Inv (started : Bool) (t : PeriodicTask) : Prop :=
  if started then ∃ h, t.pending = [h] ∧ t.handler = some h else t.pending = []

variable {t t' : PeriodicTask} {r : Except PyErr Unit}

theorem inv_false : Inv false t ↔ t.pending = [] := by simp [Inv]

theorem start_inv (hi : Inv false t) : Inv true t.start :=
  ⟨t.next, by simp [start, inv_false.1 hi], rfl⟩

theorem stop_pending_nil (hi : Inv b t) (hs : t.stop = .ok t') : t'.pending = [] := by
  unfold stop at hs
  split at hs
  · cases hs
  · rename_i h hh
    cases hs
    cases b
    · simp [inv_false.1 hi]
    · obtain ⟨h', hp, hh'⟩ := hi
      rw [hh] at hh'; cases hh'; simp [hp]

theorem step_inv {b : Bool} {ev : PTEv} (hd : PTDisciplined b (ev :: evs)) (hi : Inv b t)
    (hs : t.step ev = some (t', r)) : Inv (after b ev) t' ∧ PTDisciplined (after b ev) evs := by
  rcases ev with (_ | _) | ⟨h, inner⟩
  · obtain ⟨rfl, hd⟩ := hd
    simp only [step, Option.some.injEq, Prod.mk.injEq] at hs
    obtain ⟨rfl, -⟩ := hs
    exact ⟨start_inv hi, hd⟩
  · refine ⟨inv_false.2 ?_, hd⟩
    simp only [step] at hs
    split at hs <;> simp only [Option.some.injEq, Prod.mk.injEq] at hs <;> obtain ⟨rfl, -⟩ := hs
    · cases b
      · exact inv_false.1 hi
      · rename_i e he; obtain ⟨h', -, hh⟩ := hi; simp [stop, hh] at he
    · exact stop_pending_nil hi ‹_›
  · obtain ⟨rfl, hd⟩ := hd
    refine ⟨?_, hd⟩
    simp only [step, fire, calls] at hs
    split at hs
    · simp only [Option.some.injEq, Prod.mk.injEq] at hs
      obtain ⟨rfl, -⟩ := hs
      cases b
      · simp_all [inv_false]
      · obtain ⟨h', hp, hh⟩ := hi
        exact ⟨_, by simp_all [start], rfl⟩
    · cases hs

theorem runEvs_inv {b : Bool} (evs : List PTEv) (hd : PTDisciplined b evs) (hi : Inv b t)
    (hs : t.runEvs evs = some t') : Inv (evs.foldl after b) t' := by
  induction evs generalizing b t with
  | nil => exact Option.some.inj hs ▸ hi
  | cons ev evs ih =>
    simp only [runEvs, Option.bind_eq_some] at hs
    obtain ⟨⟨t1, r1⟩, h1, h2⟩ := hs
    obtain ⟨hi1, hd1⟩ := step_inv hd hi h1
    exact ih hd1 hi1 h2

theorem calls_handler (inner : List PTCall) (hh : t.handler ≠ none) :
    (t.calls inner).1.handler ≠ none := by
  induction inner generalizing t with
  | nil => exact hh
  | cons c inner ih =>
    cases c with
    | start => exact ih (by simp [start])
    | stop =>
      simp only [calls]
      split
      · exact hh
      · rename_i t2 ht2; unfold stop at ht2; split at ht2 <;> cases ht2; exact ih hh

theorem step_handler {ev : PTEv} (hh : t.handler ≠ none ∨ ev = .call .start)
    (hs : t.step ev = some (t', r)) : t'.handler ≠ none := by
  rcases ev with (_ | _) | ⟨h, inner⟩
  · simp only [step, Option.some.injEq, Prod.mk.injEq] at hs
    rw [← hs.1]; simp [start]
  · simp only [or_false, reduceCtorEq, PTEv.call.injEq] at hh
    simp only [step] at hs
    split at hs <;> simp only [Option.some.injEq, Prod.mk.injEq] at hs <;> obtain ⟨rfl, -⟩ := hs
    · exact hh
    · rename_i t2 ht2; unfold stop at ht2; split at ht2 <;> cases ht2; exact hh
  · simp only [or_false, reduceCtorEq] at hh
    simp only [step, fire] at hs
    split at hs
    · split at hs <;> simp only [Option.some.injEq, Prod.mk.injEq] at hs <;>
        obtain ⟨rfl, -⟩ := hs
      · rename_i t2 e heq
        rw [show t2 = _ from (congrArg Prod.fst heq).symm]
        exact calls_handler inner hh
      · simp [start]
    · cases hs

theorem runEvs_handler (evs : List PTEv) (hstart : .call .start ∈ evs ∨ t.handler ≠ none)
    (hs : t.runEvs evs = some t') : t'.handler ≠ none := by
  induction evs generalizing t with
  | nil =>
    rw [← Option.some.inj hs]
    simpa using hstart
  | cons ev evs ih =>
    simp only [runEvs, Option.bind_eq_some] at hs
    obtain ⟨⟨t1, r1⟩, h1, h2⟩ := hs
    simp only [List.mem_cons] at hstart
    by_cases hev : ev = .call .start
    · exact ih (.inr (step_handler (.inr hev) h1)) h2
    · rcases hstart with (hstart | hstart) | hstart
      · exact absurd hstart.symm hev
      · exact ih (.inl hstart) h2
      · exact ih (.inr (step_handler (.inl hstart) h1)) h2

/-- Without a live timer and without `start()`, nothing makes `method` run: every timer that
could fire is gone, and `stop()` keeps it so. -/
theorem step_quiet {ev : PTEv} (hp : t.pending = []) (hev : ev ≠ .call .start)
    (hs : t.step ev = some (t', r)) : t'.pending = [] ∧ t'.invoked = t.invoked := by
  rcases ev with (_ | _) | ⟨h, inner⟩
  · exact absurd rfl hev
  · simp only [step] at hs
    split at hs <;> simp only [Option.some.injEq, Prod.mk.injEq] at hs <;> obtain ⟨rfl, -⟩ := hs
    · exact ⟨hp, rfl⟩
    · rename_i t2 ht2; unfold stop at ht2; split at ht2 <;> cases ht2; simp [hp]
  · simp [step, fire, hp] at hs

theorem runEvs_quiet (evs : List PTEv) (hp : t.pending = []) (hno : .call .start ∉ evs)
    (hs : t.runEvs evs = some t') : t'.invoked = t.invoked := by
  induction evs generalizing t with
  | nil => rw [Option.some.inj hs]
  | cons ev evs ih =>
    simp only [runEvs, Option.bind_eq_some] at hs
    obtain ⟨⟨t1, r1⟩, h1, h2⟩ := hs
    simp only [List.mem_cons, not_or] at hno
    obtain ⟨hp1, hi1⟩ := step_quiet hp (Ne.symm hno.1) h1
    exact (ih hp1 hno.2 h2).trans hi1

/-- When `start()` is never called on a started task and `stop()` never from inside `method`,
a `stop()` after a `start()` does not raise, and from then on, until `start()` is called
again, no event makes `method` run. -/
theorem stop_is_final (pre post : List PTEv) (s : PeriodicTask) (hd : PTDisciplined false pre)
    (hpre : .call .start ∈ pre) (hpost : .call .start ∉ post) (hs : runEvs {} pre = some s) :
    ∃ s1, s.stop = .ok s1 ∧ ∀ s', s1.runEvs post = some s' → s'.invoked = s1.invoked := by
  have hi := runEvs_inv pre hd (inv_false.2 rfl) hs
  obtain ⟨h, hh⟩ := Option.ne_none_iff_exists'.1 (runEvs_handler pre (.inl hpre) hs)
  have hstop : s.stop = .ok { s with pending := s.pending.erase h } := by simp [stop, hh]
  exact ⟨_, hstop, fun s' hs' => runEvs_quiet post (stop_pending_nil hi hstop) hpost hs'⟩

/-- Started, fired once, then stopped: later firings and stops leave `method` alone. -/
theorem stop_is_final_after_one_fire :
    ∃ s1, ({ pending := [1], handler := some 1, next := 2, invoked := 1 } : PeriodicTask).stop =
      .ok s1 ∧ ∀ s', s1.runEvs [.fire 1 [], .call .stop] = some s' → s'.invoked = s1.invoked :=
  stop_is_final [.call .start, .fire 0 []] [.fire 1 [], .call .stop] _ ⟨rfl, rfl, trivial⟩
    (by simp) (by simp) rfl

/-- A second `start()` leaves the first timer scheduled and `stop()` cancels only the second:
the loop fires the first after `stop()`, and `method` runs. -/
theorem double_start_runs_after_stop :
    (runEvs {} [.call .start, .call .start, .call .stop]).map (·.invoked) = some 0 ∧
      (runEvs {} [.call .start, .call .start, .call .stop, .fire 0 []]).map (·.invoked) =
        some 1 := by
  decide

/-- A timer that is scheduled fires, and `method` runs. -/
theorem fire_runs_method (hp : h ∈ t.pending) :
    ∃ t', t.fire h [] = some (t', .ok ()) ∧ t'.invoked = t.invoked + 1 :=
  ⟨({ t with pending := t.pending.erase h, invoked := t.invoked + 1 } : PeriodicTask).start,
    by simp [fire, calls, hp], rfl⟩

/-- A `stop()` made from inside `method` cancels a timer that already fired, and `_run` then
schedules itself again: the task ends up holding a live timer, which runs `method` once more. -/
theorem stop_in_method_rescheduled (hp : h ∈ t.pending) (hh : t.handler ≠ none) :
    ∃ t', t.fire h [.stop] = some (t', .ok ()) ∧ t'.handler = some t.next ∧
      ∃ t'', t'.fire t.next [] = some (t'', .ok ()) ∧ t''.invoked = t.invoked + 2 := by
  obtain ⟨h0, hh0⟩ := Option.ne_none_iff_exists'.1 hh
  let t1 : PeriodicTask :=
    { t with pending := (t.pending.erase h).erase h0, invoked := t.invoked + 1 }
  have hf : t.fire h [.stop] = some (t1.start, .ok ()) := by simp [fire, calls, stop, hp, hh0, t1]
  obtain ⟨t'', h1, h2⟩ := fire_runs_method (show t.next ∈ t1.start.pending by simp [start])
  exact ⟨_, hf, rfl, t'', h1, h2⟩

/-- Before the first `start()` there is no `_handler`: every `stop()` raises `AttributeError`,
and no timer can fire. -/
theorem stop_before_start_raises (evs : List PTEv) (hno : .call .start ∉ evs)
    (hs : runEvs {} evs = some t) : t.stop = .error (.attributeError "_handler") := by
  suffices t = {} by subst this; rfl
  induction evs with
  | nil => exact (Option.some.inj hs).symm
  | cons ev evs ih =>
    simp only [List.mem_cons, not_or] at hno
    rcases ev with (_ | _) | ⟨h, inner⟩
    · exact absurd rfl hno.1
    · exact ih hno.2 hs
    · cases hs

end PeriodicTask
end RallyCI