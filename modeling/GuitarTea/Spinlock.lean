import GuitarTea.Base
import Mathlib.Algebra.BigOperators.Group.Finset.Basic
import Mathlib.Algebra.Order.BigOperators.Group.Finset
import Mathlib.Data.Fintype.BigOperators

/-!
# The spinlock

`gt_spinlock_t` is a word that is 0 while the lock is free.  `gt_spinlock_lock`
swaps a 1 in for a 0, trying again until it succeeds, and `gt_spinlock_unlock`
stores a 0.

The threads of the spinlock test take the lock, increment a shared counter and
release the lock, any number of times.  A step of the system is one step of one
thread, and the increment takes two: the counter is read into a register and the
register plus one is written back.

## Main definitions

* `syncBoolCompareAndSwap`, `syncLockRelease` — the atomic operations.
* `SpinState`, `spinStep`, `spinRun` — threads under a schedule.
* `SpinInv` — what holds in every state.
-/

namespace GuitarTea

/-! ## The lock -/

/-- `__sync_bool_compare_and_swap`: whether the word had the old value, and the word
afterwards. -/
def syncBoolCompareAndSwap (locked oldval newval : BitVec 32) : Bool × BitVec 32 :=
  if locked = oldval then (true, newval) else (false, locked)

/-- `__sync_lock_release`. -/
def syncLockRelease (_locked : BitVec 32) : BitVec 32 := 0

/-- `gt_spinlock_init`. -/
def gtSpinlockInit (_locked : BitVec 32) : BitVec 32 := 0

/-- The test of the loop in `gt_spinlock_lock`. -/
def gtSpinlockLock (locked : BitVec 32) : Bool × BitVec 32 := syncBoolCompareAndSwap locked 0 1

/-- `gt_spinlock_unlock`. -/
def gtSpinlockUnlock (locked : BitVec 32) : BitVec 32 := syncLockRelease locked

/-! ## The threads -/

/-- Where a thread is in the body of `pthread_routine`. -/
inductive SpinPc
  /-- At the test of the `for` loop. -/
  | loop
  /-- In `gt_spinlock_lock`. -/
  | lock
  /-- Before the counter is read. -/
  | read
  /-- Before the counter is written. -/
  | write
  /-- In `gt_spinlock_unlock`. -/
  | unlock
  | done
  deriving DecidableEq, Repr

/-- Between the lock and the unlock. -/
def SpinPc.Inside (pc : SpinPc) : Prop := pc = .read ∨ pc = .write ∨ pc = .unlock

/-- A thread: its place, the loop variable and its copy of the counter. -/
structure SpinThread where
  pc : SpinPc
  i : ℕ
  reg : BitVec 32
  deriving DecidableEq, Repr

/-- The lock word, `g_total_count` and the threads. -/
structure SpinState (ι : Type) where
  locked : BitVec 32
  count : BitVec 32
  thread : ι → SpinThread

section Threads

variable {ι : Type} [DecidableEq ι] (rounds : ι → ℕ)

/-- Replace a thread. -/
def SpinState.setThread (s : SpinState ι) (t : ι) (th : SpinThread) : SpinState ι :=
  { s with thread := Function.update s.thread t th }

/-- One step of a thread. -/
def spinStep (s : SpinState ι) (t : ι) : SpinState ι :=
  let th := s.thread t
  match th.pc with
  | .loop => s.setThread t { th with pc := if th.i < rounds t then .lock else .done }
  | .lock =>
      let r := gtSpinlockLock s.locked
      { s with locked := r.2 }.setThread t { th with pc := if r.1 then .read else .lock }
  | .read => s.setThread t { th with pc := .write, reg := s.count }
  | .write => { s with count := th.reg + 1 }.setThread t { th with pc := .unlock }
  | .unlock =>
      { s with locked := gtSpinlockUnlock s.locked }.setThread t
        { th with pc := .loop, i := th.i + 1 }
  | .done => s

/-- The state before the threads run: the lock is initialised, whatever its word held,
and the counter is zero. -/
def spinInit (locked : BitVec 32) (reg : ι → BitVec 32) : SpinState ι where
  locked := gtSpinlockInit locked
  count := 0
  thread t := ⟨.loop, 0, reg t⟩

/-- The threads take steps in the order of a schedule. -/
def spinRun (s : SpinState ι) (schedule : List ι) : SpinState ι :=
  schedule.foldl (spinStep rounds) s

/-- At most one thread is between its lock and its unlock. -/
def SpinState.Exclusive (s : SpinState ι) : Prop :=
  ∀ t u, (s.thread t).pc.Inside → (s.thread u).pc.Inside → t = u

/-- All threads are done. -/
def SpinState.Done (s : SpinState ι) : Prop := ∀ t, (s.thread t).pc = .done

/-! ## The invariant -/

/-- The increments a thread has made. -/
def SpinThread.increments (th : SpinThread) : ℕ := th.i + if th.pc = .unlock then 1 else 0

/-- The loop variable of a thread that has `r` rounds to make. -/
def SpinThread.Ok (r : ℕ) (th : SpinThread) : Prop :=
  match th.pc with
  | .loop => th.i ≤ r
  | .done => th.i = r
  | _ => th.i < r

/-- No thread but `t` is inside. -/
def SpinState.Alone (s : SpinState ι) (t : ι) : Prop :=
  ∀ u, (s.thread u).pc.Inside → u = t

/-- What holds in every state. -/
structure SpinInv [Fintype ι] (s : SpinState ι) : Prop where
  /-- A thread inside holds the lock. -/
  held : ∀ t, (s.thread t).pc.Inside → s.locked ≠ 0
  holder : s.locked ≠ 0 → ∃ t, (s.thread t).pc.Inside
  unique : ∀ t, (s.thread t).pc.Inside → s.Alone t
  /-- The copy of the counter is up to date when it is written back. -/
  reg : ∀ t, (s.thread t).pc = .write → (s.thread t).reg = s.count
  count : s.count = BitVec.ofNat 32 (∑ t, (s.thread t).increments)
  threads : ∀ t, (s.thread t).Ok (rounds t)

variable [Fintype ι] {rounds}

omit [DecidableEq ι] in
theorem spinInv_init (locked : BitVec 32) (reg : ι → BitVec 32) :
    SpinInv rounds (spinInit locked reg) where
  held t h := by simp [spinInit, SpinPc.Inside] at h
  holder h := absurd rfl h
  unique t h := by simp [spinInit, SpinPc.Inside] at h
  reg t h := by cases h
  count := by simp [spinInit, SpinThread.increments]
  threads t := Nat.zero_le _

section Step

variable {s : SpinState ι} (h : SpinInv rounds s) (t : ι)
include h

omit [DecidableEq ι] in
/-- While the lock is free, nobody is inside. -/
theorem SpinInv.alone_of_free (hfree : s.locked = 0) : s.Alone t := by
  intro u hu
  exact absurd hfree (h.held u hu)

/-- **The rule for one step.**  A step of a thread may change the lock word or the
counter when no other thread is inside. -/
theorem SpinInv.update {locked count : BitVec 32} {th : SpinThread}
    (hlocked : locked = s.locked ∨ s.Alone t) (hcount : count = s.count ∨ s.Alone t)
    (hinside : th.pc.Inside → locked ≠ 0 ∧ s.Alone t)
    (hholder : locked ≠ 0 → th.pc.Inside ∨ (s.locked ≠ 0 ∧ ¬ (s.thread t).pc.Inside))
    (hreg : th.pc = .write → th.reg = count)
    (hsum : count + BitVec.ofNat 32 (s.thread t).increments =
      s.count + BitVec.ofNat 32 th.increments)
    (hok : th.Ok (rounds t)) :
    SpinInv rounds ⟨locked, count, Function.update s.thread t th⟩ := by
  have hthread : ∀ u, u ≠ t → Function.update s.thread t th u = s.thread u :=
    fun u hu => Function.update_of_ne hu _ _
  refine ⟨?_, ?_, ?_, ?_, ?_, ?_⟩
  · intro u hu
    by_cases hut : u = t
    · subst hut
      exact (hinside (by simpa using hu)).1
    · simp only [hthread u hut] at hu
      rcases hlocked with rfl | halone
      · exact h.held u hu
      · exact absurd (halone u hu) hut
  · intro hne
    rcases hholder hne with hin | ⟨hold, hout⟩
    · exact ⟨t, by simpa using hin⟩
    · obtain ⟨u, hu⟩ := h.holder hold
      refine ⟨u, ?_⟩
      simp only
      rwa [hthread u (fun heq => hout (heq ▸ hu))]
  · intro u hu v hv
    by_cases hut : u = t <;> by_cases hvt : v = t
    · rw [hut, hvt]
    · subst hut
      simp only [hthread v hvt] at hv
      exact absurd ((hinside (by simpa using hu)).2 v hv) hvt
    · subst hvt
      simp only [hthread u hut] at hu
      exact absurd ((hinside (by simpa using hv)).2 u hu) hut
    · simp only [hthread u hut, hthread v hvt] at hu hv
      exact h.unique u hu v hv
  · intro u hu
    by_cases hut : u = t
    · subst hut
      simp only [Function.update_self] at hu ⊢
      exact hreg hu
    · simp only [hthread u hut] at hu ⊢
      rcases hcount with rfl | halone
      · exact h.reg u hu
      · exact absurd (halone u (.inr (.inl hu))) hut
  · have hrest : ∑ u ∈ Finset.univ.erase t, (Function.update s.thread t th u).increments =
        ∑ u ∈ Finset.univ.erase t, (s.thread u).increments := by
      refine Finset.sum_congr rfl ?_
      intro u hu
      rw [hthread u (Finset.ne_of_mem_erase hu)]
    have hold := h.count
    rw [← Finset.add_sum_erase _ _ (Finset.mem_univ t)] at hold
    simp only
    rw [← Finset.add_sum_erase _ _ (Finset.mem_univ t), hrest, Function.update_self]
    generalize ∑ u ∈ Finset.univ.erase t, (s.thread u).increments = rest at hold
    bv_omega
  · intro u
    by_cases hut : u = t
    · subst hut
      simpa using hok
    · simpa only [hthread u hut] using h.threads u

/-- One step of a thread. -/
theorem SpinInv.step : SpinInv rounds (spinStep rounds s t) := by
  have hok := h.threads t
  cases hpc : (s.thread t).pc with
  | loop =>
      simp only [spinStep, hpc, SpinState.setThread]
      simp only [SpinThread.Ok, hpc] at hok
      by_cases hlt : (s.thread t).i < rounds t
      · refine h.update t (.inl rfl) (.inl rfl) ?_ ?_ ?_ ?_ ?_ <;>
          simp [hlt, SpinPc.Inside, SpinThread.increments, SpinThread.Ok, hpc]
      · refine h.update t (.inl rfl) (.inl rfl) ?_ ?_ ?_ ?_ ?_ <;>
          simp [hlt, SpinPc.Inside, SpinThread.increments, SpinThread.Ok, hpc]
        omega
  | lock =>
      simp only [SpinThread.Ok, hpc] at hok
      by_cases hfree : s.locked = 0
      · have halone := h.alone_of_free t hfree
        simp only [spinStep, hpc, gtSpinlockLock, syncBoolCompareAndSwap, hfree, if_true,
          SpinState.setThread]
        refine h.update t (.inr halone) (.inl rfl) ?_ ?_ ?_ ?_ ?_ <;>
          simp [halone, SpinPc.Inside, SpinThread.increments, SpinThread.Ok, hpc, hok]
      · simp only [spinStep, hpc, gtSpinlockLock, syncBoolCompareAndSwap, hfree, if_false,
          SpinState.setThread]
        refine h.update t (.inl rfl) (.inl rfl) ?_ ?_ ?_ ?_ ?_ <;>
          simp [SpinPc.Inside, SpinThread.increments, SpinThread.Ok, hpc, hok]
  | read =>
      simp only [SpinThread.Ok, hpc] at hok
      have hin : (s.thread t).pc.Inside := .inl hpc
      simp only [spinStep, hpc, SpinState.setThread]
      refine h.update t (.inl rfl) (.inl rfl) (fun _ => ⟨h.held t hin, h.unique t hin⟩)
        (fun _ => .inl (.inr (.inl rfl))) ?_ ?_ ?_ <;>
        simp [SpinThread.increments, SpinThread.Ok, hpc, hok]
  | write =>
      simp only [SpinThread.Ok, hpc] at hok
      have hin : (s.thread t).pc.Inside := .inr (.inl hpc)
      simp only [spinStep, hpc, SpinState.setThread, h.reg t hpc]
      refine h.update t (.inl rfl) (.inr (h.unique t hin))
        (fun _ => ⟨h.held t hin, h.unique t hin⟩) (fun _ => .inl (.inr (.inr rfl))) ?_ ?_ ?_
      · simp
      · simp only [SpinThread.increments, hpc, reduceCtorEq, if_true, if_false]
        bv_omega
      · simpa [SpinThread.Ok] using hok
  | unlock =>
      simp only [SpinThread.Ok, hpc] at hok
      have hin : (s.thread t).pc.Inside := .inr (.inr hpc)
      simp only [spinStep, hpc, gtSpinlockUnlock, syncLockRelease, SpinState.setThread]
      refine h.update t (.inr (h.unique t hin)) (.inl rfl) ?_ ?_ ?_ ?_ ?_ <;>
        simp [SpinPc.Inside, SpinThread.increments, SpinThread.Ok, hpc]
      omega
  | done =>
      simpa only [spinStep, hpc] using h

end Step

/-- The invariant holds after every schedule. -/
theorem SpinInv.run {s : SpinState ι} (h : SpinInv rounds s) (schedule : List ι) :
    SpinInv rounds (spinRun rounds s schedule) := by
  induction schedule generalizing s with
  | nil => exact h
  | cons t schedule ih => exact ih (h.step t)

/-! ## Progress -/

/-- A bound on the steps a thread still makes, not counting failed attempts. -/
def SpinThread.work (r : ℕ) (th : SpinThread) : ℕ :=
  match th.pc with
  | .loop => 5 * (r - th.i) + 1
  | .lock => 5 * (r - th.i)
  | .read => 5 * (r - th.i) - 1
  | .write => 5 * (r - th.i) - 2
  | .unlock => 5 * (r - th.i) - 3
  | .done => 0

omit [Fintype ι] in
/-- A step leaves the other threads alone. -/
theorem thread_spinStep_of_ne (s : SpinState ι) {t u : ι} (hne : u ≠ t) :
    (spinStep rounds s t).thread u = s.thread u := by
  cases hpc : (s.thread t).pc <;> simp [spinStep, hpc, SpinState.setThread, hne]

/-- A step that is not a failed attempt is one step less to do. -/
theorem SpinInv.work_lt {s : SpinState ι} (h : SpinInv rounds s) {t : ι}
    (hdone : (s.thread t).pc ≠ .done) (hlock : (s.thread t).pc = .lock → s.locked = 0) :
    ((spinStep rounds s t).thread t).work (rounds t) < (s.thread t).work (rounds t) := by
  have hok := h.threads t
  cases hpc : (s.thread t).pc with
  | loop =>
      by_cases hlt : (s.thread t).i < rounds t <;>
        simp [spinStep, hpc, hlt, SpinState.setThread, SpinThread.work]
  | lock =>
      simp only [SpinThread.Ok, hpc] at hok
      simp [spinStep, hpc, gtSpinlockLock, syncBoolCompareAndSwap, hlock hpc, SpinState.setThread,
        SpinThread.work]
      omega
  | read =>
      simp only [SpinThread.Ok, hpc] at hok
      simp [spinStep, hpc, SpinState.setThread, SpinThread.work]
      omega
  | write =>
      simp only [SpinThread.Ok, hpc] at hok
      simp [spinStep, hpc, SpinState.setThread, SpinThread.work]
      omega
  | unlock =>
      simp only [SpinThread.Ok, hpc] at hok
      simp [spinStep, hpc, SpinState.setThread, SpinThread.work]
      omega
  | done => exact absurd hpc hdone

omit [DecidableEq ι] in
/-- As long as a thread is not done, some thread can make such a step: the one that
holds the lock, or any other while the lock is free. -/
theorem SpinInv.exists_progress {s : SpinState ι} (h : SpinInv rounds s) {t : ι}
    (hdone : (s.thread t).pc ≠ .done) :
    ∃ u, (s.thread u).pc ≠ .done ∧ ((s.thread u).pc = .lock → s.locked = 0) := by
  by_cases hfree : s.locked = 0
  · exact ⟨t, hdone, fun _ => hfree⟩
  · obtain ⟨u, hu⟩ := h.holder hfree
    refine ⟨u, ?_, ?_⟩ <;> rcases hu with hpc | hpc | hpc <;> simp [hpc]

/-- From every state some schedule lets all threads finish. -/
theorem SpinInv.exists_finishing {s : SpinState ι} (h : SpinInv rounds s) :
    ∃ schedule, (spinRun rounds s schedule).Done := by
  induction hwork : ∑ t, (s.thread t).work (rounds t) using Nat.strong_induction_on
    generalizing s with
  | _ n ih =>
      by_cases hall : s.Done
      · exact ⟨[], hall⟩
      · obtain ⟨t, ht⟩ := not_forall.mp hall
        obtain ⟨u, hudone, hulock⟩ := h.exists_progress ht
        have hlt : ∑ t, ((spinStep rounds s u).thread t).work (rounds t) < n := by
          rw [← hwork]
          refine Finset.sum_lt_sum ?_ ⟨u, Finset.mem_univ u, h.work_lt hudone hulock⟩
          intro v _
          by_cases hv : v = u
          · rw [hv]
            exact (h.work_lt hudone hulock).le
          · rw [thread_spinStep_of_ne s hv]
        obtain ⟨schedule, hsched⟩ := ih _ hlt (h.step u) rfl
        exact ⟨u :: schedule, hsched⟩

/-- **The spinlock protects the counter.**  Under every schedule of any number of
threads, at most one thread is between its lock and its unlock; once all threads
are done the counter is the number of all rounds, modulo `2 ^ 32`; and they can
always get there. -/
theorem spinlock_counter_total (rounds : ι → ℕ) (locked : BitVec 32) (reg : ι → BitVec 32)
    (schedule : List ι) :
    (spinRun rounds (spinInit locked reg) schedule).Exclusive ∧
      ((spinRun rounds (spinInit locked reg) schedule).Done →
        (spinRun rounds (spinInit locked reg) schedule).count.toNat =
          (∑ t, rounds t) % 2 ^ 32) ∧
      ∃ schedule', (spinRun rounds (spinInit locked reg) (schedule ++ schedule')).Done := by
  set s := spinRun rounds (spinInit locked reg) schedule with hs
  have h : SpinInv rounds s := (spinInv_init locked reg).run schedule
  obtain ⟨schedule', hfinish⟩ := h.exists_finishing
  have hend : (spinRun rounds (spinInit locked reg) (schedule ++ schedule')).Done := by
    rwa [spinRun, List.foldl_append]
  refine ⟨fun t u ht hu => h.unique u hu t ht, ?_, schedule', hend⟩
  intro hdone
  have hsum : ∑ t, (s.thread t).increments = ∑ t, rounds t := by
    refine Finset.sum_congr rfl ?_
    intro t _
    have hok := h.threads t
    simp only [SpinThread.Ok, hdone t] at hok
    simp [SpinThread.increments, hdone t, hok]
  rw [h.count, hsum, BitVec.toNat_ofNat]

end Threads

/-- Two threads with two and one rounds, the second spinning while the first holds the
lock. -/
theorem spinlock_counter_two_threads :
    let rounds : Fin 2 → ℕ := fun t => if t = 0 then 2 else 1
    let s := spinRun rounds (spinInit 7 (fun _ => 0))
      [0, 0, 1, 1, 0, 1, 0, 0, 1, 1, 1, 1, 1, 0, 0, 0, 0, 0, 0]
    s.Done ∧ s.count.toNat = 3 := by
  intro rounds s
  have hdone : ∀ t, (s.thread t).pc = .done := by decide
  refine ⟨hdone, ?_⟩
  rw [(spinlock_counter_total rounds 7 (fun _ => 0) _).2.1 hdone]
  rfl

end GuitarTea
