import GuitarTea.Lib.LockedSections
import GuitarTea.LockWithVal
import Mathlib.Data.BitVec

/-!
# Critical sections under a spinlock

What a thread does between taking a `gt_spinlock_t` and releasing it is atomic,
whatever it does there and whichever of the functions take the lock: every
interleaving of the accesses is a serial run of whole sections.  The one thing that is
needed is that no thread locks with the value 0.

The threads of the spinlock test are an instance.  Between the lock and the unlock
they add the time they have waited to `g_spinlock_cast` and one to `g_total_count`,
each with a read and a write.

## Main definitions

* `gtSpinlock` — the lock functions as a lock word.
* `TestMem`, `TestCmd`, `lockedBody`, `testSections` — the threads of the spinlock test.

## Main results

* `spinlock_sections_atomic` — sections under a spinlock are atomic.
* `spinlock_test_totals` — both totals of the spinlock test.
-/

namespace GuitarTea

/-! ## The lock -/

/-- How a lock may be taken: not with the value of a free lock. -/
abbrev HoldingMode := { m : LockMode // m.value ≠ 0 }

/-- One attempt to release the lock: `gt_spinlock_unlock`, or one test of the loop in
`gt_spinlock_unlock_with_val`. -/
def LockMode.release : LockMode → BitVec 32 → Bool × BitVec 32
  | .plain, locked => (true, gtSpinlockUnlock locked)
  | .withVal val, locked => gtSpinlockUnlockWithVal locked val

/-- `gt_spinlock_t` with `gt_spinlock_lock`, `gt_spinlock_lock_with_val` and the two ways
to release it. -/
def gtSpinlock : LockWord (BitVec 32) HoldingMode where
  free := 0
  held m := m.1.value
  attempt m := m.1.attempt
  release m := m.1.release
  held_ne_free m := m.2
  attempt_free m := by simp [LockMode.attempt_eq]
  attempt_of_ne m locked hne := by rw [LockMode.attempt_eq, if_neg hne]
  release_held m := by
    rcases m with ⟨m, hm⟩
    cases m with
    | plain => rfl
    | withVal val => simp [LockMode.release, LockMode.value, gtSpinlockUnlockWithVal,
        syncBoolCompareAndSwap]

/-- The mode of `gt_spinlock_lock` and `gt_spinlock_trylock`. -/
def plainMode : HoldingMode := ⟨.plain, by decide⟩

/-! ## Any sections -/

section Sections

variable {ι Cmd : Type} {Val : Cmd → Type} {σ X : Type} [DecidableEq ι]

/-- Threads that share a spinlock and a memory. -/
def spinSections (access : (c : Cmd) → σ → Val c × σ)
    (plan : ι → X → Plan HoldingMode Cmd Val X) :
    Sections ι (BitVec 32) HoldingMode Cmd Val σ X :=
  ⟨gtSpinlock, access, plan⟩

/-- `gt_spinlock_init`, and no thread has begun. -/
def spinSectionsInit (locked : BitVec 32) (mem : σ) (own : ι → X) :
    SectionState ι (BitVec 32) HoldingMode Cmd Val σ X :=
  ⟨gtSpinlockInit locked, mem, fun t => .outside (own t)⟩

/-- **Critical sections are atomic.**  Any number of threads, any sections, any mix of
`gt_spinlock_lock`, `gt_spinlock_trylock` and `gt_spinlock_lock_with_val` with values other
than 0, any schedule: at most one thread is in a section, the lock word is 0 exactly when
none is, and whenever it is 0 the memory and the threads are those of a serial run of whole
sections. -/
theorem spinlock_sections_atomic (access : (c : Cmd) → σ → Val c × σ)
    (plan : ι → X → Plan HoldingMode Cmd Val X) (locked : BitVec 32) (mem : σ) (own : ι → X)
    (schedule : List ι) :
    let S := spinSections access plan
    let s := S.run (spinSectionsInit locked mem own) schedule
    (∀ t u m m' p p', s.thread t = .inside m p → s.thread u = .inside m' p' → t = u) ∧
    (s.word = 0 ↔ ∀ t m p, s.thread t ≠ .inside m p) ∧
    ∃ order a, S.serial.Run ⟨mem, own⟩ order a ∧
      (s.word = 0 → a.mem = s.mem ∧ ∀ t, S.Waits t (s.thread t) (a.own t)) :=
  (spinSections access plan).exists_serial mem own schedule

end Sections

/-! ## The spinlock test -/

/-- `g_spinlock_cast` and `g_total_count`. -/
structure TestMem where
  gSpinlockCast : BitVec 64
  gTotalCount : BitVec 32
  deriving DecidableEq, Repr

/-- An access to one of them. -/
inductive TestCmd
  | readCast
  | writeCast (v : BitVec 64)
  | readCount
  | writeCount (v : BitVec 32)

/-- The value of an access. -/
@[reducible] def TestCmd.Val : TestCmd → Type
  | .readCast => BitVec 64
  | .readCount => BitVec 32
  | _ => Unit

/-- The value and the effect of an access. -/
def TestCmd.access : (c : TestCmd) → TestMem → c.Val × TestMem
  | .readCast, s => (s.gSpinlockCast, s)
  | .writeCast v, s => ((), { s with gSpinlockCast := v })
  | .readCount, s => (s.gTotalCount, s)
  | .writeCount v, s => ((), { s with gTotalCount := v })

/-- The two values of `gettimeofday` around a lock, in microseconds. -/
structure LockTimes where
  start : BitVec 64
  stop : BitVec 64

/-- Between the lock and the unlock in round `i` of `pthread_routine`. -/
def lockedBody (time : LockTimes) (i : ℕ) : Prog TestCmd TestCmd.Val ℕ := do
  let cast ← Prog.perform .readCast
  let _ ← Prog.perform (.writeCast (cast + (time.stop - time.start)))
  let count ← Prog.perform .readCount
  let _ ← Prog.perform (.writeCount (count + 1))
  return i + 1

/-- What it does when nothing comes in between. -/
theorem eval_lockedBody (time : LockTimes) (i : ℕ) (mem : TestMem) :
    (lockedBody time i).eval TestCmd.access mem =
      (i + 1, ⟨mem.gSpinlockCast + (time.stop - time.start), mem.gTotalCount + 1⟩) := rfl

section Test

variable {ι : Type} (rounds : ι → ℕ) (time : ι → ℕ → LockTimes)

/-- `pthread_routine`: the own state of a thread is its loop variable.  The source makes
10000 rounds. -/
def testPlan (t : ι) (i : ℕ) : Plan HoldingMode TestCmd TestCmd.Val ℕ :=
  if i < rounds t then .locked plainMode (lockedBody (time t i) i) else .stop

/-- The time a thread has waited for the lock in its first `n` rounds. -/
def waited (t : ι) (n : ℕ) : BitVec 64 :=
  ((List.range n).map fun i => (time t i).stop - (time t i).start).sum

theorem waited_succ (t : ι) (n : ℕ) :
    waited time t (n + 1) = waited time t n + ((time t n).stop - (time t n).start) := by
  simp [waited, List.range_succ]

variable [DecidableEq ι]

/-- The threads of the spinlock test, with the times they see. -/
def testSections : Sections ι (BitVec 32) HoldingMode TestCmd TestCmd.Val TestMem ℕ :=
  spinSections TestCmd.access (testPlan rounds time)

/-- The state in which `main` creates the threads. -/
def testInit (locked : BitVec 32) :
    SectionState ι (BitVec 32) HoldingMode TestCmd TestCmd.Val TestMem ℕ :=
  spinSectionsInit locked ⟨0, 0⟩ fun _ => 0

variable [Fintype ι]

/-- The two totals when thread `t` has made `n t` rounds. -/
structure Totals (n : ι → ℕ) (mem : TestMem) : Prop where
  cast : mem.gSpinlockCast = ∑ t, waited time t (n t)
  count : mem.gTotalCount = BitVec.ofNat 32 (∑ t, n t)

/-- One thread has made a step forward. -/
theorem sum_update_of_add {M : Type} [AddCommMonoid M] (f : ι → ℕ → M) (n : ι → ℕ) (t : ι)
    {i : ℕ} {d : M} (h : f t i = f t (n t) + d) :
    ∑ u, f u (Function.update n t i u) = (∑ u, f u (n u)) + d := by
  have hrest : ∑ u ∈ Finset.univ.erase t, f u (Function.update n t i u) =
      ∑ u ∈ Finset.univ.erase t, f u (n u) := by
    refine Finset.sum_congr rfl ?_
    intro u hu
    rw [Function.update_of_ne (Finset.ne_of_mem_erase hu)]
  rw [← Finset.add_sum_erase _ _ (Finset.mem_univ t), hrest, Function.update_self, h,
    ← Finset.add_sum_erase _ (fun u => f u (n u)) (Finset.mem_univ t)]
  exact add_right_comm _ _ _

variable {rounds time}

/-- A whole round. -/
theorem Totals.round {n : ι → ℕ} {mem : TestMem} (h : Totals time n mem) (t : ι) :
    Totals time (Function.update n t (n t + 1))
      ⟨mem.gSpinlockCast + ((time t (n t)).stop - (time t (n t)).start),
        mem.gTotalCount + 1⟩ where
  cast := by
    rw [sum_update_of_add (waited time) n t (waited_succ time t (n t)), ← h.cast]
  count := by
    rw [sum_update_of_add (fun _ i => i) n t rfl, BitVec.ofNat_add, ← h.count]
    rfl

/-- The totals along a serial run. -/
theorem totals_serial {a : SerialState ι TestMem ℕ} {order : List (ι × Bool)}
    (hrun : (testSections rounds time).serial.Run ⟨⟨0, 0⟩, fun _ => 0⟩ order a) :
    Totals time a.own a.mem := by
  refine hrun.invariant (I := fun a => Totals time a.own a.mem) ?_ ?_
  · intro a op a' h _ hstep
    obtain rfl := Option.some.inj hstep
    by_cases hi : a.own op.1 < rounds op.1
    · simpa [Sections.serialStep, testSections, spinSections, testPlan, hi, Sections.perform,
        eval_lockedBody] using h.round op.1
    · simpa [Sections.serialStep, testSections, spinSections, testPlan, hi] using h
  · exact ⟨by simp [waited], by simp⟩

/-- **The totals of the spinlock test.**  Whenever the lock is free, both totals are those
of the same rounds: of each thread those it has completed.  When all threads are done,
`g_total_count` is the number of all rounds modulo `2 ^ 32`, and `g_spinlock_cast` the sum
of all times waited. -/
theorem spinlock_test_totals (rounds : ι → ℕ) (time : ι → ℕ → LockTimes) (locked : BitVec 32)
    (schedule : List ι) :
    let s := (testSections rounds time).run (testInit locked) schedule
    (s.word = 0 → ∃ n, Totals time n s.mem ∧
      ∀ t, (testSections rounds time).Waits t (s.thread t) (n t)) ∧
    ((∀ t, s.thread t = .outside (rounds t)) →
      s.mem.gSpinlockCast = ∑ t, waited time t (rounds t) ∧
      s.mem.gTotalCount.toNat = (∑ t, rounds t) % 2 ^ 32) := by
  intro s
  obtain ⟨-, hword, order, a, hrun, hagree⟩ :=
    (testSections rounds time).exists_serial ⟨0, 0⟩ (fun _ => 0) schedule
  have htotals := totals_serial hrun
  refine ⟨fun hfree => ?_, fun hdone => ?_⟩
  · obtain ⟨hmem, hwaits⟩ := hagree hfree
    exact ⟨a.own, hmem ▸ htotals, hwaits⟩
  · have hfree : s.word = 0 := by
      refine hword.mpr fun t m p => ?_
      change s.thread t ≠ .inside m p
      rw [hdone t]
      nofun
    obtain ⟨hmem, hwaits⟩ := hagree hfree
    have hown : a.own = rounds := by
      funext t
      rcases hwaits t with heq | ⟨m, p, heq, -⟩
      · exact (SectionPc.outside.inj ((hdone t).symm.trans heq)).symm
      · cases (hdone t).symm.trans heq
    rw [hmem, hown] at htotals
    have hcount : s.mem.gTotalCount = BitVec.ofNat 32 (∑ t, rounds t) := htotals.count
    exact ⟨htotals.cast, by rw [hcount, BitVec.toNat_ofNat]⟩

end Test

end GuitarTea
