import GuitarTea.Lib.GuardedSystem
import GuitarTea.Spinlock

/-!
# The spinlock with a value

The second pair of lock functions stores a value of the caller in the lock word
instead of 1, and releases the lock only if the word still has that value.  Zero is
the value of a free lock, and nothing keeps a caller from passing it:
`gt_spinlock_lock_with_val` then swaps a 0 in for a 0, returns, and leaves the lock
free.

Threads may use both pairs, and `gt_spinlock_trylock`, on one lock.  A step is the
call of a function or one test of the loop it waits in.

## Main definitions

* `gtSpinlockLockWithVal`, `gtSpinlockUnlockWithVal`, `gtSpinlockTrylock` — the
  functions, up to their loops.
* `LockState`, `lockExec` — threads that share a lock.
* `lockSystem` — threads that release what they hold, the way they took it.
* `ownerSystem` — threads with a value each, that lock and unlock as they like.
* `LockState.Exclusive` — at most one thread holds the lock, and the word tells.
-/

namespace GuitarTea

/-! ## The functions -/

/-- The test of the loop in `gt_spinlock_lock_with_val`. -/
def gtSpinlockLockWithVal (locked val : BitVec 32) : Bool × BitVec 32 :=
  syncBoolCompareAndSwap locked 0 val

/-- The test of the loop in `gt_spinlock_unlock_with_val`. -/
def gtSpinlockUnlockWithVal (locked val : BitVec 32) : Bool × BitVec 32 :=
  syncBoolCompareAndSwap locked val 0

/-- `gt_spinlock_trylock`. -/
def gtSpinlockTrylock (locked : BitVec 32) : Bool × BitVec 32 := syncBoolCompareAndSwap locked 0 1

/-- How a lock was taken: by `gt_spinlock_lock` or `gt_spinlock_trylock`, or with a
value. -/
inductive LockMode
  | plain
  | withVal (val : BitVec 32)
  deriving DecidableEq, Repr

/-- What the lock word is while the lock is held. -/
def LockMode.value : LockMode → BitVec 32
  | .plain => 1
  | .withVal val => val

/-- One test of the loop in which a lock is taken. -/
def LockMode.attempt : LockMode → BitVec 32 → Bool × BitVec 32
  | .plain, locked => gtSpinlockLock locked
  | .withVal val, locked => gtSpinlockLockWithVal locked val

/-- The test succeeds on a free lock. -/
theorem LockMode.attempt_eq (m : LockMode) (locked : BitVec 32) :
    m.attempt locked = if locked = 0 then (true, m.value) else (false, locked) := by
  cases m <;> rfl

/-! ## Threads that share a lock -/

/-- Where a thread is. -/
inductive LockPc
  /-- In none of the functions. -/
  | idle
  /-- In the loop of `gt_spinlock_lock` or `gt_spinlock_lock_with_val`. -/
  | locking (m : LockMode)
  /-- In the loop of `gt_spinlock_unlock_with_val`. -/
  | unlocking (val : BitVec 32)
  deriving DecidableEq, Repr

/-- A thread: its place, and how it took the lock, if it holds it. -/
structure LockThread where
  pc : LockPc
  held : Option LockMode
  deriving DecidableEq, Repr

/-- The lock word and the threads. -/
structure LockState (ι : Type) where
  locked : BitVec 32
  thread : ι → LockThread

/-- A call of one of the functions, or one more test of the loop a thread is in. -/
inductive LockOp
  | lock
  | trylock
  | unlock
  | lockWithVal (val : BitVec 32)
  | unlockWithVal (val : BitVec 32)
  | test
  deriving DecidableEq, Repr

section Threads

variable {ι : Type} [DecidableEq ι]

/-- Replace a thread. -/
def LockState.setThread (s : LockState ι) (t : ι) (th : LockThread) : LockState ι :=
  { s with thread := Function.update s.thread t th }

/-- One step of a thread. -/
def lockExec (s : LockState ι) (t : ι) (op : LockOp) : LockState ι :=
  let th := s.thread t
  match op with
  | .lock => s.setThread t { th with pc := .locking .plain }
  | .lockWithVal val => s.setThread t { th with pc := .locking (.withVal val) }
  | .unlockWithVal val => s.setThread t { th with pc := .unlocking val }
  | .trylock =>
      let r := gtSpinlockTrylock s.locked
      { s with locked := r.2 }.setThread t { th with held := if r.1 then some .plain else th.held }
  | .unlock =>
      { s with locked := gtSpinlockUnlock s.locked }.setThread t { th with held := none }
  | .test =>
      match th.pc with
      | .idle => s
      | .locking m =>
          let r := m.attempt s.locked
          { s with locked := r.2 }.setThread t (if r.1 then ⟨.idle, some m⟩ else th)
      | .unlocking val =>
          let r := gtSpinlockUnlockWithVal s.locked val
          { s with locked := r.2 }.setThread t (if r.1 then ⟨.idle, none⟩ else th)

/-- The state before the threads run: the lock is initialised, whatever its word held. -/
def lockInit (locked : BitVec 32) : LockState ι where
  locked := gtSpinlockInit locked
  thread _ := ⟨.idle, none⟩

/-- Any thread calls any of the functions with any value, but releases only a lock it
holds, by the function and with the value that match how it took it. -/
def lockSystem (ι : Type) [DecidableEq ι] : GuardedSystem (LockState ι) (ι × LockOp) where
  legal s a :=
    match a.2 with
    | .lock | .trylock | .lockWithVal _ => (s.thread a.1).pc = .idle
    | .unlock => (s.thread a.1).pc = .idle ∧ (s.thread a.1).held = some .plain
    | .unlockWithVal val => (s.thread a.1).pc = .idle ∧ (s.thread a.1).held = some (.withVal val)
    | .test => (s.thread a.1).pc ≠ .idle
  exec s a := some (lockExec s a.1 a.2)

/-- Every thread has a value of its own, which it passes to both functions; it may try to
release a lock it does not hold. -/
def ownerSystem (val : ι → BitVec 32) : GuardedSystem (LockState ι) (ι × LockOp) where
  legal s a :=
    match a.2 with
    | .lockWithVal v | .unlockWithVal v => (s.thread a.1).pc = .idle ∧ v = val a.1
    | .test => (s.thread a.1).pc ≠ .idle
    | _ => False
  exec s a := some (lockExec s a.1 a.2)

/-- How each thread took the lock. -/
def LockState.held (s : LockState ι) (t : ι) : Option LockMode := (s.thread t).held

/-- The thread holds the lock. -/
def LockState.Holds (s : LockState ι) (t : ι) : Prop := s.held t ≠ none

instance (s : LockState ι) (t : ι) : Decidable (s.Holds t) :=
  inferInstanceAs (Decidable (s.held t ≠ none))

instance (s : LockState ι) (a : ι × LockOp) : Decidable ((lockSystem ι).legal s a) :=
  match a with
  | (t, .lock) | (t, .trylock) | (t, .lockWithVal _) =>
      inferInstanceAs (Decidable ((s.thread t).pc = .idle))
  | (t, .unlock) =>
      inferInstanceAs (Decidable ((s.thread t).pc = .idle ∧ (s.thread t).held = some .plain))
  | (t, .unlockWithVal val) => inferInstanceAs
      (Decidable ((s.thread t).pc = .idle ∧ (s.thread t).held = some (.withVal val)))
  | (t, .test) => inferInstanceAs (Decidable ((s.thread t).pc ≠ .idle))

/-- At most one thread holds the lock, and the word is 0 exactly when none does. -/
def LockState.Exclusive (s : LockState ι) : Prop :=
  (∀ t u, s.Holds t → s.Holds u → t = u) ∧ (s.locked = 0 ↔ ∀ t, ¬ s.Holds t)

/-! ## One step -/

theorem LockState.held_setThread (s : LockState ι) (t : ι) (th : LockThread) :
    (s.setThread t th).held = Function.update s.held t th.held := by
  funext u
  by_cases hu : u = t
  · subst hu
    simp [held, setThread]
  · simp [held, setThread, hu]

/-- A thread takes the free lock in this step. -/
def Takes (s : LockState ι) (t : ι) (op : LockOp) (m : LockMode) : Prop :=
  s.locked = 0 ∧ (op = .trylock ∧ m = .plain ∨ op = .test ∧ (s.thread t).pc = .locking m)

/-- A thread releases the lock in this step. -/
def Releases (s : LockState ι) (t : ι) (op : LockOp) : Prop :=
  op = .unlock ∨ op = .test ∧ (s.thread t).pc = .unlocking s.locked

/-- **What a step can do** to the lock: nothing, take it or release it. -/
theorem lockExec_cases (s : LockState ι) (t : ι) (op : LockOp) :
    (lockExec s t op).locked = s.locked ∧ (lockExec s t op).held = s.held ∨
    (∃ m, Takes s t op m ∧ (lockExec s t op).locked = m.value ∧
      (lockExec s t op).held = Function.update s.held t (some m)) ∨
    Releases s t op ∧ (lockExec s t op).locked = 0 ∧
      (lockExec s t op).held = Function.update s.held t none := by
  have hsame : ∀ pc, Function.update s.held t (LockThread.mk pc (s.thread t).held).held = s.held :=
    fun _ => Function.update_eq_self t s.held
  cases op with
  | lock | lockWithVal val | unlockWithVal val =>
      left
      refine ⟨rfl, ?_⟩
      rw [lockExec, LockState.held_setThread]
      exact hsame _
  | trylock =>
      by_cases hfree : s.locked = 0
      · have hr : gtSpinlockTrylock s.locked = (true, 1) := if_pos hfree
        right; left
        refine ⟨.plain, ⟨hfree, .inl ⟨rfl, rfl⟩⟩, ?_⟩
        simp only [lockExec, hr, LockState.held_setThread]
        exact ⟨rfl, rfl⟩
      · have hr : gtSpinlockTrylock s.locked = (false, s.locked) := if_neg hfree
        left
        simp only [lockExec, hr, LockState.held_setThread]
        exact ⟨rfl, hsame _⟩
  | unlock =>
      right; right
      exact ⟨.inl rfl, rfl, LockState.held_setThread _ _ _⟩
  | test =>
      cases hpc : (s.thread t).pc with
      | idle =>
          left
          simp [lockExec, hpc]
      | locking m =>
          by_cases hfree : s.locked = 0
          · have hr : m.attempt s.locked = (true, m.value) := by rw [m.attempt_eq, if_pos hfree]
            right; left
            refine ⟨m, ⟨hfree, .inr ⟨rfl, hpc⟩⟩, ?_⟩
            simp only [lockExec, hpc, hr, LockState.held_setThread]
            exact ⟨rfl, rfl⟩
          · have hr : m.attempt s.locked = (false, s.locked) := by rw [m.attempt_eq, if_neg hfree]
            left
            simp only [lockExec, hpc, hr, LockState.held_setThread]
            exact ⟨rfl, hsame _⟩
      | unlocking val =>
          by_cases hval : s.locked = val
          · have hr : gtSpinlockUnlockWithVal s.locked val = (true, 0) := if_pos hval
            right; right
            refine ⟨.inr ⟨rfl, by rw [hpc, hval]⟩, ?_⟩
            simp only [lockExec, hpc, hr, LockState.held_setThread]
            exact ⟨rfl, rfl⟩
          · have hr : gtSpinlockUnlockWithVal s.locked val = (false, s.locked) := if_neg hval
            left
            simp only [lockExec, hpc, hr, LockState.held_setThread]
            exact ⟨rfl, hsame _⟩

/-- The other threads stay where they are. -/
theorem thread_lockExec_of_ne (s : LockState ι) {t u : ι} (op : LockOp) (h : u ≠ t) :
    (lockExec s t op).thread u = s.thread u := by
  have hset : ∀ (s : LockState ι) th, (s.setThread t th).thread u = s.thread u := by
    intro s th
    exact Function.update_of_ne h th s.thread
  cases op with
  | test =>
      simp only [lockExec]
      split <;> simp only [hset]
  | _ => simp only [lockExec, hset]

/-- A thread stays where it is, leaves the function it is in, or calls one with a loop. -/
theorem pc_lockExec_cases (s : LockState ι) (t : ι) (op : LockOp) :
    ((lockExec s t op).thread t).pc = (s.thread t).pc ∨ ((lockExec s t op).thread t).pc = .idle ∨
    (op = .lock ∧ ((lockExec s t op).thread t).pc = .locking .plain) ∨
    (∃ val, op = .lockWithVal val ∧
      ((lockExec s t op).thread t).pc = .locking (.withVal val)) ∨
    ∃ val, op = .unlockWithVal val ∧ ((lockExec s t op).thread t).pc = .unlocking val := by
  cases op with
  | lock | lockWithVal val | unlockWithVal val => simp [lockExec, LockState.setThread]
  | trylock | unlock =>
      left
      simp [lockExec, LockState.setThread]
  | test =>
      cases hpc : (s.thread t).pc with
      | idle =>
          left
          simp [lockExec, hpc]
      | locking m =>
          cases hr : (m.attempt s.locked).1 <;> simp [lockExec, LockState.setThread, hpc, hr]
      | unlocking val =>
          cases hr : (gtSpinlockUnlockWithVal s.locked val).1 <;>
            simp [lockExec, LockState.setThread, hpc, hr]

/-! ## The word and its holder -/

/-- At most one thread holds the lock, the word has its value, and is 0 when there is
none. -/
structure OneHolder (locked : BitVec 32) (held : ι → Option LockMode) : Prop where
  value : ∀ t m, held t = some m → m.value = locked
  unique : ∀ t u, held t ≠ none → held u ≠ none → t = u
  free : locked = 0 ↔ ∀ t, held t = none

omit [DecidableEq ι] in
theorem OneHolder.exclusive {s : LockState ι} (h : OneHolder s.locked s.held) : s.Exclusive := by
  refine ⟨h.unique, ?_⟩
  simp only [LockState.Holds, ne_eq, not_not]
  exact h.free

omit [DecidableEq ι] in
/-- Nobody holds a lock that was just initialised. -/
theorem oneHolder_init (locked : BitVec 32) :
    OneHolder (lockInit locked : LockState ι).locked (lockInit locked : LockState ι).held where
  value t m h := by cases h
  unique t u h := absurd rfl h
  free := iff_of_true rfl (fun _ => rfl)

/-- A thread takes the free lock, and the word becomes a value other than 0. -/
theorem OneHolder.take {held : ι → Option LockMode} (h : OneHolder 0 held) (t : ι) {m : LockMode}
    (hm : m.value ≠ 0) : OneHolder m.value (Function.update held t (some m)) := by
  have hnone : ∀ u, held u = none := h.free.mp rfl
  have honly : ∀ u, Function.update held t (some m) u ≠ none → u = t := by
    intro u hu
    by_contra hne
    rw [Function.update_of_ne hne] at hu
    exact hu (hnone u)
  refine ⟨?_, ?_, ?_⟩
  · intro u m' hu
    obtain rfl : u = t := honly u (by simp [hu])
    rw [Function.update_self, Option.some.injEq] at hu
    rw [hu]
  · intro u v hu hv
    rw [honly u hu, honly v hv]
  · refine iff_of_false hm ?_
    intro hall
    simpa using hall t

/-- The holder releases the lock. -/
theorem OneHolder.release {locked : BitVec 32} {held : ι → Option LockMode}
    (h : OneHolder locked held) {t : ι} (ht : held t ≠ none) :
    OneHolder 0 (Function.update held t none) := by
  have hnone : ∀ u, Function.update held t none u = none := by
    intro u
    by_cases hu : u = t
    · rw [hu, Function.update_self]
    · rw [Function.update_of_ne hu]
      by_contra hheld
      exact hu (h.unique u t hheld ht)
  refine ⟨?_, ?_, ?_⟩
  · intro u m hu
    rw [hnone u] at hu
    cases hu
  · intro u v hu
    exact absurd (hnone u) hu
  · exact iff_of_true rfl hnone

/-! ## Threads that release what they hold -/

/-- What holds while nobody takes the lock with the value 0: a thread in
`gt_spinlock_unlock_with_val` holds the lock. -/
structure LockInv (s : LockState ι) : Prop where
  holder : OneHolder s.locked s.held
  unlocking : ∀ t val, (s.thread t).pc = .unlocking val → s.held t = some (.withVal val)

omit [DecidableEq ι] in
theorem lockInv_init (locked : BitVec 32) : LockInv (lockInit locked : LockState ι) where
  holder := oneHolder_init locked
  unlocking t val h := by cases h

/-- The condition on a step: it is not the one in which `gt_spinlock_lock_with_val` with
the value 0 finds the lock free. -/
def NotTakenWithZero (s : LockState ι) (a : ι × LockOp) : Prop :=
  ¬ (a.2 = .test ∧ (s.thread a.1).pc = .locking (.withVal 0) ∧ s.locked = 0)

omit [DecidableEq ι] in
/-- Then the lock is taken with another value. -/
theorem value_ne_zero_of_takes {s : LockState ι} {t : ι} {op : LockOp} {m : LockMode}
    (h : Takes s t op m) (hc : NotTakenWithZero s (t, op)) : m.value ≠ 0 := by
  cases m with
  | plain => decide
  | withVal val =>
      rintro rfl
      obtain ⟨hfree, ⟨-, hplain⟩ | ⟨htest, hpc⟩⟩ := h
      · cases hplain
      · exact hc ⟨htest, hpc, hfree⟩

/-- A release is by the holder. -/
theorem held_of_releases {s : LockState ι} (h : LockInv s) {t : ι} {op : LockOp}
    (hlegal : (lockSystem ι).legal s (t, op)) (hr : Releases s t op) : s.held t ≠ none := by
  obtain rfl | ⟨-, hpc⟩ := hr
  · simp [LockState.held, hlegal.2]
  · simp [h.unlocking t _ hpc]

/-- A thread that gets into, or stays in, `gt_spinlock_unlock_with_val` holds the lock. -/
theorem held_of_pc_unlocking {s : LockState ι} (h : LockInv s) {t : ι} {op : LockOp}
    (hlegal : (lockSystem ι).legal s (t, op)) {val : BitVec 32}
    (hpc : ((lockExec s t op).thread t).pc = .unlocking val) :
    (lockExec s t op).held t = some (.withVal val) := by
  cases op with
  | lock | lockWithVal v => simp [lockExec, LockState.setThread] at hpc
  | trylock =>
      have hidle : (s.thread t).pc = .idle := hlegal
      simp [lockExec, LockState.setThread, hidle] at hpc
  | unlock =>
      have hidle : (s.thread t).pc = .idle := hlegal.1
      simp [lockExec, LockState.setThread, hidle] at hpc
  | unlockWithVal v =>
      obtain rfl : v = val := by simpa [lockExec, LockState.setThread] using hpc
      rw [lockExec, LockState.held_setThread, Function.update_self]
      exact hlegal.2
  | test =>
      cases hold : (s.thread t).pc with
      | idle => exact absurd hold hlegal
      | locking m =>
          cases hr : (m.attempt s.locked).1 <;>
            simp [lockExec, LockState.setThread, hold, hr] at hpc
      | unlocking v =>
          cases hr : (gtSpinlockUnlockWithVal s.locked v).1 with
          | true => simp [lockExec, LockState.setThread, hold, hr] at hpc
          | false =>
              obtain rfl : v = val := by
                simpa [lockExec, LockState.setThread, hold, hr] using hpc
              simp only [lockExec, hold, hr, LockState.held_setThread, Function.update_self]
              exact h.unlocking t v hold

/-- **One step** keeps the invariant. -/
theorem LockInv.step {s : LockState ι} (h : LockInv s) {t : ι} {op : LockOp}
    (hlegal : (lockSystem ι).legal s (t, op)) (hc : NotTakenWithZero s (t, op)) :
    LockInv (lockExec s t op) := by
  constructor
  · obtain ⟨hword, hheld⟩ | ⟨m, htakes, hword, hheld⟩ | ⟨hreleases, hword, hheld⟩ :=
      lockExec_cases s t op
    · rw [hword, hheld]
      exact h.holder
    · rw [hword, hheld]
      have hfree := h.holder
      rw [htakes.1] at hfree
      exact hfree.take t (value_ne_zero_of_takes htakes hc)
    · rw [hword, hheld]
      exact h.holder.release (held_of_releases h hlegal hreleases)
  · intro u val hu
    by_cases hut : u = t
    · subst hut
      exact held_of_pc_unlocking h hlegal hu
    · rw [thread_lockExec_of_ne s op hut] at hu
      rw [LockState.held, thread_lockExec_of_ne s op hut]
      exact h.unlocking u val hu

/-- The condition is exact: a thread that takes the lock with the value 0 leaves it
free. -/
theorem not_exclusive_of_taken {s : LockState ι} {a : ι × LockOp} (h : ¬ NotTakenWithZero s a) :
    ¬ (lockExec s a.1 a.2).Exclusive := by
  obtain ⟨t, op⟩ := a
  obtain ⟨rfl, hpc, hfree⟩ := not_not.mp h
  rintro ⟨-, hword⟩
  have hr : (LockMode.withVal 0).attempt s.locked = (true, 0) := by
    rw [LockMode.attempt_eq, if_pos hfree]
    rfl
  have hexec : lockExec s t .test =
      { s with locked := 0 }.setThread t ⟨.idle, some (.withVal 0)⟩ := by
    simp only [lockExec, hpc, hr, if_true]
  rw [hexec] at hword
  refine hword.mp rfl t ?_
  simp [LockState.Holds, LockState.held, LockState.setThread]

/-- A thread is in `gt_spinlock_lock_with_val` with the value 0 only after it was called so. -/
theorem pc_ne_locking_zero {s : LockState ι} (h : ∀ t, (s.thread t).pc ≠ .locking (.withVal 0))
    (t : ι) {op : LockOp} (hop : op ≠ .lockWithVal 0) (u : ι) :
    ((lockExec s t op).thread u).pc ≠ .locking (.withVal 0) := by
  by_cases hut : u = t
  · subst hut
    obtain hpc | hpc | ⟨-, hpc⟩ | ⟨val, rfl, hpc⟩ | ⟨val, -, hpc⟩ := pc_lockExec_cases s u op
    · rw [hpc]
      exact h u
    · simp [hpc]
    · simp [hpc]
    · have hval : val ≠ 0 := fun hz => hop (by rw [hz])
      simpa [hpc] using hval
    · simp [hpc]
  · rw [thread_lockExec_of_ne s op hut]
    exact h u

/-- **Mutual exclusion.**  For any number of threads, whatever values they pass and however
their steps interleave, at most one thread holds the lock and the word is 0 exactly
when none does, in every state, if and only if the lock is never taken with the
value 0.  It is not when no thread passes the value 0. -/
theorem lock_exclusive_iff (locked : BitVec 32) (ops : List (ι × LockOp)) :
    ((lockSystem ι).Always (fun _ _ s' => s'.Exclusive) (lockInit locked) ops ↔
      (lockSystem ι).Meets NotTakenWithZero (lockInit locked) ops) ∧
    ((∀ a ∈ ops, a.2 ≠ .lockWithVal 0) →
      (lockSystem ι).Always (fun _ _ s' => s'.Exclusive) (lockInit locked) ops) := by
  constructor
  · refine GuardedSystem.always_iff_meets (I := LockInv) ?_ ?_ ops _ (lockInv_init locked)
    · intro s a h hl hc
      have h' := h.step hl hc
      exact ⟨_, rfl, h'.holder.exclusive, h'⟩
    · rintro s a s' - - hc ⟨⟩
      exact not_exclusive_of_taken hc
  · intro hops
    refine GuardedSystem.always_of_meets (C := fun _ a => a.2 ≠ .lockWithVal 0)
      (I := fun s => LockInv s ∧ ∀ t, (s.thread t).pc ≠ .locking (.withVal 0)) ?_ ops _
      ⟨lockInv_init locked, ?_⟩ (GuardedSystem.meets_of_forall (fun a ha _ => hops a ha) _)
    · rintro s a ⟨h, hpc⟩ hl hc
      have h' := h.step hl (fun hzero => hpc a.1 hzero.2.1)
      exact ⟨_, rfl, h'.holder.exclusive, h', pc_ne_locking_zero hpc a.1 hc⟩
    · intro t ht
      cases ht

end Threads

/-- Two threads with the values 5 and 7. -/
theorem lock_exclusive_five_seven :
    (lockSystem Bool).Always (fun _ _ s' => s'.Exclusive) (lockInit 3)
      [(false, .lockWithVal 5), (true, .lockWithVal 7), (true, .test), (false, .test)] :=
  (lock_exclusive_iff 3 _).2 (by decide)

/-- Two threads that pass the value 0 hold the lock at the same time. -/
theorem two_holders_with_zero :
    ∃ s', (lockSystem Bool).Run (lockInit 0)
        [(false, .lockWithVal 0), (false, .test), (true, .lockWithVal 0), (true, .test)] s' ∧
      s'.Holds false ∧ s'.Holds true ∧ ¬ s'.Exclusive := by
  refine GuardedSystem.exists_run_of_execAll (fun s' => s'.Holds false ∧ s'.Holds true)
    (by decide) ?_
  rintro s' - ⟨hfalse, htrue⟩
  refine ⟨hfalse, htrue, ?_⟩
  rintro ⟨hone, -⟩
  exact absurd (hone false true hfalse htrue) (by decide)

/-! ## Threads with a value of their own -/

section Threads

variable {ι : Type} [DecidableEq ι]


/-- What holds whoever tries to release the lock. -/
structure OwnerInv (val : ι → BitVec 32) (s : LockState ι) : Prop where
  holder : OneHolder s.locked s.held
  held : ∀ t m, s.held t = some m → m = .withVal (val t)
  locking : ∀ t m, (s.thread t).pc = .locking m → m = .withVal (val t)
  unlocking : ∀ t v, (s.thread t).pc = .unlocking v → v = val t

omit [DecidableEq ι] in
theorem ownerInv_init (val : ι → BitVec 32) (locked : BitVec 32) :
    OwnerInv val (lockInit locked : LockState ι) where
  holder := oneHolder_init locked
  held t m h := by cases h
  locking t m h := by cases h
  unlocking t v h := by cases h

section Owner

variable {val : ι → BitVec 32} (hinj : Function.Injective val) (hne : ∀ t, val t ≠ 0)
include hinj hne

omit [DecidableEq ι] in
/-- While the word has the value of a thread, that thread holds the lock. -/
theorem OwnerInv.holds_of_locked {s : LockState ι} (h : OwnerInv val s) {t : ι}
    (ht : s.locked = val t) : s.Holds t := by
  have hbusy : ¬ ∀ u, s.held u = none := by
    rw [← h.holder.free, ht]
    exact hne t
  obtain ⟨u, hu⟩ := not_forall.mp hbusy
  obtain ⟨m, hm⟩ := Option.ne_none_iff_exists'.mp hu
  have hvalue := h.holder.value u m hm
  rw [h.held u m hm, LockMode.value, ht] at hvalue
  obtain rfl := hinj hvalue
  exact hu

/-- **One step** of any thread keeps the invariant. -/
theorem OwnerInv.step {s : LockState ι} (h : OwnerInv val s) {t : ι} {op : LockOp}
    (hlegal : (ownerSystem val).legal s (t, op)) : OwnerInv val (lockExec s t op) := by
  obtain ⟨hlock, htry, hunlock⟩ : op ≠ .lock ∧ op ≠ .trylock ∧ op ≠ .unlock := by
    refine ⟨?_, ?_, ?_⟩ <;> rintro rfl <;> exact hlegal
  have hown : ∀ m, Takes s t op m → m = .withVal (val t) := by
    rintro m ⟨-, ⟨rfl, -⟩ | ⟨-, hpc⟩⟩
    · exact absurd rfl htry
    · exact h.locking t m hpc
  have hpcs := pc_lockExec_cases s t op
  refine ⟨?_, ?_, ?_, ?_⟩
  · obtain ⟨hword, hheld⟩ | ⟨m, htakes, hword, hheld⟩ | ⟨hreleases, hword, hheld⟩ :=
      lockExec_cases s t op
    · rw [hword, hheld]
      exact h.holder
    · have hfree := h.holder
      rw [htakes.1] at hfree
      rw [hword, hheld]
      refine hfree.take t ?_
      rw [hown m htakes]
      exact hne t
    · rw [hword, hheld]
      refine h.holder.release ?_
      obtain hop | ⟨-, hpc⟩ := hreleases
      · exact absurd hop hunlock
      · exact h.holds_of_locked hinj hne (h.unlocking t _ hpc)
  · intro u m hu
    obtain ⟨-, hheld⟩ | ⟨m', htakes, -, hheld⟩ | ⟨-, -, hheld⟩ := lockExec_cases s t op
    · exact h.held u m (hheld ▸ hu)
    · rw [hheld] at hu
      by_cases hut : u = t
      · subst hut
        obtain rfl : m' = m := by simpa using hu
        exact hown m' htakes
      · rw [Function.update_of_ne hut] at hu
        exact h.held u m hu
    · rw [hheld] at hu
      by_cases hut : u = t
      · subst hut
        simp at hu
      · rw [Function.update_of_ne hut] at hu
        exact h.held u m hu
  · intro u m hu
    by_cases hut : u = t
    · subst hut
      obtain hpc | hpc | ⟨hop, -⟩ | ⟨v, rfl, hpc⟩ | ⟨v, -, hpc⟩ := hpcs
      · exact h.locking u m (hpc ▸ hu)
      · simp [hpc] at hu
      · exact absurd hop hlock
      · obtain rfl : LockMode.withVal v = m := by simpa [hpc] using hu
        rw [hlegal.2]
      · simp [hpc] at hu
    · exact h.locking u m (thread_lockExec_of_ne s op hut ▸ hu)
  · intro u v hu
    by_cases hut : u = t
    · subst hut
      obtain hpc | hpc | ⟨-, hpc⟩ | ⟨v', -, hpc⟩ | ⟨v', rfl, hpc⟩ := hpcs
      · exact h.unlocking u v (hpc ▸ hu)
      · simp [hpc] at hu
      · simp [hpc] at hu
      · simp [hpc] at hu
      · obtain rfl : v' = v := by simpa [hpc] using hu
        exact hlegal.2
    · exact h.unlocking u v (thread_lockExec_of_ne s op hut ▸ hu)

/-- A thread that does not hold the lock tests in vain. -/
theorem OwnerInv.lockExec_test {s : LockState ι} (h : OwnerInv val s) {t : ι} (ht : ¬ s.Holds t)
    {v : BitVec 32} (hpc : (s.thread t).pc = .unlocking v) : lockExec s t .test = s := by
  have hword : s.locked ≠ v := by
    intro hv
    exact ht (h.holds_of_locked hinj hne (hv.trans (h.unlocking t v hpc)))
  have hr : gtSpinlockUnlockWithVal s.locked v = (false, s.locked) := if_neg hword
  simp only [lockExec, hpc, hr, Bool.false_eq_true, if_false, LockState.setThread,
    Function.update_eq_self]

/-- It stays in `gt_spinlock_unlock_with_val` whatever the others do. -/
theorem OwnerInv.thread_of_run {s s' : LockState ι} {ops : List (ι × LockOp)} (h : OwnerInv val s)
    {t : ι} (ht : ¬ s.Holds t) {v : BitVec 32} (hpc : (s.thread t).pc = .unlocking v)
    (hrun : (ownerSystem val).Run s ops s') : s'.thread t = s.thread t := by
  have hinv := hrun.invariant (I := fun u => OwnerInv val u ∧ u.thread t = s.thread t) ?_ ⟨h, rfl⟩
  · exact hinv.2
  · rintro u ⟨t', op⟩ u' ⟨hu, hthread⟩ hl he
    obtain rfl : lockExec u t' op = u' := Option.some.inj he
    refine ⟨hu.step hinj hne hl, ?_⟩
    by_cases htt : t = t'
    · subst htt
      have hpc' : (u.thread t).pc = .unlocking v := by rw [hthread, hpc]
      have hbusy : (u.thread t).pc ≠ .idle := by simp [hpc']
      obtain rfl : op = .test := by
        cases op with
        | test => rfl
        | lockWithVal _ | unlockWithVal _ => exact absurd hl.1 hbusy
        | lock | trylock | unlock => exact hl.elim
      have hholds : ¬ u.Holds t := by
        rw [LockState.Holds, LockState.held, hthread]
        exact ht
      rw [hu.lockExec_test hinj hne hholds hpc', hthread]
    · rw [thread_lockExec_of_ne u op htt, hthread]

/-- **Only the owner releases.**  Any number of threads, each with a value of its own that
is not 0, lock and unlock as they like.  In every state that is reached at most one
thread holds the lock, the word is its value, or 0 if there is none, and a thread
that tries to release the lock without holding it changes nothing and does not get
out of the function. -/
theorem owner_checked_release (locked : BitVec 32) {s : LockState ι} {ops : List (ι × LockOp)}
    (hrun : (ownerSystem val).Run (lockInit locked) ops s) :
    (∀ t u, s.Holds t → s.Holds u → t = u) ∧ (∀ t, s.Holds t → s.locked = val t) ∧
    ((∀ t, ¬ s.Holds t) → s.locked = 0) ∧
    ∀ t v, ¬ s.Holds t → (s.thread t).pc = .unlocking v →
      lockExec s t .test = s ∧
      ∀ ops' s', (ownerSystem val).Run s ops' s' → s'.thread t = s.thread t := by
  have h : OwnerInv val s := by
    refine hrun.invariant ?_ (ownerInv_init val locked)
    rintro u ⟨t, op⟩ u' hu hl he
    obtain rfl : lockExec u t op = u' := Option.some.inj he
    exact hu.step hinj hne hl
  refine ⟨h.holder.unique, ?_, ?_, ?_⟩
  · intro t ht
    obtain ⟨m, hm⟩ := Option.ne_none_iff_exists'.mp ht
    rw [← h.holder.value t m hm, h.held t m hm]
    rfl
  · intro hnone
    exact h.holder.free.mpr fun t => not_not.mp (hnone t)
  · intro t v ht hpc
    exact ⟨h.lockExec_test hinj hne ht hpc, fun ops' s' => h.thread_of_run hinj hne ht hpc⟩

end Owner

end Threads

/-- The values of two threads. -/
def ownValue (t : Bool) : BitVec 32 := if t then 2 else 1

/-- The one thread holds the lock, and the other tries to release it. -/
theorem owner_checked_release_two :
    ∃ s, (ownerSystem ownValue).Run (lockInit 9) [(false, .lockWithVal 1), (false, .test),
        (true, .unlockWithVal 2)] s ∧ s.locked = 1 ∧ lockExec s true .test = s := by
  have hinj : Function.Injective ownValue := by decide
  have hne : ∀ t, ownValue t ≠ 0 := by decide
  have hrun : (ownerSystem ownValue).Run (lockInit 9) [(false, .lockWithVal 1), (false, .test),
      (true, .unlockWithVal 2)] _ :=
    .cons ⟨rfl, rfl⟩ rfl (.cons (fun h => by cases h) rfl (.cons ⟨rfl, rfl⟩ rfl (.nil _)))
  obtain ⟨-, -, -, hvain⟩ := owner_checked_release hinj hne 9 hrun
  exact ⟨_, hrun, rfl, (hvain true 2 (by decide) rfl).1⟩

end GuitarTea
