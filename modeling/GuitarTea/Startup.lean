import GuitarTea.Network
import GuitarTea.Lib.GuardedSystem
import Mathlib.Data.Finset.Insert
import Mathlib.Data.Fintype.Defs

/-!
# The threads during start-up

`gt_init_system` creates the business threads and `gt_network_m`, runs the phase
functions, which initialise the core and the network poller, start to listen and
create the datanet threads, sleeps, and wakes all threads with one
`pthread_cond_broadcast`.

Every worker routine begins with the same barrier: it locks the mutex, calls
`pthread_cond_wait` without testing anything, and unlocks the mutex.  After it a
datanet thread initialises its own poller, while `gt_network_m` accepts connections
and creates events for them on the pollers of the datanet threads.

A step is one step of one thread; a call that does not concern the other threads
is a single step.  When `gt_init_system` fails the process ends, and with it all
steps.

## Main definitions

* `MainPc`, `WorkerPc`, `NetPc`, `InitStage` — where the threads are.
* `StartState`, `mainStep`, `workerStep` — the state and the steps.
* `startupSystem` — all interleavings.
-/

namespace GuitarTea

/-! ## Threads -/

/-- The threads that `gt_create_pthread` and `gt_create_datanet_pthread` create. -/
inductive Worker
  | business (i : Fin 4)
  | network
  | datanet (i : Fin 4)
  deriving DecidableEq, Repr

instance : Fintype Worker where
  elems := {.business 0, .business 1, .business 2, .business 3, .network, .datanet 0, .datanet 1,
    .datanet 2, .datanet 3}
  complete w := by
    cases w with
    | business i => revert i; decide
    | network => decide
    | datanet i => revert i; decide

/-- `g_gt_business_pthread`, in its order. -/
def gGtBusinessPthread (i : Fin 5) : Worker :=
  if h : i.val < 4 then .business ⟨i.val, h⟩ else .network

/-- The main thread, from `gt_create_pthread` on. -/
inductive MainPc
  /-- `pthread_mutex_init` and `pthread_cond_init`. -/
  | syncInit
  /-- The loop in `gt_create_pthread`. -/
  | createPthread (i : Fin 5)
  /-- `gt_core_phase0_func`. -/
  | corePhase0
  /-- The phase function of the signal module. -/
  | signalPhase1
  /-- `gt_poller_init` in `gt_network_phase1_func`. -/
  | networkInit
  /-- `gt_network_listenning` in `gt_network_phase1_func`. -/
  | networkListenning
  /-- The loop in `gt_create_datanet_pthread`. -/
  | createDatanet (i : Fin 4)
  /-- `sleep(2)`. -/
  | sleep
  /-- `gt_wakeup_pthread`. -/
  | wakeup
  /-- `gt_do_run`. -/
  | run
  /-- The process has ended. -/
  | exited
  deriving DecidableEq, Repr

/-- A worker thread at the barrier. -/
inductive WorkerPc
  | absent
  /-- Before `pthread_mutex_lock`. -/
  | entry
  /-- Holds the mutex, before `pthread_cond_wait`. -/
  | locked
  /-- Blocked in `pthread_cond_wait`. -/
  | waiting
  /-- Woken in `pthread_cond_wait`, which has to lock the mutex before it returns. -/
  | woken
  /-- `pthread_cond_wait` has returned, before `pthread_mutex_unlock`. -/
  | returned
  /-- Past the barrier. -/
  | running
  deriving DecidableEq, Repr

/-- `gt_network_m` past the barrier. -/
inductive NetPc
  /-- About to call `gt_poller_epoll_wait`. -/
  | loop
  /-- A connection was accepted, and its options are about to be set. -/
  | accepted (cfd : ℤ)
  /-- The event is about to be created. -/
  | create (sockfd : ℤ)
  /-- The event is about to be started. -/
  | start (sockfd : ℤ)
  deriving DecidableEq, Repr

/-- How far `gt_poller_init` on a datanet poller has got. -/
inductive InitStage
  /-- Not called: the poller is a zeroed global. -/
  | zeroed
  /-- `epoll_create` has returned. -/
  | created (epfd : ℤ)
  /-- The array of events was allocated. -/
  | allocated (epfd : ℤ)
  /-- `INIT_LIST_HEAD` was executed and `GT_OK` returned. -/
  | ready (epfd : ℤ)
  /-- `GT_ERROR` was returned and the thread has exited. -/
  | failed
  deriving DecidableEq, Repr

/-- The state of the start-up. -/
structure StartState where
  main : MainPc
  pc : Worker → WorkerPc
  /-- The owner of `gt_pthread_mutex`. -/
  mutex : Option Worker
  /-- The broadcast was executed. -/
  broadcast : Bool
  /-- `gt_poller_init` on `g_gt_network_poller` has completed. -/
  networkReady : Bool
  /-- The socket listens and its event is registered. -/
  listening : Bool
  /-- How many connections wait to be accepted. -/
  pending : ℕ
  net : NetPc
  datanet : Fin 4 → InitStage

/-- Before `gt_create_pthread`. -/
def startBoot : StartState where
  main := .syncInit
  pc _ := .absent
  mutex := none
  broadcast := false
  networkReady := false
  listening := false
  pending := 0
  net := .loop
  datanet _ := .zeroed

/-! ## Steps -/

/-- A thread moves on and leaves the mutex with an owner. -/
def StartState.setPc (s : StartState) (w : Worker) (pc : WorkerPc) (mutex : Option Worker) :
    StartState :=
  { s with pc := Function.update s.pc w pc, mutex := mutex }

/-- A new thread. -/
def StartState.spawn (s : StartState) (w : Worker) : StartState :=
  { s with pc := Function.update s.pc w .entry }

/-- `pthread_cond_broadcast`. -/
def StartState.wakeAll (s : StartState) : StartState :=
  { s with
    broadcast := true
    pc := fun w => if s.pc w = .waiting then .woken else s.pc w }

/-- A step of the main thread, with the success of the call it makes. -/
def mainStep (ok : Bool) (s : StartState) : StartState :=
  if ok then
    match s.main with
    | .syncInit => { s with main := .createPthread 0 }
    | .createPthread i =>
        { s.spawn (gGtBusinessPthread i) with
          main := if h : i.val + 1 < 5 then .createPthread ⟨i.val + 1, h⟩ else .corePhase0 }
    | .corePhase0 => { s with main := .signalPhase1 }
    | .signalPhase1 => { s with main := .networkInit }
    | .networkInit => { s with main := .networkListenning, networkReady := true }
    | .networkListenning => { s with main := .createDatanet 0, listening := true }
    | .createDatanet i =>
        { s.spawn (.datanet i) with
          main := if h : i.val + 1 < 4 then .createDatanet ⟨i.val + 1, h⟩ else .sleep }
    | .sleep => { s with main := .wakeup }
    | .wakeup => { s.wakeAll with main := .run }
    | .run => s
    | .exited => s
  else
    match s.main with
    | .sleep => { s with main := .wakeup }
    | .run => s
    | _ => { s with main := .exited }

/-- The answer to the call of a worker's step: whether it succeeds, and the descriptor
it returns. -/
structure Answer where
  ok : Bool
  fd : ℤ
  deriving DecidableEq, Repr

/-- A step of `gt_network_m` in its loop. -/
def networkStep (a : Answer) (s : StartState) : StartState :=
  match s.net with
  | .loop => if a.ok then { s with net := .accepted a.fd, pending := s.pending - 1 } else s
  | .accepted cfd => { s with net := if a.ok then .create cfd else .loop }
  | .create sockfd => { s with net := if a.ok then .start sockfd else .loop }
  | .start _ => { s with net := .loop }

/-- A step of a datanet thread: `gt_poller_init`, then the loop on its poller. -/
def datanetStep (a : Answer) (i : Fin 4) (s : StartState) : StartState :=
  { s with
    datanet := Function.update s.datanet i (match s.datanet i with
      | .zeroed => if a.ok then .created a.fd else .failed
      | .created epfd => if a.ok then .allocated epfd else .failed
      | .allocated epfd => .ready epfd
      | .ready epfd => .ready epfd
      | .failed => .failed) }

/-- A step of a worker thread. -/
def workerStep (a : Answer) (w : Worker) (s : StartState) : StartState :=
  match s.pc w with
  | .absent => s
  | .entry => s.setPc w .locked (some w)
  | .locked => s.setPc w .waiting none
  | .waiting => s
  | .woken => s.setPc w .returned (some w)
  | .returned => s.setPc w .running none
  | .running =>
      match w with
      | .business _ => s
      | .network => networkStep a s
      | .datanet i => datanetStep a i s

/-- Whether a worker can take a step: it is not blocked, a connection can only be
accepted when there is one, and a descriptor is not negative. -/
def canStep (a : Answer) (w : Worker) (s : StartState) : Bool :=
  match s.pc w with
  | .absent => false
  | .entry => s.mutex.isNone
  | .locked => true
  | .waiting => false
  | .woken => s.mutex.isNone
  | .returned => true
  | .running =>
      match w with
      | .business _ => true
      | .network => decide (s.net = .loop → a.ok = true →
          s.networkReady = true ∧ s.listening = true ∧ 0 < s.pending ∧ 0 ≤ a.fd)
      | .datanet i => decide (s.datanet i ≠ .failed ∧
          (s.datanet i = .zeroed → a.ok = true → 0 ≤ a.fd))

/-- What can happen: a step of the main thread or of a worker, a return from
`pthread_cond_wait` without a cause, or a new connection. -/
inductive StartAct
  | main (ok : Bool)
  | worker (w : Worker) (a : Answer)
  | spurious (w : Worker)
  | connect
  deriving DecidableEq, Repr

/-- All interleavings of the start-up. -/
def startupSystem : GuardedSystem StartState StartAct where
  legal s act := s.main ≠ .exited ∧ match act with
    | .main _ => True
    | .worker w a => canStep a w s = true
    | .spurious w => s.pc w = .waiting
    | .connect => s.listening = true
  exec s
    | .main ok => some (mainStep ok s)
    | .worker w a => some (workerStep a w s)
    | .spurious w => some { s with pc := Function.update s.pc w .woken }
    | .connect => some { s with pending := s.pending + 1 }

instance (s : StartState) (act : StartAct) : Decidable (startupSystem.legal s act) :=
  match act with
  | .main _ => inferInstanceAs (Decidable (s.main ≠ .exited ∧ True))
  | .worker w a => inferInstanceAs (Decidable (s.main ≠ .exited ∧ canStep a w s = true))
  | .spurious w => inferInstanceAs (Decidable (s.main ≠ .exited ∧ s.pc w = .waiting))
  | .connect => inferInstanceAs (Decidable (s.main ≠ .exited ∧ s.listening = true))

/-! ## What a step changes -/

/-- The next place of a worker. -/
def WorkerPc.next : WorkerPc → WorkerPc
  | .entry => .locked
  | .locked => .waiting
  | .woken => .returned
  | .returned => .running
  | pc => pc

section Frame

variable (a : Answer) (w : Worker) (s : StartState)

/-- Past the barrier a worker changes only what `gt_network_m` and the datanet threads
work on. -/
theorem exists_workerStep_running (hpc : s.pc w = .running) :
    ∃ net pending datanet,
      workerStep a w s = { s with net := net, pending := pending, datanet := datanet } := by
  cases w with
  | business i => exact ⟨_, _, _, by simp only [workerStep, hpc]; rfl⟩
  | network =>
      simp only [workerStep, hpc, networkStep]
      cases s.net with
      | loop =>
          cases a.ok with
          | true => exact ⟨_, _, _, rfl⟩
          | false => exact ⟨_, _, _, rfl⟩
      | accepted cfd => exact ⟨_, _, _, rfl⟩
      | create sockfd => exact ⟨_, _, _, rfl⟩
      | start sockfd => exact ⟨_, _, _, rfl⟩
  | datanet i => exact ⟨_, _, _, by simp only [workerStep, hpc, datanetStep]; rfl⟩

theorem pc_workerStep : (workerStep a w s).pc = Function.update s.pc w (s.pc w).next := by
  have hstay : (s.pc w).next = s.pc w → Function.update s.pc w (s.pc w).next = s.pc := by
    intro h
    rw [h, Function.update_eq_self]
  cases hpc : s.pc w with
  | absent => rw [← hpc, hstay (by rw [hpc]; rfl)]; simp only [workerStep, hpc]
  | waiting => rw [← hpc, hstay (by rw [hpc]; rfl)]; simp only [workerStep, hpc]
  | running =>
      obtain ⟨net, pending, datanet, hstep⟩ := exists_workerStep_running a w s hpc
      rw [hstep, ← hpc, hstay (by rw [hpc]; rfl)]
  | entry => simp only [workerStep, hpc, StartState.setPc, WorkerPc.next]
  | locked => simp only [workerStep, hpc, StartState.setPc, WorkerPc.next]
  | woken => simp only [workerStep, hpc, StartState.setPc, WorkerPc.next]
  | returned => simp only [workerStep, hpc, StartState.setPc, WorkerPc.next]

/-- A worker changes neither the main thread nor what it has set up. -/
theorem workerStep_main : (workerStep a w s).main = s.main ∧
    (workerStep a w s).broadcast = s.broadcast ∧
    (workerStep a w s).networkReady = s.networkReady := by
  cases hpc : s.pc w with
  | running =>
      obtain ⟨net, pending, datanet, hstep⟩ := exists_workerStep_running a w s hpc
      rw [hstep]
      exact ⟨rfl, rfl, rfl⟩
  | _ => simp [workerStep, hpc, StartState.setPc]

/-- Who owns the mutex after a step of a worker. -/
theorem mutex_workerStep {u : Worker} (h : (workerStep a w s).mutex = some u) :
    (u = w ∧ ((s.pc w).next = .locked ∨ (s.pc w).next = .returned)) ∨
      (s.mutex = some u ∧ s.pc w ≠ .locked ∧ s.pc w ≠ .returned) := by
  cases hpc : s.pc w with
  | running =>
      obtain ⟨net, pending, datanet, hstep⟩ := exists_workerStep_running a w s hpc
      rw [hstep] at h
      exact .inr ⟨h, by simp, by simp⟩
  | absent => exact .inr ⟨by simpa [workerStep, hpc] using h, by simp, by simp⟩
  | waiting => exact .inr ⟨by simpa [workerStep, hpc] using h, by simp, by simp⟩
  | entry =>
      left
      refine ⟨?_, .inl rfl⟩
      simpa [workerStep, hpc, StartState.setPc, eq_comm] using h
  | woken =>
      left
      refine ⟨?_, .inr rfl⟩
      simpa [workerStep, hpc, StartState.setPc, eq_comm] using h
  | locked => simp [workerStep, hpc, StartState.setPc] at h
  | returned => simp [workerStep, hpc, StartState.setPc] at h

end Frame

/-! ## What holds in every interleaving -/

/-- The workers that exist while the main thread is at a place. -/
def MainPc.created : MainPc → Worker → Bool
  | .syncInit, _ => false
  | .createPthread i, .business j => decide (j.val < i.val)
  | .createPthread _, _ => false
  | .createDatanet i, .datanet j => decide (j.val < i.val)
  | .sleep, .datanet _ => true
  | .wakeup, .datanet _ => true
  | .run, .datanet _ => true
  | _, .datanet _ => false
  | _, _ => true

/-- The network poller was initialised before the main thread got to this place. -/
def MainPc.PastNetwork (pc : MainPc) : Prop :=
  pc = .networkListenning ∨ (∃ i, pc = .createDatanet i) ∨ pc = .sleep ∨ pc = .wakeup ∨ pc = .run

/-- What holds in every interleaving. -/
structure StartInv (s : StartState) : Prop where
  created : s.main ≠ .exited → ∀ w, s.pc w = .absent ↔ s.main.created w = false
  mutex : ∀ u, s.mutex = some u → s.pc u = .locked ∨ s.pc u = .returned
  ready : s.main.PastNetwork → s.networkReady = true
  broadcast : s.broadcast = true → s.main = .run

theorem startInv_boot : StartInv startBoot where
  created _ w := by cases w <;> simp [startBoot, MainPc.created]
  mutex u h := by cases h
  ready h := by simp [startBoot, MainPc.PastNetwork] at h
  broadcast h := by cases h

/-- A step of a worker. -/
theorem StartInv.worker {s : StartState} (h : StartInv s) (a : Answer) (w : Worker) :
    StartInv (workerStep a w s) := by
  obtain ⟨hmain, hbroadcast, hready⟩ := workerStep_main a w s
  refine ⟨?_, ?_, ?_, ?_⟩
  · intro hexit u
    rw [hmain] at hexit ⊢
    rw [← h.created hexit u, pc_workerStep]
    by_cases hu : u = w
    · subst hu
      rw [Function.update_self]
      cases s.pc u <;> simp [WorkerPc.next]
    · rw [Function.update_of_ne hu]
  · intro u hu
    rw [pc_workerStep]
    rcases mutex_workerStep a w s hu with ⟨rfl, hnext⟩ | ⟨hold, hne⟩
    · rwa [Function.update_self]
    · have huw : u ≠ w := by
        rintro rfl
        rcases h.mutex u hold with hpc | hpc
        · exact hne.1 hpc
        · exact hne.2 hpc
      rw [Function.update_of_ne huw]
      exact h.mutex u hold
  · rw [hmain, hready]
    exact h.ready
  · rw [hmain, hbroadcast]
    exact h.broadcast

section MainSteps

variable {s : StartState} (h : StartInv s) (hrun : s.main ≠ .run)
include h hrun

/-- The main thread goes on without creating or waking a thread. -/
theorem StartInv.advance {main : MainPc} {networkReady listening : Bool}
    (hexit : s.main ≠ .exited) (hcreated : main ≠ .exited → main.created = s.main.created)
    (hready : main.PastNetwork → networkReady = true) :
    StartInv { s with main := main, networkReady := networkReady, listening := listening } where
  created hmain w := by
    simp only at hmain ⊢
    rw [hcreated hmain]
    exact h.created hexit w
  mutex := h.mutex
  ready := hready
  broadcast hb := absurd (h.broadcast hb) hrun

/-- The main thread creates a thread. -/
theorem StartInv.spawned {w : Worker} {main : MainPc} (hexit : s.main ≠ .exited)
    (hnew : s.main.created w = false)
    (hcreated : ∀ u, main.created u = (decide (u = w) || s.main.created u))
    (hready : main.PastNetwork → s.networkReady = true) :
    StartInv { s.spawn w with main := main } where
  created _ u := by
    simp only [StartState.spawn, hcreated]
    by_cases hu : u = w
    · simp [hu]
    · simpa [hu] using h.created hexit u
  mutex u hu := by
    have hne : u ≠ w := by
      rintro rfl
      have habsent := (h.created hexit u).mpr hnew
      rcases h.mutex u hu with hpc | hpc <;> rw [habsent] at hpc <;> cases hpc
    simpa [StartState.spawn, hne] using h.mutex u hu
  ready := hready
  broadcast hb := absurd (h.broadcast hb) hrun

end MainSteps

/-- The broadcast. -/
theorem StartInv.woken {s : StartState} (h : StartInv s) (hmain : s.main = .wakeup) :
    StartInv { s.wakeAll with main := .run } where
  created _ u := by
    have hold := h.created (by simp [hmain]) u
    have hall : ∀ v, MainPc.wakeup.created v = MainPc.run.created v := by
      intro v
      cases v <;> rfl
    rw [hmain, hall] at hold
    simp only [StartState.wakeAll]
    rw [← hold]
    by_cases hw : s.pc u = .waiting <;> simp [hw]
  mutex u hu := by
    rcases h.mutex u hu with hpc | hpc <;> simp [StartState.wakeAll, hpc]
  ready _ := h.ready (.inr (.inr (.inr (.inl hmain))))
  broadcast _ := rfl

/-- A call of `gt_init_system` fails. -/
theorem StartInv.exit {s : StartState} (h : StartInv s) (hexit : s.main ≠ .exited)
    (hrun : s.main ≠ .run) : StartInv { s with main := .exited } :=
  h.advance hrun hexit (fun hne => absurd rfl hne) (by simp [MainPc.PastNetwork])

/-- The next worker is created by `gt_create_pthread`. -/
theorem created_createPthread (i : Fin 5) :
    (MainPc.createPthread i).created (gGtBusinessPthread i) = false ∧
    ∀ u, (if h : i.val + 1 < 5 then MainPc.createPthread ⟨i.val + 1, h⟩
        else .corePhase0).created u =
      (decide (u = gGtBusinessPthread i) || (MainPc.createPthread i).created u) := by
  refine ⟨by revert i; decide, ?_⟩
  intro u
  cases u with
  | business j => revert i j; decide
  | network => revert i; decide
  | datanet j => revert i j; decide

/-- The next worker is created by `gt_create_datanet_pthread`. -/
theorem created_createDatanet (i : Fin 4) :
    (MainPc.createDatanet i).created (.datanet i) = false ∧
    ∀ u, (if h : i.val + 1 < 4 then MainPc.createDatanet ⟨i.val + 1, h⟩ else .sleep).created u =
      (decide (u = .datanet i) || (MainPc.createDatanet i).created u) := by
  refine ⟨by revert i; decide, ?_⟩
  intro u
  cases u with
  | business j => revert i j; decide
  | network => revert i; decide
  | datanet j => revert i j; decide

/-- A step of the main thread whose call fails. -/
theorem StartInv.mainStep_false {s : StartState} (h : StartInv s) (hexit : s.main ≠ .exited) :
    StartInv (mainStep false s) := by
  cases hmain : s.main with
  | exited => exact absurd hmain hexit
  | run => simpa [mainStep, hmain] using h
  | sleep =>
      simp only [mainStep, hmain]
      refine h.advance (by simp [hmain]) hexit ?_
        (fun _ => h.ready (by simp [hmain, MainPc.PastNetwork]))
      intro _
      rw [hmain]
      funext w
      cases w <;> rfl
  | _ =>
      simp only [mainStep, hmain]
      exact h.exit hexit (by simp [hmain])

/-- A step of the main thread whose call succeeds. -/
theorem StartInv.mainStep_true {s : StartState} (h : StartInv s) (hexit : s.main ≠ .exited) :
    StartInv (mainStep true s) := by
  have hgo : ∀ (pc : MainPc) (networkReady listening : Bool), s.main ≠ .run →
      (∀ w, pc.created w = s.main.created w) → (pc.PastNetwork → networkReady = true) →
      StartInv { s with main := pc, networkReady := networkReady, listening := listening } :=
    fun pc _ _ hrun hsame hready => h.advance hrun hexit (fun _ => funext hsame) hready
  cases hmain : s.main with
  | exited => exact absurd hmain hexit
  | run => simpa [mainStep, hmain] using h
  | wakeup => simpa [mainStep, hmain] using h.woken hmain
  | createPthread i =>
      obtain ⟨hnew, hcreated⟩ := created_createPthread i
      rw [← hmain] at hnew hcreated
      simp only [mainStep, hmain, if_true]
      refine h.spawned (by simp [hmain]) hexit hnew hcreated ?_
      split <;> simp [MainPc.PastNetwork]
  | createDatanet i =>
      obtain ⟨hnew, hcreated⟩ := created_createDatanet i
      rw [← hmain] at hnew hcreated
      simp only [mainStep, hmain, if_true]
      exact h.spawned (by simp [hmain]) hexit hnew hcreated
        (fun _ => h.ready (.inr (.inl ⟨i, hmain⟩)))
  | networkInit =>
      simp only [mainStep, hmain, if_true]
      refine hgo _ _ _ (by simp [hmain]) ?_ (fun _ => rfl)
      intro w
      cases w <;> simp [hmain, MainPc.created]
  | _ =>
      simp only [mainStep, hmain, if_true]
      refine hgo _ _ _ (by simp [hmain]) ?_ ?_
      · intro w
        cases w <;> simp [hmain, MainPc.created]
      · intro hpast
        refine h.ready ?_
        revert hpast
        simp [hmain, MainPc.PastNetwork]

/-- **One step.** -/
theorem StartInv.step {s s' : StartState} {act : StartAct} (h : StartInv s)
    (hl : startupSystem.legal s act) (he : startupSystem.exec s act = some s') : StartInv s' := by
  obtain ⟨hexit, hact⟩ := hl
  cases act with
  | main ok =>
      obtain rfl := Option.some.inj he
      cases ok with
      | false => exact h.mainStep_false hexit
      | true => exact h.mainStep_true hexit
  | worker w a =>
      obtain rfl := Option.some.inj he
      exact h.worker a w
  | connect =>
      obtain rfl := Option.some.inj he
      exact ⟨h.created, h.mutex, h.ready, h.broadcast⟩
  | spurious w =>
      obtain rfl := Option.some.inj he
      have hpc : s.pc w = .waiting := hact
      refine ⟨?_, ?_, h.ready, h.broadcast⟩
      · intro _ u
        rw [← h.created hexit u]
        by_cases hu : u = w
        · simp [hu, hpc]
        · simp [hu]
      · intro u hu
        have huw : u ≠ w := by
          rintro rfl
          rcases h.mutex u hu with hold | hold <;> rw [hpc] at hold <;> cases hold
        simpa [huw] using h.mutex u hu

/-- What holds at the end of every interleaving. -/
theorem startInv_run {acts : List StartAct} {s : StartState}
    (hrun : startupSystem.Run startBoot acts s) : StartInv s :=
  hrun.invariant (fun _ _ _ h hl he => h.step hl he) startInv_boot

/-- The answer of a call that matters to no other thread. -/
def noAnswer : Answer := ⟨false, 0⟩

/-- The main thread up to its `sleep`, with all calls successful. -/
def createAll : List StartAct := List.replicate 14 (.main true)

/-- All workers come to their wait, one after the other. -/
def arriveAll : List StartAct :=
  [.business 0, .business 1, .business 2, .business 3, .network, .datanet 0, .datanet 1,
    .datanet 2, .datanet 3].flatMap fun w => [.worker w noAnswer, .worker w noAnswer]

/-- The owner of the mutex can release it. -/
theorem StartInv.exists_unlock {s : StartState} (h : StartInv s) (hexit : s.main ≠ .exited)
    {w : Worker} (hw : s.pc w ≠ .locked ∧ s.pc w ≠ .returned) :
    ∃ acts s', startupSystem.Run s acts s' ∧ s'.main = s.main ∧ s'.broadcast = s.broadcast ∧
      s'.pc w = s.pc w ∧ s'.mutex = none := by
  cases hmutex : s.mutex with
  | none => exact ⟨[], s, .nil s, rfl, rfl, rfl, hmutex⟩
  | some u =>
      have huw : w ≠ u := by
        rintro rfl
        rcases h.mutex w hmutex with hpc | hpc
        · exact hw.1 hpc
        · exact hw.2 hpc
      obtain ⟨hmain, hbroadcast, -⟩ := workerStep_main noAnswer u s
      have hstep : startupSystem.exec s (.worker u noAnswer) = some (workerStep noAnswer u s) := rfl
      refine ⟨[.worker u noAnswer], workerStep noAnswer u s, .cons ⟨hexit, ?_⟩ hstep (.nil _),
        hmain, hbroadcast, ?_, ?_⟩
      · rcases h.mutex u hmutex with hpc | hpc <;> simp [canStep, hpc]
      · rw [pc_workerStep, Function.update_of_ne huw]
      · rcases h.mutex u hmutex with hpc | hpc <;> simp [workerStep, hpc, StartState.setPc]

end GuitarTea
