import GuitarTea.Startup

/-!
# The start-up barrier

The workers are meant to stay in `pthread_cond_wait` until the main thread wakes
them, and to be woken then.  The wait tests no condition, so a worker leaves it when
the call returns without a cause; and the broadcast leaves no trace, so a worker
that comes to its wait later is not woken.

Both parts hold in every interleaving in which the respective thing does not
happen, and a single step in which it does can be continued to a violation.

## Main definitions

* `StaysBehind`, `NoEarlyWakeup` — no worker passes before the broadcast.
* `NoneLeft`, `AllInWait` — no worker waits after the broadcast.
-/

namespace GuitarTea

/-! ## No worker passes early -/

/-- A worker takes a step after its `pthread_cond_wait` only after the broadcast, and
`gt_network_m` calls `gt_poller_epoll_wait` only on an initialised poller. -/
def StaysBehind (s : StartState) : StartAct → Prop
  | .worker w _ => (s.pc w = .returned ∨ s.pc w = .running → s.broadcast = true) ∧
      (w = .network → s.pc w = .running → s.net = .loop → s.networkReady = true)
  | _ => True

/-- The condition on a step: `pthread_cond_wait` does not return without a cause before
the broadcast. -/
def NoEarlyWakeup (s : StartState) : StartAct → Prop
  | .spurious _ => s.broadcast = true
  | _ => True

/-- Woken by the broadcast or without a cause. -/
def WorkerPc.PastWait (pc : WorkerPc) : Prop := pc = .woken ∨ pc = .returned ∨ pc = .running

/-- A worker is past its wait only after the broadcast. -/
structure BarrierInv (s : StartState) : Prop where
  start : StartInv s
  past : ∀ w, (s.pc w).PastWait → s.broadcast = true

/-- A thread that is created is not past its wait. -/
theorem past_spawn {s : StartState} {w u : Worker} (h : ((s.spawn w).pc u).PastWait) :
    (s.pc u).PastWait := by
  by_cases hu : u = w
  · simp [StartState.spawn, hu, WorkerPc.PastWait] at h
  · simpa [StartState.spawn, hu] using h

/-- The main thread lets nobody pass before its broadcast. -/
theorem BarrierInv.mainStep {s : StartState} (h : BarrierInv s) (ok : Bool) (u : Worker)
    (hu : ((mainStep ok s).pc u).PastWait) : (GuitarTea.mainStep ok s).broadcast = true := by
  have hold := h.past u
  cases ok with
  | false => cases hmain : s.main <;> simp_all [GuitarTea.mainStep]
  | true =>
      cases hmain : s.main with
      | wakeup => simp [GuitarTea.mainStep, hmain, StartState.wakeAll]
      | createPthread i =>
          simp only [GuitarTea.mainStep, hmain, if_true] at hu ⊢
          exact hold (past_spawn hu)
      | createDatanet i =>
          simp only [GuitarTea.mainStep, hmain, if_true] at hu ⊢
          exact hold (past_spawn hu)
      | _ =>
          simp only [GuitarTea.mainStep, hmain, if_true] at hu ⊢
          exact hold hu

/-- One step that meets the condition. -/
theorem BarrierInv.step {s : StartState} {act : StartAct} (h : BarrierInv s)
    (hl : startupSystem.legal s act) (hc : NoEarlyWakeup s act) :
    ∃ s', startupSystem.exec s act = some s' ∧ StaysBehind s act ∧ BarrierInv s' := by
  have hstart : ∀ s', startupSystem.exec s act = some s' → StartInv s' :=
    fun s' he => h.start.step hl he
  cases act with
  | main ok => exact ⟨_, rfl, trivial, hstart _ rfl, fun u hu => h.mainStep ok u hu⟩
  | connect => exact ⟨_, rfl, trivial, hstart _ rfl, h.past⟩
  | spurious w => exact ⟨_, rfl, trivial, hstart _ rfl, fun _ _ => hc⟩
  | worker w a =>
      have hbehind : StaysBehind s (.worker w a) := by
        constructor
        · rintro (hpc | hpc)
          · exact h.past w (.inr (.inl hpc))
          · exact h.past w (.inr (.inr hpc))
        · intro _ hpc _
          have hb := h.past w (.inr (.inr hpc))
          exact h.start.ready (.inr (.inr (.inr (.inr (h.start.broadcast hb)))))
      refine ⟨_, rfl, hbehind, hstart _ rfl, ?_⟩
      intro u hu
      rw [(workerStep_main a w s).2.1]
      rw [pc_workerStep] at hu
      by_cases huw : u = w
      · subst huw
        rw [Function.update_self] at hu
        refine h.past u ?_
        cases hpc : s.pc u <;> simp_all [WorkerPc.next, WorkerPc.PastWait]
      · rw [Function.update_of_ne huw] at hu
        exact h.past u hu

/-- A worker that was woken early can go on to pass the barrier. -/
theorem StartInv.exists_pass {s : StartState} (h : StartInv s) (hexit : s.main ≠ .exited)
    {w : Worker} (hw : s.pc w = .woken) (hb : s.broadcast ≠ true) :
    ∃ acts, ¬ startupSystem.Always (fun s act _ => StaysBehind s act) s acts := by
  obtain ⟨acts, t, hrun, hmain, hbroadcast, hpc, hmutex⟩ := h.exists_unlock hexit (w := w)
    (by simp [hw])
  rw [hw] at hpc
  rw [← hmain] at hexit
  let t' := workerStep noAnswer w t
  have hlegal : startupSystem.legal t (.worker w noAnswer) :=
    ⟨hexit, by simp [canStep, hpc, hmutex]⟩
  have hstep : startupSystem.exec t (.worker w noAnswer) = some t' := rfl
  have hpc' : t'.pc w = .returned := by
    rw [pc_workerStep, hpc, Function.update_self, WorkerPc.next]
  obtain ⟨hmain', hbroadcast', -⟩ := workerStep_main noAnswer w t
  have hlegal' : startupSystem.legal t' (.worker w noAnswer) :=
    ⟨by rw [hmain']; exact hexit, by simp [canStep, hpc']⟩
  refine ⟨acts ++ [.worker w noAnswer, .worker w noAnswer], ?_⟩
  intro halways
  have hrest := hrun.always_append _ halways
  rw [GuardedSystem.always_cons_iff hlegal hstep] at hrest
  obtain ⟨u, -, hbehind, -⟩ := hrest.2 hlegal'
  have hpassed := hbehind.1 (.inl hpc')
  rw [hbroadcast', hbroadcast] at hpassed
  exact hb hpassed

/-- **When no worker passes the barrier early.**  In every interleaving in which
`pthread_cond_wait` does not return without a cause before the broadcast.  Any
such return can be continued to a worker that passes early. -/
theorem barrier_staysBehind (acts : List StartAct) :
    (startupSystem.Meets NoEarlyWakeup startBoot acts →
      startupSystem.Always (fun s act _ => StaysBehind s act) startBoot acts) ∧
    ∀ s act, startupSystem.Run startBoot acts s → startupSystem.legal s act →
      ¬ NoEarlyWakeup s act →
      ∃ acts', ¬ startupSystem.Always (fun s act _ => StaysBehind s act) s (act :: acts') := by
  constructor
  · intro hm
    have hboot : BarrierInv startBoot :=
      ⟨startInv_boot, fun w hw => by simp [startBoot, WorkerPc.PastWait] at hw⟩
    exact GuardedSystem.always_of_meets (fun _ _ h hl hc => h.step hl hc) acts startBoot hboot hm
  · intro s act hrun hl hc
    cases act with
    | spurious w =>
        let t : StartState := { s with pc := Function.update s.pc w .woken }
        have ht : startupSystem.exec s (.spurious w) = some t := rfl
        obtain ⟨acts', hbad⟩ := ((startInv_run hrun).step hl ht).exists_pass (w := w) hl.1
          (by simp [t]) hc
        refine ⟨acts', ?_⟩
        rw [GuardedSystem.always_cons_iff hl ht]
        exact fun h => hbad h.2
    | _ => exact absurd trivial hc

/-- A start-up in which all workers are woken by the broadcast. -/
theorem barrier_staysBehind_orderly :
    let acts := createAll ++ arriveAll ++ [.main true, .main true, .worker .network noAnswer,
      .worker .network noAnswer, .worker .network noAnswer]
    (startupSystem.execAll startBoot acts).isSome = true ∧
      startupSystem.Always (fun s act _ => StaysBehind s act) startBoot acts := by
  refine ⟨rfl, (barrier_staysBehind _).1 (GuardedSystem.meets_of_forall ?_ _)⟩
  intro act hact s
  cases act with
  | spurious w => exact absurd hact (by revert w; simp [createAll, arriveAll])
  | _ => trivial

/-- `gt_network_m` returns from its wait without a cause before the network poller is
initialised, and calls `gt_poller_epoll_wait` on it. -/
theorem spurious_wakeup_passes_barrier :
    ∃ s, startupSystem.Run startBoot (List.replicate 6 (.main true) ++
        [.worker .network noAnswer, .worker .network noAnswer, .spurious .network,
          .worker .network noAnswer, .worker .network noAnswer]) s ∧
      startupSystem.legal s (.worker .network noAnswer) ∧ s.pc .network = .running ∧
      s.net = .loop ∧ s.broadcast = false ∧ s.networkReady = false ∧
      ¬ StaysBehind s (.worker .network noAnswer) := by
  refine ⟨_, GuardedSystem.run_of_execAll rfl, by decide, rfl, rfl, rfl, rfl, ?_⟩
  intro h
  exact absurd (h.1 (.inr rfl)) (by decide)

/-! ## No worker is left behind -/

/-- After the broadcast no worker is blocked in its wait. -/
def NoneLeft (s : StartState) : Prop := s.broadcast = true → ∀ w, s.pc w ≠ .waiting

/-- A worker has begun its wait. -/
def WorkerPc.Begun (pc : WorkerPc) : Prop := pc = .waiting ∨ pc.PastWait

/-- The condition on a step: at the broadcast, every worker has begun its wait. -/
def AllInWait (s : StartState) : StartAct → Prop
  | .main ok => s.main = .wakeup → ok = true → ∀ w, (s.pc w).Begun
  | _ => True

instance (pc : WorkerPc) : Decidable pc.PastWait :=
  inferInstanceAs (Decidable (pc = .woken ∨ pc = .returned ∨ pc = .running))

instance (pc : WorkerPc) : Decidable pc.Begun :=
  inferInstanceAs (Decidable (pc = .waiting ∨ pc.PastWait))

instance (s : StartState) (act : StartAct) : Decidable (AllInWait s act) :=
  match act with
  | .main ok => inferInstanceAs (Decidable (s.main = .wakeup → ok = true → ∀ w, (s.pc w).Begun))
  | .worker _ _ => .isTrue trivial
  | .spurious _ => .isTrue trivial
  | .connect => .isTrue trivial

/-- After the broadcast every worker is past its wait. -/
structure WokenInv (s : StartState) : Prop where
  start : StartInv s
  woken : s.broadcast = true → ∀ w, (s.pc w).PastWait

theorem WokenInv.noneLeft {s : StartState} (h : WokenInv s) : NoneLeft s := by
  intro hb w hw
  have hpast := h.woken hb w
  rw [hw] at hpast
  simp [WorkerPc.PastWait] at hpast

/-- The broadcast wakes the workers that wait, and the main thread does nothing to
them afterwards. -/
theorem WokenInv.mainStep {s : StartState} (h : WokenInv s) {ok : Bool}
    (hc : AllInWait s (.main ok)) (hb : (mainStep ok s).broadcast = true) (w : Worker) :
    ((GuitarTea.mainStep ok s).pc w).PastWait := by
  by_cases hold : s.broadcast = true
  · have hmain := h.start.broadcast hold
    cases ok <;> simpa [GuitarTea.mainStep, hmain] using h.woken hold w
  · cases ok with
    | false => cases hmain : s.main <;> simp_all [GuitarTea.mainStep]
    | true =>
        cases hmain : s.main with
        | wakeup =>
            simp only [GuitarTea.mainStep, hmain, if_true, StartState.wakeAll]
            rcases hc hmain rfl w with hwait | hpast
            · simp [hwait, WorkerPc.PastWait]
            · split
              · exact .inl rfl
              · exact hpast
        | _ => simp_all [GuitarTea.mainStep, StartState.spawn]

/-- One step that meets the condition. -/
theorem WokenInv.step {s : StartState} {act : StartAct} (h : WokenInv s)
    (hl : startupSystem.legal s act) (hc : AllInWait s act) :
    ∃ s', startupSystem.exec s act = some s' ∧ NoneLeft s' ∧ WokenInv s' := by
  suffices hs : ∃ s', startupSystem.exec s act = some s' ∧
      (s'.broadcast = true → ∀ w, (s'.pc w).PastWait) by
    obtain ⟨s', he, hwoken⟩ := hs
    have hinv : WokenInv s' := ⟨h.start.step hl he, hwoken⟩
    exact ⟨s', he, hinv.noneLeft, hinv⟩
  cases act with
  | main ok => exact ⟨_, rfl, fun hb w => h.mainStep hc hb w⟩
  | connect => exact ⟨_, rfl, h.woken⟩
  | spurious w =>
      refine ⟨_, rfl, ?_⟩
      intro hb u
      by_cases hu : u = w
      · simp [hu, WorkerPc.PastWait]
      · simpa [hu] using h.woken hb u
  | worker w a =>
      refine ⟨_, rfl, ?_⟩
      intro hb u
      rw [(workerStep_main a w s).2.1] at hb
      rw [pc_workerStep]
      by_cases hu : u = w
      · subst hu
        rw [Function.update_self]
        rcases h.woken hb u with hpc | hpc | hpc <;> simp [hpc, WorkerPc.next, WorkerPc.PastWait]
      · rw [Function.update_of_ne hu]
        exact h.woken hb u

/-- A worker that comes to its wait after the broadcast stays there. -/
theorem StartInv.exists_left {s : StartState} (h : StartInv s) (hexit : s.main ≠ .exited)
    {w : Worker} (hw : s.pc w = .entry ∨ s.pc w = .locked) (hb : s.broadcast = true) :
    ∃ acts, ¬ startupSystem.Always (fun _ _ s' => NoneLeft s') s acts := by
  have hwait : ∀ {t : StartState}, t.main ≠ .exited → t.pc w = .locked → t.broadcast = true →
      ¬ startupSystem.Always (fun _ _ s' => NoneLeft s') t [.worker w noAnswer] := by
    intro t hmain hpc hbroadcast halways
    obtain ⟨t', ht', hleft, -⟩ := halways ⟨hmain, by simp [canStep, hpc]⟩
    obtain rfl : workerStep noAnswer w t = t' := Option.some.inj ht'
    refine hleft ?_ w ?_
    · rw [(workerStep_main noAnswer w t).2.1, hbroadcast]
    · rw [pc_workerStep, hpc, Function.update_self, WorkerPc.next]
  rcases hw with hpc | hpc
  · obtain ⟨acts, t, hrun, hmain, hbroadcast, hpc', hmutex⟩ := h.exists_unlock hexit (w := w)
      (by simp [hpc])
    rw [hpc] at hpc'
    rw [← hmain] at hexit
    rw [← hbroadcast] at hb
    have hlegal : startupSystem.legal t (.worker w noAnswer) :=
      ⟨hexit, by simp [canStep, hpc', hmutex]⟩
    have hstep : startupSystem.exec t (.worker w noAnswer) = some (workerStep noAnswer w t) := rfl
    obtain ⟨hmain', hbroadcast', -⟩ := workerStep_main noAnswer w t
    refine ⟨acts ++ [.worker w noAnswer, .worker w noAnswer], ?_⟩
    intro halways
    have hrest := hrun.always_append _ halways
    rw [GuardedSystem.always_cons_iff hlegal hstep] at hrest
    refine hwait ?_ ?_ ?_ hrest.2
    · rwa [hmain']
    · rw [pc_workerStep, hpc', Function.update_self, WorkerPc.next]
    · rwa [hbroadcast']
  · exact ⟨_, hwait hexit hpc hb⟩

/-- **When no wakeup is lost.**  In every interleaving in which all workers have begun
their wait when the broadcast is executed.  A broadcast that comes earlier can be
continued to a worker that waits for good. -/
theorem broadcast_noneLeft (acts : List StartAct) :
    (startupSystem.Meets AllInWait startBoot acts →
      startupSystem.Always (fun _ _ s' => NoneLeft s') startBoot acts) ∧
    ∀ s act, startupSystem.Run startBoot acts s → startupSystem.legal s act →
      ¬ AllInWait s act →
      ∃ acts', ¬ startupSystem.Always (fun _ _ s' => NoneLeft s') s (act :: acts') := by
  constructor
  · intro hm
    have hboot : WokenInv startBoot := ⟨startInv_boot, fun hb => by cases hb⟩
    exact GuardedSystem.always_of_meets (fun _ _ h hl hc => h.step hl hc) acts startBoot hboot hm
  · intro s act hrun hl hc
    cases act with
    | main ok =>
        have hinv := startInv_run hrun
        obtain ⟨hmain, rfl, w, hw⟩ :
            s.main = .wakeup ∧ ok = true ∧ ∃ w, ¬ (s.pc w).Begun := by
          simpa [AllInWait] using hc
        have hcreated : s.pc w ≠ .absent := by
          rw [ne_eq, hinv.created hl.1 w, hmain]
          cases w <;> simp [MainPc.created]
        have hpc : s.pc w = .entry ∨ s.pc w = .locked := by
          cases hpc : s.pc w <;> simp_all [WorkerPc.Begun, WorkerPc.PastWait]
        let t : StartState := { s.wakeAll with main := .run }
        have ht : startupSystem.exec s (.main true) = some t := by
          simp [startupSystem, mainStep, hmain, t]
        have hpc' : t.pc w = s.pc w := by
          rcases hpc with hpc | hpc <;> simp [t, StartState.wakeAll, hpc]
        obtain ⟨acts', hbad⟩ := (hinv.step hl ht).exists_left (w := w) (by simp [t])
          (by rw [hpc']; exact hpc) rfl
        refine ⟨acts', ?_⟩
        rw [GuardedSystem.always_cons_iff hl ht]
        exact fun h => hbad h.2
    | _ => exact absurd trivial hc

/-- All workers come to their wait before the broadcast. -/
theorem broadcast_noneLeft_orderly :
    let acts := createAll ++ arriveAll ++ [.main true, .main true]
    (startupSystem.execAll startBoot acts).isSome = true ∧
      startupSystem.Always (fun _ _ s' => NoneLeft s') startBoot acts :=
  ⟨rfl, (broadcast_noneLeft _).1 (by decide)⟩

/-- The datanet thread 3 comes to its wait after the broadcast: it waits, and the
main thread is past its only broadcast. -/
theorem late_worker_misses_broadcast :
    ∃ s, startupSystem.Run startBoot (createAll ++ [.main true, .main true,
        .worker (.datanet 3) noAnswer, .worker (.datanet 3) noAnswer]) s ∧
      s.broadcast = true ∧ s.main = .run ∧ s.pc (.datanet 3) = .waiting ∧ ¬ NoneLeft s := by
  refine ⟨_, GuardedSystem.run_of_execAll rfl, rfl, rfl, rfl, ?_⟩
  intro h
  exact absurd (h rfl (.datanet 3)) (by decide)

end GuitarTea
