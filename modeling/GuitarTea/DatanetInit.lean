import GuitarTea.Startup

/-!
# Connections before the datanet pollers are ready

The core and the network poller are initialised by the main thread before the
broadcast.  A datanet poller is initialised by its own thread after the broadcast,
and the same broadcast releases `gt_network_m`, which may accept a connection and
create an event for it on the poller first.  The event then gets the descriptor of
a zeroed poller, and `INIT_LIST_HEAD` empties the list that holds it.

The order is right as long as every connection is accepted after the datanet
thread it will be handed to has initialised its poller.

## Main definitions

* `DispatchAfterInit` — an event is created and started on an initialised poller.
* `AcceptsAfterInit` — the connection is accepted after that.
-/

namespace GuitarTea

/-- `gt_poller_init` on the poller has returned `GT_OK`: its `epfd` is the one
`epoll_create` returned, and its list will not be initialised again. -/
def InitStage.Ready (stage : InitStage) : Prop := ∃ epfd, stage = .ready epfd

/-- `gt_network_round_dispatch` creates and starts an event only on a poller that is
initialised. -/
def DispatchAfterInit (s : StartState) : StartAct → Prop
  | .worker .network _ => s.pc .network = .running →
      ∀ sockfd, s.net = .create sockfd ∨ s.net = .start sockfd →
        (s.datanet (datanetIdx sockfd)).Ready
  | _ => True

/-- The condition on a step: when `accept` returns a descriptor, the poller it will be
handed to is initialised. -/
def AcceptsAfterInit (s : StartState) : StartAct → Prop
  | .worker .network a => s.pc .network = .running → s.net = .loop → a.ok = true →
      (s.datanet (datanetIdx a.fd)).Ready
  | _ => True

instance (stage : InitStage) : Decidable stage.Ready :=
  match stage with
  | .ready epfd => .isTrue ⟨epfd, rfl⟩
  | .zeroed => .isFalse nofun
  | .created _ => .isFalse nofun
  | .allocated _ => .isFalse nofun
  | .failed => .isFalse nofun

instance (s : StartState) (act : StartAct) : Decidable (AcceptsAfterInit s act) :=
  match act with
  | .worker .network a => inferInstanceAs (Decidable (s.pc .network = .running → s.net = .loop →
      a.ok = true → (s.datanet (datanetIdx a.fd)).Ready))
  | .worker (.business _) _ => .isTrue trivial
  | .worker (.datanet _) _ => .isTrue trivial
  | .main _ => .isTrue trivial
  | .spurious _ => .isTrue trivial
  | .connect => .isTrue trivial

/-- The connection in hand belongs to an initialised poller. -/
def DispatchInv (s : StartState) : Prop :=
  ∀ sockfd, s.net = .accepted sockfd ∨ s.net = .create sockfd ∨ s.net = .start sockfd →
    (s.datanet (datanetIdx sockfd)).Ready

/-- The main thread does not touch what the workers work on. -/
theorem mainStep_net (ok : Bool) (s : StartState) :
    (mainStep ok s).net = s.net ∧ (mainStep ok s).datanet = s.datanet := by
  cases ok <;> cases hmain : s.main <;>
    simp [mainStep, hmain, StartState.spawn, StartState.wakeAll]

/-- `gt_poller_init` is not called again on a poller that is initialised. -/
theorem ready_datanetStep (a : Answer) (i : Fin 4) {s : StartState} {j : Fin 4} {epfd : ℤ}
    (h : s.datanet j = .ready epfd) : (datanetStep a i s).datanet j = .ready epfd := by
  by_cases hij : j = i
  · subst hij
    simp [datanetStep, h]
  · simp [datanetStep, hij, h]

/-- A poller that is initialised keeps its descriptor and its list under every step. -/
theorem ready_step {s s' : StartState} {act : StartAct} {j : Fin 4} {epfd : ℤ}
    (h : s.datanet j = .ready epfd) (he : startupSystem.exec s act = some s') :
    s'.datanet j = .ready epfd := by
  cases act with
  | main ok =>
      obtain rfl := Option.some.inj he
      rw [(mainStep_net ok s).2]
      exact h
  | connect =>
      obtain rfl := Option.some.inj he
      exact h
  | spurious w =>
      obtain rfl := Option.some.inj he
      exact h
  | worker w a =>
      obtain rfl := Option.some.inj he
      cases hpc : s.pc w with
      | running =>
          simp only [workerStep, hpc]
          cases w with
          | business i => exact h
          | network =>
              cases hnet : s.net with
              | loop => cases hok : a.ok <;> simpa [networkStep, hnet, hok] using h
              | _ => simpa [networkStep, hnet] using h
          | datanet i => exact ready_datanetStep a i h
      | _ => simpa only [workerStep, hpc, StartState.setPc] using h

/-- **An initialised poller stays so.** -/
theorem ready_run {s s' : StartState} {acts : List StartAct} {j : Fin 4} {epfd : ℤ}
    (hrun : startupSystem.Run s acts s') (h : s.datanet j = .ready epfd) :
    s'.datanet j = .ready epfd :=
  hrun.invariant (fun _ _ _ h _ he => ready_step h he) h

/-- A step of `gt_network_m` past the barrier. -/
theorem DispatchInv.networkStep {s : StartState} (h : DispatchInv s) {a : Answer}
    (hc : s.net = .loop → a.ok = true → (s.datanet (datanetIdx a.fd)).Ready) :
    DispatchInv (networkStep a s) := by
  intro sockfd hsockfd
  cases hnet : s.net with
  | loop =>
      cases hok : a.ok with
      | false =>
          simp only [GuitarTea.networkStep, hnet, hok] at hsockfd ⊢
          simp [hnet] at hsockfd
      | true =>
          simp only [GuitarTea.networkStep, hnet, hok, if_true] at hsockfd ⊢
          obtain rfl : a.fd = sockfd := by simpa using hsockfd
          exact hc hnet hok
  | accepted fd =>
      cases hok : a.ok with
      | false => simp [GuitarTea.networkStep, hnet, hok] at hsockfd
      | true =>
          simp only [GuitarTea.networkStep, hnet, hok, if_true] at hsockfd ⊢
          obtain rfl : fd = sockfd := by simpa using hsockfd
          exact h fd (.inl hnet)
  | create fd =>
      cases hok : a.ok with
      | false => simp [GuitarTea.networkStep, hnet, hok] at hsockfd
      | true =>
          simp only [GuitarTea.networkStep, hnet, hok, if_true] at hsockfd ⊢
          obtain rfl : fd = sockfd := by simpa using hsockfd
          exact h fd (.inr (.inl hnet))
  | start fd => simp [GuitarTea.networkStep, hnet] at hsockfd

/-- One step that meets the condition. -/
theorem DispatchInv.step {s : StartState} {act : StartAct} (h : DispatchInv s)
    (hc : AcceptsAfterInit s act) :
    ∃ s', startupSystem.exec s act = some s' ∧ DispatchAfterInit s act ∧ DispatchInv s' := by
  cases act with
  | main ok =>
      refine ⟨_, rfl, trivial, ?_⟩
      obtain ⟨hnet, hdatanet⟩ := mainStep_net ok s
      simpa only [DispatchInv, hnet, hdatanet] using h
  | connect => exact ⟨_, rfl, trivial, h⟩
  | spurious w => exact ⟨_, rfl, trivial, h⟩
  | worker w a =>
      refine ⟨_, rfl, ?_, ?_⟩
      · cases w with
        | network => exact fun _ sockfd hsockfd => h sockfd (.inr hsockfd)
        | _ => trivial
      · cases hpc : s.pc w with
        | running =>
            simp only [workerStep, hpc]
            cases w with
            | business i => exact h
            | network => exact h.networkStep (hc hpc)
            | datanet i =>
                intro sockfd hsockfd
                obtain ⟨epfd, hready⟩ := h sockfd hsockfd
                exact ⟨epfd, ready_datanetStep a i hready⟩
        | _ =>
            simp only [workerStep, hpc]
            exact h

/-- **When connections are dispatched to initialised pollers.**  In every interleaving
in which each connection is accepted after the poller it will be handed to is
initialised; such a poller then keeps its descriptor and its list.  Any earlier
accept can be continued to an event that is created on a poller that is not
initialised. -/
theorem dispatch_after_init (acts : List StartAct) :
    (startupSystem.Meets AcceptsAfterInit startBoot acts →
      startupSystem.Always (fun s act _ => DispatchAfterInit s act) startBoot acts) ∧
    (∀ s s' i epfd, startupSystem.Run s acts s' → s.datanet i = .ready epfd →
      s'.datanet i = .ready epfd) ∧
    ∀ s act, startupSystem.Run startBoot acts s → startupSystem.legal s act →
      ¬ AcceptsAfterInit s act →
      ∃ acts', ¬ startupSystem.Always (fun s act _ => DispatchAfterInit s act) s
        (act :: acts') := by
  refine ⟨?_, fun _ _ _ _ hrun h => ready_run hrun h, ?_⟩
  · intro hm
    have hboot : DispatchInv startBoot := by
      intro sockfd hsockfd
      simp [startBoot] at hsockfd
    exact GuardedSystem.always_of_meets (fun _ _ h _ hc => h.step hc) acts startBoot hboot hm
  · intro s act _ hl hc
    cases act with
    | worker w a =>
        cases w with
        | network =>
            obtain ⟨hpc, hnet, hok, hready⟩ : s.pc .network = .running ∧ s.net = .loop ∧
                a.ok = true ∧ ¬ (s.datanet (datanetIdx a.fd)).Ready := by
              simpa [AcceptsAfterInit] using hc
            let t : StartState := { s with net := .accepted a.fd, pending := s.pending - 1 }
            let u : StartState := { t with net := .create a.fd }
            have ht : startupSystem.exec s (.worker .network a) = some t := by
              simp [startupSystem, workerStep, hpc, networkStep, hnet, hok, t]
            have hlt : startupSystem.legal t (.worker .network a) :=
              ⟨hl.1, by simp [canStep, t, hpc]⟩
            have hu : startupSystem.exec t (.worker .network a) = some u := by
              simp [startupSystem, workerStep, t, u, hpc, networkStep, hok]
            refine ⟨[.worker .network a, .worker .network a], ?_⟩
            rw [GuardedSystem.always_cons_iff hl ht, GuardedSystem.always_cons_iff hlt hu]
            rintro ⟨-, -, hrest⟩
            obtain ⟨-, -, hdispatch, -⟩ := hrest ⟨hl.1, by simp [canStep, u, t, hpc]⟩
            exact hready (hdispatch hpc a.fd (.inl rfl))
        | _ => exact absurd trivial hc
    | _ => exact absurd trivial hc

/-- The datanet thread 0 initialises its poller, and then the connection on descriptor
12 is accepted and dispatched. -/
theorem dispatch_after_init_orderly :
    let acts := createAll ++ arriveAll ++ [.main true, .main true,
      .worker (.datanet 0) noAnswer, .worker (.datanet 0) noAnswer,
      .worker (.datanet 0) ⟨true, 6⟩, .worker (.datanet 0) ⟨true, 0⟩,
      .worker (.datanet 0) noAnswer, .worker .network noAnswer, .worker .network noAnswer,
      .connect, .worker .network ⟨true, 12⟩, .worker .network ⟨true, 0⟩,
      .worker .network ⟨true, 0⟩, .worker .network noAnswer]
    (startupSystem.execAll startBoot acts).isSome = true ∧
      startupSystem.Always (fun s act _ => DispatchAfterInit s act) startBoot acts :=
  ⟨rfl, (dispatch_after_init _).1 (by decide)⟩

/-- All workers wait when the broadcast is executed and no wakeup is spurious.
`gt_network_m` runs first and accepts a connection on descriptor 12: its event is
about to be created on the datanet poller 0, which is a zeroed global. -/
theorem first_accept_overtakes_init :
    ∃ s s', startupSystem.Run startBoot (createAll ++ arriveAll ++ [.main true]) s ∧
      s.main = .wakeup ∧ (∀ w, s.pc w = .waiting) ∧
      startupSystem.Run s [.main true, .worker .network noAnswer, .worker .network noAnswer,
        .connect, .worker .network ⟨true, 12⟩, .worker .network ⟨true, 0⟩] s' ∧
      startupSystem.legal s' (.worker .network ⟨true, 0⟩) ∧ s'.net = .create 12 ∧
      s'.datanet (datanetIdx 12) = .zeroed ∧
      ¬ DispatchAfterInit s' (.worker .network ⟨true, 0⟩) := by
  refine ⟨_, _, GuardedSystem.run_of_execAll rfl, rfl, by decide,
    GuardedSystem.run_of_execAll rfl, by decide, rfl, rfl, ?_⟩
  intro h
  exact absurd (h rfl 12 (.inl rfl)) (by decide)

end GuitarTea
