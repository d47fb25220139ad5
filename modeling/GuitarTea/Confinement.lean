import GuitarTea.Handover

/-!
# A poller in one thread

The comment in `gt_poller_gevent_destroy` does without a lock because a poller and its
events are handled in one thread.  The datanet threads keep to that: they touch the list
of their own poller and the cells of its events.  But `gt_network_round_dispatch` runs in
`gt_network_m` and creates an event on the poller of a datanet thread, and
`gt_poller_gevent_create` links the event into that poller's list.

So a started server stays confined exactly as long as no connection gets an event.

## Main definitions

* `Started` — the main thread has finished the phase functions.
* `NoConnectionEvent` — `gt_network_m` gets no memory for an event.
-/

namespace GuitarTea.Threads

/-- A state of the started server: the main thread is at the top of its loop, and
`gt_network_m` is between two rounds. -/
structure Started (c : Config) : Prop where
  reachable : ∃ gl boot ops, Booted gl boot ∧ threadSystem.system.Run boot ops c
  main : (c.code .main).done = true
  network : (c.code .network).done = true

/-- The `gt_malloc_mem` of `gt_network_m` for the event of a connection returns null. -/
def NoConnectionEvent (c : Config) (op : Thread × Reply) : Prop :=
  op.1 = .network → (c.code .network).next = some .malloc → op.2.ptr = none

/-! ## What a round can come to -/

/-- The threads call the handler of their own poller. -/
def ownHandler (t : Thread) : (c : Cmd) → c.Val → Prop
  | .call _ _, v => v = readFn t.poller
  | _, _ => True

/-- There is memory for an event. -/
def gotMemory : (c : Cmd) → c.Val → Prop
  | .malloc, v => v ≠ none
  | _, _ => False

/-- A command that touches no list cell; only `gt_network_m` asks for memory. -/
def Cmd.Calm (t : Thread) (c : Cmd) : Prop := c.node = none ∧ (c = .malloc → t = .network)

/-- Writes to memory and reads of list cells, which always have an answer. -/
def Cmd.IsAccess : Cmd → Prop
  | .memset _ | .store _ _ | .getNext _ | .setNext _ _ | .setPrev _ _ => True
  | _ => False

/-- A write to the list of a datanet poller. -/
def Cmd.WritesDatanetList (c : Cmd) : Prop := ∃ i v, c = .setNext (.elist (.datanet i)) v

/-- `gt_network_m` does not run a datanet poller. -/
theorem not_confined_writesDatanetList {c : Cmd} (h : c.WritesDatanetList) (s : Shared) :
    ¬ Confined .network c s := by
  obtain ⟨i, v, rfl⟩ := h
  intro hconf
  exact hconf (.elist (.datanet i)) rfl nofun

/-- The program touches no list cell until it has memory for the event of a connection,
and then it writes the list of a datanet poller. -/
def Calm (t : Thread) {α : Type} (p : Code α) : Prop :=
  p.Until (ownHandler t) gotMemory (Cmd.Calm t) Cmd.IsAccess Cmd.WritesDatanetList 7

section Calm

variable {t : Thread}

/-- A command that neither touches a list cell nor asks for memory, and what follows it. -/
theorem calm_bind {β : Type} {c : Cmd} {f : c.Val → Code β} (hn : c.node = none)
    (hm : c ≠ .malloc) (hf : ∀ v, ownHandler t c v → Calm t (f v)) : Calm t (perform c >>= f) := by
  refine Prog.until_perform_bind ⟨hn, fun h => absurd h hm⟩ fun v hv => ?_
  refine ⟨fun hgot => ?_, fun _ => hf v hv⟩
  cases c with
  | malloc => exact absurd rfl hm
  | _ => exact hgot.elim

/-- A message, and the end. -/
theorem calm_log_pure {β : Type} (c : LogCall) (b : β) :
    Calm t (perform (.log c) >>= fun _ => pure b) :=
  calm_bind rfl nofun fun _ _ => Prog.until_pure _

theorem calm_gtPollerEventStart (eflag : BitVec 32) (ge : EventPtr) :
    Calm t (gtPollerEventStart eflag ge) := by
  refine calm_bind rfl nofun fun _ _ => ?_
  refine calm_bind rfl nofun fun _ _ => ?_
  refine calm_bind rfl nofun fun _ _ => ?_
  split
  · exact Prog.until_pure _
  · refine calm_bind rfl nofun fun _ _ => ?_
    refine calm_bind rfl nofun fun _ _ => ?_
    refine calm_bind rfl nofun fun _ _ => ?_
    refine calm_bind rfl nofun fun _ _ => ?_
    refine calm_bind rfl nofun fun _ _ => ?_
    refine calm_bind rfl nofun fun err _ => ?_
    cases err with
    | none => exact Prog.until_pure _
    | some errnum => exact calm_bind rfl nofun fun _ _ => calm_log_pure _ _

/-- **`gt_poller_gevent_create` on a datanet poller.**  With memory for the event it comes
to the write of the poller's list in seven accesses. -/
theorem calm_gtPollerGeventCreate (efd : ℤ) (i : Fin 4) :
    Calm .network (gtPollerGeventCreate efd (.datanet i)) := by
  refine Prog.until_perform_bind ⟨rfl, fun _ => rfl⟩ fun v _ => ?_
  cases v with
  | none => exact ⟨fun h => absurd rfl h, fun _ => calm_log_pure _ _⟩
  | some ge =>
      refine ⟨fun _ => ?_, fun h => absurd nofun h⟩
      -- `memset`, `efd`, `INIT_LIST_HEAD`, and the first two accesses of `list_add`
      refine .inr ⟨trivial, fun _ => .inr ⟨trivial, fun _ => .inr ⟨trivial, fun _ => ?_⟩⟩⟩
      refine .inr ⟨trivial, fun _ => .inr ⟨trivial, fun _ => .inr ⟨trivial, fun _ => ?_⟩⟩⟩
      exact .inl ⟨i, _, rfl⟩

theorem calm_gtNetworkRoundDispatch (sockfd : ℤ) :
    Calm .network (gtNetworkRoundDispatch sockfd) := by
  have hcreate : Calm .network
      (createStarted sockfd (.datanet (datanetIdx sockfd)) .gtDatanetOpsRead) := by
    refine (calm_gtPollerGeventCreate sockfd (datanetIdx sockfd)).bind fun v => ?_
    cases v with
    | none => exact Prog.until_pure _
    | some ge =>
        refine calm_bind rfl nofun fun _ _ => ?_
        exact (calm_gtPollerEventStart epollin ge).bind fun _ => Prog.until_pure _
  refine hcreate.bind fun started => ?_
  cases started with
  | none => exact calm_log_pure _ _
  | some ret =>
      dsimp only
      split
      · exact calm_log_pure _ _
      · exact Prog.until_pure _

theorem calm_gtNetworkOpsRead (ge : EventPtr) : Calm .network (gtNetworkOpsRead ge) := by
  have hclose : ∀ line msg fd, Calm .network (closeUnused "gt_network_ops_read" line msg fd) := by
    intro line msg fd
    refine calm_bind rfl nofun fun _ _ => ?_
    exact calm_bind rfl nofun fun _ _ => Prog.until_pure _
  refine calm_bind rfl nofun fun ev _ => ?_
  refine calm_bind rfl nofun fun accepted _ => ?_
  cases accepted with
  | error errnum =>
      dsimp only
      split
      · exact Prog.until_pure _
      · exact calm_bind rfl nofun fun _ _ => calm_log_pure _ _
  | ok conn =>
      refine calm_bind rfl nofun fun err _ => ?_
      cases err with
      | some errnum => exact hclose _ _ _
      | none =>
          refine calm_bind rfl nofun fun _ _ => ?_
          refine calm_bind rfl nofun fun err _ => ?_
          cases err with
          | some errnum => exact hclose _ _ _
          | none =>
              refine (calm_gtNetworkRoundDispatch conn.cfd).bind fun ret => ?_
              split
              · exact Prog.until_pure _
              · exact calm_log_pure _ _

theorem calm_gtSignalOpsRead (ge : EventPtr) : Calm t (gtSignalOpsRead ge) := by
  refine calm_bind rfl nofun fun ev _ => ?_
  refine calm_bind rfl nofun fun res _ => ?_
  split
  · exact calm_log_pure _ _
  · exact Prog.until_pure _
  · dsimp only
    split
    · exact calm_log_pure _ _
    · split
      · exact calm_log_pure _ _
      · exact Prog.until_pure _

theorem calm_epollWaitBody (ht : ¬ t.IsDatanet) (r : ReadyEvent) : Calm t (epollWaitBody r) := by
  have hcall : ∀ ge, Calm t (callReadFn (readFn t.poller) ge) := by
    intro ge
    cases t with
    | main => exact calm_gtSignalOpsRead ge
    | network => exact calm_gtNetworkOpsRead ge
    | datanet i => exact absurd ⟨i, rfl⟩ ht
  unfold epollWaitBody
  split
  · refine calm_bind rfl nofun fun ge _ => ?_
    refine calm_bind rfl nofun fun ev _ => ?_
    refine calm_bind rfl nofun ?_
    rintro fn rfl
    refine (hcall ge).bind fun ret => ?_
    split
    · refine calm_bind rfl nofun fun ev _ => ?_
      exact calm_bind (f := pure) rfl nofun fun _ _ => Prog.until_pure _
    · exact Prog.until_pure _
  · split
    · refine calm_bind rfl nofun fun ge _ => ?_
      refine calm_bind rfl nofun fun ev _ => ?_
      exact calm_bind rfl nofun fun fn _ => nomatch fn
    · exact Prog.until_pure _

/-- **A round of the main thread or of `gt_network_m`.** -/
theorem calm_body (ht : ¬ t.IsDatanet) : Calm t (body t) := by
  refine Prog.Until.bind ?_ fun _ => Prog.until_pure _
  refine calm_bind rfl nofun fun _ _ => ?_
  refine calm_bind rfl nofun fun _ _ => ?_
  refine calm_bind rfl nofun fun ee _ => ?_
  exact Prog.until_forM (calm_epollWaitBody ht) ee

end Calm

/-! ## Runs of the started server -/

/-- The discipline holds, and what is left to the main thread and to `gt_network_m` is
calm. -/
structure CalmConfig (c : Config) : Prop where
  sound : discipline.Sound Idle c
  calm : ∀ t, ¬ t.IsDatanet → Calm t (c.code t)

theorem Started.calmConfig {c : Config} (h : Started c) : CalmConfig c := by
  obtain ⟨gl, boot, ops, hboot, hrun⟩ := h.reachable
  refine ⟨sound_of_booted hboot hrun, ?_⟩
  intro t ht
  cases t with
  | main =>
      rw [Prog.done_iff.mp h.main]
      exact Prog.until_pure _
  | network =>
      rw [Prog.done_iff.mp h.network]
      exact Prog.until_pure _
  | datanet i => exact absurd ⟨i, rfl⟩ ht

namespace CalmConfig

variable {c c' : Config} {t : Thread} {a : Reply}

/-- A calm thread calls its own handler. -/
theorem ownHandler (h : CalmConfig c) {cmd : Cmd} {v : cmd.Val} {s' : Shared}
    (hnext : (c.code t).next = some cmd) (hresp : respond cmd a c.shared = some (v, s')) :
    Threads.ownHandler t cmd v := by
  have hcall := (h.sound.check hnext).call
  cases cmd with
  | call fn ge =>
      obtain ⟨rfl, -⟩ := hcall
      exact (Prod.mk.inj (Option.some.inj hresp)).1.symm
  | _ => trivial

/-- **One step.** -/
theorem step (h : CalmConfig c) (hc : NoConnectionEvent c (t, a))
    (hstep : threadSystem.step c t a = some c') : CalmConfig c' := by
  refine ⟨h.sound.step stable_idle triple_body hstep, ?_⟩
  intro u hu
  rcases ThreadSystem.step_cases hstep with ⟨-, rfl⟩ | ⟨cmd, k, v, s', hcode, hresp, rfl⟩
  · by_cases hut : u = t
    · subst hut
      simpa [threadSystem] using calm_body hu
    · simpa [hut] using h.calm u hu
  · by_cases hut : u = t
    · subst hut
      have hcalm := h.calm u hu
      rw [hcode] at hcalm
      have hnext : (c.code u).next = some cmd := by rw [hcode]; rfl
      have hnot : ¬ gotMemory cmd v := by
        cases cmd with
        | malloc =>
            obtain rfl := hcalm.1.2 rfl
            have hnone : a.ptr = none := hc rfl hnext
            simp only [threadSystem, respond, hnone] at hresp
            exact not_not.mpr (Prod.mk.inj (Option.some.inj hresp)).1.symm
        | _ => exact id
      simpa [Calm] using (hcalm.2 v (h.ownHandler hnext hresp)).2 hnot
    · simpa [hut] using h.calm u hu

theorem confined (h : CalmConfig c) {cmd : Cmd} (hnext : (c.code t).next = some cmd) :
    Confined t cmd c.shared := by
  by_cases ht : t.IsDatanet
  · exact (h.sound.check hnext).confined ht
  · have hcalm := h.calm t ht
    cases hcode : c.code t with
    | ret b => simp [hcode, Prog.next] at hnext
    | vis cmd' k =>
        rw [hcode] at hcalm hnext
        obtain rfl : cmd' = cmd := Option.some.inj hnext
        have hnode : cmd'.node = none := hcalm.1.1
        simp [Confined, hnode]

/-- With memory for its event, a connection takes `gt_network_m` to the list of a datanet
poller. -/
theorem exists_foreign (h : CalmConfig c)
    (hlegal : threadSystem.system.legal c (.network, a))
    (hc : ¬ NoConnectionEvent c (.network, a)) :
    ∃ ops c' cmd, threadSystem.system.Run c ((.network, a) :: ops) c' ∧
      (c'.code .network).next = some cmd ∧ ¬ Confined .network cmd c'.shared := by
  obtain ⟨hnext, hptr⟩ : (c.code .network).next = some .malloc ∧ a.ptr ≠ none := by
    simpa [NoConnectionEvent] using hc
  obtain ⟨c', hstep⟩ := Option.isSome_iff_exists.mp hlegal
  have hreach : (c'.code .network).Reaches Cmd.IsAccess Cmd.WritesDatanetList 7 := by
    rcases ThreadSystem.step_cases hstep with ⟨hcode, -⟩ | ⟨cmd, k, v, s', hcode, hresp, rfl⟩
    · simp [hcode, Prog.next] at hnext
    · have hcalm := h.calm .network fun hdata => hdata.ne_network rfl
      rw [hcode] at hcalm hnext
      obtain rfl : cmd = .malloc := Option.some.inj hnext
      have hgot : gotMemory .malloc v := by
        obtain ⟨ge, hge⟩ := Option.ne_none_iff_exists'.mp hptr
        simp only [threadSystem, respond, hge] at hresp
        split at hresp
        · obtain ⟨rfl, -⟩ := Prod.mk.inj (Option.some.inj hresp)
          exact Option.some_ne_none ge
        · cases hresp
      simpa using (hcalm.2 v trivial).1 hgot
  have hpass : ∀ cmd s, Cmd.IsAccess cmd →
      ∃ a v s', threadSystem.respond cmd a s = some (v, s') := by
    intro cmd s hcmd
    cases cmd with
    | memset _ | store _ _ | getNext _ | setNext _ _ | setPrev _ _ => exact ⟨{}, _, _, rfl⟩
    | _ => exact hcmd.elim
  obtain ⟨ops, c'', hrun, cmd, hcmd, i, n, rfl⟩ :=
    ThreadSystem.exists_run_of_reaches hpass hreach
  exact ⟨ops, c'', _, .cons hlegal hstep hrun, hcmd, not_confined_writesDatanetList ⟨i, n, rfl⟩ _⟩

end CalmConfig

/-- **When a poller stays in one thread.**  In every run of the started server in which
`gt_network_m` gets no memory for the event of a connection, every access to the list of
a poller or to the list cell of one of its events is made by the thread that runs the
poller.  The first connection that gets its event can be continued to a write of a
datanet poller's list by `gt_network_m`. -/
theorem confined_until_connectionEvent {c c' : Config} (h : Started c)
    {ops : List (Thread × Reply)} (hrun : threadSystem.system.Run c ops c')
    (hmeets : threadSystem.system.Meets NoConnectionEvent c ops) :
    (∀ t cmd, (c'.code t).next = some cmd → Confined t cmd c'.shared) ∧
      ∀ a, threadSystem.system.legal c' (.network, a) → ¬ NoConnectionEvent c' (.network, a) →
        ∃ ops' c'' cmd, threadSystem.system.Run c' ((.network, a) :: ops') c'' ∧
          (c''.code .network).next = some cmd ∧ ¬ Confined .network cmd c''.shared := by
  have hstep : ∀ s op s', CalmConfig s → threadSystem.system.legal s op →
      NoConnectionEvent s op → threadSystem.system.exec s op = some s' → CalmConfig s' :=
    fun _ _ _ hs _ hc he => hs.step hc he
  have hcalm : CalmConfig c' := hrun.invariant_of_meets hstep hmeets h.calmConfig
  exact ⟨fun t cmd hnext => hcalm.confined hnext, fun a hlegal hc => hcalm.exists_foreign hlegal hc⟩

/-- The phase functions lead to a started server, and a schedule takes it on. -/
theorem exists_started_run (P : Config → Prop) [DecidablePred P] {ops : List (Thread × Reply)}
    {Q : Config → Config → Prop}
    (h : ((threadSystem.system.execAll bootConfig startSchedule).any fun c =>
      decide ((c.code .main).done = true ∧ (c.code .network).done = true ∧
        ((threadSystem.system.execAll c ops).any fun c' => decide (P c')) = true)) = true)
    (hQ : ∀ c c', Started c → threadSystem.system.Run c ops c' → P c' → Q c c') :
    ∃ c, Started c ∧ ∃ c', threadSystem.system.Run c ops c' ∧ Q c c' := by
  obtain ⟨c, -, hc⟩ := GuardedSystem.exists_run_of_execAll (S := threadSystem.system)
    (I := fun c => Started c ∧ ∃ c', threadSystem.system.Run c ops c' ∧ Q c c') _ h <| by
      rintro c hrun ⟨hmain, hnetwork, hops⟩
      have hstarted : Started c := ⟨⟨_, _, _, booted_bootConfig, hrun⟩, hmain, hnetwork⟩
      exact ⟨hstarted, GuardedSystem.exists_run_of_execAll P hops fun c' => hQ c c' hstarted⟩
  exact ⟨c, hc⟩

/-- A connection that gets no event. -/
theorem confined_without_memory : ∃ c, Started c ∧ ∃ c',
    threadSystem.system.Run c (datanetSchedule 0 8 ++ connectSchedule 12 none) c' ∧
    threadSystem.system.Meets NoConnectionEvent c (datanetSchedule 0 8 ++ connectSchedule 12 none) ∧
    ∀ t cmd, (c'.code t).next = some cmd → Confined t cmd c'.shared := by
  refine exists_started_run (fun _ => True) (by decide +kernel) ?_
  intro c c' hstarted hrun _
  have hmeets : threadSystem.system.Meets NoConnectionEvent c
      (datanetSchedule 0 8 ++ connectSchedule 12 none) := by
    have hnone : ∀ op ∈ datanetSchedule 0 8 ++ connectSchedule 12 none, op.2.ptr = none := by
      decide
    exact GuardedSystem.meets_of_forall (fun op hop _ _ _ => hnone op hop) c
  exact ⟨hmeets, (confined_until_connectionEvent hstarted hrun hmeets).1⟩

/-- A connection on descriptor 12 that gets its event at 3: `gt_network_m` writes the list
of the first datanet poller. -/
theorem not_confined_connection : ∃ c, Started c ∧ ∃ c',
    threadSystem.system.Run c
      (datanetSchedule 0 8 ++ connectSchedule 12 (some 3) ++ alone .network 6) c' ∧
    (c'.code .network).next = some (.setNext (.elist (.datanet 0)) (.node 3)) ∧
    ¬ Confined .network (.setNext (.elist (.datanet 0)) (.node 3)) c'.shared := by
  refine exists_started_run
    (fun c' => (c'.code .network).next = some (.setNext (.elist (.datanet 0)) (.node 3)))
    (by decide +kernel) ?_
  intro c c' _ _ hnext
  exact ⟨hnext, not_confined_writesDatanetList ⟨_, _, rfl⟩ _⟩

end GuitarTea.Threads
