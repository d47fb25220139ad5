import GuitarTea.SerialSteps

/-!
# The server is as good as a serial one

One triple for each function of the threads, this time about the serial server that runs
beside them.  In every state of every run the threads have done what some serial run of the
handlers does, except for what a thread that is in the middle of a handler has for itself.
The cells of the event lists are not compared: two threads that change one list at a time
may leave it as no serial run does.

## Main definitions

* `SameButLists` — pollers, events and kernel are those of a serial server.
* `Serving` — the server is up and all threads are between two rounds; `BootServing` shows
  that a start-up ends so.

## Main results

* `serializable` — every run of the threads follows a serial run of the handlers.
* `streams_logged` — what is received on a connection is logged up to its NULs, in order.
-/

namespace GuitarTea.Threads

/-- What the outcome of `read` says about its result. -/
theorem ReadResult.outcome_cases {count : ℕ} (r : ReadResult count) (fd : ℤ) :
    (r.outcome.1 ≤ 0 → r.heard fd = none ∧
      (¬ (eagain = r.outcome.2.2 ∨ ewouldblock = r.outcome.2.2) → Drops r.errno r.result)) ∧
    (¬ r.outcome.1 ≤ 0 → r.outcome.2.1 ≠ [] ∧ r.heard fd = some (fd, r.outcome.2.1)) := by
  obtain ⟨result, errno, mem, -⟩ := r
  cases result with
  | error errnum =>
      exact ⟨fun _ => ⟨rfl, fun hagain => hagain⟩,
        fun hret => absurd (show (-1 : ℤ) ≤ 0 by decide) hret⟩
  | ok data =>
      have hnil : (data.length : ℤ) ≤ 0 ↔ data = [] := by
        rw [← List.length_eq_zero_iff]
        omega
      simp only [ReadResult.outcome, ReadResult.heard, Drops, hnil]
      exact ⟨fun hdata => ⟨by simp [hdata], fun hagain => ⟨hdata, hagain⟩⟩,
        fun hdata => ⟨hdata, by simp [hdata]⟩⟩

namespace Serial

section Datanet

variable {lge : EventPtr} {w₀ : World} {t : Thread} {rest : List ReadyEvent} {r : ReadyEvent}
  {ge : EventPtr} {x : EventMem} {ev : GtEvent}

/-- What the datanet thread does not change of its event. -/
structure Mine (ev : GtEvent) (x : EventMem) : Prop where
  efd : x.efd = ev.efd
  gpoller : x.gpoller = some ev.gpoller

/-- An event of the thread that the serial server still has. -/
def own (ge : EventPtr) (x : EventMem) (ev : GtEvent) : Local :=
  ⟨some (ge, x), some ev, some ev.efd, none, none⟩

theorem triple_pollerCtl_own {func : String} {line : ℕ}
    (hsite : ∀ msg, isData (gtErrorLog func line msg) = false) (op : EpollOp) (hmine : Mine ev x)
    (hp : ev.gpoller = t.poller) :
    (serial lge w₀).Triple t (fun v _ => At t rest (own ge x ev) v)
      (pollerCtl func line op ge x.gpoller) fun _ v _ => At t rest (own ge x ev) v := by
  rw [hmine.gpoller, hp]
  refine (triple_load rfl).bind fun y => .of_imp ?_
  rintro rfl
  refine (triple_loadPoller _).bind fun poller => .of_imp ?_
  rintro rfl
  rw [hmine.efd]
  refine (triple_epollCtl rfl rfl op).bind fun err => ?_
  cases err with
  | none => exact .ret fun _ _ _ h => h
  | some errnum =>
      refine (triple_loadPoller _).bind fun poller => .of_imp fun _ => ?_
      refine (triple_log (hsite _)).bind fun _ => ?_
      exact .ret fun _ _ _ h => h

/-- **`gt_poller_event_stop`**: the serial server does not notice. -/
theorem triple_gtPollerEventStop (eflag : BitVec 32) (hmine : Mine ev x)
    (hp : ev.gpoller = t.poller) :
    (serial lge w₀).Triple t (fun v _ => At t rest (own ge x ev) v) (gtPollerEventStop eflag ge)
      fun _ v _ => ∃ x', Mine ev x' ∧ At t rest (own ge x' ev) v := by
  refine (triple_load rfl).bind fun y => .of_imp ?_
  rintro rfl
  refine (triple_load rfl).bind fun y => .of_imp ?_
  rintro rfl
  refine (triple_load rfl).bind fun y => .of_imp ?_
  rintro rfl
  split
  · exact .ret fun _ _ _ h => ⟨y, hmine, h⟩
  · refine (triple_load rfl).bind fun y => .of_imp ?_
    rintro rfl
    refine (triple_store _).bind fun _ => ?_
    have hmine' : Mine ev ((EventWrite.events (y.e.events &&& ~~~eflag)).apply y) :=
      ⟨hmine.efd, hmine.gpoller⟩
    exact (triple_pollerCtl_own (fun _ => rfl) _ hmine' hp).post fun _ _ _ _ h => ⟨_, hmine', h⟩

theorem triple_listDel {l : Local} (n : NodeAddr) :
    (serial lge w₀).Triple t (fun v _ => At t rest l v) (listDel n) fun _ v _ => At t rest l v := by
  refine (triple_skip rfl).bind fun prev => ?_
  refine (triple_skip rfl).bind fun next => ?_
  refine Discipline.Triple.bind ((triple_skip rfl).bind fun _ => triple_skip rfl)
    fun _ => ?_
  exact (triple_skip rfl).bind fun _ => triple_skip rfl

/-- **`gt_poller_gevent_destroy`**: the serial server gives the connection up when its
descriptor is closed. -/
theorem triple_gtPollerGeventDestroy (ht : t.IsDatanet) {errno : Errno}
    {read : Except Errno (List UInt8)} (hdrops : Drops errno read) (hmine : Mine ev x)
    (hp : ev.gpoller = t.poller) (hrest : ev.efd ∉ rest.map ReadyEvent.fd) :
    (serial lge w₀).Triple t (fun v _ => At t rest (own ge x ev) v) (gtPollerGeventDestroy ge)
      fun _ v _ => At t rest {} v := by
  refine (triple_load rfl).bind fun y => .of_imp ?_
  rintro rfl
  refine (triple_gtPollerEventStop _ hmine hp).bind fun _ => .of_exists fun x' => .of_imp ?_
  intro hmine'
  refine (triple_listDel _).bind fun _ => ?_
  refine (triple_load rfl).bind fun y => .of_imp ?_
  rintro rfl
  rw [hmine'.efd]
  exact (triple_close_own ht hdrops hp hrest).bind fun _ => triple_free

/-- **`gt_datanet_ops_read`**: the entry is served, by the threads and by the serial server. -/
theorem triple_gtDatanetOpsRead (ht : t.IsDatanet) (hptr : r.ptr = some ge)
    (hrest : r.fd ∉ rest.map ReadyEvent.fd) :
    (serial lge w₀).Triple t (fun v _ => At t (r :: rest) {} v) (gtDatanetOpsRead ge)
      fun _ v _ => At t rest {} v := by
  rw [gtDatanetOpsRead_eq]
  refine (triple_load_entry rfl List.mem_cons_self hptr).bind fun y => .of_imp ?_
  rintro ⟨hfd, -⟩
  rw [hfd]
  refine (triple_read ht hptr _).bind fun res => ?_
  have hlen := res.length_outcome_le
  obtain ⟨hdrops, hdata⟩ := res.outcome_cases r.fd
  revert hlen hdrops hdata
  rcases res.outcome with ⟨ret, data, errno⟩
  intro hlen hdrops hdata
  dsimp only at hlen hdrops hdata ⊢
  split
  · rename_i hret
    obtain ⟨hheard, hdrops⟩ := hdrops hret
    rw [hheard]
    split
    · exact .ret fun _ _ _ h => h.tail
    · rename_i hagain
      refine (triple_skip rfl).bind fun _ => ?_
      refine (triple_take rfl hptr).bind fun _ => .of_exists fun ev => .of_imp ?_
      rintro ⟨hefd, hp⟩
      refine (triple_gtPollerEventStop _ ⟨rfl, rfl⟩ hp).bind fun _ => .of_exists fun x' =>
        .of_imp ?_
      intro hmine
      refine (triple_gtPollerGeventDestroy ht (hdrops hagain) hmine hp
        (hefd ▸ hrest)).bind fun _ => ?_
      exact .ret fun _ _ _ h => h
  · rename_i hret
    obtain ⟨hnil, hheard⟩ := hdata hret
    rw [hheard]
    refine (triple_load_entry rfl List.mem_cons_self hptr).bind fun y => .of_imp ?_
    rintro ⟨hfd, -⟩
    rw [hfd]
    refine (triple_log_data ht hnil hlen hptr).bind fun _ => ?_
    exact .ret fun _ _ _ h => h

end Datanet

section Network

variable {lge : EventPtr} {w₀ : World} {rest : List ReadyEvent} {r : ReadyEvent} {ge : EventPtr}
  {conn : Accepted}

/-- An event that `gt_network_m` has made for a connection it has accepted. -/
def made (ge : EventPtr) (x : EventMem) (conn : Accepted) : Local :=
  ⟨some (ge, x), none, none, some conn, none⟩

theorem triple_initListHead {l : Local} (n : NodeAddr) :
    (serial lge w₀).Triple .network (fun v _ => At .network rest l v) (initListHead n)
      fun _ v _ => At .network rest l v :=
  (triple_skip rfl).bind fun _ => triple_skip rfl

theorem triple_listAdd {l : Local} (a b : NodeAddr) :
    (serial lge w₀).Triple .network (fun v _ => At .network rest l v) (listAdd a b)
      fun _ v _ => At .network rest l v := by
  refine (triple_skip rfl).bind fun next => ?_
  refine (triple_skip rfl).bind fun _ => ?_
  refine (triple_skip rfl).bind fun _ => ?_
  exact (triple_skip rfl).bind fun _ => triple_skip rfl

/-- **`gt_poller_gevent_create`**: the serial server does not know the event yet, or it has
left the connection open and forgotten. -/
theorem triple_gtPollerGeventCreate (p : PollerId) :
    (serial lge w₀).Triple .network (fun v _ => At .network rest { conn := some conn } v)
      (gtPollerGeventCreate conn.cfd p) fun (y : Option EventPtr) v _ => match y with
        | none => At .network rest {} v
        | some ge =>
            At .network rest (made ge ⟨conn.cfd, ⟨none, none⟩, ⟨0, none⟩, some p⟩ conn) v := by
  refine triple_malloc.bind fun y => ?_
  cases y with
  | none =>
      refine (triple_log rfl).bind fun _ => ?_
      exact .ret fun _ _ _ h => h
  | some ge =>
      refine .of_exists fun x => ?_
      refine triple_memset.bind fun _ => ?_
      refine (triple_store (.efd conn.cfd)).bind fun _ => ?_
      refine (triple_initListHead _).bind fun _ => ?_
      refine (triple_listAdd _ _).bind fun _ => ?_
      refine (triple_store (.gpoller p)).bind fun _ => ?_
      exact .ret fun _ _ _ h => h

/-- **`gt_poller_event_start`** of a new event: the serial server does the whole call of
`gt_network_ops_read` when `epoll_ctl` is called. -/
theorem triple_gtPollerEventStart :
    (serial lge w₀).Triple .network
      (fun v _ => At .network rest (made ge ⟨conn.cfd, ⟨some .gtDatanetOpsRead, none⟩,
        ⟨0, none⟩, some (.datanet (datanetIdx conn.cfd))⟩ conn) v)
      (gtPollerEventStart epollin ge) fun _ v _ => At .network rest {} v := by
  refine (triple_load rfl).bind fun y => .of_imp ?_
  rintro rfl
  refine (triple_load rfl).bind fun y => .of_imp ?_
  rintro rfl
  refine (triple_load rfl).bind fun y => .of_imp ?_
  rintro rfl
  rw [if_neg (by simp)]
  refine (triple_load rfl).bind fun y => .of_imp ?_
  rintro rfl
  refine (triple_store _).bind fun _ => ?_
  refine (triple_store _).bind fun _ => ?_
  refine (triple_load rfl).bind fun y => .of_imp ?_
  rintro rfl
  refine (triple_loadPoller _).bind fun poller => .of_imp ?_
  rintro rfl
  rw [if_neg (show ¬ (0 : BitVec 32) ≠ 0 by simp)]
  dsimp only [EventWrite.apply]
  refine (triple_dispatch (by simp [EventMem.of, connEvent])).bind fun err => ?_
  cases err with
  | none => exact .ret fun _ _ _ h => h
  | some errnum =>
      refine (triple_loadPoller _).bind fun poller => .of_imp fun _ => ?_
      refine (triple_log rfl).bind fun _ => ?_
      exact .ret fun _ _ _ h => h

/-- **`gt_network_round_dispatch`.** -/
theorem triple_gtNetworkRoundDispatch :
    (serial lge w₀).Triple .network (fun v _ => At .network rest { conn := some conn } v)
      (gtNetworkRoundDispatch conn.cfd) fun _ v _ => At .network rest {} v := by
  refine Discipline.Triple.bind (R := fun _ v _ => At .network rest {} v) ?_ fun started => ?_
  · refine (triple_gtPollerGeventCreate _).bind fun y => ?_
    cases y with
    | none => exact .ret fun _ _ _ h => h
    | some ge =>
        refine (triple_store _).bind fun _ => ?_
        refine triple_gtPollerEventStart.bind fun _ => ?_
        exact .ret fun _ _ _ h => h
  · cases started with
    | none =>
        refine (triple_log rfl).bind fun _ => ?_
        exact .ret fun _ _ _ h => h
    | some ret =>
        dsimp only
        split
        · refine (triple_log rfl).bind fun _ => ?_
          exact .ret fun _ _ _ h => h
        · exact .ret fun _ _ _ h => h

theorem triple_closeUnused (line : ℕ) (msg : List LogPiece) (setsockopt setfl : Option Errno)
    (hopts : setsockopt ≠ none ∨ setfl ≠ none) :
    (serial lge w₀).Triple .network (fun v _ => At .network rest { conn := some conn } v)
      (closeUnused "gt_network_ops_read" line msg conn.cfd)
      fun _ v _ => At .network rest {} v := by
  refine (triple_log rfl).bind fun _ => ?_
  refine (triple_close_conn hopts).bind fun _ => ?_
  exact .ret fun _ _ _ h => h

/-- **`gt_network_ops_read`.** -/
theorem triple_gtNetworkOpsRead :
    (serial lge w₀).Triple .network (fun v _ => At .network rest {} v) (gtNetworkOpsRead ge)
      fun _ v _ => At .network rest {} v := by
  refine (triple_skip rfl).bind fun y => ?_
  refine (triple_accept _).bind fun accepted => ?_
  cases accepted with
  | error errnum =>
      dsimp only
      split
      · exact .ret fun _ _ _ h => h
      · refine (triple_skip rfl).bind fun _ => ?_
        refine (triple_log rfl).bind fun _ => ?_
        exact .ret fun _ _ _ h => h
  | ok conn =>
      refine (triple_skip rfl).bind fun err => ?_
      cases err with
      | some errnum => exact triple_closeUnused _ _ (some errnum) none (.inl nofun)
      | none =>
          refine (triple_skip rfl).bind fun _ => ?_
          refine (triple_skip rfl).bind fun err => ?_
          cases err with
          | some errnum => exact triple_closeUnused _ _ none (some errnum) (.inr nofun)
          | none =>
              refine triple_gtNetworkRoundDispatch.bind fun ret => ?_
              split
              · exact .ret fun _ _ _ h => h
              · refine (triple_log rfl).bind fun _ => ?_
                exact .ret fun _ _ _ h => h

end Network

section Round

variable {lge : EventPtr} {w₀ : World} {t : Thread} {rest : List ReadyEvent} {r : ReadyEvent}
  {ge : EventPtr}

/-- **`gt_signal_ops_read`** is nothing to the serial server. -/
theorem triple_gtSignalOpsRead (hptr : r.ptr = some ge) :
    (serial lge w₀).Triple .main (fun v _ => At .main (r :: rest) {} v) (gtSignalOpsRead ge)
      fun _ v _ => At .main (r :: rest) {} v := by
  refine (triple_load_entry rfl List.mem_cons_self hptr).bind fun y => .of_imp ?_
  rintro ⟨hfd, -⟩
  rw [hfd]
  refine (triple_read_main hptr _).bind fun res => ?_
  split
  · refine (triple_log rfl).bind fun _ => ?_
    exact .ret fun _ _ _ h => h
  · exact .ret fun _ _ _ h => h
  · dsimp only
    split
    · refine (triple_log rfl).bind fun _ => ?_
      exact .ret fun _ _ _ h => h
    · split
      · refine (triple_log rfl).bind fun _ => ?_
        exact .ret fun _ _ _ h => h
      · exact .ret fun _ _ _ h => h

/-- **A call of a handler.** -/
theorem triple_callReadFn (hptr : r.ptr = some ge) (hrest : r.fd ∉ rest.map ReadyEvent.fd) :
    (serial lge w₀).Triple t (fun v _ => At t (r :: rest) {} v)
      (callReadFn (readFn t.poller) ge) fun _ v _ => At t rest {} v := by
  cases t with
  | main => exact (triple_gtSignalOpsRead hptr).post fun _ _ _ _ h => h.tail
  | network => exact triple_gtNetworkOpsRead.post fun _ _ _ _ h => h.tail
  | datanet i => exact triple_gtDatanetOpsRead ⟨i, rfl⟩ hptr hrest

/-- **One entry of a batch.** -/
theorem triple_epollWaitBody :
    (serial lge w₀).Triple t (fun v _ => At t (r :: rest) {} v) (epollWaitBody r)
      fun _ v _ => At t rest {} v := by
  intro v s hinv hat
  have hrest : r.fd ∉ rest.map ReadyEvent.fd := (List.nodup_cons.mp hat.nodup).1
  revert v s
  change (serial lge w₀).Triple t (fun v _ => At t (r :: rest) {} v) _ _
  unfold epollWaitBody
  split
  · refine triple_deref.bind fun ge => .of_imp fun hptr => ?_
    refine (triple_load_entry rfl List.mem_cons_self hptr).bind fun y => .of_imp ?_
    rintro ⟨-, hread⟩
    rw [hread]
    refine triple_call.bind fun fn => .of_imp ?_
    rintro rfl
    refine (triple_callReadFn hptr hrest).bind fun ret => ?_
    split
    · refine (triple_skip rfl).bind fun y => ?_
      exact triple_log rfl
    · exact .ret fun _ _ _ h => h
  · split
    · refine triple_deref.bind fun ge => .of_imp fun _ => ?_
      refine (triple_skip rfl).bind fun y => ?_
      refine (triple_skip rfl).bind fun fn => ?_
      exact nomatch fn
    · exact .ret fun _ _ _ h => h.tail

/-- **A round of a thread.** -/
theorem triple_body (t : Thread) :
    (serial lge w₀).Triple t (fun v _ => At t [] {} v) (body t)
      fun b v _ => b = true → At t [] {} v := by
  refine Discipline.Triple.bind (R := fun _ v _ => At t [] {} v) ?_
    fun _ => .ret fun _ _ _ h _ => h
  refine (triple_loadPoller t.poller).bind fun poller => .of_imp ?_
  rintro rfl
  refine (triple_loadPoller t.poller).bind fun poller => .of_imp ?_
  rintro rfl
  refine (triple_epollWait _).bind fun ee => ?_
  exact Discipline.Triple.forM (I := fun ee v _ => At t ee {} v)
    (fun r rest => triple_epollWaitBody) ee

end Round

end Serial

/-! ## Runs of the threads -/

/-- The events and registrations of a thread's poller are those of the serial server. -/
structure Follows (t : Thread) (w : World) (s : Shared) : Prop where
  events : ∀ ge ev, w.events ge = some ev → ev.gpoller = t.poller → s.events ge = some (.of ev)
  sets : ∀ fd, s.kernel.sets (w.pollers t.poller).epfd fd =
    w.kernel.sets (w.pollers t.poller).epfd fd

/-- The pollers, the events, the descriptors and their registrations are those of the serial
server. -/
structure SameButLists (w : World) (s : Shared) : Prop where
  pollers : s.pollers = w.pollers
  events : ∀ ge, s.events ge = (w.events ge).map .of
  files : Kernel.SameFiles w.kernel s.kernel
  sets : s.kernel.sets = w.kernel.sets

/-- The server is up, and every thread is between two rounds. -/
structure Serving (lge : EventPtr) (w : World) (c : Config) : Prop where
  code_eq : ∀ t, c.code t = .ret true
  serves : Serves lge w
  same : SameButLists w c.shared

section Runs

variable {lge : EventPtr} {w₀ w : World} {t : Thread} {c c' : Config} {v : View} {s : Shared}
  {ops : List (Thread × Reply)}

/-- A thread that has nothing for itself. -/
theorem Sim.follows (h : Sim lge v s) (hat : At t [] {} v) : Follows t v.world s where
  events ge ev hev hp := by
    have hfree : ∀ u x, v.event u ≠ some (ge, x) := by
      intro u x hu
      obtain rfl : t = u := Thread.poller_inj (hp.symm.trans (h.owner u ge x ev hu hev))
      simp [hat.event] at hu
    rw [h.events ge hfree, hev, Option.map_some]
  sets fd := by
    refine h.sets _ fd fun u hu => ?_
    have hut : u ≠ t := by
      rintro rfl
      simp [hat.reg] at hu
    exact fun heq => hut (Thread.poller_inj (h.serves.epfd_inj _ _ heq))

/-- All threads have nothing for themselves. -/
theorem Sim.sameButLists (h : Sim lge v s) (hat : ∀ t, At t [] {} v) : SameButLists v.world s where
  pollers := h.pollers
  events ge := h.events ge fun t x hx => by simp [(hat t).event] at hx
  files := by
    rw [← View.kernel_of_none ((hat .network).conn rfl)]
    exact h.files
  sets := by
    funext e fd
    exact h.sets e fd fun t ht => by simp [(hat t).reg] at ht

/-- No thread has anything for itself. -/
def View.start (w : World) : View := ⟨w, fun _ => none, fun _ => none, fun _ => none, none⟩

theorem Serving.sim (h : Serving lge w c) : Sim lge (.start w) c.shared where
  serves := h.serves
  pollers := h.same.pollers
  files := h.same.files
  conn_free := nofun
  sets e fd _ := by
    rw [h.same.sets]
    rfl
  events ge _ := h.same.events ge
  mem t ge x hx := absurd hx nofun
  inj t u ge x y hx := absurd hx nofun
  owner t ge x ev hx := absurd hx nofun
  reg t fd hfd := absurd hfd nofun

/-- The start of a run. -/
theorem Serving.sound (h : Serving lge w c) :
    (serial lge w).Sound (fun t v _ => At t [] {} v) ⟨(c.shared, []), c.code⟩ := by
  have hran : Ran lge w w [] := ⟨rfl, fun _ _ _ => .rfl, [], .nil w, rfl⟩
  have hstreams : Streams w (.start w) [] :=
    ⟨fun _ _ _ => rfl, fun t fd data hread => absurd hread nofun,
      fun t fd data hread => absurd hread nofun, fun _ _ => rfl, nofun⟩
  refine ⟨.start w, ⟨h.sim, hran, hstreams⟩, ?_⟩
  intro t v s hinv hk
  rw [h.code_eq t]
  intro _
  exact At.kept ⟨List.nodup_nil, nofun, rfl, nofun, rfl, fun _ => rfl, rfl⟩ hk

/-- **In every state of a run** the serial server has done what the threads have logged,
and a thread between two rounds has nothing for itself. -/
theorem Serving.exists_view (h : Serving lge w c) (hrun : threadSystem.system.Run c ops c') :
    ∃ v, Sim lge v c'.shared ∧ Ran lge w v.world (threadSystem.trace c ops) ∧
      Streams w v (threadSystem.trace c ops) ∧ ∀ t, c'.code t = .ret true → At t [] {} v := by
  obtain ⟨v, ⟨hsim, hran, hstreams⟩, hsafe⟩ :=
    Discipline.Sound.run (fun t => stable_at lge w t [] {}) Serial.triple_body h.sound
      (ThreadSystem.run_recording hrun [])
  refine ⟨v, hsim, hran, hstreams, ?_⟩
  intro t ht
  have hnow := hsafe t v _ ⟨hsim, hran, hstreams⟩ (.refl t v)
  dsimp only at hnow
  rw [ht] at hnow
  exact hnow rfl

end Runs

/-- **The threads are as good as a serial server.**  Whatever the threads have done, taking
turns anywhere between two accesses, there are calls of the handlers, one after the other,
that log the same data in the same order.  The events that they leave on the poller of a
thread between two rounds are in memory as they leave them, and the registrations of that
poller are the same; so are the descriptors if `gt_network_m` is between two rounds; and if
all threads are, the pollers, the events, the descriptors and the registrations are those
that the calls leave. -/
theorem serializable {lge : EventPtr} {w : World} {c c' : Config} {ops : List (Thread × Reply)}
    (h : Serving lge w c) (hrun : threadSystem.system.Run c ops c') :
    ∃ calls w', (handlerSystem lge).Run w calls w' ∧
      (logCalls (threadSystem.trace c ops)).filter isData = dataLines lge w calls ∧
      (∀ t, c'.code t = .ret true → Follows t w' c'.shared) ∧
      (c'.code .network = .ret true → Kernel.SameFiles w'.kernel c'.shared.kernel) ∧
      ((∀ t, c'.code t = .ret true) → Serving lge w' c') := by
  obtain ⟨v, hsim, hran, -, hat⟩ := h.exists_view hrun
  obtain ⟨calls, hcalls, hlines⟩ := hran.run
  refine ⟨calls, v.world, hcalls, hlines, fun t ht => hsim.follows (hat t ht), ?_, ?_⟩
  · intro hnet
    rw [← View.kernel_of_none ((hat .network hnet).conn rfl)]
    exact hsim.files
  · intro hidle
    exact ⟨hidle, hsim.serves, hsim.sameButLists fun t => hat t (hidle t)⟩

/-- **Nothing is logged twice, and nothing that was received is left out** but what stands
behind a NUL.  On every connection, whatever the threads have done, the texts that were
logged for the descriptor are what the calls of `read` have received, each up to its first
NUL and in the same order; and at most one more was received: the data that a thread in the
middle of its round has just read. -/
theorem streams_logged {lge : EventPtr} {w : World} {c c' : Config} {ops : List (Thread × Reply)}
    (h : Serving lge w c) (hrun : threadSystem.system.Run c ops c') {fd : ℤ}
    (hfd : ¬ OnCore w fd) :
    (texts fd (heard (threadSystem.trace c ops))).map upToNul =
        texts fd (said (threadSystem.trace c ops)) ∨
      ∃ t earlier data, c'.code t ≠ .ret true ∧
        texts fd (heard (threadSystem.trace c ops)) = earlier ++ [data] ∧
        earlier.map upToNul = texts fd (said (threadSystem.trace c ops)) := by
  obtain ⟨v, -, -, hstreams, hat⟩ := h.exists_view hrun
  by_cases hpending : ∃ t data, v.read t = some (fd, data)
  · obtain ⟨t, data, hread⟩ := hpending
    obtain ⟨earlier, hheard, hsaid⟩ := hstreams.pending t fd data hread
    refine .inr ⟨t, earlier, data, fun hidle => ?_, hheard, hsaid⟩
    simp [(hat t hidle).read] at hread
  · exact .inl (hstreams.logged fd hfd fun t data hread => hpending ⟨t, data, hread⟩)

/-- The threads of that server, with the epoll descriptors it has. -/
def servingConfig : Config where
  shared :=
    { pollers := serverReady.pollers
      events := fun ge => (serverReady.events ge).map .of
      nodes := serverReady.nodes
      kernel := serverReady.kernel
      epolls := fun fd => decide (fd = 3 ∨ fd = 4 ∨ (6 ≤ fd ∧ fd ≤ 9)) }
  code _ := .ret true

theorem serving_servingConfig : Serving 1 serverReady servingConfig :=
  ⟨fun _ => rfl, serves_serverReady, ⟨rfl, fun _ => rfl, .refl _, rfl⟩⟩

/-- `gt_network_m` hands a connection over and is stopped there.  The datanet thread logs
`hi`, finds the connection gone, closes it and is stopped before it frees the event; then
`gt_network_m` ends its round. -/
def overtakenSchedule (i : Fin 4) : List (Thread × Reply) :=
  alone .network 3 ++ [(.network, { ready := [⟨5, epollin, some 1⟩] })] ++ alone .network 4 ++
    [(.network, { fd := 12 })] ++ alone .network 3 ++ [(.network, { ptr := some 2 })] ++
    alone .network 20 ++ alone (.datanet i) 3 ++
    [(.datanet i, { ready := [⟨12, epollin, some 2⟩] })] ++ alone (.datanet i) 4 ++
    [(.datanet i, { read := ⟨.ok [104, 105], 0, 0⟩ })] ++ alone (.datanet i) 5 ++
    [(.datanet i, { ready := [⟨12, epollin, some 2⟩] })] ++ alone (.datanet i) 4 ++
    [(.datanet i, { read := ⟨.ok [], 0, 0⟩ })] ++ alone (.datanet i) 22 ++ alone .network 1

/-- The serial server has given the connection up, although its event is still there. -/
theorem serializable_overtaken : ∃ c',
    threadSystem.system.Run servingConfig (overtakenSchedule 0) c' ∧
    (c'.code (.datanet 0)).next = some (.free 2) ∧
    ∃ calls w', (handlerSystem 1).Run serverReady calls w' ∧
      (logCalls (threadSystem.trace servingConfig (overtakenSchedule 0))).filter isData =
        dataLines 1 serverReady calls ∧
      Follows .network w' c'.shared ∧ Kernel.SameFiles w'.kernel c'.shared.kernel := by
  refine GuardedSystem.exists_run_of_execAll
    (fun c => (c.code .network).done = true ∧ (c.code (.datanet 0)).next = some (.free 2))
    (by decide +kernel) ?_
  rintro c' hrun ⟨hdone, hnext⟩
  obtain ⟨calls, w', hcalls, hlines, hfollows, hfiles, -⟩ :=
    serializable serving_servingConfig hrun
  have hnet : c'.code .network = .ret true := Prog.done_iff.mp hdone
  exact ⟨hnext, calls, w', hcalls, hlines, hfollows .network hnet, hfiles hnet⟩

/-- The `hi` of that connection. -/
theorem streams_logged_overtaken : ∃ c',
    threadSystem.system.Run servingConfig (overtakenSchedule 0) c' ∧
    texts 12 (said (threadSystem.trace servingConfig (overtakenSchedule 0))) = [[104, 105]] ∧
    ((texts 12 (heard (threadSystem.trace servingConfig (overtakenSchedule 0)))).map upToNul =
        texts 12 (said (threadSystem.trace servingConfig (overtakenSchedule 0))) ∨
      ∃ t earlier data, c'.code t ≠ .ret true ∧
        texts 12 (heard (threadSystem.trace servingConfig (overtakenSchedule 0))) =
          earlier ++ [data] ∧
        earlier.map upToNul =
          texts 12 (said (threadSystem.trace servingConfig (overtakenSchedule 0)))) := by
  have hcore : ¬ OnCore serverReady 12 := by
    rintro ⟨ge, ev, hev, hp, -⟩
    rw [(events_serverReady hev).2] at hp
    cases hp
  refine GuardedSystem.exists_run_of_execAll (fun _ => True) (by decide +kernel) ?_
  intro c' hrun _
  exact ⟨by decide +kernel, streams_logged serving_servingConfig hrun hcore⟩

end GuitarTea.Threads
