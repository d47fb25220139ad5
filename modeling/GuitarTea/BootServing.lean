import GuitarTea.BootSteps
import GuitarTea.Handover
import GuitarTea.Serialization

/-!
# The server comes up

One triple for each function that the threads run before the first connection: the phase
functions, the first lines of the datanet threads, and the rounds that some threads already
run meanwhile.  When all threads are through, the server is in a state from which its runs
are as good as serial ones.

## Main definitions

* `JustStarted` — a server that nobody has connected to.
* `Booting.Idle` — what a thread between two rounds has set up.
* `Booting.worldOf` — the serial server with what is in memory.

## Main results

* `serving_of_booted` — where a start-up without a connection ends.
-/

namespace GuitarTea.Threads

/-- A server that nobody has connected to: the core poller has the signal pipe and nothing
else, there is no connection, and every event is registered with its poller. -/
structure JustStarted (pipefd : ℤ) (w : World) : Prop where
  core : ∀ fd, OnCore w fd ↔ fd = pipefd
  conn : ∀ ge ev, ¬ w.IsConn ge ev
  registered : ∀ ge ev, w.events ge = some ev →
    w.kernel.sets (w.pollers ev.gpoller).epfd ev.efd = some ⟨epollin, some ge⟩

namespace Booting

variable {t : Thread} {k : Known} {p : PollerId} {ge : EventPtr} {fd e : ℤ}
  {P : Setup → Shared → Prop}

/-! ## The start of the threads -/

/-- A message, and a result that needs nothing. -/
theorem triple_log_pure {α : Type} {a : α} {R : α → Setup → Shared → Prop} (c : LogCall)
    (ha : ∀ g s, R a g s) :
    discipline.Triple t P (perform (.log c) >>= fun _ => pure a) R := by
  have htrue : discipline.Stable t fun _ _ => True := fun _ _ _ _ _ _ _ => trivial
  refine Discipline.Triple.pre ((triple_skip rfl htrue).bind fun _ => ?_) fun _ _ _ _ => trivial
  exact .ret fun g s _ _ => ha g s

/-- What follows a call whose return code is checked. -/
theorem triple_checked {α : Type} {ret : ℤ} {x y : Code α} {R : α → Setup → Shared → Prop}
    (hbad : gtOk ≠ ret → discipline.Triple t (fun _ _ => True) x R)
    (hok : gtOk = ret → discipline.Triple t P y R) :
    discipline.Triple t (fun g s => ret = gtOk → P g s) (if gtOk ≠ ret then x else y) R := by
  by_cases hret : gtOk = ret
  · rw [if_neg (not_not.mpr hret)]
    exact (hok hret).pre fun _ _ _ h => h hret.symm
  · rw [if_pos hret]
    exact (hbad hret).pre fun _ _ _ _ => trivial

theorem triple_initListHead (hP : discipline.Stable t P) (n : NodeAddr) :
    discipline.Triple t P (initListHead n) fun _ => P :=
  (triple_skip rfl hP).bind fun _ => triple_skip rfl hP

theorem triple_listAdd (hP : discipline.Stable t P) (xnew head : NodeAddr) :
    discipline.Triple t P (listAdd xnew head) fun _ => P := by
  refine (triple_skip rfl hP).bind fun _ => ?_
  refine (triple_skip rfl hP).bind fun _ => ?_
  refine (triple_skip rfl hP).bind fun _ => ?_
  exact (triple_skip rfl hP).bind fun _ => triple_skip rfl hP

/-- What a thread knows when it has initialised a poller. -/
def Known.withPoller (k : Known) (p : PollerId) (e : ℤ) : Known :=
  { k with
    epfd := Function.update k.epfd p (some e)
    stored := Function.update k.stored p (some e) }

theorem Known.epfd_withPoller (k : Known) (p : PollerId) (e : ℤ) :
    (k.withPoller p e).epfd p = some e := Function.update_self ..

theorem Known.stored_withPoller (k : Known) (p : PollerId) (e : ℤ) :
    (k.withPoller p e).stored p = some e := Function.update_self ..

/-- What the main thread knows when the descriptor it has got its event. -/
def Known.withEvent (k : Known) (p : PollerId) (ge : EventPtr) (fd : ℤ) : Known :=
  { k with event := Function.update k.event p (some (ge, fd)), fresh := none, fd := none }

/-- **`gt_poller_init`**: the poller has an epoll descriptor of its own. -/
theorem triple_gtPollerInit (hp : starter p = t) (hk : k.epfd p = none) (maxe timeout : ℤ) :
    discipline.Triple t (At t k) (gtPollerInit maxe timeout p) fun ret g s => ret = gtOk →
      ∃ e, At t (k.withPoller p e) g s := by
  refine (triple_storePoller hp fun _ => rfl).bind fun _ => ?_
  refine (triple_storePoller hp fun _ => rfl).bind fun _ => ?_
  refine (triple_epollCreate hp hk).bind fun created => ?_
  cases created with
  | error errnum =>
      have hat := stable_at t { k with stored := Function.update k.stored p (some (-1)) }
      have hret : returned (.error errnum) = -1 := rfl
      rw [hret]
      refine (triple_storeEpfd hp (.inl (by decide))).bind fun _ => ?_
      refine (triple_loadPoller_own hp (Function.update_self ..)).bind fun x => .of_imp fun hx => ?_
      rw [if_pos (by rw [hx]; decide)]
      refine (triple_skip rfl hat).bind fun _ => ?_
      refine (triple_skip rfl hat).bind fun _ => ?_
      exact .ret fun _ _ _ _ => nofun
  | ok e =>
      have hat := stable_at t (k.withPoller p e)
      refine (triple_storeEpfd hp (.inr (Function.update_self ..))).bind fun _ => ?_
      refine (triple_skip rfl hat).bind fun x => ?_
      split
      · refine (triple_skip rfl hat).bind fun _ => ?_
        refine (triple_skip rfl hat).bind fun _ => ?_
        exact .ret fun _ _ _ _ => nofun
      · refine (triple_skip rfl hat).bind fun _ => ?_
        refine (triple_storePoller hp fun _ => rfl).bind fun _ => ?_
        refine (triple_skip rfl hat).bind fun _ => ?_
        split
        · refine (triple_initListHead hat _).bind fun _ => ?_
          exact .ret fun _ _ _ h _ => ⟨e, h⟩
        · refine (triple_skip rfl hat).bind fun _ => ?_
          exact .ret fun _ _ _ _ => nofun

/-- **`gt_poller_gevent_create`** by the main thread. -/
theorem triple_gtPollerGeventCreate (hfresh : k.fresh = none) :
    discipline.Triple .main (At .main k) (gtPollerGeventCreate fd p) fun v g s =>
      ∀ ge, v = some ge → At .main { k with fresh := some (ge, .made fd p) } g s := by
  refine (triple_malloc hfresh).bind fun v => ?_
  cases v with
  | none =>
      refine (triple_skip rfl (stable_at .main k)).bind fun _ => ?_
      exact .ret fun _ _ _ _ => nofun
  | some ge =>
      refine .of_exists fun x => ?_
      refine (triple_memset rfl).bind fun _ => ?_
      refine (triple_store rfl (.efd fd)).bind fun _ => ?_
      refine (triple_initListHead (stable_at .main _) _).bind fun _ => ?_
      refine (triple_listAdd (stable_at .main _) _ _).bind fun _ => ?_
      refine (triple_store rfl (.gpoller p)).bind fun _ => ?_
      refine .ret fun g s _ hat ge' hge' => ?_
      obtain rfl := Option.some.inj hge'
      exact hat

/-- Read the event that is being made. -/
theorem triple_load_bind {β : Type} {f : EventMem → Code β} {x : EventMem}
    {R : β → Setup → Shared → Prop} (hx : k.fresh = some (ge, x))
    (hf : discipline.Triple .main (At .main k) (f x) R) :
    discipline.Triple .main (At .main k) (perform (.load ge) >>= f) R := by
  refine (triple_load hx).bind fun y => .of_imp ?_
  rintro rfl
  exact hf

section Start

variable (hstarter : starter p = .main) (hepfd : k.epfd p = some e)
  (hstored : k.stored p = some e) (hnone : k.event p = none) (hfd : k.fd = some fd)
include hstarter hepfd hstored hnone hfd

/-- The end of `gt_poller_event_start`. -/
theorem triple_pollerCtl (func : String) (line : ℕ)
    (hfresh : k.fresh = some (ge, started p fd ge)) :
    discipline.Triple .main (At .main k) (pollerCtl func line .add ge (some p)) fun ret g s =>
      ret = gtOk → At .main (k.withEvent p ge fd) g s := by
  refine triple_load_bind hfresh ?_
  refine (triple_loadPoller_own hstarter hstored).bind fun x => .of_imp ?_
  rintro rfl
  refine (triple_epollCtl hstarter hepfd hnone hfresh hfd).bind fun err => ?_
  cases err with
  | none => exact .ret fun _ _ _ h _ => h
  | some errnum =>
      refine (triple_skip rfl (stable_at .main k)).bind fun _ => ?_
      refine (triple_skip rfl (stable_at .main k)).bind fun _ => ?_
      exact .ret fun _ _ _ _ => nofun

/-- **`gt_poller_event_start`** of `EPOLLIN` for a new event with its handler. -/
theorem triple_gtPollerEventStart
    (hfresh : k.fresh = some (ge, (EventWrite.read (readFn p)).apply (.made fd p))) :
    discipline.Triple .main (At .main k) (gtPollerEventStart epollin ge) fun ret g s =>
      ret = gtOk → At .main (k.withEvent p ge fd) g s := by
  refine triple_load_bind hfresh ?_
  refine triple_load_bind hfresh ?_
  refine triple_load_bind hfresh ?_
  rw [if_neg (by simp [EventWrite.apply, EventMem.made])]
  refine triple_load_bind hfresh ?_
  refine (triple_store hfresh _).bind fun _ => ?_
  refine (triple_store rfl _).bind fun _ => ?_
  refine triple_pollerCtl (k := { k with fresh := some (ge, _) })
    hstarter hepfd hstored hnone hfd _ _ ?_
  simp [EventWrite.apply, EventMem.made, started]

/-- A descriptor gets its event and the event is started. -/
theorem triple_createStarted (hfresh : k.fresh = none) :
    discipline.Triple .main (At .main k) (createStarted fd p (readFn p)) fun v g s =>
      v = some gtOk → ∃ ge, At .main (k.withEvent p ge fd) g s := by
  refine (triple_gtPollerGeventCreate hfresh).bind fun v => ?_
  cases v with
  | none => exact .ret fun _ _ _ _ => nofun
  | some ge =>
      refine .pre ?_ fun _ _ _ h => h ge rfl
      refine (triple_store rfl (.read (readFn p))).bind fun _ => ?_
      refine (triple_gtPollerEventStart
        (k := { k with fresh := some (ge, (EventWrite.read (readFn p)).apply (.made fd p)) })
        hstarter hepfd hstored hnone hfd rfl).bind fun ret => ?_
      exact .ret fun g s _ hat hret => ⟨ge, hat (Option.some.inj hret)⟩

end Start

/-- **`gt_signal_phase1_func`**: the read end of the signal pipe gets its event. -/
theorem triple_gtSignalPhase1Func (hepfd : k.epfd .core = some e)
    (hstored : k.stored .core = some e) (hnone : k.event .core = none) (hfd : k.fd = some fd)
    (hfresh : k.fresh = none) :
    discipline.Triple .main (At .main k) (gtSignalPhase1Func fd) fun ret g s => ret = gtOk →
      ∃ ge, At .main (k.withEvent .core ge fd) g s := by
  refine (triple_createStarted (p := .core) rfl hepfd hstored hnone hfd hfresh).bind fun v => ?_
  cases v with
  | none => exact triple_log_pure _ fun _ _ => nofun
  | some ret => exact .ret fun _ _ _ h hret => h (congrArg some hret)

/-- A failed call: the new descriptor is closed. -/
theorem triple_closeUnused (hfd : k.fd = some fd) (hpos : 0 < fd) (func : String) (line : ℕ)
    (msg : List LogPiece) (Q : Setup → Shared → Prop) :
    discipline.Triple .main (At .main k) (closeUnused func line msg fd) fun ret g s =>
      ret = gtOk → Q g s := by
  refine (triple_skip rfl (stable_at .main k)).bind fun _ => ?_
  refine (triple_close hfd hpos).bind fun _ => ?_
  exact .ret fun _ _ _ _ => nofun

/-- **`gt_network_listenning`**: a new socket gets its event. -/
theorem triple_gtNetworkListenning (hepfd : k.epfd .network = some e)
    (hstored : k.stored .network = some e) (hnone : k.event .network = none)
    (hfresh : k.fresh = none) :
    discipline.Triple .main (At .main k) gtNetworkListenning fun ret g s => ret = gtOk →
      ∃ lfd ge, At .main (k.withEvent .network ge lfd) g s := by
  refine triple_socket.bind fun created => ?_
  cases created with
  | error errnum =>
      refine (triple_skip rfl (stable_at .main k)).bind fun _ => ?_
      exact .ret fun _ _ _ _ => nofun
  | ok lfd =>
      refine .of_imp fun hpos => ?_
      have hat := stable_at .main { k with fd := some lfd }
      refine (triple_skip rfl hat).bind fun err => ?_
      cases err with
      | some errnum => exact triple_closeUnused rfl hpos _ _ _ _
      | none =>
          refine (triple_skip rfl hat).bind fun err => ?_
          cases err with
          | some errnum => exact triple_closeUnused rfl hpos _ _ _ _
          | none =>
              refine (triple_skip rfl hat).bind fun err => ?_
              cases err with
              | some errnum => exact triple_closeUnused rfl hpos _ _ _ _
              | none =>
                  refine (triple_createStarted (k := { k with fd := some lfd }) (p := .network)
                    rfl hepfd hstored hnone rfl hfresh).bind fun started => ?_
                  cases started with
                  | none => exact triple_log_pure _ fun _ _ => nofun
                  | some ret =>
                      dsimp only
                      refine .pre (triple_checked (P := fun g s => ∃ ge, At .main
                        (Known.withEvent { k with fd := some lfd } .network ge lfd) g s) ?_ ?_)
                        fun _ _ _ h hret => h (congrArg some hret)
                      · exact fun _ => triple_log_pure _ fun _ _ => nofun
                      · rintro rfl
                        refine .of_exists fun ge => ?_
                        refine (triple_skip rfl (stable_at .main _)).bind fun _ => ?_
                        exact .ret fun _ _ _ h _ => ⟨lfd, ge, h⟩

/-- **`gt_network_phase1_func`**: the network poller and the listening socket. -/
theorem triple_gtNetworkPhase1Func (g : ServerAddr) (hk : k.epfd .network = none)
    (hnone : k.event .network = none) (hfresh : k.fresh = none) :
    discipline.Triple .main (At .main k) (gtNetworkPhase1Func g) fun ret g s => ret = gtOk →
      ∃ e lfd ge, At .main ((k.withPoller .network e).withEvent .network ge lfd) g s := by
  refine (triple_gtPollerInit rfl hk _ _).bind fun ret => triple_checked ?_ ?_
  · exact fun hret => .ret fun _ _ _ _ h => absurd h.symm hret
  · rintro rfl
    refine .of_exists fun e => ?_
    refine (triple_gtNetworkListenning (k.epfd_withPoller .network e)
      (k.stored_withPoller .network e) hnone hfresh).bind fun ret => triple_checked ?_ ?_
    · exact fun hret => triple_log_pure _ fun _ _ h => absurd h.symm hret
    · rintro rfl
      refine .ret fun _ _ _ h _ => ?_
      obtain ⟨lfd, ge, hat⟩ := h
      exact ⟨e, lfd, ge, hat⟩

/-- All that a thread has to set up is there; the signal pipe is on the core poller. -/
structure Known.Up (gl : Globals) (t : Thread) (k : Known) : Prop where
  pollers : ∀ p, starter p = t → ∃ e, k.epfd p = some e ∧ k.stored p = some e
  fresh : t = .main → k.fresh = none
  core : t = .main → ∃ ge, k.event .core = some (ge, gl.pipefd)
  network : t = .main → k.event .network ≠ none

/-- A thread between two rounds. -/
def Idle (gl : Globals) (t : Thread) (g : Setup) (s : Shared) : Prop :=
  ∃ k, Known.Up gl t k ∧ At t k g s

theorem stable_idle (gl : Globals) (t : Thread) : discipline.Stable t (Idle gl t) := by
  rintro g s g' s' ⟨k, hup, hat⟩ _ hr
  exact ⟨k, hup, hat.rely hr⟩

/-- Before the phase functions the main thread has the read end of the signal pipe. -/
def Known.boot (fd : ℤ) : Known := ⟨fun _ => none, fun _ => none, fun _ => none, none, some fd⟩

/-- The main thread up to its loop. -/
theorem triple_mainStart (gl : Globals) :
    discipline.Triple .main (At .main (.boot gl.pipefd)) (mainStart gl) fun b g s =>
      b = true → Idle gl .main g s := by
  refine (triple_gtPollerInit (p := .core) rfl rfl _ _).bind fun ret => triple_checked ?_ ?_
  · exact fun _ => .ret fun _ _ _ _ => nofun
  · rintro rfl
    refine .of_exists fun e => ?_
    refine (triple_gtSignalPhase1Func (Known.epfd_withPoller _ .core e)
      (Known.stored_withPoller _ .core e) rfl rfl rfl).bind fun ret => triple_checked ?_ ?_
    · exact fun _ => .ret fun _ _ _ _ => nofun
    · rintro rfl
      refine .of_exists fun ge => ?_
      refine (triple_gtNetworkPhase1Func gl.server rfl rfl rfl).bind fun ret => ?_
      refine .ret fun g s _ h hret => ?_
      obtain ⟨e', lfd, ge', hat⟩ := h (of_decide_eq_true hret).symm
      refine ⟨_, ⟨?_, fun _ => rfl, fun _ => ⟨ge, rfl⟩, fun _ => Option.some_ne_none (ge', lfd)⟩,
        hat⟩
      intro p hp
      cases p with
      | core => exact ⟨e, rfl, rfl⟩
      | network => exact ⟨e', rfl, rfl⟩
      | datanet i => cases hp

/-- A datanet thread up to its loop. -/
theorem triple_datanetStart (gl : Globals) (i : Fin 4) :
    discipline.Triple (.datanet i) (At (.datanet i) (.boot gl.pipefd)) (datanetStart i)
      fun b g s => b = true → Idle gl (.datanet i) g s := by
  refine (triple_gtPollerInit (p := .datanet i) rfl rfl _ _).bind fun ret => triple_checked ?_ ?_
  · exact fun _ => triple_log_pure _ fun _ _ => nofun
  · rintro rfl
    refine .ret fun g s _ h _ => ?_
    obtain ⟨e, hat⟩ := h
    refine ⟨_, ⟨?_, nofun, nofun, nofun⟩, hat⟩
    intro p hp
    cases p with
    | core | network => cases hp
    | datanet j =>
        cases hp
        exact ⟨e, Function.update_self .., Function.update_self ..⟩

/-! ## Rounds -/

/-- An entry of a batch leads to the event of the thread's poller, and is never about writing. -/
def Entry (t : Thread) (r : ReadyEvent) (g : Setup) : Prop :=
  r.events &&& epollout = 0 ∧
    ∃ ge fd, r.ptr = some ge ∧ g.event t.poller = some (ge, fd)

theorem stable_entry (t : Thread) (r : ReadyEvent) :
    discipline.Stable t fun g _ => Entry t r g := by
  rintro g s g' s' ⟨hbits, ge, fd, hptr, hev⟩ _ hr
  exact ⟨hbits, ge, fd, hptr, hr.event _ _ hev⟩

theorem triple_gtSignalOpsRead (hP : discipline.Stable t P) (ge : EventPtr) :
    discipline.Triple t P (gtSignalOpsRead ge) fun _ => P := by
  have hlog : ∀ (c : LogCall) (ret : ℤ),
      discipline.Triple t P (perform (.log c) >>= fun _ => pure ret) fun _ => P :=
    fun c ret => (triple_skip rfl hP).bind fun _ => .ret fun _ _ _ h => h
  refine (triple_skip rfl hP).bind fun ev => ?_
  refine (triple_skip rfl hP).bind fun r => ?_
  split
  · exact hlog _ _
  · exact .ret fun _ _ _ h => h
  · dsimp only
    split
    · exact hlog _ _
    · split
      · exact hlog _ _
      · exact .ret fun _ _ _ h => h

/-- **`gt_network_ops_read`** when nobody connects. -/
theorem triple_gtNetworkOpsRead (hP : discipline.Stable t P) (ge : EventPtr) :
    discipline.Triple t P (gtNetworkOpsRead ge) fun _ => P := by
  refine (triple_skip rfl hP).bind fun ev => ?_
  refine (triple_quiet (c := .accept ev.efd) (φ := fun v _ => ∃ errnum, v = .error errnum) rfl hP
    (fun _ _ _ _ _ h _ _ => h) ?_).bind fun accepted => .of_imp ?_
  · intro g s a v s' _ _ hresp
    obtain ⟨errnum, rfl, -⟩ := respond_accept hresp
    exact ⟨errnum, rfl⟩
  · rintro ⟨errnum, rfl⟩
    dsimp only
    split
    · exact .ret fun _ _ _ h => h
    · refine (triple_skip rfl hP).bind fun _ => ?_
      refine (triple_skip rfl hP).bind fun _ => ?_
      exact .ret fun _ _ _ h => h

/-- The handler of the thread's own poller; no event is on a datanet poller. -/
theorem triple_callReadFn (hP : discipline.Stable t P) {x : EventPtr × ℤ}
    (hev : ∀ g s, P g s → g.event t.poller = some x) (ge : EventPtr) :
    discipline.Triple t P (callReadFn (readFn t.poller) ge) fun _ => P := by
  cases t with
  | main => exact triple_gtSignalOpsRead hP ge
  | network => exact triple_gtNetworkOpsRead hP ge
  | datanet i =>
      intro g s hinv hp
      have hnone := hinv.datanet i
      cases hnone.symm.trans (hev g s hp)

/-- The body of the loop in `gt_poller_epoll_wait`. -/
theorem triple_epollWaitBody (hP : discipline.Stable t P) (r : ReadyEvent) :
    discipline.Triple t (fun g s => Entry t r g ∧ P g s) (epollWaitBody r) fun _ => P := by
  intro g s hinv h
  obtain ⟨⟨hbits, ge, fd, hptr, hev⟩, hp⟩ := h
  let Q := fun g s => g.event t.poller = some (ge, fd) ∧ P g s
  have hQ : discipline.Stable t Q := Discipline.Stable.and
    (fun _ _ _ _ h _ hr => hr.event _ _ h) hP
  suffices discipline.Triple t Q (epollWaitBody r) fun _ => Q from
    (this g s hinv ⟨hev, hp⟩).mono hinv fun _ _ _ _ h => h.2
  unfold epollWaitBody
  split
  · refine (triple_quiet (c := .deref r.ptr) (φ := fun v _ => v = ge) rfl hQ
      (fun _ _ _ _ _ h _ _ => h) ?_).bind fun v => .of_imp ?_
    · intro g s a v s' _ _ hresp
      have hresp' := of_respond hresp
      rw [hptr] at hresp'
      exact (Prod.mk.inj (Option.some.inj hresp')).1.symm
    · rintro rfl
      refine (triple_load_registered hQ fun _ _ h => h.1).bind fun x => .of_imp ?_
      rintro rfl
      refine (triple_quiet (c := .call (some (readFn t.poller)) v)
        (φ := fun fn _ => fn = readFn t.poller) rfl hQ (fun _ _ _ _ _ h _ _ => h) ?_).bind
          fun fn => .of_imp ?_
      · intro g s a fn s' _ _ hresp
        exact (Prod.mk.inj (Option.some.inj (of_respond hresp))).1.symm
      · rintro rfl
        refine (triple_callReadFn hQ (fun _ _ h => h.1) v).bind fun ret => ?_
        split
        · refine (triple_skip rfl hQ).bind fun efd => ?_
          exact triple_skip rfl hQ
        · exact .ret fun _ _ _ h => h
  · rw [if_neg (not_not.mpr hbits)]
    exact .ret fun _ _ _ h => h

/-- `epoll_wait` on the poller of the thread: the entries lead to its event. -/
theorem triple_epollWait (hP : discipline.Stable t P) (maxe : ℤ) :
    discipline.Triple t (fun g s => (e ≤ 0 ∨ g.epfd t.poller = some e) ∧ P g s)
      (perform (.epollWait e maxe)) fun ee g s => (∀ r ∈ ee, Entry t r g) ∧ P g s := by
  have hpre : discipline.Stable t fun g s => (e ≤ 0 ∨ g.epfd t.poller = some e) ∧ P g s :=
    Discipline.Stable.and (fun _ _ _ _ h _ hr => h.imp_right (hr.epfd _ _)) hP
  refine (triple_quiet (c := .epollWait e maxe) (φ := fun ee g => ∀ r ∈ ee, Entry t r g) rfl hpre
    (fun ee g s g' s' h hinv hr r hmem => stable_entry t r g s g' s' (h r hmem) hinv hr) ?_).post
      fun _ _ _ _ h => ⟨h.1, h.2.2⟩
  intro g s a ee s' hinv hp hresp r hmem
  obtain ⟨hrep, hs'⟩ := Option.ite_none_right_eq_some.mp (of_respond hresp)
  obtain ⟨rfl, -⟩ := Prod.mk.inj (Option.some.inj hs')
  obtain ⟨reg, hset, hptr, hbits⟩ := hrep.entries r hmem
  obtain ⟨p, ge, hepfd, hev, rfl⟩ := (hinv.sets e r.fd reg).mp hset
  have hpoller : g.epfd t.poller = some e := by
    refine hp.1.resolve_left fun hle => ?_
    have hpos := (hinv.epfd p e hepfd).1
    omega
  obtain rfl := hinv.epfd_inj p t.poller e hepfd hpoller
  have hmask : epollin &&& ~~~epollin = 0 := by decide
  exact ⟨and_epollout_of_requested hmask hbits, ge, r.fd, hptr, hev⟩

/-- **A round** of a thread leaves everything as it is. -/
theorem triple_body (hP : discipline.Stable t P) :
    discipline.Triple t P (body t) fun _ => P := by
  have hforM : ∀ ee : List ReadyEvent, discipline.Triple t
      (fun g s => (∀ r ∈ ee, Entry t r g) ∧ P g s) (ee.forM epollWaitBody) fun _ => P := by
    intro ee
    refine (Discipline.Triple.forM (I := fun ee g s => (∀ r ∈ ee, Entry t r g) ∧ P g s)
      (fun r rest => ?_) ee).post fun _ _ _ _ h => h.2
    have hrest : discipline.Stable t fun g s => (∀ r ∈ rest, Entry t r g) ∧ P g s :=
      Discipline.Stable.and (fun g s g' s' h hinv hr r hmem =>
        stable_entry t r g s g' s' (h r hmem) hinv hr) hP
    refine (triple_epollWaitBody hrest r).pre fun g s _ h => ?_
    exact ⟨h.1 r List.mem_cons_self, fun r' hr' => h.1 r' (List.mem_cons_of_mem _ hr'), h.2⟩
  refine Discipline.Triple.bind ?_ fun _ => .ret fun _ _ _ h => h
  refine (triple_loadPoller hP t.poller).bind fun x => ?_
  have hx : discipline.Stable t
      fun g s => (x.epfd ≤ 0 ∨ g.epfd t.poller = some x.epfd) ∧ P g s :=
    Discipline.Stable.and (fun _ _ _ _ h _ hr => h.imp_right (hr.epfd _ _)) hP
  refine (triple_skip rfl hx).bind fun y => ?_
  exact (triple_epollWait hP y.maxe).bind fun ee => hforM ee

/-! ## The server that has come up -/

/-- An event as the serial server has it. -/
def eventOf (x : EventMem) : Option GtEvent := x.gpoller.map fun p => ⟨x.efd, x.ops, x.e, p⟩

/-- A serial server with the same pollers, events and kernel, and with empty lists. -/
def worldOf (s : Shared) : World where
  pollers := s.pollers
  events ge := (s.events ge).bind eventOf
  nodes n := some ⟨n, n⟩
  kernel := s.kernel
  log := []
  processed := []

section Serves

variable {gl : Globals} {g : Setup} {s : Shared} (hinv : Inv g s) (hidle : ∀ t, Idle gl t g s)
include hinv hidle

omit hinv in
/-- Every poller has been initialised. -/
theorem epfd_of_idle (p : PollerId) : g.epfd p = some (s.pollers p).epfd := by
  obtain ⟨k, hup, hat⟩ := hidle (starter p)
  obtain ⟨e, hepfd, hstored⟩ := hup.pollers p rfl
  rw [hat.epfd p rfl, hepfd, hat.stored p e rfl hstored]

/-- Every event is registered with its poller. -/
theorem events_of_idle (ge : EventPtr) (ev : GtEvent) : (worldOf s).events ge = some ev ↔
    ∃ p fd, g.event p = some (ge, fd) ∧
      ev = ⟨fd, ⟨some (readFn p), none⟩, ⟨epollin, some ge⟩, p⟩ := by
  obtain ⟨k, hup, hat⟩ := hidle .main
  have hfresh : g.fresh = none := (hat.fresh rfl).trans (hup.fresh rfl)
  simp only [worldOf, Option.bind_eq_some_iff, hinv.event, hfresh]
  constructor
  · rintro ⟨x, hcases | ⟨p, fd, hp, rfl⟩, hev⟩
    · cases hcases
    · exact ⟨p, fd, hp, (Option.some.inj hev).symm⟩
  · rintro ⟨p, fd, hp, rfl⟩
    exact ⟨started p fd ge, .inr ⟨p, fd, hp, rfl⟩, rfl⟩

/-- The core poller has the signal pipe. -/
theorem onCore_worldOf_iff (fd : ℤ) : OnCore (worldOf s) fd ↔ fd = gl.pipefd := by
  obtain ⟨k, hup, hat⟩ := hidle .main
  obtain ⟨cge, hk⟩ := hup.core rfl
  have hcore : g.event .core = some (cge, gl.pipefd) := by rw [hat.event rfl, hk]
  constructor
  · rintro ⟨ge, ev, hev, hp, rfl⟩
    obtain ⟨p, fd, hev', rfl⟩ := (events_of_idle hinv hidle ge ev).mp hev
    obtain rfl : p = .core := hp
    exact (Prod.mk.inj (Option.some.inj (hev'.symm.trans hcore))).2
  · rintro rfl
    exact ⟨cge, _, (events_of_idle hinv hidle cge _).mpr ⟨.core, _, hcore, rfl⟩, rfl, rfl⟩

/-- No event is on a datanet poller. -/
theorem not_isConn_worldOf (ge : EventPtr) (ev : GtEvent) : ¬ (worldOf s).IsConn ge ev := by
  rintro ⟨hev, i, hp⟩
  obtain ⟨p, fd, hev', rfl⟩ := (events_of_idle hinv hidle ge ev).mp hev
  obtain rfl : p = .datanet i := hp
  cases (hinv.datanet i).symm.trans hev'

/-- **A server whose threads are all between two rounds for the first time.** -/
theorem serves_of_idle : ∃ lge, Serves lge (worldOf s) := by
  have hepfd := epfd_of_idle hidle
  have hevents := events_of_idle hinv hidle
  obtain ⟨k, hup, hat⟩ := hidle .main
  obtain ⟨⟨lge, lfd⟩, hlisten⟩ : ∃ x, g.event .network = some x := by
    rw [hat.event rfl]
    exact Option.ne_none_iff_exists'.mp (hup.network rfl)
  have hinj : ∀ p q, (s.pollers p).epfd = (s.pollers q).epfd → p = q := fun p q heq =>
    hinv.epfd_inj p q _ (hepfd p) (heq ▸ hepfd q)
  have hne : ∀ ge ev p, (worldOf s).events ge = some ev → ev.efd ≠ (s.pollers p).epfd := by
    intro ge ev p hev heq
    obtain ⟨q, fd, hq, rfl⟩ := (hevents ge ev).mp hev
    have hnot := (hinv.efd q ge fd hq).2.2
    rw [show fd = (s.pollers p).epfd from heq, (hinv.epfd p _ (hepfd p)).2.2] at hnot
    cases hnot
  have hregistered : ∀ p fd reg, s.kernel.sets (s.pollers p).epfd fd = some reg →
      ∃ ge, reg = ⟨epollin, some ge⟩ ∧ g.event p = some (ge, fd) := by
    intro p fd reg hset
    obtain ⟨q, ge, hq, hev, rfl⟩ := (hinv.sets _ fd reg).mp hset
    obtain rfl := hinv.epfd_inj q p _ hq (hepfd p)
    exact ⟨ge, rfl, hev⟩
  refine ⟨lge, ?_, ?_, ?_, ?_, hinj, hne, ?_, ?_⟩
  · refine ⟨hinv.kernel, fun i => ⟨?_, .inl rfl⟩, ?_, ?_, ?_, ?_, ?_, ?_, ?_, ?_⟩
    · rintro ge ⟨ev, hev, hp⟩
      exact absurd ⟨hev, i, hp⟩ (not_isConn_worldOf hinv hidle ge ev)
    · exact ⟨_, (hevents lge _).mpr ⟨.network, lfd, hlisten, rfl⟩, rfl⟩
    · exact fun ge ev hconn => absurd hconn (not_isConn_worldOf hinv hidle ge ev)
    · intro ge ev hev
      obtain ⟨p, fd, hev', rfl⟩ := (hevents ge ev).mp hev
      exact (hinv.efd p ge fd hev').2.1
    · intro ge ge' ev ev' hev hev' heq
      obtain ⟨p, fd, hp, rfl⟩ := (hevents ge ev).mp hev
      obtain ⟨q, fd', hq, rfl⟩ := (hevents ge' ev').mp hev'
      obtain rfl : fd = fd' := heq
      obtain rfl := hinv.efd_inj p q ge ge' fd hp hq
      exact (Prod.mk.inj (Option.some.inj (hp.symm.trans hq))).1
    · exact fun i => (hinv.epfd _ _ (hepfd (.datanet i))).2.1
    · exact fun i j heq => PollerId.datanet.inj (hinj _ _ heq)
    · exact fun ge ev i => hne ge ev (.datanet i)
    · intro i fd reg hset
      obtain ⟨ge, -, hev⟩ := hregistered (.datanet i) fd reg hset
      cases (hinv.datanet i).symm.trans hev
  · intro ge ev hev hp
    obtain ⟨p, fd, hev', rfl⟩ := (hevents ge ev).mp hev
    obtain rfl : p = .network := hp
    exact (Prod.mk.inj (Option.some.inj (hev'.symm.trans hlisten))).1
  · intro ge ev hev
    obtain ⟨p, fd, -, rfl⟩ := (hevents ge ev).mp hev
    rfl
  · exact fun p => (hinv.epfd _ _ (hepfd p)).2.1
  · intro ge ev hev
    obtain ⟨p, fd, hev', rfl⟩ := (hevents ge ev).mp hev
    exact (hinv.efd p ge fd hev').1
  · intro p fd reg hset
    obtain ⟨ge, rfl, hev⟩ := hregistered p fd reg hset
    exact ⟨ge, _, rfl, (hevents ge _).mpr ⟨p, fd, hev, rfl⟩, rfl, rfl⟩

/-- What has been set up is all there is. -/
theorem justStarted_worldOf : JustStarted gl.pipefd (worldOf s) where
  core := onCore_worldOf_iff hinv hidle
  conn := not_isConn_worldOf hinv hidle
  registered ge ev hev := by
    obtain ⟨p, fd, hp, rfl⟩ := (events_of_idle hinv hidle ge ev).mp hev
    exact (hinv.sets _ fd _).mpr ⟨p, ge, epfd_of_idle hidle p, hp, rfl⟩

/-- The serial server has what is in memory. -/
theorem sameButLists_of_idle : SameButLists (worldOf s) s where
  pollers := rfl
  events ge := by
    obtain ⟨k, hup, hat⟩ := hidle .main
    have hfresh : g.fresh = none := (hat.fresh rfl).trans (hup.fresh rfl)
    cases hx : s.events ge with
    | none => simp [worldOf, hx]
    | some x =>
        rcases (hinv.event ge x).mp hx with hcases | ⟨p, fd, -, rfl⟩
        · cases hfresh.symm.trans hcases
        · simp only [worldOf, hx]
          rfl
  files := .refl _
  sets := rfl

end Serves

/-- Before the phase functions nothing has been set up. -/
def Setup.boot : Setup := ⟨fun _ => none, fun _ => none, none⟩

section Boot

variable {gl : Globals} {boot c : Config} {ops : List (Thread × Reply)} (h : Booted gl boot)
include h

theorem inv_of_booted (hkernel : boot.shared.kernel.WF) : Inv .boot boot.shared where
  kernel := hkernel
  zero_open := h.zero_open
  epfd _ _ he := absurd he nofun
  epfd_inj _ _ _ he := absurd he nofun
  poller p := .inl (Int.le_of_eq (h.epfd_eq p))
  event ge x := by simp [h.events_eq, Setup.boot]
  fresh _ _ _ _ hx := absurd hx nofun
  efd _ _ _ hx := absurd hx nofun
  efd_inj _ _ _ _ _ hx := absurd hx nofun
  sets e fd reg := by simp [h.sets_eq, Setup.boot]
  epolls e he := by simp [h.epolls_eq] at he
  created _ _ hx := absurd hx nofun
  datanet _ := rfl

/-- The threads keep the discipline from the start. -/
theorem sound_of_booted (hkernel : boot.shared.kernel.WF) (hpipe : 0 ≤ gl.pipefd) :
    discipline.Sound (Idle gl) boot := by
  refine ⟨.boot, inv_of_booted h hkernel, ?_⟩
  intro t g s hinv hrely
  have hat : At t (.boot gl.pipefd) .boot boot.shared := by
    refine ⟨fun _ _ => rfl, fun _ _ _ h => absurd h nofun, fun _ => rfl, fun _ => rfl, ?_⟩
    intro _ fd hfd
    obtain rfl := Option.some.inj hfd
    exact ⟨hpipe, h.pipe_open, h.epolls_eq _, nofun⟩
  have hat' := hat.rely hrely
  rw [h.code_eq]
  cases t with
  | main => exact triple_mainStart gl g s hinv hat'
  | network =>
      intro _
      refine ⟨_, ⟨?_, nofun, nofun, nofun⟩, hat'⟩
      intro p hp
      cases p <;> cases hp
  | datanet i => exact triple_datanetStart gl i g s hinv hat'

end Boot

end Booting

/-- **Where a start-up ends.**  Let the process start with its phase functions and its worker
threads, which take turns anywhere, get any answers and may run their rounds already.  If no
connection was accepted so far and all threads are between two rounds, then the server is up:
the runs from here on are the ones that are as good as serial, and the signal pipe and the
listening socket are registered. -/
theorem serving_of_booted {gl : Globals} {boot c : Config} {ops : List (Thread × Reply)}
    (h : Booted gl boot) (hkernel : boot.shared.kernel.WF) (hpipe : 0 ≤ gl.pipefd)
    (hrun : threadSystem.system.Run boot ops c)
    (hmeets : threadSystem.system.Meets NoConnection boot ops)
    (hidle : ∀ t, c.code t = .ret true) :
    ∃ lge w, Serving lge w c ∧ JustStarted gl.pipefd w := by
  obtain ⟨g, hinv, hsafe⟩ := (Booting.sound_of_booted h hkernel hpipe).run
    (Booting.stable_idle gl)
    (fun t => (Booting.triple_body (Booting.stable_idle gl t)).post fun _ _ _ _ hat _ => hat)
    (Booting.run_of_meets hrun hmeets)
  have hat : ∀ t, Booting.Idle gl t g c.shared := by
    intro t
    have hnow := hsafe t g c.shared hinv (.refl t g c.shared)
    rw [hidle t] at hnow
    exact hnow rfl
  obtain ⟨lge, hserves⟩ := Booting.serves_of_idle hinv hat
  exact ⟨lge, Booting.worldOf c.shared, ⟨hidle, hserves, Booting.sameButLists_of_idle hinv hat⟩,
    Booting.justStarted_worldOf hinv hat⟩

/-- The descriptor table of that process. -/
theorem wf_bootConfig : bootConfig.shared.kernel.WF where
  files_lt fd file hfile := by
    simp only [bootConfig] at hfile ⊢
    split at hfile
    · obtain rfl := Option.some.inj hfile
      decide
    · split at hfile
      · obtain rfl := Option.some.inj hfile
        decide
      · cases hfile
  files_inj fd fd' file hfile hfile' := by
    simp only [bootConfig] at hfile hfile'
    grind
  closes_open _ _ _ := rfl
  closes_fresh _ _ := rfl
  sets_open _ _ hset := absurd rfl hset

/-- `gt_network_m` has begun a round before the phase functions and ends it after them, and
then the four datanet threads initialise their pollers. -/
theorem serving_of_booted_all : ∃ c,
    threadSystem.system.Run bootConfig
      (alone .network 2 ++ startSchedule ++ alone .network 2 ++ datanetSchedule 0 8 ++
        datanetSchedule 1 9 ++ datanetSchedule 2 10 ++ datanetSchedule 3 11) c ∧
    ∃ lge w, Serving lge w c ∧ JustStarted 4 w := by
  refine GuardedSystem.exists_run_of_execAll
    (fun c => (c.code .main).done = true ∧ (c.code .network).done = true ∧
      ∀ i, (c.code (.datanet i)).done = true) (by decide +kernel) ?_
  rintro c hrun ⟨hmain, hnetwork, hdatanet⟩
  refine serving_of_booted booted_bootConfig wf_bootConfig (by decide) hrun
    (by decide +kernel) fun t => ?_
  cases t with
  | main => exact Prog.done_iff.mp hmain
  | network => exact Prog.done_iff.mp hnetwork
  | datanet i => exact Prog.done_iff.mp (hdatanet i)

end GuitarTea.Threads
