import GuitarTea.ThreadOwnership

/-!
# Handing a connection over

One triple for each function of the threads, and from them the rounds of every
thread.  `gt_network_m` knows nothing about a connection any more once `epoll_ctl` has
returned, and a datanet thread destroys only events of its own batch that it has not
come to yet or is serving right now.

## Main definitions

* `RegistrationGood` — a registration leads to a live event of its poller.

## Main results

* `sound_of_booted` — the discipline holds in every state of every run.
* `handover_safe` — `gt_network_m` touches no destroyed event and no closed connection.
* `registration_good` — registrations and the calls of handlers in every state.
-/

namespace GuitarTea.Threads

/-! ## Creating and starting an event -/

/-- An event that `gt_poller_gevent_create` returns. -/
def EventMem.made (fd : ℤ) (p : PollerId) : EventMem := ⟨fd, ⟨none, none⟩, ⟨0, none⟩, some p⟩

section Create

variable {t : Thread} {d : Option EventPtr} {rest : List ReadyEvent} (ht : ¬ t.IsDatanet)
  {y : FdState} {fd : ℤ} {ge : EventPtr} {ev : EventMem} {l : Link NodeAddr} {p : PollerId}
include ht

theorem triple_initListHead_node :
    discipline.Triple t (Holding t d rest ⟨.fresh t, y, fd, ge, ev, l⟩) (initListHead (.node ge))
      fun _ => Holding t d rest ⟨.fresh t, y, fd, ge, ev, ⟨.node ge, .node ge⟩⟩ := by
  have hown : t.IsDatanet → ev.gpoller = some t.poller := fun h => absurd h ht
  refine (triple_setNext (.inl rfl) hown (.node ge) (by trivial)).bind fun _ => ?_
  exact triple_setPrev (.inl rfl) hown (.node ge) (by trivial)

/-- `list_add(&gpoller->elist, &ge->list)`: nothing is read but the cell of the new
event, and nothing is written but this cell and the poller's list. -/
theorem triple_listAdd :
    discipline.Triple t (Holding t d rest ⟨.fresh t, y, fd, ge, ev, ⟨.node ge, .node ge⟩⟩)
      (listAdd (.elist p) (.node ge))
      fun _ => Holding t d rest ⟨.fresh t, y, fd, ge, ev, ring p⟩ := by
  have hown : t.IsDatanet → ev.gpoller = some t.poller := fun h => absurd h ht
  refine (triple_getNext hown).bind fun v => .of_imp ?_
  rintro rfl
  refine (triple_setPrev (.inl rfl) hown (.elist p) (by trivial)).bind fun _ => ?_
  refine (triple_setNext_elist (stable_holding _ _ _ _) _ fun h => absurd h ht).bind fun _ => ?_
  refine (triple_setPrev_elist (stable_holding _ _ _ _) _ fun h => absurd h ht).bind fun _ => ?_
  exact triple_setNext (.inl rfl) hown (.elist p) (by trivial)

/-- **`gt_poller_gevent_create`.**  The new event belongs to the caller and is complete
except for its handler. -/
theorem triple_gtPollerGeventCreate :
    discipline.Triple t (fun g s => Ctx t d rest g ∧ HoldsFd t y fd g s)
      (gtPollerGeventCreate fd p) fun v g s => match v with
        | none => Ctx t d rest g
        | some ge => Holding t d rest ⟨.fresh t, y, fd, ge, .made fd p, ring p⟩ g s := by
  have hP := (stable_ctx t d rest).and (stable_holdsFd t y fd)
  refine (triple_malloc hP).bind fun v => ?_
  cases v with
  | none =>
      refine .pre ?_ fun _ _ _ hp => hp.2
      refine (triple_log hP _).bind fun _ => ?_
      exact .ret fun g s _ hp => hp.1
  | some ge =>
      intro g s hinv hp
      obtain ⟨ev, l, hev⟩ := hp.1 ge rfl
      have hh : Holding t d rest ⟨.fresh t, y, fd, ge, ev, l⟩ g s := ⟨hp.2.1, hev, hp.2.2⟩
      refine (?_ : discipline.Triple t (Holding t d rest ⟨.fresh t, y, fd, ge, ev, l⟩) _ _)
        g s hinv hh
      refine (triple_memset rfl ht).bind fun _ => ?_
      refine (triple_store (.efd fd) (by trivial)).bind fun _ => ?_
      refine (triple_initListHead_node ht).bind fun _ => ?_
      refine (triple_listAdd ht).bind fun _ => ?_
      refine (triple_store (.gpoller p) (by trivial)).bind fun _ => ?_
      exact .ret fun g s _ hh => hh

end Create

section Start

variable {t : Thread} {d : Option EventPtr} {rest : List ReadyEvent} {fd : ℤ} {ge : EventPtr}
  {ev : EventMem} {p : PollerId}

/-- The end of `gt_poller_event_start`: after the call of `epoll_ctl` only the poller is
looked at. -/
theorem triple_pollerCtl_add (func : String) (line : ℕ) (hshape : Shape p fd ge ev)
    (hzero : fd ≠ 0 ∨ runner p = .main) :
    discipline.Triple t (Holding t d rest ⟨.fresh t, .fresh t, fd, ge, ev, ring p⟩)
      (pollerCtl func line .add ge (some p)) fun _ g _ => Ctx t d rest g := by
  have hctx := stable_ctx t d rest
  refine triple_load_bind ?_
  rw [hshape.efd]
  refine (triple_loadPoller (stable_holding _ _ _ _) p).bind fun poller => ?_
  refine (triple_epollCtl_add hshape hzero).bind fun err => ?_
  cases err with
  | none => exact .ret fun _ _ _ h => h
  | some errnum =>
      refine (triple_loadPoller hctx p).bind fun poller => ?_
      refine (triple_log ((stable_epfdOf t p _).and hctx) _).bind fun _ => ?_
      exact .ret fun _ _ _ h => h.2

/-- **`gt_poller_event_start`** of `EPOLLIN` on a new event: whatever `epoll_ctl` answers,
the caller does not touch the event again. -/
theorem triple_gtPollerEventStart (hzero : fd ≠ 0 ∨ runner p = .main)
    (hev : ev = (EventWrite.read (readFn p)).apply (.made fd p)) :
    discipline.Triple t (Holding t d rest ⟨.fresh t, .fresh t, fd, ge, ev, ring p⟩)
      (gtPollerEventStart epollin ge) fun _ g _ => Ctx t d rest g := by
  subst hev
  have hmask : (0 ||| epollin) &&& ~~~epollin = 0 := by decide
  refine triple_load_bind ?_
  refine triple_load_bind ?_
  refine triple_load_bind ?_
  rw [if_neg (by simp [EventWrite.apply, EventMem.made])]
  refine triple_load_bind ?_
  refine (triple_store (.events (0 ||| epollin)) (by trivial)).bind fun _ => ?_
  refine (triple_store (.data (some ge)) (by trivial)).bind fun _ => ?_
  exact triple_pollerCtl_add _ _ ⟨rfl, rfl, rfl, rfl, hmask⟩ hzero

/-- A descriptor gets its event and the event is started. -/
theorem triple_createStarted (ht : ¬ t.IsDatanet) (hzero : fd ≠ 0 ∨ runner p = .main) :
    discipline.Triple t (fun g s => Ctx t d rest g ∧ HoldsFd t (.fresh t) fd g s)
      (createStarted fd p (readFn p)) fun _ g _ => Ctx t d rest g := by
  refine (triple_gtPollerGeventCreate ht).bind fun v => ?_
  cases v with
  | none => exact .ret fun _ _ _ h => h
  | some ge =>
      refine (triple_store (.read (readFn p)) (by trivial)).bind fun _ => ?_
      refine (triple_gtPollerEventStart hzero rfl).bind fun _ => ?_
      exact .ret fun _ _ _ h => h

end Start

/-! ## Stopping and destroying an event -/

/-- An event of the thread's own poller that the thread is working on. -/
def served (t : Thread) (fd : ℤ) (ge : EventPtr) (ev : EventMem) (l : Link NodeAddr) : Held :=
  ⟨.handed t.poller, .handed t.poller ge, fd, ge, ev, l⟩

theorem Thread.IsDatanet.ne_network {t : Thread} (ht : t.IsDatanet) : t ≠ .network := by
  obtain ⟨i, rfl⟩ := ht
  nofun

section Destroy

variable {t : Thread} {d : Option EventPtr} {rest : List ReadyEvent} {fd : ℤ} {ge : EventPtr}
  {ev : EventMem} {l : Link NodeAddr}

/-- Clearing bits of the mask keeps the shape. -/
theorem Shape.stop {p : PollerId} (h : Shape p fd ge ev) (eflag : BitVec 32) :
    Shape p fd ge ((EventWrite.events (ev.e.events &&& ~~~eflag)).apply ev) where
  efd := h.efd
  gpoller := h.gpoller
  read := h.read
  data := h.data
  mask := by
    have hcomm : ev.e.events &&& ~~~eflag &&& ~~~epollin =
        ev.e.events &&& ~~~epollin &&& ~~~eflag := by
      rw [BitVec.and_assoc, BitVec.and_comm (~~~eflag), ← BitVec.and_assoc]
    simpa [EventWrite.apply, h.mask] using hcomm

variable (ht : t.IsDatanet)
include ht

theorem triple_pollerCtl_mod (func : String) (line : ℕ) (op : EpollOp)
    (hshape : Shape t.poller fd ge ev) :
    discipline.Triple t (Holding t d rest (served t fd ge ev l))
      (pollerCtl func line op ge (some t.poller))
      fun _ => Holding t d rest (served t fd ge ev l) := by
  have hheld := stable_holding t d rest (served t fd ge ev l)
  refine triple_load_bind ?_
  rw [show (served t fd ge ev l).ev.efd = fd from hshape.efd]
  refine (triple_loadPoller hheld t.poller).bind fun poller => ?_
  refine (triple_epollCtl_mod hshape ht.ne_network op).bind fun err => ?_
  cases err with
  | none => exact .ret fun _ _ _ h => h
  | some errnum =>
      refine (triple_loadPoller hheld t.poller).bind fun poller => ?_
      refine (triple_log ((stable_epfdOf t _ _).and hheld) _).bind fun _ => ?_
      exact .ret fun _ _ _ h => h.2

/-- **`gt_poller_event_stop`** by the thread that has the event: only its mask changes. -/
theorem triple_gtPollerEventStop (eflag : BitVec 32) (hshape : Shape t.poller fd ge ev)
    (hlink : l = ring t.poller) :
    discipline.Triple t (Holding t d rest (served t fd ge ev l)) (gtPollerEventStop eflag ge)
      fun _ g s => ∃ ev', Shape t.poller fd ge ev' ∧
        Holding t d rest (served t fd ge ev' l) g s := by
  refine triple_load_bind ?_
  refine triple_load_bind ?_
  refine triple_load_bind ?_
  split
  · exact .ret fun _ _ _ h => ⟨ev, hshape, h⟩
  · refine triple_load_bind ?_
    have hfit : { served t fd ge ev l with
        ev := (EventWrite.events (ev.e.events &&& ~~~eflag)).apply ev }.Fits d :=
      ⟨rfl, rfl, hshape.stop eflag, .inl hlink⟩
    refine (triple_store (.events (ev.e.events &&& ~~~eflag)) hfit).bind fun _ => ?_
    rw [show (served t fd ge ev l).ev.gpoller = some t.poller from hshape.gpoller]
    exact (triple_pollerCtl_mod ht _ _ _ (hshape.stop eflag)).post
      fun _ _ _ _ h => ⟨_, hshape.stop eflag, h⟩

omit ht in
theorem triple_rawListDel {P : Ghost → Shared → Prop} (hP : discipline.Stable t P) :
    discipline.Triple t P (rawListDel (.elist t.poller) (.elist t.poller)) fun _ => P := by
  have hrun : t.IsDatanet → runner t.poller = t := fun _ => runner_poller t
  refine (triple_setPrev_elist hP _ hrun).bind fun _ => ?_
  exact triple_setNext_elist hP _ hrun

omit ht in
/-- `list_del(&ge->list)`: both neighbours are the list of the thread's own poller. -/
theorem triple_listDel (hshape : Shape t.poller fd ge ev) :
    discipline.Triple t (Holding t none rest (served t fd ge ev (ring t.poller)))
      (listDel (.node ge))
      fun _ => Holding t (some ge) rest (served t fd ge ev ⟨.listPoison1, .listPoison2⟩) := by
  have hown : t.IsDatanet → ev.gpoller = some t.poller := fun _ => hshape.gpoller
  have hfit : ∀ l, (served t fd ge ev l).Fits (some ge) :=
    fun l => ⟨rfl, rfl, hshape, .inr rfl⟩
  refine (triple_getPrev hown).bind fun v => .of_imp ?_
  rintro rfl
  refine (triple_getNext hown).bind fun v => .of_imp ?_
  rintro rfl
  refine (triple_rawListDel (stable_holding _ _ _ _)).bind fun _ => ?_
  refine (triple_setNext (.inr rfl) hown .listPoison1 (hfit _)).bind fun _ => ?_
  exact triple_setPrev (.inl rfl) hown .listPoison2 (hfit _)

/-- **`gt_poller_gevent_destroy`.**  The event and its descriptor are gone, and the other
entries of the batch are as before. -/
theorem triple_gtPollerGeventDestroy (hshape : Shape t.poller fd ge ev)
    (hrest : fd ∉ rest.map ReadyEvent.fd) :
    discipline.Triple t (Holding t none rest (served t fd ge ev (ring t.poller)))
      (gtPollerGeventDestroy ge) fun _ g _ => Ctx t none rest g := by
  refine triple_load_bind ?_
  refine (triple_gtPollerEventStop ht _ hshape rfl).bind fun _ => ?_
  refine .of_exists fun ev' => .of_imp fun hshape' => ?_
  refine (triple_listDel hshape').bind fun _ => ?_
  refine triple_load_bind ?_
  rw [show (served t fd ge ev' ⟨.listPoison1, .listPoison2⟩).ev.efd = fd from hshape'.efd]
  refine (triple_close_handed ht hrest).bind fun _ => ?_
  exact triple_free

end Destroy

/-! ## Serving a batch -/

section Serve

variable {t : Thread} {r : ReadyEvent} {rest : List ReadyEvent} {ge : EventPtr}

/-- What the thread knows about an entry of its batch that it has not served yet. -/
theorem Ctx.serve {g : Ghost} {s : Shared} (hinv : Inv g s) (hctx : Ctx t none rest g)
    (hr : r ∈ rest) (hptr : r.ptr = some ge) :
    ∃ ev, Shape t.poller r.fd ge ev ∧
      HoldsEv t (.handed t.poller) ge ev (ring t.poller) g s ∧
      HoldsFd t (.handed t.poller ge) r.fd g s := by
  obtain ⟨ge', hptr', hfd⟩ := hctx.handed r hr
  obtain rfl : ge = ge' := Option.some.inj (hptr.symm.trans hptr')
  have hover := hinv.handed r.fd t.poller ge hfd
  obtain ⟨ev, hmem, hshape⟩ := hover.mem
  have hnode : s.nodes (.node ge) = some (ring t.poller) := by
    refine hover.node.resolve_right ?_
    rw [runner_poller, hctx.dying]
    nofun
  exact ⟨ev, hshape, ⟨runner_poller t, hover.ev, hmem, hnode⟩, ⟨runner_poller t, hfd, nofun⟩⟩

/-- The descriptor of such an entry is open. -/
theorem Ctx.files_ne_none {d : Option EventPtr} {g : Ghost} {s : Shared} (hctx : Ctx t d rest g)
    (hinv : Inv g s) (hr : r ∈ rest) : s.kernel.files r.fd ≠ none := by
  obtain ⟨ge, -, hfd⟩ := hctx.handed r hr
  exact hinv.fd_open r.fd (by simp [hfd])

theorem Ctx.tail {d : Option EventPtr} {g : Ghost} (h : Ctx t d (r :: rest) g) :
    Ctx t d rest g where
  dying := h.dying
  nodup := (List.nodup_cons.mp h.nodup).2
  handed r' hr' := h.handed r' (List.mem_cons_of_mem r hr')
  bits r' hr' := h.bits r' (List.mem_cons_of_mem r hr')

/-- Read the event of an entry. -/
theorem triple_load_entry (hr : r ∈ rest) (hptr : r.ptr = some ge) :
    discipline.Triple t (fun g _ => Ctx t none rest g) (perform (.load ge))
      fun v g _ => Shape t.poller r.fd ge v ∧ Ctx t none rest g := by
  refine .look (fun v g s g' s' h _ hrely => h.imp_right (·.rely hrely)) ?_ ?_
  · intro g s hinv hctx
    obtain ⟨ev, -, hev, -⟩ := hctx.serve hinv hr hptr
    exact hev.check hinv rfl rfl (by simp) trivial (.inl rfl)
  · intro g s a v s' hinv hctx hstep
    obtain ⟨ev, hshape, hev, -⟩ := hctx.serve hinv hr hptr
    obtain ⟨rfl, rfl⟩ := Prod.mk.inj (Option.some.inj hstep)
    refine ⟨rfl, ?_, hctx⟩
    simpa [hev.mem] using hshape

/-- A thread takes up the next entry of its batch. -/
theorem triple_serve {α : Type} {p : Code α} {Q : α → Ghost → Shared → Prop}
    (hptr : r.ptr = some ge)
    (h : ∀ ev, Shape t.poller r.fd ge ev → r.fd ∉ rest.map ReadyEvent.fd →
      discipline.Triple t (Holding t none rest (served t r.fd ge ev (ring t.poller))) p Q) :
    discipline.Triple t (fun g _ => Ctx t none (r :: rest) g) p Q := by
  intro g s hinv hctx
  obtain ⟨ev, hshape, hev, hfd⟩ := hctx.serve hinv List.mem_cons_self hptr
  exact h ev hshape (List.nodup_cons.mp hctx.nodup).1 g s hinv ⟨hctx.tail, hev, hfd⟩

/-- **`gt_datanet_ops_read`.**  The entry is served, and its event may be gone. -/
theorem triple_gtDatanetOpsRead (ht : t.IsDatanet) (hptr : r.ptr = some ge) :
    discipline.Triple t (fun g _ => Ctx t none (r :: rest) g) (gtDatanetOpsRead ge)
      fun _ g _ => Ctx t none rest g := by
  rw [gtDatanetOpsRead_eq]
  have hctx := stable_ctx t none (r :: rest)
  refine (triple_load_entry List.mem_cons_self hptr).bind fun ev => .of_imp fun hshape => ?_
  rw [hshape.efd]
  refine (triple_read hctx _ ht.ne_network fun _ _ hinv h => h.files_ne_none hinv
    List.mem_cons_self).bind fun res => ?_
  rcases res.outcome with ⟨ret, data, errno⟩
  dsimp only
  split
  · split
    · exact .ret fun _ _ _ h => h.tail
    · refine (triple_load_entry List.mem_cons_self hptr).bind fun ev => .of_imp fun _ => ?_
      refine (triple_log hctx _).bind fun _ => ?_
      refine triple_serve hptr fun ev hshape hrest => ?_
      refine (triple_gtPollerEventStop ht _ hshape rfl).bind fun _ => ?_
      refine .of_exists fun ev' => .of_imp fun hshape' => ?_
      refine (triple_gtPollerGeventDestroy ht hshape' hrest).bind fun _ => ?_
      exact .ret fun _ _ _ h => h
  · refine (triple_load_entry List.mem_cons_self hptr).bind fun ev => .of_imp fun _ => ?_
    refine (triple_log hctx _).bind fun _ => ?_
    exact .ret fun _ _ _ h => h.tail

/-- **`gt_network_round_dispatch`.**  The connection is handed over or given up; what is
left to `gt_network_m` is its own batch. -/
theorem triple_gtNetworkRoundDispatch {d : Option EventPtr} {cfd : ℤ} (hzero : cfd ≠ 0) :
    discipline.Triple .network
      (fun g s => Ctx .network d rest g ∧ HoldsFd .network (.fresh .network) cfd g s)
      (gtNetworkRoundDispatch cfd) fun _ g _ => Ctx .network d rest g := by
  have hctx := stable_ctx .network d rest
  have hnot : ¬ Thread.network.IsDatanet := nofun
  refine (triple_createStarted hnot (p := .datanet (datanetIdx cfd)) (.inl hzero)).bind
    fun started => ?_
  cases started with
  | none =>
      refine (triple_log hctx _).bind fun _ => ?_
      exact .ret fun _ _ _ h => h
  | some ret =>
      dsimp only
      split
      · refine (triple_log hctx _).bind fun _ => ?_
        exact .ret fun _ _ _ h => h
      · exact .ret fun _ _ _ h => h

/-- A descriptor that cannot be used is closed by the thread that opened it. -/
theorem triple_closeUnused {d : Option EventPtr} {fd : ℤ} (func : String) (line : ℕ)
    (msg : List LogPiece) (hzero : fd ≠ 0) :
    discipline.Triple t (fun g s => Ctx t d rest g ∧ HoldsFd t (.fresh t) fd g s)
      (closeUnused func line msg fd) fun _ g _ => Ctx t d rest g := by
  refine (triple_log ((stable_ctx t d rest).and (stable_holdsFd t _ fd)) _).bind fun _ => ?_
  refine (triple_close hzero).bind fun _ => ?_
  exact .ret fun _ _ _ h => h

/-- **`gt_network_ops_read`.**  The listening event is looked at before a connection is
accepted and after an `accept` that failed, and never after a connection was handed
over. -/
theorem triple_gtNetworkOpsRead (hr : r ∈ rest) (hptr : r.ptr = some ge) :
    discipline.Triple .network (fun g _ => Ctx .network none rest g) (gtNetworkOpsRead ge)
      fun _ g _ => Ctx .network none rest g := by
  have hctx := stable_ctx .network none rest
  refine (triple_load_entry hr hptr).bind fun ev => .of_imp fun hshape => ?_
  rw [hshape.efd]
  refine (triple_accept ?_).bind fun accepted => ?_
  · intro g s hinv h
    exact h.files_ne_none hinv hr
  cases accepted with
  | error errnum =>
      dsimp only
      split
      · exact .ret fun _ _ _ h => h
      · refine (triple_load_entry hr hptr).bind fun ev => .of_imp fun _ => ?_
        refine (triple_log hctx _).bind fun _ => ?_
        exact .ret fun _ _ _ h => h
  | ok conn =>
      refine .of_imp fun hzero => ?_
      have hheld := hctx.and (stable_holdsFd .network (.fresh .network) conn.cfd)
      have hlast : ∀ g s, Ctx .network none rest g ∧
          HoldsFd .network (.fresh .network) conn.cfd g s → Thread.network = .network →
          LastAccepted s conn.cfd := fun g s h _ => h.2.last rfl
      have hopen : ∀ g s, Inv g s → Ctx .network none rest g ∧
          HoldsFd .network (.fresh .network) conn.cfd g s → s.kernel.files conn.cfd ≠ none :=
        fun g s hinv h => h.2.files_ne_none hinv
      refine (triple_fdCall hheld .setsockopt hopen hlast).bind fun err => ?_
      cases err with
      | some errnum => exact triple_closeUnused _ _ _ hzero
      | none =>
          refine (triple_fdCall hheld .getfl hopen hlast).bind fun _ => ?_
          refine (triple_fdCall hheld .setfl hopen hlast).bind fun err => ?_
          cases err with
          | some errnum => exact triple_closeUnused _ _ _ hzero
          | none =>
              refine (triple_gtNetworkRoundDispatch hzero).bind fun ret => ?_
              split
              · exact .ret fun _ _ _ h => h
              · refine (triple_log hctx _).bind fun _ => ?_
                exact .ret fun _ _ _ h => h

/-- `gt_signal_ops_read`. -/
theorem triple_gtSignalOpsRead (hr : r ∈ rest) (hptr : r.ptr = some ge) :
    discipline.Triple .main (fun g _ => Ctx .main none rest g) (gtSignalOpsRead ge)
      fun _ g _ => Ctx .main none rest g := by
  have hctx := stable_ctx .main none rest
  refine (triple_load_entry hr hptr).bind fun ev => .of_imp fun hshape => ?_
  rw [hshape.efd]
  refine (triple_read hctx _ nofun fun _ _ hinv h => h.files_ne_none hinv hr).bind fun res => ?_
  split
  · refine (triple_log hctx _).bind fun _ => ?_
    exact .ret fun _ _ _ h => h
  · exact .ret fun _ _ _ h => h
  · dsimp only
    split
    · refine (triple_log hctx _).bind fun _ => ?_
      exact .ret fun _ _ _ h => h
    · split
      · refine (triple_log hctx _).bind fun _ => ?_
        exact .ret fun _ _ _ h => h
      · exact .ret fun _ _ _ h => h

/-- **A call of a handler.**  The entry is served; `gt_network_m` and the main thread never
lose its event. -/
theorem triple_callReadFn (hptr : r.ptr = some ge) :
    discipline.Triple t (fun g _ => Ctx t none (r :: rest) g) (callReadFn (readFn t.poller) ge)
      fun _ g _ => Ctx t none rest g ∧ (¬ t.IsDatanet → Ctx t none (r :: rest) g) := by
  cases t with
  | main =>
      exact (triple_gtSignalOpsRead List.mem_cons_self hptr).post
        fun _ _ _ _ h => ⟨h.tail, fun _ => h⟩
  | network =>
      exact (triple_gtNetworkOpsRead List.mem_cons_self hptr).post
        fun _ _ _ _ h => ⟨h.tail, fun _ => h⟩
  | datanet i =>
      exact (triple_gtDatanetOpsRead ⟨i, rfl⟩ hptr).post
        fun _ _ _ _ h => ⟨h, fun hnot => absurd ⟨i, rfl⟩ hnot⟩

/-- The pointer of an entry is not null. -/
theorem triple_deref :
    discipline.Triple t (fun g _ => Ctx t none (r :: rest) g) (perform (.deref r.ptr))
      fun ge g _ => r.ptr = some ge ∧ Ctx t none (r :: rest) g := by
  refine .look (fun ge g s g' s' h _ hr => h.imp_right (·.rely hr)) ?_ ?_
  · intro g s _ hctx
    obtain ⟨ge, hptr, -⟩ := hctx.handed r List.mem_cons_self
    exact check_of_quiet rfl rfl rfl (by simp) (by simp [CallSafe, hptr])
  · intro g s a ge s' _ hctx hstep
    obtain ⟨ge', hptr, hval⟩ := Option.map_eq_some_iff.mp hstep
    obtain ⟨rfl, rfl⟩ := Prod.mk.inj hval
    exact ⟨rfl, hptr, hctx⟩

/-- **The call through `ops.read`.**  The pointer is not null, and the event is there. -/
theorem triple_call (hptr : r.ptr = some ge) :
    discipline.Triple t (fun g _ => Ctx t none (r :: rest) g)
      (perform (.call (some (readFn t.poller)) ge))
      fun fn g _ => readFn t.poller = fn ∧ Ctx t none (r :: rest) g := by
  refine .look (fun fn g s g' s' h _ hr => h.imp_right (·.rely hr)) ?_ ?_
  · intro g s hinv hctx
    obtain ⟨ev, hshape, hev, -⟩ := hctx.serve hinv List.mem_cons_self hptr
    exact check_of_quiet rfl rfl rfl (by simp) ⟨rfl, ev, hev.mem, hshape.read⟩
  · intro g s a fn s' _ hctx hstep
    obtain ⟨rfl, rfl⟩ := Prod.mk.inj (Option.some.inj hstep)
    exact ⟨rfl, rfl, hctx⟩

/-- The last look at an event after its handler failed.  It may be gone if the thread is
a datanet thread. -/
theorem triple_loadEfd (hptr : r.ptr = some ge) :
    discipline.Triple t
      (fun g _ => Ctx t none rest g ∧ (¬ t.IsDatanet → Ctx t none (r :: rest) g))
      (perform (.loadEfd ge)) fun _ g _ => Ctx t none rest g := by
  refine .look (fun _ => stable_ctx t none rest) ?_ ?_
  · intro g s hinv h
    by_cases ht : t.IsDatanet
    · exact ⟨fun hnet => absurd hnet ht.ne_network, trivial,
        fun _ => by simp [Confined, Cmd.node], .inr ht⟩
    · obtain ⟨ev, -, hev, -⟩ := (h.2 ht).serve hinv List.mem_cons_self hptr
      exact hev.check hinv rfl rfl (by simp) trivial (.inl rfl)
  · intro g s a v s' _ h hstep
    obtain ⟨rfl, rfl⟩ := Prod.mk.inj (Option.some.inj hstep)
    exact ⟨rfl, h.1⟩

/-- **One entry of a batch.** -/
theorem triple_epollWaitBody :
    discipline.Triple t (fun g _ => Ctx t none (r :: rest) g) (epollWaitBody r)
      fun _ g _ => Ctx t none rest g := by
  unfold epollWaitBody
  split
  · refine triple_deref.bind fun ge => .of_imp fun hptr => ?_
    refine (triple_load_entry List.mem_cons_self hptr).bind fun ev => .of_imp fun hshape => ?_
    rw [hshape.read]
    refine (triple_call hptr).bind fun fn => .of_imp ?_
    rintro rfl
    refine (triple_callReadFn hptr).bind fun ret => ?_
    split
    · refine (triple_loadEfd hptr).bind fun efd => ?_
      exact triple_log (stable_ctx t none rest) _
    · exact .ret fun _ _ _ h => h.1
  · split
    · rename_i hout
      intro g s _ hctx
      exact absurd (hctx.bits r List.mem_cons_self) hout
    · exact .ret fun _ _ _ h => h.tail

end Serve

/-! ## The threads -/

/-- What a thread knows between two rounds. -/
def Idle (t : Thread) (g : Ghost) (_ : Shared) : Prop := Ctx t none [] g

theorem stable_idle (t : Thread) : discipline.Stable t (Idle t) := stable_ctx t none []

/-- **A round of a thread.** -/
theorem triple_body (t : Thread) :
    discipline.Triple t (Idle t) (body t) fun b g s => b = true → Idle t g s := by
  have hidle := stable_ctx t none []
  refine Discipline.Triple.bind (R := fun _ => Idle t) ?_ fun _ => .ret fun _ _ _ h _ => h
  refine (triple_loadPoller hidle t.poller).bind fun poller => ?_
  refine (triple_loadPoller ((stable_epfdOf t _ _).and hidle) t.poller).bind fun poller' => ?_
  refine ((triple_epollWait (t := t) (e := poller.epfd) poller'.maxe).pre fun _ _ _ h => h.2).bind
    fun ee => ?_
  exact Discipline.Triple.forM (I := fun ee g _ => Ctx t none ee g)
    (fun r rest => triple_epollWaitBody) ee

section Init

variable {t : Thread} {P : Ghost → Shared → Prop} (hP : discipline.Stable t P)
include hP

theorem triple_initListHead_elist {p : PollerId} (hrun : t.IsDatanet → runner p = t) :
    discipline.Triple t P (initListHead (.elist p)) fun _ => P := by
  refine (triple_setNext_elist hP _ hrun).bind fun _ => ?_
  exact triple_setPrev_elist hP _ hrun

/-- **`gt_poller_init`**, by any thread as far as the events are concerned. -/
theorem triple_gtPollerInit (maxe timeout : ℤ) {p : PollerId}
    (hrun : t.IsDatanet → runner p = t) :
    discipline.Triple t P (gtPollerInit maxe timeout p) fun _ => P := by
  have hkeep : ∀ w : PollerWrite, (∀ q, (w.apply q).epfd = q.epfd) →
      discipline.Triple t P (perform (.storePoller p w)) fun _ => P := by
    intro w hw
    refine triple_storePoller hP p w ?_
    intro g s hinv _
    rw [hw]
    exact hinv.epfd p
  have hlook : discipline.Triple t P (perform (.loadPoller (some p))) fun _ => P :=
    (triple_loadPoller hP p).post fun _ _ _ _ h => h.2
  refine (hkeep (.maxe maxe) fun _ => rfl).bind fun _ => ?_
  refine (hkeep (.timeout timeout) fun _ => rfl).bind fun _ => ?_
  refine (triple_epollCreate hP p).bind fun created => ?_
  have hcreated : discipline.Triple t
      (fun g s => (∀ e, created = .ok e → EpfdOf p e g) ∧ P g s)
      (perform (.storePoller p (.epfd (returned created)))) fun _ => P := by
    have hA : discipline.Stable t fun g s => (∀ e, created = .ok e → EpfdOf p e g) ∧ P g s :=
      Discipline.Stable.and (fun _ _ _ _ h _ hr e he => (h e he).rely hr) hP
    refine (triple_storePoller hA p _ ?_).post fun _ _ _ _ h => h.2
    intro g s _ h
    cases created with
    | ok e => exact h.1 e rfl
    | error errnum => exact .inl (by simp [PollerWrite.apply, returned])
  refine hcreated.bind fun _ => ?_
  refine hlook.bind fun poller => ?_
  split
  · refine hlook.bind fun poller => ?_
    refine (triple_log hP _).bind fun _ => ?_
    exact .ret fun _ _ _ h => h
  · refine (triple_mallocEe hP).bind fun ee => ?_
    refine (hkeep (.ee ee) fun _ => rfl).bind fun _ => ?_
    refine hlook.bind fun poller => ?_
    split
    · refine (triple_initListHead_elist hP hrun).bind fun _ => ?_
      exact .ret fun _ _ _ h => h
    · refine (triple_log hP _).bind fun _ => ?_
      exact .ret fun _ _ _ h => h

end Init

section Boot

/-- `gt_network_listenning`, by the main thread. -/
theorem triple_gtNetworkListenning :
    discipline.Triple .main (fun g _ => Ctx .main none [] g) gtNetworkListenning
      fun _ g _ => Ctx .main none [] g := by
  have hctx := stable_ctx .main none []
  have hnot : ¬ Thread.main.IsDatanet := nofun
  refine (triple_socket hctx nofun).bind fun opened => ?_
  cases opened with
  | error errnum =>
      refine ((triple_log hctx _).pre fun _ _ _ h => h.2).bind fun _ => ?_
      exact .ret fun _ _ _ h => h
  | ok lfd =>
      intro g s hinv h
      obtain ⟨hzero, hfd⟩ := h.1 lfd rfl
      have hheld := hctx.and (stable_holdsFd .main (.fresh .main) lfd)
      have hopen : ∀ g s, Inv g s → Ctx .main none [] g ∧ HoldsFd .main (.fresh .main) lfd g s →
          s.kernel.files lfd ≠ none := fun g s hinv h => h.2.files_ne_none hinv
      refine (?_ : discipline.Triple .main
        (fun g s => Ctx .main none [] g ∧ HoldsFd .main (.fresh .main) lfd g s) _ _)
        g s hinv ⟨h.2, hfd⟩
      refine (triple_fdCall hheld .setsockopt hopen nofun).bind fun err => ?_
      cases err with
      | some errnum => exact triple_closeUnused _ _ _ hzero
      | none =>
          refine (triple_fdCall hheld .bind hopen nofun).bind fun err => ?_
          cases err with
          | some errnum => exact triple_closeUnused _ _ _ hzero
          | none =>
              refine (triple_fdCall hheld .listen hopen nofun).bind fun err => ?_
              cases err with
              | some errnum => exact triple_closeUnused _ _ _ hzero
              | none =>
                  refine (triple_createStarted hnot (p := .network) (.inl hzero)).bind
                    fun started => ?_
                  cases started with
                  | none =>
                      refine (triple_log hctx _).bind fun _ => ?_
                      exact .ret fun _ _ _ h => h
                  | some ret =>
                      dsimp only
                      split
                      · refine (triple_log hctx _).bind fun _ => ?_
                        exact .ret fun _ _ _ h => h
                      · refine (triple_log hctx _).bind fun _ => ?_
                        exact .ret fun _ _ _ h => h

/-- **The main thread up to its loop.**  The signal event goes to the core poller, which
the main thread runs itself, and the listening event to `gt_network_m`. -/
theorem triple_mainStart (gl : Globals) :
    discipline.Triple .main
      (fun g s => Ctx .main none [] g ∧ HoldsFd .main (.fresh .main) gl.pipefd g s)
      (mainStart gl) fun b g s => b = true → Idle .main g s := by
  have hctx := stable_ctx .main none []
  have hnot : ¬ Thread.main.IsDatanet := nofun
  have hheld := hctx.and (stable_holdsFd .main (.fresh .main) gl.pipefd)
  refine (triple_gtPollerInit hheld _ _ fun h => absurd h hnot).bind fun ret => ?_
  split
  · exact .ret fun _ _ _ _ => nofun
  · refine Discipline.Triple.bind (R := fun _ g _ => Ctx .main none [] g) ?_ fun ret => ?_
    · refine (triple_createStarted hnot (p := .core) (.inr rfl)).bind fun started => ?_
      cases started with
      | none =>
          refine (triple_log hctx _).bind fun _ => ?_
          exact .ret fun _ _ _ h => h
      | some ret => exact .ret fun _ _ _ h => h
    · split
      · exact .ret fun _ _ _ _ => nofun
      · refine Discipline.Triple.bind (R := fun _ g _ => Ctx .main none [] g) ?_ fun ret => ?_
        · refine (triple_gtPollerInit hctx _ _ fun h => absurd h hnot).bind fun ret => ?_
          split
          · exact .ret fun _ _ _ h => h
          · refine triple_gtNetworkListenning.bind fun ret => ?_
            split
            · refine (triple_log hctx _).bind fun _ => ?_
              exact .ret fun _ _ _ h => h
            · exact .ret fun _ _ _ h => h
        · exact .ret fun _ _ _ h _ => h

/-- A datanet thread up to its loop. -/
theorem triple_datanetStart (i : Fin 4) :
    discipline.Triple (.datanet i) (fun g _ => Ctx (.datanet i) none [] g) (datanetStart i)
      fun b g s => b = true → Idle (.datanet i) g s := by
  have hctx := stable_ctx (.datanet i) none []
  refine (triple_gtPollerInit hctx _ _ fun _ => rfl).bind fun ret => ?_
  split
  · refine (triple_log hctx _).bind fun _ => ?_
    exact .ret fun _ _ _ _ => nofun
  · exact .ret fun _ _ _ h _ => h

/-- Before the phase functions run, the main thread owns the read end of the signal
pipe, and nothing else is owned. -/
def bootGhost (gl : Globals) : Ghost where
  ev _ := none
  fd fd := if fd = gl.pipefd then some (.fresh .main) else none
  epoll _ := none
  dying _ := none

variable {gl : Globals} {c c' : Config}

theorem Booted.inv (h : Booted gl c) : Inv (bootGhost gl) c.shared where
  elist := h.elists
  zero_open := h.zero_open
  zero_owner y hy := by
    obtain ⟨-, rfl⟩ : 0 = gl.pipefd ∧ .fresh .main = y := by simpa [bootGhost] using hy
    rfl
  ev_live ge hge := absurd rfl hge
  fd_open fd hfd := by
    have hpipe : fd = gl.pipefd := by
      by_contra hne
      simp [bootGhost, hne] at hfd
    rw [hpipe]
    exact h.pipe_open
  epoll_open e p he := by simp [bootGhost] at he
  epolls e he := by simp [h.epolls_eq] at he
  epfd p := .inl (Int.le_of_eq (h.epfd_eq p))
  registered e fd reg hset := by simp [h.sets_eq] at hset
  handed fd p ge hfd := by
    by_cases hpipe : fd = gl.pipefd <;> simp [bootGhost, hpipe] at hfd

/-- **The threads keep the discipline from the start.** -/
theorem Booted.sound (h : Booted gl c) : discipline.Sound Idle c := by
  have hctx : ∀ t, Ctx t none [] (bootGhost gl) := fun t => ⟨rfl, by simp, by simp, by simp⟩
  refine ⟨bootGhost gl, h.inv, ?_⟩
  intro t g s hinv hrely
  rw [h.code_eq]
  have hctx' := (hctx t).rely hrely
  cases t with
  | main =>
      have hpipe : HoldsFd .main (.fresh .main) gl.pipefd (bootGhost gl) c.shared :=
        ⟨rfl, by simp [bootGhost], nofun⟩
      exact triple_mainStart gl g s hinv ⟨hctx', hpipe.rely hrely⟩
  | network => exact fun _ => hctx'
  | datanet i => exact triple_datanetStart i g s hinv hctx'

/-- The discipline holds in every state of every run. -/
theorem sound_of_booted (h : Booted gl c) {ops : List (Thread × Reply)}
    (hrun : threadSystem.system.Run c ops c') : discipline.Sound Idle c' :=
  h.sound.run stable_idle triple_body hrun

/-- **The hand-over of a connection is safe.**  In every state of every run, whatever
`gt_network_m` is about to do touches no event that was destroyed or that a datanet thread
may destroy, and uses no connection that was closed: its descriptor still names the file
that `accept` returned. -/
theorem handover_safe (h : Booted gl c) {ops : List (Thread × Reply)}
    (hrun : threadSystem.system.Run c ops c') {cmd : Cmd}
    (hnext : (c'.code .network).next = some cmd) : HandoverSafe cmd c'.shared :=
  ((sound_of_booted h hrun).check hnext).handover rfl

/-- A connection on descriptor 12 and its event, right before they are handed over. -/
theorem handover_safe_epollCtl : ∃ c,
    threadSystem.system.Run bootConfig
      (startSchedule ++ datanetSchedule 0 8 ++ connectSchedule 12 (some 3) ++ alone .network 19) c ∧
    (c.code .network).next = some (.epollCtl 8 .add 12 3) ∧
    HandoverSafe (.epollCtl 8 .add 12 3) c.shared := by
  refine GuardedSystem.exists_run_of_execAll
    (fun c => (c.code .network).next = some (.epollCtl 8 .add 12 3)) (by decide +kernel) ?_
  intro c hrun hnext
  exact ⟨hnext, handover_safe booted_bootConfig hrun hnext⟩

/-- Every registration in the epoll set of a poller leads to a live event of that poller
that has a read handler, and asks for nothing but `EPOLLIN`. -/
def RegistrationsGood (s : Shared) : Prop :=
  ∀ p fd reg, s.kernel.sets (s.pollers p).epfd fd = some reg → ∃ ge ev,
    reg.data = some ge ∧ s.events ge = some ev ∧ ev.gpoller = some p ∧ ev.ops.read ≠ none ∧
      reg.events &&& ~~~epollin = 0

theorem Inv.registrationsGood {g : Ghost} {s : Shared} (hinv : Inv g s) : RegistrationsGood s := by
  intro p fd reg hset
  obtain ⟨q, ge, he, hfd, hdata, hmask⟩ := hinv.registered _ fd reg hset
  obtain rfl : q = p := EpfdOf.eq (hinv.epfd p) hinv he
  obtain ⟨ev, hmem, hshape⟩ := (hinv.handed fd q ge hfd).mem
  exact ⟨ge, ev, hdata, hmem, hshape.gpoller, by simp [hshape.read], hmask⟩

/-- **Registrations and handler calls.**  In every state of every run the registrations
are good, and a thread that is about to call a handler does so through the `ops.read` of
an event that is live at that moment; no thread is about to follow a null pointer. -/
theorem registrations_good (h : Booted gl c) {ops : List (Thread × Reply)}
    (hrun : threadSystem.system.Run c ops c') :
    RegistrationsGood c'.shared ∧
      ∀ t cmd, (c'.code t).next = some cmd → CallSafe t cmd c'.shared := by
  have hsound := sound_of_booted h hrun
  constructor
  · obtain ⟨g, hinv, -⟩ := hsound
    exact hinv.registrationsGood
  · intro t cmd hnext
    exact (hsound.check hnext).call

/-- A batch of two connections: the first one is at its end and its event is destroyed,
and then the handler of the second one is called. -/
theorem registrations_good_batch : ∃ c,
    threadSystem.system.Run bootConfig
      (startSchedule ++ datanetSchedule 0 8 ++ connectSchedule 12 (some 3) ++ alone .network 21 ++
        connectSchedule 16 (some 4) ++ alone .network 21 ++ alone (.datanet 0) 3 ++
        [(.datanet 0, { ready := [⟨12, epollin, some 3⟩, ⟨16, epollin, some 4⟩] })] ++
        alone (.datanet 0) 30) c ∧
    c.shared.events 3 = none ∧ RegistrationsGood c.shared ∧
    (c.code (.datanet 0)).next = some (.call (some .gtDatanetOpsRead) 4) ∧
    CallSafe (.datanet 0) (.call (some .gtDatanetOpsRead) 4) c.shared := by
  refine GuardedSystem.exists_run_of_execAll
    (fun c => c.shared.events 3 = none ∧
      (c.code (.datanet 0)).next = some (.call (some .gtDatanetOpsRead) 4)) (by decide +kernel) ?_
  intro c hrun hend
  obtain ⟨hgood, hcall⟩ := registrations_good booted_bootConfig hrun
  exact ⟨hend.1, hgood, hend.2, hcall _ _ hend.2⟩

end Boot

end GuitarTea.Threads
