import GuitarTea.EpollWait
import GuitarTea.Threads

/-!
# Who owns an event

The threads share their events without a lock, so each event and each descriptor has
one thread that may touch it.  A new event belongs to the thread that created it.  A
successful `EPOLL_CTL_ADD` hands the event and its descriptor over to the thread that
runs the poller, and this is the last that the creator knows of either.

`Inv` ties the registrations of the kernel to the events through this ownership, and
`Rely` says what the other threads leave alone.  The rest of the module has one rule
for each kind of command.

## Main definitions

* `Ghost`, `Inv`, `Rely` — ownership, the invariant, and interference.
* `HandoverSafe`, `CallSafe`, `Confined`, `Intact`, `Check` — what is checked before a
  command.
* `discipline` — the rely–guarantee discipline of the threads.
* `Ctx`, `HoldsEv`, `HoldsFd`, `Holding` — what a thread knows about its own things.
-/

namespace GuitarTea.Threads

/-! ## Ownership -/

/-- An event that a thread has made and not handed over, or that is registered with a
poller. -/
inductive EvState
  | fresh (t : Thread)
  | handed (p : PollerId)

/-- The thread that may touch the event. -/
def EvState.owner : EvState → Thread
  | .fresh t => t
  | .handed p => runner p

/-- A descriptor that a thread has opened and not handed over, or that is registered
with a poller together with its event. -/
inductive FdState
  | fresh (t : Thread)
  | handed (p : PollerId) (ge : EventPtr)

/-- The thread that may use the descriptor. -/
def FdState.owner : FdState → Thread
  | .fresh t => t
  | .handed p _ => runner p

/-- Who owns what, which poller an epoll descriptor was created for, and the event that
a thread has begun to unlink. -/
structure Ghost where
  ev : EventPtr → Option EvState
  fd : ℤ → Option FdState
  epoll : ℤ → Option PollerId
  dying : Thread → Option EventPtr

/-- The handler of the events of a poller. -/
def readFn : PollerId → GtReadFn
  | .core => .gtSignalOpsRead
  | .network => .gtNetworkOpsRead
  | .datanet _ => .gtDatanetOpsRead

/-- The `list` member of an event on a poller: both neighbours are the poller's list. -/
def ring (p : PollerId) : Link NodeAddr := ⟨.elist p, .elist p⟩

/-- The memory of an event that is registered with a poller. -/
structure Shape (p : PollerId) (fd : ℤ) (ge : EventPtr) (ev : EventMem) : Prop where
  efd : ev.efd = fd
  gpoller : ev.gpoller = some p
  read : ev.ops.read = some (readFn p)
  data : ev.e.data = some ge
  mask : ev.e.events &&& ~~~epollin = 0

/-- A descriptor and its event that were handed over: the event is there, has its shape,
and is linked unless its thread has begun to unlink it. -/
structure HandedOver (g : Ghost) (s : Shared) (fd : ℤ) (p : PollerId) (ge : EventPtr) : Prop where
  ev : g.ev ge = some (.handed p)
  mem : ∃ ev, s.events ge = some ev ∧ Shape p fd ge ev
  node : s.nodes (.node ge) = some (ring p) ∨ g.dying (runner p) = some ge

/-- **The invariant.**  A registration belongs to the poller of its epoll set, was handed
over together with its event, and asks for nothing but `EPOLLIN`. -/
structure Inv (g : Ghost) (s : Shared) : Prop where
  elist : ∀ p, s.nodes (.elist p) ≠ none
  zero_open : s.kernel.files 0 ≠ none
  zero_owner : ∀ y, g.fd 0 = some y → y.owner = .main
  ev_live : ∀ ge, g.ev ge ≠ none → s.events ge ≠ none
  fd_open : ∀ fd, g.fd fd ≠ none → s.kernel.files fd ≠ none
  epoll_open : ∀ e p, g.epoll e = some p → 0 < e ∧ s.kernel.files e ≠ none ∧ g.fd e = none
  epolls : ∀ e, s.epolls e = true → g.epoll e ≠ none
  epfd : ∀ p, (s.pollers p).epfd ≤ 0 ∨ g.epoll (s.pollers p).epfd = some p
  registered : ∀ e fd reg, s.kernel.sets e fd = some reg → ∃ p ge,
    g.epoll e = some p ∧ g.fd fd = some (.handed p ge) ∧ reg.data = some ge ∧
      reg.events &&& ~~~epollin = 0
  handed : ∀ fd p ge, g.fd fd = some (.handed p ge) → HandedOver g s fd p ge

/-- What a thread relies on while the others run: they leave its events and its
descriptors alone. -/
structure Rely (u : Thread) (g : Ghost) (s : Shared) (g' : Ghost) (s' : Shared) : Prop where
  ev : ∀ ge x, g.ev ge = some x → x.owner = u → g'.ev ge = some x ∧
    s'.events ge = s.events ge ∧ s'.nodes (.node ge) = s.nodes (.node ge)
  fd : ∀ fd y, g.fd fd = some y → y.owner = u → g'.fd fd = some y ∧
    s'.kernel.files fd = s.kernel.files fd
  dying : g'.dying u = g.dying u
  epoll : ∀ e p, g.epoll e = some p → g'.epoll e = some p
  accepted : u = .network → s'.kernel.accepted = s.kernel.accepted

theorem Rely.refl (u : Thread) (g : Ghost) (s : Shared) : Rely u g s g s where
  ev _ _ h _ := ⟨h, rfl, rfl⟩
  fd _ _ h _ := ⟨h, rfl⟩
  dying := rfl
  epoll _ _ h := h
  accepted _ := rfl

theorem Rely.trans {u : Thread} {g g' g'' : Ghost} {s s' s'' : Shared} (h : Rely u g s g' s')
    (h' : Rely u g' s' g'' s'') : Rely u g s g'' s'' where
  ev ge x hx ho := by
    obtain ⟨hx', hmem, hnode⟩ := h.ev ge x hx ho
    obtain ⟨hx'', hmem', hnode'⟩ := h'.ev ge x hx' ho
    exact ⟨hx'', hmem'.trans hmem, hnode'.trans hnode⟩
  fd fd y hy ho := by
    obtain ⟨hy', hfile⟩ := h.fd fd y hy ho
    obtain ⟨hy'', hfile'⟩ := h'.fd fd y hy' ho
    exact ⟨hy'', hfile'.trans hfile⟩
  dying := h'.dying.trans h.dying
  epoll e p he := h'.epoll e p (h.epoll e p he)
  accepted hu := (h'.accepted hu).trans (h.accepted hu)

/-! ## What is checked before a command -/

/-- The event whose memory a command reads or writes. -/
def Cmd.touches : Cmd → Option EventPtr
  | .memset ge | .load ge | .loadEfd ge | .store ge _ | .free ge | .epollCtl _ _ _ ge => some ge
  | .getNext (.node ge) | .getPrev (.node ge) => some ge
  | .setNext (.node ge) _ | .setPrev (.node ge) _ => some ge
  | _ => none

/-- The descriptor of a connection that a command uses. -/
def Cmd.uses : Cmd → Option ℤ
  | .epollCtl _ _ fd _ | .fdCall _ fd | .read fd _ | .close fd => some fd
  | _ => none

/-- The list cell that a command reads or writes. -/
def Cmd.node : Cmd → Option NodeAddr
  | .memset ge => some (.node ge)
  | .getNext n | .getPrev n | .setNext n _ | .setPrev n _ => some n
  | _ => none

/-- The descriptor still names the file that the last `accept` returned under it. -/
def LastAccepted (s : Shared) (fd : ℤ) : Prop :=
  ∃ file, s.kernel.accepted.getLast? = some (fd, file) ∧ s.kernel.files fd = some file

/-- The event is registered with a datanet poller. -/
def OnDatanet (s : Shared) (ge : EventPtr) : Prop :=
  ∃ i fd reg, s.kernel.sets (s.pollers (.datanet i)).epfd fd = some reg ∧ reg.data = some ge

/-- The command touches no event that was destroyed, and none that a datanet thread may
destroy at any moment; it uses no descriptor that was closed, be its number open again or
not. -/
structure HandoverSafe (c : Cmd) (s : Shared) : Prop where
  live : ∀ ge, c.touches = some ge → s.events ge ≠ none ∧ ¬ OnDatanet s ge
  listening : ∀ fd, c = .accept fd → s.kernel.files fd ≠ none
  held : ∀ fd, c.uses = some fd → LastAccepted s fd

/-- The command follows no null pointer and does not leave an array, and a handler is called
through the `ops.read` of an event that is there. -/
def CallSafe (t : Thread) (c : Cmd) (s : Shared) : Prop :=
  match c with
  | .deref ptr => ptr ≠ none
  | .loadPoller p => p ≠ none
  | .call fn ge => fn = some (readFn t.poller) ∧ ∃ ev, s.events ge = some ev ∧ ev.ops.read = fn
  | .callWrite _ _ | .fault => False
  | _ => True

/-- The list cell belongs to a poller that another thread runs. -/
def Foreign (t : Thread) (n : NodeAddr) (s : Shared) : Prop :=
  match n with
  | .elist p => runner p ≠ t
  | .node ge => ∃ ev p, s.events ge = some ev ∧ ev.gpoller = some p ∧ runner p ≠ t
  | _ => False

/-- The command touches neither the list nor an event of a poller that another thread
runs. -/
def Confined (t : Thread) (c : Cmd) (s : Shared) : Prop :=
  ∀ n, c.node = some n → ¬ Foreign t n s

/-- A datanet thread. -/
def Thread.IsDatanet (t : Thread) : Prop := ∃ i, t = .datanet i

/-- The list cell is there: the list of a poller, or the cell of a live event.  A null
pointer and the two poisons lead to no cell. -/
def LiveNode (n : NodeAddr) (s : Shared) : Prop :=
  match n with
  | .elist p => s.nodes (.elist p) ≠ none
  | .node ge => s.events ge ≠ none ∧ s.nodes (.node ge) ≠ none
  | _ => False

/-- The command reads, writes and frees what is there, and uses a descriptor that is
open.  A datanet thread may find an event gone when it reads it for the line of the log
about a handler that failed, and only then. -/
def Intact (t : Thread) (c : Cmd) (s : Shared) : Prop :=
  match c with
  | .loadEfd ge => s.events ge ≠ none ∨ t.IsDatanet
  | .memset ge | .load ge | .store ge _ | .free ge | .call _ ge => s.events ge ≠ none
  | .getNext n | .getPrev n | .setNext n _ | .setPrev n _ => LiveNode n s
  | .epollCtl _ _ fd ge => s.events ge ≠ none ∧ s.kernel.files fd ≠ none
  | .accept fd | .fdCall _ fd | .read fd _ | .close fd => s.kernel.files fd ≠ none
  | _ => True

/-- What is checked before a command of a thread. -/
structure Check (t : Thread) (c : Cmd) (s : Shared) : Prop where
  handover : t = .network → HandoverSafe c s
  call : CallSafe t c s
  confined : t.IsDatanet → Confined t c s
  intact : Intact t c s

/-- The discipline of the threads. -/
def discipline : Discipline Thread Cmd Cmd.Val Reply Shared Ghost where
  respond := respond
  inv := Inv
  rely := Rely
  check := Check
  rely_refl := Rely.refl
  rely_trans := Rely.trans

/-- A command that touches no event, no connection and no list cell. -/
theorem check_of_quiet {t : Thread} {c : Cmd} {s : Shared} (ht : c.touches = none)
    (hu : c.uses = none) (hn : c.node = none) (ha : ∀ fd, c ≠ .accept fd)
    (hc : CallSafe t c s) : Check t c s where
  handover _ :=
    ⟨by simp [ht], fun fd h => absurd h (ha fd), by simp [hu]⟩
  call := hc
  confined _ := by simp [Confined, hn]
  intact := by
    cases c with
    | memset ge | load ge | loadEfd ge | store ge w | free ge => cases ht
    | getNext n | getPrev n | setNext n v | setPrev n v => cases hn
    | epollCtl epfd op fd ge | fdCall fc fd | read fd count | close fd => cases hu
    | accept fd => exact absurd rfl (ha fd)
    | call fn ge =>
        obtain ⟨-, ev, hev, -⟩ := hc
        simp [Intact, hev]
    | _ => trivial

/-! ## What a thread knows -/

/-- A thread between the entries of a batch: what it has begun to unlink, and the
entries it has still to serve. -/
structure Ctx (t : Thread) (d : Option EventPtr) (rest : List ReadyEvent) (g : Ghost) : Prop where
  dying : g.dying t = d
  nodup : (rest.map ReadyEvent.fd).Nodup
  handed : ∀ r ∈ rest, ∃ ge, r.ptr = some ge ∧ g.fd r.fd = some (.handed t.poller ge)
  bits : ∀ r ∈ rest, r.events &&& epollout = 0

/-- A thread owns an event and knows its memory. -/
structure HoldsEv (t : Thread) (x : EvState) (ge : EventPtr) (ev : EventMem)
    (l : Link NodeAddr) (g : Ghost) (s : Shared) : Prop where
  owner : x.owner = t
  state : g.ev ge = some x
  mem : s.events ge = some ev
  node : s.nodes (.node ge) = some l

/-- A thread owns a descriptor; a connection of `gt_network_m` is the last one accepted. -/
structure HoldsFd (t : Thread) (y : FdState) (fd : ℤ) (g : Ghost) (s : Shared) : Prop where
  owner : y.owner = t
  state : g.fd fd = some y
  last : y = .fresh .network → LastAccepted s fd

/-- An event in the hands of a thread: its ownership, its descriptor and its memory. -/
structure Held where
  x : EvState
  y : FdState
  fd : ℤ
  ge : EventPtr
  ev : EventMem
  l : Link NodeAddr

/-- A thread at work on an event. -/
structure Holding (t : Thread) (d : Option EventPtr) (rest : List ReadyEvent) (h : Held)
    (g : Ghost) (s : Shared) : Prop where
  ctx : Ctx t d rest g
  ev : HoldsEv t h.x h.ge h.ev h.l g s
  fd : HoldsFd t h.y h.fd g s

/-- The epoll descriptor a thread has read from a poller. -/
def EpfdOf (p : PollerId) (e : ℤ) (g : Ghost) : Prop := e ≤ 0 ∨ g.epoll e = some p

/-- If it was created for a poller, then for that one. -/
theorem EpfdOf.eq {p q : PollerId} {e : ℤ} {g : Ghost} {s : Shared} (h : EpfdOf p e g)
    (hinv : Inv g s) (hq : g.epoll e = some q) : q = p := by
  rcases h with hle | hp
  · have hpos := (hinv.epoll_open e q hq).1
    omega
  · exact Option.some.inj (hq.symm.trans hp)

section Stable

variable {t : Thread} {d : Option EventPtr} {rest : List ReadyEvent} {g g' : Ghost} {s s' : Shared}

theorem Ctx.rely (h : Ctx t d rest g) (hr : Rely t g s g' s') : Ctx t d rest g' where
  dying := hr.dying.trans h.dying
  nodup := h.nodup
  handed r hrest := by
    obtain ⟨ge, hptr, hfd⟩ := h.handed r hrest
    exact ⟨ge, hptr, (hr.fd r.fd _ hfd (runner_poller t)).1⟩
  bits := h.bits

theorem HoldsEv.rely {x : EvState} {ge : EventPtr} {ev : EventMem} {l : Link NodeAddr}
    (h : HoldsEv t x ge ev l g s) (hr : Rely t g s g' s') : HoldsEv t x ge ev l g' s' := by
  obtain ⟨hstate, hmem, hnode⟩ := hr.ev ge x h.state h.owner
  exact ⟨h.owner, hstate, hmem.trans h.mem, hnode.trans h.node⟩

theorem HoldsFd.rely {y : FdState} {fd : ℤ} (h : HoldsFd t y fd g s) (hr : Rely t g s g' s') :
    HoldsFd t y fd g' s' := by
  obtain ⟨hstate, hfile⟩ := hr.fd fd y h.state h.owner
  refine ⟨h.owner, hstate, ?_⟩
  intro hy
  obtain ⟨file, hlast, hopen⟩ := h.last hy
  have ht : t = .network := by
    rw [← h.owner, hy]
    rfl
  exact ⟨file, (hr.accepted ht).symm ▸ hlast, hfile.trans hopen⟩

/-- A descriptor that a thread owns is open. -/
theorem HoldsFd.files_ne_none {y : FdState} {fd : ℤ} (h : HoldsFd t y fd g s) (hinv : Inv g s) :
    s.kernel.files fd ≠ none :=
  hinv.fd_open fd (by simp [h.state])

theorem Holding.rely {h : Held} (hh : Holding t d rest h g s) (hr : Rely t g s g' s') :
    Holding t d rest h g' s' :=
  ⟨hh.ctx.rely hr, hh.ev.rely hr, hh.fd.rely hr⟩

theorem EpfdOf.rely {p : PollerId} {e : ℤ} (h : EpfdOf p e g) (hr : Rely t g s g' s') :
    EpfdOf p e g' :=
  h.imp_right (hr.epoll e p)

variable (t d rest)

theorem stable_ctx : discipline.Stable t fun g _ => Ctx t d rest g :=
  fun _ _ _ _ h _ hr => h.rely hr

theorem stable_holdsEv (x : EvState) (ge : EventPtr) (ev : EventMem) (l : Link NodeAddr) :
    discipline.Stable t (HoldsEv t x ge ev l) :=
  fun _ _ _ _ h _ hr => h.rely hr

theorem stable_holdsFd (y : FdState) (fd : ℤ) : discipline.Stable t (HoldsFd t y fd) :=
  fun _ _ _ _ h _ hr => h.rely hr

theorem stable_holding (h : Held) : discipline.Stable t (Holding t d rest h) :=
  fun _ _ _ _ h _ hr => h.rely hr

theorem stable_epfdOf (p : PollerId) (e : ℤ) : discipline.Stable t fun g _ => EpfdOf p e g :=
  fun _ _ _ _ h _ hr => h.rely hr

end Stable

/-! ## Memory of the thread's own event -/

/-- Overwrite an event and its list cell. -/
def Shared.write (s : Shared) (ge : EventPtr) (ev : EventMem) (l : Link NodeAddr) : Shared :=
  { s with
    events := Function.update s.events ge (some ev)
    nodes := Function.update s.nodes (.node ge) (some l) }

theorem setEvent_eq_write {s : Shared} {ge : EventPtr} {ev : EventMem} {l : Link NodeAddr}
    (hmem : s.events ge = some ev) (hnode : s.nodes (.node ge) = some l)
    (f : EventMem → EventMem) : s.setEvent ge f = s.write ge (f ev) l := by
  simp [Shared.setEvent, Shared.write, hmem, ← hnode]

theorem setNode_eq_write {s : Shared} {ge : EventPtr} {ev : EventMem} {l : Link NodeAddr}
    (hmem : s.events ge = some ev) (hnode : s.nodes (.node ge) = some l)
    (f : Link NodeAddr → Link NodeAddr) : s.setNode (.node ge) f = s.write ge ev (f l) := by
  simp [Shared.setNode, Shared.write, hnode, ← hmem]

/-- What has to hold of the new memory of an event: nothing while it is fresh, and its
shape once it was handed over. -/
def Held.Fits (h : Held) (d : Option EventPtr) : Prop :=
  match h.x, h.y with
  | .fresh _, _ => True
  | .handed p, .handed q ge => q = p ∧ ge = h.ge ∧ Shape p h.fd h.ge h.ev ∧
      (h.l = ring p ∨ d = some h.ge)
  | .handed _, .fresh _ => False

section Write

variable {t : Thread} {d d' : Option EventPtr} {rest : List ReadyEvent} {h : Held} {g : Ghost}
  {s : Shared} {ev' : EventMem} {l' : Link NodeAddr}

/-- The same ghost state, with another event being unlinked. -/
def Ghost.unlink (g : Ghost) (t : Thread) (d : Option EventPtr) : Ghost :=
  { g with dying := Function.update g.dying t d }

/-- A descriptor is handed over together with one event, whose `efd` it is. -/
theorem Inv.handed_inj (hinv : Inv g s) {fd fd' : ℤ} {p p' : PollerId} {ge : EventPtr}
    (hfd : g.fd fd = some (.handed p ge)) (hfd' : g.fd fd' = some (.handed p' ge)) : fd = fd' := by
  obtain ⟨ev, hmem, hshape⟩ := (hinv.handed fd p ge hfd).mem
  obtain ⟨ev', hmem', hshape'⟩ := (hinv.handed fd' p' ge hfd').mem
  obtain rfl : ev = ev' := Option.some.inj (hmem.symm.trans hmem')
  exact hshape.efd.symm.trans hshape'.efd

/-- A write to the thread's own event keeps the invariant. -/
theorem Inv.write (hinv : Inv g s) (hh : Holding t d rest h g s)
    (hd : d' = d ∨ d = none) (hfit : { h with ev := ev', l := l' }.Fits d') :
    Inv (g.unlink t d') (s.write h.ge ev' l') where
  elist p := by simpa [Shared.write] using hinv.elist p
  zero_open := hinv.zero_open
  zero_owner := hinv.zero_owner
  ev_live ge hge := by
    by_cases hne : ge = h.ge
    · simp [Shared.write, hne]
    · simpa [Shared.write, hne] using hinv.ev_live ge hge
  fd_open := hinv.fd_open
  epoll_open := hinv.epoll_open
  epolls := hinv.epolls
  epfd := hinv.epfd
  registered := hinv.registered
  handed fd p ge hfd := by
    have hold := hinv.handed fd p ge hfd
    by_cases hne : ge = h.ge
    · subst hne
      have hx : h.x = .handed p := Option.some.inj (hh.ev.state.symm.trans hold.ev)
      have howner : runner p = t := by
        rw [← hh.ev.owner, hx]
        rfl
      cases hy : h.y with
      | fresh u => simp [Held.Fits, hx, hy] at hfit
      | handed q ge =>
          obtain ⟨rfl, rfl, hshape, hlink⟩ : q = p ∧ ge = h.ge ∧ Shape p h.fd h.ge ev' ∧
              (l' = ring p ∨ d' = some h.ge) := by simpa [Held.Fits, hx, hy] using hfit
          obtain rfl : fd = h.fd := hinv.handed_inj hfd (hy ▸ hh.fd.state)
          refine ⟨hold.ev, ⟨ev', by simp [Shared.write], hshape⟩, ?_⟩
          refine hlink.imp (fun hl => by simp [Shared.write, hl]) fun hdying => ?_
          simpa [Ghost.unlink, howner] using hdying
    · refine ⟨hold.ev, by simpa [Shared.write, hne] using hold.mem, ?_⟩
      refine hold.node.imp (fun hring => by simpa [Shared.write, hne] using hring) fun hdying => ?_
      by_cases hp : runner p = t
      · have hdt : d = some ge := by rw [← hh.ctx.dying, ← hp, hdying]
        rcases hd with rfl | rfl
        · simpa [Ghost.unlink, hp] using hdt
        · cases hdt
      · simpa [Ghost.unlink, hp] using hdying

/-- The other threads do not notice a write to an event of this one. -/
theorem rely_write (hh : Holding t d rest h g s) {u : Thread} (hu : u ≠ t) :
    Rely u g s (g.unlink t d') (s.write h.ge ev' l') where
  ev ge x hx ho := by
    have hne : ge ≠ h.ge := by
      rintro rfl
      obtain rfl : h.x = x := Option.some.inj (hh.ev.state.symm.trans hx)
      exact hu (ho.symm.trans hh.ev.owner)
    exact ⟨hx, by simp [Shared.write, hne], by simp [Shared.write, hne]⟩
  fd _ _ hy _ := ⟨hy, rfl⟩
  dying := by simp [Ghost.unlink, hu]
  epoll _ _ he := he
  accepted _ := rfl

/-- After the write the thread holds the event with its new memory. -/
theorem Holding.write (hh : Holding t d rest h g s) :
    Holding t d' rest { h with ev := ev', l := l' } (g.unlink t d') (s.write h.ge ev' l') where
  ctx := ⟨by simp [Ghost.unlink], hh.ctx.nodup, hh.ctx.handed, hh.ctx.bits⟩
  ev := ⟨hh.ev.owner, hh.ev.state, by simp [Shared.write], by simp [Shared.write]⟩
  fd := ⟨hh.fd.owner, hh.fd.state, hh.fd.last⟩

/-- **A command that writes the thread's own event.** -/
theorem triple_write {c : Cmd} (ev' : EventMem) (l' : Link NodeAddr) (hd : d' = d ∨ d = none)
    (hfit : { h with ev := ev', l := l' }.Fits d')
    (hcheck : ∀ g s, Inv g s → Holding t d rest h g s → Check t c s)
    (hresp : ∀ s a, s.events h.ge = some h.ev → s.nodes (.node h.ge) = some h.l →
      ∃ v, respond c a s = some (v, s.write h.ge ev' l')) :
    discipline.Triple t (Holding t d rest h) (perform c)
      fun _ => Holding t d' rest { h with ev := ev', l := l' } := by
  refine .perform (fun _ _ _ _ _ hh _ hr => hh.rely hr) hcheck ?_
  intro g s a v s' hinv hh hstep
  obtain ⟨u, hu⟩ := hresp s a hh.ev.mem hh.ev.node
  obtain ⟨rfl, rfl⟩ := Prod.mk.inj (Option.some.inj (hu.symm.trans hstep))
  exact ⟨g.unlink t d', hinv.write hh hd hfit, fun u hu => rely_write hh hu, hh.write⟩

/-- An event of `gt_network_m` is registered with no datanet poller. -/
theorem HoldsEv.not_onDatanet {x : EvState} {ge : EventPtr} {ev : EventMem} {l : Link NodeAddr}
    (hev : HoldsEv t x ge ev l g s) (hinv : Inv g s) (hnet : t = .network) : ¬ OnDatanet s ge := by
  rintro ⟨i, fd, reg, hset, hdata⟩
  obtain ⟨p, ge', he, hfd, hdata', -⟩ := hinv.registered _ fd reg hset
  obtain rfl : ge = ge' := Option.some.inj (hdata.symm.trans hdata')
  obtain rfl : x = .handed p :=
    Option.some.inj (hev.state.symm.trans (hinv.handed fd p ge hfd).ev)
  have hp : p = .datanet i := EpfdOf.eq (hinv.epfd (.datanet i)) hinv he
  have howner := hev.owner
  rw [hp, hnet] at howner
  cases howner

/-- What a thread does to its own event is done to live memory. -/
theorem HoldsEv.intact {x : EvState} {ge : EventPtr} {ev : EventMem} {l : Link NodeAddr} {c : Cmd}
    {φ : Prop} (hev : HoldsEv t x ge ev l g s) (ht : c.touches = some ge) (hu : c.uses = none)
    (ha : ∀ fd, c ≠ .accept fd) (hn : c.node = none ∨ c.node = some (.node ge) ∧ φ) :
    Intact t c s := by
  have hlive : s.events ge ≠ none := by simp [hev.mem]
  have hcell : LiveNode (.node ge) s := ⟨hlive, by simp [hev.node]⟩
  cases c with
  | memset ge' | load ge' | store ge' w | free ge' =>
      obtain rfl : ge' = ge := Option.some.inj ht
      exact hlive
  | loadEfd ge' =>
      obtain rfl : ge' = ge := Option.some.inj ht
      exact .inl hlive
  | call fn ge' => cases ht
  | getNext n | getPrev n | setNext n v | setPrev n v =>
      rcases hn with hn | ⟨hn, -⟩
      · cases hn
      · obtain rfl : n = .node ge := Option.some.inj hn
        exact hcell
  | epollCtl epfd op fd ge' | fdCall fc fd | read fd count | close fd => cases hu
  | accept fd => exact absurd rfl (ha fd)
  | _ => trivial

/-- A thread may touch its own event.  A datanet thread touches list cells only of
events that belong to its poller. -/
theorem HoldsEv.check {x : EvState} {ge : EventPtr} {ev : EventMem} {l : Link NodeAddr} {c : Cmd}
    (hinv : Inv g s) (hev : HoldsEv t x ge ev l g s) (ht : c.touches = some ge) (hu : c.uses = none)
    (ha : ∀ fd, c ≠ .accept fd) (hc : CallSafe t c s)
    (hn : c.node = none ∨ c.node = some (.node ge) ∧ (t.IsDatanet → ev.gpoller = some t.poller)) :
    Check t c s where
  handover hnet := by
    refine ⟨?_, fun fd h => absurd h (ha fd), by simp [hu]⟩
    intro ge' hge'
    obtain rfl : ge = ge' := Option.some.inj (ht.symm.trans hge')
    exact ⟨by simp [hev.mem], hev.not_onDatanet hinv hnet⟩
  call := hc
  confined hdata := by
    rcases hn with hn | ⟨hn, hown⟩
    · simp [Confined, hn]
    · intro n hn'
      obtain rfl : .node ge = n := Option.some.inj (hn.symm.trans hn')
      rintro ⟨ev', p, hmem, hp, hne⟩
      obtain rfl : ev = ev' := Option.some.inj (hev.mem.symm.trans hmem)
      obtain rfl : t.poller = p := Option.some.inj ((hown hdata).symm.trans hp)
      exact hne (runner_poller t)
  intact := hev.intact ht hu ha hn

/-- Assign a member of the thread's own event. -/
theorem triple_store (w : EventWrite) (hfit : { h with ev := w.apply h.ev }.Fits d) :
    discipline.Triple t (Holding t d rest h) (perform (.store h.ge w))
      fun _ => Holding t d rest { h with ev := w.apply h.ev } := by
  refine triple_write _ h.l (.inl rfl) hfit ?_ ?_
  · intro g s hinv hh
    exact hh.ev.check hinv rfl rfl (by simp) trivial (.inl rfl)
  · intro s a hmem hnode
    rw [← setEvent_eq_write hmem hnode]
    exact ⟨(), rfl⟩

/-- Clear the thread's own event, while it is fresh. -/
theorem triple_memset (hx : h.x = .fresh t) (ht : ¬ t.IsDatanet) :
    discipline.Triple t (Holding t d rest h) (perform (.memset h.ge))
      fun _ => Holding t d rest { h with ev := .zero, l := ⟨.null, .null⟩ } := by
  refine triple_write _ _ (.inl rfl) (by simp [Held.Fits, hx]) ?_ ?_
  · intro g s hinv hh
    exact hh.ev.check hinv rfl rfl (by simp) trivial (.inr ⟨rfl, fun hdata => absurd hdata ht⟩)
  · intro s a hmem hnode
    refine ⟨(), ?_⟩
    simp [respond, setEvent_eq_write hmem hnode, Shared.setNode, Shared.write]

section OwnNode

variable (hd : d' = d ∨ d = none) (hown : t.IsDatanet → h.ev.gpoller = some t.poller)
  (v : NodeAddr)
include hd hown

/-- Write the `next` pointer of the thread's own event. -/
theorem triple_setNext (hfit : { h with l := ⟨v, h.l.prev⟩ }.Fits d') :
    discipline.Triple t (Holding t d rest h) (perform (.setNext (.node h.ge) v))
      fun _ => Holding t d' rest { h with l := ⟨v, h.l.prev⟩ } := by
  refine triple_write h.ev _ hd hfit ?_ ?_
  · intro g s hinv hh
    exact hh.ev.check hinv rfl rfl (by simp) trivial (.inr ⟨rfl, hown⟩)
  · intro s a hmem hnode
    exact ⟨(), congrArg (fun s' => some ((), s')) (setNode_eq_write hmem hnode _)⟩

/-- Write the `prev` pointer of the thread's own event. -/
theorem triple_setPrev (hfit : { h with l := ⟨h.l.next, v⟩ }.Fits d') :
    discipline.Triple t (Holding t d rest h) (perform (.setPrev (.node h.ge) v))
      fun _ => Holding t d' rest { h with l := ⟨h.l.next, v⟩ } := by
  refine triple_write h.ev _ hd hfit ?_ ?_
  · intro g s hinv hh
    exact hh.ev.check hinv rfl rfl (by simp) trivial (.inr ⟨rfl, hown⟩)
  · intro s a hmem hnode
    exact ⟨(), congrArg (fun s' => some ((), s')) (setNode_eq_write hmem hnode _)⟩

end OwnNode

/-- Read the thread's own event. -/
theorem triple_load :
    discipline.Triple t (Holding t d rest h) (perform (.load h.ge))
      fun v g s => h.ev = v ∧ Holding t d rest h g s := by
  refine .look (fun _ _ _ _ _ hh _ hr => hh.imp_right (·.rely hr)) ?_ ?_
  · intro g s hinv hh
    exact hh.ev.check hinv rfl rfl (by simp) trivial (.inl rfl)
  · intro g s a v s' _ hh hstep
    obtain ⟨rfl, rfl⟩ := Prod.mk.inj (Option.some.inj hstep)
    exact ⟨rfl, by simp [hh.ev.mem], hh⟩

/-- Read the thread's own event, and what follows. -/
theorem triple_load_bind {β : Type} {f : EventMem → Code β} {R : β → Ghost → Shared → Prop}
    (hf : discipline.Triple t (Holding t d rest h) (f h.ev) R) :
    discipline.Triple t (Holding t d rest h) (perform (.load h.ge) >>= f) R := by
  refine triple_load.bind fun v => .of_imp ?_
  rintro rfl
  exact hf

/-- Read the `next` pointer of the thread's own event. -/
theorem triple_getNext (hown : t.IsDatanet → h.ev.gpoller = some t.poller) :
    discipline.Triple t (Holding t d rest h) (perform (.getNext (.node h.ge)))
      fun v g s => h.l.next = v ∧ Holding t d rest h g s := by
  refine .look (fun _ _ _ _ _ hh _ hr => hh.imp_right (·.rely hr)) ?_ ?_
  · intro g s hinv hh
    exact hh.ev.check hinv rfl rfl (by simp) trivial (.inr ⟨rfl, hown⟩)
  · intro g s a v s' _ hh hstep
    obtain ⟨rfl, rfl⟩ := Prod.mk.inj (Option.some.inj hstep)
    exact ⟨rfl, by simp [hh.ev.node], hh⟩

/-- Read the `prev` pointer of the thread's own event. -/
theorem triple_getPrev (hown : t.IsDatanet → h.ev.gpoller = some t.poller) :
    discipline.Triple t (Holding t d rest h) (perform (.getPrev (.node h.ge)))
      fun v g s => h.l.prev = v ∧ Holding t d rest h g s := by
  refine .look (fun _ _ _ _ _ hh _ hr => hh.imp_right (·.rely hr)) ?_ ?_
  · intro g s hinv hh
    exact hh.ev.check hinv rfl rfl (by simp) trivial (.inr ⟨rfl, hown⟩)
  · intro g s a v s' _ hh hstep
    obtain ⟨rfl, rfl⟩ := Prod.mk.inj (Option.some.inj hstep)
    exact ⟨rfl, by simp [hh.ev.node], hh⟩

end Write

/-! ## Pollers, their lists, and commands that change nothing -/

section Quiet

variable {t : Thread} {P : Ghost → Shared → Prop} {g : Ghost} {s : Shared}

theorem Inv.setElist (hinv : Inv g s) (p : PollerId) (f : Link NodeAddr → Link NodeAddr) :
    Inv g (s.setNode (.elist p) f) where
  elist q := by
    by_cases hq : q = p
    · obtain ⟨l, hl⟩ := Option.ne_none_iff_exists'.mp (hinv.elist p)
      simp [Shared.setNode, hq, hl]
    · simpa [Shared.setNode, hq] using hinv.elist q
  zero_open := hinv.zero_open
  zero_owner := hinv.zero_owner
  ev_live := hinv.ev_live
  fd_open := hinv.fd_open
  epoll_open := hinv.epoll_open
  epolls := hinv.epolls
  epfd := hinv.epfd
  registered := hinv.registered
  handed fd q ge hfd :=
    have hold := hinv.handed fd q ge hfd
    ⟨hold.ev, hold.mem, by simpa [Shared.setNode] using hold.node⟩

/-- The list of a poller is always there. -/
theorem Inv.intact_elist (hinv : Inv g s) {c : Cmd} {p : PollerId} (hu : c.uses = none)
    (hn : c.node = some (.elist p)) (ha : ∀ fd, c ≠ .accept fd) : Intact t c s := by
  cases c with
  | getNext n | getPrev n | setNext n v | setPrev n v =>
      obtain rfl : n = .elist p := Option.some.inj hn
      exact hinv.elist p
  | memset ge | load ge | loadEfd ge | store ge w | free ge | call fn ge => cases hn
  | epollCtl epfd op fd ge | fdCall fc fd | read fd count | close fd => cases hu
  | accept fd => exact absurd rfl (ha fd)
  | _ => trivial

/-- **A write to a poller's list.**  Whoever does it, no event and no descriptor changes;
a datanet thread does it to its own list only. -/
theorem triple_elist {c : Cmd} {p : PollerId} {f : Link NodeAddr → Link NodeAddr}
    (hP : discipline.Stable t P) (ht : c.touches = none) (hu : c.uses = none)
    (hn : c.node = some (.elist p)) (ha : ∀ fd, c ≠ .accept fd) (hc : ∀ s, CallSafe t c s)
    (hrun : t.IsDatanet → runner p = t)
    (hresp : ∀ a s, ∃ v, respond c a s = some (v, s.setNode (.elist p) f)) :
    discipline.Triple t P (perform c) fun _ => P := by
  refine (Discipline.Triple.frame hP (fun _ _ _ _ _ _ _ _ => trivial) ?_ ?_).post
    fun _ _ _ _ h => h.2
  · intro g s hinv _
    refine ⟨fun _ => ⟨by simp [ht], fun fd h => absurd h (ha fd), by simp [hu]⟩, hc s, ?_,
      hinv.intact_elist hu hn ha⟩
    intro hdata n hn'
    obtain rfl : .elist p = n := Option.some.inj (hn.symm.trans hn')
    exact not_not.mpr (hrun hdata)
  · intro g s a v s' hinv _ hstep
    obtain ⟨u, hu⟩ := hresp a s
    obtain ⟨rfl, rfl⟩ := Prod.mk.inj (Option.some.inj (hu.symm.trans hstep))
    refine ⟨g, hinv.setElist p f, ?_, trivial⟩
    intro u
    exact ⟨fun ge x hx _ => ⟨hx, rfl, by simp [Shared.setNode]⟩, fun _ _ hy _ => ⟨hy, rfl⟩, rfl,
      fun _ _ he => he, fun _ => rfl⟩

theorem triple_setNext_elist (hP : discipline.Stable t P) {p : PollerId} (v : NodeAddr)
    (hrun : t.IsDatanet → runner p = t) :
    discipline.Triple t P (perform (.setNext (.elist p) v)) fun _ => P :=
  triple_elist hP rfl rfl rfl (by simp) (fun _ => trivial) hrun fun _ _ => ⟨(), rfl⟩

theorem triple_setPrev_elist (hP : discipline.Stable t P) {p : PollerId} (v : NodeAddr)
    (hrun : t.IsDatanet → runner p = t) :
    discipline.Triple t P (perform (.setPrev (.elist p) v)) fun _ => P :=
  triple_elist hP rfl rfl rfl (by simp) (fun _ => trivial) hrun fun _ _ => ⟨(), rfl⟩

/-- A command that changes nothing and touches nothing of the program's. -/
theorem triple_quiet {c : Cmd} (hP : discipline.Stable t P) (ht : c.touches = none)
    (hu : c.uses = none) (hn : c.node = none) (ha : ∀ fd, c ≠ .accept fd)
    (hc : ∀ s, CallSafe t c s) (hresp : ∀ a s v s', respond c a s = some (v, s') → s' = s) :
    discipline.Triple t P (perform c) fun _ => P := by
  refine .look (fun _ => hP) ?_ ?_
  · intro g s _ _
    exact check_of_quiet ht hu hn ha (hc s)
  · intro g s a v s' _ hp hstep
    exact ⟨hresp a s v s' hstep, hp⟩

theorem triple_log (hP : discipline.Stable t P) (c : LogCall) :
    discipline.Triple t P (perform (.log c)) fun _ => P :=
  triple_quiet hP rfl rfl rfl (by simp) (fun _ => trivial) fun _ _ _ _ hstep =>
    (congrArg Prod.snd (Option.some.inj hstep)).symm

theorem triple_mallocEe (hP : discipline.Stable t P) :
    discipline.Triple t P (perform .mallocEe) fun _ => P :=
  triple_quiet hP rfl rfl rfl (by simp) (fun _ => trivial) fun _ _ _ _ hstep =>
    (congrArg Prod.snd (Option.some.inj hstep)).symm

/-- Only `gt_network_m` has to know anything about a descriptor it passes to a system
call that changes nothing. -/
theorem triple_fdCall (hP : discipline.Stable t P) (fc : FdCall) {fd : ℤ}
    (hopen : ∀ g s, Inv g s → P g s → s.kernel.files fd ≠ none)
    (hlast : ∀ g s, P g s → t = .network → LastAccepted s fd) :
    discipline.Triple t P (perform (.fdCall fc fd)) fun _ => P := by
  refine .look (fun _ => hP) ?_ ?_
  · intro g s hinv hp
    refine ⟨fun ht => ⟨by simp [Cmd.touches], by simp, ?_⟩, trivial, fun _ => ?_,
      hopen g s hinv hp⟩
    · intro fd' hfd'
      obtain rfl : fd = fd' := Option.some.inj hfd'
      exact hlast g s hp ht
    · simp [Confined, Cmd.node]
  · intro g s a v s' _ hp hstep
    exact ⟨(congrArg Prod.snd (Option.some.inj hstep)).symm, hp⟩

/-- `read`, by a thread that is not `gt_network_m`. -/
theorem triple_read (hP : discipline.Stable t P) {fd : ℤ} (count : ℕ) (ht : t ≠ .network)
    (hopen : ∀ g s, Inv g s → P g s → s.kernel.files fd ≠ none) :
    discipline.Triple t P (perform (.read fd count)) fun _ => P := by
  refine .look (fun _ => hP) ?_ ?_
  · intro g s hinv hp
    exact ⟨fun h => absurd h ht, trivial, fun _ => by simp [Confined, Cmd.node],
      hopen g s hinv hp⟩
  · intro g s a v s' _ hp hstep
    exact ⟨(congrArg Prod.snd (Option.some.inj hstep)).symm, hp⟩

/-- Read a poller: its epoll descriptor is its own, if it has one. -/
theorem triple_loadPoller (hP : discipline.Stable t P) (p : PollerId) :
    discipline.Triple t P (perform (.loadPoller (some p)))
      fun v g s => EpfdOf p v.epfd g ∧ P g s := by
  refine .look (fun v => (stable_epfdOf t p v.epfd).and hP) ?_ ?_
  · intro g s _ _
    exact check_of_quiet rfl rfl rfl (by simp) (by simp [CallSafe])
  · intro g s a v s' hinv hp hstep
    obtain ⟨rfl, rfl⟩ := Prod.mk.inj (Option.some.inj hstep)
    exact ⟨rfl, hinv.epfd p, hp⟩

/-- Assign a member of a poller; its `epfd` only with a descriptor of its own. -/
theorem triple_storePoller (hP : discipline.Stable t P) (p : PollerId) (w : PollerWrite)
    (hw : ∀ g s, Inv g s → P g s → EpfdOf p (w.apply (s.pollers p)).epfd g) :
    discipline.Triple t P (perform (.storePoller p w)) fun _ => P := by
  refine (Discipline.Triple.frame hP (fun _ _ _ _ _ _ _ _ => trivial) ?_ ?_).post
    fun _ _ _ _ h => h.2
  · intro g s _ _
    exact check_of_quiet rfl rfl rfl (by simp) trivial
  · intro g s a v s' hinv hp hstep
    obtain ⟨rfl, rfl⟩ := Prod.mk.inj (Option.some.inj hstep)
    refine ⟨g, ?_, ?_, trivial⟩
    · exact { hinv with
        epfd := by
          intro q
          by_cases hq : q = p
          · subst hq
            simpa [EpfdOf] using hw g s hinv hp
          · simpa [hq] using hinv.epfd q
        handed := fun fd q ge hfd =>
          have hold := hinv.handed fd q ge hfd
          ⟨hold.ev, hold.mem, hold.node⟩ }
    · intro u
      exact ⟨fun ge x hx _ => ⟨hx, rfl, rfl⟩, fun _ _ hy _ => ⟨hy, rfl⟩, rfl,
        fun _ _ he => he, fun _ => rfl⟩

end Quiet

/-! ## Events come and go -/

/-- Change who owns an event. -/
def Ghost.setEv (g : Ghost) (ge : EventPtr) (x : Option EvState) : Ghost :=
  { g with ev := Function.update g.ev ge x }

/-- Change who owns a descriptor. -/
def Ghost.setFd (g : Ghost) (fd : ℤ) (y : Option FdState) : Ghost :=
  { g with fd := Function.update g.fd fd y }

section Events

variable {t : Thread} {d : Option EventPtr} {rest : List ReadyEvent} {g : Ghost} {s : Shared}

/-- An address that holds no event is owned by nobody. -/
theorem Inv.ev_eq_none (hinv : Inv g s) {ge : EventPtr} (hfree : s.events ge = none) :
    g.ev ge = none := by
  by_contra hne
  exact hinv.ev_live ge hne hfree

/-- The event at an address and its list cell are there or not, and nothing else of the
memory changes. -/
theorem Inv.setEv (hinv : Inv g s) {ge : EventPtr} {x : Option EvState} {ev : Option EventMem}
    {l : Option (Link NodeAddr)} (hnot : ∀ p, g.ev ge ≠ some (.handed p))
    (hlive : x ≠ none → ev ≠ none) :
    Inv (g.setEv ge x) { s with
      events := Function.update s.events ge ev
      nodes := Function.update s.nodes (.node ge) l } where
  elist p := by simpa using hinv.elist p
  zero_open := hinv.zero_open
  zero_owner := hinv.zero_owner
  ev_live ge' hge' := by
    by_cases hne : ge' = ge
    · subst hne
      simpa using hlive (by simpa [Ghost.setEv] using hge')
    · simpa [hne] using hinv.ev_live ge' (by simpa [Ghost.setEv, hne] using hge')
  fd_open := hinv.fd_open
  epoll_open := hinv.epoll_open
  epolls := hinv.epolls
  epfd := hinv.epfd
  registered := hinv.registered
  handed fd p ge' hfd := by
    have hold := hinv.handed fd p ge' hfd
    have hne : ge' ≠ ge := by
      rintro rfl
      exact hnot p hold.ev
    exact ⟨by simpa [Ghost.setEv, hne] using hold.ev, by simpa [hne] using hold.mem,
      by simpa [Ghost.setEv, hne] using hold.node⟩

/-- Nobody else notices what happens to an event that was this thread's or nobody's. -/
theorem rely_setEv {ge : EventPtr} {x : Option EvState} {ev : Option EventMem}
    {l : Option (Link NodeAddr)} {u : Thread}
    (hnot : ∀ x, g.ev ge = some x → x.owner ≠ u) :
    Rely u g s (g.setEv ge x) { s with
      events := Function.update s.events ge ev
      nodes := Function.update s.nodes (.node ge) l } where
  ev ge' x' hx' ho := by
    have hne : ge' ≠ ge := by
      rintro rfl
      exact hnot x' hx' ho
    exact ⟨by simpa [Ghost.setEv, hne] using hx', by simp [hne], by simp [hne]⟩
  fd _ _ hy _ := ⟨hy, rfl⟩
  dying := rfl
  epoll _ _ he := he
  accepted _ := rfl

/-- **What `malloc` does**: nothing, or it returns memory that was no event before. -/
theorem respond_malloc {a : Reply} {v : Option EventPtr} {s' : Shared}
    (h : respond .malloc a s = some (v, s')) :
    (v = none ∧ s' = s) ∨ ∃ ge, v = some ge ∧ s.events ge = none ∧ s' = { s with
      events := Function.update s.events ge (some a.mem)
      nodes := Function.update s.nodes (.node ge) (some ⟨a.addr, a.addr⟩) } := by
  simp only [respond] at h
  split at h
  · obtain ⟨rfl, rfl⟩ := Prod.mk.inj (Option.some.inj h)
    exact .inl ⟨rfl, rfl⟩
  · rename_i ge _
    split at h
    · rename_i hfree
      obtain ⟨rfl, rfl⟩ := Prod.mk.inj (Option.some.inj h)
      exact .inr ⟨ge, rfl, hfree, rfl⟩
    · cases h

/-- `gt_malloc_mem` of an event: a new event belongs to the thread. -/
theorem triple_malloc {P : Ghost → Shared → Prop} (hP : discipline.Stable t P) :
    discipline.Triple t P (perform .malloc)
      fun v g s => (∀ ge, v = some ge → ∃ ev l, HoldsEv t (.fresh t) ge ev l g s) ∧ P g s := by
  refine .frame hP ?_ ?_ ?_
  · intro v g s g' s' hp _ hr ge hge
    obtain ⟨ev, l, hev⟩ := hp ge hge
    exact ⟨ev, l, hev.rely hr⟩
  · intro g s _ _
    exact check_of_quiet rfl rfl rfl (by simp) trivial
  · intro g s a v s' hinv _ hstep
    rcases respond_malloc hstep with ⟨rfl, rfl⟩ | ⟨ge, rfl, hfree, rfl⟩
    · exact ⟨g, hinv, fun u => Rely.refl u g s', nofun⟩
    · have hnone := hinv.ev_eq_none hfree
      refine ⟨g.setEv ge (some (.fresh t)), hinv.setEv (by simp [hnone]) (by simp), ?_, ?_⟩
      · intro u
        exact rely_setEv (by simp [hnone])
      · intro ge' hge'
        obtain rfl : ge = ge' := Option.some.inj hge'
        exact ⟨a.mem, ⟨a.addr, a.addr⟩, rfl, by simp [Ghost.setEv], by simp, by simp⟩

/-- `gt_free_mem` of an event that the thread has taken back. -/
theorem triple_free {ge : EventPtr} {ev : EventMem} {l : Link NodeAddr} :
    discipline.Triple t (fun g s => Ctx t d rest g ∧ HoldsEv t (.fresh t) ge ev l g s)
      (perform (.free ge)) fun _ g _ => Ctx t d rest g := by
  refine .perform (fun _ => stable_ctx t d rest) ?_ ?_
  · intro g s hinv hp
    exact hp.2.check hinv rfl rfl (by simp) trivial (.inl rfl)
  · intro g s a v s' hinv hp hstep
    obtain ⟨rfl, rfl⟩ := Prod.mk.inj (Option.some.inj hstep)
    refine ⟨g.setEv ge none, hinv.setEv (by simp [hp.2.state]) (by simp), ?_, ?_⟩
    · intro u hu
      refine rely_setEv ?_
      intro x hx
      obtain rfl : .fresh t = x := Option.some.inj (hp.2.state.symm.trans hx)
      exact hu.symm
    · exact ⟨hp.1.dying, hp.1.nodup, hp.1.handed, hp.1.bits⟩

end Events

/-! ## Descriptors come and go -/

section Descriptors

variable {t : Thread} {d : Option EventPtr} {rest : List ReadyEvent} {g : Ghost} {s : Shared}
  {fd : ℤ}

/-- A number that names no file is owned by nobody and is no epoll descriptor. -/
theorem Inv.of_closed (hinv : Inv g s) (hfree : s.kernel.files fd = none) :
    g.fd fd = none ∧ g.epoll fd = none ∧ fd ≠ 0 := by
  refine ⟨?_, ?_, ?_⟩
  · by_contra hne
    exact hinv.fd_open fd hne hfree
  · by_contra hne
    obtain ⟨p, hp⟩ := Option.ne_none_iff_exists'.mp hne
    exact (hinv.epoll_open fd p hp).2.1 hfree
  · rintro rfl
    exact hinv.zero_open hfree

theorem files_update_ne_none {files : ℤ → Option ℕ} {fd fd' : ℤ} (file : ℕ)
    (h : files fd' ≠ none) : Function.update files fd (some file) fd' ≠ none := by
  by_cases hfd : fd' = fd <;> simp [hfd, h]

section Open

variable {k : Kernel (Option EventPtr)} {file : ℕ} (hfree : s.kernel.files fd = none)
  (hfiles : k.files = Function.update s.kernel.files fd (some file))
include hfree hfiles

/-- A file opened under a free number belongs to the thread. -/
theorem Inv.openFd (hinv : Inv g s) (hsets : k.sets = s.kernel.sets) :
    Inv (g.setFd fd (some (.fresh t))) { s with kernel := k } := by
  obtain ⟨hnone, -, hzero⟩ := hinv.of_closed hfree
  have hother : ∀ {fd' p ge}, (g.setFd fd (some (.fresh t))).fd fd' = some (.handed p ge) →
      g.fd fd' = some (.handed p ge) := by
    intro fd' p ge hfd'
    by_cases hne : fd' = fd
    · simp [Ghost.setFd, hne] at hfd'
    · simpa [Ghost.setFd, hne] using hfd'
  have hkept : ∀ {fd' y}, g.fd fd' = some y →
      (g.setFd fd (some (.fresh t))).fd fd' = some y := by
    intro fd' y hy
    have hne : fd' ≠ fd := by
      rintro rfl
      simp [hnone] at hy
    simpa [Ghost.setFd, hne] using hy
  exact {
    elist := hinv.elist
    zero_open := by
      rw [hfiles]
      exact files_update_ne_none file hinv.zero_open
    zero_owner := by
      intro y hy
      exact hinv.zero_owner y (by simpa [Ghost.setFd, hzero.symm] using hy)
    ev_live := hinv.ev_live
    fd_open := by
      intro fd' hfd'
      rw [hfiles]
      by_cases hne : fd' = fd
      · simp [hne]
      · exact files_update_ne_none file (hinv.fd_open fd' (by simpa [Ghost.setFd, hne] using hfd'))
    epoll_open := by
      intro e p he
      obtain ⟨hpos, hopen, hfd⟩ := hinv.epoll_open e p he
      have hne : e ≠ fd := by
        rintro rfl
        exact hopen hfree
      rw [hfiles]
      exact ⟨hpos, files_update_ne_none file hopen, by simpa [Ghost.setFd, hne] using hfd⟩
    epolls := hinv.epolls
    epfd := hinv.epfd
    registered := by
      intro e fd' reg hreg
      rw [hsets] at hreg
      obtain ⟨p, ge, he, hfd', hrest⟩ := hinv.registered e fd' reg hreg
      exact ⟨p, ge, he, hkept hfd', hrest⟩
    handed := by
      intro fd' p ge hfd'
      have hold := hinv.handed fd' p ge (hother hfd')
      exact ⟨hold.ev, hold.mem, hold.node⟩ }

/-- Nobody else notices a number that was free. -/
theorem rely_openFd (hinv : Inv g s) {u : Thread}
    (hacc : u = .network → k.accepted = s.kernel.accepted) :
    Rely u g s (g.setFd fd (some (.fresh t))) { s with kernel := k } where
  ev _ _ hx _ := ⟨hx, rfl, rfl⟩
  fd fd' y hy _ := by
    have hne : fd' ≠ fd := by
      rintro rfl
      simp [(hinv.of_closed hfree).1] at hy
    exact ⟨by simpa [Ghost.setFd, hne] using hy, by simp [hfiles, hne]⟩
  dying := rfl
  epoll _ _ he := he
  accepted := hacc

omit hfiles in
/-- The thread goes on with its batch. -/
theorem Ctx.openFd (hinv : Inv g s) (hctx : Ctx t d rest g) :
    Ctx t d rest (g.setFd fd (some (.fresh t))) where
  dying := hctx.dying
  nodup := hctx.nodup
  handed r hr := by
    obtain ⟨ge, hptr, hfd⟩ := hctx.handed r hr
    have hne : r.fd ≠ fd := by
      intro heq
      simp [heq, (hinv.of_closed hfree).1] at hfd
    exact ⟨ge, hptr, by simpa [Ghost.setFd, hne] using hfd⟩
  bits := hctx.bits

end Open

/-- What `freshFd` checks. -/
theorem freshFd_iff {a : Reply} : freshFd a s = true ↔ 0 ≤ a.fd ∧ s.kernel.files a.fd = none := by
  simp [freshFd]

/-- `socket`, by a thread other than `gt_network_m`. -/
theorem triple_socket {P : Ghost → Shared → Prop} (hP : discipline.Stable t P)
    (ht : t ≠ .network) :
    discipline.Triple t P (perform .socket)
      fun v g s => (∀ fd, v = .ok fd → fd ≠ 0 ∧ HoldsFd t (.fresh t) fd g s) ∧ P g s := by
  refine .frame hP ?_ ?_ ?_
  · intro v g s g' s' hp _ hr fd hfd
    exact (hp fd hfd).imp_right (·.rely hr)
  · intro g s _ _
    exact check_of_quiet rfl rfl rfl (by simp) trivial
  · intro g s a v s' hinv _ hstep
    simp only [discipline, respond] at hstep
    split at hstep
    · obtain ⟨rfl, rfl⟩ := Prod.mk.inj (Option.some.inj hstep)
      exact ⟨g, hinv, fun u => Rely.refl u g s, nofun⟩
    · split at hstep
      · rename_i hfresh
        obtain ⟨rfl, rfl⟩ := Prod.mk.inj (Option.some.inj hstep)
        have hfree := (freshFd_iff.mp hfresh).2
        refine ⟨_, hinv.openFd (t := t) hfree rfl rfl, ?_, ?_⟩
        · intro u
          exact rely_openFd hfree rfl hinv fun _ => rfl
        · intro fd hfd
          obtain rfl : a.fd = fd := by simpa using hfd
          refine ⟨(hinv.of_closed hfree).2.2, rfl, by simp [Ghost.setFd], ?_⟩
          intro heq
          exact absurd (FdState.fresh.inj heq) ht
      · cases hstep

/-- `accept`, by `gt_network_m` on a socket that is open: the connection is the last one
accepted. -/
theorem triple_accept {lfd : ℤ}
    (hlisten : ∀ g s, Inv g s → Ctx .network d rest g → s.kernel.files lfd ≠ none) :
    discipline.Triple .network (fun g _ => Ctx .network d rest g) (perform (.accept lfd))
      fun v g s => match v with
        | .error _ => Ctx .network d rest g
        | .ok c => c.cfd ≠ 0 ∧ Ctx .network d rest g ∧
            HoldsFd .network (.fresh .network) c.cfd g s := by
  refine .perform ?_ ?_ ?_
  · rintro (_ | c) g s g' s' hp _ hr
    · exact hp.rely hr
    · exact ⟨hp.1, hp.2.1.rely hr, hp.2.2.rely hr⟩
  · intro g s hinv hctx
    refine ⟨fun _ => ⟨by simp [Cmd.touches], ?_, by simp [Cmd.uses]⟩, trivial,
      fun _ => by simp [Confined, Cmd.node], hlisten g s hinv hctx⟩
    intro fd hfd
    obtain rfl : lfd = fd := Cmd.accept.inj hfd
    exact hlisten g s hinv hctx
  · intro g s a v s' hinv hctx hstep
    simp only [discipline, respond] at hstep
    split at hstep
    · obtain ⟨rfl, rfl⟩ := Prod.mk.inj (Option.some.inj hstep)
      exact ⟨g, hinv, fun u _ => Rely.refl u g s, hctx⟩
    · split at hstep
      · rename_i hcond
        obtain ⟨rfl, rfl⟩ := Prod.mk.inj (Option.some.inj hstep)
        have hfree := (freshFd_iff.mp (Bool.and_eq_true_iff.mp hcond).1).2
        refine ⟨_, hinv.openFd (t := .network) hfree (Kernel.files_accept _ _) rfl, ?_,
          (hinv.of_closed hfree).2.2, ?_, ?_⟩
        · intro u hu
          exact rely_openFd hfree (Kernel.files_accept _ _) hinv fun h => absurd h hu
        · exact hctx.openFd hfree hinv
        · exact ⟨rfl, by simp [Ghost.setFd], fun _ => ⟨s.kernel.nextFile, by simp, by simp⟩⟩
      · cases hstep

/-- A new epoll descriptor is one of the poller it was created for. -/
theorem Inv.epollCreate (hinv : Inv g s) (hnonneg : 0 ≤ fd) (hfree : s.kernel.files fd = none)
    (p : PollerId) :
    Inv { g with epoll := Function.update g.epoll fd (some p) } { s with
      kernel := s.kernel.openFile fd
      epolls := Function.update s.epolls fd true } ∧
    ∀ e q, g.epoll e = some q → Function.update g.epoll fd (some p) e = some q := by
  obtain ⟨hnone, hepoll, hzero⟩ := hinv.of_closed hfree
  have hmono : ∀ e q, g.epoll e = some q → Function.update g.epoll fd (some p) e = some q := by
    intro e q he
    have hne : e ≠ fd := by
      rintro rfl
      simp [hepoll] at he
    simpa [hne] using he
  refine ⟨?_, hmono⟩
  exact {
    elist := hinv.elist
    zero_open := files_update_ne_none _ hinv.zero_open
    zero_owner := hinv.zero_owner
    ev_live := hinv.ev_live
    fd_open := fun fd' hfd => files_update_ne_none _ (hinv.fd_open fd' hfd)
    epoll_open := by
      intro e q he
      by_cases hne : e = fd
      · subst hne
        exact ⟨by omega, by simp [Kernel.openFile], hnone⟩
      · obtain ⟨hpos, hopen, hfd⟩ := hinv.epoll_open e q (by simpa [hne] using he)
        exact ⟨hpos, files_update_ne_none _ hopen, hfd⟩
    epolls := by
      intro e he
      by_cases hne : e = fd
      · simp [hne]
      · simpa [hne] using hinv.epolls e (by simpa [hne] using he)
    epfd := fun q => (hinv.epfd q).imp_right (hmono _ q)
    registered := by
      intro e fd' reg hreg
      obtain ⟨q, ge, he, hrest⟩ := hinv.registered e fd' reg hreg
      exact ⟨q, ge, hmono e q he, hrest⟩
    handed := fun fd' q ge hfd =>
      have hold := hinv.handed fd' q ge hfd
      ⟨hold.ev, hold.mem, hold.node⟩ }

/-- `epoll_create`, for a poller. -/
theorem triple_epollCreate {P : Ghost → Shared → Prop} (hP : discipline.Stable t P)
    (p : PollerId) :
    discipline.Triple t P (perform .epollCreate)
      fun v g s => (∀ e, v = .ok e → EpfdOf p e g) ∧ P g s := by
  refine .frame hP ?_ ?_ ?_
  · intro v g s g' s' hp _ hr e hv
    exact (hp e hv).rely hr
  · intro g s _ _
    exact check_of_quiet rfl rfl rfl (by simp) trivial
  · intro g s a v s' hinv _ hstep
    simp only [discipline, respond] at hstep
    split at hstep
    · obtain ⟨rfl, rfl⟩ := Prod.mk.inj (Option.some.inj hstep)
      exact ⟨g, hinv, fun u => Rely.refl u g s, nofun⟩
    · split at hstep
      · rename_i hfresh
        obtain ⟨rfl, rfl⟩ := Prod.mk.inj (Option.some.inj hstep)
        obtain ⟨hnonneg, hfree⟩ := freshFd_iff.mp hfresh
        obtain ⟨hinv', hmono⟩ := hinv.epollCreate hnonneg hfree p
        refine ⟨_, hinv', ?_, ?_⟩
        · intro u
          refine ⟨fun _ _ hx _ => ⟨hx, rfl, rfl⟩, ?_, rfl, hmono, fun _ => rfl⟩
          intro fd y hy _
          have hne : fd ≠ a.fd := by
            rintro rfl
            simp [(hinv.of_closed hfree).1] at hy
          exact ⟨hy, by simp [Kernel.openFile, hne]⟩
        · intro e he
          obtain rfl : a.fd = e := by simpa using he
          exact .inr (by simp)
      · cases hstep

/-- Closing an open descriptor that the thread owns.  What was handed over with another
descriptor has to stay as it is. -/
theorem Inv.close (hinv : Inv g s) {g' : Ghost} (hown : g.fd fd ≠ none) (hzero : fd ≠ 0)
    (hfd : g'.fd = Function.update g.fd fd none) (hepoll : g'.epoll = g.epoll)
    (hev : ∀ ge, g'.ev ge ≠ none → g.ev ge ≠ none)
    (hhanded : ∀ fd' p ge, fd' ≠ fd → HandedOver g s fd' p ge → g.fd fd' = some (.handed p ge) →
      HandedOver g' s fd' p ge) :
    Inv g' { s with kernel := s.kernel.close fd, epolls := Function.update s.epolls fd false } := by
  have hopen := hinv.fd_open fd hown
  have hkept : ∀ {fd'}, fd' ≠ fd → (s.kernel.close fd).files fd' = s.kernel.files fd' := by
    intro fd' hne
    simp [hne]
  exact {
    elist := hinv.elist
    zero_open := by
      simpa [hkept hzero.symm] using hinv.zero_open
    zero_owner := by
      intro y hy
      rw [hfd, Function.update_of_ne hzero.symm] at hy
      exact hinv.zero_owner y hy
    ev_live := fun ge hge => hinv.ev_live ge (hev ge hge)
    fd_open := by
      intro fd' hfd'
      by_cases hne : fd' = fd
      · simp [hfd, hne] at hfd'
      · rw [hfd, Function.update_of_ne hne] at hfd'
        simpa [hkept hne] using hinv.fd_open fd' hfd'
    epoll_open := by
      intro e p he
      obtain ⟨hpos, he', hnone⟩ := hinv.epoll_open e p (by rwa [hepoll] at he)
      have hne : e ≠ fd := by
        rintro rfl
        exact hown hnone
      exact ⟨hpos, by simpa [hkept hne] using he', by rw [hfd, Function.update_of_ne hne, hnone]⟩
    epolls := by
      intro e he
      rw [hepoll]
      by_cases hne : e = fd
      · simp [hne] at he
      · exact hinv.epolls e (by simpa [hne] using he)
    epfd := by
      rw [hepoll]
      exact hinv.epfd
    registered := by
      intro e fd' reg hreg
      obtain ⟨hne, hold⟩ := Kernel.sets_close_eq_some hopen hreg
      obtain ⟨p, ge, he, hfd', hrest⟩ := hinv.registered e fd' reg hold
      exact ⟨p, ge, by rwa [hepoll], by rwa [hfd, Function.update_of_ne hne], hrest⟩
    handed := by
      intro fd' p ge hfd'
      by_cases hne : fd' = fd
      · simp [hfd, hne] at hfd'
      · rw [hfd, Function.update_of_ne hne] at hfd'
        have hnew := hhanded fd' p ge hne (hinv.handed fd' p ge hfd') hfd'
        exact ⟨hnew.ev, hnew.mem, hnew.node⟩ }

/-- `close` of a descriptor that the thread has not handed over. -/
theorem triple_close (hzero : fd ≠ 0) :
    discipline.Triple t (fun g s => Ctx t d rest g ∧ HoldsFd t (.fresh t) fd g s)
      (perform (.close fd)) fun _ g _ => Ctx t d rest g := by
  refine .perform (fun _ => stable_ctx t d rest) ?_ ?_
  · intro g s hinv hp
    refine ⟨fun ht => ⟨by simp [Cmd.touches], by simp, ?_⟩, trivial,
      fun _ => by simp [Confined, Cmd.node], hp.2.files_ne_none hinv⟩
    intro fd' hfd'
    obtain rfl : fd = fd' := Option.some.inj hfd'
    exact hp.2.last (by rw [ht])
  · intro g s a v s' hinv hp hstep
    obtain ⟨rfl, rfl⟩ := Prod.mk.inj (Option.some.inj hstep)
    refine ⟨g.setFd fd none, ?_, ?_, ?_⟩
    · exact hinv.close (by simp [hp.2.state]) hzero rfl rfl (fun _ h => h)
        fun fd' p ge _ hold _ => ⟨hold.ev, hold.mem, hold.node⟩
    · intro u hu
      refine ⟨fun _ _ hx _ => ⟨hx, rfl, rfl⟩, ?_, rfl, fun _ _ he => he, fun _ => by simp⟩
      intro fd' y hy ho
      have hne : fd' ≠ fd := by
        rintro rfl
        obtain rfl : .fresh t = y := Option.some.inj (hp.2.state.symm.trans hy)
        exact hu ho.symm
      exact ⟨by simpa [Ghost.setFd, hne] using hy, by simp [hne]⟩
    · refine ⟨hp.1.dying, hp.1.nodup, ?_, hp.1.bits⟩
      intro r hr
      obtain ⟨ge, hptr, hfd⟩ := hp.1.handed r hr
      have hne : r.fd ≠ fd := by
        intro heq
        simp [heq, hp.2.state] at hfd
      exact ⟨ge, hptr, by simpa [Ghost.setFd, hne] using hfd⟩

/-- **`close` of a connection.**  The registration is gone, so the thread has its event
for itself again; the other entries of its batch are not affected. -/
theorem triple_close_handed {ge : EventPtr} {ev : EventMem} {l : Link NodeAddr}
    (ht : t.IsDatanet) (hrest : fd ∉ rest.map ReadyEvent.fd) :
    discipline.Triple t
      (Holding t (some ge) rest ⟨.handed t.poller, .handed t.poller ge, fd, ge, ev, l⟩)
      (perform (.close fd))
      fun _ g s => Ctx t none rest g ∧ HoldsEv t (.fresh t) ge ev l g s := by
  obtain ⟨i, rfl⟩ := ht
  refine .perform (fun _ => (stable_ctx _ _ _).and (stable_holdsEv _ _ _ _ _)) ?_ ?_
  · intro g s hinv hh
    exact ⟨nofun, trivial, fun _ => by simp [Confined, Cmd.node], hh.fd.files_ne_none hinv⟩
  · intro g s a v s' hinv hh hstep
    obtain ⟨rfl, rfl⟩ := Prod.mk.inj (Option.some.inj hstep)
    have hfd : g.fd fd = some (.handed (.datanet i) ge) := hh.fd.state
    have hev : g.ev ge = some (.handed (.datanet i)) := hh.ev.state
    have hzero : fd ≠ 0 := by
      rintro rfl
      cases hinv.zero_owner _ hfd
    let g' : Ghost :=
      ((g.setFd fd none).setEv ge (some (.fresh (.datanet i)))).unlink (.datanet i) none
    have hkept : ∀ fd' p ge', fd' ≠ fd → g.fd fd' = some (.handed p ge') → ge' ≠ ge := by
      rintro fd' p ge' hne hfd' rfl
      exact hne (hinv.handed_inj hfd' hfd)
    refine ⟨g', hinv.close (by simp [hfd]) hzero rfl rfl ?_ ?_, ?_, ?_, ?_⟩
    · intro ge' hge'
      by_cases hne : ge' = ge
      · simp [hne, hev]
      · simpa [g', Ghost.setEv, Ghost.setFd, Ghost.unlink, hne] using hge'
    · intro fd' p ge' hne hold hfd'
      have hge : ge' ≠ ge := hkept fd' p ge' hne hfd'
      refine ⟨?_, hold.mem, hold.node.imp_right fun hdying => ?_⟩
      · simpa [g', Ghost.setEv, Ghost.setFd, Ghost.unlink, hge] using hold.ev
      · by_cases hp : runner p = .datanet i
        · rw [hp, hh.ctx.dying] at hdying
          exact absurd (Option.some.inj hdying).symm hge
        · simpa [g', Ghost.setEv, Ghost.setFd, Ghost.unlink, hp] using hdying
    · intro u hu
      refine ⟨?_, ?_, by simp [g', Ghost.setEv, Ghost.setFd, Ghost.unlink, hu], fun _ _ he => he,
        fun _ => by simp⟩
      · intro ge' x hx ho
        have hne : ge' ≠ ge := by
          rintro rfl
          obtain rfl : .handed (.datanet i) = x := Option.some.inj (hev.symm.trans hx)
          exact hu ho.symm
        exact ⟨by simpa [g', Ghost.setEv, Ghost.setFd, Ghost.unlink, hne] using hx, rfl, rfl⟩
      · intro fd' y hy ho
        have hne : fd' ≠ fd := by
          rintro rfl
          obtain rfl : .handed (.datanet i) ge = y := Option.some.inj (hfd.symm.trans hy)
          exact hu ho.symm
        exact ⟨by simpa [g', Ghost.setEv, Ghost.setFd, Ghost.unlink, hne] using hy, by simp [hne]⟩
    · refine ⟨by simp [g', Ghost.unlink], hh.ctx.nodup, ?_, hh.ctx.bits⟩
      intro r hr
      obtain ⟨ge', hptr, hfd'⟩ := hh.ctx.handed r hr
      have hne : r.fd ≠ fd := by
        intro heq
        exact hrest (heq ▸ List.mem_map_of_mem hr)
      exact ⟨ge', hptr, by simpa [g', Ghost.setEv, Ghost.setFd, Ghost.unlink, hne] using hfd'⟩
    · exact ⟨rfl, by simp [g', Ghost.setEv, Ghost.setFd, Ghost.unlink], hh.ev.mem, hh.ev.node⟩

end Descriptors

/-! ## Registrations -/

section Registrations

variable {t : Thread} {d : Option EventPtr} {rest : List ReadyEvent} {g : Ghost} {s : Shared}
  {p : PollerId} {e fd : ℤ} {ge : EventPtr} {ev : EventMem}

/-- A change of the kernel that leaves the open files alone. -/
theorem Inv.setKernel (hinv : Inv g s) {k : Kernel (Option EventPtr)}
    (hfiles : k.files = s.kernel.files)
    (hreg : ∀ e fd reg, k.sets e fd = some reg → s.kernel.sets e fd = some reg ∨ ∃ p ge,
      g.epoll e = some p ∧ g.fd fd = some (.handed p ge) ∧ reg.data = some ge ∧
        reg.events &&& ~~~epollin = 0) : Inv g { s with kernel := k } where
  elist := hinv.elist
  zero_open := hfiles ▸ hinv.zero_open
  zero_owner := hinv.zero_owner
  ev_live := hinv.ev_live
  fd_open := hfiles ▸ hinv.fd_open
  epoll_open := hfiles ▸ hinv.epoll_open
  epolls := hinv.epolls
  epfd := hinv.epfd
  registered e fd reg hset := (hreg e fd reg hset).elim (hinv.registered e fd reg) id
  handed fd p ge hfd :=
    have hold := hinv.handed fd p ge hfd
    ⟨hold.ev, hold.mem, hold.node⟩

/-- Only an epoll descriptor of the poller lets `epoll_ctl` succeed. -/
theorem Inv.epoll_of_ok (hinv : Inv g s) (he : EpfdOf p e g) {a : Reply}
    (hok : ctlFailure a e fd s = none) : g.epoll e = some p := by
  have hepoll : s.epolls e = true := by
    by_contra hne
    simp [ctlFailure, hne] at hok
  obtain ⟨q, hq⟩ := Option.ne_none_iff_exists'.mp (hinv.epolls e hepoll)
  rwa [he.eq hinv hq] at hq

/-- The registration that `epoll_ctl` makes of an event that was handed over. -/
theorem Inv.epollCtl (hinv : Inv g s) (he : EpfdOf p e g) (hfd : g.fd fd = some (.handed p ge))
    (hshape : Shape p fd ge ev) (a : Reply) (op : EpollOp) :
    Inv g { s with kernel := (s.kernel.epollCtl (ctlFailure a e fd s) e op fd ev.e).2 } := by
  refine hinv.setKernel (Kernel.files_epollCtl _ _ _ _ _ _) ?_
  intro e' fd' reg hset
  cases hfail : (s.kernel.epollCtl (ctlFailure a e fd s) e op fd ev.e).1 with
  | some errnum =>
      left
      rwa [Kernel.sets_epollCtl_of_err hfail] at hset
  | none =>
      by_cases hne : fd' = fd
      · subst hne
        refine (Kernel.sets_epollCtl_eq_some hset).imp_right ?_
        rintro ⟨rfl, rfl⟩
        have hok : ctlFailure a e' fd' s = none := by
          rw [Kernel.fst_epollCtl] at hfail
          exact (Option.or_eq_none_iff.mp hfail).1
        exact ⟨p, ge, hinv.epoll_of_ok he hok, hfd, hshape.data, hshape.mask⟩
      · left
        rwa [Kernel.sets_epollCtl_of_ne _ _ _ _ _ _ hne] at hset

/-- Hand an event and its descriptor over to the thread that runs the poller. -/
def Ghost.hand (g : Ghost) (p : PollerId) (fd : ℤ) (ge : EventPtr) : Ghost :=
  (g.setEv ge (some (.handed p))).setFd fd (some (.handed p ge))

section Hand

variable (hh : Holding t d rest ⟨.fresh t, .fresh t, fd, ge, ev, ring p⟩ g s)
include hh

/-- **The hand-over.**  An event that is complete and linked may be handed over. -/
theorem Inv.hand (hinv : Inv g s) (hshape : Shape p fd ge ev) (hzero : fd ≠ 0 ∨ runner p = .main) :
    Inv (g.hand p fd ge) s := by
  have hfd : g.fd fd = some (.fresh t) := hh.fd.state
  have hev : g.ev ge = some (.fresh t) := hh.ev.state
  have hkept : ∀ {fd' q ge'}, g.fd fd' = some (.handed q ge') →
      (g.hand p fd ge).fd fd' = some (.handed q ge') := by
    intro fd' q ge' hfd'
    have hne : fd' ≠ fd := by
      rintro rfl
      simp [hfd] at hfd'
    simpa [Ghost.hand, Ghost.setFd, Ghost.setEv, hne] using hfd'
  exact {
    elist := hinv.elist
    zero_open := hinv.zero_open
    zero_owner := by
      intro y hy
      by_cases h0 : fd = 0
      · subst h0
        obtain rfl : .handed p ge = y := by simpa [Ghost.hand, Ghost.setFd] using hy
        exact hzero.resolve_left (by simp)
      · exact hinv.zero_owner y
          (by simpa [Ghost.hand, Ghost.setFd, Ghost.setEv, Ne.symm h0] using hy)
    ev_live := by
      intro ge' hge'
      by_cases hne : ge' = ge
      · exact hinv.ev_live ge' (by simp [hne, hev])
      · exact hinv.ev_live ge' (by simpa [Ghost.hand, Ghost.setFd, Ghost.setEv, hne] using hge')
    fd_open := by
      intro fd' hfd'
      by_cases hne : fd' = fd
      · exact hinv.fd_open fd' (by simp [hne, hfd])
      · exact hinv.fd_open fd' (by simpa [Ghost.hand, Ghost.setFd, Ghost.setEv, hne] using hfd')
    epoll_open := by
      intro e q he
      obtain ⟨hpos, hopen, hnone⟩ := hinv.epoll_open e q he
      have hne : e ≠ fd := by
        rintro rfl
        simp [hfd] at hnone
      exact ⟨hpos, hopen, by simpa [Ghost.hand, Ghost.setFd, Ghost.setEv, hne] using hnone⟩
    epolls := hinv.epolls
    epfd := hinv.epfd
    registered := by
      intro e fd' reg hset
      obtain ⟨q, ge', he, hfd', hrest⟩ := hinv.registered e fd' reg hset
      exact ⟨q, ge', he, hkept hfd', hrest⟩
    handed := by
      intro fd' q ge' hfd'
      by_cases hne : fd' = fd
      · subst hne
        obtain ⟨rfl, rfl⟩ : p = q ∧ ge = ge' := by
          simpa [Ghost.hand, Ghost.setFd] using hfd'
        exact ⟨by simp [Ghost.hand, Ghost.setFd, Ghost.setEv], ⟨ev, hh.ev.mem, hshape⟩,
          .inl hh.ev.node⟩
      · have hold := hinv.handed fd' q ge'
          (by simpa [Ghost.hand, Ghost.setFd, Ghost.setEv, hne] using hfd')
        have hge : ge' ≠ ge := by
          rintro rfl
          have hstate := hold.ev
          simp [hev] at hstate
        exact ⟨by simpa [Ghost.hand, Ghost.setFd, Ghost.setEv, hge] using hold.ev, hold.mem,
          hold.node⟩ }

/-- The other threads see what they own as before. -/
theorem rely_hand {u : Thread} (hu : u ≠ t) : Rely u g s (g.hand p fd ge) s where
  ev ge' x hx ho := by
    have hne : ge' ≠ ge := by
      rintro rfl
      obtain rfl : .fresh t = x := Option.some.inj (hh.ev.state.symm.trans hx)
      exact hu ho.symm
    exact ⟨by simpa [Ghost.hand, Ghost.setFd, Ghost.setEv, hne] using hx, rfl, rfl⟩
  fd fd' y hy ho := by
    have hne : fd' ≠ fd := by
      rintro rfl
      obtain rfl : .fresh t = y := Option.some.inj (hh.fd.state.symm.trans hy)
      exact hu ho.symm
    exact ⟨by simpa [Ghost.hand, Ghost.setFd, Ghost.setEv, hne] using hy, rfl⟩
  dying := rfl
  epoll _ _ he := he
  accepted _ := rfl

/-- The thread that gave the event away goes on with its batch. -/
theorem Ctx.hand : Ctx t d rest (g.hand p fd ge) where
  dying := hh.ctx.dying
  nodup := hh.ctx.nodup
  handed r hr := by
    obtain ⟨ge', hptr, hfd'⟩ := hh.ctx.handed r hr
    have hne : r.fd ≠ fd := by
      intro heq
      have hfd : g.fd fd = some (.fresh t) := hh.fd.state
      simp [heq, hfd] at hfd'
    exact ⟨ge', hptr, by simpa [Ghost.hand, Ghost.setFd, Ghost.setEv, hne] using hfd'⟩
  bits := hh.ctx.bits

end Hand

/-- `epoll_ctl` notes a call and changes a set. -/
theorem rely_epollCtl {u : Thread} {g' : Ghost} (hr : Rely u g s g' s) (a : Reply) (op : EpollOp) :
    Rely u g s g'
      { s with kernel := (s.kernel.epollCtl (ctlFailure a e fd s) e op fd ev.e).2 } where
  ev := hr.ev
  fd fd' y hy ho := ⟨(hr.fd fd' y hy ho).1, by simp⟩
  dying := hr.dying
  epoll := hr.epoll
  accepted _ := by simp

/-- A thread may pass its own event and descriptor to `epoll_ctl`. -/
theorem Holding.check_epollCtl {h : Held} {op : EpollOp} (hinv : Inv g s)
    (hh : Holding t d rest h g s)
    (hy : h.y = .fresh t ∨ t ≠ .network) : Check t (.epollCtl e op h.fd h.ge) s where
  handover ht := by
    refine ⟨?_, by simp, ?_⟩
    · intro ge hge
      obtain rfl : h.ge = ge := Option.some.inj hge
      exact ⟨by simp [hh.ev.mem], hh.ev.not_onDatanet hinv ht⟩
    · intro fd hfd
      obtain rfl : h.fd = fd := Option.some.inj hfd
      exact hh.fd.last (ht ▸ hy.resolve_right (not_not.mpr ht))
  call := trivial
  confined _ := by simp [Confined, Cmd.node]
  intact := ⟨by simp [hh.ev.mem], hh.fd.files_ne_none hinv⟩

/-- **`EPOLL_CTL_ADD`.**  If it succeeds, the event belongs to the thread that runs the
poller from this moment on; in either case the caller is done with it. -/
theorem triple_epollCtl_add (hshape : Shape p fd ge ev) (hzero : fd ≠ 0 ∨ runner p = .main) :
    discipline.Triple t
      (fun g s => EpfdOf p e g ∧ Holding t d rest ⟨.fresh t, .fresh t, fd, ge, ev, ring p⟩ g s)
      (perform (.epollCtl e .add fd ge)) fun _ g _ => Ctx t d rest g := by
  refine .perform (fun _ => stable_ctx t d rest) ?_ ?_
  · intro g s hinv hp
    exact hp.2.check_epollCtl hinv (.inl rfl)
  · intro g s a v s' hinv hp hstep
    obtain ⟨rfl, rfl⟩ := Prod.mk.inj (Option.some.inj hstep)
    simp only [hp.2.ev.mem, Option.getD_some]
    refine ⟨g.hand p fd ge, ?_, ?_, Ctx.hand hp.2⟩
    · exact (Inv.hand hp.2 hinv hshape hzero).epollCtl hp.1
        (by simp [Ghost.hand, Ghost.setFd]) hshape a .add
    · intro u hu
      exact rely_epollCtl (rely_hand hp.2 hu) a .add

/-- `EPOLL_CTL_MOD` of an event that was handed over, by the thread that has it. -/
theorem triple_epollCtl_mod {l : Link NodeAddr} (hshape : Shape t.poller fd ge ev)
    (ht : t ≠ .network) (op : EpollOp) :
    discipline.Triple t
      (fun g s => EpfdOf t.poller e g ∧
        Holding t d rest ⟨.handed t.poller, .handed t.poller ge, fd, ge, ev, l⟩ g s)
      (perform (.epollCtl e op fd ge))
      fun _ => Holding t d rest ⟨.handed t.poller, .handed t.poller ge, fd, ge, ev, l⟩ := by
  refine .perform (fun _ => stable_holding t d rest _) ?_ ?_
  · intro g s hinv hp
    exact hp.2.check_epollCtl hinv (.inr ht)
  · intro g s a v s' hinv hp hstep
    obtain ⟨rfl, rfl⟩ := Prod.mk.inj (Option.some.inj hstep)
    simp only [hp.2.ev.mem, Option.getD_some]
    refine ⟨g, hinv.epollCtl hp.1 hp.2.fd.state hshape a op, ?_, hp.2.ctx, ?_, ?_⟩
    · intro u _
      exact rely_epollCtl (Rely.refl u g s) a op
    · exact ⟨hp.2.ev.owner, hp.2.ev.state, hp.2.ev.mem, hp.2.ev.node⟩
    · exact ⟨hp.2.fd.owner, hp.2.fd.state, nofun⟩

/-- An event that asks for `EPOLLIN` at most is never reported writable. -/
theorem and_epollout_of_requested {x y : BitVec 32} (hy : y &&& ~~~epollin = 0)
    (hx : x &&& ~~~(y ||| epollerr ||| epollhup) = 0) : x &&& epollout = 0 := by
  refine and_epollout_eq_zero (BitVec.eq_of_getLsbD_eq fun i hi => ?_)
  have hxi := congrArg (·.getLsbD i) hx
  have hyi := congrArg (·.getLsbD i) hy
  simp only [BitVec.getLsbD_and, BitVec.getLsbD_not, BitVec.getLsbD_or, hi, decide_true,
    Bool.true_and] at hxi hyi ⊢
  grind

/-- **`epoll_wait`.**  Every entry it reports is about an event that was handed over to
the thread, and no two are about the same. -/
theorem triple_epollWait (maxe : ℤ) :
    discipline.Triple t (fun g _ => EpfdOf t.poller e g ∧ Ctx t none [] g)
      (perform (.epollWait e maxe)) fun ee g _ => Ctx t none ee g := by
  refine .look (fun ee => stable_ctx t none ee) ?_ ?_
  · intro g s _ _
    exact check_of_quiet rfl rfl rfl (by simp) trivial
  · intro g s a ee s' hinv hp hstep
    simp only [discipline, respond] at hstep
    split at hstep
    · rename_i hrep
      obtain ⟨rfl, rfl⟩ := Prod.mk.inj (Option.some.inj hstep)
      have hreg : ∀ r ∈ a.ready, ∃ ge, r.ptr = some ge ∧
          g.fd r.fd = some (.handed t.poller ge) ∧ r.events &&& epollout = 0 := by
        intro r hr
        obtain ⟨reg, hset, hptr, hbits⟩ := hrep.entries r hr
        obtain ⟨q, ge, he, hfd, hdata, hmask⟩ := hinv.registered e r.fd reg hset
        obtain rfl : q = t.poller := hp.1.eq hinv he
        exact ⟨ge, hptr.trans hdata, hfd, and_epollout_of_requested hmask hbits⟩
      refine ⟨rfl, hp.2.dying, hrep.nodup, ?_, fun r hr => (hreg r hr).choose_spec.2.2⟩
      intro r hr
      obtain ⟨ge, hptr, hfd, -⟩ := hreg r hr
      exact ⟨ge, hptr, hfd⟩
    · cases hstep

end Registrations

end GuitarTea.Threads
