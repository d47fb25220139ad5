import GuitarTea.List
import GuitarTea.Log
import GuitarTea.Lib.Kernel

/-!
# The poller engine

The data of `gt_poller.h` and the functions of `gt_poller.c` that create, destroy,
start and stop events.  The state is explicit: the pollers are the globals of the
program, events live in a store and disappear from it when they are freed, and
the `list` members of events together with the `elist` members of pollers are the
cells of one heap.  An access to an event or a cell that is not there is `none`.

A function takes what the outside world answers to its calls as arguments: the
address `malloc` returns (`none` for a null pointer) and the error `epoll_ctl`
reports although the epoll set would allow the request.

## Main definitions

* `GtPoller`, `GtEvent`, `World` — the data and the state.
* `gtPollerEventStart`, `gtPollerEventStop` — interest in events.
* `gtPollerGeventCreate`, `gtPollerGeventDestroy` — the life of an event.
* `gtPollerInit`, `gtPollerClean` — a poller before its first event and after its last.
-/

namespace GuitarTea

/-! ## Data -/

/-- The pollers of the program: `g_gt_core_poller`, `g_gt_network_poller` and the
four entries of `g_gt_datanet_poller`. -/
inductive PollerId
  | core
  | network
  | datanet (i : Fin 4)
  deriving DecidableEq, Repr

/-- The address of a `struct gt_event` on the heap. -/
abbrev EventPtr := ℕ

/-- The address of a `struct list_head`: the `elist` of a poller, the `list` of an
event, the null pointer or one of the two poison values. -/
inductive NodeAddr
  | elist (p : PollerId)
  | node (ge : EventPtr)
  | null
  | listPoison1
  | listPoison2
  deriving DecidableEq, Repr

/-- The functions that are assigned to `ops.read`. -/
inductive GtReadFn
  | gtSignalOpsRead
  | gtNetworkOpsRead
  | gtDatanetOpsRead
  deriving DecidableEq, Repr

/-- The functions that are assigned to `ops.write`: there are none. -/
inductive GtWriteFn
  deriving DecidableEq, Repr

/-- `struct gt_ops`; `none` is a null pointer. -/
structure GtOps where
  read : Option GtReadFn
  write : Option GtWriteFn
  deriving DecidableEq, Repr

/-- `struct gt_event`, without its `list` member, which is the cell `.node` of the
event.  `e.data` is `data.ptr`. -/
structure GtEvent where
  efd : ℤ
  ops : GtOps
  e : EpollEvent (Option EventPtr)
  gpoller : PollerId
  deriving DecidableEq, Repr

/-- `struct gt_poller`, without its `elist` member, which is the cell `.elist` of
the poller.  `ee` says whether the array of reported events was allocated. -/
structure GtPoller where
  epfd : ℤ
  ee : Bool
  maxe : ℤ
  timeout : ℤ
  deriving DecidableEq, Repr

/-- The two functions that act on a signal. -/
inductive GtProcessFn
  | gtProcessSnap
  | gtProcessDump
  deriving DecidableEq, Repr

/-- The state of the process and of the kernel. -/
structure World where
  pollers : PollerId → GtPoller
  events : EventPtr → Option GtEvent
  nodes : LinkHeap NodeAddr
  kernel : Kernel (Option EventPtr)
  /-- The logging calls made so far. -/
  log : List LogCall
  /-- The calls of `gt_process_snap` and `gt_process_dump` made so far. -/
  processed : List (GtProcessFn × BitVec 32)

/-- `EPOLLIN`. -/
def epollin : BitVec 32 := 0x001

/-- `EPOLLOUT`. -/
def epollout : BitVec 32 := 0x004

/-- `EPOLLERR`. -/
def epollerr : BitVec 32 := 0x008

/-- `EPOLLHUP`. -/
def epollhup : BitVec 32 := 0x010

namespace World

/-- Record a logging call. -/
def logs (w : World) (c : LogCall) : World := { w with log := w.log ++ [c] }

/-- Overwrite an event in the store. -/
def setEvent (w : World) (ge : EventPtr) (ev : Option GtEvent) : World :=
  { w with events := Function.update w.events ge ev }

/-- The process when it starts: zeroed globals, an empty heap, and the three
standard descriptors open. -/
def boot : World where
  pollers _ := ⟨0, false, 0, 0⟩
  events _ := none
  nodes
    | .elist _ => some ⟨.null, .null⟩
    | _ => none
  kernel :=
    { files := fun fd => if fd = 0 then some 0 else if fd = 1 then some 1
        else if fd = 2 then some 2 else none
      nextFile := 3
      sets := fun _ _ => none
      closes := fun _ => 0
      accepted := []
      ctls := [] }
  log := []
  processed := []

/-- The event at an address belongs to a poller. -/
def LiveOn (w : World) (p : PollerId) (ge : EventPtr) : Prop :=
  ∃ ev, w.events ge = some ev ∧ ev.gpoller = p

/-- The live events after one of them is written. -/
theorem liveOn_update_some {w w' : World} {ge : EventPtr} {ev : GtEvent}
    (h : w'.events = Function.update w.events ge (some ev)) (p : PollerId) (g : EventPtr) :
    w'.LiveOn p g ↔ (g = ge ∧ ev.gpoller = p) ∨ (g ≠ ge ∧ w.LiveOn p g) := by
  by_cases hg : g = ge <;> simp [LiveOn, h, hg]

/-- The live events after one of them is freed. -/
theorem liveOn_update_none {w w' : World} {ge : EventPtr}
    (h : w'.events = Function.update w.events ge none) (p : PollerId) (g : EventPtr) :
    w'.LiveOn p g ↔ g ≠ ge ∧ w.LiveOn p g := by
  by_cases hg : g = ge <;> simp [LiveOn, h, hg]

/-- A null address holds no event of any poller. -/
theorem not_liveOn_of_none {w : World} {ge : EventPtr} (h : w.events ge = none) (p : PollerId) :
    ¬ w.LiveOn p ge := by
  simp [LiveOn, h]

end World

/-! ## Interest in events -/

/-- The common end of `gt_poller_event_start` and `gt_poller_event_stop`: the event
gets the new `e`, which is passed to `epoll_ctl`.  A failure is logged and its `-1`
returned, with the event left as it is. -/
def pollerCtl (func : String) (line : ℕ) (ctl : Option Errno) (op : EpollOp) (ge : EventPtr)
    (gevent : GtEvent) (e : EpollEvent (Option EventPtr)) (w : World) : ℤ × World :=
  let epfd := (w.pollers gevent.gpoller).epfd
  let w := w.setEvent ge (some { gevent with e := e })
  let r := w.kernel.epollCtl ctl epfd op gevent.efd e
  let w := { w with kernel := r.2 }
  match r.1 with
  | some errnum => (-1, w.logs (gtErrorLog func line
      [.text "Failed to epoll_ctl to epfd[", .int epfd, .text "]! errno:", .int errnum,
        .text ", ", .strerror errnum]))
  | none => (gtOk, w)

/-- `gt_poller_event_start`. -/
def gtPollerEventStart (ctl : Option Errno) (eflag : BitVec 32) (ge : EventPtr) (w : World) :
    Option (ℤ × World) :=
  (w.events ge).map fun gevent =>
    let op := if gevent.e.events ≠ 0 then EpollOp.mod else EpollOp.add
    if gevent.e.events &&& eflag ≠ 0 then (gtOk, w)
    else pollerCtl "gt_poller_event_start" 46 ctl op ge gevent
      ⟨gevent.e.events ||| eflag, some ge⟩ w

/-- `gt_poller_event_stop`. -/
def gtPollerEventStop (ctl : Option Errno) (eflag : BitVec 32) (ge : EventPtr) (w : World) :
    Option (ℤ × World) :=
  (w.events ge).map fun gevent =>
    let op := if gevent.e.events ≠ 0 then EpollOp.mod else EpollOp.del
    if gevent.e.events &&& eflag = 0 then (gtOk, w)
    else pollerCtl "gt_poller_event_stop" 73 ctl op ge gevent
      { gevent.e with events := gevent.e.events &&& ~~~eflag } w

/-! ## The life of an event -/

/-- `gt_poller_gevent_create`: the new event, or `none` when `malloc` fails.  The
arguments of `list_add` stand in the order of the source, with the poller's list
in the place of the new entry. -/
def gtPollerGeventCreate (malloc : Option EventPtr) (efd : ℤ) (gpoller : PollerId) (w : World) :
    Option (Option EventPtr × World) :=
  match malloc with
  | none => some (none, w.logs (gtErrorLog "gt_poller_gevent_create" 84
      [.text "Failed to alloc mem to gt_event"]))
  | some ge => do
      let w := w.setEvent ge (some ⟨efd, ⟨none, none⟩, ⟨0, none⟩, gpoller⟩)
      let nodes := Function.update w.nodes (.node ge) (some ⟨.null, .null⟩)
      let nodes ← initListHead (.node ge) nodes
      let nodes ← listAdd (.elist gpoller) (.node ge) nodes
      some (some ge, { w with nodes := nodes })

/-- `gt_poller_gevent_destroy`. -/
def gtPollerGeventDestroy (ctl : Option Errno) (ge : EventPtr) (w : World) : Option World := do
  let gevent ← w.events ge
  let (_, w) ← gtPollerEventStop ctl gevent.e.events ge w
  let nodes ← listDel .listPoison1 .listPoison2 (.node ge) w.nodes
  let gevent ← w.events ge
  let kernel := w.kernel.close gevent.efd
  let w := { w with nodes := Function.update nodes (.node ge) none, kernel := kernel }
  some (w.setEvent ge none)

/-- `gt_poller_init`.  `epollCreate` is the descriptor or the error of
`epoll_create`, `malloc` whether the array of events was allocated. -/
def gtPollerInit (epollCreate : Except Errno ℤ) (malloc : Bool) (maxe timeout : ℤ)
    (gpoller : PollerId) (w : World) : Option (ℤ × World) :=
  match epollCreate with
  | .error errnum =>
      let poller := { w.pollers gpoller with maxe := maxe, timeout := timeout, epfd := -1 }
      let w := { w with pollers := Function.update w.pollers gpoller poller }
      some (gtError, w.logs (gtErrorLog "gt_poller_init" 118
        [.text "Failed to epoll_ctl to epfd[", .int (-1), .text "]! errno:", .int errnum,
          .text ", ", .strerror errnum]))
  | .ok epfd =>
      let w := { w with
        pollers := Function.update w.pollers gpoller ⟨epfd, malloc, maxe, timeout⟩
        kernel := w.kernel.openFile epfd }
      if malloc then
        (initListHead (.elist gpoller) w.nodes).map fun nodes =>
          (gtOk, { w with nodes := nodes })
      else some (gtError, w.logs (gtErrorLog "gt_poller_init" 125
        [.text "Failed to alloc mem for gpoller."]))

/-- `gt_poller_clean`. -/
def gtPollerClean (gpoller : PollerId) (w : World) : Option World := do
  let empty ← listEmpty (.elist gpoller) w.nodes
  let w := if empty then w
    else w.logs (gtWarnLog "gt_poller_clean" 137 [.text "Warning: List not empty!"])
  let poller := w.pollers gpoller
  some { w with
    kernel := w.kernel.close poller.epfd
    pollers := Function.update w.pollers gpoller { poller with ee := false } }

/-! ## What the functions change -/

section Frame

variable (func : String) (line : ℕ) (ctl : Option Errno) (op : EpollOp) (ge : EventPtr)
  (gevent : GtEvent) (e : EpollEvent (Option EventPtr)) (w : World)

@[simp] theorem pollers_pollerCtl :
    (pollerCtl func line ctl op ge gevent e w).2.pollers = w.pollers := by
  simp only [pollerCtl]
  split <;> rfl

@[simp] theorem nodes_pollerCtl :
    (pollerCtl func line ctl op ge gevent e w).2.nodes = w.nodes := by
  simp only [pollerCtl]
  split <;> rfl

@[simp] theorem events_pollerCtl : (pollerCtl func line ctl op ge gevent e w).2.events =
    Function.update w.events ge (some { gevent with e := e }) := by
  simp only [pollerCtl]
  split <;> rfl

@[simp] theorem kernel_pollerCtl : (pollerCtl func line ctl op ge gevent e w).2.kernel =
    (w.kernel.epollCtl ctl (w.pollers gevent.gpoller).epfd op gevent.efd e).2 := by
  simp only [pollerCtl]
  split <;> rfl

/-- The return code tells whether `epoll_ctl` succeeded. -/
theorem fst_pollerCtl_eq_gtOk_iff : (pollerCtl func line ctl op ge gevent e w).1 = gtOk ↔
    (w.kernel.epollCtl ctl (w.pollers gevent.gpoller).epfd op gevent.efd e).1 = none := by
  simp only [pollerCtl]
  cases h : (w.kernel.epollCtl ctl (w.pollers gevent.gpoller).epfd op gevent.efd e).1 <;>
    simp [World.setEvent, h, gtOk]

end Frame

/-- A state that differs only in the `e` of one event and in what the epoll sets
hold for the descriptor of that event. -/
structure CtlFrame (ge : EventPtr) (ev : GtEvent) (w w' : World) : Prop where
  pollers_eq : w'.pollers = w.pollers
  nodes_eq : w'.nodes = w.nodes
  events_eq : ∃ e, w'.events = Function.update w.events ge (some { ev with e := e })
  kernel_eq : Kernel.SameBut ev.efd w.kernel w'.kernel

theorem CtlFrame.refl {ge : EventPtr} {ev : GtEvent} {w : World} (h : w.events ge = some ev) :
    CtlFrame ge ev w w :=
  ⟨rfl, rfl, ⟨ev.e, by rw [← h, Function.update_eq_self]⟩, .refl _ _⟩

theorem ctlFrame_pollerCtl (func : String) (line : ℕ) (ctl : Option Errno) (op : EpollOp)
    (ge : EventPtr) (gevent : GtEvent) (e : EpollEvent (Option EventPtr)) (w : World) :
    CtlFrame ge gevent w (pollerCtl func line ctl op ge gevent e w).2 where
  pollers_eq := by simp
  nodes_eq := by simp
  events_eq := ⟨e, by simp⟩
  kernel_eq := by
    rw [kernel_pollerCtl]
    exact Kernel.sameBut_epollCtl _ _ _ _ _ _

section Interest

variable {w : World} {ge : EventPtr} {ev : GtEvent} (h : w.events ge = some ev)
  (ctl : Option Errno) {eflag : BitVec 32}
include h

/-- A start of bits one of which is registered already returns at once. -/
theorem gtPollerEventStart_of_overlap (hover : ev.e.events &&& eflag ≠ 0) :
    gtPollerEventStart ctl eflag ge w = some (gtOk, w) := by
  simp only [gtPollerEventStart, h, Option.map_some, if_pos hover]

/-- Any other start adds the bits. -/
theorem gtPollerEventStart_of_disjoint (hover : ev.e.events &&& eflag = 0) :
    gtPollerEventStart ctl eflag ge w = some (pollerCtl "gt_poller_event_start" 46 ctl
      (if ev.e.events ≠ 0 then .mod else .add) ge ev ⟨ev.e.events ||| eflag, some ge⟩ w) := by
  simp only [gtPollerEventStart, h, Option.map_some, if_neg (not_not.mpr hover)]

/-- A stop of bits none of which is registered returns at once. -/
theorem gtPollerEventStop_of_disjoint (hover : ev.e.events &&& eflag = 0) :
    gtPollerEventStop ctl eflag ge w = some (gtOk, w) := by
  simp only [gtPollerEventStop, h, Option.map_some, if_pos hover]

/-- Any other stop issues `EPOLL_CTL_MOD`: the request is chosen while the mask
still has the bits, so `EPOLL_CTL_DEL` is never reached. -/
theorem gtPollerEventStop_of_overlap (hover : ev.e.events &&& eflag ≠ 0) :
    gtPollerEventStop ctl eflag ge w = some (pollerCtl "gt_poller_event_stop" 73 ctl .mod ge ev
      ⟨ev.e.events &&& ~~~eflag, ev.e.data⟩ w) := by
  have hz : ev.e.events ≠ 0 := by
    intro hz
    exact hover (by simp [hz])
  simp only [gtPollerEventStop, h, Option.map_some, if_neg hover, if_pos hz]

/-- `gt_poller_event_stop` on a live event returns and touches only that event. -/
theorem exists_gtPollerEventStop (eflag : BitVec 32) :
    ∃ ret w', gtPollerEventStop ctl eflag ge w = some (ret, w') ∧ CtlFrame ge ev w w' := by
  by_cases hover : ev.e.events &&& eflag = 0
  · exact ⟨gtOk, w, gtPollerEventStop_of_disjoint h ctl hover, .refl h⟩
  · exact ⟨_, _, gtPollerEventStop_of_overlap h ctl hover, ctlFrame_pollerCtl _ _ _ _ _ _ _ _⟩

end Interest

/-- **What `gt_poller_gevent_create` does.**  The new event and the poller's list
become a ring of two; the events that were on the list before are not on it any
more, since `list_add` links the poller's list into the ring of the new event. -/
theorem gtPollerGeventCreate_some {w : World} {p : PollerId} {l : Link NodeAddr}
    (h : w.nodes (.elist p) = some l) (ge : EventPtr) (efd : ℤ) :
    gtPollerGeventCreate (some ge) efd p w = some (some ge,
      { w with
        events := Function.update w.events ge (some ⟨efd, ⟨none, none⟩, ⟨0, none⟩, p⟩)
        nodes := Function.update
          (Function.update w.nodes (.node ge) (some ⟨.elist p, .elist p⟩))
          (.elist p) (some ⟨.node ge, .node ge⟩) }) := by
  have hinit : initListHead (.node ge)
      (Function.update w.nodes (.node ge) (some ⟨.null, .null⟩)) =
        some (Function.update w.nodes (.node ge) (some ⟨.node ge, .node ge⟩)) := by
    rw [initListHead_of_eq (l := ⟨.null, .null⟩) (by simp), Function.update_idem]
  have hadd := listAdd_of_singleton (a := NodeAddr.elist p) (b := .node ge) (l := l)
    (h := Function.update w.nodes (.node ge) (some ⟨.node ge, .node ge⟩)) (by simp)
    (by simp [h]) (by simp)
  simp only [gtPollerGeventCreate, World.setEvent, hinit, hadd, Option.bind_eq_bind,
    Option.bind_some, Function.update_idem]

/-- An event is alone on the list of its poller. -/
def World.addEvent (w : World) (ge : EventPtr) (ev : GtEvent) : World :=
  { w with
    events := Function.update w.events ge (some ev)
    nodes := Function.update
      (Function.update w.nodes (.node ge) (some ⟨.elist ev.gpoller, .elist ev.gpoller⟩))
      (.elist ev.gpoller) (some ⟨.node ge, .node ge⟩) }

/-- The first start of an event issues `EPOLL_CTL_ADD`. -/
theorem gtPollerEventStart_addEvent (w : World) (ge : EventPtr) {ev : GtEvent}
    (hmask : ev.e.events = 0) (ctl : Option Errno) :
    gtPollerEventStart ctl epollin ge (w.addEvent ge ev) =
      some (pollerCtl "gt_poller_event_start" 46 ctl .add ge ev ⟨epollin, some ge⟩
        (w.addEvent ge ev)) := by
  have hev : (w.addEvent ge ev).events ge = some ev := by simp [World.addEvent]
  rw [gtPollerEventStart_of_disjoint hev ctl (by simp [hmask])]
  simp [hmask]

/-- **What `gt_poller_gevent_destroy` does to an event whose two neighbours are the
poller's list.**  The list becomes empty, whatever it held; the descriptor is
closed and the event is gone. -/
theorem exists_gtPollerGeventDestroy {w : World} {ge : EventPtr} {ev : GtEvent}
    {l : Link NodeAddr} (h : w.events ge = some ev)
    (hnode : w.nodes (.node ge) = some ⟨.elist ev.gpoller, .elist ev.gpoller⟩)
    (hlist : w.nodes (.elist ev.gpoller) = some l) (ctl : Option Errno) :
    ∃ w', gtPollerGeventDestroy ctl ge w = some w' ∧ w'.pollers = w.pollers ∧
      w'.events = Function.update w.events ge none ∧
      w'.nodes = Function.update (Function.update w.nodes (.elist ev.gpoller)
        (some ⟨.elist ev.gpoller, .elist ev.gpoller⟩)) (.node ge) none ∧
      ∃ k, Kernel.SameBut ev.efd w.kernel k ∧ w'.kernel = k.close ev.efd := by
  obtain ⟨ret, w₁, hstop, hframe⟩ := exists_gtPollerEventStop h ctl ev.e.events
  obtain ⟨e, he⟩ := hframe.events_eq
  have hev : w₁.events ge = some { ev with e := e } := by simp [he]
  have hdel := listDel_of_star (by simp) hlist hnode .listPoison1 .listPoison2
  have hnodes : w₁.nodes = w.nodes := hframe.nodes_eq
  let w' : World :=
    { w₁ with
      events := Function.update w.events ge none
      nodes := Function.update (Function.update w.nodes (.elist ev.gpoller)
        (some ⟨.elist ev.gpoller, .elist ev.gpoller⟩)) (.node ge) none
      kernel := w₁.kernel.close ev.efd }
  refine ⟨w', ?_, hframe.pollers_eq, rfl, rfl, w₁.kernel, hframe.kernel_eq, rfl⟩
  simp only [gtPollerGeventDestroy, h, hstop, hnodes, hdel, hev, he, Option.bind_eq_bind,
    Option.bind_some, World.setEvent, Function.update_idem, w']

/-- A successful `gt_poller_init` leaves an empty list. -/
theorem nodes_gtPollerInit {epollCreate : Except Errno ℤ} {malloc : Bool} {maxe timeout : ℤ}
    {p : PollerId} {w₀ w : World}
    (h : gtPollerInit epollCreate malloc maxe timeout p w₀ = some (gtOk, w)) :
    w.events = w₀.events ∧ w.nodes (.elist p) = some ⟨.elist p, .elist p⟩ := by
  cases epollCreate with
  | error errnum => simp [gtPollerInit] at h
  | ok epfd =>
      cases malloc with
      | false => simp [gtPollerInit] at h
      | true =>
          cases hl : w₀.nodes (.elist p) with
          | none => simp [gtPollerInit, initListHead, LinkHeap.setNext, hl] at h
          | some l =>
              simp only [gtPollerInit, initListHead_of_eq hl, if_true, Option.map_some,
                Option.some.injEq, Prod.mk.injEq, true_and] at h
              subst h
              exact ⟨rfl, by simp⟩

end GuitarTea
