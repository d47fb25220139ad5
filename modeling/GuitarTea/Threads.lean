import GuitarTea.InitSystem
import GuitarTea.Network
import GuitarTea.Lib.Interleaving

/-!
# The threads that run the pollers

The functions of `gt_poller.c`, `gt_network.c` and `gt_signal.c` once more, this
time one access at a time.  A command is a single read or write of shared memory or
a single system call, so the threads may take turns anywhere.  The functions follow
the source line by line and have its names; `Poller` and `Network` describe the
effect of the same functions when nothing comes in between.

The main thread runs the phase functions and then the core poller, `gt_network_m`
runs the network poller, and each datanet thread initialises its poller and runs it.
The four business threads only sleep.  Here the worker threads do not wait for the
broadcast of `gt_wakeup_pthread`, and they outlive a main thread that gives up, so
the runs of the program are among the runs of the model.

Memory that was freed is not trusted: a read of it returns anything and a write to
it changes nothing.  Following a null pointer and leaving a local array have no answer,
so a thread that does it is stuck.

## Main definitions

* `Thread`, `runner` — the threads, and which of them runs a poller.
* `Shared`, `Cmd`, `Reply`, `respond` — the shared state and its accesses.
* `gtPollerEventStart` … `gtPollerEpollWait`, `body` — the code of the threads.
* `threadSystem`, `Booted` — the interleaving, and where it starts.
-/

namespace GuitarTea.Threads

/-! ## Threads and memory -/

/-- The threads that touch pollers: the main thread, `gt_network_m` and the datanet
threads. -/
inductive Thread
  | main
  | network
  | datanet (i : Fin 4)
  deriving DecidableEq, Repr

/-- The thread that calls `gt_poller_epoll_wait` on a poller. -/
def runner : PollerId → Thread
  | .core => .main
  | .network => .network
  | .datanet i => .datanet i

/-- The poller a thread runs. -/
def Thread.poller : Thread → PollerId
  | .main => .core
  | .network => .network
  | .datanet i => .datanet i

@[simp] theorem runner_poller (t : Thread) : runner t.poller = t := by
  cases t <;> rfl

/-- `struct gt_event` in memory, without its `list` member.  A `gpoller` of `none` is a
null pointer. -/
structure EventMem where
  efd : ℤ
  ops : GtOps
  e : EpollEvent (Option EventPtr)
  gpoller : Option PollerId
  deriving DecidableEq, Repr

/-- An event after `memset`. -/
def EventMem.zero : EventMem := ⟨0, ⟨none, none⟩, ⟨0, none⟩, none⟩

/-- An assignment to a member of an event. -/
inductive EventWrite
  | efd (v : ℤ)
  | read (fn : GtReadFn)
  | events (mask : BitVec 32)
  | data (ptr : Option EventPtr)
  | gpoller (p : PollerId)
  deriving DecidableEq

/-- The event after the assignment. -/
def EventWrite.apply : EventWrite → EventMem → EventMem
  | .efd v, ev => { ev with efd := v }
  | .read fn, ev => { ev with ops := { ev.ops with read := some fn } }
  | .events mask, ev => { ev with e := { ev.e with events := mask } }
  | .data ptr, ev => { ev with e := { ev.e with data := ptr } }
  | .gpoller p, ev => { ev with gpoller := some p }

/-- An assignment to a member of a poller. -/
inductive PollerWrite
  | epfd (v : ℤ)
  | ee (allocated : Bool)
  | maxe (v : ℤ)
  | timeout (v : ℤ)
  deriving DecidableEq

/-- The poller after the assignment. -/
def PollerWrite.apply : PollerWrite → GtPoller → GtPoller
  | .epfd v, p => { p with epfd := v }
  | .ee allocated, p => { p with ee := allocated }
  | .maxe v, p => { p with maxe := v }
  | .timeout v, p => { p with timeout := v }

/-- What the threads share.  `epolls` tells which descriptors are epoll descriptors. -/
structure Shared where
  pollers : PollerId → GtPoller
  events : EventPtr → Option EventMem
  nodes : LinkHeap NodeAddr
  kernel : Kernel (Option EventPtr)
  epolls : ℤ → Bool

/-! ## Accesses -/

/-- System calls on a descriptor that change nothing here. -/
inductive FdCall
  | setsockopt
  | getfl
  | setfl
  | bind
  | listen
  deriving DecidableEq, Repr

/-- An element of `ee`.  `fd` is the descriptor whose registration is reported; the
program does not see it. -/
structure ReadyEvent where
  fd : ℤ
  events : BitVec 32
  ptr : Option EventPtr
  deriving DecidableEq, Repr

/-- What a call of `read` finds: the bytes that the descriptor has to deliver or the error,
what `errno` holds if there is no error, and what the bytes of the buffer that are not
written hold. -/
structure ReadAnswer where
  result : Except Errno (List UInt8)
  errno : Errno
  buf : BitVec 32
  deriving DecidableEq

/-- What `read` of at most `count` bytes leaves behind. -/
structure ReadResult (count : ℕ) where
  result : Except Errno (List UInt8)
  errno : Errno
  buf : BitVec 32
  length_le : ∀ data, result = .ok data → data.length ≤ count

/-- The call takes no more than it asks for. -/
def ReadAnswer.upTo (r : ReadAnswer) (count : ℕ) : ReadResult count :=
  ⟨readUpTo count r.result, r.errno, r.buf, fun _ h => length_le_of_readUpTo h⟩

/-- The return value of `read`, the bytes, and what `errno` holds afterwards. -/
def ReadResult.outcome {count : ℕ} (r : ReadResult count) : ℤ × List UInt8 × Errno :=
  match r.result with
  | .ok data => (data.length, data, r.errno)
  | .error errnum => (-1, [], errnum)

/-- The number of bytes is what was asked for, or less. -/
theorem ReadResult.length_outcome_le {count : ℕ} (r : ReadResult count) :
    r.outcome.2.1.length ≤ count := by
  cases h : r.result with
  | ok data => simpa only [ReadResult.outcome, h] using r.length_le data h
  | error errnum => simp [ReadResult.outcome, h]

/-- A connection that `accept` returned: the descriptor and the address of the peer. -/
structure Accepted where
  cfd : ℤ
  sAddr : BitVec 32
  sinPort : BitVec 16
  deriving DecidableEq

/-- One access to the shared state, or one system call. -/
inductive Cmd
  /-- `gt_malloc_mem` of a `struct gt_event`. -/
  | malloc
  | memset (ge : EventPtr)
  /-- Read the event; the code uses one member of it. -/
  | load (ge : EventPtr)
  /-- Read `ge->efd` for the line of the log about a handler that failed, at the end of the
  loop body of `gt_poller_epoll_wait`. -/
  | loadEfd (ge : EventPtr)
  | store (ge : EventPtr) (w : EventWrite)
  | free (ge : EventPtr)
  | getNext (n : NodeAddr)
  | getPrev (n : NodeAddr)
  | setNext (n v : NodeAddr)
  | setPrev (n v : NodeAddr)
  /-- Read the poller; the code uses one member of it. -/
  | loadPoller (p : Option PollerId)
  | storePoller (p : PollerId) (w : PollerWrite)
  /-- `gt_malloc_mem` of the array of reported events. -/
  | mallocEe
  /-- Use a pointer to an event. -/
  | deref (ptr : Option EventPtr)
  /-- Call `ops.read` on an event. -/
  | call (fn : Option GtReadFn) (ge : EventPtr)
  /-- Call `ops.write` on an event. -/
  | callWrite (fn : Option GtWriteFn) (ge : EventPtr)
  | epollCreate
  /-- `epoll_ctl` with the address of the `e` of an event. -/
  | epollCtl (epfd : ℤ) (op : EpollOp) (fd : ℤ) (ge : EventPtr)
  | epollWait (epfd maxe : ℤ)
  | socket
  | accept (fd : ℤ)
  | fdCall (c : FdCall) (fd : ℤ)
  | read (fd : ℤ) (count : ℕ)
  | close (fd : ℤ)
  | log (c : LogCall)
  /-- Leave an array: nothing comes after it. -/
  | fault
  deriving DecidableEq

/-- The value of a command. -/
@[reducible] def Cmd.Val : Cmd → Type
  | .malloc => Option EventPtr
  | .load _ => EventMem
  | .loadEfd _ => ℤ
  | .getNext _ | .getPrev _ => NodeAddr
  | .loadPoller _ => GtPoller
  | .mallocEe => Bool
  | .deref _ => EventPtr
  | .call _ _ => GtReadFn
  | .callWrite _ _ => GtWriteFn
  | .epollCreate | .socket => Except Errno ℤ
  | .accept _ => Except Errno Accepted
  | .epollCtl _ _ _ _ | .fdCall _ _ => Option Errno
  | .epollWait _ _ => List ReadyEvent
  | .read _ count => ReadResult count
  | .fault => Empty
  | _ => Unit

/-- What the environment decides about a command: the address `malloc` returns, what
memory holds that was not written or was freed, the descriptor or the error of a call,
the peer of a connection, what `read` and `epoll_wait` report. -/
structure Reply where
  ptr : Option EventPtr := none
  mem : EventMem := .zero
  addr : NodeAddr := .null
  ok : Bool := true
  err : Option Errno := none
  fd : ℤ := 0
  sAddr : BitVec 32 := 0
  sinPort : BitVec 16 := 0
  read : ReadAnswer := ⟨.ok [], 0, 0⟩
  ready : List ReadyEvent := []

/-- `EBADF`. -/
def ebadf : Errno := 9

/-- What `epoll_wait` can report: registrations of the epoll set, each once, with
requested bits or `EPOLLERR` or `EPOLLHUP`, and at most `maxe` of them. -/
structure Reports (k : Kernel (Option EventPtr)) (epfd maxe : ℤ) (ee : List ReadyEvent) :
    Prop where
  length_le : (ee.length : ℤ) ≤ max maxe 0
  nodup : (ee.map ReadyEvent.fd).Nodup
  entries : ∀ r ∈ ee, ∃ reg ∈ k.sets epfd r.fd, r.ptr = reg.data ∧
    r.events &&& ~~~(reg.events ||| epollerr ||| epollhup) = 0

instance (k : Kernel (Option EventPtr)) (epfd maxe : ℤ) (ee : List ReadyEvent) :
    Decidable (Reports k epfd maxe ee) :=
  have : ∀ r : ReadyEvent, Decidable (∃ reg ∈ k.sets epfd r.fd, r.ptr = reg.data ∧
      r.events &&& ~~~(reg.events ||| epollerr ||| epollhup) = 0) := fun r =>
    match k.sets epfd r.fd with
    | none => .isFalse (by simp)
    | some reg => decidable_of_iff (r.ptr = reg.data ∧
        r.events &&& ~~~(reg.events ||| epollerr ||| epollhup) = 0) (by simp)
  decidable_of_iff ((ee.length : ℤ) ≤ max maxe 0 ∧ (ee.map ReadyEvent.fd).Nodup ∧
      ∀ r ∈ ee, ∃ reg ∈ k.sets epfd r.fd, r.ptr = reg.data ∧
        r.events &&& ~~~(reg.events ||| epollerr ||| epollhup) = 0)
    ⟨fun h => ⟨h.1, h.2.1, h.2.2⟩, fun h => ⟨h.1, h.2, h.3⟩⟩

/-- The descriptor of a call that opens a file: a number that is not in use. -/
def freshFd (a : Reply) (s : Shared) : Bool := decide (0 ≤ a.fd) && (s.kernel.files a.fd).isNone

/-- Overwrite one cell of the list heap, if it is there. -/
def Shared.setNode (s : Shared) (n : NodeAddr) (f : Link NodeAddr → Link NodeAddr) : Shared :=
  { s with nodes := Function.update s.nodes n ((s.nodes n).map f) }

/-- Overwrite an event, if it is there. -/
def Shared.setEvent (s : Shared) (ge : EventPtr) (f : EventMem → EventMem) : Shared :=
  { s with events := Function.update s.events ge ((s.events ge).map f) }

/-- The failure of an `epoll_ctl` call that does not depend on the epoll set: the one at
will, or the one of a descriptor that is not open or not an epoll descriptor. -/
def ctlFailure (a : Reply) (epfd fd : ℤ) (s : Shared) : Option Errno :=
  if s.epolls epfd ∧ s.kernel.files fd ≠ none then a.err else some (a.err.getD ebadf)

/-- The value and the effect of a command. -/
def respond : (c : Cmd) → Reply → Shared → Option (c.Val × Shared)
  | .malloc, a, s =>
      match a.ptr with
      | none => some (none, s)
      | some ge =>
          if s.events ge = none then
            some (some ge, { s with
              events := Function.update s.events ge (some a.mem)
              nodes := Function.update s.nodes (.node ge) (some ⟨a.addr, a.addr⟩) })
          else none
  | .memset ge, _, s =>
      some ((), (s.setEvent ge fun _ => .zero).setNode (.node ge) fun _ => ⟨.null, .null⟩)
  | .load ge, a, s => some ((s.events ge).getD a.mem, s)
  | .loadEfd ge, a, s => some (((s.events ge).getD a.mem).efd, s)
  | .store ge w, _, s => some ((), s.setEvent ge w.apply)
  | .free ge, _, s => some ((), { s with
      events := Function.update s.events ge none
      nodes := Function.update s.nodes (.node ge) none })
  | .getNext n, a, s => some (((s.nodes n).map Link.next).getD a.addr, s)
  | .getPrev n, a, s => some (((s.nodes n).map Link.prev).getD a.addr, s)
  | .setNext n v, _, s => some ((), s.setNode n fun l => { l with next := v })
  | .setPrev n v, _, s => some ((), s.setNode n fun l => { l with prev := v })
  | .loadPoller p, _, s => p.map fun p => (s.pollers p, s)
  | .storePoller p w, _, s =>
      some ((), { s with pollers := Function.update s.pollers p (w.apply (s.pollers p)) })
  | .mallocEe, a, s => some (a.ok, s)
  | .deref ptr, _, s => ptr.map fun ge => (ge, s)
  | .call fn _, _, s => fn.map fun fn => (fn, s)
  | .callWrite fn _, _, s => fn.map fun fn => (fn, s)
  | .epollCreate, a, s =>
      match a.err with
      | some errnum => some (.error errnum, s)
      | none =>
          if freshFd a s then
            some (.ok a.fd, { s with
              kernel := s.kernel.openFile a.fd
              epolls := Function.update s.epolls a.fd true })
          else none
  | .epollCtl epfd op fd ge, a, s =>
      let r := s.kernel.epollCtl (ctlFailure a epfd fd s) epfd op fd ((s.events ge).getD a.mem).e
      some (r.1, { s with kernel := r.2 })
  | .epollWait epfd maxe, a, s =>
      if Reports s.kernel epfd maxe a.ready then some (a.ready, s) else none
  | .socket, a, s =>
      match a.err with
      | some errnum => some (.error errnum, s)
      | none =>
          if freshFd a s then some (.ok a.fd, { s with kernel := s.kernel.openFile a.fd }) else none
  | .accept fd, a, s =>
      match a.err with
      | some errnum => some (.error errnum, s)
      | none =>
          if freshFd a s && (s.kernel.files fd).isSome then
            some (.ok ⟨a.fd, a.sAddr, a.sinPort⟩, { s with kernel := s.kernel.accept a.fd })
          else none
  | .fdCall _ _, a, s => some (a.err, s)
  | .read _ count, a, s => some (a.read.upTo count, s)
  | .close fd, _, s => some ((), { s with
      kernel := s.kernel.close fd
      epolls := Function.update s.epolls fd false })
  | .log _, _, s => some ((), s)
  | .fault, _, _ => none

/-! ## The code -/

/-- A function of the program. -/
abbrev Code (α : Type) := Prog Cmd Cmd.Val α

/-- One command. -/
abbrev perform (c : Cmd) : Code c.Val := Prog.perform c

/-- A computation on local memory, which may leave it. -/
def ofOption {α : Type} : Option α → Code α
  | some a => pure a
  | none => do
    let never ← perform .fault
    nomatch never

/-- `INIT_LIST_HEAD`. -/
def initListHead (list : NodeAddr) : Code Unit := do
  perform (.setNext list list)
  perform (.setPrev list list)

/-- `__list_add`. -/
def rawListAdd (xnew prev next : NodeAddr) : Code Unit := do
  perform (.setPrev next xnew)
  perform (.setNext xnew next)
  perform (.setPrev xnew prev)
  perform (.setNext prev xnew)

/-- `list_add`. -/
def listAdd (xnew head : NodeAddr) : Code Unit := do
  let next ← perform (.getNext head)
  rawListAdd xnew head next

/-- `__list_del`. -/
def rawListDel (prev next : NodeAddr) : Code Unit := do
  perform (.setPrev next prev)
  perform (.setNext prev next)

/-- `list_del`. -/
def listDel (entry : NodeAddr) : Code Unit := do
  let prev ← perform (.getPrev entry)
  let next ← perform (.getNext entry)
  rawListDel prev next
  perform (.setNext entry .listPoison1)
  perform (.setPrev entry .listPoison2)

/-- The common end of `gt_poller_event_start` and `gt_poller_event_stop`. -/
def pollerCtl (func : String) (line : ℕ) (op : EpollOp) (gevent : EventPtr)
    (gpoller : Option PollerId) : Code ℤ := do
  let efd := (← perform (.load gevent)).efd
  let epfd := (← perform (.loadPoller gpoller)).epfd
  match ← perform (.epollCtl epfd op efd gevent) with
  | some errnum =>
      let epfd := (← perform (.loadPoller gpoller)).epfd
      perform (.log (gtErrorLog func line
        [.text "Failed to epoll_ctl to epfd[", .int epfd, .text "]! errno:", .int errnum,
          .text ", ", .strerror errnum]))
      return -1
  | none => return gtOk

/-- `gt_poller_event_start`. -/
def gtPollerEventStart (eflag : BitVec 32) (gevent : EventPtr) : Code ℤ := do
  let gpoller := (← perform (.load gevent)).gpoller
  let op := if (← perform (.load gevent)).e.events ≠ 0 then EpollOp.mod else EpollOp.add
  if (← perform (.load gevent)).e.events &&& eflag ≠ 0 then return gtOk
  else
    let events := (← perform (.load gevent)).e.events
    perform (.store gevent (.events (events ||| eflag)))
    perform (.store gevent (.data (some gevent)))
    pollerCtl "gt_poller_event_start" 46 op gevent gpoller

/-- `gt_poller_event_stop`. -/
def gtPollerEventStop (eflag : BitVec 32) (gevent : EventPtr) : Code ℤ := do
  let gpoller := (← perform (.load gevent)).gpoller
  let op := if (← perform (.load gevent)).e.events ≠ 0 then EpollOp.mod else EpollOp.del
  if (← perform (.load gevent)).e.events &&& eflag = 0 then return gtOk
  else
    let events := (← perform (.load gevent)).e.events
    perform (.store gevent (.events (events &&& ~~~eflag)))
    pollerCtl "gt_poller_event_stop" 73 op gevent gpoller

/-- `gt_poller_gevent_create`. -/
def gtPollerGeventCreate (efd : ℤ) (gpoller : PollerId) : Code (Option EventPtr) := do
  match ← perform .malloc with
  | none =>
      perform (.log (gtErrorLog "gt_poller_gevent_create" 84
        [.text "Failed to alloc mem to gt_event"]))
      return none
  | some ge =>
      perform (.memset ge)
      perform (.store ge (.efd efd))
      initListHead (.node ge)
      listAdd (.elist gpoller) (.node ge)
      perform (.store ge (.gpoller gpoller))
      return some ge

/-- `gt_poller_gevent_destroy`. -/
def gtPollerGeventDestroy (ge : EventPtr) : Code Unit := do
  let events := (← perform (.load ge)).e.events
  let _ ← gtPollerEventStop events ge
  listDel (.node ge)
  let efd := (← perform (.load ge)).efd
  perform (.close efd)
  perform (.free ge)

/-- The return value of a call that opens a descriptor. -/
def returned : Except Errno ℤ → ℤ
  | .ok fd => fd
  | .error _ => -1

/-- What `errno` holds after such a call; it is looked at after a failure only. -/
def errnoAfter : Except Errno ℤ → Errno
  | .ok _ => 0
  | .error errnum => errnum

/-- `gt_poller_init`. -/
def gtPollerInit (maxe timeout : ℤ) (gpoller : PollerId) : Code ℤ := do
  perform (.storePoller gpoller (.maxe maxe))
  perform (.storePoller gpoller (.timeout timeout))
  let created ← perform .epollCreate
  perform (.storePoller gpoller (.epfd (returned created)))
  if (← perform (.loadPoller (some gpoller))).epfd < 0 then
    let epfd := (← perform (.loadPoller (some gpoller))).epfd
    let errnum := errnoAfter created
    perform (.log (gtErrorLog "gt_poller_init" 118
      [.text "Failed to epoll_ctl to epfd[", .int epfd, .text "]! errno:", .int errnum,
        .text ", ", .strerror errnum]))
    return gtError
  else
    let ee ← perform .mallocEe
    perform (.storePoller gpoller (.ee ee))
    if (← perform (.loadPoller (some gpoller))).ee then
      initListHead (.elist gpoller)
      return gtOk
    else
      perform (.log (gtErrorLog "gt_poller_init" 125 [.text "Failed to alloc mem for gpoller."]))
      return gtError

/-- The event of a descriptor on a poller: created, given its read handler, started for
`EPOLLIN`.  The value is that of `gt_poller_event_start`, or `none` without memory. -/
def createStarted (efd : ℤ) (p : PollerId) (read : GtReadFn) : Code (Option ℤ) := do
  match ← gtPollerGeventCreate efd p with
  | none => return none
  | some ge =>
      perform (.store ge (.read read))
      return some (← gtPollerEventStart epollin ge)

/-- `gt_datanet_ops_read`. -/
def gtDatanetOpsRead (ge : EventPtr) : Code ℤ := do
  let efd := (← perform (.load ge)).efd
  let r ← perform (.read efd (sizeofBuf - 1))
  let (ret, data, errno) := r.outcome
  let buf ← ofOption ((ByteBuffer.zero sizeofBuf).store 0 data)
  if ret ≤ 0 then
    if eagain = errno ∨ ewouldblock = errno then return gtOk
    else
      let efd := (← perform (.load ge)).efd
      perform (.log (gtInfoLog "gt_datanet_ops_read" 92
        [.text "Failed to read fd:", .int efd, .text ", errno:", .int errno]))
      let _ ← gtPollerEventStop epollin ge
      gtPollerGeventDestroy ge
      return ret
  else
    let efd := (← perform (.load ge)).efd
    let text ← ofOption buf.cString
    perform (.log (gtInfoLog "gt_datanet_ops_read" 98
      [.text "CFD[", .int efd, .text "]: ", .str text]))
    return ret

/-- The buffer is never left: it has room for what `read` was asked for and a NUL. -/
theorem gtDatanetOpsRead_eq (ge : EventPtr) : gtDatanetOpsRead ge = (do
    let efd := (← perform (.load ge)).efd
    let r ← perform (.read efd (sizeofBuf - 1))
    let (ret, data, errno) := r.outcome
    if ret ≤ 0 then
      if eagain = errno ∨ ewouldblock = errno then return gtOk
      else
        let efd := (← perform (.load ge)).efd
        perform (.log (gtInfoLog "gt_datanet_ops_read" 92
          [.text "Failed to read fd:", .int efd, .text ", errno:", .int errno]))
        let _ ← gtPollerEventStop epollin ge
        gtPollerGeventDestroy ge
        return ret
    else
      let efd := (← perform (.load ge)).efd
      perform (.log (gtInfoLog "gt_datanet_ops_read" 98
        [.text "CFD[", .int efd, .text "]: ", .str (data.takeWhile (· ≠ 0))]))
      return ret) := by
  refine congrArg (Prog.vis _) (funext fun ev => congrArg (Prog.vis _) (funext fun r => ?_))
  have hroom : r.outcome.2.1.length < sizeofBuf :=
    Nat.lt_of_le_pred (by decide) r.length_outcome_le
  obtain ⟨buf, hstore, htext⟩ := ByteBuffer.exists_cString_store hroom
  dsimp only [Prog.bind]
  rw [hstore]
  change (if r.outcome.1 ≤ 0 then _ else perform (.load ge) >>= fun ev =>
    ofOption buf.cString >>= _) = _
  rw [htext]
  rfl

/-- `gt_network_round_dispatch`. -/
def gtNetworkRoundDispatch (sockfd : ℤ) : Code ℤ := do
  let pthreadIdx := datanetIdx sockfd
  match ← createStarted sockfd (.datanet pthreadIdx) .gtDatanetOpsRead with
  | none =>
      perform (.log (gtErrorLog "gt_network_round_dispatch" 111
        [.text "Failed to create gt_event for datanet[", .int pthreadIdx.val, .text "]."]))
      return gtOk
  | some ret =>
      if gtOk ≠ ret then
        perform (.log (gtErrorLog "gt_network_round_dispatch" 120
          [.text "Failed to start poller event! sockfd[", .int sockfd, .text "], pthread_idx[",
            .int pthreadIdx.val, .text "]"]))
        return gtError
      else return gtOk

/-- The end of a function that cannot use a new descriptor: it is closed. -/
def closeUnused (func : String) (line : ℕ) (msg : List LogPiece) (fd : ℤ) : Code ℤ := do
  perform (.log (gtErrorLog func line msg))
  perform (.close fd)
  return -1

/-- `gt_network_ops_read`. -/
def gtNetworkOpsRead (ge : EventPtr) : Code ℤ := do
  let efd := (← perform (.load ge)).efd
  match ← perform (.accept efd) with
  | .error errnum =>
      if eagain = errnum ∨ ewouldblock = errnum then return gtOk
      else
        let efd := (← perform (.load ge)).efd
        perform (.log (gtErrorLog "gt_network_ops_read" 141
          [.text "Failed to accept new conn on lfd[", .int efd, .text "]! errno:", .int errnum,
            .text ", ", .strerror errnum]))
        return gtError
  | .ok ⟨cfd, sAddr, sinPort⟩ =>
      match ← perform (.fdCall .setsockopt cfd) with
      | some errnum =>
          closeUnused "gt_network_ops_read" 150 [.text "Failed to set socketopt! errno:",
            .int errnum, .text ", ", .strerror errnum] cfd
      | none =>
          let _ ← perform (.fdCall .getfl cfd)
          match ← perform (.fdCall .setfl cfd) with
          | some errnum =>
              closeUnused "gt_network_ops_read" 161 [.text "Failed to set cfd[", .int cfd,
                .text "]! errno:", .int errnum, .text ", ", .strerror errnum] cfd
          | none =>
              let ret ← gtNetworkRoundDispatch cfd
              if gtOk ≠ ret then return gtError
              else
                perform (.log (gtInfoLog "gt_network_ops_read" 172
                  [.text "Connection form IP[", .hex (ntohl sAddr).toNat, .text "], PORT[",
                    .int (ntohs sinPort).toNat, .text "]"]))
                return gtOk

/-- `gt_signal_ops_read`. -/
def gtSignalOpsRead (ge : EventPtr) : Code ℤ := do
  let pipefd := (← perform (.load ge)).efd
  let r ← perform (.read pipefd 1)
  match r.result with
  | .error errnum =>
      perform (.log (gtErrorLog "gt_signal_ops_read" 226
        [.text "Failed to get Signal from pipefd, errno:", .int errnum, .text ", ",
          .strerror errnum]))
      return gtError
  | .ok [] => return gtOk
  | .ok (b :: _) =>
      let sig := storeFirst r.buf b
      if [GtSig.hup.num, GtSig.quit.num, GtSig.usr1.num, GtSig.usr2.num].contains sig then
        perform (.log (gtInfoLog "gt_process_snap" 76
          [.text "Notice: Snap process now! Signal[", .int sig.toInt, .text "]"]))
      else if [GtSig.ill.num, GtSig.abrt.num, GtSig.bus.num, GtSig.fpe.num, GtSig.segv.num,
          GtSig.sys.num].contains sig then
        perform (.log (gtInfoLog "gt_process_dump" 70
          [.text "Notice: Dump process now! Signal[", .int sig.toInt, .text "]"]))
      return gtOk

/-- A call through `ops.read`. -/
def callReadFn : GtReadFn → EventPtr → Code ℤ
  | .gtSignalOpsRead => gtSignalOpsRead
  | .gtNetworkOpsRead => gtNetworkOpsRead
  | .gtDatanetOpsRead => gtDatanetOpsRead

/-- The body of the loop in `gt_poller_epoll_wait`. -/
def epollWaitBody (r : ReadyEvent) : Code Unit := do
  if r.events &&& epollin ≠ 0 then
    let ge ← perform (.deref r.ptr)
    let read := (← perform (.load ge)).ops.read
    let fn ← perform (.call read ge)
    let ret ← callReadFn fn ge
    if ret < 0 then
      let efd ← perform (.loadEfd ge)
      perform (.log (gtErrorLog "gt_poller_epoll_wait" 160
        [.text "Failed to read for efd:", .int efd]))
  else if r.events &&& epollout ≠ 0 then
    let ge ← perform (.deref r.ptr)
    let write := (← perform (.load ge)).ops.write
    let fn ← perform (.callWrite write ge)
    nomatch fn

/-- `gt_poller_epoll_wait`. -/
def gtPollerEpollWait (gpoller : PollerId) : Code Unit := do
  let epfd := (← perform (.loadPoller (some gpoller))).epfd
  let maxe := (← perform (.loadPoller (some gpoller))).maxe
  let ee ← perform (.epollWait epfd maxe)
  ee.forM epollWaitBody

/-! ## The threads -/

/-- `gt_core_phase0_func`. -/
def gtCorePhase0Func : Code ℤ := gtPollerInit gtCoreMaxevent gtEpollWaitTimeout .core

/-- `gt_signal_phase1_func`. -/
def gtSignalPhase1Func (pipefd : ℤ) : Code ℤ := do
  match ← createStarted pipefd .core .gtSignalOpsRead with
  | none =>
      perform (.log (gtErrorLog "gt_signal_phase1_func" 370
        [.text "Failed to create gt_event for signal."]))
      return gtError
  | some ret => return ret

/-- `gt_network_listenning`. -/
def gtNetworkListenning : Code ℤ := do
  match ← perform .socket with
  | .error errnum =>
      perform (.log (gtErrorLog "gt_network_listenning" 189
        [.text "Failed to create socket! errno:", .int errnum, .text ", ", .strerror errnum]))
      return gtError
  | .ok lfd =>
      match ← perform (.fdCall .setsockopt lfd) with
      | some errnum =>
          closeUnused "gt_network_listenning" 196 [.text "Failed to set socketopt for lfd! errno:",
            .int errnum, .text ", ", .strerror errnum] lfd
      | none =>
          match ← perform (.fdCall .bind lfd) with
          | some errnum =>
              closeUnused "gt_network_listenning" 208 [.text "Failed to bind ip and port to lfd[",
                .int lfd, .text "]! errno:", .int errnum, .text ", ", .strerror errnum] lfd
          | none =>
              match ← perform (.fdCall .listen lfd) with
              | some errnum =>
                  closeUnused "gt_network_listenning" 216
                    [.text "Failed to listen ip and port on lfd[", .int lfd, .text "]! errno:",
                      .int errnum, .text ", ", .strerror errnum] lfd
              | none =>
                  match ← createStarted lfd .network .gtNetworkOpsRead with
                  | none =>
                      perform (.log (gtErrorLog "gt_network_listenning" 224
                        [.text "Failed to create gt_event for network[", .int lfd, .text "]."]))
                      return gtError
                  | some ret =>
                      if gtOk ≠ ret then
                        perform (.log (gtErrorLog "gt_network_listenning" 232
                          [.text "Failed to start poller event to lfd[", .int lfd, .text "]"]))
                        return gtError
                      else
                        perform (.log (gtInfoLog "gt_network_listenning" 235
                          [.text "Start listenning..."]))
                        return gtOk

/-- `gt_network_phase1_func`. -/
def gtNetworkPhase1Func (g : ServerAddr) : Code ℤ := do
  let ret ← gtPollerInit gtNetworkerMaxevent gtEpollWaitTimeout .network
  if gtOk ≠ ret then return ret
  else
    let ret ← gtNetworkListenning
    if gtOk ≠ ret then
      perform (.log (gtErrorLog "gt_network_phase1_func" 251
        [.text "Failed to listenning, ip:", .hex g.gGtServerIp.toNat, .text ", port:",
          .int g.gGtServerPort.toNat]))
      return ret
    else return gtOk

/-- The globals that are set before the phase functions run: the read end of
`g_signal_pipefd`, and the address of the server. -/
structure Globals where
  pipefd : ℤ
  server : ServerAddr

/-- The main thread up to `gt_do_run`, as far as it touches pollers: the phase functions in
the order in which `gt_phase_run` calls them.  A failure ends the thread. -/
def mainStart (g : Globals) : Code Bool := do
  let ret ← gtCorePhase0Func
  if gtOk ≠ ret then return false
  else
    let ret ← gtSignalPhase1Func g.pipefd
    if gtOk ≠ ret then return false
    else
      let ret ← gtNetworkPhase1Func g.server
      return decide (gtOk = ret)

/-- `gt_datanet_pthread_routine` up to its loop. -/
def datanetStart (i : Fin 4) : Code Bool := do
  let ret ← gtPollerInit gtNetworkerMaxevent gtEpollWaitTimeout (.datanet i)
  if gtOk ≠ ret then
    perform (.log (gtErrorLog "gt_datanet_pthread_routine" 171 [.text "Failed to init poller."]))
    return false
  else return true

/-- What a thread has to do before its loop. -/
def start (g : Globals) : Thread → Code Bool
  | .main => mainStart g
  | .network => return true
  | .datanet i => datanetStart i

/-- A round of the loop of a thread: `gt_do_run`, `gt_network_pthread_routine` or
`gt_datanet_pthread_routine`. -/
def body (t : Thread) : Code Bool := do
  gtPollerEpollWait t.poller
  return true

/-- The state of the process: what is shared, and what each thread has still to do. -/
abbrev Config := ThreadConfig Thread Cmd Cmd.Val Shared

/-- All interleavings of the threads, with anything the environment may answer. -/
def threadSystem : ThreadSystem Thread Cmd Cmd.Val Reply Shared := ⟨respond, body⟩

/-- The process before the phase functions: no events, zeroed pollers, and two things
open that matter here: descriptor 0 and the read end of the signal pipe. -/
structure Booted (g : Globals) (c : Config) : Prop where
  code_eq : c.code = start g
  epfd_eq : ∀ p, (c.shared.pollers p).epfd = 0
  events_eq : ∀ ge, c.shared.events ge = none
  elists : ∀ p, c.shared.nodes (.elist p) ≠ none
  sets_eq : ∀ epfd fd, c.shared.kernel.sets epfd fd = none
  epolls_eq : ∀ fd, c.shared.epolls fd = false
  zero_open : c.shared.kernel.files 0 ≠ none
  pipe_open : c.shared.kernel.files g.pipefd ≠ none

/-- A server whose signal pipe is on descriptor 4. -/
def bootGlobals : Globals := ⟨4, ⟨0, 80⟩⟩

/-- The process of that server when the phase functions begin. -/
def bootConfig : Config where
  shared :=
    { pollers := fun _ => ⟨0, false, 0, 0⟩
      events := fun _ => none
      nodes := fun
        | .elist _ => some ⟨.null, .null⟩
        | _ => none
      kernel :=
        { files := fun fd => if fd = 0 then some 0 else if fd = 4 then some 1 else none
          nextFile := 2
          sets := fun _ _ => none
          closes := fun _ => 0
          accepted := []
          ctls := [] }
      epolls := fun _ => false }
  code := start bootGlobals

theorem booted_bootConfig : Booted bootGlobals bootConfig where
  code_eq := rfl
  epfd_eq _ := rfl
  events_eq _ := rfl
  elists _ := nofun
  sets_eq _ _ := rfl
  epolls_eq _ := rfl
  zero_open := nofun
  pipe_open := nofun

/-! ## Schedules of that server -/

/-- A thread takes some steps, and every call succeeds. -/
def alone (t : Thread) (n : ℕ) : List (Thread × Reply) := List.replicate n (t, {})

/-- The phase functions: the epoll descriptors are 5 and 6, the listening socket is 7, and
the events of the pipe and of the socket are at 1 and 2. -/
def startSchedule : List (Thread × Reply) :=
  alone .main 2 ++ [(.main, { fd := 5 })] ++ alone .main 7 ++ [(.main, { ptr := some 1 })] ++
    alone .main 22 ++ [(.main, { fd := 6 })] ++ alone .main 7 ++ [(.main, { fd := 7 })] ++
    alone .main 3 ++ [(.main, { ptr := some 2 })] ++ alone .main 21

/-- A datanet thread initialises its poller. -/
def datanetSchedule (i : Fin 4) (epfd : ℤ) : List (Thread × Reply) :=
  alone (.datanet i) 2 ++ [(.datanet i, { fd := epfd })] ++ alone (.datanet i) 7

/-- `gt_network_m` accepts a connection, up to the `gt_malloc_mem` of its event. -/
def connectSchedule (fd : ℤ) (ptr : Option EventPtr) : List (Thread × Reply) :=
  alone .network 3 ++ [(.network, { ready := [⟨7, epollin, some 2⟩] })] ++ alone .network 4 ++
    [(.network, { fd := fd })] ++ alone .network 3 ++ [(.network, { ptr := ptr })]

end GuitarTea.Threads
