import GuitarTea.SignalSetup
import GuitarTea.Parameters

/-!
# The start-up of the process

`gt_init_system` opens the log file, sets up signals, has the modules register
their phase functions, creates the threads, runs the phase functions and wakes the
threads.  Each of its calls is checked and a failure is returned.

The one gap is `gt_signals_init`, which returns `GT_OK` whatever its calls return,
so a process whose signals are not set up starts all the same.

## Main definitions

* `gtSignalPhase1Func`, `gtNetworkListenning`, `gtNetworkPhase1Func` — phase functions.
* `gtInitSystem` — the start-up.
* `SystemReady` — everything the start-up has to do is done.
* `InitAnswers.CheckedSucceed` — every call succeeds whose result is checked.
-/

namespace GuitarTea

open CheckedCall (Spec checked exists_failed)

/-! ## Phase functions -/

/-- `GT_CORE_MAXEVENT`. -/
def gtCoreMaxevent : ℤ := 32

/-- `GT_NETWORKER_MAXEVENT`. -/
def gtNetworkerMaxevent : ℤ := 1024

/-- `GT_EPOLL_WAIT_TIMEOUT`. -/
def gtEpollWaitTimeout : ℤ := 50

/-- `AF_INET`. -/
def afInet : BitVec 16 := 2

/-- `htonl` on a little-endian host. -/
def htonl (x : BitVec 32) : BitVec 32 := ntohl x

/-- `htons` on a little-endian host. -/
def htons (x : BitVec 16) : BitVec 16 := ntohs x

/-- The answers to the calls of `gt_poller_init`. -/
structure PollerAnswers where
  epollCreate : Except Errno ℤ
  malloc : Bool
  deriving DecidableEq

/-- The answers to the calls that create and start an event. -/
structure EventAnswers where
  malloc : Option EventPtr
  ctl : Option Errno
  deriving DecidableEq

/-- The answers to the calls of `gt_network_listenning`. -/
structure ListenAnswers where
  socket : Except Errno ℤ
  setsockopt : Option Errno
  bind : Option Errno
  listen : Option Errno
  event : EventAnswers
  deriving DecidableEq

/-- Create an event, set its read handler and start it for `EPOLLIN`: the return code of
`gt_poller_event_start`, or `none` when there is no memory. -/
def createStarted (a : EventAnswers) (efd : ℤ) (p : PollerId) (read : GtReadFn) (w : World) :
    Option (Option ℤ × World) := do
  let (ge, w) ← gtPollerGeventCreate a.malloc efd p w
  match ge with
  | none => some (none, w)
  | some ge =>
      let gevent ← w.events ge
      let w := w.setEvent ge (some { gevent with ops := { gevent.ops with read := some read } })
      let (ret, w) ← gtPollerEventStart a.ctl epollin ge w
      some (some ret, w)

/-- `gt_core_phase0_func`. -/
def gtCorePhase0Func (a : PollerAnswers) (s : InitState) : Option (ℤ × InitState) := do
  let (ret, w) ← gtPollerInit a.epollCreate a.malloc gtCoreMaxevent gtEpollWaitTimeout .core s.world
  some (ret, { s with world := w })

/-- `gt_signal_phase1_func`. -/
def gtSignalPhase1Func (a : EventAnswers) (s : InitState) : Option (ℤ × InitState) := do
  let (started, w) ← createStarted a s.signals.pipefd.1 .core .gtSignalOpsRead s.world
  match started with
  | none => some (gtError, { s with world := w.logs (gtErrorLog "gt_signal_phase1_func" 370
      [.text "Failed to create gt_event for signal."]) })
  | some ret => some (ret, { s with world := w })

/-- The end of `gt_network_listenning` when the socket cannot be used. -/
def closeListening (line : ℕ) (msg : List LogPiece) (lfd : ℤ) (s : InitState) : ℤ × InitState :=
  let w := s.world.logs (gtErrorLog "gt_network_listenning" line msg)
  (gtError, { s with world := { w with kernel := w.kernel.close lfd } })

/-- The end of `gt_network_listenning`, with what became of the event. -/
def listenStarted (lfd : ℤ) (started : Option ℤ) (s : InitState) : ℤ × InitState :=
  match started with
  | none => (gtError, s.logs (gtErrorLog "gt_network_listenning" 224
      [.text "Failed to create gt_event for network[", .int lfd, .text "]."]))
  | some ret =>
      if gtOk ≠ ret then
        (gtError, s.logs (gtErrorLog "gt_network_listenning" 232
          [.text "Failed to start poller event to lfd[", .int lfd, .text "]"]))
      else (gtOk, s.logs (gtInfoLog "gt_network_listenning" 235 [.text "Start listenning..."]))

/-- `gt_network_listenning`. -/
def gtNetworkListenning (a : ListenAnswers) (ip port : BitVec 32) (s : InitState) :
    Option (ℤ × InitState) :=
  match a.socket with
  | .error errnum => some (gtError, s.logs (gtErrorLog "gt_network_listenning" 189
      [.text "Failed to create socket! errno:", .int errnum, .text ", ", .strerror errnum]))
  | .ok lfd =>
      let s := { s with world := { s.world with kernel := s.world.kernel.openFile lfd } }
      match a.setsockopt with
      | some errnum => some (closeListening 196 [.text "Failed to set socketopt for lfd! errno:",
          .int errnum, .text ", ", .strerror errnum] lfd s)
      | none =>
          let saddr : SockaddrIn := ⟨afInet, htons (port.setWidth 16), htonl ip⟩
          let s := { s with bound := s.bound ++ [(lfd, saddr)] }
          match a.bind with
          | some errnum => some (closeListening 208 [.text "Failed to bind ip and port to lfd[",
              .int lfd, .text "]! errno:", .int errnum, .text ", ", .strerror errnum] lfd s)
          | none =>
              match a.listen with
              | some errnum => some (closeListening 216
                  [.text "Failed to listen ip and port on lfd[", .int lfd, .text "]! errno:",
                    .int errnum, .text ", ", .strerror errnum] lfd s)
              | none => do
                  let (started, w) ← createStarted a.event lfd .network .gtNetworkOpsRead s.world
                  some (listenStarted lfd started { s with world := w })

/-- `gt_network_phase1_func`. -/
def gtNetworkPhase1Func (a : PollerAnswers) (l : ListenAnswers) (g : ServerAddr) :
    InitState → Option (ℤ × InitState) :=
  checked gtOk
    (fun s => do
      let (ret, w) ← gtPollerInit a.epollCreate a.malloc gtNetworkerMaxevent gtEpollWaitTimeout
        .network s.world
      some (ret, { s with world := w }))
    (fun ret s => (ret, s)) <|
  checked gtOk (gtNetworkListenning l g.gGtServerIp (g.gGtServerPort.setWidth 32))
    (fun ret s => (ret, s.logs (gtErrorLog "gt_network_phase1_func" 251
      [.text "Failed to listenning, ip:", .hex g.gGtServerIp.toNat, .text ", port:",
        .int g.gGtServerPort.toNat]))) <|
  fun s => some (gtOk, s)

/-- The loop of `gt_create_pthread` and of `gt_create_datanet_pthread`; `create i` is what
`pthread_create` returns and `errno` what the thread's `errno` holds. -/
def createPthreads (func : String) (line : ℕ) (errno : Errno) (create : ℕ → ℤ) :
    List ℕ → InitState → ℤ × InitState
  | [], s => (gtOk, s)
  | i :: is, s =>
      if gtOk ≠ create i then
        (gtError, s.logs (gtErrorLog func line [.text "Failed create pthread[", .int i,
          .text "]. errno:", .int errno, .text ", ", .strerror errno]))
      else createPthreads func line errno create is s

/-- `gt_create_datanet_pthread`, for `GT_DATANET_PTHREAD_NUM` threads. -/
def gtCreateDatanetPthread (errno : Errno) (create : ℕ → ℤ) : InitState → ℤ × InitState :=
  createPthreads "gt_create_datanet_pthread" 199 errno create (List.range 4)

/-- `gt_network_phase2_func`. -/
def gtNetworkPhase2Func (errno : Errno) (create : ℕ → ℤ) :
    InitState → Option (ℤ × InitState) :=
  checked gtOk (fun s => some (gtCreateDatanetPthread errno create s))
    (fun ret s => (ret, s.logs (gtErrorLog "gt_network_phase2_func" 263
      [.text "Failed to create datanet pthread."]))) <|
  fun s => some (gtOk, s)

/-! ## The start-up -/

/-- The answers to all calls of the start-up.  The results of the `pthread` functions are
their return codes. -/
structure InitAnswers where
  openLog : Except Errno ℤ
  signals : SignalAnswers
  mutexInit : ℤ
  condInit : ℤ
  createPthread : ℕ → ℤ
  core : PollerAnswers
  signalEvent : EventAnswers
  network : PollerAnswers
  listen : ListenAnswers
  createDatanet : ℕ → ℤ
  broadcast : ℤ
  /-- `errno` when a `pthread` function fails. -/
  errno : Errno

/-- `gt_core_init`. -/
def gtCoreInit (s : InitState) : Option (ℤ × InitState) :=
  some (registerPhase .core .phase0 .gtCorePhase0Func s)

/-- `gt_network_init`. -/
def gtNetworkInit : InitState → Option (ℤ × InitState) :=
  checked gtOk (fun s => some (registerPhase .network .phase1 .gtNetworkPhase1Func s))
    (fun ret s => (ret, s)) <|
  fun s => some (registerPhase .network .phase2 .gtNetworkPhase2Func s)

/-- `gt_create_pthread`, for `GT_BUSINESS_PTHREAD_NUM` threads. -/
def gtCreatePthread (a : InitAnswers) : InitState → Option (ℤ × InitState) :=
  checked gtOk (fun s => some (a.mutexInit, s))
    (fun ret s => (ret, s.logs (gtErrorLog "gt_create_pthread" 114
      [.text "Failed to init mutex!"]))) <|
  checked gtOk (fun s => some (a.condInit, s))
    (fun ret s => (ret, s.logs (gtErrorLog "gt_create_pthread" 121
      [.text "Failed to init cond!"]))) <|
  fun s => some (createPthreads "gt_create_pthread" 131 a.errno a.createPthread (List.range 5) s)

/-- What a registered function does. -/
def callPhaseFn (a : InitAnswers) (g : ServerAddr) : PhaseFn → InitState → Option (ℤ × InitState)
  | .gtCorePhase0Func => gtCorePhase0Func a.core
  | .gtSignalPhase1Func => gtSignalPhase1Func a.signalEvent
  | .gtNetworkPhase1Func => gtNetworkPhase1Func a.network a.listen g
  | .gtNetworkPhase2Func => gtNetworkPhase2Func a.errno a.createDatanet

/-- A call of `gt_phase_run`.  Its own lines go to the same log as those of the function,
one before them and one after them. -/
def callSlot (a : InitAnswers) (g : ServerAddr) (x : Slot PhaseFn) (s : InitState) :
    Option (ℤ × InitState) := do
  let (ret, s) ← callPhaseFn a g x.fn (s.logs (phaseBegins x.phase x.cmod))
  some (ret, if gtOk ≠ ret then s.logs (phaseFailed x.phase x.cmod) else s)

/-- `gt_phase_run` on `g_gt_phase`. -/
def runPhases (a : InitAnswers) (g : ServerAddr) (s : InitState) : Option (ℤ × InitState) := do
  let (ret, tr) ← gtPhaseRun (callSlot a g) s.phases.slots s
  some (ret, { tr.state with
    calls := s.calls ++ tr.calls.map fun c => ⟨c.phase, c.cmod, c.fn.fn, c.ret⟩ })

/-- `gt_wakeup_pthread`. -/
def gtWakeupPthread (broadcast errno : ℤ) : InitState → Option (ℤ × InitState) :=
  checked gtOk (fun s => some (broadcast, s))
    (fun ret s => (ret, s.logs (gtErrorLog "gt_wakeup_pthread" 144
      [.text "Failed wakeup all pthread. errno:", .int errno, .text ", ", .strerror errno]))) <|
  fun s => some (gtOk, s)

/-- The log line of `gt_init_system` about a call that failed. -/
def initFailed (line : ℕ) (msg : String) (ret : ℤ) (s : InitState) : ℤ × InitState :=
  (ret, s.logs (gtErrorLog "gt_init_system" line [.text msg]))

/-- `gt_init_system`. -/
def gtInitSystem (a : InitAnswers) (g : ServerAddr) : InitState → Option (ℤ × InitState) :=
  checked gtOk (fun s => some (gtLogInit a.openLog s)) (initFailed 113 "Failed to init log!") <|
  checked gtOk (fun s => some (gtSignalsInit a.signals s))
    (initFailed 120 "Failed to init signals!") <|
  checked gtOk gtCoreInit (initFailed 128 "Failed to init poller.") <|
  checked gtOk gtNetworkInit (initFailed 135 "Failed to init network.") <|
  checked gtOk (gtCreatePthread a) (initFailed 144 "Failed to create pthread!") <|
  checked gtOk (runPhases a g) (initFailed 152 "Failed to run phase!") <|
  checked gtOk (gtWakeupPthread a.broadcast a.errno)
    (initFailed 162 "Failed to wakeup pthread!") <|
  fun s => some (gtOk, s)

/-! ## What the start-up is for -/

/-- The log file is open, the signals are set up with both ends of the pipe open, every
registration succeeded, and every registered phase function was called and
succeeded. -/
structure SystemReady (s : InitState) : Prop where
  log_open : s.world.kernel.files s.logFd ≠ none
  signals : SignalsGood s.signals
  pipe_open : s.world.kernel.files s.signals.pipefd.1 ≠ none ∧
    s.world.kernel.files s.signals.pipefd.2 ≠ none
  registered : ∀ ret ∈ s.registered, ret = gtOk
  phases : s.calls.map PhaseCall.slot = occupied s.phases ∧ ∀ c ∈ s.calls, c.ret = gtOk

/-- The calls of `gt_poller_init` succeed. -/
structure PollerAnswers.Succeed (a : PollerAnswers) : Prop where
  epollCreate : ∃ epfd, a.epollCreate = .ok epfd
  malloc : a.malloc = true

/-- There is memory for the event and `epoll_ctl` succeeds. -/
structure EventAnswers.Succeed (a : EventAnswers) : Prop where
  malloc : a.malloc ≠ none
  ctl : a.ctl = none

/-- The calls of `gt_network_listenning` succeed. -/
structure ListenAnswers.Succeed (a : ListenAnswers) : Prop where
  socket : ∃ lfd, a.socket = .ok lfd
  setsockopt : a.setsockopt = none
  bind : a.bind = none
  listen : a.listen = none
  event : a.event.Succeed

/-- Every call of the start-up succeeds whose result is checked. -/
structure InitAnswers.CheckedSucceed (a : InitAnswers) : Prop where
  openLog : ∃ fd, a.openLog = .ok fd
  mutexInit : a.mutexInit = gtOk
  condInit : a.condInit = gtOk
  createPthread : ∀ i < 5, a.createPthread i = gtOk
  core : a.core.Succeed
  signalEvent : a.signalEvent.Succeed
  network : a.network.Succeed
  listen : a.listen.Succeed
  createDatanet : ∀ i < 4, a.createDatanet i = gtOk
  broadcast : a.broadcast = gtOk

/-! ## Phase functions succeed when their calls do -/

/-- What was open is open, and the lists of the pollers are where they were. -/
structure Grows (w w' : World) : Prop where
  files : ∀ fd, w.kernel.files fd ≠ none → w'.kernel.files fd ≠ none
  elists : ∀ p, w.nodes (.elist p) ≠ none → w'.nodes (.elist p) ≠ none

/-- A cell that is written is there, and the others stay. -/
theorem ne_none_update {nodes : LinkHeap NodeAddr} {a b : NodeAddr} (l : Link NodeAddr)
    (h : nodes b ≠ none) : Function.update nodes a (some l) b ≠ none := by
  rw [Function.update_apply]
  split
  · simp
  · exact h

theorem files_openFile_ne_none {k : Kernel (Option EventPtr)} {fd fd' : ℤ}
    (h : k.files fd ≠ none) : (k.openFile fd').files fd ≠ none := by
  simp only [Kernel.openFile, Function.update_apply]
  split
  · simp
  · exact h

/-- **`gt_poller_init`** on a poller whose list is there. -/
theorem exists_gtPollerInit (a : PollerAnswers) (maxe timeout : ℤ) {p : PollerId} {w : World}
    (h : w.nodes (.elist p) ≠ none) :
    ∃ ret w', gtPollerInit a.epollCreate a.malloc maxe timeout p w = some (ret, w') ∧
      (ret = gtOk ↔ a.Succeed) ∧ (ret = gtOk → Grows w w' ∧
        w'.kernel.sets = w.kernel.sets ∧ a.epollCreate = .ok (w'.pollers p).epfd) := by
  obtain ⟨epollCreate, malloc⟩ := a
  cases epollCreate with
  | error errnum =>
      refine ⟨_, _, rfl, iff_of_false (by decide) ?_, fun hret => absurd hret (by decide)⟩
      rintro ⟨⟨epfd, ⟨⟩⟩, -⟩
  | ok epfd =>
      cases malloc with
      | false =>
          refine ⟨_, _, rfl, iff_of_false (by decide) ?_, fun hret => absurd hret (by decide)⟩
          rintro ⟨-, ⟨⟩⟩
      | true =>
          obtain ⟨l, hl⟩ := Option.ne_none_iff_exists'.mp h
          have hrun : gtPollerInit (.ok epfd) true maxe timeout p w = some (gtOk,
              { w with
                pollers := Function.update w.pollers p ⟨epfd, true, maxe, timeout⟩
                nodes := Function.update w.nodes (.elist p) (some ⟨.elist p, .elist p⟩)
                kernel := w.kernel.openFile epfd }) := by
            simp only [gtPollerInit, initListHead_of_eq hl, if_true, Option.map_some]
          refine ⟨gtOk, _, hrun, iff_of_true rfl ⟨⟨epfd, rfl⟩, rfl⟩, fun _ => ⟨?_, rfl, ?_⟩⟩
          · exact ⟨fun fd hfd => files_openFile_ne_none hfd, fun q hq => ne_none_update _ hq⟩
          · simp

/-- **An event that is created and started** on a poller whose list is there and whose
epoll set does not know the descriptor. -/
theorem exists_createStarted (a : EventAnswers) {efd : ℤ} {p : PollerId} (read : GtReadFn)
    {w : World} (h : w.nodes (.elist p) ≠ none)
    (habsent : w.kernel.sets (w.pollers p).epfd efd = none) :
    ∃ started w', createStarted a efd p read w = some (started, w') ∧
      (started = some gtOk ↔ a.Succeed) ∧ Grows w w' ∧
      ∀ epfd fd, w'.kernel.sets epfd fd ≠ none →
        w.kernel.sets epfd fd ≠ none ∨ epfd = (w.pollers p).epfd := by
  obtain ⟨malloc, ctl⟩ := a
  cases malloc with
  | none =>
      refine ⟨none, _, rfl, iff_of_false (by simp) ?_, ⟨fun _ hfd => hfd, fun _ hp => hp⟩,
        fun _ _ hset => .inl hset⟩
      rintro ⟨hmalloc, -⟩
      exact hmalloc rfl
  | some ge =>
      obtain ⟨l, hl⟩ := Option.ne_none_iff_exists'.mp h
      let ev : GtEvent := ⟨efd, ⟨some read, none⟩, ⟨0, none⟩, p⟩
      let w₁ := w.addEvent ge ev
      let r := pollerCtl "gt_poller_event_start" 46 ctl .add ge ev ⟨epollin, some ge⟩ w₁
      have hstart : gtPollerEventStart ctl epollin ge w₁ = some r :=
        gtPollerEventStart_addEvent w ge rfl ctl
      have hrun : createStarted ⟨some ge, ctl⟩ efd p read w = some (some r.1, r.2) := by
        simp only [createStarted, gtPollerGeventCreate_some hl, Option.bind_eq_bind,
          Option.bind_some, Function.update_self, World.setEvent, Function.update_idem]
        change (gtPollerEventStart ctl epollin ge w₁).bind _ = _
        rw [hstart]
        rfl
      have hctl : (w.kernel.epollCtl ctl (w.pollers p).epfd .add efd ⟨epollin, some ge⟩).1 =
          ctl := by
        rw [Kernel.fst_epollCtl, habsent]
        cases ctl <;> rfl
      refine ⟨_, _, hrun, ?_, ⟨?_, ?_⟩, ?_⟩
      · have hret : r.1 = gtOk ↔ ctl = none := by
          rw [← hctl]
          exact fst_pollerCtl_eq_gtOk_iff _ _ _ _ _ _ _ _
        rw [Option.some.injEq, hret]
        exact ⟨fun hnone => ⟨by simp, hnone⟩, fun hsucc => hsucc.ctl⟩
      · intro fd hfd
        simpa [r, w₁, World.addEvent] using hfd
      · intro q hq
        simp only [r, nodes_pollerCtl, w₁, World.addEvent]
        exact ne_none_update _ (ne_none_update _ hq)
      · intro epfd fd hset
        have hk : r.2.kernel =
            (w.kernel.epollCtl ctl (w.pollers p).epfd .add efd ⟨epollin, some ge⟩).2 :=
          kernel_pollerCtl _ _ _ _ _ _ _ _
        rw [hk] at hset
        by_cases hfd : fd = efd
        · subst hfd
          obtain ⟨e, he⟩ := Option.ne_none_iff_exists'.mp hset
          rcases Kernel.sets_epollCtl_eq_some he with hold | ⟨hepfd, -⟩
          · left
            simp [hold]
          · exact .inr hepfd
        · left
          rwa [Kernel.sets_epollCtl_of_ne _ _ _ _ _ _ hfd] at hset

/-- **A socket that listens**: what is left of `gt_network_listenning` is its event. -/
theorem exists_gtNetworkListenning (event : EventAnswers) (ip port : BitVec 32) {lfd : ℤ}
    {s : InitState} (h : s.world.nodes (.elist .network) ≠ none)
    (habsent : s.world.kernel.sets (s.world.pollers .network).epfd lfd = none) :
    ∃ started w, gtNetworkListenning ⟨.ok lfd, none, none, none, event⟩ ip port s =
        some (listenStarted lfd started
          { s with
            world := w
            bound := s.bound ++ [(lfd, ⟨afInet, htons (port.setWidth 16), htonl ip⟩)] }) ∧
      (started = some gtOk ↔ event.Succeed) ∧
      Grows { s.world with kernel := s.world.kernel.openFile lfd } w := by
  let w₁ : World := { s.world with kernel := s.world.kernel.openFile lfd }
  obtain ⟨started, w, hrun, hiff, hg, -⟩ :=
    exists_createStarted event .gtNetworkOpsRead (w := w₁) h habsent
  refine ⟨started, w, ?_, hiff, hg⟩
  simp only [gtNetworkListenning, Option.bind_eq_bind]
  rw [show createStarted event lfd .network .gtNetworkOpsRead _ = some (started, w) from hrun]
  rfl

/-- `g_gt_phase` when all modules have registered. -/
def fullTable : GtPhaseTable PhaseFn :=
  (((gGtPhase.set .phase1 .signal (some .gtSignalPhase1Func)).set .phase0 .core
    (some .gtCorePhase0Func)).set .phase1 .network (some .gtNetworkPhase1Func)).set .phase2
    .network (some .gtNetworkPhase2Func)

/-- What holds between phase functions: only the epoll sets in `used` hold anything. -/
structure PhaseInv (a : InitAnswers) (used : ℤ → Prop) (s : InitState) : Prop where
  good_iff : SignalsGood s.signals ↔ a.signals.Succeed
  opened : SignalsGood s.signals → s.world.kernel.files s.logFd ≠ none ∧
    s.world.kernel.files s.signals.pipefd.1 ≠ none ∧
    s.world.kernel.files s.signals.pipefd.2 ≠ none
  elists : ∀ p, s.world.nodes (.elist p) ≠ none
  sets : ∀ epfd fd, s.world.kernel.sets epfd fd ≠ none → used epfd
  phases : s.phases = fullTable
  registered : s.registered = List.replicate 4 gtOk

/-- A step that concerns the world, and at most notes an address. -/
theorem PhaseInv.grows {a : InitAnswers} {used used' : ℤ → Prop} {s : InitState}
    (h : PhaseInv a used s) {w : World} (hg : Grows s.world w)
    (hsets : ∀ epfd fd, w.kernel.sets epfd fd ≠ none → used' epfd)
    (bound : List (ℤ × SockaddrIn)) :
    PhaseInv a used' { s with world := w, bound := bound } where
  good_iff := h.good_iff
  opened hall := by
    obtain ⟨hlog, hfst, hsnd⟩ := h.opened hall
    exact ⟨hg.files _ hlog, hg.files _ hfst, hg.files _ hsnd⟩
  elists p := hg.elists p (h.elists p)
  sets := hsets
  phases := h.phases
  registered := h.registered

/-- A line of the log changes none of this. -/
theorem PhaseInv.logs {a : InitAnswers} {used : ℤ → Prop} {s : InitState}
    (h : PhaseInv a used s) (c : LogCall) : PhaseInv a used (s.logs c) :=
  ⟨h.good_iff, h.opened, h.elists, h.sets, h.phases, h.registered⟩

section PhaseFunctions

variable (a : InitAnswers)

theorem gtCorePhase0Func_spec :
    Spec gtOk (PhaseInv a fun _ => False) (gtCorePhase0Func a.core) a.core.Succeed
      fun s => PhaseInv a (fun _ => False) s ∧
        a.core.epollCreate = .ok (s.world.pollers .core).epfd := by
  intro s hs
  obtain ⟨ret, w, hrun, hiff, hok⟩ :=
    exists_gtPollerInit a.core gtCoreMaxevent gtEpollWaitTimeout (hs.elists .core)
  refine ⟨ret, { s with world := w }, by simp [gtCorePhase0Func, hrun], hiff, fun hret => ?_⟩
  obtain ⟨hg, hsets, hepfd⟩ := hok hret
  refine ⟨hs.grows hg ?_ s.bound, hepfd⟩
  rw [hsets]
  exact hs.sets

theorem gtSignalPhase1Func_spec :
    Spec gtOk (fun s => PhaseInv a (fun _ => False) s ∧
        a.core.epollCreate = .ok (s.world.pollers .core).epfd)
      (gtSignalPhase1Func a.signalEvent) a.signalEvent.Succeed
      (PhaseInv a fun epfd => a.core.epollCreate = .ok epfd) := by
  rintro s ⟨hs, hepfd⟩
  have habsent : s.world.kernel.sets (s.world.pollers .core).epfd s.signals.pipefd.1 = none := by
    by_contra hne
    exact hs.sets _ _ hne
  obtain ⟨started, w, hrun, hiff, hg, hsets⟩ :=
    exists_createStarted a.signalEvent .gtSignalOpsRead (hs.elists .core) habsent
  cases started with
  | none =>
      let s' : InitState := { s with world := w.logs (gtErrorLog "gt_signal_phase1_func" 370
        [.text "Failed to create gt_event for signal."]) }
      have hfail : gtSignalPhase1Func a.signalEvent s = some (gtError, s') := by
        simp only [gtSignalPhase1Func, hrun, Option.bind_eq_bind, Option.bind_some, s']
      refine exists_failed hfail (by decide) ?_
      exact fun hsucc => absurd (hiff.mpr hsucc) (by simp)
  | some ret =>
      refine ⟨ret, { s with world := w }, by simp [gtSignalPhase1Func, hrun],
        by rw [← hiff, Option.some.injEq], fun _ => ?_⟩
      refine hs.grows hg ?_ s.bound
      intro epfd fd hset
      rcases hsets epfd fd hset with hold | heq
      · exact absurd (hs.sets epfd fd hold) id
      · rw [heq, hepfd]

/-- `gt_network_listenning` on a network poller that has its own epoll descriptor. -/
theorem gtNetworkListenning_spec (l : ListenAnswers) (ip port : BitVec 32) :
    Spec gtOk (fun s => PhaseInv a (fun epfd => a.core.epollCreate = .ok epfd) s ∧
        a.core.epollCreate ≠ .ok (s.world.pollers .network).epfd)
      (gtNetworkListenning l ip port) l.Succeed (PhaseInv a fun _ => True) := by
  rintro s ⟨hs, hepfd⟩
  obtain ⟨socket, setsockopt, bind, listen, event⟩ := l
  rcases socket with errnum | lfd
  · refine exists_failed rfl (by decide) ?_
    rintro ⟨⟨lfd, ⟨⟩⟩, -⟩
  rcases setsockopt with _ | errnum
  swap
  · refine exists_failed rfl (by decide) ?_
    rintro ⟨-, ⟨⟩, -⟩
  rcases bind with _ | errnum
  swap
  · refine exists_failed rfl (by decide) ?_
    rintro ⟨-, -, ⟨⟩, -⟩
  rcases listen with _ | errnum
  swap
  · refine exists_failed rfl (by decide) ?_
    rintro ⟨-, -, -, ⟨⟩, -⟩
  have habsent : s.world.kernel.sets (s.world.pollers .network).epfd lfd = none := by
    by_contra hne
    exact hepfd (hs.sets _ _ hne)
  obtain ⟨started, w, hrun, hiff, hg⟩ :=
    exists_gtNetworkListenning event ip port (hs.elists .network) habsent
  have hsucc : ListenAnswers.Succeed ⟨.ok lfd, none, none, none, event⟩ ↔ event.Succeed :=
    ⟨fun h => h.event, fun h => ⟨⟨lfd, rfl⟩, rfl, rfl, rfl, h⟩⟩
  rw [hrun, hsucc, ← hiff]
  rcases started with _ | ret
  · exact ⟨_, _, rfl, by simp, by simp⟩
  by_cases hret : ret = gtOk
  · subst hret
    refine ⟨_, _, rfl, by simp, fun _ => ?_⟩
    refine hs.grows ⟨?_, ?_⟩ (fun _ _ _ => trivial) _
    · intro fd hfd
      exact hg.files fd (files_openFile_ne_none hfd)
    · exact hg.elists
  · rw [listenStarted, if_pos (Ne.symm hret)]
    exact ⟨_, _, rfl, by simp [hret], by simp⟩

/-- The epoll descriptor of the core poller is in use when that of the network poller is
created. -/
theorem gtNetworkPhase1Func_spec (g : ServerAddr)
    (hfresh : ∀ epfd, a.core.epollCreate = .ok epfd → a.network.epollCreate ≠ .ok epfd) :
    Spec gtOk (PhaseInv a fun epfd => a.core.epollCreate = .ok epfd)
      (gtNetworkPhase1Func a.network a.listen g) (a.network.Succeed ∧ a.listen.Succeed ∧ True)
      (PhaseInv a fun _ => True) := by
  refine .checked (Q := fun s => PhaseInv a (fun epfd => a.core.epollCreate = .ok epfd) s ∧
    a.core.epollCreate ≠ .ok (s.world.pollers .network).epfd) ?_ (.checked
      (gtNetworkListenning_spec a a.listen _ _) (.done _) (fun _ _ h => h)) (fun _ _ h => h)
  intro s hs
  obtain ⟨ret, w, hrun, hiff, hok⟩ :=
    exists_gtPollerInit a.network gtNetworkerMaxevent gtEpollWaitTimeout (hs.elists .network)
  refine ⟨ret, { s with world := w }, by simp [hrun], hiff, fun hret => ?_⟩
  obtain ⟨hg, hsets, hepfd⟩ := hok hret
  refine ⟨hs.grows hg ?_ s.bound, fun hcore => hfresh _ hcore hepfd⟩
  rw [hsets]
  exact hs.sets

end PhaseFunctions

/-- Threads are created exactly when no `pthread_create` fails; the state changes by log
lines only when one does. -/
theorem createPthreads_spec (func : String) (line : ℕ) (errno : Errno) (create : ℕ → ℤ)
    (P : InitState → Prop) (is : List ℕ) :
    Spec gtOk P (fun s => some (createPthreads func line errno create is s))
      (∀ i ∈ is, create i = gtOk) P := by
  intro s hs
  induction is generalizing s with
  | nil => exact ⟨gtOk, s, rfl, by simp, fun _ => hs⟩
  | cons i is ih =>
      by_cases hi : create i = gtOk
      · obtain ⟨ret, s', hrun, hiff, hP⟩ := ih s hs
        refine ⟨ret, s', ?_, ?_, hP⟩
        · rw [← hrun]
          simp [createPthreads, hi]
        · rw [hiff, List.forall_mem_cons]
          exact ⟨fun h => ⟨hi, h⟩, fun h => h.2⟩
      · have hcode : (createPthreads func line errno create (i :: is) s).1 ≠ gtOk := by
          simp [createPthreads, Ne.symm hi]
        exact ⟨_, _, rfl, iff_of_false hcode (fun hall => hi (hall i List.mem_cons_self)),
          fun hret => absurd hret hcode⟩

theorem gtNetworkPhase2Func_spec (errno : Errno) (create : ℕ → ℤ) (P : InitState → Prop) :
    Spec gtOk P (gtNetworkPhase2Func errno create) ((∀ i ∈ List.range 4, create i = gtOk) ∧ True)
      P :=
  .checked (createPthreads_spec _ _ _ _ _ _) (.done _) (fun _ _ h => h)

theorem gtCreatePthread_spec (a : InitAnswers) (P : InitState → Prop) :
    Spec gtOk P (gtCreatePthread a)
      (a.mutexInit = gtOk ∧ a.condInit = gtOk ∧ ∀ i ∈ List.range 5, a.createPthread i = gtOk) P :=
  .checked (.code _ _) (.checked (.code _ _) (createPthreads_spec _ _ _ _ _ _) (fun _ _ h => h))
    (fun _ _ h => h)

theorem gtWakeupPthread_spec (broadcast errno : ℤ) (P : InitState → Prop) :
    Spec gtOk P (gtWakeupPthread broadcast errno) (broadcast = gtOk ∧ True) P :=
  .checked (.code _ _) (.done _) (fun _ _ h => h)

/-! ## Registrations and the run of the phases -/

/-- A module registers for a slot that is free. -/
theorem registerPhase_spec (a : SignalAnswers) {t : GtPhaseTable PhaseFn} {n : ℕ} {cmod : GtCmod}
    {gphase : GtPhase} (hfree : t gphase cmod = none) (fn : PhaseFn) :
    Spec gtOk (SignalsReady a t n) (fun s => some (registerPhase cmod gphase fn s)) True
      (SignalsReady a (t.set gphase cmod (some fn)) (n + 1)) := by
  intro s hs
  have hslot : s.phases gphase cmod = none := by rw [hs.phases, hfree]
  refine ⟨gtOk, _, congrArg some (registerPhase_free hslot fn), iff_of_true rfl trivial,
    fun _ => ?_⟩
  refine ⟨hs.good_iff, hs.opened, hs.sets_empty, hs.elists, ?_, ?_, hs.calls⟩
  · simp only [hs.phases]
  · simp only [hs.registered, List.replicate_succ']

/-- The lines of `gt_phase_run` around a phase function. -/
theorem callSlot_spec {a : InitAnswers} {g : ServerAddr} {P Q : InitState → Prop} {c : Prop}
    (x : Slot PhaseFn) (h : Spec gtOk P (callPhaseFn a g x.fn) c Q)
    (hlogs : ∀ s line, P s → P (s.logs line)) : Spec gtOk P (callSlot a g x) c Q := by
  intro s hs
  obtain ⟨ret, s', hrun, hiff, hQ⟩ := h _ (hlogs s (phaseBegins x.phase x.cmod) hs)
  simp only [callSlot, hrun, Option.bind_eq_bind, Option.bind_some]
  refine ⟨ret, _, rfl, hiff, fun hret => ?_⟩
  rw [if_neg (not_not.mpr hret.symm)]
  exact hQ hret

section PhaseRun

variable {F : Type} {call : F → InitState → Option (ℤ × InitState)} {t : GtPhaseTable F}

/-- The states of a run of the phases: the calls made so far, and what holds. -/
def TraceInv (P : InitState → Prop) (calls : List (PhaseCall F)) (tr : PhaseTrace F InitState) :
    Prop :=
  P tr.state ∧ tr.calls = calls

variable (call) in
/-- One call of a phase function. -/
theorem phaseCall_spec {P Q : InitState → Prop} {c : Prop} (fn : F)
    (h : Spec gtOk P (call fn) c Q) (phase : GtPhase) (cmod : GtCmod)
    (calls : List (PhaseCall F)) :
    Spec gtOk (TraceInv P calls) (phaseCall call phase cmod fn) c
      (TraceInv Q (calls ++ [⟨phase, cmod, fn, gtOk⟩])) := by
  rintro tr ⟨hP, hcalls⟩
  obtain ⟨ret, s, hrun, hiff, hQ⟩ := h tr.state hP
  simp only [phaseCall, hrun, Option.bind_eq_bind, Option.bind_some]
  refine ⟨ret, _, rfl, hiff, fun hret => ⟨hQ hret, ?_⟩⟩
  simp only [hcalls, hret]

/-- The inner loop passes over a slot that is free. -/
theorem phaseRunCmods_none {phase : GtPhase} {cmod : GtCmod} (h : t phase cmod = none)
    (cmods : List GtCmod) :
    phaseRunCmods call t phase (cmod :: cmods) = phaseRunCmods call t phase cmods := by
  funext tr
  simp only [phaseRunCmods, h]

/-- The inner loop checks what a function returns. -/
theorem phaseRunCmods_some {phase : GtPhase} {cmod : GtCmod} {fn : F}
    (h : t phase cmod = some fn) (cmods : List GtCmod) :
    phaseRunCmods call t phase (cmod :: cmods) =
      checked gtOk (phaseCall call phase cmod fn) (fun ret tr => (ret, tr))
        (phaseRunCmods call t phase cmods) := by
  funext tr
  simp only [phaseRunCmods, h, checked]
  cases phaseCall call phase cmod fn tr <;> rfl

/-- And so does the outer loop. -/
theorem phaseRunPhases_cons (phase : GtPhase) (phases : List GtPhase) :
    phaseRunPhases call t (phase :: phases) =
      checked gtOk (phaseRunCmods call t phase gtCmods) (fun ret tr => (ret, tr))
        (phaseRunPhases call t phases) := by
  funext tr
  simp only [phaseRunPhases, checked]
  cases phaseRunCmods call t phase gtCmods tr <;> rfl

end PhaseRun

/-- The calls of a run in which every phase function succeeds. -/
def phaseCalls : List (PhaseCall PhaseFn) :=
  [⟨.phase0, .core, .gtCorePhase0Func, gtOk⟩, ⟨.phase1, .signal, .gtSignalPhase1Func, gtOk⟩,
    ⟨.phase1, .network, .gtNetworkPhase1Func, gtOk⟩,
    ⟨.phase2, .network, .gtNetworkPhase2Func, gtOk⟩]

/-- The same calls, with every function in its slot. -/
def slotCalls : List (PhaseCall (Slot PhaseFn)) :=
  phaseCalls.map fun c => ⟨c.phase, c.cmod, c.slot, c.ret⟩

/-- **The run of the phases** succeeds exactly when the calls of all phase functions do. -/
theorem gtPhaseRun_fullTable_spec (a : InitAnswers) (g : ServerAddr)
    (hfresh : ∀ epfd, a.core.epollCreate = .ok epfd → a.network.epollCreate ≠ .ok epfd) :
    Spec gtOk (TraceInv (PhaseInv a fun _ => False) [])
      (phaseRunPhases (callSlot a g) fullTable.slots gtPhases)
      (a.core.Succeed ∧ a.signalEvent.Succeed ∧ a.network.Succeed ∧ a.listen.Succeed ∧
        ∀ i ∈ List.range 4, a.createDatanet i = gtOk)
      (TraceInv (PhaseInv a fun _ => True) slotCalls) := by
  have hcore := phaseCall_spec (callSlot a g) _
    (callSlot_spec ⟨.phase0, .core, .gtCorePhase0Func⟩ (gtCorePhase0Func_spec a)
      fun _ line h => h.logs line) .phase0 .core []
  have hsignal := phaseCall_spec (callSlot a g) _
    (callSlot_spec ⟨.phase1, .signal, .gtSignalPhase1Func⟩ (gtSignalPhase1Func_spec a)
      fun _ line h => ⟨h.1.logs line, h.2⟩) .phase1 .signal (slotCalls.take 1)
  have hnetwork := phaseCall_spec (callSlot a g) _
    (callSlot_spec ⟨.phase1, .network, .gtNetworkPhase1Func⟩ (gtNetworkPhase1Func_spec a g hfresh)
      fun _ line h => h.logs line) .phase1 .network (slotCalls.take 2)
  have hdatanet := phaseCall_spec (callSlot a g) _
    (callSlot_spec ⟨.phase2, .network, .gtNetworkPhase2Func⟩
      (gtNetworkPhase2Func_spec a.errno a.createDatanet (PhaseInv a fun _ => True))
      fun _ line h => h.logs line) .phase2 .network (slotCalls.take 3)
  let pass : ℤ → PhaseTrace (Slot PhaseFn) InitState →
      ℤ × PhaseTrace (Slot PhaseFn) InitState := Prod.mk
  have hphase0 : phaseRunCmods (callSlot a g) fullTable.slots .phase0 gtCmods =
      checked gtOk
        (phaseCall (callSlot a g) .phase0 .core ⟨.phase0, .core, .gtCorePhase0Func⟩) pass
        fun tr => some (gtOk, tr) := by
    rw [gtCmods, phaseRunCmods_some rfl, phaseRunCmods_none rfl, phaseRunCmods_none rfl,
      phaseRunCmods_none rfl, phaseRunCmods_none rfl, phaseRunCmods_none rfl]
    rfl
  have hphase1 : phaseRunCmods (callSlot a g) fullTable.slots .phase1 gtCmods =
      checked gtOk
        (phaseCall (callSlot a g) .phase1 .signal ⟨.phase1, .signal, .gtSignalPhase1Func⟩) pass
        (checked gtOk
          (phaseCall (callSlot a g) .phase1 .network ⟨.phase1, .network, .gtNetworkPhase1Func⟩)
          pass fun tr => some (gtOk, tr)) := by
    rw [gtCmods, phaseRunCmods_none rfl, phaseRunCmods_none rfl, phaseRunCmods_some rfl,
      phaseRunCmods_none rfl, phaseRunCmods_some rfl, phaseRunCmods_none rfl]
    rfl
  have hphase2 : phaseRunCmods (callSlot a g) fullTable.slots .phase2 gtCmods =
      checked gtOk
        (phaseCall (callSlot a g) .phase2 .network ⟨.phase2, .network, .gtNetworkPhase2Func⟩)
        pass fun tr => some (gtOk, tr) := by
    rw [gtCmods, phaseRunCmods_none rfl, phaseRunCmods_none rfl, phaseRunCmods_none rfl,
      phaseRunCmods_none rfl, phaseRunCmods_some rfl, phaseRunCmods_none rfl]
    rfl
  have hphase3 : phaseRunCmods (callSlot a g) fullTable.slots .phase3 gtCmods =
      fun tr => some (gtOk, tr) := by
    rw [gtCmods, phaseRunCmods_none rfl, phaseRunCmods_none rfl, phaseRunCmods_none rfl,
      phaseRunCmods_none rfl, phaseRunCmods_none rfl, phaseRunCmods_none rfl]
    rfl
  rw [gtPhases, phaseRunPhases_cons, phaseRunPhases_cons, phaseRunPhases_cons,
    phaseRunPhases_cons, hphase0, hphase1, hphase2, hphase3]
  have hpass : ∀ ret tr, ret ≠ gtOk → (pass ret tr).1 ≠ gtOk := fun _ _ h => h
  have hrun := (hcore.checked (.done _) hpass).checked ((hsignal.checked
    (hnetwork.checked (.done _) hpass) hpass).checked ((hdatanet.checked (.done _) hpass).checked
      (Spec.checked (.done _) (.done _) hpass) hpass) hpass) hpass
  exact hrun.of_iff (fun _ h => h) (by tauto)

theorem runPhases_spec (a : InitAnswers) (g : ServerAddr)
    (hfresh : ∀ epfd, a.core.epollCreate = .ok epfd → a.network.epollCreate ≠ .ok epfd) :
    Spec gtOk (SignalsReady a.signals fullTable 4) (runPhases a g)
      (a.core.Succeed ∧ a.signalEvent.Succeed ∧ a.network.Succeed ∧ a.listen.Succeed ∧
        ∀ i ∈ List.range 4, a.createDatanet i = gtOk)
      fun s => PhaseInv a (fun _ => True) s ∧ s.calls = phaseCalls := by
  intro s hs
  have hinv : PhaseInv a (fun _ => False) s :=
    ⟨hs.good_iff, hs.opened, hs.elists, fun epfd fd hne => hne (hs.sets_empty epfd fd), hs.phases,
      hs.registered⟩
  obtain ⟨ret, tr, hrun, hiff, hok⟩ :=
    gtPhaseRun_fullTable_spec a g hfresh ⟨s, [], []⟩ ⟨hinv, rfl⟩
  have hphases : gtPhaseRun (callSlot a g) s.phases.slots s = some (ret, tr) := by
    rw [gtPhaseRun, hs.phases, hrun]
  simp only [runPhases, hphases, Option.bind_eq_bind, Option.bind_some]
  refine ⟨ret, _, rfl, hiff, fun hret => ?_⟩
  obtain ⟨h, hcalls⟩ := hok hret
  refine ⟨⟨h.good_iff, h.opened, h.elists, h.sets, h.phases, h.registered⟩, ?_⟩
  simp only [hs.calls, hcalls, List.nil_append]
  rfl

/-! ## The start-up as a whole -/

/-- **`gt_init_system`** succeeds exactly when the calls do whose results are checked. -/
theorem gtInitSystem_spec (a : InitAnswers) (g : ServerAddr)
    (hfresh : ∀ epfd, a.core.epollCreate = .ok epfd → a.network.epollCreate ≠ .ok epfd) :
    Spec gtOk (· = InitState.boot) (gtInitSystem a g) a.CheckedSucceed
      fun s => PhaseInv a (fun _ => True) s ∧ s.calls = phaseCalls := by
  have hfailed : ∀ line msg (ret : ℤ) s, ret ≠ gtOk → (initFailed line msg ret s).1 ≠ gtOk :=
    fun _ _ _ _ h => h
  have hnetwork : Spec gtOk _ gtNetworkInit (True ∧ True) (SignalsReady a.signals fullTable 4) :=
    .checked (registerPhase_spec a.signals rfl .gtNetworkPhase1Func)
      (registerPhase_spec a.signals rfl .gtNetworkPhase2Func) (fun _ _ h => h)
  have hrun := (gtLogInit_spec a.openLog).checked ((gtSignalsInit_spec a.signals).checked
    ((registerPhase_spec a.signals rfl .gtCorePhase0Func).checked (hnetwork.checked
      ((gtCreatePthread_spec a _).checked ((runPhases_spec a g hfresh).checked
        ((gtWakeupPthread_spec a.broadcast a.errno _).checked (.done _)
          (hfailed 162 "Failed to wakeup pthread!"))
        (hfailed 152 "Failed to run phase!")) (hfailed 144 "Failed to create pthread!"))
      (hfailed 135 "Failed to init network.")) (hfailed 128 "Failed to init poller."))
    (hfailed 120 "Failed to init signals!")) (hfailed 113 "Failed to init log!")
  refine hrun.of_iff (fun _ h => h) ?_
  simp only [true_and, and_true, List.mem_range]
  constructor
  · rintro ⟨hlog, ⟨hmutex, hcond, hcreate⟩, ⟨hcore, hsignal, hnet, hlisten, hdatanet⟩, hwake⟩
    exact ⟨hlog, hmutex, hcond, hcreate, hcore, hsignal, hnet, hlisten, hdatanet, hwake⟩
  · rintro ⟨hlog, hmutex, hcond, hcreate, hcore, hsignal, hnet, hlisten, hdatanet, hwake⟩
    exact ⟨hlog, ⟨hmutex, hcond, hcreate⟩, ⟨hcore, hsignal, hnet, hlisten, hdatanet⟩, hwake⟩

/-- After a start-up that returned `GT_OK` the system is ready if the signals are. -/
theorem PhaseInv.systemReady_iff {a : InitAnswers} {s : InitState}
    (h : PhaseInv a (fun _ => True) s) (hcalls : s.calls = phaseCalls) :
    SystemReady s ↔ a.signals.Succeed := by
  constructor
  · intro hready
    exact h.good_iff.mp hready.signals
  · intro hsucc
    have hgood := h.good_iff.mpr hsucc
    obtain ⟨hlog, hfst, hsnd⟩ := h.opened hgood
    refine ⟨hlog, hgood, ⟨hfst, hsnd⟩, ?_, ?_, ?_⟩
    · rw [h.registered]
      exact fun ret hret => List.eq_of_mem_replicate hret
    · rw [hcalls, h.phases]
      decide
    · rw [hcalls]
      decide

/-- **When a failure of the start-up is reported.**  `GT_OK` means that the system is
ready, exactly when the calls of `gt_signals_init` succeed or another call of the
start-up fails.  The epoll descriptors of the two pollers differ, since the first
is open when the second is created. -/
theorem init_ok_ready_iff (a : InitAnswers) (g : ServerAddr)
    (hfresh : ∀ epfd, a.core.epollCreate = .ok epfd → a.network.epollCreate ≠ .ok epfd) :
    (∀ s, gtInitSystem a g InitState.boot = some (gtOk, s) → SystemReady s) ↔
      a.signals.Succeed ∨ ¬ a.CheckedSucceed := by
  obtain ⟨ret, s, hrun, hiff, hok⟩ := gtInitSystem_spec a g hfresh InitState.boot rfl
  constructor
  · intro h
    by_contra hno
    obtain ⟨hsignals, hchecked⟩ := not_or.mp hno
    have hret : ret = gtOk := hiff.mpr (not_not.mp hchecked)
    obtain ⟨hinv, hcalls⟩ := hok hret
    exact hsignals ((hinv.systemReady_iff hcalls).mp (h s (hret ▸ hrun)))
  · intro hor s' hrun'
    obtain ⟨rfl, rfl⟩ : ret = gtOk ∧ s = s' := by simpa [hrun] using hrun'
    obtain ⟨hinv, hcalls⟩ := hok rfl
    refine (hinv.systemReady_iff hcalls).mpr (hor.resolve_right ?_)
    exact not_not.mpr (hiff.mp rfl)

/-- The answers of a start-up in which every call succeeds. -/
def initSucceeds : InitAnswers where
  openLog := .ok 3
  signals := ⟨⟨.ok (4, 5), none, none⟩, fun _ => none, fun _ => none, none⟩
  mutexInit := 0
  condInit := 0
  createPthread _ := 0
  core := ⟨.ok 6, true⟩
  signalEvent := ⟨some 1, none⟩
  network := ⟨.ok 7, true⟩
  listen := ⟨.ok 8, none, none, none, ⟨some 2, none⟩⟩
  createDatanet _ := 0
  broadcast := 0
  errno := 0

/-- `SIGHUP` cannot be handled; every other call succeeds. -/
def hupFails : InitAnswers :=
  { initSucceeds with
    signals := { initSucceeds.signals with
      sigaction := fun sig => if sig = .hup then some 22 else none } }

/-- A start-up without failures. -/
theorem init_ok_ready_succeeds :
    ∃ s, gtInitSystem initSucceeds ⟨0x7f000001, 80⟩ InitState.boot = some (gtOk, s) ∧
      SystemReady s := by
  have hfresh : ∀ epfd, initSucceeds.core.epollCreate = .ok epfd →
      initSucceeds.network.epollCreate ≠ .ok epfd := by
    intro epfd hcore hnetwork
    cases hcore
    cases hnetwork
  have hsucc : initSucceeds.signals.Succeed :=
    ⟨⟨⟨_, rfl⟩, rfl, rfl⟩, fun _ _ => rfl, fun _ _ => rfl, rfl⟩
  exact ⟨_, rfl, (init_ok_ready_iff initSucceeds _ hfresh).mpr (.inl hsucc) _ rfl⟩

/-- `sigaction` fails for `SIGHUP`, and `gt_init_system` returns `GT_OK` although no
handler of the table is installed. -/
theorem failed_sigaction_is_swallowed :
    ∃ s, gtInitSystem hupFails ⟨0x7f000001, 80⟩ InitState.boot = some (gtOk, s) ∧
      (∀ sig ∈ gGtSigCustom, s.signals.handler sig.num = none) ∧ ¬ SystemReady s := by
  refine ⟨_, rfl, by decide, ?_⟩
  intro hready
  exact absurd (hready.signals.handlers .hup (by decide)) (by decide)

end GuitarTea
