import GuitarTea.Lib.CheckedCall
import GuitarTea.Phase
import GuitarTea.Signal
import Mathlib.Data.List.TakeWhile

/-!
# Setting up the log file and the signals

The first calls of `gt_init_system`.  `gt_log_init` opens the log file.
`gt_signals_init` creates the signal pipe and makes its write end non-blocking and
close-on-exec, installs `gt_signal_routine` for the signals of two tables, blocks
those of a third one, and registers a phase function.

Each of its functions tells whether it succeeded; `gt_signals_init` looks at none
of these return codes and returns `GT_OK`.

`fcntl` with `F_GETFL` or `F_GETFD` is left out: whatever it returns, the bit that
is wanted is added to it.

## Main definitions

* `SignalSetup`, `InitState` — the state the start-up works on.
* `gtLogInit`, `gtSignalsInit` — the functions.
* `SignalsGood` — everything is set up.
* `SignalAnswers.Succeed` — every system call of `gt_signals_init` succeeds.
-/

namespace GuitarTea

/-! ## State -/

/-- The enumerators of `gt_sig_e` that are blocked. -/
inductive GtSigIgnored
  | int
  | pipe
  | alrm
  | stkflt
  | cld
  | chld
  | cont
  | tstp
  | ttin
  | ttou
  | xcpu
  | xfsz
  | vtalrm
  | prof
  | winch
  | io
  | pwr
  deriving DecidableEq, Repr

/-- The number of a signal, as on Linux. -/
def GtSigIgnored.num : GtSigIgnored → BitVec 32
  | .int => 2
  | .pipe => 13
  | .alrm => 14
  | .stkflt => 16
  | .cld => 17
  | .chld => 17
  | .cont => 18
  | .tstp => 20
  | .ttin => 21
  | .ttou => 22
  | .xcpu => 24
  | .xfsz => 25
  | .vtalrm => 26
  | .prof => 27
  | .winch => 28
  | .io => 29
  | .pwr => 30

/-- `g_gt_sig_ignore`. -/
def gGtSigIgnore : List GtSigIgnored :=
  [.int, .pipe, .alrm, .stkflt, .cld, .chld, .cont, .tstp, .ttin, .ttou, .xcpu, .xfsz, .vtalrm,
    .prof, .winch, .io, .pwr]

/-- The functions that are installed with `sigaction`. -/
inductive SaHandler
  | gtSignalRoutine
  deriving DecidableEq, Repr

/-- What concerns signals: the pipe, the flags of descriptors, the handlers and the
mask of the process. -/
structure SignalSetup where
  /-- `g_signal_pipefd`. -/
  pipefd : ℤ × ℤ
  /-- What `socketpair` has created. -/
  pairs : List (ℤ × ℤ)
  /-- `O_NONBLOCK` of a descriptor. -/
  nonblock : ℤ → Bool
  /-- `FD_CLOEXEC` of a descriptor. -/
  cloexec : ℤ → Bool
  /-- The handler of a signal; `none` is the default action. -/
  handler : BitVec 32 → Option SaHandler
  /-- The blocked signals. -/
  blocked : List (BitVec 32)

/-- The functions that are registered for a phase. -/
inductive PhaseFn
  | gtCorePhase0Func
  | gtSignalPhase1Func
  | gtNetworkPhase1Func
  | gtNetworkPhase2Func
  deriving DecidableEq, Repr

/-- `struct sockaddr_in`. -/
structure SockaddrIn where
  sinFamily : BitVec 16
  sinPort : BitVec 16
  sAddr : BitVec 32
  deriving DecidableEq, Repr

/-- The state of the process during the start-up. -/
structure InitState where
  world : World
  /-- `g_gt_log_fd`. -/
  logFd : ℤ
  signals : SignalSetup
  /-- `g_gt_phase`. -/
  phases : GtPhaseTable PhaseFn
  /-- The return codes of `gt_phase_register` so far. -/
  registered : List ℤ
  /-- The phase functions called so far. -/
  calls : List (PhaseCall PhaseFn)
  /-- The descriptors and addresses passed to `bind` so far. -/
  bound : List (ℤ × SockaddrIn)

namespace InitState

/-- Before `gt_init_system`. -/
def boot : InitState where
  world := World.boot
  logFd := 1
  signals := ⟨(0, 0), [], fun _ => false, fun _ => false, fun _ => none, []⟩
  phases := gGtPhase
  registered := []
  calls := []
  bound := []

/-- Record a logging call. -/
def logs (s : InitState) (c : LogCall) : InitState := { s with world := s.world.logs c }

/-- A new descriptor; its flags are clear. -/
def openFile (s : InitState) (fd : ℤ) : InitState :=
  { s with
    world := { s.world with kernel := s.world.kernel.openFile fd }
    signals :=
      { s.signals with
        nonblock := Function.update s.signals.nonblock fd false
        cloexec := Function.update s.signals.cloexec fd false } }

/-- `close`.  The flags go with the descriptor. -/
def close (s : InitState) (fd : ℤ) : InitState :=
  { s with
    world := { s.world with kernel := s.world.kernel.close fd }
    signals :=
      { s.signals with
        nonblock := Function.update s.signals.nonblock fd false
        cloexec := Function.update s.signals.cloexec fd false } }

end InitState

/-! ## The log file -/

/-- `GT_STD_ERROR_LOG`. -/
def gtStdErrorLog (func : String) (line : ℕ) (msg : List LogPiece) : LogCall :=
  ⟨true, .error, func, line, msg⟩

/-- `gt_log_init`. -/
def gtLogInit (openLog : Except Errno ℤ) (s : InitState) : ℤ × InitState :=
  match openLog with
  | .error errnum => (gtError, { s with logFd := -1 }.logs (gtStdErrorLog "gt_log_init" 108
      [.text "Failed to open log-file: ", .text "/tmp/", .text "gt_server.log",
        .text "! errno:", .int errnum, .text ", ", .strerror errnum]))
  | .ok fd => (gtOk, { s.openFile fd with logFd := fd })

/-! ## The signal pipe -/

/-- The answers to the calls of `gt_signal_create_pipefd`: the pair or the error of
`socketpair`, and the errors of `fcntl` with `F_SETFL` and with `F_SETFD`. -/
structure PipeAnswers where
  socketpair : Except Errno (ℤ × ℤ)
  setfl : Option Errno
  setfd : Option Errno
  deriving DecidableEq

/-- `gt_create_pipefd` on `g_signal_pipefd`. -/
def gtCreatePipefd (socketpair : Except Errno (ℤ × ℤ)) (s : InitState) : ℤ × InitState :=
  match socketpair with
  | .error errnum => (-1, s.logs (gtErrorLog "gt_create_pipefd" 44
      [.text "Failed to create socketpair pipefd! errno:", .int errnum, .text ", ",
        .strerror errnum]))
  | .ok pair =>
      let s := (s.openFile pair.1).openFile pair.2
      (gtOk, { s with
        signals := { s.signals with pipefd := pair, pairs := s.signals.pairs ++ [pair] } })

/-- `gt_set_nonblock`. -/
def gtSetNonblock (setfl : Option Errno) (fd : ℤ) (s : InitState) : ℤ × InitState :=
  match setfl with
  | some errnum => (-1, s.logs (gtErrorLog "gt_set_nonblock" 58
      [.text "Failed to set fd[", .int fd, .text "] to nonblock! errno:", .int errnum,
        .text ", ", .strerror errnum]))
  | none => (gtOk, { s with
      signals := { s.signals with nonblock := Function.update s.signals.nonblock fd true } })

/-- `gt_set_cloexec`. -/
def gtSetCloexec (setfd : Option Errno) (fd : ℤ) (s : InitState) : ℤ × InitState :=
  match setfd with
  | some errnum => (-1, s.logs (gtErrorLog "gt_set_cloexec" 72
      [.text "Failed to set fd[", .int fd, .text "] to close-on-exec! errno:", .int errnum,
        .text ", ", .strerror errnum]))
  | none => (gtOk, { s with
      signals := { s.signals with cloexec := Function.update s.signals.cloexec fd true } })

/-- The end of `gt_signal_create_pipefd` when a flag cannot be set. -/
def closePipefd (line : ℕ) (msg : String) (ret : ℤ) (s : InitState) : ℤ × InitState :=
  let s := s.logs (gtErrorLog "gt_signal_create_pipefd" line [.text msg])
  (ret, (s.close s.signals.pipefd.1).close s.signals.pipefd.2)

/-- `gt_signal_create_pipefd`. -/
def gtSignalCreatePipefd (a : PipeAnswers) (s : InitState) : ℤ × InitState :=
  let (ret, s) := gtCreatePipefd a.socketpair s
  if gtOk ≠ ret then
    (ret, s.logs (gtErrorLog "gt_signal_create_pipefd" 108
      [.text "Failed to create signal pipefd!"]))
  else
    let (ret, s) := gtSetNonblock a.setfl s.signals.pipefd.2 s
    if gtOk ≠ ret then closePipefd 116 "Failed to set signal pipefd to nonblock!" ret s
    else
      let (ret, s) := gtSetCloexec a.setfd s.signals.pipefd.2 s
      if gtOk ≠ ret then closePipefd 126 "Failed to set signal pipefd to close-on-exec!" ret s
      else (gtOk, s)

/-! ## Handlers and the mask -/

/-- `gt_add_signal_handler` with `gt_signal_routine`. -/
def gtAddSignalHandler (sigaction : Option Errno) (sig : GtSig) (s : InitState) : ℤ × InitState :=
  match sigaction with
  | some errnum => (-1, s.logs (gtErrorLog "gt_add_signal_handler" 298
      [.text "Failed to add signal handler! errno:", .int errnum, .text ", ", .strerror errnum]))
  | none => (gtOk, { s with
      signals :=
        { s.signals with
          handler := Function.update s.signals.handler sig.num (some .gtSignalRoutine) } })

/-- The loop of `gt_signal_register_custom` and of `gt_signal_register_core`, which
differ in the table, the lines and the text. -/
def signalRegister (func : String) (line errLine : ℕ) (msg : String)
    (sigaction : GtSig → Option Errno) : List GtSig → InitState → ℤ × InitState
  | [], s => (gtOk, s)
  | sig :: sigs, s =>
      let s := s.logs (gtInfoLog func line
        [.text "Set handle to user sig:", .int sig.num.toInt])
      let (ret, s) := gtAddSignalHandler (sigaction sig) sig s
      if gtOk ≠ ret then (ret, s.logs (gtErrorLog func errLine [.text msg]))
      else signalRegister func line errLine msg sigaction sigs s

/-- `gt_signal_register_custom`. -/
def gtSignalRegisterCustom (sigaction : GtSig → Option Errno) : InitState → ℤ × InitState :=
  signalRegister "gt_signal_register_custom" 309 313 "Failed to register user signal handler!"
    sigaction gGtSigCustom

/-- `gt_signal_register_core`. -/
def gtSignalRegisterCore (sigaction : GtSig → Option Errno) : InitState → ℤ × InitState :=
  signalRegister "gt_signal_register_core" 325 329 "Failed to register core signal handler!"
    sigaction gGtSigCore

/-- The loop of `gt_signal_register_ignore`: the set, or the error of `sigaddset`. -/
def igrSig (sigaddset : GtSigIgnored → Option Errno) :
    List GtSigIgnored → Except Errno (List (BitVec 32))
  | [] => .ok []
  | sig :: sigs =>
      match sigaddset sig, igrSig sigaddset sigs with
      | some errnum, _ => .error errnum
      | none, .error errnum => .error errnum
      | none, .ok set => .ok (sig.num :: set)

/-- `gt_signal_register_ignore`. -/
def gtSignalRegisterIgnore (sigaddset : GtSigIgnored → Option Errno)
    (sigprocmask : Option Errno) (s : InitState) : ℤ × InitState :=
  match igrSig sigaddset gGtSigIgnore with
  | .error errnum => (-1, s.logs (gtErrorLog "gt_signal_register_ignore" 347
      [.text "Failed to add igr_sig to set! errno:", .int errnum, .text ", ", .strerror errnum]))
  | .ok igrSig =>
      match sigprocmask with
      | some errnum => (-1, s.logs (gtErrorLog "gt_signal_register_ignore" 356
          [.text "Failed to set sigprocmask ! errno:", .int errnum, .text ", ",
            .strerror errnum]))
      | none => (gtOk, { s with
          signals := { s.signals with blocked := s.signals.blocked ++ igrSig } })

/-- `gt_phase_register` on `g_gt_phase`. -/
def registerPhase (cmod : GtCmod) (gphase : GtPhase) (fn : PhaseFn) (s : InitState) :
    ℤ × InitState :=
  let (ret, phases, log) := gtPhaseRegister cmod gphase (some fn) s.phases
  (ret, { s with
    world := { s.world with log := s.world.log ++ log }
    phases := phases
    registered := s.registered ++ [ret] })

/-- `gt_signal_handle_phase`. -/
def gtSignalHandlePhase (s : InitState) : ℤ × InitState :=
  let (ret, s) := registerPhase .signal .phase1 .gtSignalPhase1Func s
  if gtOk ≠ ret then (ret, s) else (gtOk, s)

/-- The answers to the calls of `gt_signals_init`. -/
structure SignalAnswers where
  pipe : PipeAnswers
  sigaction : GtSig → Option Errno
  sigaddset : GtSigIgnored → Option Errno
  sigprocmask : Option Errno

/-- `gt_signals_init`: the return codes of the five calls are dropped. -/
def gtSignalsInit (a : SignalAnswers) (s : InitState) : ℤ × InitState :=
  let (_, s) := gtSignalCreatePipefd a.pipe s
  let (_, s) := gtSignalRegisterCustom a.sigaction s
  let (_, s) := gtSignalRegisterCore a.sigaction s
  let (_, s) := gtSignalRegisterIgnore a.sigaddset a.sigprocmask s
  let (_, s) := gtSignalHandlePhase s
  (gtOk, s)

/-! ## What has to be set up -/

/-- The pipe was created, and its write end is non-blocking and close-on-exec. -/
structure PipeGood (g : SignalSetup) : Prop where
  created : g.pipefd ∈ g.pairs
  nonblock : g.nonblock g.pipefd.2 = true
  cloexec : g.cloexec g.pipefd.2 = true

/-- The pipe is good, `gt_signal_routine` is installed for the signals of two tables, and
those of the third one are blocked. -/
structure SignalsGood (g : SignalSetup) : Prop where
  pipe : PipeGood g
  handlers : ∀ sig ∈ gGtSigCustom ++ gGtSigCore, g.handler sig.num = some .gtSignalRoutine
  blocked : ∀ sig ∈ gGtSigIgnore, sig.num ∈ g.blocked

/-- The calls of `gt_signal_create_pipefd` succeed. -/
structure PipeAnswers.Succeed (a : PipeAnswers) : Prop where
  socketpair : ∃ pair, a.socketpair = .ok pair
  setfl : a.setfl = none
  setfd : a.setfd = none

/-- The calls of `gt_signals_init` succeed. -/
structure SignalAnswers.Succeed (a : SignalAnswers) : Prop where
  pipe : a.pipe.Succeed
  sigaction : ∀ sig ∈ gGtSigCustom ++ gGtSigCore, a.sigaction sig = none
  sigaddset : ∀ sig ∈ gGtSigIgnore, a.sigaddset sig = none
  sigprocmask : a.sigprocmask = none

/-- What the set-up of signals does not touch, its log lines apart. -/
structure SetupFrame (s s' : InitState) : Prop where
  logFd_eq : s'.logFd = s.logFd
  nodes_eq : s'.world.nodes = s.world.nodes
  phases_eq : s'.phases = s.phases
  registered_eq : s'.registered = s.registered
  calls_eq : s'.calls = s.calls

theorem SetupFrame.trans {s s' s'' : InitState} (h : SetupFrame s s') (h' : SetupFrame s' s'') :
    SetupFrame s s'' where
  logFd_eq := h'.logFd_eq.trans h.logFd_eq
  nodes_eq := h'.nodes_eq.trans h.nodes_eq
  phases_eq := h'.phases_eq.trans h.phases_eq
  registered_eq := h'.registered_eq.trans h.registered_eq
  calls_eq := h'.calls_eq.trans h.calls_eq

/-- Without registrations, closing keeps the epoll sets as they are. -/
theorem sets_close_of_empty {k : Kernel (Option EventPtr)} (h : ∀ epfd fd, k.sets epfd fd = none)
    (fd epfd fd' : ℤ) : (k.close fd).sets epfd fd' = none := by
  unfold Kernel.close
  split
  · exact h epfd fd'
  · simp only
    split
    · rfl
    · rw [Function.update_apply]
      split
      · rfl
      · exact h epfd fd'

/-- A pipe whose flags cannot be set is closed, and its flags go with it. -/
theorem closePipefd_spec (line : ℕ) (msg : String) (ret : ℤ) {s : InitState}
    (hsets : ∀ epfd fd, s.world.kernel.sets epfd fd = none) :
    let s' := (closePipefd line msg ret s).2
    SetupFrame s s' ∧ s'.signals.handler = s.signals.handler ∧
      s'.signals.blocked = s.signals.blocked ∧ ¬ PipeGood s'.signals ∧
      ∀ epfd fd, s'.world.kernel.sets epfd fd = none := by
  refine ⟨⟨rfl, rfl, rfl, rfl, rfl⟩, rfl, rfl, ?_, ?_⟩
  · rintro ⟨-, hnonblock, -⟩
    simp [closePipefd, InitState.close] at hnonblock
  · exact sets_close_of_empty (sets_close_of_empty hsets _) _

/-- **The pipe.**  From a state without one, it is good afterwards exactly when the calls
succeed; then both ends are open, and so is what was open before. -/
theorem pipe_spec (a : PipeAnswers) {s : InitState} (hpairs : s.signals.pairs = [])
    (hsets : ∀ epfd fd, s.world.kernel.sets epfd fd = none) :
    let s' := (gtSignalCreatePipefd a s).2
    SetupFrame s s' ∧ s'.signals.handler = s.signals.handler ∧
      s'.signals.blocked = s.signals.blocked ∧ (PipeGood s'.signals ↔ a.Succeed) ∧
      (∀ epfd fd, s'.world.kernel.sets epfd fd = none) ∧
      (a.Succeed → s'.world.kernel.files s'.signals.pipefd.1 ≠ none ∧
        s'.world.kernel.files s'.signals.pipefd.2 ≠ none ∧
        ∀ fd, s.world.kernel.files fd ≠ none → s'.world.kernel.files fd ≠ none) := by
  obtain ⟨socketpair, setfl, setfd⟩ := a
  cases socketpair with
  | error errnum =>
      refine ⟨⟨rfl, rfl, rfl, rfl, rfl⟩, rfl, rfl, iff_of_false ?_ ?_, hsets, ?_⟩
      · rintro ⟨hcreated, -, -⟩
        simp [gtSignalCreatePipefd, gtCreatePipefd, gtOk, InitState.logs, hpairs] at hcreated
      · rintro ⟨⟨pair, ⟨⟩⟩, -, -⟩
      · rintro ⟨⟨pair, ⟨⟩⟩, -, -⟩
  | ok pair =>
      let s₁ := (gtCreatePipefd (.ok pair) s).2
      have hsets₁ : ∀ epfd fd, s₁.world.kernel.sets epfd fd = none := hsets
      cases setfl with
      | some errnum =>
          let s₂ := (gtSetNonblock (some errnum) pair.2 s₁).2
          have hframe₂ : SetupFrame s s₂ := ⟨rfl, rfl, rfl, rfl, rfl⟩
          obtain ⟨hframe, hhandler, hblocked, hnot, hclosed⟩ :=
            closePipefd_spec (s := s₂) 116 "Failed to set signal pipefd to nonblock!" (-1) hsets₁
          have hfails : ¬ PipeAnswers.Succeed ⟨.ok pair, some errnum, setfd⟩ := by
            rintro ⟨-, ⟨⟩, -⟩
          exact ⟨hframe₂.trans hframe, hhandler, hblocked, iff_of_false hnot hfails, hclosed,
            fun h => absurd h hfails⟩
      | none =>
          let s₂ := (gtSetNonblock none pair.2 s₁).2
          cases setfd with
          | some errnum =>
              let s₃ := (gtSetCloexec (some errnum) pair.2 s₂).2
              have hframe₃ : SetupFrame s s₃ := ⟨rfl, rfl, rfl, rfl, rfl⟩
              obtain ⟨hframe, hhandler, hblocked, hnot, hclosed⟩ :=
                closePipefd_spec (s := s₃) 126 "Failed to set signal pipefd to close-on-exec!" (-1)
                  hsets₁
              have hfails : ¬ PipeAnswers.Succeed ⟨.ok pair, none, some errnum⟩ := by
                rintro ⟨-, -, ⟨⟩⟩
              exact ⟨hframe₃.trans hframe, hhandler, hblocked, iff_of_false hnot hfails, hclosed,
                fun h => absurd h hfails⟩
          | none =>
              refine ⟨⟨rfl, rfl, rfl, rfl, rfl⟩, rfl, rfl, iff_of_true ?_ ?_, hsets, ?_⟩
              · refine ⟨?_, ?_, ?_⟩ <;>
                  simp [gtSignalCreatePipefd, gtCreatePipefd, gtSetNonblock, gtSetCloexec, gtOk,
                    InitState.openFile]
              · exact ⟨⟨pair, rfl⟩, rfl, rfl⟩
              · intro _
                simp only [gtSignalCreatePipefd, gtCreatePipefd, gtSetNonblock, gtSetCloexec,
                  ne_eq, not_true_eq_false, if_false, InitState.openFile, Kernel.openFile,
                  Function.update_apply]
                refine ⟨by split <;> simp, by simp, ?_⟩
                intro fd hfd
                split
                · simp
                · split
                  · simp
                  · exact hfd

/-- The signals of a table that get a handler: those before the first failure. -/
def installed (sigaction : GtSig → Option Errno) (table : List GtSig) : List GtSig :=
  table.takeWhile fun sig => (sigaction sig).isNone

/-- The set-up with more handlers. -/
def SignalSetup.install (g : SignalSetup) (sigs : List GtSig) : SignalSetup :=
  { g with
    handler := fun n =>
      if (sigs.map GtSig.num).contains n then some .gtSignalRoutine else g.handler n }

/-- **The loop over a table** installs handlers up to the first failure. -/
theorem exists_signalRegister (func : String) (line errLine : ℕ) (msg : String)
    (sigaction : GtSig → Option Errno) (table : List GtSig) (s : InitState) :
    ∃ log, (signalRegister func line errLine msg sigaction table s).2 =
      { s with
        world := { s.world with log := log }
        signals := s.signals.install (installed sigaction table) } := by
  induction table generalizing s with
  | nil => exact ⟨s.world.log, by simp [signalRegister, installed, SignalSetup.install]⟩
  | cons sig sigs ih =>
      cases hsig : sigaction sig with
      | some errnum =>
          simp only [signalRegister, gtAddSignalHandler, hsig, installed, List.takeWhile_cons,
            Option.isNone_some, Bool.false_eq_true, if_false, SignalSetup.install, List.map_nil,
            List.contains_nil]
          exact ⟨_, rfl⟩
      | none =>
          simp only [signalRegister, gtAddSignalHandler, hsig, ne_eq, not_true_eq_false, if_false]
          obtain ⟨log, hlog⟩ := ih _
          refine ⟨log, hlog.trans ?_⟩
          have hcons : installed sigaction (sig :: sigs) = sig :: installed sigaction sigs := by
            simp [installed, hsig]
          rw [hcons]
          simp only [InitState.logs, World.logs, SignalSetup.install, List.map_cons,
            List.contains_cons, Function.update_apply]
          congr 2
          funext n
          by_cases hn : n = sig.num <;> simp [hn]

theorem GtSig.num_injective : Function.Injective GtSig.num := by
  intro x y h
  cases x <;> cases y <;> first | rfl | exact absurd h (by decide)

/-- All handlers are there exactly when every `sigaction` succeeds. -/
theorem handlers_install_iff {g : SignalSetup} (hnone : ∀ n, g.handler n = none)
    (sigaction : GtSig → Option Errno) :
    (∀ sig ∈ gGtSigCustom ++ gGtSigCore,
      ((g.install (installed sigaction gGtSigCustom)).install
        (installed sigaction gGtSigCore)).handler sig.num = some .gtSignalRoutine) ↔
      ∀ sig ∈ gGtSigCustom ++ gGtSigCore, sigaction sig = none := by
  have hmem : ∀ sig table, sig.num ∈ (installed sigaction table).map GtSig.num →
      sigaction sig = none := by
    intro sig table h
    obtain ⟨sig', hsig', hnum⟩ := List.mem_map.mp h
    obtain rfl := GtSig.num_injective hnum
    simpa using List.mem_takeWhile_imp hsig'
  have hall : ∀ table, (∀ sig ∈ table, sigaction sig = none) →
      installed sigaction table = table := by
    intro table h
    rw [installed, List.takeWhile_eq_self_iff]
    intro sig hsig
    simp [h sig hsig]
  constructor
  · intro h sig hsig
    have hinst := h sig hsig
    simp only [SignalSetup.install, hnone, List.contains_iff_mem] at hinst
    split at hinst
    · rename_i hcore
      exact hmem sig _ hcore
    · split at hinst
      · rename_i hcustom
        exact hmem sig _ hcustom
      · cases hinst
  · intro h sig hsig
    rw [hall gGtSigCustom fun x hx => h x (List.mem_append_left _ hx),
      hall gGtSigCore fun x hx => h x (List.mem_append_right _ hx)]
    simp only [SignalSetup.install, List.contains_iff_mem]
    rcases List.mem_append.mp hsig with hsig | hsig
    · split
      · rfl
      · rw [if_pos (List.mem_map_of_mem hsig)]
    · rw [if_pos (List.mem_map_of_mem hsig)]

/-- The set is complete exactly when every `sigaddset` succeeds. -/
theorem igrSig_eq (sigaddset : GtSigIgnored → Option Errno) (sigs : List GtSigIgnored) :
    (∃ errnum, igrSig sigaddset sigs = .error errnum ∧ ¬ ∀ sig ∈ sigs, sigaddset sig = none) ∨
      (igrSig sigaddset sigs = .ok (sigs.map GtSigIgnored.num) ∧
        ∀ sig ∈ sigs, sigaddset sig = none) := by
  induction sigs with
  | nil => exact .inr ⟨rfl, by simp⟩
  | cons sig sigs ih =>
      cases hsig : sigaddset sig with
      | some errnum =>
          refine .inl ⟨errnum, by simp [igrSig, hsig], ?_⟩
          intro hall
          rw [hall sig List.mem_cons_self] at hsig
          cases hsig
      | none =>
          rcases ih with ⟨errnum, herr, hno⟩ | ⟨hok, hall⟩
          · refine .inl ⟨errnum, by simp [igrSig, hsig, herr], ?_⟩
            exact fun hall => hno fun x hx => hall x (List.mem_cons_of_mem _ hx)
          · refine .inr ⟨by simp [igrSig, hsig, hok], ?_⟩
            simpa [hsig] using hall

/-- **The mask.**  From an empty one, all signals of the table are blocked afterwards
exactly when the calls succeed. -/
theorem ignore_spec (sigaddset : GtSigIgnored → Option Errno) (sigprocmask : Option Errno)
    {s : InitState} (hblocked : s.signals.blocked = []) :
    ∃ log blocked, (gtSignalRegisterIgnore sigaddset sigprocmask s).2 =
        { s with
          world := { s.world with log := log }
          signals := { s.signals with blocked := blocked } } ∧
      ((∀ sig ∈ gGtSigIgnore, sig.num ∈ blocked) ↔
        (∀ sig ∈ gGtSigIgnore, sigaddset sig = none) ∧ sigprocmask = none) := by
  have hempty : ¬ ∀ sig ∈ gGtSigIgnore, sig.num ∈ s.signals.blocked := by
    rw [hblocked]
    decide
  rcases igrSig_eq sigaddset gGtSigIgnore with ⟨errnum, herr, hno⟩ | ⟨hok, hall⟩
  · exact ⟨_, _, by simp only [gtSignalRegisterIgnore, herr, InitState.logs, World.logs]; rfl,
      iff_of_false hempty fun h => hno h.1⟩
  · cases sigprocmask with
    | some errnum =>
        exact ⟨_, _, by simp only [gtSignalRegisterIgnore, hok, InitState.logs, World.logs]; rfl,
          iff_of_false hempty (by simp)⟩
    | none =>
        refine ⟨_, _, by simp only [gtSignalRegisterIgnore, hok]; rfl,
          iff_of_true ?_ ⟨hall, rfl⟩⟩
        intro sig hsig
        exact List.mem_append_right _ (List.mem_map_of_mem hsig)

/-! ## After `gt_signals_init` -/

/-- What `gt_signals_init` leaves to the rest of the start-up, when `n` phase functions
were registered and the table is `t`. -/
structure SignalsReady (a : SignalAnswers) (t : GtPhaseTable PhaseFn) (n : ℕ) (s : InitState) :
    Prop where
  good_iff : SignalsGood s.signals ↔ a.Succeed
  opened : SignalsGood s.signals → s.world.kernel.files s.logFd ≠ none ∧
    s.world.kernel.files s.signals.pipefd.1 ≠ none ∧
    s.world.kernel.files s.signals.pipefd.2 ≠ none
  sets_empty : ∀ epfd fd, s.world.kernel.sets epfd fd = none
  elists : ∀ p, s.world.nodes (.elist p) ≠ none
  phases : s.phases = t
  registered : s.registered = List.replicate n gtOk
  calls : s.calls = []

/-- The state after `gt_log_init`. -/
structure LogReady (s : InitState) : Prop where
  log_open : s.world.kernel.files s.logFd ≠ none
  signals : s.signals = ⟨(0, 0), [], fun _ => false, fun _ => false, fun _ => none, []⟩
  sets_empty : ∀ epfd fd, s.world.kernel.sets epfd fd = none
  elists : ∀ p, s.world.nodes (.elist p) ≠ none
  phases : s.phases = gGtPhase
  registered : s.registered = []
  calls : s.calls = []

open CheckedCall (Spec)

/-- `gt_log_init` succeeds exactly when `open` does. -/
theorem gtLogInit_spec (openLog : Except Errno ℤ) :
    Spec gtOk (· = InitState.boot) (fun s => some (gtLogInit openLog s))
      (∃ fd, openLog = .ok fd) LogReady := by
  rintro s rfl
  cases openLog with
  | error errnum => exact ⟨_, _, rfl, by simp, by simp⟩
  | ok fd =>
      refine ⟨_, _, rfl, by simp, fun _ => ⟨?_, ?_, fun _ _ => rfl, ?_, rfl, rfl, rfl⟩⟩
      · simp [InitState.openFile, Kernel.openFile]
      · simp only [InitState.openFile, InitState.boot, Function.update_eq_self]
      · intro p
        simp [InitState.openFile, InitState.boot, World.boot]

/-- The return codes of the five calls do not matter. -/
theorem fst_gtSignalsInit (a : SignalAnswers) (s : InitState) : (gtSignalsInit a s).1 = gtOk := by
  simp only [gtSignalsInit]

/-- The five calls of `gt_signals_init` in a row. -/
theorem snd_gtSignalsInit (a : SignalAnswers) (s : InitState) : (gtSignalsInit a s).2 =
    (gtSignalHandlePhase (gtSignalRegisterIgnore a.sigaddset a.sigprocmask
      (gtSignalRegisterCore a.sigaction (gtSignalRegisterCustom a.sigaction
        (gtSignalCreatePipefd a.pipe s).2).2).2).2).2 := by
  simp only [gtSignalsInit]

/-- A registration that finds its slot free. -/
theorem registerPhase_free {s : InitState} {cmod : GtCmod} {gphase : GtPhase}
    (h : s.phases gphase cmod = none) (fn : PhaseFn) :
    registerPhase cmod gphase fn s =
      (gtOk, { s with
        phases := s.phases.set gphase cmod (some fn)
        registered := s.registered ++ [gtOk] }) := by
  simp only [registerPhase, gtPhaseRegister_free h, List.append_nil]

/-- The registration of the signal module, which finds its slot free. -/
theorem snd_gtSignalHandlePhase {s : InitState} (h : s.phases = gGtPhase) :
    (gtSignalHandlePhase s).2 =
      { s with
        phases := gGtPhase.set .phase1 .signal (some .gtSignalPhase1Func)
        registered := s.registered ++ [gtOk] } := by
  have hfree : s.phases .phase1 .signal = none := by rw [h]; rfl
  simp only [gtSignalHandlePhase, registerPhase_free hfree, ne_eq, not_true_eq_false, if_false, h]

/-- **`gt_signals_init` always succeeds**, and has set everything up exactly when its
system calls did. -/
theorem gtSignalsInit_spec (a : SignalAnswers) :
    Spec gtOk LogReady (fun s => some (gtSignalsInit a s)) True
      (SignalsReady a (gGtPhase.set .phase1 .signal (some .gtSignalPhase1Func)) 1) := by
  intro s hs
  refine ⟨(gtSignalsInit a s).1, (gtSignalsInit a s).2, rfl,
    iff_of_true (fst_gtSignalsInit a s) trivial, fun _ => ?_⟩
  have hpairs : s.signals.pairs = [] := by rw [hs.signals]
  have hpipe := pipe_spec a.pipe hpairs hs.sets_empty
  rw [snd_gtSignalsInit]
  generalize (gtSignalCreatePipefd a.pipe s).2 = s₁ at hpipe ⊢
  obtain ⟨hframe, hhandler, hblocked, hgood, hsets, hopen⟩ := hpipe
  obtain ⟨log₂, hcustom⟩ := exists_signalRegister "gt_signal_register_custom" 309 313
    "Failed to register user signal handler!" a.sigaction gGtSigCustom s₁
  rw [gtSignalRegisterCustom, hcustom]
  obtain ⟨log₃, hcore⟩ := exists_signalRegister "gt_signal_register_core" 325 329
    "Failed to register core signal handler!" a.sigaction gGtSigCore _
  rw [gtSignalRegisterCore, hcore]
  obtain ⟨log₄, blocked, hignore, hmask⟩ := ignore_spec a.sigaddset a.sigprocmask (s :=
    { s₁ with
      world := { s₁.world with log := log₃ }
      signals := (s₁.signals.install (installed a.sigaction gGtSigCustom)).install
        (installed a.sigaction gGtSigCore) }) (hblocked.trans (by rw [hs.signals]))
  rw [hignore, snd_gtSignalHandlePhase]
  swap
  · exact hframe.phases_eq.trans hs.phases
  have hnone : ∀ n, s₁.signals.handler n = none := by
    intro n
    rw [hhandler, hs.signals]
  have hinstalled := handlers_install_iff hnone a.sigaction
  have hiff : SignalsGood
      { (s₁.signals.install (installed a.sigaction gGtSigCustom)).install
          (installed a.sigaction gGtSigCore) with blocked := blocked } ↔ a.Succeed := by
    constructor
    · rintro ⟨⟨hcreated, hnonblock, hcloexec⟩, hhandlers, hblocked'⟩
      obtain ⟨haddset, hprocmask⟩ := hmask.mp hblocked'
      exact ⟨hgood.mp ⟨hcreated, hnonblock, hcloexec⟩, hinstalled.mp hhandlers, haddset, hprocmask⟩
    · rintro ⟨hpipe, hsigaction, haddset, hprocmask⟩
      obtain ⟨hcreated, hnonblock, hcloexec⟩ := hgood.mpr hpipe
      exact ⟨⟨hcreated, hnonblock, hcloexec⟩, hinstalled.mpr hsigaction,
        hmask.mpr ⟨haddset, hprocmask⟩⟩
  refine ⟨hiff, ?_, hsets, ?_, rfl, ?_, ?_⟩
  · intro hall
    obtain ⟨hfst, hsnd, hkept⟩ := hopen (hiff.mp hall).pipe
    refine ⟨?_, hfst, hsnd⟩
    simp only [hframe.logFd_eq]
    exact hkept _ hs.log_open
  · intro p
    simp only [hframe.nodes_eq]
    exact hs.elists p
  · simp only [hframe.registered_eq, hs.registered, List.nil_append, List.replicate_one]
  · simp only [hframe.calls_eq, hs.calls]

end GuitarTea
