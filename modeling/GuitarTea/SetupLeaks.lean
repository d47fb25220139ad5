import GuitarTea.InitSystem
import GuitarTea.Connections
import Mathlib.Order.BooleanAlgebra.Set

/-!
# Descriptors of a failed set-up

`gt_poller_init`, `gt_network_listenning` and `gt_signal_create_pipefd` open
descriptors and go on with calls that may fail.  Each exit has its own clean-up.
The signal pipe is closed on every exit with an error, and the listening socket when
an option, the address or the backlog is refused.

Two exits have none: a poller whose array of events cannot be allocated keeps its
epoll descriptor, and a listening socket without a started event stays open.

## Main definitions

* `SetupCall` — a call of one of the functions, with the answers to its calls.
* `LeakFree` — if it fails, the same descriptors are open as before.
* `SetupCall.CleansUp` — the failures that are cleaned up.
-/

namespace GuitarTea

/-- The open descriptors. -/
def openFds (s : InitState) : Set ℤ := { fd | s.world.kernel.files fd ≠ none }

/-- A call of one of the three functions, with the answers to the calls it makes. -/
inductive SetupCall
  | pollerInit (a : PollerAnswers) (maxe timeout : ℤ) (gpoller : PollerId)
  | listenning (a : ListenAnswers) (ip port : BitVec 32)
  | createPipefd (a : PipeAnswers)

namespace SetupCall

/-- The call. -/
def run : SetupCall → InitState → Option (ℤ × InitState)
  | pollerInit a maxe timeout gpoller, s =>
      (gtPollerInit a.epollCreate a.malloc maxe timeout gpoller s.world).map fun r =>
        (r.1, { s with world := r.2 })
  | listenning a ip port, s => gtNetworkListenning a ip port s
  | createPipefd a, s => some (gtSignalCreatePipefd a s)

/-- The descriptors the system hands out are not open before. -/
def Fresh (s : InitState) : SetupCall → Prop
  | pollerInit a _ _ _ => ∀ epfd, a.epollCreate = .ok epfd → epfd ∉ openFds s
  | listenning a _ _ => ∀ lfd, a.socket = .ok lfd → lfd ∉ openFds s
  | createPipefd a => ∀ pair, a.socketpair = .ok pair → pair.1 ∉ openFds s ∧ pair.2 ∉ openFds s

/-- The condition on the answers: memory is there for the array of events once the epoll
descriptor is, and the event of the listening socket is created and started once
the socket listens. -/
def CleansUp : SetupCall → Prop
  | pollerInit a _ _ _ => ∀ epfd, a.epollCreate = .ok epfd → a.malloc = true
  | listenning a _ _ => ∀ lfd, a.socket = .ok lfd → a.setsockopt = none → a.bind = none →
      a.listen = none → a.event.Succeed
  | createPipefd _ => True

end SetupCall

/-- The call returns, and if it does not return `GT_OK` the open descriptors are those
from before. -/
def LeakFree (c : SetupCall) (s : InitState) : Prop :=
  ∃ ret s', c.run s = some (ret, s') ∧ (ret ≠ gtOk → openFds s' = openFds s)

/-! ## Open descriptors -/

section OpenFds

variable {s s' : InitState}

/-- Opening adds a descriptor. -/
theorem openFds_openFile {fd : ℤ} (h : s'.world.kernel.files =
    (s.world.kernel.openFile fd).files) : openFds s' = insert fd (openFds s) := by
  ext fd'
  change s'.world.kernel.files fd' ≠ none ↔ _
  rw [h, Kernel.openFile]
  by_cases hfd : fd' = fd
  · simp [hfd]
  · simp [hfd, openFds]

/-- Closing removes it. -/
theorem openFds_close {fd : ℤ} (h : s'.world.kernel.files = (s.world.kernel.close fd).files) :
    openFds s' = openFds s \ {fd} := by
  ext fd'
  change s'.world.kernel.files fd' ≠ none ↔ _
  rw [h, Kernel.files_close]
  by_cases hfd : fd' = fd
  · simp [hfd]
  · simp [hfd, openFds]

/-- A descriptor that is new and open is a leak. -/
theorem openFds_ne {fd : ℤ} (hold : fd ∉ openFds s) (hnew : fd ∈ openFds s') :
    openFds s' ≠ openFds s := by
  intro heq
  exact hold (heq ▸ hnew)

end OpenFds

/-! ## The three functions -/

/-- `gt_poller_init` leaks exactly when there is no memory for the array. -/
theorem leakFree_pollerInit_iff (a : PollerAnswers) (maxe timeout : ℤ) {p : PollerId}
    {s : InitState} (hlist : s.world.nodes (.elist p) ≠ none)
    (hfresh : (SetupCall.pollerInit a maxe timeout p).Fresh s) :
    LeakFree (.pollerInit a maxe timeout p) s ↔
      (SetupCall.pollerInit a maxe timeout p).CleansUp := by
  obtain ⟨epollCreate, malloc⟩ := a
  cases epollCreate with
  | error errnum =>
      refine iff_of_true ⟨_, _, rfl, fun _ => rfl⟩ ?_
      rintro epfd ⟨⟩
  | ok epfd =>
      cases malloc with
      | true =>
          obtain ⟨ret, w', hrun, hiff, -⟩ := exists_gtPollerInit ⟨.ok epfd, true⟩ maxe timeout hlist
          have hok : ret = gtOk := hiff.mpr ⟨⟨epfd, rfl⟩, rfl⟩
          refine iff_of_true ⟨ret, { s with world := w' }, ?_, fun hret => absurd hok hret⟩
            fun _ _ => rfl
          simp only [SetupCall.run, hrun, Option.map_some]
      | false =>
          refine iff_of_false ?_ (fun h => Bool.false_ne_true (h epfd rfl))
          rintro ⟨ret, s', hrun, hsame⟩
          obtain ⟨rfl, rfl⟩ := Prod.mk.inj (Option.some.inj hrun)
          refine openFds_ne (hfresh epfd rfl) ?_ (hsame gtError_ne_gtOk)
          simp [openFds, World.logs, Kernel.openFile]

/-- A pipe whose flags cannot be set is closed on both ends. -/
theorem openFds_closePipefd (line : ℕ) (msg : String) (ret : ℤ) {s s₁ : InitState}
    (hkernel : s₁.world.kernel.files = ((s.world.kernel.openFile s₁.signals.pipefd.1).openFile
      s₁.signals.pipefd.2).files)
    (hfirst : s₁.signals.pipefd.1 ∉ openFds s) (hsecond : s₁.signals.pipefd.2 ∉ openFds s) :
    openFds (closePipefd line msg ret s₁).2 = openFds s := by
  have hopen : openFds s₁ =
      insert s₁.signals.pipefd.2 (insert s₁.signals.pipefd.1 (openFds s)) := by
    have hone : openFds (s.openFile s₁.signals.pipefd.1) =
        insert s₁.signals.pipefd.1 (openFds s) := openFds_openFile rfl
    rw [← hone]
    exact openFds_openFile hkernel
  have hclose : openFds (closePipefd line msg ret s₁).2 =
      (openFds s₁ \ {s₁.signals.pipefd.1}) \ {s₁.signals.pipefd.2} := by
    have hone : openFds (s₁.close s₁.signals.pipefd.1) =
        openFds s₁ \ {s₁.signals.pipefd.1} := openFds_close rfl
    rw [← hone]
    exact openFds_close rfl
  rw [hclose, hopen]
  ext fd
  simp only [Set.mem_sdiff, Set.mem_insert_iff, Set.mem_singleton_iff]
  constructor
  · rintro ⟨⟨hsecond' | hfirst' | hold, hne⟩, hne'⟩
    · exact absurd hsecond' hne'
    · exact absurd hfirst' hne
    · exact hold
  · intro hold
    refine ⟨⟨.inr (.inr hold), ?_⟩, ?_⟩
    · rintro rfl
      exact hfirst hold
    · rintro rfl
      exact hsecond hold

/-- `gt_signal_create_pipefd` closes what it opened. -/
theorem leakFree_createPipefd (a : PipeAnswers) {s : InitState}
    (hfresh : (SetupCall.createPipefd a).Fresh s) : LeakFree (.createPipefd a) s := by
  obtain ⟨socketpair, setfl, setfd⟩ := a
  cases socketpair with
  | error errnum => exact ⟨_, _, rfl, fun _ => rfl⟩
  | ok pair =>
      obtain ⟨hfirst, hsecond⟩ := hfresh pair rfl
      cases setfl with
      | some errnum =>
          refine ⟨_, _, rfl, fun _ => ?_⟩
          exact openFds_closePipefd 116 "Failed to set signal pipefd to nonblock!" (-1) rfl hfirst
            hsecond
      | none =>
          cases setfd with
          | some errnum =>
              refine ⟨_, _, rfl, fun _ => ?_⟩
              exact openFds_closePipefd 126 "Failed to set signal pipefd to close-on-exec!" (-1) rfl
                hfirst hsecond
          | none => exact ⟨_, _, rfl, fun hret => absurd rfl hret⟩

/-- The exits of `gt_network_listenning` that close the socket. -/
theorem openFds_closeListening (line : ℕ) (msg : List LogPiece) {lfd : ℤ} {s s₁ : InitState}
    (hfresh : lfd ∉ openFds s) (hopen : openFds s₁ = insert lfd (openFds s)) :
    openFds (closeListening line msg lfd s₁).2 = openFds s := by
  have hclose : openFds (closeListening line msg lfd s₁).2 = openFds s₁ \ {lfd} :=
    openFds_close rfl
  rw [hclose, hopen, Set.insert_sdiff_self_of_notMem hfresh]

/-- The end of `gt_network_listenning` touches no descriptor, and returns `GT_OK` when the
event is started. -/
theorem listenStarted_spec (lfd : ℤ) (started : Option ℤ) (s : InitState) :
    ((listenStarted lfd started s).1 = gtOk ↔ started = some gtOk) ∧
      (listenStarted lfd started s).2.world.kernel = s.world.kernel := by
  cases started with
  | none => exact ⟨iff_of_false gtError_ne_gtOk (by simp), rfl⟩
  | some ret =>
      rw [listenStarted, Option.some.injEq]
      by_cases hret : ret = gtOk
      · rw [if_neg (not_not.mpr hret.symm)]
        exact ⟨iff_of_true rfl hret, rfl⟩
      · rw [if_pos (Ne.symm hret)]
        exact ⟨iff_of_false gtError_ne_gtOk hret, rfl⟩

/-- Once the socket listens, nothing closes it any more. -/
theorem leakFree_listens_iff (event : EventAnswers) (ip port : BitVec 32) {s : InitState} {lfd : ℤ}
    (hwf : s.world.kernel.WF) (hlist : s.world.nodes (.elist .network) ≠ none)
    (hnew : lfd ∉ openFds s) :
    LeakFree (.listenning ⟨.ok lfd, none, none, none, event⟩ ip port) s ↔ event.Succeed := by
  -- A descriptor that was not open is in no epoll set.
  have habsent : s.world.kernel.sets (s.world.pollers .network).epfd lfd = none := by
    by_contra hne
    exact hnew (hwf.sets_open _ _ hne)
  obtain ⟨started, w, hcall, hiff, hg⟩ := exists_gtNetworkListenning event ip port hlist habsent
  have hopen : w.kernel.files lfd ≠ none := hg.files lfd (by simp [Kernel.openFile])
  obtain ⟨hret, hkernel⟩ := listenStarted_spec lfd started
    { s with
      world := w
      bound := s.bound ++ [(lfd, ⟨afInet, htons (port.setWidth 16), htonl ip⟩)] }
  by_cases hsucc : event.Succeed
  · refine iff_of_true ⟨_, _, hcall, fun hne => ?_⟩ hsucc
    exact absurd (hret.mpr (hiff.mpr hsucc)) hne
  · refine iff_of_false ?_ hsucc
    rintro ⟨ret, s', hrun, hsame⟩
    obtain ⟨rfl, rfl⟩ := Prod.mk.inj (Option.some.inj (hcall.symm.trans hrun))
    refine openFds_ne hnew ?_ (hsame fun h => hsucc (hiff.mp (hret.mp h)))
    rw [openFds]
    exact hkernel ▸ hopen

/-- `gt_network_listenning` leaks exactly when its socket listens and the event fails. -/
theorem leakFree_listenning_iff (a : ListenAnswers) (ip port : BitVec 32) {s : InitState}
    (hwf : s.world.kernel.WF) (hlist : s.world.nodes (.elist .network) ≠ none)
    (hfresh : (SetupCall.listenning a ip port).Fresh s) :
    LeakFree (.listenning a ip port) s ↔ (SetupCall.listenning a ip port).CleansUp := by
  obtain ⟨socket, setsockopt, bind, listen, event⟩ := a
  cases socket with
  | error errnum =>
      refine iff_of_true ⟨_, _, rfl, fun _ => rfl⟩ ?_
      rintro lfd ⟨⟩
  | ok lfd =>
      have hnew : lfd ∉ openFds s := hfresh lfd rfl
      cases setsockopt with
      | some errnum =>
          refine iff_of_true ⟨_, _, rfl, fun _ => ?_⟩ (fun _ _ h => absurd h (by simp))
          exact openFds_closeListening _ _ hnew (openFds_openFile rfl)
      | none =>
          cases bind with
          | some errnum =>
              refine iff_of_true ⟨_, _, rfl, fun _ => ?_⟩ (fun _ _ _ h => absurd h (by simp))
              exact openFds_closeListening _ _ hnew (openFds_openFile rfl)
          | none =>
              cases listen with
              | some errnum =>
                  refine iff_of_true ⟨_, _, rfl, fun _ => ?_⟩
                    (fun _ _ _ _ h => absurd h (by simp))
                  exact openFds_closeListening _ _ hnew (openFds_openFile rfl)
              | none =>
                  rw [leakFree_listens_iff event ip port hwf hlist hnew]
                  exact ⟨fun h _ _ _ _ _ => h, fun h => h lfd rfl rfl rfl rfl⟩

/-- **When a failed set-up leaks no descriptor.**  For every table of open descriptors and
whatever the calls answer, with new descriptors that were not open: exactly when the
failure is one that is cleaned up. -/
theorem leakFree_iff (c : SetupCall) {s : InitState} (hwf : s.world.kernel.WF)
    (hlists : ∀ p, s.world.nodes (.elist p) ≠ none) (hfresh : c.Fresh s) :
    LeakFree c s ↔ c.CleansUp := by
  cases c with
  | pollerInit a maxe timeout p => exact leakFree_pollerInit_iff a maxe timeout (hlists p) hfresh
  | listenning a ip port => exact leakFree_listenning_iff a ip port hwf (hlists .network) hfresh
  | createPipefd a => exact iff_of_true (leakFree_createPipefd a hfresh) trivial

/-- The pipe is closed again when its write end cannot be made non-blocking. -/
theorem leakFree_pipe_boot : LeakFree (.createPipefd ⟨.ok (3, 4), some eagain, none⟩) .boot :=
  (leakFree_iff _ wf_boot (fun _ => by simp [InitState.boot, World.boot])
    (by rintro pair ⟨⟩; exact ⟨fun h => h rfl, fun h => h rfl⟩)).mpr trivial

/-- Without memory for the array of events the epoll descriptor stays open, and without
memory for the event the listening socket does. -/
theorem failed_setup_leaks :
    ¬ LeakFree (.pollerInit ⟨.ok 3, false⟩ gtCoreMaxevent gtEpollWaitTimeout .core) .boot ∧
    ¬ LeakFree (.listenning ⟨.ok 3, none, none, none, ⟨none, none⟩⟩ 0x7f000001 4464) .boot := by
  have hfree : (3 : ℤ) ∉ openFds .boot := fun h => h rfl
  constructor
  · rintro ⟨ret, s', hrun, hsame⟩
    obtain ⟨rfl, rfl⟩ := Prod.mk.inj (Option.some.inj hrun)
    exact openFds_ne hfree (fun h => by cases h) (hsame gtError_ne_gtOk)
  · rintro ⟨ret, s', hrun, hsame⟩
    obtain ⟨rfl, rfl⟩ := Prod.mk.inj (Option.some.inj hrun)
    exact openFds_ne hfree (fun h => by cases h) (hsame gtError_ne_gtOk)

end GuitarTea
