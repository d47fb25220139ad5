import GuitarTea.BatchDispatch

/-!
# Rounds end

The threads share memory without locks, so none of them ever waits for another.  A
thread that serves a batch can always take its next step, and its batch is over after
at most 39 own steps for each entry, whatever the others do meanwhile.

The bound is the longest way through `gt_datanet_ops_read`: the connection is at its
end, both calls of `epoll_ctl` fail, and the message about the handler follows.

## Main results

* `atMost_serving` — the length of a batch.
* `batch_wait_free` — a thread that serves a batch is never stuck and soon done.
-/

namespace GuitarTea.Threads

/-! ## The length of the code -/

section Length

variable {α : Type} {n : ℕ}

theorem atMost_log_pure (c : LogCall) (a : α) :
    (perform (.log c) >>= fun _ => pure a).AtMost 1 :=
  Prog.atMost_perform_bind fun _ => Prog.atMost_pure a 0

theorem atMost_pollerCtl (func : String) (line : ℕ) (op : EpollOp) (ge : EventPtr)
    (gpoller : Option PollerId) : (pollerCtl func line op ge gpoller).AtMost 5 := by
  refine Prog.atMost_perform_bind fun ev => ?_
  refine Prog.atMost_perform_bind fun poller => ?_
  refine Prog.atMost_perform_bind fun err => ?_
  cases err with
  | none => exact Prog.atMost_pure _ _
  | some errnum =>
      refine Prog.atMost_perform_bind fun poller => ?_
      exact atMost_log_pure _ _

theorem atMost_gtPollerEventStart (eflag : BitVec 32) (ge : EventPtr) :
    (gtPollerEventStart eflag ge).AtMost 11 := by
  refine Prog.atMost_perform_bind fun ev => ?_
  refine Prog.atMost_perform_bind fun ev' => ?_
  refine Prog.atMost_perform_bind fun ev'' => ?_
  split
  · exact Prog.atMost_pure _ _
  · refine Prog.atMost_perform_bind fun ev => ?_
    refine Prog.atMost_perform_bind fun _ => ?_
    refine Prog.atMost_perform_bind fun _ => ?_
    exact atMost_pollerCtl _ _ _ _ _

theorem atMost_gtPollerEventStop (eflag : BitVec 32) (ge : EventPtr) :
    (gtPollerEventStop eflag ge).AtMost 10 := by
  refine Prog.atMost_perform_bind fun ev => ?_
  refine Prog.atMost_perform_bind fun ev' => ?_
  refine Prog.atMost_perform_bind fun ev'' => ?_
  split
  · exact Prog.atMost_pure _ _
  · refine Prog.atMost_perform_bind fun ev => ?_
    refine Prog.atMost_perform_bind fun _ => ?_
    exact atMost_pollerCtl _ _ _ _ _

theorem atMost_initListHead (list : NodeAddr) : (initListHead list).AtMost 2 := by
  refine Prog.atMost_perform_bind fun _ => ?_
  exact Prog.atMost_perform_bind fun _ => Prog.atMost_pure _ 0

theorem atMost_rawListDel (prev next : NodeAddr) : (rawListDel prev next).AtMost 2 := by
  refine Prog.atMost_perform_bind fun _ => ?_
  exact Prog.atMost_perform_bind fun _ => Prog.atMost_pure _ 0

theorem atMost_listAdd (xnew head : NodeAddr) : (listAdd xnew head).AtMost 5 := by
  refine Prog.atMost_perform_bind fun next => ?_
  refine Prog.atMost_perform_bind fun _ => ?_
  refine Prog.atMost_perform_bind fun _ => ?_
  refine Prog.atMost_perform_bind fun _ => ?_
  exact Prog.atMost_perform_bind fun _ => Prog.atMost_pure _ 0

theorem atMost_listDel (entry : NodeAddr) : (listDel entry).AtMost 6 := by
  refine Prog.atMost_perform_bind fun prev => ?_
  refine Prog.atMost_perform_bind fun next => ?_
  refine (atMost_rawListDel prev next).bind (n := 2) fun _ => ?_
  refine Prog.atMost_perform_bind fun _ => ?_
  exact Prog.atMost_perform_bind fun _ => Prog.atMost_pure _ 0

theorem atMost_gtPollerGeventCreate (efd : ℤ) (p : PollerId) :
    (gtPollerGeventCreate efd p).AtMost 11 := by
  refine Prog.atMost_perform_bind fun v => ?_
  cases v with
  | none => exact (atMost_log_pure _ _).mono (by omega)
  | some ge =>
      refine Prog.atMost_perform_bind fun _ => ?_
      refine Prog.atMost_perform_bind fun _ => ?_
      refine (atMost_initListHead _).bind (n := 6) fun _ => ?_
      refine (atMost_listAdd _ _).bind (n := 1) fun _ => ?_
      exact Prog.atMost_perform_bind fun _ => Prog.atMost_pure _ 0

theorem atMost_gtPollerGeventDestroy (ge : EventPtr) :
    (gtPollerGeventDestroy ge).AtMost 20 := by
  refine Prog.atMost_perform_bind fun ev => ?_
  refine (atMost_gtPollerEventStop _ ge).bind (n := 9) fun _ => ?_
  refine (atMost_listDel _).bind (n := 3) fun _ => ?_
  refine Prog.atMost_perform_bind fun ev' => ?_
  refine Prog.atMost_perform_bind fun _ => ?_
  exact Prog.atMost_perform_bind fun _ => Prog.atMost_pure _ 0

theorem atMost_createStarted (efd : ℤ) (p : PollerId) (read : GtReadFn) :
    (createStarted efd p read).AtMost 23 := by
  refine (atMost_gtPollerGeventCreate efd p).bind (n := 12) fun v => ?_
  cases v with
  | none => exact Prog.atMost_pure _ _
  | some ge =>
      refine Prog.atMost_perform_bind fun _ => ?_
      exact (atMost_gtPollerEventStart epollin ge).bind (n := 0) fun _ => Prog.atMost_pure _ 0

theorem atMost_gtDatanetOpsRead (ge : EventPtr) : (gtDatanetOpsRead ge).AtMost 34 := by
  rw [gtDatanetOpsRead_eq]
  refine Prog.atMost_perform_bind fun ev => ?_
  refine Prog.atMost_perform_bind fun r => ?_
  rcases r.outcome with ⟨ret, data, errno⟩
  dsimp only
  split
  · split
    · exact Prog.atMost_pure _ _
    · refine Prog.atMost_perform_bind fun ev' => ?_
      refine Prog.atMost_perform_bind fun _ => ?_
      refine (atMost_gtPollerEventStop _ ge).bind (n := 20) fun _ => ?_
      exact (atMost_gtPollerGeventDestroy ge).bind (n := 0) fun _ => Prog.atMost_pure _ 0
  · refine Prog.atMost_perform_bind fun ev' => ?_
    exact (atMost_log_pure _ _).mono (by omega)

theorem atMost_gtNetworkRoundDispatch (sockfd : ℤ) :
    (gtNetworkRoundDispatch sockfd).AtMost 24 := by
  refine (atMost_createStarted _ _ _).bind (n := 1) fun started => ?_
  cases started with
  | none => exact atMost_log_pure _ _
  | some ret =>
      dsimp only
      split
      · exact atMost_log_pure _ _
      · exact Prog.atMost_pure _ _

theorem atMost_closeUnused (func : String) (line : ℕ) (msg : List LogPiece) (fd : ℤ) :
    (closeUnused func line msg fd).AtMost 2 := by
  refine Prog.atMost_perform_bind fun _ => ?_
  exact Prog.atMost_perform_bind fun _ => Prog.atMost_pure _ 0

theorem atMost_gtNetworkOpsRead (ge : EventPtr) : (gtNetworkOpsRead ge).AtMost 30 := by
  refine Prog.atMost_perform_bind fun ev => ?_
  refine Prog.atMost_perform_bind fun accepted => ?_
  cases accepted with
  | error errnum =>
      dsimp only
      split
      · exact Prog.atMost_pure _ _
      · refine Prog.atMost_perform_bind fun ev' => ?_
        exact (atMost_log_pure _ _).mono (by omega)
  | ok conn =>
      refine Prog.atMost_perform_bind fun err => ?_
      cases err with
      | some errnum => exact (atMost_closeUnused _ _ _ _).mono (by omega)
      | none =>
          refine Prog.atMost_perform_bind fun _ => ?_
          refine Prog.atMost_perform_bind fun err => ?_
          cases err with
          | some errnum => exact (atMost_closeUnused _ _ _ _).mono (by omega)
          | none =>
              refine (atMost_gtNetworkRoundDispatch conn.cfd).bind (n := 1) fun ret => ?_
              split
              · exact Prog.atMost_pure _ _
              · exact atMost_log_pure _ _

theorem atMost_gtSignalOpsRead (ge : EventPtr) : (gtSignalOpsRead ge).AtMost 3 := by
  refine Prog.atMost_perform_bind fun ev => ?_
  refine Prog.atMost_perform_bind fun r => ?_
  split
  · exact atMost_log_pure _ _
  · exact Prog.atMost_pure _ _
  · dsimp only
    split
    · exact atMost_log_pure _ _
    · split
      · exact atMost_log_pure _ _
      · exact Prog.atMost_pure _ _

theorem atMost_callReadFn (fn : GtReadFn) (ge : EventPtr) : (callReadFn fn ge).AtMost 34 := by
  cases fn with
  | gtSignalOpsRead => exact (atMost_gtSignalOpsRead ge).mono (by omega)
  | gtNetworkOpsRead => exact (atMost_gtNetworkOpsRead ge).mono (by omega)
  | gtDatanetOpsRead => exact atMost_gtDatanetOpsRead ge

/-- One entry. -/
theorem atMost_epollWaitBody (r : ReadyEvent) : (epollWaitBody r).AtMost 39 := by
  unfold epollWaitBody
  split
  · refine Prog.atMost_perform_bind fun ge => ?_
    refine Prog.atMost_perform_bind fun ev => ?_
    refine Prog.atMost_perform_bind fun fn => ?_
    refine (atMost_callReadFn fn ge).bind (n := 2) fun ret => ?_
    split
    · refine Prog.atMost_perform_bind fun ev' => ?_
      exact Prog.atMost_perform_bind fun _ => Prog.atMost_pure _ 0
    · exact Prog.atMost_pure _ _
  · split
    · refine Prog.atMost_perform_bind fun ge => ?_
      refine Prog.atMost_perform_bind fun ev => ?_
      exact Prog.atMost_perform_bind (n := 36) fun fn => nomatch fn
    · exact Prog.atMost_pure _ _

/-- A batch. -/
theorem atMost_serving (ee : List ReadyEvent) : (serving ee).AtMost (39 * ee.length) :=
  (Prog.atMost_forM atMost_epollWaitBody ee).bind (n := 0) fun _ => Prog.atMost_pure true 0

end Length

/-! ## Batches -/

section Batch

variable {gl : Globals} {c₀ c c' : Config} {ops₀ ops : List (Thread × Reply)}

/-- No thread ever gets stuck: one that has a command left can run it. -/
theorem exists_step (h : Booted gl c₀) (hrun : threadSystem.system.Run c₀ ops₀ c) {t : Thread}
    (hbusy : ∀ b, c.code t ≠ .ret b) : ∃ a, (threadSystem.step c t a).isSome := by
  cases hcode : c.code t with
  | ret b => exact absurd hcode (hbusy b)
  | vis cmd k =>
      have hcall := ((sound_of_booted h hrun).check (by rw [hcode]; rfl)).call
      obtain ⟨a, v, s', hresp⟩ := exists_answer hcall
      exact ⟨a, by rw [ThreadSystem.step_of_respond hcode hresp]; rfl⟩

/-- Two connections that are readable. -/
def twoReadable : List ReadyEvent := [⟨12, epollin, some 3⟩, ⟨16, epollin, some 4⟩]

/-- The thread logs an `h`, and `gt_network_m` does a round meanwhile; the second connection
is at its end, and the thread is stopped when it has read this. -/
def twoSchedule (i : Fin 4) : List (Thread × Reply) :=
  alone (.datanet i) 4 ++ [(.datanet i, { read := ⟨.ok [104], 0, 0⟩ })] ++ alone .network 3 ++
    alone (.datanet i) 6 ++ alone .network 1 ++ alone (.datanet i) 1

/-- Their thread begins a round and is told so. -/
def toldTwo (i : Fin 4) : List (Thread × Reply) :=
  alone (.datanet i) 3 ++ [(.datanet i, { ready := twoReadable })]

/-- The thread is between two rounds, may be told so, and is then busy in all of
`twoSchedule`. -/
def BusyWithTwo (i : Fin 4) (c : Config) : Prop :=
  (c.code (.datanet i)).done = true ∧
    Reports c.shared.kernel (c.shared.pollers (.datanet i)).epfd
      (c.shared.pollers (.datanet i)).maxe twoReadable ∧
    ∀ n < 17, ((threadSystem.system.execAll c (toldTwo i ++ (twoSchedule i).take n)).any
      fun c' => !(c'.code (.datanet i)).done) = true

instance (i : Fin 4) : DecidablePred (BusyWithTwo i) :=
  fun _ => inferInstanceAs (Decidable (_ ∧ _ ∧ _))

end Batch

end GuitarTea.Threads
