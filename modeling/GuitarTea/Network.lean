import GuitarTea.Poller

/-!
# The network engine

The read handlers of `gt_network.c`.  The thread `gt_network_m` accepts a
connection in `gt_network_ops_read` and hands it to one of four datanet threads in
`gt_network_round_dispatch`, by creating an event on the poller of that thread.
The datanet thread calls `gt_datanet_ops_read` when the connection has data.

A handler takes the answers to its system calls as arguments.  For `read` this is the
bytes that the descriptor has to deliver, none of them at the end of the file, of which
the call takes what it asks for.

## Main definitions

* `readUpTo` — what a call of `read` takes.
* `gtDatanetOpsRead` — a connection has data.
* `gtNetworkRoundDispatch`, `gtNetworkOpsRead` — a new connection.
-/

namespace GuitarTea

/-- What `read` of at most `count` bytes returns, of what there is to deliver. -/
def readUpTo (count : ℕ) : Except Errno (List UInt8) → Except Errno (List UInt8)
  | .ok data => .ok (data.take count)
  | .error errnum => .error errnum

theorem length_le_of_readUpTo {count : ℕ} {read : Except Errno (List UInt8)} {data : List UInt8}
    (h : readUpTo count read = .ok data) : data.length ≤ count := by
  cases read with
  | ok all =>
      obtain rfl := Except.ok.inj h
      exact List.length_take_le count all
  | error errnum => cases h

/-- `sizeof(buf)` in `gt_datanet_ops_read`. -/
def sizeofBuf : ℕ := 128

/-- `gt_datanet_ops_read`.  `errno` is what the thread's `errno` holds before the
call: `read` changes it only when it fails, and the function looks at it in either
case. -/
def gtDatanetOpsRead (errno : Errno) (read : Except Errno (List UInt8)) (ctl ctl' : Option Errno)
    (ge : EventPtr) (w : World) : Option (ℤ × World) := do
  let gevent ← w.events ge
  let (ret, data, errno) : ℤ × List UInt8 × Errno := match readUpTo (sizeofBuf - 1) read with
    | .ok data => (data.length, data, errno)
    | .error errnum => (-1, [], errnum)
  let buf ← (ByteBuffer.zero sizeofBuf).store 0 data
  if ret ≤ 0 then
    if eagain = errno ∨ ewouldblock = errno then some (gtOk, w)
    else
      let w := w.logs (gtInfoLog "gt_datanet_ops_read" 92
        [.text "Failed to read fd:", .int gevent.efd, .text ", errno:", .int errno])
      let (_, w) ← gtPollerEventStop ctl epollin ge w
      let w ← gtPollerGeventDestroy ctl' ge w
      some (ret, w)
  else
    let text ← buf.cString
    some (ret, w.logs (gtInfoLog "gt_datanet_ops_read" 98
      [.text "CFD[", .int gevent.efd, .text "]: ", .str text]))

/-- `pthread_idx` in `gt_network_round_dispatch`: the descriptor modulo the number of
datanet threads, as a `size_t`. -/
def datanetIdx (sockfd : ℤ) : Fin 4 := ⟨toSizeT sockfd % 4, Nat.mod_lt _ (by decide)⟩

/-- `gt_network_round_dispatch`. -/
def gtNetworkRoundDispatch (malloc : Option EventPtr) (ctl : Option Errno) (sockfd : ℤ)
    (w : World) : Option (ℤ × World) := do
  let pthreadIdx := datanetIdx sockfd
  let (ge, w) ← gtPollerGeventCreate malloc sockfd (.datanet pthreadIdx) w
  match ge with
  | none => some (gtOk, w.logs (gtErrorLog "gt_network_round_dispatch" 111
      [.text "Failed to create gt_event for datanet[", .int pthreadIdx.val, .text "]."]))
  | some ge =>
      let gevent ← w.events ge
      let w := w.setEvent ge
        (some { gevent with ops := { gevent.ops with read := some .gtDatanetOpsRead } })
      let (ret, w) ← gtPollerEventStart ctl epollin ge w
      if gtOk ≠ ret then
        some (gtError, w.logs (gtErrorLog "gt_network_round_dispatch" 120
          [.text "Failed to start poller event! sockfd[", .int sockfd, .text "], pthread_idx[",
            .int pthreadIdx.val, .text "]"]))
      else some (gtOk, w)

/-- The answers to the calls of `gt_network_ops_read`: a descriptor with the peer's
address, or an error, from `accept`; the errors of `setsockopt` and of `fcntl`
with `F_SETFL`; the address from `malloc`; the error of `epoll_ctl`. -/
structure AcceptAnswers where
  accept : Except Errno ℤ
  sAddr : BitVec 32
  sinPort : BitVec 16
  setsockopt : Option Errno
  setfl : Option Errno
  malloc : Option EventPtr
  ctl : Option Errno
  deriving DecidableEq

/-- The end of `gt_network_ops_read` when an option of the new descriptor cannot be
set: the descriptor is closed. -/
def closeAccepted (line : ℕ) (msg : List LogPiece) (cfd : ℤ) (w : World) : ℤ × World :=
  let w := w.logs (gtErrorLog "gt_network_ops_read" line msg)
  (-1, { w with kernel := w.kernel.close cfd })

/-- `gt_network_ops_read`. -/
def gtNetworkOpsRead (a : AcceptAnswers) (ge : EventPtr) (w : World) : Option (ℤ × World) := do
  let gevent ← w.events ge
  match a.accept with
  | .error errnum =>
      if eagain = errnum ∨ ewouldblock = errnum then some (gtOk, w)
      else some (gtError, w.logs (gtErrorLog "gt_network_ops_read" 141
        [.text "Failed to accept new conn on lfd[", .int gevent.efd, .text "]! errno:",
          .int errnum, .text ", ", .strerror errnum]))
  | .ok cfd =>
      let w := { w with kernel := w.kernel.accept cfd }
      match a.setsockopt, a.setfl with
      | some errnum, _ => some (closeAccepted 150 [.text "Failed to set socketopt! errno:",
          .int errnum, .text ", ", .strerror errnum] cfd w)
      | none, some errnum => some (closeAccepted 161 [.text "Failed to set cfd[", .int cfd,
          .text "]! errno:", .int errnum, .text ", ", .strerror errnum] cfd w)
      | none, none =>
          let (ret, w) ← gtNetworkRoundDispatch a.malloc a.ctl cfd w
          if gtOk ≠ ret then some (gtError, w)
          else some (gtOk, w.logs (gtInfoLog "gt_network_ops_read" 172
            [.text "Connection form IP[", .hex (ntohl a.sAddr).toNat, .text "], PORT[",
              .int (ntohs a.sinPort).toNat, .text "]"]))

/-! ## What the handlers do -/

/-- The connection event that `gt_network_round_dispatch` leaves behind. -/
def connEvent (sockfd : ℤ) (ge : EventPtr) : GtEvent :=
  ⟨sockfd, ⟨some .gtDatanetOpsRead, none⟩, ⟨epollin, some ge⟩, .datanet (datanetIdx sockfd)⟩

/-- Without memory the dispatch only logs. -/
theorem exists_gtNetworkRoundDispatch_none (ctl : Option Errno) (sockfd : ℤ) (w : World) :
    ∃ c c', gtNetworkRoundDispatch none ctl sockfd w = some (gtOk, (w.logs c).logs c') :=
  ⟨_, _, rfl⟩

/-- The `epoll_ctl` call of `gt_network_round_dispatch`. -/
def dispatchCtl (sockfd : ℤ) (ge : EventPtr) (ctl : Option Errno) (w : World) :
    Option ℤ × Kernel (Option EventPtr) :=
  w.kernel.epollCtl ctl (w.pollers (.datanet (datanetIdx sockfd))).epfd .add sockfd
    ⟨epollin, some ge⟩

/-- A connection event that was created, whether `epoll_ctl` succeeded or not. -/
structure Dispatched (sockfd : ℤ) (ge : EventPtr) (ctl : Option Errno) (w w' : World) : Prop where
  pollers_eq : w'.pollers = w.pollers
  kernel_eq : w'.kernel = (dispatchCtl sockfd ge ctl w).2
  events_eq : w'.events = Function.update w.events ge (some (connEvent sockfd ge))
  nodes_eq : w'.nodes = Function.update (Function.update w.nodes (.node ge)
    (some ⟨.elist (.datanet (datanetIdx sockfd)), .elist (.datanet (datanetIdx sockfd))⟩))
    (.elist (.datanet (datanetIdx sockfd))) (some ⟨.node ge, .node ge⟩)

/-- Only the registrations of the descriptor can change. -/
theorem Dispatched.sameBut {sockfd : ℤ} {ge : EventPtr} {ctl : Option Errno} {w w' : World}
    (hd : Dispatched sockfd ge ctl w w') : Kernel.SameBut sockfd w.kernel w'.kernel := by
  rw [hd.kernel_eq]
  exact Kernel.sameBut_epollCtl _ _ _ _ _ _

/-- **What a dispatch with memory does.**  The event is created, its handler is set
and the descriptor is added to the epoll set.  The event stays when `epoll_ctl`
fails, and the return code tells. -/
theorem exists_gtNetworkRoundDispatch_some {w : World} {sockfd : ℤ} {l : Link NodeAddr}
    (h : w.nodes (.elist (.datanet (datanetIdx sockfd))) = some l) (ge : EventPtr)
    (ctl : Option Errno) :
    ∃ ret w', gtNetworkRoundDispatch (some ge) ctl sockfd w = some (ret, w') ∧
      (ret = gtOk ↔ (dispatchCtl sockfd ge ctl w).1 = none) ∧ Dispatched sockfd ge ctl w w' := by
  let p := PollerId.datanet (datanetIdx sockfd)
  let ev : GtEvent := ⟨sockfd, ⟨some .gtDatanetOpsRead, none⟩, ⟨0, none⟩, p⟩
  let w₁ := w.addEvent ge ev
  let started := pollerCtl "gt_poller_event_start" 46 ctl .add ge ev ⟨epollin, some ge⟩ w₁
  have hstart : gtPollerEventStart ctl epollin ge w₁ = some started :=
    gtPollerEventStart_addEvent w ge rfl ctl
  have hret : started.1 = gtOk ↔ (dispatchCtl sockfd ge ctl w).1 = none :=
    fst_pollerCtl_eq_gtOk_iff _ _ _ _ _ _ _ _
  have hdispatch : gtNetworkRoundDispatch (some ge) ctl sockfd w =
      if gtOk ≠ started.1 then some (gtError, started.2.logs
        (gtErrorLog "gt_network_round_dispatch" 120
          [.text "Failed to start poller event! sockfd[", .int sockfd, .text "], pthread_idx[",
            .int (datanetIdx sockfd).val, .text "]"]))
      else some (gtOk, started.2) := by
    simp only [gtNetworkRoundDispatch, gtPollerGeventCreate_some h, Option.bind_eq_bind,
      Option.bind_some, Function.update_self, World.setEvent, Function.update_idem]
    change (gtPollerEventStart ctl epollin ge w₁).bind _ = _
    rw [hstart]
    rfl
  have hdone : Dispatched sockfd ge ctl w started.2 := by
    refine ⟨pollers_pollerCtl _ _ _ _ _ _ _ _, kernel_pollerCtl _ _ _ _ _ _ _ _, ?_,
      nodes_pollerCtl _ _ _ _ _ _ _ _⟩
    simp [started, w₁, World.addEvent, ev, connEvent, p]
  rw [hdispatch]
  split
  · rename_i hne
    refine ⟨_, _, rfl, ?_, hdone.pollers_eq, hdone.kernel_eq, hdone.events_eq, hdone.nodes_eq⟩
    rw [← hret]
    exact iff_of_false (by decide) (Ne.symm hne)
  · rename_i heq
    refine ⟨_, _, rfl, ?_, hdone⟩
    rw [← hret]
    exact iff_of_true rfl (not_not.mp heq).symm

/-- The outcomes of `read` on which `gt_datanet_ops_read` gives the connection up. -/
def Drops (errno : Errno) : Except Errno (List UInt8) → Prop
  | .ok data => data = [] ∧ ¬ (eagain = errno ∨ ewouldblock = errno)
  | .error errnum => ¬ (eagain = errnum ∨ ewouldblock = errnum)

/-- An event that is gone: unlinked, its descriptor closed. -/
structure Destroyed (ge : EventPtr) (ev : GtEvent) (w w' : World) : Prop where
  pollers_eq : w'.pollers = w.pollers
  events_eq : w'.events = Function.update w.events ge none
  nodes_eq : w'.nodes = Function.update (Function.update w.nodes (.elist ev.gpoller)
    (some ⟨.elist ev.gpoller, .elist ev.gpoller⟩)) (.node ge) none
  kernel_agrees : Kernel.Agrees (w.kernel.close ev.efd) w'.kernel

section DatanetRead

variable {w : World} {ge : EventPtr} {ev : GtEvent} (h : w.events ge = some ev) {errno : Errno}
  {read : Except Errno (List UInt8)} (ctl ctl' : Option Errno)
include h

/-- Nothing is stored if nothing was read. -/
theorem gtDatanetOpsRead_nil :
    gtDatanetOpsRead errno (.ok []) ctl ctl' ge w =
      if eagain = errno ∨ ewouldblock = errno then some (gtOk, w)
      else (gtPollerEventStop ctl epollin ge (w.logs (gtInfoLog "gt_datanet_ops_read" 92
        [.text "Failed to read fd:", .int ev.efd, .text ", errno:", .int errno]))).bind fun r =>
          (gtPollerGeventDestroy ctl' ge r.2).bind fun w => some (0, w) := by
  simp only [gtDatanetOpsRead, h, readUpTo, ByteBuffer.store, Option.bind_eq_bind,
    Option.bind_some, List.take_nil, List.length_nil, if_true]
  exact if_pos (by decide)

/-- An error. -/
theorem gtDatanetOpsRead_error (errnum : Errno) :
    gtDatanetOpsRead errno (.error errnum) ctl ctl' ge w =
      if eagain = errnum ∨ ewouldblock = errnum then some (gtOk, w)
      else (gtPollerEventStop ctl epollin ge (w.logs (gtInfoLog "gt_datanet_ops_read" 92
        [.text "Failed to read fd:", .int ev.efd, .text ", errno:", .int errnum]))).bind fun r =>
          (gtPollerGeventDestroy ctl' ge r.2).bind fun w => some (-1, w) := by
  simp only [gtDatanetOpsRead, h, readUpTo, ByteBuffer.store, Option.bind_eq_bind,
    Option.bind_some, if_true]
  exact if_pos (by decide)

/-- **Data is logged**, as much of it as the buffer has room for and up to the first NUL. -/
theorem gtDatanetOpsRead_data {data : List UInt8} (hdata : data ≠ []) :
    gtDatanetOpsRead errno (.ok data) ctl ctl' ge w =
      some (((data.take (sizeofBuf - 1)).length : ℤ), w.logs (gtInfoLog "gt_datanet_ops_read" 98
        [.text "CFD[", .int ev.efd, .text "]: ",
          .str ((data.take (sizeofBuf - 1)).takeWhile (· ≠ 0))])) := by
  have hlen : ¬ ((data.take (sizeofBuf - 1)).length : ℤ) ≤ 0 := by
    have hpos := List.length_pos_of_ne_nil hdata
    rw [List.length_take, sizeofBuf]
    omega
  have hroom : (data.take (sizeofBuf - 1)).length < sizeofBuf := by
    rw [List.length_take, sizeofBuf]
    omega
  obtain ⟨buf, hstore, htext⟩ := ByteBuffer.exists_cString_store hroom
  simp only [gtDatanetOpsRead, h, readUpTo, Option.bind_eq_bind, Option.bind_some, if_neg hlen,
    hstore, htext]

/-- Data, or nothing to read yet: the event stays. -/
theorem exists_gtDatanetOpsRead_keeps (hread : ¬ Drops errno read) :
    ∃ ret w', gtDatanetOpsRead errno read ctl ctl' ge w = some (ret, w') ∧ 0 ≤ ret ∧
      (w' = w ∨ ∃ c, w' = w.logs c) := by
  cases read with
  | error errnum =>
      have hagain : eagain = errnum ∨ ewouldblock = errnum := not_not.mp hread
      exact ⟨gtOk, w, by rw [gtDatanetOpsRead_error h, if_pos hagain], by decide, .inl rfl⟩
  | ok data =>
      by_cases hdata : data = []
      · have hagain : eagain = errno ∨ ewouldblock = errno := by
          by_contra hagain
          exact hread ⟨hdata, hagain⟩
        subst hdata
        exact ⟨gtOk, w, by rw [gtDatanetOpsRead_nil h, if_pos hagain], by decide, .inl rfl⟩
      · exact ⟨_, _, gtDatanetOpsRead_data h ctl ctl' hdata, by omega, .inr ⟨_, rfl⟩⟩

/-- **End of file or an error: the event is destroyed.**  An error is returned as
`-1`, the end of the file as `0`. -/
theorem exists_gtDatanetOpsRead_drops {l : Link NodeAddr}
    (hnode : w.nodes (.node ge) = some ⟨.elist ev.gpoller, .elist ev.gpoller⟩)
    (hlist : w.nodes (.elist ev.gpoller) = some l) (hopen : w.kernel.files ev.efd ≠ none)
    (hread : Drops errno read) :
    ∃ ret w', gtDatanetOpsRead errno read ctl ctl' ge w = some (ret, w') ∧
      (ret < 0 ↔ ∃ errnum, read = .error errnum) ∧ Destroyed ge ev w w' := by
  have hgone : ∀ c, ∃ w₁ w', (∃ ret, gtPollerEventStop ctl epollin ge (w.logs c) =
      some (ret, w₁)) ∧ gtPollerGeventDestroy ctl' ge w₁ = some w' ∧ Destroyed ge ev w w' := by
    intro c
    obtain ⟨ret, w₁, hstop, hframe⟩ :=
      exists_gtPollerEventStop (w := w.logs c) h ctl epollin
    obtain ⟨e, he⟩ := hframe.events_eq
    have hev : w₁.events ge = some { ev with e := e } := by simp [he]
    have hnodes : w₁.nodes = w.nodes := hframe.nodes_eq
    obtain ⟨w', hdestroy, hpollers, hevents, hnodes', k, hsame, hkernel⟩ :=
      exists_gtPollerGeventDestroy hev (hnodes ▸ hnode) (hnodes ▸ hlist) ctl'
    refine ⟨w₁, w', ⟨ret, hstop⟩, hdestroy, hpollers.trans hframe.pollers_eq, ?_, ?_, ?_⟩
    · rw [hevents, he, Function.update_idem]
      rfl
    · rw [hnodes', hnodes]
    · rw [hkernel]
      exact (hframe.kernel_eq.trans hsame).close hopen
  cases read with
  | error errnum =>
      have hagain : ¬ (eagain = errnum ∨ ewouldblock = errnum) := hread
      obtain ⟨w₁, w', ⟨ret, hstop⟩, hdestroy, hw'⟩ := hgone (gtInfoLog "gt_datanet_ops_read" 92
        [.text "Failed to read fd:", .int ev.efd, .text ", errno:", .int errnum])
      refine ⟨-1, w', ?_, by simp, hw'⟩
      rw [gtDatanetOpsRead_error h, if_neg hagain, hstop, Option.bind_some, hdestroy,
        Option.bind_some]
  | ok data =>
      obtain ⟨rfl, hagain⟩ := hread
      obtain ⟨w₁, w', ⟨ret, hstop⟩, hdestroy, hw'⟩ := hgone (gtInfoLog "gt_datanet_ops_read" 92
        [.text "Failed to read fd:", .int ev.efd, .text ", errno:", .int errno])
      refine ⟨0, w', ?_, by simp, hw'⟩
      rw [gtDatanetOpsRead_nil h, if_neg hagain, hstop, Option.bind_some, hdestroy,
        Option.bind_some]

end DatanetRead

end GuitarTea
