import GuitarTea.Connections
import GuitarTea.Signal

/-!
# The event loop

`gt_poller_epoll_wait` walks over the events that `epoll_wait` reported and calls
the read handler of each.  When a handler returns a negative value the loop logs
the descriptor of the event, and for that it looks at the event once more.

`gt_datanet_ops_read` destroys the event of a connection whose `read` failed and
returns the `-1` of `read`, so on exactly this outcome the loop looks at an event
that is gone.

## Main definitions

* `ReadyEntry`, `Reported` — what `epoll_wait` reports.
* `gtPollerEpollWait` — the loop; an access to an event that is gone is `none`.
* `datanetSystem` — new connections and rounds of the datanet loops.
* `NoReadError` — no read of the round fails.
-/

namespace GuitarTea

/-! ## The loop -/

/-- The answers to the calls of a read handler, and what it finds in `errno` and in
uninitialised variables. -/
structure HandlerAnswers where
  errno : Errno
  read : Except Errno (List UInt8)
  sig : BitVec 32
  conn : AcceptAnswers
  ctl : Option Errno
  ctl' : Option Errno

/-- A call through `ops.read`. -/
def callReadFn (fn : GtReadFn) (a : HandlerAnswers) (ge : EventPtr) (w : World) :
    Option (ℤ × World) :=
  match fn with
  | .gtSignalOpsRead => gtSignalOpsRead a.sig a.read ge w
  | .gtNetworkOpsRead => gtNetworkOpsRead a.conn ge w
  | .gtDatanetOpsRead => gtDatanetOpsRead a.errno a.read a.ctl a.ctl' ge w

/-- An element of `ee`, with the answers its handler will get.  `fd` is the
descriptor whose registration is reported; the program does not see it. -/
structure ReadyEntry where
  fd : ℤ
  events : BitVec 32
  ptr : Option EventPtr
  answers : HandlerAnswers

/-- The body of the loop in `gt_poller_epoll_wait`. -/
def epollWaitBody (w : World) (entry : ReadyEntry) : Option World :=
  if entry.events &&& epollin ≠ 0 then do
    let ge ← entry.ptr
    let gevent ← w.events ge
    let fn ← gevent.ops.read
    let (ret, w) ← callReadFn fn entry.answers ge w
    if ret < 0 then do
      let gevent ← w.events ge
      some (w.logs (gtErrorLog "gt_poller_epoll_wait" 160
        [.text "Failed to read for efd:", .int gevent.efd]))
    else some w
  else if entry.events &&& epollout ≠ 0 then do
    let ge ← entry.ptr
    let gevent ← w.events ge
    let fn ← gevent.ops.write
    nomatch fn
  else some w

/-- `gt_poller_epoll_wait`, for the entries `epoll_wait` reported; there are none after
a timeout or an error. -/
def gtPollerEpollWait (ee : List ReadyEntry) (w : World) : Option World :=
  ee.foldlM epollWaitBody w

/-- What `epoll_wait` can report: registrations of the epoll set, each once, with
requested bits or `EPOLLERR` or `EPOLLHUP`. -/
structure Reported (k : Kernel (Option EventPtr)) (epfd : ℤ) (ee : List ReadyEntry) : Prop where
  nodup : (ee.map ReadyEntry.fd).Nodup
  entries : ∀ entry ∈ ee, ∃ e, k.sets epfd entry.fd = some e ∧ entry.ptr = e.data ∧
    entry.events ≠ 0 ∧ entry.events &&& ~~~(e.events ||| epollerr ||| epollhup) = 0

/-! ## Datanet pollers -/

/-- A call of `gt_network_ops_read` on the listening socket, or a round of the loop of
a datanet thread. -/
inductive DatanetOp
  | accept (a : AcceptAnswers)
  | wait (i : Fin 4) (ee : List ReadyEntry)

/-- New connections and rounds of the datanet loops, in any order. -/
def datanetSystem (lge : EventPtr) : GuardedSystem World DatanetOp where
  legal w
    | .accept a => LegalAnswers a w
    | .wait i ee => Reported w.kernel (w.datanetEpfd i) ee
  exec w
    | .accept a => (gtNetworkOpsRead a lge w).map Prod.snd
    | .wait _ ee => gtPollerEpollWait ee w

/-- The read of the entry, if there is one, does not fail, or fails because there is
nothing to read. -/
def ReadyEntry.NoReadError (entry : ReadyEntry) : Prop :=
  entry.events &&& epollin ≠ 0 → ∀ errnum, entry.answers.read = .error errnum →
    eagain = errnum ∨ ewouldblock = errnum

/-- The condition on a step: no read of a round fails with an error of its own. -/
def NoReadError (_ : World) : DatanetOp → Prop
  | .accept _ => True
  | .wait _ ee => ∀ entry ∈ ee, entry.NoReadError

/-- Bits that are neither requested nor reported unasked are not there. -/
theorem and_epollout_eq_zero {x : BitVec 32}
    (h : x &&& ~~~(epollin ||| epollerr ||| epollhup) = 0) : x &&& epollout = 0 := by
  have hout : epollout = ~~~(epollin ||| epollerr ||| epollhup) &&& epollout := by decide
  rw [hout, ← BitVec.and_assoc, h]
  exact BitVec.zero_and

section Round

variable {lge : EventPtr} {w : World} {i : Fin 4}

/-- What a reported entry is about. -/
theorem ConnInv.exists_conn (h : ConnInv lge w) {entry : ReadyEntry} {ee : List ReadyEntry}
    (hr : Reported w.kernel (w.datanetEpfd i) ee) (hmem : entry ∈ ee) :
    ∃ ge ev, entry.ptr = some ge ∧ w.IsConn ge ev ∧ ev.efd = entry.fd ∧
      entry.events &&& epollout = 0 := by
  obtain ⟨e, hset, hptr, -, hbits⟩ := hr.entries entry hmem
  obtain ⟨ge, ev, rfl, hev, hefd, hp⟩ := h.registered i entry.fd e hset
  exact ⟨ge, ev, hptr, ⟨hev, i, hp⟩, hefd, and_epollout_eq_zero hbits⟩

/-- The later entries are still reported after the connection of an earlier one is
gone. -/
theorem Reported.destroyed {w' : World} (h : ConnInv lge w) {ge : EventPtr} {ev : GtEvent}
    {ee : List ReadyEntry} (hr : Reported w.kernel (w.datanetEpfd i) ee) (hc : w.IsConn ge ev)
    (hne : ∀ entry ∈ ee, entry.fd ≠ ev.efd) (hd : Destroyed ge ev w w') :
    Reported w'.kernel (w'.datanetEpfd i) ee := by
  refine ⟨hr.nodup, ?_⟩
  intro entry hmem
  obtain ⟨e, hset, hrest⟩ := hr.entries entry hmem
  refine ⟨e, ?_, hrest⟩
  rwa [hd.kernel_agrees.sets_eq, World.datanetEpfd_congr hd.pollers_eq,
    Kernel.sets_close_of_ne (h.efd_ne_epfd ge ev i hc.1).symm (hne entry hmem)]

/-- **One entry.**  The body of the loop faults exactly when the read fails with an
error of its own; otherwise the invariant is kept and the other entries stay
reported. -/
theorem ConnInv.loopBody (h : ConnInv lge w) {entry : ReadyEntry} {ee : List ReadyEntry}
    (hr : Reported w.kernel (w.datanetEpfd i) (entry :: ee)) :
    (entry.NoReadError → ∃ w', epollWaitBody w entry = some w' ∧ ConnInv lge w' ∧
      Reported w'.kernel (w'.datanetEpfd i) ee) ∧
    (¬ entry.NoReadError → epollWaitBody w entry = none) := by
  obtain ⟨ge, ev, hptr, hc, hefd, hout⟩ := h.exists_conn hr List.mem_cons_self
  have htail : Reported w.kernel (w.datanetEpfd i) ee :=
    ⟨(List.nodup_cons.mp hr.nodup).2, fun e he => hr.entries e (List.mem_cons_of_mem _ he)⟩
  by_cases hin : entry.events &&& epollin = 0
  · refine ⟨fun _ => ⟨w, by simp [epollWaitBody, hin, hout], h, htail⟩, ?_⟩
    intro hbad
    exact absurd (fun hne => absurd hin hne) hbad
  have hbody : epollWaitBody w entry =
      (gtDatanetOpsRead entry.answers.errno entry.answers.read entry.answers.ctl
        entry.answers.ctl' ge w).bind fun x =>
          if x.1 < 0 then (x.2.events ge).bind fun gevent =>
            some (x.2.logs (gtErrorLog "gt_poller_epoll_wait" 160
              [.text "Failed to read for efd:", .int gevent.efd]))
          else some x.2 := by
    simp only [epollWaitBody, ne_eq, hin, not_false_eq_true, if_true, hptr, hc.1,
      h.handler ge ev hc, callReadFn, Option.bind_eq_bind, Option.bind_some]
  obtain ⟨ret, w', hrun, hcases⟩ := h.exists_gtDatanetOpsRead hc entry.answers.errno
    entry.answers.read entry.answers.ctl entry.answers.ctl'
  rw [hbody, hrun, Option.bind_some]
  rcases hcases with ⟨hkeep, hret, hw'⟩ | ⟨hdrop, hret, hd⟩
  · have hgood : entry.NoReadError := by
      intro _ errnum hread
      rw [hread] at hkeep
      exact not_not.mp hkeep
    refine ⟨fun _ => ⟨w', by rw [if_neg (by omega)], ?_⟩, fun hbad => absurd hgood hbad⟩
    rcases hw' with rfl | ⟨c, rfl⟩
    · exact ⟨h, htail⟩
    · exact ⟨h.congr rfl rfl rfl rfl, htail⟩
  · have hne : ∀ e ∈ ee, e.fd ≠ ev.efd := by
      intro e he heq
      refine (List.nodup_cons.mp hr.nodup).1 (List.mem_map.mpr ⟨e, he, ?_⟩)
      rw [heq, hefd]
    cases hread : entry.answers.read with
    | error errnum =>
        have hbad : ¬ entry.NoReadError := by
          intro hgood
          rw [hread] at hdrop
          exact hdrop (hgood hin errnum hread)
        refine ⟨fun hgood => absurd hgood hbad, fun _ => ?_⟩
        rw [if_pos (hret.mpr ⟨errnum, hread⟩), hd.events_eq, Function.update_self]
        rfl
    | ok buf =>
        have hpos : ¬ ret < 0 := by
          rw [hret, hread]
          simp
        refine ⟨fun _ => ⟨w', by rw [if_neg hpos], h.destroyed hc hd, ?_⟩, fun hbad => ?_⟩
        · exact htail.destroyed h hc hne hd
        · exact absurd (fun _ errnum herr => by rw [hread] at herr; cases herr) hbad

/-- **One round.**  The loop ends without a fault exactly when no read fails with an
error of its own, and the invariant is kept. -/
theorem ConnInv.round {ee : List ReadyEntry} :
    ∀ {w : World}, ConnInv lge w → Reported w.kernel (w.datanetEpfd i) ee →
      ((∀ entry ∈ ee, entry.NoReadError) → ∃ w', gtPollerEpollWait ee w = some w' ∧
        ConnInv lge w') ∧
      ((¬ ∀ entry ∈ ee, entry.NoReadError) → gtPollerEpollWait ee w = none) := by
  induction ee with
  | nil => exact fun h _ => ⟨fun _ => ⟨_, rfl, h⟩, fun hbad => absurd (by simp) hbad⟩
  | cons entry ee ih =>
      intro w h hr
      obtain ⟨hgood, hbad⟩ := h.loopBody hr
      simp only [gtPollerEpollWait, List.foldlM_cons, Option.bind_eq_bind,
        List.forall_mem_cons]
      by_cases hentry : entry.NoReadError
      · obtain ⟨w₁, hbody, h₁, hr₁⟩ := hgood hentry
        rw [hbody, Option.bind_some]
        simp only [hentry, true_and]
        exact ih h₁ hr₁
      · refine ⟨fun hall => absurd hall.1 hentry, fun _ => ?_⟩
        rw [hbad hentry, Option.bind_none]

end Round

/-- **When the datanet loops never look at an event that is gone.**  From a server
that has accepted nothing yet, along every run of accepts and rounds, whatever the
system calls answer: no access faults, exactly when no read of a round fails with
an error other than `EAGAIN`. -/
theorem datanet_loop_safe_iff {lge : EventPtr} {w : World} (h : ServerReady lge w)
    (ops : List DatanetOp) :
    (datanetSystem lge).Always (fun _ _ _ => True) w ops ↔
      (datanetSystem lge).Meets NoReadError w ops := by
  refine GuardedSystem.always_iff_meets (I := ConnInv lge) ?_ ?_ ops w h.connInv
  · intro w op h hl hc
    cases op with
    | accept a =>
        obtain ⟨ret, w', hrun, ho⟩ := h.exists_gtNetworkOpsRead a
        exact ⟨w', by simp only [datanetSystem, hrun, Option.map_some], trivial, h.outcome hl ho⟩
    | wait i ee =>
        obtain ⟨w', hrun, h'⟩ := (h.round hl).1 hc
        exact ⟨w', hrun, trivial, h'⟩
  · intro w op w' h hl hc hrun _
    cases op with
    | accept a => exact hc trivial
    | wait i ee =>
        have hnone : (datanetSystem lge).exec w (.wait i ee) = none := (h.round hl).2 hc
        rw [hnone] at hrun
        cases hrun

/-- The connection on descriptor 12 is ready, with what its `read` returns. -/
def ready12 (read : Except Errno (List UInt8)) : ReadyEntry :=
  ⟨12, epollin, some 2, ⟨0, read, 0, connect12, none, none⟩⟩

/-- A connection that sends five bytes and is closed by the peer. -/
theorem datanet_loop_safe_hello :
    (datanetSystem 1).Always (fun _ _ _ => True) serverReady
      [.accept connect12, .wait 0 [ready12 (.ok (cstr "hello"))], .wait 0 [ready12 (.ok [])]] := by
  refine (datanet_loop_safe_iff serverReady_ready _).mpr ?_
  have hgood : ∀ buf, (ready12 (.ok buf)).NoReadError := by
    intro buf _ errnum hread
    cases hread
  intro _
  refine ⟨trivial, fun _ _ _ => ⟨?_, fun _ _ _ => ⟨?_, fun _ _ => trivial⟩⟩⟩
  · simp [NoReadError, hgood]
  · simp [NoReadError, hgood]

/-- A connection whose `read` fails with `ECONNRESET`: the handler destroys the event
and the loop looks at its descriptor. -/
theorem reset_connection_faults :
    ∃ w ev, (datanetSystem 1).Run serverReady [.accept connect12] w ∧
      w.events 2 = some ev ∧ ev.gpoller = .datanet 0 ∧
      Reported w.kernel (w.datanetEpfd 0) [ready12 (.error econnreset)] ∧
      gtPollerEpollWait [ready12 (.error econnreset)] w = none := by
  have hlegal : LegalAnswers connect12 serverReady :=
    ⟨by intro cfd h; cases h; rfl, by intro ge h; cases h; rfl⟩
  refine ⟨_, _, .cons hlegal rfl (.nil _), rfl, rfl, ⟨by decide, ?_⟩, rfl⟩
  intro entry hentry
  obtain rfl := List.mem_singleton.mp hentry
  exact ⟨⟨epollin, some 2⟩, rfl, rfl, by decide, by decide⟩

end GuitarTea
