import GuitarTea.Network
import GuitarTea.PollerList

/-!
# The events of connections

What holds between calls of the read handlers on the listening socket and on the
connections, whatever the system calls answer: the events of connections have
their own open descriptors and `gt_datanet_ops_read` as handler, and whatever a
datanet epoll set holds leads to a live event of that poller.

## Main definitions

* `World.IsConn` — an event on a datanet poller.
* `ConnInv` — the invariant.
* `Unclaimed` — a descriptor that was just accepted.
-/

namespace GuitarTea

namespace World

/-- The epoll descriptor of a datanet poller. -/
def datanetEpfd (w : World) (i : Fin 4) : ℤ := (w.pollers (.datanet i)).epfd

theorem datanetEpfd_congr {w w' : World} (h : w'.pollers = w.pollers) (i : Fin 4) :
    w'.datanetEpfd i = w.datanetEpfd i := by
  rw [datanetEpfd, h, datanetEpfd]

/-- An event of a connection. -/
def IsConn (w : World) (ge : EventPtr) (ev : GtEvent) : Prop :=
  w.events ge = some ev ∧ ∃ i, ev.gpoller = .datanet i

end World

/-- What holds of the connections between calls of the handlers. -/
structure ConnInv (lge : EventPtr) (w : World) : Prop where
  kernel : w.kernel.WF
  star : ∀ i, Star (.datanet i) w
  /-- The event of the listening socket is there. -/
  listening : ∃ ev, w.events lge = some ev ∧ ev.gpoller = .network
  handler : ∀ ge ev, w.IsConn ge ev → ev.ops.read = some .gtDatanetOpsRead
  efd_open : ∀ ge ev, w.events ge = some ev → w.kernel.files ev.efd ≠ none
  efd_inj : ∀ ge ge' ev ev', w.events ge = some ev → w.events ge' = some ev' →
    ev.efd = ev'.efd → ge = ge'
  epfd_open : ∀ i, w.kernel.files (w.datanetEpfd i) ≠ none
  epfd_inj : ∀ i j, w.datanetEpfd i = w.datanetEpfd j → i = j
  efd_ne_epfd : ∀ ge ev i, w.events ge = some ev → ev.efd ≠ w.datanetEpfd i
  registered : ∀ i fd e, w.kernel.sets (w.datanetEpfd i) fd = some e →
    ∃ ge ev, e = ⟨epollin, some ge⟩ ∧ w.events ge = some ev ∧ ev.efd = fd ∧
      ev.gpoller = .datanet i

/-- An open descriptor that no event and no poller has. -/
structure Unclaimed (fd : ℤ) (w : World) : Prop where
  isOpen : w.kernel.files fd ≠ none
  not_efd : ∀ ge ev, w.events ge = some ev → ev.efd ≠ fd
  not_epfd : ∀ i, w.datanetEpfd i ≠ fd
  not_registered : ∀ i, w.kernel.sets (w.datanetEpfd i) fd = none

/-- The shape of a list depends on the events and the cells. -/
theorem Star.congr {p : PollerId} {w w' : World} (h : Star p w) (hevents : w'.events = w.events)
    (hnodes : w'.nodes = w.nodes) : Star p w' := by
  have hlive : ∀ g, w'.LiveOn p g ↔ w.LiveOn p g := by
    intro g
    simp only [World.LiveOn, hevents]
  constructor
  · intro g hg
    rw [hnodes]
    exact h.links g ((hlive g).mp hg)
  · simpa only [hnodes, hlive] using h.head

section Steps

variable {lge : EventPtr} {w w' : World} (h : ConnInv lge w)
include h

/-- A change of the kernel alone. -/
theorem ConnInv.setKernel {k : Kernel (Option EventPtr)} (hk : k.WF)
    (hopen : ∀ ge ev, w.events ge = some ev → k.files ev.efd ≠ none)
    (hepfd : ∀ i, k.files (w.datanetEpfd i) ≠ none)
    (hsets : ∀ i fd e, k.sets (w.datanetEpfd i) fd = some e →
      w.kernel.sets (w.datanetEpfd i) fd = some e) :
    ConnInv lge { w with kernel := k } where
  kernel := hk
  star i := (h.star i).congr rfl rfl
  listening := h.listening
  handler := h.handler
  efd_open := hopen
  efd_inj := h.efd_inj
  epfd_open := hepfd
  epfd_inj := h.epfd_inj
  efd_ne_epfd := h.efd_ne_epfd
  registered i fd e he := h.registered i fd e (hsets i fd e he)

/-- Only the pollers, the events, their cells and the kernel matter. -/
theorem ConnInv.congr (hpollers : w'.pollers = w.pollers) (hevents : w'.events = w.events)
    (hnodes : w'.nodes = w.nodes) (hkernel : w'.kernel = w.kernel) : ConnInv lge w' := by
  have hstar : ∀ i, Star (.datanet i) w' := fun i => (h.star i).congr hevents hnodes
  obtain ⟨pollers, events, nodes, kernel, log, processed⟩ := w'
  subst hpollers hevents hnodes hkernel
  exact ⟨h.kernel, hstar, h.listening, h.handler, h.efd_open, h.efd_inj, h.epfd_open, h.epfd_inj,
    h.efd_ne_epfd, h.registered⟩

/-- `accept` returns a descriptor that nothing has. -/
theorem ConnInv.accept {cfd : ℤ} (hfree : w.kernel.files cfd = none) :
    ConnInv lge { w with kernel := w.kernel.accept cfd } ∧
      Unclaimed cfd { w with kernel := w.kernel.accept cfd } := by
  have hother : ∀ fd, w.kernel.files fd ≠ none → (w.kernel.accept cfd).files fd ≠ none := by
    intro fd hfd
    by_cases heq : fd = cfd
    · simp [heq]
    · simpa [heq] using hfd
  refine ⟨?_, ?_, ?_, ?_, ?_⟩
  · exact h.setKernel (h.kernel.accept hfree) (fun ge ev hc => hother _ (h.efd_open ge ev hc))
      (fun i => hother _ (h.epfd_open i)) (fun _ _ _ he => he)
  · simp
  · rintro ge ev hc rfl
    exact h.efd_open ge ev hc hfree
  · intro i heq
    have heq' : w.datanetEpfd i = cfd := heq
    exact h.epfd_open i (heq' ▸ hfree)
  · intro i
    by_contra hne
    exact h.kernel.sets_open _ cfd hne hfree

/-- Closing a descriptor that nothing has. -/
theorem ConnInv.close {cfd : ℤ} (hu : Unclaimed cfd w) :
    ConnInv lge { w with kernel := w.kernel.close cfd } := by
  have hother : ∀ fd, fd ≠ cfd → w.kernel.files fd ≠ none →
      (w.kernel.close cfd).files fd ≠ none := by
    intro fd hne hfd
    simpa [hne] using hfd
  refine h.setKernel (h.kernel.close cfd) ?_ ?_ ?_
  · intro ge ev hc
    exact hother _ (hu.not_efd ge ev hc) (h.efd_open ge ev hc)
  · intro i
    exact hother _ (hu.not_epfd i) (h.epfd_open i)
  · intro i fd e he
    exact (Kernel.sets_close_eq_some hu.isOpen he).2

/-- A connection event is destroyed. -/
theorem ConnInv.destroyed {ge : EventPtr} {ev : GtEvent} (hc : w.IsConn ge ev)
    (hd : Destroyed ge ev w w') : ConnInv lge w' := by
  obtain ⟨hev, i, hi⟩ := hc
  have hepfd := World.datanetEpfd_congr hd.pollers_eq
  have hold : ∀ g e, w'.events g = some e → g ≠ ge ∧ w.events g = some e := by
    intro g e hg
    rw [hd.events_eq] at hg
    by_cases heq : g = ge
    · simp [heq] at hg
    · exact ⟨heq, by simpa [heq] using hg⟩
  have hne : ∀ g e, w'.events g = some e → e.efd ≠ ev.efd := by
    intro g e hg heq
    exact (hold g e hg).1 (h.efd_inj g ge e ev (hold g e hg).2 hev heq)
  have hfiles : ∀ fd, fd ≠ ev.efd → w'.kernel.files fd = w.kernel.files fd := by
    intro fd hfd
    rw [hd.kernel_agrees.files_eq, Kernel.files_close, Function.update_of_ne hfd]
  have hother : ∀ g e, w.events g = some e → e.efd ≠ ev.efd → w'.events g = some e := by
    intro g e hg hefd
    have hgne : g ≠ ge := by
      rintro rfl
      exact hefd (congrArg GtEvent.efd (Option.some.inj (hg.symm.trans hev)))
    rw [hd.events_eq, Function.update_of_ne hgne, hg]
  refine ⟨(h.kernel.close ev.efd).agrees hd.kernel_agrees, ?_, ?_, ?_, ?_, ?_, ?_, ?_, ?_, ?_⟩
  · intro j
    exact (h.star j).destroy ⟨ev, hev, hi⟩ hd.events_eq (hi ▸ hd.nodes_eq)
  · obtain ⟨lev, hlev, hnet⟩ := h.listening
    refine ⟨lev, hother lge lev hlev ?_, hnet⟩
    intro heq
    obtain rfl : lge = ge := h.efd_inj lge ge lev ev hlev hev heq
    obtain rfl : lev = ev := Option.some.inj (hlev.symm.trans hev)
    rw [hnet] at hi
    cases hi
  · rintro g e ⟨hg, hp⟩
    exact h.handler g e ⟨(hold g e hg).2, hp⟩
  · intro g e hg
    rw [hfiles _ (hne g e hg)]
    exact h.efd_open g e (hold g e hg).2
  · intro g g' e e' hg hg'
    exact h.efd_inj g g' e e' (hold g e hg).2 (hold g' e' hg').2
  · intro j
    rw [hepfd, hfiles _ (h.efd_ne_epfd ge ev j hev).symm]
    exact h.epfd_open j
  · intro j k
    rw [hepfd, hepfd]
    exact h.epfd_inj j k
  · intro g e j hg
    rw [hepfd]
    exact h.efd_ne_epfd g e j (hold g e hg).2
  · intro j fd e he
    rw [hepfd, hd.kernel_agrees.sets_eq] at he
    obtain ⟨hfd, hset⟩ := Kernel.sets_close_eq_some (h.efd_open ge ev hev) he
    obtain ⟨g, gev, rfl, hgev, hefd, hp⟩ := h.registered j fd e hset
    exact ⟨g, gev, rfl, hother g gev hgev (hefd ▸ hfd), hefd, hp⟩

/-- A dispatch with memory, whether `epoll_ctl` succeeds or not. -/
theorem ConnInv.dispatched {cfd : ℤ} {ge : EventPtr} {ctl : Option Errno} (hu : Unclaimed cfd w)
    (hfresh : w.events ge = none) (hd : Dispatched cfd ge ctl w w') : ConnInv lge w' := by
  have hsame := hd.sameBut
  have hepfd := World.datanetEpfd_congr hd.pollers_eq
  have hold : ∀ g e, w'.events g = some e →
      (g = ge ∧ e = connEvent cfd ge) ∨ w.events g = some e := by
    intro g e hg
    rw [hd.events_eq] at hg
    by_cases heq : g = ge
    · left
      exact ⟨heq, by simpa [heq, eq_comm] using hg⟩
    · right
      simpa [heq] using hg
  have hother : ∀ g e, w.events g = some e → w'.events g = some e := by
    intro g e hg
    have hne : g ≠ ge := by
      rintro rfl
      rw [hfresh] at hg
      cases hg
    rw [hd.events_eq, Function.update_of_ne hne, hg]
  refine ⟨h.kernel.sameBut hsame hu.isOpen, ?_, ?_, ?_, ?_, ?_, ?_, ?_, ?_, ?_⟩
  · intro j
    exact (h.star j).create hfresh hd.events_eq hd.nodes_eq
  · obtain ⟨lev, hlev, hnet⟩ := h.listening
    exact ⟨lev, hother lge lev hlev, hnet⟩
  · rintro g e ⟨hg, hp⟩
    rcases hold g e hg with ⟨-, rfl⟩ | hg
    · rfl
    · exact h.handler g e ⟨hg, hp⟩
  · intro g e hg
    rw [hsame.files_eq]
    rcases hold g e hg with ⟨-, rfl⟩ | hg
    · exact hu.isOpen
    · exact h.efd_open g e hg
  · intro g g' e e' hg hg' heq
    rcases hold g e hg with ⟨rfl, rfl⟩ | hg <;> rcases hold g' e' hg' with ⟨rfl, rfl⟩ | hg'
    · rfl
    · exact absurd heq.symm (hu.not_efd g' e' hg')
    · exact absurd heq (hu.not_efd g e hg)
    · exact h.efd_inj g g' e e' hg hg' heq
  · intro j
    rw [hepfd, hsame.files_eq]
    exact h.epfd_open j
  · intro j k
    rw [hepfd, hepfd]
    exact h.epfd_inj j k
  · intro g e j hg
    rw [hepfd]
    rcases hold g e hg with ⟨-, rfl⟩ | hg
    · exact (hu.not_epfd j).symm
    · exact h.efd_ne_epfd g e j hg
  · intro j fd e he
    rw [hepfd] at he
    by_cases hfd : fd = cfd
    · subst hfd
      rw [hd.kernel_eq] at he
      rcases Kernel.sets_epollCtl_eq_some he with hset | ⟨hj, rfl⟩
      · rw [hu.not_registered j] at hset
        cases hset
      · obtain rfl := h.epfd_inj _ _ hj
        exact ⟨ge, connEvent fd ge, rfl, by simp [hd.events_eq], rfl, rfl⟩
    · rw [hsame.sets_eq _ fd hfd] at he
      obtain ⟨g, gev, rfl, hgev, hrest⟩ := h.registered j fd e he
      exact ⟨g, gev, rfl, hother g gev hgev, hrest⟩

end Steps

/-! ## The handlers -/

/-- The answers that can be given: `accept` returns a descriptor that is not in use
and `malloc` an address that is not in use. -/
structure LegalAnswers (a : AcceptAnswers) (w : World) : Prop where
  accept_free : ∀ cfd, a.accept = .ok cfd → w.kernel.files cfd = none
  malloc_free : ∀ ge, a.malloc = some ge → w.events ge = none

/-- The ways `gt_network_ops_read` can go. -/
inductive AcceptOutcome (a : AcceptAnswers) (w : World) (ret : ℤ) (w' : World) : Prop
  /-- There is no connection. -/
  | none (errnum : Errno) (haccept : a.accept = .error errnum)
      (hret : ret = gtOk → eagain = errnum ∨ ewouldblock = errnum)
      (hw' : w' = w ∨ ∃ c, w' = w.logs c)
  /-- An option could not be set and the descriptor was closed. -/
  | closed (cfd : ℤ) (c : LogCall) (haccept : a.accept = .ok cfd)
      (hopts : a.setsockopt ≠ Option.none ∨ a.setfl ≠ Option.none) (hret : ret ≠ gtOk)
      (hw' : w' = { w.logs c with kernel := (w.kernel.accept cfd).close cfd })
  /-- There was no memory for the event, and the descriptor is left open. -/
  | noMemory (cfd : ℤ) (log : List LogCall) (haccept : a.accept = .ok cfd)
      (hopts : a.setsockopt = Option.none ∧ a.setfl = Option.none)
      (hmalloc : a.malloc = Option.none) (hret : ret = gtOk)
      (hw' : w' = { w with kernel := w.kernel.accept cfd, log := log })
  /-- The event was created, and `epoll_ctl` may have failed. -/
  | dispatched (cfd : ℤ) (ge : EventPtr) (haccept : a.accept = .ok cfd)
      (hopts : a.setsockopt = Option.none ∧ a.setfl = Option.none) (hmalloc : a.malloc = some ge)
      (hret : ret = gtOk ↔
        (dispatchCtl cfd ge a.ctl { w with kernel := w.kernel.accept cfd }).1 = Option.none)
      (hd : Dispatched cfd ge a.ctl { w with kernel := w.kernel.accept cfd } w')

/-- `gt_network_ops_read` returns, in one of these ways. -/
theorem ConnInv.exists_gtNetworkOpsRead {lge : EventPtr} {w : World} (h : ConnInv lge w)
    (a : AcceptAnswers) :
    ∃ ret w', gtNetworkOpsRead a lge w = some (ret, w') ∧ AcceptOutcome a w ret w' := by
  obtain ⟨lev, hlev, -⟩ := h.listening
  cases haccept : a.accept with
  | error errnum =>
      by_cases hagain : eagain = errnum ∨ ewouldblock = errnum
      · refine ⟨gtOk, w, ?_, .none errnum haccept (fun _ => hagain) (.inl rfl)⟩
        simp [gtNetworkOpsRead, hlev, haccept, hagain]
      · let c := gtErrorLog "gt_network_ops_read" 141
          [.text "Failed to accept new conn on lfd[", .int lev.efd, .text "]! errno:",
            .int errnum, .text ", ", .strerror errnum]
        refine ⟨gtError, w.logs c, ?_, .none errnum haccept (by simp) (.inr ⟨c, rfl⟩)⟩
        simp [gtNetworkOpsRead, hlev, haccept, hagain, c]
  | ok cfd =>
      cases hsetsockopt : a.setsockopt with
      | some errnum =>
          let c := gtErrorLog "gt_network_ops_read" 150 [.text "Failed to set socketopt! errno:",
            .int errnum, .text ", ", .strerror errnum]
          refine ⟨-1, { w.logs c with kernel := (w.kernel.accept cfd).close cfd }, ?_,
            .closed cfd c haccept (by simp [hsetsockopt]) (by decide) rfl⟩
          simp [gtNetworkOpsRead, hlev, haccept, hsetsockopt, closeAccepted, World.logs, c]
      | none =>
          cases hsetfl : a.setfl with
          | some errnum =>
              let c := gtErrorLog "gt_network_ops_read" 161 [.text "Failed to set cfd[", .int cfd,
                .text "]! errno:", .int errnum, .text ", ", .strerror errnum]
              refine ⟨-1, { w.logs c with kernel := (w.kernel.accept cfd).close cfd }, ?_,
                .closed cfd c haccept (by simp [hsetfl]) (by decide) rfl⟩
              simp [gtNetworkOpsRead, hlev, haccept, hsetsockopt, hsetfl, closeAccepted,
                World.logs, c]
          | none =>
              let w₁ : World := { w with kernel := w.kernel.accept cfd }
              have hopts : a.setsockopt = none ∧ a.setfl = none := ⟨hsetsockopt, hsetfl⟩
              have hrun : gtNetworkOpsRead a lge w =
                  (gtNetworkRoundDispatch a.malloc a.ctl cfd w₁).bind fun x =>
                    if gtOk ≠ x.1 then some (gtError, x.2)
                    else some (gtOk, x.2.logs (gtInfoLog "gt_network_ops_read" 172
                      [.text "Connection form IP[", .hex (ntohl a.sAddr).toNat, .text "], PORT[",
                        .int (ntohs a.sinPort).toNat, .text "]"])) := by
                simp only [gtNetworkOpsRead, hlev, haccept, hsetsockopt, hsetfl,
                  Option.bind_eq_bind, Option.bind_some, w₁]
              rw [hrun]
              cases hmalloc : a.malloc with
              | none =>
                  obtain ⟨c, c', hdispatch⟩ := exists_gtNetworkRoundDispatch_none a.ctl cfd w₁
                  refine ⟨gtOk, _, by rw [hdispatch]; rfl, ?_⟩
                  exact .noMemory cfd _ haccept hopts hmalloc rfl rfl
              | some ge =>
                  obtain ⟨l, hl⟩ := (h.star (datanetIdx cfd)).exists_head
                  obtain ⟨ret, w₂, hdispatch, hret, hd⟩ :=
                    exists_gtNetworkRoundDispatch_some (w := w₁) hl ge a.ctl
                  rw [hdispatch, Option.bind_some]
                  by_cases hok : ret = gtOk
                  · refine ⟨gtOk, _, by rw [if_neg (not_not.mpr hok.symm)], ?_⟩
                    exact .dispatched cfd ge haccept hopts hmalloc
                      (iff_of_true rfl (hret.mp hok))
                      ⟨hd.pollers_eq, hd.kernel_eq, hd.events_eq, hd.nodes_eq⟩
                  · refine ⟨gtError, _, by rw [if_pos (Ne.symm hok)], ?_⟩
                    exact .dispatched cfd ge haccept hopts hmalloc
                      (iff_of_false (by decide) (fun hr => hok (hret.mpr hr))) hd

/-- Whatever the answers, the invariant survives `gt_network_ops_read`. -/
theorem ConnInv.outcome {lge : EventPtr} {w w' : World} {a : AcceptAnswers} {ret : ℤ}
    (h : ConnInv lge w) (hl : LegalAnswers a w) (ho : AcceptOutcome a w ret w') :
    ConnInv lge w' := by
  cases ho with
  | none errnum _ _ hw' =>
      rcases hw' with rfl | ⟨c, rfl⟩
      · exact h
      · exact h.congr rfl rfl rfl rfl
  | closed cfd c haccept _ _ hw' =>
      obtain ⟨hacc, hu⟩ := h.accept (hl.accept_free cfd haccept)
      subst hw'
      exact (hacc.close hu).congr rfl rfl rfl rfl
  | noMemory cfd log haccept _ _ _ hw' =>
      subst hw'
      exact (h.accept (hl.accept_free cfd haccept)).1.congr rfl rfl rfl rfl
  | dispatched cfd ge haccept _ hmalloc _ hd =>
      obtain ⟨hacc, hu⟩ := h.accept (hl.accept_free cfd haccept)
      exact hacc.dispatched hu (hl.malloc_free ge hmalloc) hd

/-- A connection event that is read: either it stays and the result is not
negative, or it is destroyed. -/
theorem ConnInv.exists_gtDatanetOpsRead {lge : EventPtr} {w : World} {ge : EventPtr}
    {ev : GtEvent} (h : ConnInv lge w) (hc : w.IsConn ge ev) (errno : Errno)
    (read : Except Errno (List UInt8)) (ctl ctl' : Option Errno) :
    ∃ ret w', gtDatanetOpsRead errno read ctl ctl' ge w = some (ret, w') ∧
      ((¬ Drops errno read ∧ 0 ≤ ret ∧ (w' = w ∨ ∃ c, w' = w.logs c)) ∨
        (Drops errno read ∧ (ret < 0 ↔ ∃ errnum, read = .error errnum) ∧
          Destroyed ge ev w w')) := by
  by_cases hread : Drops errno read
  · obtain ⟨i, hi⟩ := hc.2
    obtain ⟨l, hlist⟩ := (h.star i).exists_head
    have hnode := (h.star i).links ge ⟨ev, hc.1, hi⟩
    rw [← hi] at hlist hnode
    obtain ⟨ret, w', hrun, hret, hd⟩ := exists_gtDatanetOpsRead_drops hc.1 ctl ctl' hnode hlist
      (h.efd_open ge ev hc.1) hread
    exact ⟨ret, w', hrun, .inr ⟨hread, hret, hd⟩⟩
  · obtain ⟨ret, w', hrun, hret, hw'⟩ := exists_gtDatanetOpsRead_keeps hc.1 ctl ctl' hread
    exact ⟨ret, w', hrun, .inl ⟨hread, hret, hw'⟩⟩

/-! ## Before the first connection -/

/-- The pollers are initialised and the socket listens; no connection was accepted. -/
structure ServerReady (lge : EventPtr) (w : World) : Prop where
  kernel : w.kernel.WF
  listening : ∃ ev, w.events lge = some ev ∧ ev.gpoller = .network
  no_conn : ∀ ge ev, ¬ w.IsConn ge ev
  efd_open : ∀ ge ev, w.events ge = some ev → w.kernel.files ev.efd ≠ none
  efd_inj : ∀ ge ge' ev ev', w.events ge = some ev → w.events ge' = some ev' →
    ev.efd = ev'.efd → ge = ge'
  efd_ne_epfd : ∀ ge ev i, w.events ge = some ev → ev.efd ≠ w.datanetEpfd i
  lists : ∀ i, w.nodes (.elist (.datanet i)) = some ⟨.elist (.datanet i), .elist (.datanet i)⟩
  epfd_open : ∀ i, w.kernel.files (w.datanetEpfd i) ≠ none
  epfd_inj : ∀ i j, w.datanetEpfd i = w.datanetEpfd j → i = j
  sets_empty : ∀ i fd, w.kernel.sets (w.datanetEpfd i) fd = none
  none_accepted : w.kernel.accepted = []

theorem ServerReady.connInv {lge : EventPtr} {w : World} (h : ServerReady lge w) :
    ConnInv lge w where
  kernel := h.kernel
  star i := ⟨fun ge ⟨ev, hev, hp⟩ => absurd ⟨hev, i, hp⟩ (h.no_conn ge ev), .inl (h.lists i)⟩
  listening := h.listening
  handler ge ev hc := absurd hc (h.no_conn ge ev)
  efd_open := h.efd_open
  efd_inj := h.efd_inj
  epfd_open := h.epfd_open
  epfd_inj := h.epfd_inj
  efd_ne_epfd := h.efd_ne_epfd
  registered i fd e he := by
    rw [h.sets_empty i fd] at he
    cases he

/-- The server after start-up, with the descriptors a new process gets: 3 and 4 are
the epoll descriptors of the core and the network poller, 5 is the listening
socket, 6 to 9 are the epoll descriptors of the datanet pollers. -/
def serverReady : World :=
  { World.boot with
    pollers := fun p => match p with
      | .core => ⟨3, true, 32, 50⟩
      | .network => ⟨4, true, 1024, 50⟩
      | .datanet i => ⟨6 + i.val, true, 1024, 50⟩
    events := Function.update World.boot.events 1
      (some ⟨5, ⟨some .gtNetworkOpsRead, none⟩, ⟨epollin, some 1⟩, .network⟩)
    nodes := fun a => match a with
      | .elist .network => some ⟨.node 1, .node 1⟩
      | .elist p => some ⟨.elist p, .elist p⟩
      | .node 1 => some ⟨.elist .network, .elist .network⟩
      | _ => none
    kernel := ((((((World.boot.kernel.openFile 3).openFile 4).openFile 5).epollCtl none 4 .add 5
      ⟨epollin, some 1⟩).2.openFile 6).openFile 7).openFile 8 |>.openFile 9 }

theorem wf_boot : World.boot.kernel.WF where
  files_lt := by
    intro fd file hf
    simp only [World.boot] at hf ⊢
    split_ifs at hf <;> simp at hf <;> omega
  files_inj := by
    intro fd fd' file hf hf'
    simp only [World.boot] at hf hf'
    split_ifs at hf hf' <;> simp at hf hf' <;> omega
  closes_open _ _ _ := rfl
  closes_fresh _ _ := rfl
  sets_open _ _ hs := absurd rfl hs

/-- The listening socket has the only event. -/
theorem events_serverReady {ge : EventPtr} {ev : GtEvent} (h : serverReady.events ge = some ev) :
    ge = 1 ∧ ev = ⟨5, ⟨some .gtNetworkOpsRead, none⟩, ⟨epollin, some 1⟩, .network⟩ := by
  by_cases hge : ge = 1
  · subst hge
    cases h
    exact ⟨rfl, rfl⟩
  · simp [serverReady, World.boot, hge] at h

theorem serverReady_ready : ServerReady 1 serverReady where
  kernel := by
    have h₅ := ((wf_boot.openFile 3 rfl).openFile 4 rfl).openFile 5 rfl
    have h := h₅.sameBut (Kernel.sameBut_epollCtl _ none 4 .add 5 ⟨epollin, some 1⟩) (by decide)
    exact (((h.openFile 6 rfl).openFile 7 rfl).openFile 8 rfl).openFile 9 rfl
  listening := ⟨_, rfl, rfl⟩
  no_conn := by
    rintro ge ev ⟨hev, i, hp⟩
    obtain ⟨rfl, rfl⟩ := events_serverReady hev
    cases hp
  efd_open := by
    intro ge ev hev
    obtain ⟨rfl, rfl⟩ := events_serverReady hev
    decide
  efd_inj := by
    intro ge ge' ev ev' hev hev' _
    rw [(events_serverReady hev).1, (events_serverReady hev').1]
  efd_ne_epfd := by
    intro ge ev i hev
    obtain ⟨rfl, rfl⟩ := events_serverReady hev
    revert i
    decide
  lists _ := rfl
  epfd_open := by decide
  epfd_inj := by decide
  sets_empty
    | 0, _ | 1, _ | 2, _ | 3, _ => rfl
  none_accepted := rfl

/-- A connection on descriptor 12, for which all calls succeed and memory is found at
address 2. -/
def connect12 : AcceptAnswers :=
  { accept := .ok 12
    sAddr := 0x0100007f
    sinPort := 0x5000
    setsockopt := none
    setfl := none
    malloc := some 2
    ctl := none }

end GuitarTea
