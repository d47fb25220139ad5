import GuitarTea.Ownership
import GuitarTea.ThreadOwnership

/-!
# A server between two calls of its handlers

`ConnInv` speaks of the datanet pollers.  The threads also serve the core poller and the
network poller, so a state in which they may go on has to be good for all pollers: the
only event of the network poller is the listening one, every event has the handler of its
poller, and whatever an epoll set holds leads to a live event of its poller.

## Main definitions

* `Serves` — the invariant.

## Main results

* `Serves.outcome`, `Serves.destroyed` — it survives both handlers.
-/

namespace GuitarTea.Threads

/-- What holds of all pollers between calls of the handlers. -/
structure Serves (lge : EventPtr) (w : World) : Prop where
  conn : ConnInv lge w
  /-- Nothing but the listening socket is on the network poller. -/
  only : ∀ ge ev, w.events ge = some ev → ev.gpoller = .network → ge = lge
  handler : ∀ ge ev, w.events ge = some ev → ev.ops.read = some (readFn ev.gpoller)
  epfd_open : ∀ p, w.kernel.files (w.pollers p).epfd ≠ none
  epfd_inj : ∀ p q, (w.pollers p).epfd = (w.pollers q).epfd → p = q
  efd_ne_epfd : ∀ ge ev p, w.events ge = some ev → ev.efd ≠ (w.pollers p).epfd
  efd_nonneg : ∀ ge ev, w.events ge = some ev → 0 ≤ ev.efd
  registered : ∀ p fd e, w.kernel.sets (w.pollers p).epfd fd = some e →
    ∃ ge ev, e.data = some ge ∧ w.events ge = some ev ∧ ev.efd = fd ∧ ev.gpoller = p

section Steps

variable {lge : EventPtr} {w w' : World} (h : Serves lge w)
include h

/-- A change of the kernel alone. -/
theorem Serves.setKernel (hconn : ConnInv lge w') (hpollers : w'.pollers = w.pollers)
    (hevents : w'.events = w.events)
    (hepfd : ∀ p, w'.kernel.files (w.pollers p).epfd ≠ none)
    (hsets : ∀ p fd e, w'.kernel.sets (w.pollers p).epfd fd = some e →
      w.kernel.sets (w.pollers p).epfd fd = some e) : Serves lge w' where
  conn := hconn
  only := hevents ▸ h.only
  handler := hevents ▸ h.handler
  epfd_open := hpollers ▸ hepfd
  epfd_inj := hpollers ▸ h.epfd_inj
  efd_ne_epfd := by
    rw [hpollers, hevents]
    exact h.efd_ne_epfd
  efd_nonneg := hevents ▸ h.efd_nonneg
  registered := by
    rw [hpollers, hevents]
    exact fun p fd e he => h.registered p fd e (hsets p fd e he)

/-- Only the pollers, the events, their cells and the kernel matter. -/
theorem Serves.congr (hpollers : w'.pollers = w.pollers) (hevents : w'.events = w.events)
    (hnodes : w'.nodes = w.nodes) (hkernel : w'.kernel = w.kernel) : Serves lge w' := by
  refine h.setKernel (h.conn.congr hpollers hevents hnodes hkernel) hpollers hevents ?_ ?_
  · exact hkernel ▸ h.epfd_open
  · rw [hkernel]
    exact fun _ _ _ he => he

/-- The epoll descriptor of a poller is not a descriptor that was free. -/
theorem Serves.epfd_ne {cfd : ℤ} (hfree : w.kernel.files cfd = none) (p : PollerId) :
    (w.pollers p).epfd ≠ cfd := by
  rintro rfl
  exact h.epfd_open p hfree

/-- A connection is accepted and closed again. -/
theorem Serves.closed {cfd : ℤ} (hfree : w.kernel.files cfd = none) (hconn : ConnInv lge w')
    (hpollers : w'.pollers = w.pollers) (hevents : w'.events = w.events)
    (hkernel : w'.kernel = (w.kernel.accept cfd).close cfd) : Serves lge w' := by
  refine h.setKernel hconn hpollers hevents ?_ ?_
  · intro p
    simpa [hkernel, h.epfd_ne hfree p] using h.epfd_open p
  · intro p fd e he
    rw [hkernel] at he
    exact (Kernel.sets_close_eq_some (by simp) he).2

/-- A connection event is created, and started or not. -/
theorem Serves.dispatched {cfd : ℤ} {ge : EventPtr} {ctl : Option Errno} (hcfd : 0 ≤ cfd)
    (hfree : w.kernel.files cfd = none) (hfresh : w.events ge = none) (hconn : ConnInv lge w')
    (hd : Dispatched cfd ge ctl { w with kernel := w.kernel.accept cfd } w') : Serves lge w' := by
  have hpollers : w'.pollers = w.pollers := hd.pollers_eq
  have hold : ∀ g e, w'.events g = some e →
      e = connEvent cfd ge ∨ g ≠ ge ∧ w.events g = some e := by
    intro g e hg
    rw [hd.events_eq] at hg
    by_cases heq : g = ge
    · left
      simpa [heq, eq_comm] using hg
    · right
      exact ⟨heq, by simpa [heq] using hg⟩
  have hother : ∀ g e, w.events g = some e → w'.events g = some e := by
    intro g e hg
    have hne : g ≠ ge := by
      rintro rfl
      simp [hfresh] at hg
    simpa [hd.events_eq, hne] using hg
  refine ⟨hconn, ?_, ?_, ?_, ?_, ?_, ?_, ?_⟩
  · intro g e hg hp
    rcases hold g e hg with rfl | ⟨-, hg⟩
    · simp [connEvent] at hp
    · exact h.only g e hg hp
  · intro g e hg
    rcases hold g e hg with rfl | ⟨-, hg⟩
    · rfl
    · exact h.handler g e hg
  · intro p
    rw [hpollers, hd.sameBut.files_eq]
    simpa [h.epfd_ne hfree p] using h.epfd_open p
  · rw [hpollers]
    exact h.epfd_inj
  · intro g e p hg
    rw [hpollers]
    rcases hold g e hg with rfl | ⟨-, hg⟩
    · exact (h.epfd_ne hfree p).symm
    · exact h.efd_ne_epfd g e p hg
  · intro g e hg
    rcases hold g e hg with rfl | ⟨-, hg⟩
    · exact hcfd
    · exact h.efd_nonneg g e hg
  · intro p fd e he
    rw [hpollers] at he
    by_cases hfd : fd = cfd
    · subst hfd
      rw [hd.kernel_eq] at he
      rcases Kernel.sets_epollCtl_eq_some he with hset | ⟨hp, rfl⟩
      · have hnone : w.kernel.sets (w.pollers p).epfd fd = none := by
          by_contra hne
          exact h.conn.kernel.sets_open _ _ hne hfree
        cases hnone.symm.trans hset
      · exact ⟨ge, connEvent fd ge, rfl, by simp [hd.events_eq], rfl, (h.epfd_inj _ _ hp).symm⟩
    · rw [hd.sameBut.sets_eq _ fd hfd] at he
      obtain ⟨g, gev, hdata, hgev, hrest⟩ := h.registered p fd e he
      exact ⟨g, gev, hdata, hother g gev hgev, hrest⟩

/-- `gt_network_ops_read`, whatever the answers. -/
theorem Serves.outcome {a : AcceptAnswers} {ret : ℤ} (hl : LegalAnswers a w)
    (hnonneg : ∀ cfd, a.accept = .ok cfd → 0 ≤ cfd) (ho : AcceptOutcome a w ret w') :
    Serves lge w' := by
  have hconn := h.conn.outcome hl ho
  cases ho with
  | none errnum _ _ hw' =>
      rcases hw' with rfl | ⟨c, rfl⟩
      · exact h
      · exact h.congr rfl rfl rfl rfl
  | closed cfd c haccept _ _ hw' =>
      subst hw'
      exact h.closed (hl.accept_free cfd haccept) hconn rfl rfl rfl
  | noMemory cfd log haccept _ _ _ hw' =>
      have hfree := hl.accept_free cfd haccept
      subst hw'
      refine h.setKernel hconn rfl rfl (fun p => ?_) fun _ _ _ he => he
      simpa [h.epfd_ne hfree p] using h.epfd_open p
  | dispatched cfd ge haccept _ hmalloc _ hd =>
      exact h.dispatched (hnonneg cfd haccept) (hl.accept_free cfd haccept)
        (hl.malloc_free ge hmalloc) hconn hd

/-- `gt_datanet_ops_read` that gives a connection up. -/
theorem Serves.destroyed {ge : EventPtr} {ev : GtEvent} (hc : w.IsConn ge ev)
    (hd : Destroyed ge ev w w') : Serves lge w' := by
  have hpollers : w'.pollers = w.pollers := hd.pollers_eq
  have hold : ∀ g e, w'.events g = some e → w.events g = some e := by
    intro g e hg
    rw [hd.events_eq] at hg
    by_cases heq : g = ge
    · simp [heq] at hg
    · simpa [heq] using hg
  have hother : ∀ g e, w.events g = some e → e.efd ≠ ev.efd → w'.events g = some e := by
    intro g e hg hefd
    have hne : g ≠ ge := by
      rintro rfl
      exact hefd (congrArg GtEvent.efd (Option.some.inj (hg.symm.trans hc.1)))
    simpa [hd.events_eq, hne] using hg
  refine ⟨h.conn.destroyed hc hd, fun g e hg => h.only g e (hold g e hg),
    fun g e hg => h.handler g e (hold g e hg), ?_, ?_, ?_,
    fun g e hg => h.efd_nonneg g e (hold g e hg), ?_⟩
  · intro p
    rw [hpollers, hd.kernel_agrees.files_eq]
    simpa [(h.efd_ne_epfd ge ev p hc.1).symm] using h.epfd_open p
  · rw [hpollers]
    exact h.epfd_inj
  · intro g e p hg
    rw [hpollers]
    exact h.efd_ne_epfd g e p (hold g e hg)
  · intro p fd e he
    rw [hpollers, hd.kernel_agrees.sets_eq] at he
    obtain ⟨hfd, hset⟩ := Kernel.sets_close_eq_some (h.conn.efd_open ge ev hc.1) he
    obtain ⟨g, gev, hdata, hgev, hefd, hp⟩ := h.registered p fd e hset
    exact ⟨g, gev, hdata, hother g gev hgev (hefd ▸ hfd), hefd, hp⟩

end Steps

/-- The server after start-up. -/
theorem serves_serverReady : Serves 1 serverReady where
  conn := serverReady_ready.connInv
  only ge ev hev _ := (events_serverReady hev).1
  handler := by
    intro ge ev hev
    obtain ⟨rfl, rfl⟩ := events_serverReady hev
    rfl
  epfd_open := by
    intro p
    cases p with
    | core => decide
    | network => decide
    | datanet i => exact serverReady_ready.epfd_open i
  epfd_inj := by
    intro p q hpq
    cases p <;> cases q <;> simp [serverReady] at hpq ⊢ <;> omega
  efd_ne_epfd := by
    intro ge ev p hev
    obtain ⟨rfl, rfl⟩ := events_serverReady hev
    cases p with
    | core => decide
    | network => decide
    | datanet i => exact serverReady_ready.efd_ne_epfd 1 _ i hev
  efd_nonneg := by
    intro ge ev hev
    obtain ⟨rfl, rfl⟩ := events_serverReady hev
    decide
  registered := by
    intro p fd e he
    cases p with
    | core => cases he
    | network =>
        by_cases hfd : fd = 5
        · subst hfd
          obtain rfl : e = ⟨epollin, some 1⟩ := (Option.some.inj he).symm
          exact ⟨1, _, rfl, rfl, rfl, rfl⟩
        · change ((((World.boot.kernel.openFile 3).openFile 4).openFile 5).epollCtl none 4 .add 5
            ⟨epollin, some 1⟩).2.sets 4 fd = some e at he
          rw [Kernel.sets_epollCtl_of_ne _ _ _ _ _ _ hfd] at he
          cases he
    | datanet i =>
        have hnone := serverReady_ready.sets_empty i fd
        cases hnone.symm.trans he

end GuitarTea.Threads
